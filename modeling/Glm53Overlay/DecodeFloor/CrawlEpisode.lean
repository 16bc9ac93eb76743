import Glm53Overlay.DecodeFloor.CrawlSteps

/-!
Crawl episodes over whole traces of one request, wherever its dict lives. An episode runs
from one detected rollback to the next; the clock does not go back.
-/
namespace DecodeFloorGate
open ReplayMachine

def heldState (w : World) (r : Request) : Option GateState := (gateState w r).2

def OnRequest (r : Request) (c : Call) : Prop :=
  c.current.ident = r.ident ∧ c.current.requestId = r.requestId

instance (r : Request) (c : Call) : Decidable (OnRequest r c) := by
  unfold OnRequest
  infer_instance

def RollsBack (found : Option GateState) (c : Call) : Prop :=
  0 < c.remaining ∧
    ∃ st last, found = some st ∧ st.lastComputed = some last ∧ c.computed < last

def Capped (cfg : GateConfig) (chunk : Option String) (w : World) (c : Call) : Prop :=
  mixedPrefillPolicy chunk c.running c.current = some 0 ∧
    ∃ verdict, 0 < verdict ∧ (mixedPrefillGate cfg chunk w c).2.1 = some verdict

theorem held_state_on {r : Request} {c : Call} (own : OnRequest r c) (w : World) :
    heldState w r = heldState w c.current := by
  unfold heldState gateState fallbackGet
  rw [own.1, own.2]

theorem held_after_set (w : World) (r : Request) (st : GateState) :
    heldState (setAttr w r st) r = some st := by
  simp [heldState, gateState, setAttr]

theorem held_after_put {w : World} {r : Request} (bare : w.attrs r.ident = none)
    (st : GateState) : heldState (fallbackPut w r st) r = some st := by
  simp [heldState, gateState, fallbackPut, fallbackGet, bare]

theorem held_after_create {w : World} {r : Request} (bare : w.attrs r.ident = none)
    (st : GateState) : heldState (createState w r st) r = some st := by
  unfold createState
  split
  · exact held_after_set w r st
  · exact held_after_put bare st

theorem held_after_save (w : World) (r : Request) (after : Option GateState)
    (kept : heldState w r ≠ none → after ≠ none) :
    heldState (saveState (gateState w r).1 r (gateState w r).2 after) r = after := by
  unfold heldState at kept
  cases attr : w.attrs r.ident with
  | some st =>
    have looked : gateState w r = (w, some st) := by
      unfold gateState
      rw [attr]
    rw [looked] at kept ⊢
    cases after with
    | none => exact absurd rfl (kept (by simp))
    | some st' =>
      simp only [saveState, updateState, attr]
      exact held_after_set w r st'
  | none =>
    have looked : gateState w r = fallbackGet w r := by
      unfold gateState
      rw [attr]
    rw [looked] at kept ⊢
    unfold fallbackGet at kept ⊢
    cases store : w.fallback with
    | none =>
      cases after with
      | none => simp [saveState, heldState, gateState, fallbackGet, attr, store]
      | some st' => exact held_after_create attr st'
    | some m =>
      rw [store] at kept
      dsimp only at kept ⊢
      cases entry : m.get r.ident with
      | none =>
        cases after with
        | none => simp [saveState, heldState, gateState, fallbackGet, attr, store, entry]
        | some st' => exact held_after_create attr st'
      | some pair =>
        rw [entry] at kept
        dsimp only at kept ⊢
        by_cases same : pair.1 = r.requestId
        · rw [if_pos same] at kept ⊢
          cases after with
          | none => exact absurd rfl (kept (by simp))
          | some st' =>
            simp [saveState, updateState, heldState, gateState, fallbackGet, attr, store]
        · rw [if_neg same] at kept ⊢
          cases after with
          | none => simp [saveState, heldState, gateState, fallbackGet, attr, PyDict.get_pop]
          | some st' =>
            have popped : (World.mk w.attrs (some (m.pop r.ident))).attrs r.ident = none := attr
            exact held_after_create popped st'

theorem held_after_gate {r : Request} {c : Call} (own : OnRequest r c) (cfg : GateConfig)
    (chunk : Option String) (w : World) (work : 0 < c.remaining) :
    heldState (mixedPrefillGate cfg chunk w c).1 r =
      (gateBody cfg c.now (mixedPrefillPolicy chunk c.running c.current) c.remaining c.computed
        (heldState w r)).state := by
  have busy : ¬ c.remaining ≤ 0 := by omega
  rw [held_state_on own, held_state_on own w]
  unfold mixedPrefillGate
  rw [if_neg busy]
  apply held_after_save
  intro present
  obtain ⟨st, found⟩ := Option.ne_none_iff_exists'.mp present
  have found' : (gateState w c.current).2 = some st := found
  rw [found']
  exact body_state_some cfg _ _ _ _ st

theorem gate_idle {c : Call} (cfg : GateConfig) (chunk : Option String)
    (w : World) (idle : c.remaining ≤ 0) : mixedPrefillGate cfg chunk w c = (w, none, []) := by
  unfold mixedPrefillGate
  rw [if_pos idle]

section Trace
variable {cfg : GateConfig} {chunk : Option String} {r : Request}

def HeldInv (cfg : GateConfig) (t : ℚ) (w : World) (r : Request) : Prop :=
  ∀ st, heldState w r = some st → CrawlInv cfg t st

theorem gate_held_inv {w : World} {c : Call} (own : OnRequest r c)
    (inv : HeldInv cfg c.now w r) : HeldInv cfg c.now (mixedPrefillGate cfg chunk w c).1 r := by
  by_cases work : 0 < c.remaining
  · intro st held
    rw [held_after_gate own cfg chunk w work] at held
    exact body_crawl_inv _ _ _ inv st held
  · rw [gate_idle cfg chunk w (by omega)]
    exact inv

theorem run_held_inv (calls : List Call) : ∀ {w : World} {t : ℚ}, HeldInv cfg t w r →
    (∀ c ∈ calls, OnRequest r c ∧ t ≤ c.now) →
    calls.Pairwise (fun a b => a.now ≤ b.now) → ∀ {limit : ℚ}, t ≤ limit →
    (∀ c ∈ calls, c.now ≤ limit) →
    HeldInv cfg limit (final (mixedPrefillGate cfg chunk) w calls) r := by
  induction calls with
  | nil =>
    intro w t inv _ _ limit clock _ st held
    exact (inv st held).later clock
  | cons c rest ih =>
    intro w t inv own clock limit _ bound
    obtain ⟨on, after⟩ := own c List.mem_cons_self
    have arrived : HeldInv cfg c.now w r := fun st held => (inv st held).later after
    have step : HeldInv cfg c.now (mixedPrefillGate cfg chunk w c).1 r := gate_held_inv on arrived
    apply ih step ?_ clock.of_cons (bound c List.mem_cons_self)
    · intro later member
      exact bound later (List.mem_cons_of_mem _ member)
    · intro later member
      exact ⟨(own later (List.mem_cons_of_mem _ member)).1, List.rel_of_pairwise_cons clock member⟩

theorem working_state_kept {found : Option GateState} {c : Call} (work : 0 < c.remaining)
    (steady : ¬ RollsBack found c) {st : GateState} (held : found = some st) :
    workingState c.computed found = { st with lastComputed := some c.computed } := by
  subst held
  unfold workingState noteComputed
  dsimp only [Option.map_some, Option.getD_some]
  cases last : st.lastComputed with
  | none => rfl
  | some count =>
    dsimp only
    have grows : ¬ c.computed < count :=
      fun less => steady ⟨work, st, count, rfl, last, less⟩
    rw [if_neg grows]

theorem working_state_reset {found : Option GateState} {c : Call} (rolls : RollsBack found c) :
    ∃ st, found = some st ∧ workingState c.computed found =
      { st with
        lateAt := none, cap := none, done := false, lastComputed := some c.computed,
        cappedAt := none, cappedS := none } := by
  obtain ⟨_, st, count, rfl, last, less⟩ := rolls
  refine ⟨st, rfl, ?_⟩
  unfold workingState noteComputed
  dsimp only [Option.map_some, Option.getD_some]
  rw [last]
  dsimp only
  rw [if_pos less]

def capIn (found : Option GateState) : Option Int := found.bind GateState.cap

/-- 1 once the episode has printed its late-done line. -/
def doneIn (found : Option GateState) : Nat := (found.map fun st => st.done.toNat).getD 0

theorem gate_cap_grows {w : World} {c : Call} (own : OnRequest r c)
    (inv : HeldInv cfg c.now w r) (steady : ¬ RollsBack (heldState w r) c) {cap : Int}
    (before : capIn (heldState w r) = some cap) :
    ∃ after, capIn (heldState (mixedPrefillGate cfg chunk w c).1 r) = some after ∧
      cap ≤ after := by
  by_cases work : 0 < c.remaining
  · rw [held_after_gate own cfg chunk w work]
    obtain ⟨st, held, capped⟩ := Option.bind_eq_some_iff.mp before
    have working : (workingState c.computed (heldState w r)).cap = some cap := by
      rw [working_state_kept work steady held]
      exact capped
    obtain ⟨st', after, state, cap', grows⟩ := body_cap_grows
      (mixedPrefillPolicy chunk c.running c.current) c.remaining c.computed
      (working_state_inv c.computed inv) working
    refine ⟨after, ?_, grows⟩
    rw [state]
    exact cap'
  · rw [gate_idle cfg chunk w (by omega)]
    exact ⟨cap, before, le_refl cap⟩

theorem gate_log {w : World} {c : Call} (own : OnRequest r c) (work : 0 < c.remaining) :
    (mixedPrefillGate cfg chunk w c).2.2 = (gateBody cfg c.now
      (mixedPrefillPolicy chunk c.running c.current) c.remaining c.computed
      (heldState w r)).log := by
  have busy : ¬ c.remaining ≤ 0 := by omega
  rw [held_state_on own]
  unfold mixedPrefillGate
  rw [if_neg busy]
  rfl

theorem gate_dones_working {w : World} {c : Call} (own : OnRequest r c)
    (work : 0 < c.remaining) :
    lateDones (mixedPrefillGate cfg chunk w c).2.2 +
        (workingState c.computed (heldState w r)).done.toNat =
      doneIn (heldState (mixedPrefillGate cfg chunk w c).1 r) := by
  rw [held_after_gate own cfg chunk w work, gate_log own work]
  rcases body_dones cfg c.now (mixedPrefillPolicy chunk c.running c.current) c.remaining
      c.computed (heldState w r) with ⟨fresh, state, quiet⟩ | ⟨st, state, sum⟩
  · rw [quiet, state, fresh]
    rfl
  · rw [state]
    exact sum

theorem gate_dones_steady {w : World} {c : Call} (own : OnRequest r c)
    (steady : ¬ RollsBack (heldState w r) c) :
    lateDones (mixedPrefillGate cfg chunk w c).2.2 + doneIn (heldState w r) =
      doneIn (heldState (mixedPrefillGate cfg chunk w c).1 r) := by
  by_cases work : 0 < c.remaining
  · rw [← gate_dones_working own work]
    cases held : heldState w r with
    | none => rfl
    | some st =>
      have kept := working_state_kept work steady held
      rw [held] at kept
      rw [kept]
      rfl
  · rw [gate_idle cfg chunk w (by omega)]
    exact Nat.zero_add _

theorem gate_dones_le {w : World} {c : Call} (own : OnRequest r c) :
    lateDones (mixedPrefillGate cfg chunk w c).2.2 ≤
      doneIn (heldState (mixedPrefillGate cfg chunk w c).1 r) := by
  by_cases work : 0 < c.remaining
  · rw [← gate_dones_working own work]
    exact Nat.le_add_right _ _
  · rw [gate_idle cfg chunk w (by omega)]
    exact Nat.zero_le _

theorem done_le_one (found : Option GateState) : doneIn found ≤ 1 := by
  cases found with
  | none => exact Nat.zero_le 1
  | some st =>
    show st.done.toNat ≤ 1
    cases st.done with
    | false => exact Nat.zero_le 1
    | true => exact le_refl 1

def Steady (cfg : GateConfig) (chunk : Option String) (r : Request) : World → List Call → Prop :=
  Throughout (mixedPrefillGate cfg chunk) fun w c => ¬ RollsBack (heldState w r) c

def printed (cfg : GateConfig) (chunk : Option String) (w : World) (calls : List Call) :
    List GateLog :=
  (outputs (mixedPrefillGate cfg chunk) w calls).flatMap Prod.snd

theorem printed_dones (w : World) (c : Call) (rest : List Call) :
    lateDones (printed cfg chunk w (c :: rest)) =
      lateDones (mixedPrefillGate cfg chunk w c).2.2 +
        lateDones (printed cfg chunk (mixedPrefillGate cfg chunk w c).1 rest) := by
  unfold printed lateDones
  rw [outputs_cons, List.flatMap_cons, List.countP_append]

theorem run_dones (calls : List Call) : ∀ {w : World}, (∀ c ∈ calls, OnRequest r c) →
    Steady cfg chunk r w calls →
    lateDones (printed cfg chunk w calls) + doneIn (heldState w r) =
      doneIn (heldState (final (mixedPrefillGate cfg chunk) w calls) r) := by
  induction calls with
  | nil =>
    intro w _ _
    exact Nat.zero_add _
  | cons c rest ih =>
    intro w own steady
    have step : lateDones (mixedPrefillGate cfg chunk w c).2.2 + doneIn (heldState w r) =
        doneIn (heldState (mixedPrefillGate cfg chunk w c).1 r) :=
      gate_dones_steady (own c List.mem_cons_self) steady.1
    have later := ih (fun d member => own d (List.mem_cons_of_mem _ member)) steady.2
    rw [printed_dones, final_cons]
    omega

theorem run_cap_grows (calls : List Call) : ∀ {w : World} {t : ℚ} {cap : Int},
    HeldInv cfg t w r → (∀ c ∈ calls, OnRequest r c ∧ t ≤ c.now) →
    calls.Pairwise (fun a b => a.now ≤ b.now) → Steady cfg chunk r w calls →
    capIn (heldState w r) = some cap →
    ∃ after, capIn (heldState (final (mixedPrefillGate cfg chunk) w calls) r) = some after ∧
      cap ≤ after := by
  induction calls with
  | nil =>
    intro w t cap _ _ _ _ before
    exact ⟨cap, before, le_refl cap⟩
  | cons c rest ih =>
    intro w t cap inv own clock steady before
    obtain ⟨on, after⟩ := own c List.mem_cons_self
    have arrived : HeldInv cfg c.now w r := fun st held => (inv st held).later after
    obtain ⟨next, capped, grows⟩ : ∃ next,
        capIn (heldState (mixedPrefillGate cfg chunk w c).1 r) = some next ∧ cap ≤ next :=
      gate_cap_grows on arrived steady.1 before
    have later : ∀ d ∈ rest, OnRequest r d ∧ c.now ≤ d.now := by
      intro d member
      exact ⟨(own d (List.mem_cons_of_mem _ member)).1, List.rel_of_pairwise_cons clock member⟩
    obtain ⟨last, reached, more⟩ := ih (gate_held_inv on arrived) later clock.of_cons steady.2
      capped
    exact ⟨last, reached, le_trans grows more⟩

/-- A capped call leaves the cap of its own time, counted from the episode's admission, which
    is this call when the dict found had none or a rollback was detected. -/
theorem capped_state {w : World} {c : Call} (own : OnRequest r c)
    (capped : Capped cfg chunk w c) :
    ∃ st since, heldState (mixedPrefillGate cfg chunk w c).1 r = some st ∧
      st.lateAt = some since ∧ st.cap = some (escalatedCap cfg c.now since) ∧
      since = (workingState c.computed (heldState w r)).lateAt.getD c.now := by
  obtain ⟨skips, verdict, positive, answer⟩ := capped
  by_cases work : 0 < c.remaining
  · have busy : ¬ c.remaining ≤ 0 := by omega
    have body : (gateBody cfg c.now (mixedPrefillPolicy chunk c.running c.current) c.remaining
        c.computed (heldState w r)).verdict = some verdict := by
      rw [← answer, held_state_on own]
      unfold mixedPrefillGate
      rw [if_neg busy]
      rfl
    have loud : ¬ Quiet (some 0) (gateBody cfg c.now
        (mixedPrefillPolicy chunk c.running c.current) c.remaining c.computed
        (heldState w r)) := by
      rintro ⟨_, silent | same⟩
      · rw [silent] at body
        exact absurd body (by simp)
      · rw [same] at body
        have zero := Option.some.inj body
        omega
    rw [held_after_gate own cfg chunk w work]
    rw [skips] at body loud ⊢
    rcases body_cases cfg c.now (some 0) c.remaining c.computed (heldState w r) with
      ⟨_, _, quiet⟩ | ⟨_, quiet⟩ | ⟨_, quiet⟩ | ⟨_, _, silent⟩ | ⟨_, quiet⟩ | ⟨waitedMs, same⟩
    · exact absurd quiet loud
    · exact absurd quiet loud
    · exact absurd quiet loud
    · rw [silent] at body
      exact absurd body (by simp)
    · exact absurd quiet loud
    · rw [same, late_crawl_state]
      refine ⟨_, _, rfl, ?_, ?_, rfl⟩
      · rw [set_capped_late_at]
        rfl
      · rw [set_capped_cap]
        rfl
  · rw [gate_idle cfg chunk w (by omega)] at answer
    exact absurd answer (by simp)

def AtBase (cfg : GateConfig) (now : ℚ) (st : GateState) : Prop :=
  st.lateAt = none ∧ st.cap = none ∨ st.lateAt = some now ∧ st.cap = some cfg.lateCap

theorem body_at_base (now : ℚ) (policy : Option Int) (remaining computed : Int)
    {found : Option GateState} (early : (workingState computed found).lateAt = none)
    (bare : (workingState computed found).cap = none) {st : GateState}
    (after : (gateBody cfg now policy remaining computed found).state = some st) :
    AtBase cfg now st := by
  have working : AtBase cfg now (workingState computed found) := Or.inl ⟨early, bare⟩
  rcases body_cases cfg now policy remaining computed found with
    ⟨_, state, _⟩ | ⟨state, _⟩ | ⟨state, _⟩ | ⟨state, _, _⟩ | ⟨state, _⟩ | ⟨waitedMs, same⟩
  · rw [state] at after
    exact absurd after (by simp)
  · rw [state] at after
    exact Option.some.inj after ▸ working
  · rw [state, set_capped_idle false early] at after
    exact Option.some.inj after ▸ working
  · have quiet : finishCrawl now (workingState computed found) = (workingState computed found, []) := by
      unfold finishCrawl
      rw [early]
    rw [state, quiet] at after
    exact Option.some.inj after ▸ working
  · rw [state] at after
    exact Option.some.inj after ▸ working
  · rw [same, late_crawl_state] at after
    obtain rfl := Option.some.inj after
    have late : (stampFirstSeen now (workingState computed found)).lateAt = none := early
    right
    rw [set_capped_late_at, set_capped_cap, late]
    exact ⟨rfl, by rw [Option.getD_none, escalated_cap_start]⟩

theorem rollback_state {w : World} {c : Call} (own : OnRequest r c)
    (rolls : RollsBack (heldState w r) c) :
    ∃ before after, heldState w r = some before ∧
      heldState (mixedPrefillGate cfg chunk w c).1 r = some after ∧
      (∀ f, before.firstSeen = some f → after.firstSeen = some f) ∧ AtBase cfg c.now after := by
  obtain ⟨before, held, reset⟩ := working_state_reset rolls
  have some := body_state_some cfg c.now (mixedPrefillPolicy chunk c.running c.current)
    c.remaining c.computed before
  obtain ⟨after, state⟩ := Option.ne_none_iff_exists'.mp some
  refine ⟨before, after, held, ?_, ?_, ?_⟩
  · rw [held_after_gate own cfg chunk w rolls.1, held]
    exact state
  · intro f stamped
    have kept := body_first_seen_kept cfg c.now (mixedPrefillPolicy chunk c.running c.current)
      c.remaining c.computed (Option.some before) f (policy_cases chunk _ _) stamped
    rw [state] at kept
    exact kept
  · rw [← held] at state
    exact body_at_base c.now _ _ _ (by rw [reset]) (by rw [reset]) state

theorem first_cap_is_base {w : World} {c : Call} (own : OnRequest r c)
    (inv : HeldInv cfg c.now w r) (bare : capIn (heldState w r) = none) {cap : Int}
    (after : capIn (heldState (mixedPrefillGate cfg chunk w c).1 r) = some cap) :
    cap = cfg.lateCap := by
  by_cases work : 0 < c.remaining
  · have working := working_state_inv c.computed inv
    have empty : (workingState c.computed (heldState w r)).cap = none := by
      by_cases rolls : RollsBack (heldState w r) c
      · obtain ⟨_, _, reset⟩ := working_state_reset rolls
        rw [reset]
      · cases held : heldState w r with
        | none => rfl
        | some st =>
          have kept := working_state_kept work rolls held
          rw [held] at kept bare
          rw [kept]
          exact bare
    have early : (workingState c.computed (heldState w r)).lateAt = none := by
      cases late : (workingState c.computed (heldState w r)).lateAt with
      | none => rfl
      | some since =>
        obtain ⟨_, _, _, capped⟩ := working.aged since late
        rw [empty] at capped
        exact absurd capped (by simp)
    rw [held_after_gate own cfg chunk w work] at after
    obtain ⟨st, state, capped⟩ := Option.bind_eq_some_iff.mp after
    rcases body_at_base c.now _ _ _ early empty state with ⟨_, missing⟩ | ⟨_, base⟩
    · rw [missing] at capped
      exact absurd capped (by simp)
    · rw [base] at capped
      exact (Option.some.inj capped).symm
  · rw [gate_idle cfg chunk w (by omega), bare] at after
    exact absurd after (by simp)

theorem escalated_cap_formula (cfg : GateConfig) {now since : ℚ} (order : since ≤ now) :
    escalatedCap cfg now since = if cfg.escalateMs = 0 then cfg.lateCap else
      min cfg.lateCapMax (cfg.lateCap * 2 ^ min ⌊(now - since) * 1000 / cfg.escalateMs⌋₊ 8) := by
  have period := cfg.escalate_range.1
  unfold escalatedCap
  by_cases flat : cfg.escalateMs = 0
  · rw [if_pos flat, if_neg (by omega)]
  · have ages : (0 : ℚ) ≤ cfg.escalateMs := by exact_mod_cast period
    have whole : 0 ≤ (now - since) * 1000 / cfg.escalateMs :=
      div_nonneg (by linarith) ages
    rw [if_neg flat, if_pos (by omega)]
    have same := Int.natCast_floor_eq_floor whole
    have shift : (min ⌊(now - since) * 1000 / cfg.escalateMs⌋ 8).toNat =
        min ⌊(now - since) * 1000 / cfg.escalateMs⌋₊ 8 := by omega
    dsimp only
    rw [shift]

end Trace

/-- The crawl bookkeeping of one request over any trace of gate calls, cut at a call `c`. Within
    an episode the cap grows and the late-done line is printed once; a capped call stores the cap
    of its time; a rollback goes back to the base cap and keeps the hold age; and the capped
    intervals fit in the episode at every call. -/
theorem crawl_bookkeeping (cfg : GateConfig) (chunk : Option String) (r : Request) (w : World)
    (unseen : heldState w r = none) (past rest : List Call) (c : Call)
    (own : ∀ d ∈ past ++ c :: rest, OnRequest r d)
    (clock : (past ++ c :: rest).Pairwise fun a b => a.now ≤ b.now) :
    let before := final (mixedPrefillGate cfg chunk) w past
    let after := (mixedPrefillGate cfg chunk before c).1
    (Steady cfg chunk r after rest →
      (∀ cap, capIn (heldState after r) = some cap →
        ∃ last, capIn (heldState (final (mixedPrefillGate cfg chunk) after rest) r) = some last ∧
          cap ≤ last) ∧
      lateDones (printed cfg chunk before (c :: rest)) ≤ 1) ∧
    (Capped cfg chunk before c → ∃ st since, heldState after r = some st ∧
      st.lateAt = some since ∧
      st.cap = some (if cfg.escalateMs = 0 then cfg.lateCap else
        min cfg.lateCapMax
          (cfg.lateCap * 2 ^ min ⌊(c.now - since) * 1000 / cfg.escalateMs⌋₊ 8))) ∧
    (RollsBack (heldState before r) c → ∃ st st', heldState before r = some st ∧
      heldState after r = some st' ∧ (∀ f, st.firstSeen = some f → st'.firstSeen = some f) ∧
      AtBase cfg c.now st') ∧
    (capIn (heldState before r) = none → ∀ cap, capIn (heldState after r) = some cap →
      cap = cfg.lateCap) ∧
    ∀ st, heldState before r = some st ∨ heldState after r = some st →
      (st.cappedAt ≠ none → st.lateAt ≠ none) ∧
      ∀ since, st.lateAt = some since →
        0 ≤ st.cappedTime c.now ∧ st.cappedTime c.now ≤ c.now - since := by
  intro before after
  obtain ⟨early, late, across⟩ := List.pairwise_append.mp clock
  have mine : OnRequest r c := own c (by simp)
  have first : ∀ t, HeldInv cfg t w r := by
    intro t st held
    rw [unseen] at held
    exact absurd held (by simp)
  have reached : HeldInv cfg c.now before r := by
    have final' : ∀ d ∈ past, d.now ≤ c.now :=
      fun d member => across d member c List.mem_cons_self
    cases past with
    | nil => exact first c.now
    | cons d more =>
      apply run_held_inv (d :: more) (first d.now) ?_ early (final' d List.mem_cons_self) final'
      intro e member
      refine ⟨own e (List.mem_append_left _ member), ?_⟩
      rcases List.mem_cons.mp member with rfl | old
      · exact le_refl _
      · exact List.rel_of_pairwise_cons early old
  have stepped : HeldInv cfg c.now after r := gate_held_inv mine reached
  have later : ∀ d ∈ rest, OnRequest r d ∧ c.now ≤ d.now := by
    intro d member
    exact ⟨own d (List.mem_append_right _ (List.mem_cons_of_mem _ member)),
      List.rel_of_pairwise_cons late member⟩
  refine ⟨?episode, ?capped, ?rollback, ?base, ?time⟩
  case episode =>
    intro steady
    constructor
    · intro cap held
      exact run_cap_grows rest stepped later late.of_cons steady held
    · have line : lateDones (mixedPrefillGate cfg chunk before c).2.2 ≤
          doneIn (heldState after r) := gate_dones_le mine
      have lines := run_dones rest (fun d member => (later d member).1) steady
      have once := done_le_one (heldState (final (mixedPrefillGate cfg chunk) after rest) r)
      rw [printed_dones]
      change _ + lateDones (printed cfg chunk after rest) ≤ 1
      omega
  case capped =>
    intro capped
    obtain ⟨st, since, held, admitted, cap, _⟩ := capped_state mine capped
    obtain ⟨u, started, seen, _⟩ := (stepped st held).aged since admitted
    refine ⟨st, since, held, admitted, ?_⟩
    rw [cap, escalated_cap_formula cfg (le_trans started seen)]
  case rollback =>
    intro rolls
    exact rollback_state mine rolls
  case base =>
    intro bare cap held
    exact first_cap_is_base mine reached bare held
  case time =>
    intro st held
    have inv : CrawlInv cfg c.now st := by
      rcases held with found | left
      · exact reached st found
      · exact stepped st left
    refine ⟨inv.late_of_capped, ?_⟩
    intro since admitted
    exact ⟨inv.time_nonneg, inv.inside since admitted⟩

/-- The cold read doubles its cap a second after its late admission. -/
theorem crawl_bookkeeping_cold_trace :
    let cfg := gateConfig ⟨none, none, none, some "1000", none⟩
    let before := final (mixedPrefillGate cfg none) World.empty (coldTrace.take 2)
    let third : Call := ⟨3, [decodingPeer], coldRequest, 512⟩
    ∃ st since, heldState (mixedPrefillGate cfg none before third).1 coldRequest = some st ∧
      st.lateAt = some since ∧
      st.cap = some (if cfg.escalateMs = 0 then cfg.lateCap else
        min cfg.lateCapMax
          (cfg.lateCap * 2 ^ min ⌊(third.now - since) * 1000 / cfg.escalateMs⌋₊ 8)) := by
  intro cfg before third
  have sound := crawl_bookkeeping cfg none coldRequest World.empty rfl (coldTrace.take 2) [] third
    (by decide) (by norm_num [coldTrace, third])
  exact sound.2.1 ⟨by decide, 1024, by decide, by decide +kernel⟩

end DecodeFloorGate
