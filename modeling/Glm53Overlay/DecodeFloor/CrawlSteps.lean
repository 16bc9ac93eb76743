import Glm53Overlay.DecodeFloor.GateSteps

/-!
What one gate call does to the crawl fields. An episode starts with the late admission; its
cap follows the clock and its capped intervals lie one after another inside it.
-/
namespace DecodeFloorGate

@[simp] theorem set_capped_late_at (now : ℚ) (active : Bool) (st : GateState) :
    (setCapped now active st).lateAt = st.lateAt := by
  unfold setCapped
  split
  · rfl
  · split
    · split <;> rfl
    · split <;> rfl

@[simp] theorem set_capped_cap (now : ℚ) (active : Bool) (st : GateState) :
    (setCapped now active st).cap = st.cap := by
  unfold setCapped
  split
  · rfl
  · split
    · split <;> rfl
    · split <;> rfl

@[simp] theorem set_capped_done (now : ℚ) (active : Bool) (st : GateState) :
    (setCapped now active st).done = st.done := by
  unfold setCapped
  split
  · rfl
  · split
    · split <;> rfl
    · split <;> rfl

/-- Time spent under a late cap: the closed intervals and the open one. -/
def GateState.cappedTime (st : GateState) (t : ℚ) : ℚ :=
  st.cappedS.getD 0 + match st.cappedAt with
    | some since => t - since
    | none => 0

theorem capped_time_set_capped {now : ℚ} (active : Bool) {st : GateState}
    (past : ∀ since, st.cappedAt = some since → since ≤ now) :
    (setCapped now active st).cappedTime now = st.cappedTime now := by
  unfold setCapped
  by_cases early : st.lateAt = none
  · rw [if_pos early]
  rw [if_neg early]
  cases opened : st.cappedAt with
  | none => cases active <;> simp [GateState.cappedTime, opened]
  | some since =>
    cases active with
    | true => simp [GateState.cappedTime, opened]
    | false =>
      have order := past since opened
      have length : max (now - since) 0 = now - since := max_eq_left (by linarith)
      simp [GateState.cappedTime, opened, length]

structure CrawlInv (cfg : GateConfig) (t : ℚ) (st : GateState) : Prop where
  idle : st.lateAt = none →
    st.cap = none ∧ st.done = false ∧ st.cappedAt = none ∧ st.cappedS = none
  aged : ∀ since, st.lateAt = some since →
    ∃ u, since ≤ u ∧ u ≤ t ∧ st.cap = some (escalatedCap cfg u since)
  spent : 0 ≤ st.cappedS.getD 0
  opened : ∀ since, st.cappedAt = some since → since ≤ t
  inside : ∀ since, st.lateAt = some since → st.cappedTime t ≤ t - since

theorem CrawlInv.later {cfg : GateConfig} {t now : ℚ} {st : GateState} (inv : CrawlInv cfg t st)
    (clock : t ≤ now) : CrawlInv cfg now st where
  idle := inv.idle
  aged := by
    intro since late
    obtain ⟨u, started, seen, cap⟩ := inv.aged since late
    exact ⟨u, started, le_trans seen clock, cap⟩
  spent := inv.spent
  opened := by
    intro since capped
    exact le_trans (inv.opened since capped) clock
  inside := by
    intro since late
    have bound := inv.inside since late
    unfold GateState.cappedTime at bound ⊢
    cases capped : st.cappedAt with
    | none =>
      rw [capped] at bound
      dsimp only at bound ⊢
      linarith
    | some start =>
      rw [capped] at bound
      dsimp only at bound ⊢
      linarith

theorem CrawlInv.time_nonneg {cfg : GateConfig} {t : ℚ} {st : GateState}
    (inv : CrawlInv cfg t st) : 0 ≤ st.cappedTime t := by
  have spent := inv.spent
  unfold GateState.cappedTime
  cases capped : st.cappedAt with
  | none =>
    dsimp only
    linarith
  | some start =>
    have order := inv.opened start capped
    dsimp only
    linarith

theorem CrawlInv.late_of_capped {cfg : GateConfig} {t : ℚ} {st : GateState}
    (inv : CrawlInv cfg t st) (capped : st.cappedAt ≠ none) : st.lateAt ≠ none := by
  intro early
  exact capped (inv.idle early).2.2.1

theorem fresh_crawl_inv (cfg : GateConfig) (now : ℚ) (last : Option Int) :
    CrawlInv cfg now { GateState.fresh with lastComputed := last } where
  idle := by simp [GateState.fresh]
  aged := by simp [GateState.fresh]
  spent := by simp [GateState.fresh]
  opened := by simp [GateState.fresh]
  inside := by simp [GateState.fresh]

theorem set_capped_spent {now : ℚ} (active : Bool) {st : GateState}
    (spent : 0 ≤ st.cappedS.getD 0) : 0 ≤ (setCapped now active st).cappedS.getD 0 := by
  unfold setCapped
  split
  · exact spent
  split
  · split
    · exact spent
    · exact spent
  · split
    · exact spent
    · rename_i since _
      have grown : 0 ≤ max (now - since) (0 : ℚ) := le_max_right _ _
      exact add_nonneg spent grown

theorem set_capped_opened {now : ℚ} (active : Bool) {st : GateState}
    (opened : ∀ since, st.cappedAt = some since → since ≤ now) :
    ∀ since, (setCapped now active st).cappedAt = some since → since ≤ now := by
  intro since capped
  unfold setCapped at capped
  split at capped
  · exact opened since capped
  split at capped
  · split at capped
    · exact le_of_eq (Option.some.inj capped).symm
    · exact opened since capped
  · split at capped
    · exact opened since capped
    · exact absurd capped (by simp)

theorem set_capped_idle {now : ℚ} (active : Bool) {st : GateState} (early : st.lateAt = none) :
    setCapped now active st = st := if_pos early

theorem CrawlInv.set_capped {cfg : GateConfig} {now : ℚ} {st : GateState}
    (inv : CrawlInv cfg now st) (active : Bool) : CrawlInv cfg now (setCapped now active st) where
  idle := by
    intro early
    rw [set_capped_late_at] at early
    rw [set_capped_idle active early]
    exact inv.idle early
  aged := by
    intro since late
    rw [set_capped_late_at] at late
    rw [set_capped_cap]
    exact inv.aged since late
  spent := set_capped_spent active inv.spent
  opened := set_capped_opened active inv.opened
  inside := by
    intro since late
    rw [set_capped_late_at] at late
    rw [capped_time_set_capped active inv.opened]
    exact inv.inside since late

theorem CrawlInv.stamp {cfg : GateConfig} {now : ℚ} {st : GateState} (inv : CrawlInv cfg now st) :
    CrawlInv cfg now (stampFirstSeen now st) :=
  ⟨inv.idle, inv.aged, inv.spent, inv.opened, inv.inside⟩

theorem CrawlInv.note {cfg : GateConfig} {now : ℚ} {st : GateState} (inv : CrawlInv cfg now st)
    (computed : Int) : CrawlInv cfg now (noteComputed computed st) := by
  have kept : CrawlInv cfg now { st with lastComputed := some computed } :=
    ⟨inv.idle, inv.aged, inv.spent, inv.opened, inv.inside⟩
  unfold noteComputed
  cases last : st.lastComputed with
  | none => exact kept
  | some count =>
    dsimp only
    split
    · exact ⟨fun _ => ⟨rfl, rfl, rfl, rfl⟩, by simp, by simp, by simp, by simp⟩
    · exact kept

theorem CrawlInv.finish {cfg : GateConfig} {now : ℚ} {st : GateState} (inv : CrawlInv cfg now st) :
    CrawlInv cfg now (finishCrawl now st).1 := by
  have closed := inv.set_capped false
  unfold finishCrawl
  split
  · exact inv
  split
  · exact inv
  rename_i since late _
  refine ⟨?_, closed.aged, closed.spent, closed.opened, closed.inside⟩
  intro early
  simp only [set_capped_late_at, late] at early
  exact absurd early (by simp)

theorem late_crawl_state (cfg : GateConfig) (now waitedMs : ℚ) (remaining : Int)
    (st : GateState) :
    (lateCrawl cfg now waitedMs remaining st).state = some (setCapped now true
      { st with
        lateAt := some (st.lateAt.getD now)
        cap := some (escalatedCap cfg now (st.lateAt.getD now)) }) := by
  have recorded : ∀ (cap : Int) (s : GateState), (recordCap cap s).1 = { s with cap := some cap } := by
    intro cap s
    unfold recordCap
    split
    · rename_i same
      rw [← same]
    · rfl
  dsimp only [lateCrawl]
  rw [recorded]
  cases late : st.lateAt with
  | none => simp [admitLate, late]
  | some since => simp only [admitLate, late, Option.getD_some]

theorem escalated_cap_mono (cfg : GateConfig) {u v : ℚ} (since : ℚ) (order : u ≤ v) :
    escalatedCap cfg u since ≤ escalatedCap cfg v since := by
  have base := cfg.cap_range
  unfold escalatedCap
  split
  · rename_i ages
    have period : (0 : ℚ) < cfg.escalateMs := by exact_mod_cast ages
    have quotient : (u - since) * 1000 / cfg.escalateMs ≤ (v - since) * 1000 / cfg.escalateMs :=
      (div_le_div_iff_of_pos_right period).mpr (by linarith)
    have whole := Int.floor_le_floor quotient
    have doublings : (min ⌊(u - since) * 1000 / cfg.escalateMs⌋ 8).toNat ≤
        (min ⌊(v - since) * 1000 / cfg.escalateMs⌋ 8).toNat := by omega
    have power : (2 : Int) ^ (min ⌊(u - since) * 1000 / cfg.escalateMs⌋ 8).toNat ≤
        2 ^ (min ⌊(v - since) * 1000 / cfg.escalateMs⌋ 8).toNat :=
      pow_le_pow_right₀ (by decide) doublings
    have grown := Int.mul_le_mul_of_nonneg_left power (show 0 ≤ cfg.lateCap by omega)
    dsimp only
    omega
  · exact le_refl _

theorem escalated_cap_start (cfg : GateConfig) (now : ℚ) :
    escalatedCap cfg now now = cfg.lateCap := by
  have top := cfg.ceiling_range
  unfold escalatedCap
  split
  · simp only [sub_self, zero_mul, zero_div, Int.floor_zero]
    simpa using top.1
  · rfl

theorem late_crawl_inv {cfg : GateConfig} {now : ℚ} {st : GateState} (inv : CrawlInv cfg now st) :
    CrawlInv cfg now { st with
      lateAt := some (st.lateAt.getD now)
      cap := some (escalatedCap cfg now (st.lateAt.getD now)) } where
  idle := by simp
  aged := by
    intro since late
    obtain rfl := Option.some.inj late
    refine ⟨now, ?_, le_refl now, rfl⟩
    cases before : st.lateAt with
    | none => exact le_refl now
    | some a =>
      obtain ⟨u, started, seen, _⟩ := inv.aged a before
      exact le_trans started seen
  spent := inv.spent
  opened := inv.opened
  inside := by
    intro since late
    obtain rfl := Option.some.inj late
    cases before : st.lateAt with
    | some a => exact inv.inside a before
    | none =>
      obtain ⟨_, _, open', total⟩ := inv.idle before
      simp [GateState.cappedTime, open', total]

def workingState (computed : Int) (found : Option GateState) : GateState :=
  (found.map (noteComputed computed)).getD
    { GateState.fresh with lastComputed := some computed }

/-- A call that logs nothing and answers with the policy, or not at all. -/
def Quiet (policy : Option Int) (out : Outcome) : Prop :=
  out.log = [] ∧ (out.verdict = none ∨ out.verdict = policy)

theorem body_cases (cfg : GateConfig) (now : ℚ) (policy : Option Int) (remaining computed : Int)
    (found : Option GateState) :
    let st := workingState computed found
    let out := gateBody cfg now policy remaining computed found
    (found = none ∧ out.state = none ∧ Quiet policy out) ∨
    (out.state = some st ∧ Quiet policy out) ∨
    (out.state = some (setCapped now false st) ∧ Quiet policy out) ∨
    (out.state = some (finishCrawl now st).1 ∧ out.log = (finishCrawl now st).2 ∧
      out.verdict = none) ∨
    (out.state = some (stampFirstSeen now st) ∧ Quiet policy out) ∨
    ∃ waitedMs, out = lateCrawl cfg now waitedMs remaining (stampFirstSeen now st) := by
  unfold gateBody workingState
  cases found with
  | none =>
    dsimp only [Option.map_none, Option.getD_none]
    split
    · exact Or.inl ⟨rfl, rfl, rfl, Or.inl rfl⟩
    split
    · exact Or.inl ⟨rfl, rfl, rfl, Or.inl rfl⟩
    split
    · exact Or.inl ⟨rfl, rfl, rfl, Or.inr rfl⟩
    split
    · exact Or.inl ⟨rfl, rfl, rfl, Or.inr rfl⟩
    split
    · exact Or.inr (Or.inr (Or.inr (Or.inr (Or.inl ⟨rfl, rfl, Or.inr rfl⟩))))
    · exact Or.inr (Or.inr (Or.inr (Or.inr (Or.inr ⟨_, rfl⟩))))
  | some st =>
    dsimp only [Option.map_some, Option.getD_some]
    split
    · exact Or.inr (Or.inr (Or.inr (Or.inl ⟨rfl, rfl, rfl⟩)))
    split
    · exact Or.inr (Or.inr (Or.inl ⟨rfl, rfl, Or.inl rfl⟩))
    split
    · exact Or.inr (Or.inr (Or.inl ⟨rfl, rfl, Or.inr rfl⟩))
    split
    · exact Or.inr (Or.inl ⟨rfl, rfl, Or.inr rfl⟩)
    split
    · exact Or.inr (Or.inr (Or.inr (Or.inr (Or.inl ⟨rfl, rfl, Or.inr rfl⟩))))
    · exact Or.inr (Or.inr (Or.inr (Or.inr (Or.inr ⟨_, rfl⟩))))

theorem working_state_inv {cfg : GateConfig} {now : ℚ} {found : Option GateState} (computed : Int)
    (inv : ∀ st, found = some st → CrawlInv cfg now st) :
    CrawlInv cfg now (workingState computed found) := by
  cases found with
  | none => exact fresh_crawl_inv cfg now (some computed)
  | some st => exact (inv st rfl).note computed

theorem body_crawl_inv {cfg : GateConfig} {now : ℚ} {found : Option GateState}
    (policy : Option Int) (remaining computed : Int)
    (inv : ∀ st, found = some st → CrawlInv cfg now st) :
    ∀ st, (gateBody cfg now policy remaining computed found).state = some st →
      CrawlInv cfg now st := by
  have working := working_state_inv computed inv
  intro st after
  rcases body_cases cfg now policy remaining computed found with
    ⟨_, state, _⟩ | ⟨state, _⟩ | ⟨state, _⟩ | ⟨state, _, _⟩ | ⟨state, _⟩ | ⟨waitedMs, same⟩
  · rw [state] at after
    exact absurd after (by simp)
  · rw [state] at after
    exact Option.some.inj after ▸ working
  · rw [state] at after
    exact Option.some.inj after ▸ working.set_capped false
  · rw [state] at after
    exact Option.some.inj after ▸ working.finish
  · rw [state] at after
    exact Option.some.inj after ▸ working.stamp
  · rw [same, late_crawl_state] at after
    exact Option.some.inj after ▸ (late_crawl_inv working.stamp).set_capped true

def lateDones (log : List GateLog) : Nat :=
  log.countP fun
    | .lateDone _ _ _ => true
    | _ => false

theorem admit_late_dones (now waitedMs : ℚ) (remaining lateCap : Int) (st : GateState) :
    lateDones (admitLate now waitedMs remaining lateCap st).2 = 0 := by
  unfold admitLate
  split
  · rfl
  · rfl

theorem record_cap_dones (lateCap : Int) (st : GateState) :
    lateDones (recordCap lateCap st).2 = 0 := by
  unfold recordCap
  split
  · rfl
  dsimp only
  split
  · rfl
  · rfl

theorem late_crawl_dones (cfg : GateConfig) (now waitedMs : ℚ) (remaining : Int)
    (st : GateState) : lateDones (lateCrawl cfg now waitedMs remaining st).log = 0 := by
  have admits := admit_late_dones now waitedMs remaining cfg.lateCap st
  have records := record_cap_dones
    (escalatedCap cfg now ((admitLate now waitedMs remaining cfg.lateCap st).1.lateAt.getD now))
    (admitLate now waitedMs remaining cfg.lateCap st).1
  dsimp only [lateCrawl]
  unfold lateDones at admits records ⊢
  rw [List.countP_append, admits, records]

theorem finish_dones (now : ℚ) (st : GateState) :
    lateDones (finishCrawl now st).2 + st.done.toNat = (finishCrawl now st).1.done.toNat := by
  unfold finishCrawl
  split
  · exact Nat.zero_add _
  split
  · exact Nat.zero_add _
  · rename_i open'
    simp [lateDones, open']

theorem body_dones (cfg : GateConfig) (now : ℚ) (policy : Option Int) (remaining computed : Int)
    (found : Option GateState) :
    let out := gateBody cfg now policy remaining computed found
    (found = none ∧ out.state = none ∧ lateDones out.log = 0) ∨
    ∃ st, out.state = some st ∧
      lateDones out.log + (workingState computed found).done.toNat = st.done.toNat := by
  rcases body_cases cfg now policy remaining computed found with
    ⟨fresh, state, quiet, _⟩ | ⟨state, quiet, _⟩ | ⟨state, quiet, _⟩ | ⟨state, log, _⟩ |
    ⟨state, quiet, _⟩ | ⟨waitedMs, same⟩
  · exact Or.inl ⟨fresh, state, by rw [quiet]; rfl⟩
  · exact Or.inr ⟨_, state, by rw [quiet]; exact Nat.zero_add _⟩
  · refine Or.inr ⟨_, state, ?_⟩
    rw [quiet, set_capped_done]
    exact Nat.zero_add _
  · refine Or.inr ⟨_, state, ?_⟩
    rw [log]
    exact finish_dones now _
  · exact Or.inr ⟨_, state, by rw [quiet]; exact Nat.zero_add _⟩
  · refine Or.inr ⟨_, by rw [same, late_crawl_state], ?_⟩
    rw [same, late_crawl_dones, set_capped_done]
    exact Nat.zero_add _

theorem body_cap_grows {cfg : GateConfig} {now : ℚ} {found : Option GateState}
    (policy : Option Int) (remaining computed : Int)
    (inv : CrawlInv cfg now (workingState computed found)) {cap : Int}
    (before : (workingState computed found).cap = some cap) :
    ∃ st after, (gateBody cfg now policy remaining computed found).state = some st ∧
      st.cap = some after ∧ cap ≤ after := by
  rcases body_cases cfg now policy remaining computed found with
    ⟨fresh, _, _⟩ | ⟨state, _⟩ | ⟨state, _⟩ | ⟨state, _, _⟩ | ⟨state, _⟩ | ⟨waitedMs, same⟩
  · rw [fresh] at before
    exact absurd before (by simp [workingState, GateState.fresh])
  · exact ⟨_, cap, state, before, le_refl cap⟩
  · exact ⟨_, cap, state, by rw [set_capped_cap, before], le_refl cap⟩
  · refine ⟨_, cap, state, ?_, le_refl cap⟩
    unfold finishCrawl
    split
    · exact before
    split
    · exact before
    · simpa using before
  · exact ⟨_, cap, state, before, le_refl cap⟩
  · refine ⟨_, _, by rw [same, late_crawl_state], by rw [set_capped_cap], ?_⟩
    cases late : (workingState computed found).lateAt with
    | none =>
      rw [(inv.idle late).1] at before
      exact absurd before (by simp)
    | some since =>
      obtain ⟨u, _, seen, aged⟩ := inv.aged since late
      rw [aged] at before
      rw [← Option.some.inj before]
      show _ ≤ escalatedCap cfg now ((workingState computed found).lateAt.getD now)
      rw [late]
      exact escalated_cap_mono cfg since seen

end DecodeFloorGate
