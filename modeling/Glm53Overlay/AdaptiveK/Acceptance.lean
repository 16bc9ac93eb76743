import Mathlib.Tactic.Linarith
import Glm53Overlay.AdaptiveK.CapturedWidths

/-!
Observations over exact arithmetic: averages stay between zero and the full width, and a run that
accepts at least as much at every call never gets a narrower width.
-/
namespace AdaptiveK

structure Observation where
  reqId : String
  numDraft : Int
  numAccepted : Int

def observeAll {F : Type} (host : Host F) (k : Policy F) (calls : List Observation) : Policy F :=
  calls.foldl (fun k o => observe host k o.reqId o.numDraft o.numAccepted) k

section Exact
variable (parse : String → Option ℚ) (repr : Json ℚ → String)

def observed (kMax : Int) (saturate : String) (o : Observation) : Int :=
  if o.numDraft ≤ o.numAccepted ∧ saturate ≠ "n" then max kMax o.numDraft else o.numAccepted

def average (k : Policy ℚ) (id : String) : ℚ := ((k.state.get id).map Prod.fst).getD k.kMax

def seenSteps (k : Policy ℚ) (id : String) : Nat := ((k.state.get id).map Prod.snd).getD 0

def blended (k : Policy ℚ) (o : Observation) : ℚ :=
  (observed k.kMax k.saturate o : ℚ) * k.alpha + average k o.reqId * (1 - k.alpha)

theorem observe_eq (k : Policy ℚ) (o : Observation) (drafted : 0 < o.numDraft)
    (on : k.enabled = true) :
    observe (exactHost parse repr) k o.reqId o.numDraft o.numAccepted =
      { k with state := k.state.set o.reqId (blended k o, seenSteps k o.reqId + 1) } := by
  have enters : ¬ (k.enabled = false ∨ o.numDraft ≤ 0) := by
    rw [on]
    simpa using drafted
  have value : (if o.numDraft ≤ o.numAccepted ∧ k.saturate ≠ "n" then
      ((max k.kMax o.numDraft : Int) : ℚ) else (o.numAccepted : ℚ)) =
        (observed k.kMax k.saturate o : ℚ) := by
    unfold observed
    split <;> rfl
  unfold observe
  rw [if_neg enters]
  dsimp only [exactHost]
  rw [value]
  unfold blended average seenSteps
  cases k.state.get o.reqId <;> rfl

theorem observe_idle (k : Policy ℚ) (o : Observation)
    (idle : k.enabled = false ∨ o.numDraft ≤ 0) :
    observe (exactHost parse repr) k o.reqId o.numDraft o.numAccepted = k := if_pos idle

structure SameRules (k k' : Policy ℚ) : Prop where
  enabled : k'.enabled = k.enabled
  alpha : k'.alpha = k.alpha
  margin : k'.margin = k.margin
  min_steps : k'.minSteps = k.minSteps
  saturate : k'.saturate = k.saturate
  k_set : k'.kSet = k.kSet
  k_max : k'.kMax = k.kMax

theorem observe_rules (k : Policy ℚ) (o : Observation) :
    SameRules k (observe (exactHost parse repr) k o.reqId o.numDraft o.numAccepted) := by
  by_cases idle : k.enabled = false ∨ o.numDraft ≤ 0
  · rw [observe_idle parse repr k o idle]
    exact ⟨rfl, rfl, rfl, rfl, rfl, rfl, rfl⟩
  · simp only [not_or, Bool.not_eq_false, Int.not_le] at idle
    rw [observe_eq parse repr k o idle.2 idle.1]
    exact ⟨rfl, rfl, rfl, rfl, rfl, rfl, rfl⟩

def Bounded (k : Policy ℚ) : Prop :=
  ∀ id ema seen, k.state.get id = some (ema, seen) → 0 ≤ ema ∧ ema ≤ k.kMax

theorem blend_bounds {a x y m : ℚ} (alpha : 0 ≤ a ∧ a ≤ 1) (first : 0 ≤ x ∧ x ≤ m)
    (second : 0 ≤ y ∧ y ≤ m) : 0 ≤ x * a + y * (1 - a) ∧ x * a + y * (1 - a) ≤ m := by
  have rest : 0 ≤ 1 - a := by linarith [alpha.2]
  have low := mul_nonneg first.1 alpha.1
  have low' := mul_nonneg second.1 rest
  have high := mul_le_mul_of_nonneg_right first.2 alpha.1
  have high' := mul_le_mul_of_nonneg_right second.2 rest
  constructor
  · linarith
  · linarith

/-- What the worker reports: accepted tokens are drafted, drafts are within the full width. -/
def Observation.Within (kMax : Int) (o : Observation) : Prop :=
  0 ≤ o.numAccepted ∧ o.numAccepted ≤ o.numDraft ∧ o.numDraft ≤ kMax

theorem observe_bounded (k : Policy ℚ) (o : Observation) (alpha : 0 ≤ k.alpha ∧ k.alpha ≤ 1)
    (within : o.Within k.kMax) (bounded : Bounded k) :
    Bounded (observe (exactHost parse repr) k o.reqId o.numDraft o.numAccepted) := by
  by_cases idle : k.enabled = false ∨ o.numDraft ≤ 0
  · rw [observe_idle parse repr k o idle]
    exact bounded
  · simp only [not_or, Bool.not_eq_false, Int.not_le] at idle
    rw [observe_eq parse repr k o idle.2 idle.1]
    obtain ⟨accepted, fits, narrow⟩ := within
    have range : (0 : ℚ) ≤ observed k.kMax k.saturate o ∧
        (observed k.kMax k.saturate o : ℚ) ≤ k.kMax := by
      have whole : 0 ≤ observed k.kMax k.saturate o ∧ observed k.kMax k.saturate o ≤ k.kMax := by
        unfold observed
        split <;> omega
      exact ⟨by exact_mod_cast whole.1, by exact_mod_cast whole.2⟩
    have previous : 0 ≤ average k o.reqId ∧ average k o.reqId ≤ k.kMax := by
      unfold average
      cases found : k.state.get o.reqId with
      | none =>
        have full : (0 : ℚ) ≤ k.kMax := le_trans range.1 range.2
        exact ⟨full, le_refl _⟩
      | some entry => exact bounded o.reqId entry.1 entry.2 found
    intro id ema seen stored
    by_cases own : id = o.reqId
    · rw [own, PyDict.get_set_same] at stored
      cases stored
      exact blend_bounds alpha range previous
    · rw [PyDict.get_set_other _ _ own] at stored
      exact bounded id ema seen stored

theorem run_bounded (calls : List Observation) : ∀ k : Policy ℚ, 0 ≤ k.alpha ∧ k.alpha ≤ 1 →
    (∀ o ∈ calls, o.Within k.kMax) → Bounded k →
    Bounded (observeAll (exactHost parse repr) k calls) := by
  induction calls with
  | nil =>
    intro k _ _ bounded
    exact bounded
  | cons o rest ih =>
    intro k alpha within bounded
    have rules := observe_rules parse repr k o
    apply ih
    · rw [rules.alpha]
      exact alpha
    · rw [rules.k_max]
      exact fun later member => within later (List.mem_cons_of_mem o member)
    · exact observe_bounded parse repr k o alpha (within o List.mem_cons_self) bounded

/-- The same requests with the same counts, the first with averages at least as high. -/
structure Ahead (k k' : Policy ℚ) : Prop where
  rules : SameRules k k'
  entries : ∀ id, (k.state.get id = none ∧ k'.state.get id = none) ∨
    ∃ ema ema' seen, k.state.get id = some (ema, seen) ∧ k'.state.get id = some (ema', seen) ∧
      ema' ≤ ema

def Observation.AtLeast (o o' : Observation) : Prop :=
  o.reqId = o'.reqId ∧ o.numDraft = o'.numDraft ∧ o'.numAccepted ≤ o.numAccepted

theorem observed_mono {o o' : Observation} (more : o.AtLeast o') (kMax : Int)
    (saturate : String) : observed kMax saturate o' ≤ observed kMax saturate o := by
  obtain ⟨_, draft, accepted⟩ := more
  unfold observed
  split
  · split
    · rw [draft]
    · rename_i full short
      exact absurd ⟨by omega, full.2⟩ short
  · split
    · rename_i short full
      have below : o'.numAccepted < o'.numDraft := by
        by_contra enough
        exact short ⟨by omega, full.2⟩
      omega
    · exact accepted

theorem observe_ahead {k k' : Policy ℚ} {o o' : Observation} (ahead : Ahead k k')
    (more : o.AtLeast o') (alpha : 0 ≤ k.alpha ∧ k.alpha ≤ 1) :
    Ahead (observe (exactHost parse repr) k o.reqId o.numDraft o.numAccepted)
      (observe (exactHost parse repr) k' o'.reqId o'.numDraft o'.numAccepted) := by
  have rules := ahead.rules
  have same := more.2.1
  by_cases idle : k.enabled = false ∨ o.numDraft ≤ 0
  · have idle' : k'.enabled = false ∨ o'.numDraft ≤ 0 := by
      rw [rules.enabled, ← same]
      exact idle
    rw [observe_idle parse repr k o idle, observe_idle parse repr k' o' idle']
    exact ahead
  · simp only [not_or, Bool.not_eq_false, Int.not_le] at idle
    have on' : k'.enabled = true := rules.enabled.trans idle.1
    rw [observe_eq parse repr k o idle.2 idle.1, observe_eq parse repr k' o' (same ▸ idle.2) on',
      ← more.1]
    have value : (observed k.kMax k.saturate o' : ℚ) ≤ observed k.kMax k.saturate o := by
      exact_mod_cast observed_mono more k.kMax k.saturate
    have rest : 0 ≤ 1 - k.alpha := by linarith [alpha.2]
    have scaled := mul_le_mul_of_nonneg_right value alpha.1
    have previous : average k' o.reqId ≤ average k o.reqId ∧
        seenSteps k' o.reqId = seenSteps k o.reqId := by
      unfold average seenSteps
      rcases ahead.entries o.reqId with ⟨first, second⟩ | ⟨ema, ema', seen, first, second, less⟩
      · rw [first, second, rules.k_max]
        exact ⟨le_refl _, rfl⟩
      · rw [first, second]
        exact ⟨less, rfl⟩
    have kept := mul_le_mul_of_nonneg_right previous.1 rest
    constructor
    · exact ⟨rules.enabled, rules.alpha, rules.margin, rules.min_steps, rules.saturate,
        rules.k_set, rules.k_max⟩
    · intro id
      by_cases own : id = o.reqId
      · right
        rw [own, PyDict.get_set_same, PyDict.get_set_same, previous.2]
        refine ⟨_, _, _, rfl, rfl, ?_⟩
        unfold blended
        rw [← more.1, rules.alpha, rules.k_max, rules.saturate]
        exact add_le_add scaled kept
      · rw [PyDict.get_set_other _ _ own, PyDict.get_set_other _ _ own]
        exact ahead.entries id

theorem run_ahead {calls calls' : List Observation}
    (more : List.Forall₂ Observation.AtLeast calls calls') :
    ∀ k k' : Policy ℚ, Ahead k k' → 0 ≤ k.alpha ∧ k.alpha ≤ 1 →
    Ahead (observeAll (exactHost parse repr) k calls)
      (observeAll (exactHost parse repr) k' calls') := by
  induction more with
  | nil =>
    intro k k' ahead _
    exact ahead
  | cons first _ ih =>
    intro k k' ahead alpha
    apply ih
    · exact observe_ahead parse repr ahead first alpha
    · rw [(observe_rules parse repr k _).alpha]
      exact alpha

/-- The widest rung within a bound, the narrowest one when none is. -/
def rung (kSet : List Int) (bound : Int) : Option Int :=
  let cands := kSet.filter fun v => v ≤ bound
  if cands = [] then kSet.min? else cands.max?

theorem rung_none_iff (kSet : List Int) (bound : Int) : rung kSet bound = none ↔ kSet = [] := by
  unfold rung
  dsimp only
  split
  · exact List.min?_eq_none_iff
  · rename_i some'
    rw [List.max?_eq_none_iff]
    constructor
    · exact fun none' => absurd none' some'
    · rintro rfl
      rfl

theorem rung_mem {kSet : List Int} {bound n : Int} (taken : rung kSet bound = some n) :
    n ∈ kSet := by
  unfold rung at taken
  dsimp only at taken
  split at taken
  · exact List.min?_mem taken
  · exact List.mem_of_mem_filter (List.max?_mem taken)

theorem rung_mono {kSet : List Int} {low high n m : Int} (le : low ≤ high)
    (first : rung kSet low = some n) (second : rung kSet high = some m) : n ≤ m := by
  have listed := rung_mem second
  unfold rung at first second
  dsimp only at first second
  split at first
  · exact (List.min?_eq_some_iff.mp first).2 m listed
  · obtain ⟨member, _⟩ := List.max?_eq_some_iff.mp first
    rw [List.mem_filter, decide_eq_true_eq] at member
    have kept : n ∈ kSet.filter fun v => v ≤ high :=
      List.mem_filter.mpr ⟨member.1, decide_eq_true (le_trans member.2 le)⟩
    rw [if_neg (List.ne_nil_of_mem kept)] at second
    exact (List.max?_eq_some_iff.mp second).2 n kept

/-- The outcomes of `choose` in two runs: both raise, both stay at full width, or both trim, the
    first to at least the width of the second. -/
inductive NotNarrower : Option (Option Int) → Option (Option Int) → Prop where
  | raised : NotNarrower none none
  | full : NotNarrower (some none) (some none)
  | trimmed {n m : Int} (wider : m ≤ n) : NotNarrower (some (some n)) (some (some m))

theorem choose_ahead {k k' : Policy ℚ} (ahead : Ahead k k') (reqId : String) (width : Int)
    (structured : Bool) :
    NotNarrower (choose (exactHost parse repr) k reqId width structured)
      (choose (exactHost parse repr) k' reqId width structured) := by
  have rules := ahead.rules
  unfold choose
  rw [rules.enabled]
  split
  · exact NotNarrower.full
  · rcases ahead.entries reqId with ⟨first, second⟩ | ⟨ema, ema', seen, first, second, less⟩
    · rw [first, second]
      exact NotNarrower.full
    · rw [first, second, rules.min_steps]
      dsimp only [exactHost]
      split
      · exact NotNarrower.full
      · rw [rules.margin, rules.k_set]
        simp only [Option.bind_some]
        have target : ⌈ema' + k.margin⌉ ≤ ⌈ema + k.margin⌉ := Int.ceil_le_ceil (by linarith)
        have bound : min ⌈ema' + k.margin⌉ width ≤ min ⌈ema + k.margin⌉ width :=
          min_le_min_right width target
        change NotNarrower ((rung k.kSet (min ⌈ema + k.margin⌉ width)).map _)
          ((rung k.kSet (min ⌈ema' + k.margin⌉ width)).map _)
        cases wide : rung k.kSet (min ⌈ema + k.margin⌉ width) with
        | none =>
          have empty := (rung_none_iff _ _).mp wide
          rw [(rung_none_iff _ _).mpr empty]
          exact NotNarrower.raised
        | some n =>
          cases narrow : rung k.kSet (min ⌈ema' + k.margin⌉ width) with
          | none =>
            rw [rung_none_iff] at narrow
            rw [(rung_none_iff _ _).mpr narrow] at wide
            cases wide
          | some m =>
            have le := rung_mono bound narrow wide
            exact NotNarrower.trimmed (by omega)

/-- Averages stay in range over every run, and at least as many accepted tokens never give a
    narrower width. -/
theorem acceptance_bounded_and_monotone (k : Policy ℚ) (alpha : 0 ≤ k.alpha ∧ k.alpha ≤ 1)
    (fresh : k.state = PyDict.empty) :
    (∀ calls : List Observation, (∀ o ∈ calls, o.Within k.kMax) →
      Bounded (observeAll (exactHost parse repr) k calls)) ∧
    ∀ calls calls' : List Observation, List.Forall₂ Observation.AtLeast calls calls' →
      ∀ reqId width structured, NotNarrower
        (choose (exactHost parse repr) (observeAll (exactHost parse repr) k calls) reqId width
          structured)
        (choose (exactHost parse repr) (observeAll (exactHost parse repr) k calls') reqId width
          structured) := by
  constructor
  · intro calls within
    apply run_bounded parse repr calls k alpha within
    intro id ema seen stored
    rw [fresh] at stored
    cases stored
  · intro calls calls' more reqId width structured
    have start : Ahead k k := by
      constructor
      · exact ⟨rfl, rfl, rfl, rfl, rfl, rfl, rfl⟩
      · intro id
        left
        rw [fresh]
        exact ⟨rfl, rfl⟩
    exact choose_ahead parse repr (run_ahead parse repr more k k start alpha) reqId width
      structured

end Exact

/-- The policy after four steps of one request, all seven drafts accepted or none. -/
def afterFour (accepted : Int) : Policy ℚ :=
  observeAll (exactHost (fun _ => none) fun _ => "") sampleBooted
    (List.replicate 4 ⟨"a", 7, accepted⟩)

theorem acceptance_sample :
    Bounded (afterFour 7) ∧
    NotNarrower (choose (exactHost (fun _ => none) fun _ => "") (afterFour 7) "a" 7 false)
      (choose (exactHost (fun _ => none) fun _ => "") (afterFour 0) "a" 7 false) ∧
    choose (exactHost (fun _ => none) fun _ => "") (afterFour 7) "a" 7 false = some (some 7) ∧
    choose (exactHost (fun _ => none) fun _ => "") (afterFour 0) "a" 7 false = some (some 4) := by
  obtain ⟨bounded, monotone⟩ := acceptance_bounded_and_monotone (fun _ => none) (fun _ => "")
    sampleBooted (by norm_num [sampleBooted]) rfl
  refine ⟨bounded _ ?_, monotone _ _ ?_ "a" 7 false, by decide +kernel, by decide +kernel⟩
  · intro o member
    rw [List.eq_of_mem_replicate member]
    exact ⟨by decide, by decide, by decide⟩
  · have more : Observation.AtLeast ⟨"a", 7, 7⟩ ⟨"a", 7, 0⟩ := ⟨rfl, rfl, by decide⟩
    exact .cons more (.cons more (.cons more (.cons more .nil)))

end AdaptiveK
