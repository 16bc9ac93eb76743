import Mathlib.Data.Finset.Range
import Glm53Overlay.HybridHit.FixedPoint
import Glm53Overlay.Library.PyText

/-!
The exempt drafter as three injected modules derive it: the coordinator's EAGLE set, the
capacity log's mirror of it, and the per-group retention vector with its environment
override and its validation.
-/
namespace HybridHit

inductive UseEagle where
  | missing
  | flag (value : Bool)
  | method (answer : Bool)
  deriving DecidableEq

def UseEagle.truth : UseEagle → Bool
  | missing => false
  | flag value => value
  | method answer => answer

def annotatedIds (groups : List KvCacheGroup) : Finset Nat :=
  groupIdsWhere (fun g => g.isEagleGroup) groups

/-- `swa_ids or set(range(len(groups)))`. -/
def swaOrAll (groups : List KvCacheGroup) : Finset Nat :=
  if swaIds groups = ∅ then Finset.range groups.length else swaIds groups

/-- The coordinator's EAGLE set: the annotated groups, and the patched fallback when the
    speculative method is EAGLE-like and none is. -/
def eagleGroupIds (useEagle : Bool) (groups : List KvCacheGroup) : Finset Nat :=
  if useEagle = true ∧ annotatedIds groups = ∅ then swaOrAll groups else annotatedIds groups

def capacityEagleGroupIds (speculative : Option UseEagle) (groups : List KvCacheGroup) :
    Finset Nat :=
  if annotatedIds groups ≠ ∅ then annotatedIds groups
  else match speculative with
    | none => ∅
    | some useEagle => if useEagle.truth then swaOrAll groups else ∅

inductive RetentionError where
  | notInteger (raw : String)
  | negative (value : Int)
  | notMultiple (value : Int) (schedulerBlockSize : Nat)
  | tooLarge (value maxInterval : Int)
  | noExemptGroup (swaInterval : Int) (eagle : Finset Nat)
  | badEntry (groupId : Nat) (value : Int) (schedulerBlockSize : Nat)
  | zeroDivision
  deriving DecidableEq

def maxInterval : Int := 1000000

/-- `_glm53_swa_retention_env`: the variable is read, stripped and checked before any group
    is looked at. -/
def swaRetentionEnv (raw : Option String) (schedulerBlockSize : Nat) :
    Except RetentionError (Option Int) :=
  if PyText.strip (raw.getD "") = "" then .ok none
  else match PyText.toInt (raw.getD "") with
    | none => .error (.notInteger (raw.getD ""))
    | some value =>
      if value < 0 then .error (.negative value)
      else if schedulerBlockSize ≠ 0 ∧ value % (schedulerBlockSize : Int) ≠ 0 then
        .error (.notMultiple value schedulerBlockSize)
      else if maxInterval < value then .error (.tooLarge value maxInterval)
      else .ok (some value)

def minExemptGroupIds (groups : List KvCacheGroup) (eagle : Finset Nat) : Finset Nat :=
  if swaIds groups = ∅ ∨ eagle ≠ swaIds groups then ∅ else swaIds groups

/-- A missing attribute and 0 are both false. -/
def nonzero : Option Int → Option Int
  | some 0 => none
  | value => value

def retentionForGroup (spec : KvCacheSpec) (globalInterval swaInterval : Option Int)
    (alignmentTokens : Nat) (isMinExempt : Bool) : Option Int :=
  if isDraftSwaSpec spec = false ∨ isMinExempt = false then globalInterval
  else match swaInterval with
    | some value => some value
    | none =>
      match nonzero (innerKvSpec spec).slidingWindow, nonzero (innerKvSpec spec).blockSize with
      | some window, some _ =>
        if alignmentTokens = 0 then globalInterval
        else if (alignmentTokens : Int) ≤ window then globalInterval
        else some 0
      | _, _ => globalInterval

def retentionVector (groups : List KvCacheGroup) (eagle : Finset Nat)
    (globalInterval swaInterval : Option Int) (alignmentTokens : Nat) : List (Option Int) :=
  groups.zipIdx.map fun entry =>
    retentionForGroup entry.1.kvCacheSpec globalInterval swaInterval alignmentTokens
      (decide (entry.2 ∈ minExemptGroupIds groups eagle))

/-- `_glm53_resolve_retention_by_group`: an override without an exempt group is refused. -/
def resolveRetentionByGroup (groups : List KvCacheGroup) (eagle : Finset Nat)
    (globalInterval swaInterval : Option Int) (alignmentTokens : Nat) :
    Except RetentionError (List (Option Int)) :=
  match swaInterval with
  | some value =>
    if minExemptGroupIds groups eagle = ∅ then .error (.noExemptGroup value eagle)
    else .ok (retentionVector groups eagle globalInterval (some value) alignmentTokens)
  | none => .ok (retentionVector groups eagle globalInterval none alignmentTokens)

def validateEntry (schedulerBlockSize : Nat) (entry : Option Int × Nat) :
    Except RetentionError Unit :=
  match entry.1 with
  | none => .ok ()
  | some value =>
    if value = 0 then .ok ()
    else if value < 0 then .error (.badEntry entry.2 value schedulerBlockSize)
    else if schedulerBlockSize = 0 then .error .zeroDivision
    else if value % (schedulerBlockSize : Int) ≠ 0 then
      .error (.badEntry entry.2 value schedulerBlockSize)
    else .ok ()

/-- `_glm53_validate_retention_intervals`: the first bad entry is reported. -/
def validateRetentionIntervals (intervals : List (Option Int)) (schedulerBlockSize : Nat) :
    Except RetentionError Unit :=
  forM intervals.zipIdx (validateEntry schedulerBlockSize)

/-- The coordinator's inputs to the retention rule. Its block size is a common multiple of
    the groups' block sizes, so it is not zero. -/
structure Coordinator where
  groups : List KvCacheGroup
  speculative : Option UseEagle
  schedulerBlockSize : Nat
  positive : 0 < schedulerBlockSize

/-- `speculative_config.use_eagle()`, false without a configuration. -/
def Coordinator.useEagle (c : Coordinator) : Bool :=
  match c.speculative with
  | none => false
  | some useEagle => useEagle.truth

def Coordinator.eagle (c : Coordinator) : Finset Nat := eagleGroupIds c.useEagle c.groups

def Coordinator.minExempt (c : Coordinator) : Finset Nat := minExemptGroupIds c.groups c.eagle

def Coordinator.resolve (c : Coordinator) (globalInterval swaInterval : Option Int) :
    Except RetentionError (List (Option Int)) :=
  resolveRetentionByGroup c.groups c.eagle globalInterval swaInterval c.schedulerBlockSize

theorem capacity_eagle_eq (c : Coordinator) :
    capacityEagleGroupIds c.speculative c.groups = c.eagle := by
  unfold capacityEagleGroupIds Coordinator.eagle eagleGroupIds
  by_cases annotated : annotatedIds c.groups = ∅
  · cases config : c.speculative with
    | none => simp [annotated, Coordinator.useEagle, config]
    | some useEagle =>
      cases truth : useEagle.truth <;> simp [annotated, Coordinator.useEagle, config, truth]
  · simp [annotated]

theorem minExempt_swa (c : Coordinator) (i : Nat) (exempt : i ∈ c.minExempt) :
    ∃ g, c.groups[i]? = some g ∧ isDraftSwaSpec g.kvCacheSpec = true := by
  unfold Coordinator.minExempt minExemptGroupIds at exempt
  split at exempt
  · simp at exempt
  · exact (mem_groupIdsWhere _ _ _).mp exempt

theorem minExempt_eq_empty_iff (c : Coordinator) :
    c.minExempt = ∅ ↔ ¬ (swaIds c.groups ≠ ∅ ∧ c.eagle = swaIds c.groups) := by
  unfold Coordinator.minExempt minExemptGroupIds
  split
  · rename_i differ
    simp only [true_iff, not_and]
    intro some
    exact differ.resolve_left some
  · rename_i same
    simp only [not_or, not_not] at same
    simp [same.1, same.2]

theorem resolve_raises_iff (c : Coordinator) (globalInterval swaInterval : Option Int) :
    (∃ e, c.resolve globalInterval swaInterval = .error e) ↔
      swaInterval ≠ none ∧ c.minExempt = ∅ := by
  unfold Coordinator.resolve resolveRetentionByGroup
  cases swaInterval with
  | none => simp
  | some value =>
    by_cases empty : c.minExempt = ∅
    · have same : minExemptGroupIds c.groups c.eagle = ∅ := empty
      simp [same, empty]
    · have same : ¬ minExemptGroupIds c.groups c.eagle = ∅ := empty
      simp [same, empty]

theorem resolve_ok (c : Coordinator) (globalInterval swaInterval : Option Int)
    (vector : List (Option Int)) (resolved : c.resolve globalInterval swaInterval = .ok vector) :
    vector = retentionVector c.groups c.eagle globalInterval swaInterval
      c.schedulerBlockSize := by
  unfold Coordinator.resolve resolveRetentionByGroup at resolved
  cases swaInterval with
  | none =>
    cases resolved
    rfl
  | some value =>
    simp only at resolved
    split at resolved
    · cases resolved
    · cases resolved
      rfl

theorem retentionVector_at (c : Coordinator) (globalInterval swaInterval : Option Int) (i : Nat)
    (value : Option Int)
    (entry : (retentionVector c.groups c.eagle globalInterval swaInterval
      c.schedulerBlockSize)[i]? = some value) :
    ∃ g, c.groups[i]? = some g ∧ value = retentionForGroup g.kvCacheSpec globalInterval
      swaInterval c.schedulerBlockSize (decide (i ∈ c.minExempt)) := by
  simp only [retentionVector, List.getElem?_map, List.getElem?_zipIdx, Option.map_map,
    Option.map_eq_some_iff, Function.comp, Nat.zero_add] at entry
  obtain ⟨g, place, rfl⟩ := entry
  exact ⟨g, place, rfl⟩

theorem retentionForGroup_cases (spec : KvCacheSpec) (globalInterval swaInterval : Option Int)
    (alignmentTokens : Nat) (isMinExempt : Bool) :
    retentionForGroup spec globalInterval swaInterval alignmentTokens isMinExempt =
        globalInterval ∨
    isMinExempt = true ∧
      (retentionForGroup spec globalInterval swaInterval alignmentTokens isMinExempt = some 0 ∨
       ∃ value, swaInterval = some value ∧
        retentionForGroup spec globalInterval swaInterval alignmentTokens isMinExempt =
          some value) := by
  unfold retentionForGroup
  split
  · exact Or.inl rfl
  · rename_i exempt
    have on : isMinExempt = true := by
      simp only [not_or, Bool.not_eq_false] at exempt
      exact exempt.2
    cases swaInterval with
    | some value => exact Or.inr ⟨on, Or.inr ⟨value, rfl, rfl⟩⟩
    | none =>
      simp only
      split
      · split
        · exact Or.inl rfl
        · split
          · exact Or.inl rfl
          · exact Or.inr ⟨on, Or.inl rfl⟩
      · exact Or.inl rfl

def EntryOk (schedulerBlockSize : Nat) (value : Option Int) : Prop :=
  ∀ groupId, validateEntry schedulerBlockSize (value, groupId) = .ok ()

theorem entryOk_of_ok (schedulerBlockSize groupId : Nat) (value : Option Int)
    (ok : validateEntry schedulerBlockSize (value, groupId) = .ok ()) :
    EntryOk schedulerBlockSize value := by
  intro other
  unfold validateEntry at ok ⊢
  cases value with
  | none => rfl
  | some value =>
    simp only at ok ⊢
    split at ok
    · rename_i zero
      rw [if_pos zero]
    · rename_i nonzero
      rw [if_neg nonzero]
      split at ok
      · cases ok
      · rename_i natural
        rw [if_neg natural]
        split at ok
        · cases ok
        · rename_i divides
          rw [if_neg divides]
          split at ok
          · cases ok
          · rename_i exact
            rw [if_neg exact]

theorem forM_ok_iff (schedulerBlockSize : Nat) (entries : List (Option Int × Nat)) :
    forM entries (validateEntry schedulerBlockSize) = .ok () ↔
      ∀ entry ∈ entries, validateEntry schedulerBlockSize entry = .ok () := by
  induction entries with
  | nil => simp [pure, Except.pure]
  | cons entry rest ih =>
    rw [List.forM_cons, List.forall_mem_cons, ← ih]
    cases validateEntry schedulerBlockSize entry with
    | error e => simp [bind, Except.bind]
    | ok u => simp [bind, Except.bind]

theorem validate_ok_iff (intervals : List (Option Int)) (schedulerBlockSize : Nat) :
    validateRetentionIntervals intervals schedulerBlockSize = .ok () ↔
      ∀ value ∈ intervals, EntryOk schedulerBlockSize value := by
  rw [validateRetentionIntervals, forM_ok_iff]
  constructor
  · intro all value member
    obtain ⟨i, place⟩ := List.mem_iff_getElem?.mp member
    have entry : (value, i) ∈ intervals.zipIdx := by
      rw [List.mem_zipIdx_iff_getElem?]
      exact place
    exact entryOk_of_ok schedulerBlockSize i value (all _ entry)
  · intro all entry member
    rw [List.mem_zipIdx_iff_getElem?] at member
    exact all entry.1 (List.mem_of_getElem? member) entry.2

theorem swaRetentionEnv_entryOk (raw : Option String) (schedulerBlockSize : Nat)
    (positive : 0 < schedulerBlockSize) (value : Int)
    (parsed : swaRetentionEnv raw schedulerBlockSize = .ok (some value)) :
    EntryOk schedulerBlockSize (some value) := by
  have nonzero : schedulerBlockSize ≠ 0 := Nat.ne_of_gt positive
  unfold swaRetentionEnv at parsed
  split at parsed
  · cases parsed
  · split at parsed
    · cases parsed
    · split at parsed
      · cases parsed
      · rename_i natural
        split at parsed
        · cases parsed
        · rename_i divides
          split at parsed
          · cases parsed
          · cases parsed
            have exact : value % (schedulerBlockSize : Int) = 0 := by
              by_contra differ
              exact divides ⟨nonzero, differ⟩
            intro groupId
            simp [validateEntry, natural, nonzero, exact]

theorem resolved_validates (c : Coordinator) (globalInterval swaInterval : Option Int)
    (globalOk : EntryOk c.schedulerBlockSize globalInterval)
    (swaOk : ∀ value, swaInterval = some value → EntryOk c.schedulerBlockSize (some value))
    (vector : List (Option Int)) (resolved : c.resolve globalInterval swaInterval = .ok vector) :
    validateRetentionIntervals vector c.schedulerBlockSize = .ok () := by
  rw [validate_ok_iff]
  intro value member
  obtain ⟨i, place⟩ := List.mem_iff_getElem?.mp member
  rw [resolve_ok c _ _ vector resolved] at place
  obtain ⟨g, _, rfl⟩ := retentionVector_at c _ _ i value place
  rcases retentionForGroup_cases g.kvCacheSpec globalInterval swaInterval c.schedulerBlockSize
    (decide (i ∈ c.minExempt)) with same | ⟨_, zero | ⟨given, fromEnv, same⟩⟩
  · rw [same]
    exact globalOk
  · rw [zero]
    intro groupId
    rfl
  · rw [same]
    exact swaOk given fromEnv

/-- The three overlays agree on the exempt drafter: one EAGLE set, exempt groups are exempt
    in the hybrid minimum, an override is refused exactly without an exempt set, only exempt
    entries leave the global interval, and the resolved vector passes its validation. -/
theorem overlays_agree_on_drafter (c : Coordinator) (globalInterval swaInterval : Option Int) :
    capacityEagleGroupIds c.speculative c.groups = c.eagle ∧
    (∀ i ∈ c.minExempt, ∃ g, c.groups[i]? = some g ∧
      ∀ (Block : Type) (a : AttentionGroup Block) (idx : Nat) (compact : Bool) (s : Scan Block),
        a.spec = g.kvCacheSpec →
          (visit compact s (a, idx)).currHitLength = s.currHitLength) ∧
    ((∃ e, c.resolve globalInterval swaInterval = .error e) ↔
      swaInterval ≠ none ∧ ¬ (swaIds c.groups ≠ ∅ ∧ c.eagle = swaIds c.groups)) ∧
    (∀ vector, c.resolve globalInterval swaInterval = .ok vector →
      vector.length = c.groups.length ∧
      ∀ i value, vector[i]? = some value → value ≠ globalInterval → i ∈ c.minExempt) ∧
    (∀ raw vector, swaRetentionEnv raw c.schedulerBlockSize = .ok swaInterval →
      validateRetentionIntervals [globalInterval] c.schedulerBlockSize = .ok () →
      c.resolve globalInterval swaInterval = .ok vector →
      validateRetentionIntervals vector c.schedulerBlockSize = .ok ()) := by
  refine ⟨capacity_eagle_eq c, ?_, ?_, ?_, ?_⟩
  · intro i exempt
    obtain ⟨g, place, swa⟩ := minExempt_swa c i exempt
    refine ⟨g, place, ?_⟩
    intro Block a idx compact s same
    have draft : a.draft = true := by rw [AttentionGroup.draft, same, swa]
    rw [visit_length, if_pos draft]
  · rw [resolve_raises_iff, minExempt_eq_empty_iff]
  · intro vector resolved
    rw [resolve_ok c _ _ vector resolved]
    refine ⟨by simp [retentionVector], ?_⟩
    intro i value place differs
    obtain ⟨g, _, rfl⟩ := retentionVector_at c _ _ i value place
    rcases retentionForGroup_cases g.kvCacheSpec globalInterval swaInterval
      c.schedulerBlockSize (decide (i ∈ c.minExempt)) with same | ⟨exempt, _⟩
    · exact absurd same differs
    · exact of_decide_eq_true exempt
  · intro raw vector parsed globalOk resolved
    refine resolved_validates c _ _ ?_ ?_ vector resolved
    · exact (validate_ok_iff _ _).mp globalOk globalInterval List.mem_cons_self
    · intro value given
      rw [given] at parsed
      exact swaRetentionEnv_entryOk raw _ c.positive value parsed

theorem deployed_block_positive : 0 < 3584 := by decide

/-- The deployed layout: an MLA group and the wrapped drafter, block size 3584. -/
def sampleCoordinator : Coordinator where
  groups :=
    [{ kvCacheSpec := { own := ⟨"MLAAttentionSpec", none, some 3584⟩, kvCacheSpecs := none }
       isEagleGroup := false },
     { kvCacheSpec :=
        { own := ⟨"UniformTypeKVCacheSpecs", none, some 64⟩
          kvCacheSpecs := some [("draft.0", ⟨"SlidingWindowSpec", some 2048, some 64⟩)] }
       isEagleGroup := false }]
  speculative := some (.method true)
  schedulerBlockSize := 3584
  positive := deployed_block_positive

/-- At that layout, with an override of two pages: the vector is resolved and validated. -/
theorem overlays_agree_sample :
    sampleCoordinator.minExempt = {1} ∧
    sampleCoordinator.resolve (some 3584) (some 7168) = .ok [some 3584, some 7168] ∧
    validateRetentionIntervals [some 3584, some 7168] 3584 = .ok () := by
  have resolved :
      sampleCoordinator.resolve (some 3584) (some 7168) = .ok [some 3584, some 7168] := by
    decide +kernel
  refine ⟨by decide +kernel, resolved, ?_⟩
  exact (overlays_agree_on_drafter sampleCoordinator (some 3584) (some 7168)).2.2.2.2
    (some "7168") _ (by decide +kernel) (by decide +kernel) resolved

end HybridHit
