import Mathlib
import Glm53Overlay.DraftLogits.Kernels

/-!
Sequences of draft calls. The cached ids of a state and step always name every entry of its
logits row that is not minus infinity, so clearing them before the new scores are stored leaves
just the new candidates.
-/
namespace DraftLogits
open GridLaunch
variable {V T Seed : Type} {sh : Shape}

def logitAt (sh : Shape) (memory : Memory V) (state step v : Nat) : V :=
  memory.draftLogits (logitsBase sh state step + v)

def cachedAt (sh : Shape) (memory : Memory V) (state step i : Nat) : Nat :=
  memory.cachedCandidateIds (cacheBase sh state step + i)

theorem logits_address {state step v state' step' v' : Nat} (inside : step < sh.numSteps)
    (inside' : step' < sh.numSteps) (below : v < sh.vocab) (below' : v' < sh.vocab)
    (same : logitsBase sh state step + v = logitsBase sh state' step' + v') :
    state = state' ∧ step = step' ∧ v = v' := by
  have flat : ∀ a b : Nat, logitsBase sh a b = (a * sh.numSteps + b) * sh.vocab := by
    intro a b
    unfold logitsBase
    ring
  rw [flat, flat] at same
  obtain ⟨row, token⟩ := digit_unique below below' same
  obtain ⟨states, steps⟩ := digit_unique inside inside' row
  exact ⟨states, steps, token⟩

theorem cache_address {state step i state' step' i' : Nat} (inside : step < sh.numSteps)
    (inside' : step' < sh.numSteps) (lane : i < sh.topK) (lane' : i' < sh.topK)
    (same : cacheBase sh state step + i = cacheBase sh state' step' + i') :
    state = state' ∧ step = step' ∧ i = i' := by
  obtain ⟨row, lanes⟩ := digit_unique lane lane' same
  obtain ⟨states, steps⟩ := digit_unique inside inside' row
  exact ⟨states, steps, lanes⟩

section Programs
variable (c : DraftCall sh V T Seed) {flat : Nat}

theorem cache_lane {i : Nat}
    (passes : (decide (0 ≤ c.sampleIdxMapping flat) && decide (i < sh.topK)) = true) :
    i < sh.topK := by
  simp only [Bool.and_eq_true, decide_eq_true_eq] at passes
  exact passes.2

theorem cache_passes (valid : 0 ≤ c.sampleIdxMapping flat) {i : Nat} (lane : i < sh.topK) :
    (decide (0 ≤ c.sampleIdxMapping flat) && decide (i < sh.topK)) = true := by
  rw [decide_eq_true valid, decide_eq_true lane, Bool.true_and]

theorem flat_row (known : flat < c.numReqs * sh.numSteps) :
    flat / sh.numSteps < c.numReqs ∧ c.sampleIdxMapping flat = rowState c (flat / sh.numSteps) := by
  have below : flat / sh.numSteps < c.numReqs :=
    (Nat.div_lt_iff_lt_mul sh.steps_positive).mpr known
  have state := c.one_state _ below _ (Nat.mod_lt flat sh.steps_positive)
  rw [Nat.mul_comm, Nat.div_add_mod] at state
  refine ⟨below, ?_⟩
  rw [state, rowState, Nat.mul_comm]

theorem flat_of_cell {row step : Nat} (below : row < c.numReqs) (valid : 0 ≤ rowState c row)
    (known : flat < c.numReqs * sh.numSteps) (drafted : 0 ≤ c.sampleIdxMapping flat)
    (same : (rowState c row).toNat = (c.sampleIdxMapping flat).toNat ∧ step = flat % sh.numSteps) :
    flat = row * sh.numSteps + step := by
  obtain ⟨inside, state⟩ := flat_row c known
  have states : rowState c row = rowState c (flat / sh.numSteps) := by
    rw [← state]
    omega
  have rows := c.distinct_states row below _ inside valid states
  rw [rows, same.2, Nat.mul_comm, Nat.div_add_mod]

theorem row_flat {row step : Nat} (below : row < c.numReqs) (inside : step < sh.numSteps) :
    row * sh.numSteps + step < c.numReqs * sh.numSteps ∧
      (row * sh.numSteps + step) % sh.numSteps = step ∧
      c.sampleIdxMapping (row * sh.numSteps + step) = rowState c row := by
  refine ⟨?_, ?_, c.one_state row below step inside⟩
  · calc row * sh.numSteps + step < (row + 1) * sh.numSteps := by
          rw [Nat.succ_mul]
          omega
      _ ≤ c.numReqs * sh.numSteps := Nat.mul_le_mul_right _ below
  · rw [Nat.mul_comm, Nat.mul_add_mod, Nat.mod_eq_of_lt inside]

end Programs

def rowOf (c : DraftCall sh V T Seed) (state : Nat) : Option Nat :=
  (List.range c.numReqs).find? fun row => rowState c row = state

/-- The latest call that drafted for a state, with the state's row in it. -/
def latest (calls : List (DraftCall sh V T Seed)) (state : Nat) :
    Option (DraftCall sh V T Seed × Nat) :=
  calls.foldl (fun found c => ((rowOf c state).map fun row => (c, row)).or found) none

theorem rowOf_some {c : DraftCall sh V T Seed} {state row : Nat} (found : rowOf c state = some row) :
    row < c.numReqs ∧ rowState c row = state := by
  have holds := List.find?_some found
  have member := List.mem_of_find?_eq_some found
  exact ⟨List.mem_range.mp member, by simpa using holds⟩

theorem rowOf_none {c : DraftCall sh V T Seed} {state : Nat} (missing : rowOf c state = none) :
    ∀ row < c.numReqs, rowState c row ≠ state := by
  intro row below
  have away := List.find?_eq_none.mp missing row (List.mem_range.mpr below)
  simpa using away

theorem latest_concat (calls : List (DraftCall sh V T Seed)) (c : DraftCall sh V T Seed)
    (state : Nat) : latest (calls ++ [c]) state =
      ((rowOf c state).map fun row => (c, row)).or (latest calls state) := by
  rw [latest, List.foldl_append]
  rfl

variable [LinearOrder V] [OrderBot V]

/-- What every call keeps: cached ids are tokens, and away from them the logits are cleared. -/
structure Cleared (sh : Shape) (memory : Memory V) : Prop where
  tokens : ∀ a, memory.cachedCandidateIds a < sh.vocab
  elsewhere : ∀ state, ∀ step < sh.numSteps, ∀ v < sh.vocab,
    (∀ i < sh.topK, cachedAt sh memory state step i ≠ v) → logitAt sh memory state step v = ⊥

section CacheSpec
variable (c : DraftCall sh V T Seed) {flat : Nat}

theorem cache_padding (padded : ¬ 0 ≤ c.sampleIdxMapping flat) (memory : Memory V) :
    cacheDraftLogitsKernel c flat memory = memory := by
  have stores : ∀ {W : Type} (addr : Nat → Nat) (value : Nat → W) (m : Nat → W),
      storeLanes sh.blockK addr value
        (fun i => decide (0 ≤ c.sampleIdxMapping flat) && decide (i < sh.topK)) m = m := by
    intro W addr value m
    funext a
    refine storeLanes_miss ?_
    intro i _ passes
    rw [decide_eq_false padded, Bool.false_and] at passes
    cases passes
  simp only [cacheDraftLogitsKernel, stores]

variable (memory : Memory V) (valid : 0 ≤ c.sampleIdxMapping flat)

include valid in
theorem cached_own {i : Nat} (lane : i < sh.topK) :
    cachedAt sh (cacheDraftLogitsKernel c flat memory) (c.sampleIdxMapping flat).toNat
        (flat % sh.numSteps) i = c.candidateIds (flat * sh.topK + i) := by
  refine storeLanes_hit ?_ ⟨i, lane.trans_le (topK_le_blockK sh), cache_passes c valid lane, rfl⟩
  intro j _ _ same
  rw [Nat.add_left_cancel same]

include valid in
theorem logit_own_hit (known : flat < c.numReqs * sh.numSteps) {i : Nat} (lane : i < sh.topK) :
    logitAt sh (cacheDraftLogitsKernel c flat memory) (c.sampleIdxMapping flat).toNat
        (flat % sh.numSteps) (c.candidateIds (flat * sh.topK + i)) =
      memory.selectorScores (flat * sh.topK + i) := by
  refine storeLanes_hit ?_ ⟨i, lane.trans_le (topK_le_blockK sh), cache_passes c valid lane, rfl⟩
  intro j _ passes same
  have ids := Nat.add_left_cancel same
  rw [c.distinct_ids flat known valid j (cache_lane c passes) i lane ids]

include valid in
theorem logit_own_miss (cleared : Cleared sh memory) {v : Nat} (below : v < sh.vocab)
    (miss : ∀ i < sh.topK, c.candidateIds (flat * sh.topK + i) ≠ v) :
    logitAt sh (cacheDraftLogitsKernel c flat memory) (c.sampleIdxMapping flat).toNat
        (flat % sh.numSteps) v = ⊥ := by
  have inside := Nat.mod_lt flat sh.steps_positive
  refine (storeLanes_miss ?_).trans ?_
  · intro i _ passes same
    exact miss i (cache_lane c passes) (Nat.add_left_cancel same)
  · by_cases old : ∃ i < sh.topK, cachedAt sh memory (c.sampleIdxMapping flat).toNat
        (flat % sh.numSteps) i = v
    · obtain ⟨i, lane, id⟩ := old
      refine storeLanes_hit (fun _ _ _ _ => rfl)
        ⟨i, lane.trans_le (topK_le_blockK sh), cache_passes c valid lane, ?_⟩
      rw [← id]
      rfl
    · have untouched : ∀ i < sh.topK, cachedAt sh memory (c.sampleIdxMapping flat).toNat
          (flat % sh.numSteps) i ≠ v := fun i lane id => old ⟨i, lane, id⟩
      refine (storeLanes_miss ?_).trans (cleared.elsewhere _ _ inside v below untouched)
      intro i _ passes same
      exact untouched i (cache_lane c passes) (Nat.add_left_cancel same)

variable {state step : Nat}

theorem cached_other (inside : step < sh.numSteps) {i : Nat} (lane : i < sh.topK)
    (other : ¬ (state = (c.sampleIdxMapping flat).toNat ∧ step = flat % sh.numSteps)) :
    cachedAt sh (cacheDraftLogitsKernel c flat memory) state step i =
      cachedAt sh memory state step i := by
  refine storeLanes_miss ?_
  intro j _ passes same
  obtain ⟨states, steps, _⟩ := cache_address (Nat.mod_lt flat sh.steps_positive) inside
    (cache_lane c passes) lane same
  exact other ⟨states.symm, steps.symm⟩

theorem logit_other (known : flat < c.numReqs * sh.numSteps) (cleared : Cleared sh memory)
    (inside : step < sh.numSteps) {v : Nat} (below : v < sh.vocab)
    (other : ¬ (state = (c.sampleIdxMapping flat).toNat ∧ step = flat % sh.numSteps)) :
    logitAt sh (cacheDraftLogitsKernel c flat memory) state step v =
      logitAt sh memory state step v := by
  have away : ∀ id < sh.vocab, logitsBase sh (c.sampleIdxMapping flat).toNat
      (flat % sh.numSteps) + id ≠ logitsBase sh state step + v := by
    intro id token same
    obtain ⟨states, steps, _⟩ :=
      logits_address (Nat.mod_lt flat sh.steps_positive) inside token below same
    exact other ⟨states.symm, steps.symm⟩
  refine (storeLanes_miss ?_).trans (storeLanes_miss ?_)
  · intro i _ passes
    simp only [Bool.and_eq_true, decide_eq_true_eq] at passes
    exact away _ (c.ids_in_vocab flat known passes.1 i passes.2)
  · intro i _ _
    exact away _ (cleared.tokens _)

theorem cache_cleared (known : flat < c.numReqs * sh.numSteps) (cleared : Cleared sh memory) :
    Cleared sh (cacheDraftLogitsKernel c flat memory) := by
  by_cases valid : 0 ≤ c.sampleIdxMapping flat
  · constructor
    · intro a
      by_cases hit : ∃ i < sh.topK, cacheBase sh (c.sampleIdxMapping flat).toNat
          (flat % sh.numSteps) + i = a
      · obtain ⟨i, lane, rfl⟩ := hit
        have own := cached_own c memory valid lane
        unfold cachedAt at own
        rw [own]
        exact c.ids_in_vocab flat known valid i lane
      · refine (storeLanes_miss ?_).trans_lt (cleared.tokens a)
        intro i _ passes same
        exact hit ⟨i, cache_lane c passes, same⟩
    · intro state step inside v below miss
      by_cases own : state = (c.sampleIdxMapping flat).toNat ∧ step = flat % sh.numSteps
      · obtain ⟨rfl, rfl⟩ := own
        refine logit_own_miss c memory valid cleared below ?_
        intro i lane
        rw [← cached_own c memory valid lane]
        exact miss i lane
      · rw [logit_other c memory known cleared inside below own]
        refine cleared.elsewhere state step inside v below ?_
        intro i lane
        rw [← cached_other c memory inside lane own]
        exact miss i lane
  · rw [cache_padding c valid]
    exact cleared

end CacheSpec

structure Stored (c : DraftCall sh V T Seed) (score : Nat → V) (before after : Memory V) :
    Prop where
  cleared : Cleared sh after
  hit : ∀ row < c.numReqs, 0 ≤ rowState c row → ∀ step < sh.numSteps, ∀ i < sh.topK,
    logitAt sh after (rowState c row).toNat step
        (c.candidateIds ((row * sh.numSteps + step) * sh.topK + i)) =
      score ((row * sh.numSteps + step) * sh.topK + i)
  miss : ∀ row < c.numReqs, 0 ≤ rowState c row → ∀ step < sh.numSteps, ∀ v < sh.vocab,
    (∀ i < sh.topK, c.candidateIds ((row * sh.numSteps + step) * sh.topK + i) ≠ v) →
    logitAt sh after (rowState c row).toNat step v = ⊥
  absent : ∀ state : Nat, (∀ row < c.numReqs, rowState c row ≠ state) →
    ∀ step < sh.numSteps, ∀ v < sh.vocab, logitAt sh after state step v =
      logitAt sh before state step v
  scores : after.selectorScores = score
  tokens : after.draftTokens = before.draftTokens

section CacheLaunch
variable (c : DraftCall sh V T Seed)

theorem cache_launch (memory : Memory V) (cleared : Cleared sh memory) :
    Stored c memory.selectorScores memory
      (launch (cacheDraftLogitsKernel c) c.flatOrder memory) := by
  let keeps : Memory V → Prop :=
    fun m => Cleared sh m ∧ m.selectorScores = memory.selectorScores ∧
      m.draftTokens = memory.draftTokens
  have known : ∀ flat ∈ c.flatOrder, flat < c.numReqs * sh.numSteps :=
    fun flat member => List.mem_range.mp (c.all_flats.mem_iff.mp member)
  have step : ∀ flat ∈ c.flatOrder, ∀ m, keeps m → keeps (cacheDraftLogitsKernel c flat m) :=
    fun flat member m kept => ⟨cache_cleared c m (known flat member) kept.1, kept.2⟩
  have start : keeps memory := ⟨cleared, rfl, rfl⟩
  have once : c.flatOrder.Nodup := c.all_flats.nodup_iff.mpr List.nodup_range
  -- the one program that writes a row's cell, at some memory with the invariant
  have owned : ∀ row < c.numReqs, 0 ≤ rowState c row → ∀ inner < sh.numSteps, ∀ v < sh.vocab,
      ∃ before, keeps before ∧
        logitAt sh (launch (cacheDraftLogitsKernel c) c.flatOrder memory)
            (rowState c row).toNat inner v =
          logitAt sh (cacheDraftLogitsKernel c (row * sh.numSteps + inner) before)
            (rowState c row).toNat inner v := by
    intro row below valid inner inside v token
    have member : row * sh.numSteps + inner ∈ c.flatOrder :=
      c.all_flats.mem_iff.mpr (List.mem_range.mpr (row_flat c below inside).1)
    obtain ⟨before, kept, _, value⟩ := launch_touched
      (fun m => logitAt sh m (rowState c row).toNat inner v) once member step (fun flat among
        different m kept => by
        by_cases drafted : 0 ≤ c.sampleIdxMapping flat
        · refine logit_other c m (known flat among) kept.1 inside token ?_
          intro same
          exact different (flat_of_cell c below valid (known flat among) drafted same)
        · rw [cache_padding c drafted]) start
    exact ⟨before, kept, value⟩
  have final := launch_invariant step start
  refine ⟨final.1, ?_, ?_, ?_, final.2.1, final.2.2⟩
  · intro row below valid inner inside i lane
    obtain ⟨flat, position, state⟩ := row_flat c below inside
    have drafted : 0 ≤ c.sampleIdxMapping (row * sh.numSteps + inner) := by rwa [state]
    obtain ⟨before, kept, value⟩ := owned row below valid inner inside _
      (c.ids_in_vocab _ flat drafted i lane)
    have own := logit_own_hit c before drafted flat lane
    rw [state, position] at own
    rw [value, own, kept.2.1]
  · intro row below valid inner inside v token miss
    obtain ⟨flat, position, state⟩ := row_flat c below inside
    have drafted : 0 ≤ c.sampleIdxMapping (row * sh.numSteps + inner) := by rwa [state]
    obtain ⟨before, kept, value⟩ := owned row below valid inner inside v token
    have own := logit_own_miss c before drafted kept.1 token miss
    rw [state, position] at own
    rw [value, own]
  · intro state absent inner inside v token
    refine launch_untouched (fun m => logitAt sh m state inner v) step ?_ start
    intro flat among m kept
    by_cases drafted : 0 ≤ c.sampleIdxMapping flat
    · refine logit_other c m (known flat among) kept.1 inside token ?_
      rintro ⟨same, _⟩
      obtain ⟨row, known⟩ := flat_row c (known flat among)
      exact absent _ row (by omega)
    · rw [cache_padding c drafted]

end CacheLaunch

section History
variable [Zero T] [DecidableEq T] [Zero Seed] (perturb : Seed → Int → T → Nat → V → V)

structure Drafted (c : DraftCall sh V T Seed) (before after : Memory V) : Prop where
  cleared : Cleared sh after
  hit : ∀ row < c.numReqs, 0 ≤ rowState c row → ∀ step < sh.numSteps, ∀ i < sh.topK,
    logitAt sh after (rowState c row).toNat step
        (c.candidateIds ((row * sh.numSteps + step) * sh.topK + i)) =
      realisedScore perturb c row step i
  miss : ∀ row < c.numReqs, 0 ≤ rowState c row → ∀ step < sh.numSteps, ∀ v < sh.vocab,
    (∀ i < sh.topK, c.candidateIds ((row * sh.numSteps + step) * sh.topK + i) ≠ v) →
    logitAt sh after (rowState c row).toNat step v = ⊥
  absent : ∀ state : Nat, (∀ row < c.numReqs, rowState c row ≠ state) →
    ∀ step < sh.numSteps, ∀ v < sh.vocab, logitAt sh after state step v =
      logitAt sh before state step v
  scores : ∀ row < c.numReqs, 0 ≤ rowState c row → ∀ step < sh.numSteps, ∀ i < sh.topK,
    after.selectorScores ((row * sh.numSteps + step) * sh.topK + i) =
      realisedScore perturb c row step i
  tokens : ∀ row < c.numReqs, 0 ≤ rowState c row → ∀ step < sh.numSteps,
    after.draftTokens (row * sh.numSteps + step) =
      c.candidateIds ((row * sh.numSteps + step) * sh.topK +
        sampledIndex perturb c row step (previousIndex perturb c row step))

theorem generateDraft_drafted (c : DraftCall sh V T Seed) (memory : Memory V)
    (cleared : Cleared sh memory) :
    Drafted perturb c memory (generateDraft perturb memory c) := by
  have walked := walk_launch perturb c memory
  have still : Cleared sh (launch (selectorWalkKernel perturb c) c.rowOrder memory) := by
    constructor
    · intro a
      rw [walked.cached]
      exact cleared.tokens a
    · intro state step inside v below
      unfold cachedAt logitAt
      rw [walked.cached, walked.logits]
      exact cleared.elsewhere state step inside v below
  have stored := cache_launch c _ still
  refine ⟨stored.cleared, ?_, stored.miss, ?_, ?_, ?_⟩
  · intro row below valid step inside i lane
    exact (stored.hit row below valid step inside i lane).trans
      (walked.scores row below valid step inside i lane)
  · intro state away step inside v token
    have same := stored.absent state away step inside v token
    unfold logitAt at same ⊢
    rw [walked.logits] at same
    exact same
  · intro row below valid step inside i lane
    have same := congrFun stored.scores ((row * sh.numSteps + step) * sh.topK + i)
    exact same.trans (walked.scores row below valid step inside i lane)
  · intro row below valid step inside
    have same := congrFun stored.tokens (row * sh.numSteps + step)
    exact same.trans (walked.tokens row below valid step inside)

/-- The realised score at the latest call's candidates, minus infinity elsewhere. -/
def expectedLogit (calls : List (DraftCall sh V T Seed)) (state step v : Nat) : V :=
  match latest calls state with
  | none => ⊥
  | some (c, row) =>
    match (List.range sh.topK).find? fun i =>
      c.candidateIds ((row * sh.numSteps + step) * sh.topK + i) = v with
    | none => ⊥
    | some i => realisedScore perturb c row step i

/-- The tensors as `__init__` leaves them; the other two are not initialised. -/
def initialMemory (tokens : Nat → Nat) (scores : Nat → V) : Memory V :=
  ⟨tokens, scores, fun _ => ⊥, fun _ => 0⟩

def runCalls (memory : Memory V) (calls : List (DraftCall sh V T Seed)) : Memory V :=
  calls.foldl (generateDraft perturb) memory

theorem initial_cleared (tokens : Nat → Nat) (scores : Nat → V) :
    Cleared sh (initialMemory tokens scores) :=
  ⟨fun _ => sh.vocab_positive, fun _ _ _ _ _ _ => rfl⟩

theorem runCalls_cleared (calls : List (DraftCall sh V T Seed)) : ∀ memory : Memory V,
    Cleared sh memory → Cleared sh (runCalls perturb memory calls) := by
  induction calls with
  | nil =>
    intro memory cleared
    exact cleared
  | cons c rest ih =>
    intro memory cleared
    exact ih _ (generateDraft_drafted perturb c memory cleared).cleared

theorem runCalls_logits (tokens : Nat → Nat) (scores : Nat → V)
    (calls : List (DraftCall sh V T Seed)) (state step v : Nat) (inside : step < sh.numSteps)
    (below : v < sh.vocab) :
    logitAt sh (runCalls perturb (initialMemory tokens scores) calls) state step v =
      expectedLogit perturb calls state step v := by
  induction calls using List.reverseRecOn with
  | nil => rfl
  | append_singleton calls c ih =>
    have cleared := runCalls_cleared perturb calls _ (@initial_cleared _ sh _ _ tokens scores)
    have drafted := generateDraft_drafted perturb c _ cleared
    rw [runCalls, List.foldl_append, List.foldl_cons, List.foldl_nil]
    change logitAt sh (generateDraft perturb (runCalls perturb (initialMemory tokens scores) calls)
      c) state step v = _
    cases found : rowOf c state with
    | none =>
      rw [drafted.absent state (rowOf_none found) step inside v below, ih]
      unfold expectedLogit
      rw [latest_concat, found]
      rfl
    | some row =>
      obtain ⟨known, named⟩ := rowOf_some found
      have valid : 0 ≤ rowState c row := by omega
      have number : (rowState c row).toNat = state := by omega
      unfold expectedLogit
      rw [latest_concat, found]
      simp only [Option.map_some, Option.some_or]
      cases candidate : (List.range sh.topK).find? fun i =>
          c.candidateIds ((row * sh.numSteps + step) * sh.topK + i) = v with
      | none =>
        have miss := drafted.miss row known valid step inside v below
        rw [number] at miss
        refine miss ?_
        intro i lane
        simpa using List.find?_eq_none.mp candidate i (List.mem_range.mpr lane)
      | some i =>
        have lane := List.mem_range.mp (List.mem_of_find?_eq_some candidate)
        have id : c.candidateIds ((row * sh.numSteps + step) * sh.topK + i) = v := by
          simpa using List.find?_some candidate
        have hit := drafted.hit row known valid step inside i lane
        rw [number, id] at hit
        exact hit

/-- After any calls the draft logits of each state and step are the realised scores at its
    latest call's candidates and minus infinity elsewhere. One more call realises the scores
    along the sampled path, emits the candidate at the argmax, and leaves other states alone. -/
theorem draft_logits_follow_latest_call (tokens : Nat → Nat) (scores : Nat → V)
    (calls : List (DraftCall sh V T Seed)) :
    (∀ (state : Nat) (step : Fin sh.numSteps) (v : Fin sh.vocab),
      logitAt sh (runCalls perturb (initialMemory tokens scores) calls) state step v =
        expectedLogit perturb calls state step v) ∧
    ∀ c : DraftCall sh V T Seed,
      (∀ row < c.numReqs, 0 ≤ rowState c row → ∀ step < sh.numSteps,
        (∀ i < sh.topK,
          (runCalls perturb (initialMemory tokens scores) (calls ++ [c])).selectorScores
              ((row * sh.numSteps + step) * sh.topK + i) =
            realisedScore perturb c row step i) ∧
        (runCalls perturb (initialMemory tokens scores) (calls ++ [c])).draftTokens
            (row * sh.numSteps + step) =
          c.candidateIds ((row * sh.numSteps + step) * sh.topK +
            sampledIndex perturb c row step (previousIndex perturb c row step)) ∧
        sampledIndex perturb c row step (previousIndex perturb c row step) < sh.topK ∧
        ∀ i < sh.topK,
          sampledRow perturb c row step (previousIndex perturb c row step) i ≤
            sampledRow perturb c row step (previousIndex perturb c row step)
              (sampledIndex perturb c row step (previousIndex perturb c row step))) ∧
      ∀ state : Nat, (∀ row < c.numReqs, rowState c row ≠ state) →
        ∀ (step : Fin sh.numSteps) (v : Fin sh.vocab),
          logitAt sh (runCalls perturb (initialMemory tokens scores) (calls ++ [c])) state step v =
            logitAt sh (runCalls perturb (initialMemory tokens scores) calls) state step v := by
  refine ⟨fun state step v => runCalls_logits perturb tokens scores calls state step v step.isLt
    v.isLt, ?_⟩
  intro c
  have cleared := runCalls_cleared perturb calls _ (@initial_cleared _ sh _ _ tokens scores)
  have drafted := generateDraft_drafted perturb c _ cleared
  have last : runCalls perturb (initialMemory tokens scores) (calls ++ [c]) =
      generateDraft perturb (runCalls perturb (initialMemory tokens scores) calls) c := by
    rw [runCalls, List.foldl_append]
    rfl
  rw [last]
  constructor
  · intro row below valid step inside
    have sampled := sampledIndex_spec perturb c row step (previousIndex perturb c row step)
    exact ⟨drafted.scores row below valid step inside, drafted.tokens row below valid step inside,
      sampled⟩
  · intro state away step v
    exact drafted.absent state away step step.isLt v v.isLt

end History

def sampleShape : Shape := ⟨2, 2, 4, by decide, by decide, by decide⟩

/-- One request in state 1 and a padded row; the ids are those of the request's two steps. -/
def sampleCall (ids : List Nat) (scores : Nat → WithBot Int)
    (distinct : ids.getD 0 0 ≠ ids.getD 1 0 ∧ ids.getD 2 0 ≠ ids.getD 3 0)
    (tokens : ∀ j < 4, ids.getD j 0 < 4) : DraftCall sampleShape (WithBot Int) Nat Nat where
  numReqs := 2
  sampleIdxMapping flat := if flat < 2 then 1 else -1
  candidateIds j := ids.getD j 0
  scores := scores
  samplePos _ := 7
  temperature _ := 0
  seeds _ := 11
  rowOrder := [1, 0]
  flatOrder := [2, 0, 3, 1]
  all_rows := by decide
  all_flats := by decide
  one_state := by decide
  distinct_states := by decide
  distinct_ids := by
    intro flat _ valid i lane j lane' same
    have two : flat < 2 := by
      by_contra other
      rw [if_neg other] at valid
      exact absurd valid (by decide)
    have rows : flat = 0 ∨ flat = 1 := by omega
    have left : i = 0 ∨ i = 1 := by
      change i < 2 at lane
      omega
    have right : j = 0 ∨ j = 1 := by
      change j < 2 at lane'
      omega
    rcases rows with rfl | rfl <;> rcases left with rfl | rfl <;> rcases right with rfl | rfl
    · rfl
    · exact absurd same distinct.1
    · exact absurd same.symm distinct.1
    · rfl
    · rfl
    · exact absurd same distinct.2
    · exact absurd same.symm distinct.2
    · rfl
  ids_in_vocab := by
    intro flat _ valid i lane
    have two : flat < 2 := by
      by_contra other
      rw [if_neg other] at valid
      exact absurd valid (by decide)
    change i < 2 at lane
    refine tokens _ ?_
    change flat * 2 + i < 4
    omega

def firstCall : DraftCall sampleShape (WithBot Int) Nat Nat :=
  sampleCall [3, 0, 1, 2] (fun j => (j : Int)) (by decide) (by decide)

def secondCall : DraftCall sampleShape (WithBot Int) Nat Nat :=
  sampleCall [2, 0, 1, 3] (fun j => (10 + j : Int)) (by decide) (by decide)

/-- After two greedy calls for one state: a token of both, one of the second, one of the first,
    a realised score, and a state no call is for. -/
theorem two_calls_one_state :
    let after := runCalls (fun _ _ _ _ score => score)
      (initialMemory (fun _ => 0) (fun _ => ((5 : Int) : WithBot Int))) ([firstCall] ++ [secondCall])
    logitAt sampleShape after 1 0 0 = (11 : Int) ∧ logitAt sampleShape after 1 0 2 = (10 : Int) ∧
      logitAt sampleShape after 1 0 3 = ⊥ ∧ after.selectorScores 1 = (11 : Int) ∧
      logitAt sampleShape after 0 1 2 = ⊥ := by
  have both := (draft_logits_follow_latest_call (fun _ _ _ _ score => score) (fun _ => 0)
    (fun _ => ((5 : Int) : WithBot Int)) ([firstCall] ++ [secondCall])).1
  obtain ⟨first, more⟩ := draft_logits_follow_latest_call (fun _ _ _ _ score => score) (fun _ => 0)
    (fun _ => ((5 : Int) : WithBot Int)) [firstCall]
  obtain ⟨drafted, absent⟩ := more secondCall
  have realised := (drafted 0 (by decide) (by decide) 0 (by decide)).1 1 (by decide)
  have other := absent 0 (by decide) ⟨1, by decide⟩ ⟨2, by decide⟩
  exact ⟨both 1 ⟨0, by decide⟩ ⟨0, by decide⟩, both 1 ⟨0, by decide⟩ ⟨2, by decide⟩,
    both 1 ⟨0, by decide⟩ ⟨3, by decide⟩, realised,
    other.trans (first 0 ⟨1, by decide⟩ ⟨2, by decide⟩)⟩

end DraftLogits
