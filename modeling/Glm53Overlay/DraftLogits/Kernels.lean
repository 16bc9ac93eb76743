import Mathlib
import Glm53Overlay.Library.GridLaunch

/-!
The DFlash2 speculator's two kernels over flat memory: the selector walk, which samples a path
through each row's candidates, and the kernel that keeps the draft logits of the sampled scores.
The score type is any linear order with a bottom, which is minus infinity; the Gumbel
perturbation of a score is a parameter.
-/
namespace DraftLogits
open GridLaunch

/-- `num_speculative_steps`, `selector_top_k` and the vocabulary. -/
structure Shape where
  numSteps : Nat
  topK : Nat
  vocab : Nat
  steps_positive : 0 < numSteps
  candidates_positive : 0 < topK
  vocab_positive : 0 < vocab

/-- `triton.next_power_of_2(self.selector_top_k)`. -/
def Shape.blockK (sh : Shape) : Nat := 2 ^ Nat.clog 2 sh.topK

/-- What one `_generate_draft` reads, and the order in which the programs of its two launches
    run. Negative states are padding. -/
structure DraftCall (sh : Shape) (V T Seed : Type) where
  numReqs : Nat
  sampleIdxMapping : Nat → Int
  candidateIds : Nat → Nat
  scores : Nat → V
  samplePos : Nat → Int
  temperature : Nat → T
  seeds : Nat → Seed
  rowOrder : List Nat
  flatOrder : List Nat
  all_rows : rowOrder.Perm (List.range numReqs)
  all_flats : flatOrder.Perm (List.range (numReqs * sh.numSteps))
  one_state : ∀ row < numReqs, ∀ step < sh.numSteps,
    sampleIdxMapping (row * sh.numSteps + step) = sampleIdxMapping (row * sh.numSteps)
  distinct_states : ∀ row < numReqs, ∀ row' < numReqs,
    0 ≤ sampleIdxMapping (row * sh.numSteps) →
    sampleIdxMapping (row * sh.numSteps) = sampleIdxMapping (row' * sh.numSteps) → row = row'
  distinct_ids : ∀ flat < numReqs * sh.numSteps, 0 ≤ sampleIdxMapping flat →
    ∀ i < sh.topK, ∀ j < sh.topK,
      candidateIds (flat * sh.topK + i) = candidateIds (flat * sh.topK + j) → i = j
  ids_in_vocab : ∀ flat < numReqs * sh.numSteps, 0 ≤ sampleIdxMapping flat →
    ∀ i < sh.topK, candidateIds (flat * sh.topK + i) < sh.vocab

structure Memory (V : Type) where
  draftTokens : Nat → Nat
  selectorScores : Nat → V
  draftLogits : Nat → V
  cachedCandidateIds : Nat → Nat

variable {V T Seed : Type} [LinearOrder V] [OrderBot V] [Zero T] [DecidableEq T] [Zero Seed]
variable {sh : Shape}

def draftNoiseSalt : Int := 2 ^ 30

section Walk
variable (perturb : Seed → Int → T → Nat → V → V)

/-- The row the argmax is taken over; `perturb` scales by the temperature and adds the noise. -/
def noisedRow (logits : Nat → V) (keys : Nat → Nat) (mask : Nat → Bool) (seed : Seed) (pos : Int)
    (temp : T) : Nat → V :=
  if temp = 0 then logits
  else fun i => if mask i then perturb seed (pos + draftNoiseSalt) temp (keys i) (logits i) else ⊥

/-- The index of the maximum, the first of equal ones. -/
def argmaxIndex (n : Nat) (values : Nat → V) : Nat := ((List.range n).argmax values).getD 0

variable (c : DraftCall sh V T Seed) (row : Nat)

def rowState : Int := c.sampleIdxMapping (row * sh.numSteps)

def laneMask (i : Nat) : Bool := decide (i < sh.topK) && decide (0 ≤ rowState c row)

def rowScores (step previous : Nat) (i : Nat) : V :=
  if laneMask c row i then
    c.scores (((row * sh.numSteps + step) * sh.topK + previous) * sh.topK + i)
  else ⊥

def rowCandidates (step : Nat) (i : Nat) : Nat :=
  if laneMask c row i then c.candidateIds ((row * sh.numSteps + step) * sh.topK + i) else 0

def sampledRow (step previous : Nat) : Nat → V :=
  noisedRow perturb (rowScores c row step previous) (rowCandidates c row step) (laneMask c row)
    (if 0 ≤ rowState c row then c.seeds (rowState c row).toNat else 0)
    (c.samplePos (row * sh.numSteps + step) - 1)
    (if 0 ≤ rowState c row then c.temperature (rowState c row).toNat else 0)

def sampledIndex (step previous : Nat) : Nat :=
  argmaxIndex sh.blockK (sampledRow perturb c row step previous)

def walkStep (w : Nat × Memory V) (step : Nat) : Nat × Memory V :=
  let flat := row * sh.numSteps + step
  let index := sampledIndex perturb c row step w.1
  (index, { w.2 with
    selectorScores := storeLanes sh.blockK (fun i => flat * sh.topK + i)
      (rowScores c row step w.1) (laneMask c row) w.2.selectorScores
    draftTokens := if 0 ≤ rowState c row then
        Function.update w.2.draftTokens flat (c.candidateIds (flat * sh.topK + index))
      else w.2.draftTokens })

/-- `_selector_walk_kernel`, one program for each row. -/
def selectorWalkKernel (memory : Memory V) : Memory V :=
  ((List.range sh.numSteps).foldl (walkStep perturb c row) (0, memory)).2

/-- The candidate index the walk comes from: the one sampled at the step before, 0 at first. -/
def previousIndex : Nat → Nat
  | 0 => 0
  | step + 1 => sampledIndex perturb c row step (previousIndex step)

/-- `scores[step][i_prev]`. -/
def realisedScore (step i : Nat) : V :=
  c.scores (((row * sh.numSteps + step) * sh.topK + previousIndex perturb c row step) * sh.topK + i)

end Walk

def logitsBase (sh : Shape) (state step : Nat) : Nat :=
  state * (sh.numSteps * sh.vocab) + step * sh.vocab

def cacheBase (sh : Shape) (state step : Nat) : Nat := (state * sh.numSteps + step) * sh.topK

/-- `_cache_draft_logits_kernel`, one program for each row and step. -/
def cacheDraftLogitsKernel (c : DraftCall sh V T Seed) (flat : Nat) (memory : Memory V) :
    Memory V :=
  let state := (c.sampleIdxMapping flat).toNat
  let step := flat % sh.numSteps
  let mask i := decide (0 ≤ c.sampleIdxMapping flat) && decide (i < sh.topK)
  let oldTokenIds i := memory.cachedCandidateIds (cacheBase sh state step + i)
  let tokenIds i := c.candidateIds (flat * sh.topK + i)
  let cleared := storeLanes sh.blockK (fun i => logitsBase sh state step + oldTokenIds i)
    (fun _ => ⊥) mask memory.draftLogits
  { memory with
    draftLogits := storeLanes sh.blockK (fun i => logitsBase sh state step + tokenIds i)
      (fun i => memory.selectorScores (flat * sh.topK + i)) mask cleared
    cachedCandidateIds := storeLanes sh.blockK (fun i => cacheBase sh state step + i) tokenIds
      mask memory.cachedCandidateIds }

/-- `_sample_path`, then `_cache_draft_logits`. -/
def generateDraft (perturb : Seed → Int → T → Nat → V → V) (memory : Memory V)
    (c : DraftCall sh V T Seed) : Memory V :=
  launch (cacheDraftLogitsKernel c) c.flatOrder
    (launch (selectorWalkKernel perturb c) c.rowOrder memory)

theorem topK_le_blockK (sh : Shape) : sh.topK ≤ sh.blockK :=
  Nat.le_pow_clog Nat.one_lt_two sh.topK

theorem idxOf_range {n i : Nat} (below : i < n) : (List.range n).idxOf i = i := by
  have position := List.Nodup.idxOf_getElem List.nodup_range i
    (show i < (List.range n).length by rwa [List.length_range])
  rwa [List.getElem_range] at position

theorem argmaxIndex_spec {k n : Nat} (nonempty : 0 < k) (within : k ≤ n) (values : Nat → V)
    (padding : ∀ i, k ≤ i → i < n → values i = ⊥) :
    argmaxIndex n values < k ∧ ∀ i < n, values i ≤ values (argmaxIndex n values) := by
  obtain ⟨m, found⟩ : ∃ m, (List.range n).argmax values = some m := by
    rw [← Option.ne_none_iff_exists']
    intro none
    have empty := List.argmax_eq_none.mp none
    have zero := List.range_eq_nil.mp empty
    omega
  have value : argmaxIndex n values = m := by
    unfold argmaxIndex
    rw [found, Option.getD_some]
  have member := List.mem_range.mp (List.argmax_mem (Option.mem_def.mpr found))
  have largest : ∀ i < n, values i ≤ values m := fun i below =>
    List.le_of_mem_argmax (List.mem_range.mpr below) (Option.mem_def.mpr found)
  rw [value]
  refine ⟨?_, largest⟩
  by_contra beyond
  -- a lane beyond the candidates is at the bottom, and the first lane comes before it
  have bottom := padding m (not_lt.mp beyond) member
  have first : values 0 = values m := by
    have low := largest 0 (by omega)
    rw [bottom] at low ⊢
    exact le_bot_iff.mp low
  have earlier := List.index_of_argmax (Option.mem_def.mpr found)
    (List.mem_range.mpr (show 0 < n by omega)) first.symm.le
  rw [idxOf_range member, idxOf_range (show 0 < n by omega)] at earlier
  omega

section WalkSpec
variable (perturb : Seed → Int → T → Nat → V → V) (c : DraftCall sh V T Seed) (row : Nat)

omit [LinearOrder V] [OrderBot V] [Zero T] [DecidableEq T] [Zero Seed] in
theorem laneMask_valid (valid : 0 ≤ rowState c row) (i : Nat) :
    laneMask c row i = true ↔ i < sh.topK := by
  simp [laneMask, valid]

omit [LinearOrder V] [OrderBot V] [Zero T] [DecidableEq T] [Zero Seed] in
theorem laneMask_below {i : Nat} (passes : laneMask c row i = true) : i < sh.topK := by
  simp only [laneMask, Bool.and_eq_true, decide_eq_true_eq] at passes
  exact passes.1

omit [Zero Seed] in
theorem noisedRow_masked {logits : Nat → V} {keys : Nat → Nat} {mask : Nat → Bool} {seed : Seed}
    {pos : Int} {temp : T} {i : Nat} (masked : mask i = false) (bottom : logits i = ⊥) :
    noisedRow perturb logits keys mask seed pos temp i = ⊥ := by
  unfold noisedRow
  split
  · exact bottom
  · exact if_neg (Bool.eq_false_iff.mp masked)

theorem sampledRow_padding (step previous i : Nat) (beyond : sh.topK ≤ i) :
    sampledRow perturb c row step previous i = ⊥ := by
  have masked : laneMask c row i = false := by
    rw [Bool.eq_false_iff]
    intro passes
    exact absurd (laneMask_below c row passes) (not_lt.mpr beyond)
  have bottom : rowScores c row step previous i = ⊥ := by
    rw [rowScores, masked]
    rfl
  exact noisedRow_masked perturb masked bottom

theorem sampledIndex_spec (step previous : Nat) :
    sampledIndex perturb c row step previous < sh.topK ∧ ∀ i < sh.topK,
      sampledRow perturb c row step previous i ≤
        sampledRow perturb c row step previous (sampledIndex perturb c row step previous) := by
  have spec := argmaxIndex_spec sh.candidates_positive (topK_le_blockK sh)
    (sampledRow perturb c row step previous)
    (fun i beyond _ => sampledRow_padding perturb c row step previous i beyond)
  exact ⟨spec.1, fun i below => spec.2 i (below.trans_le (topK_le_blockK sh))⟩

structure WalkedTo (memory : Memory V) (n : Nat) (w : Nat × Memory V) : Prop where
  previous : w.1 = previousIndex perturb c row n
  logits : w.2.draftLogits = memory.draftLogits
  cached : w.2.cachedCandidateIds = memory.cachedCandidateIds
  scores : 0 ≤ rowState c row → ∀ step < n, ∀ i < sh.topK,
    w.2.selectorScores ((row * sh.numSteps + step) * sh.topK + i) =
      realisedScore perturb c row step i
  tokens : 0 ≤ rowState c row → ∀ step < n, w.2.draftTokens (row * sh.numSteps + step) =
    c.candidateIds ((row * sh.numSteps + step) * sh.topK +
      sampledIndex perturb c row step (previousIndex perturb c row step))
  scores_frame : ∀ a, (∀ step < n, ∀ i < sh.topK, (row * sh.numSteps + step) * sh.topK + i ≠ a) →
    w.2.selectorScores a = memory.selectorScores a
  tokens_frame : ∀ a, (∀ step < n, row * sh.numSteps + step ≠ a) →
    w.2.draftTokens a = memory.draftTokens a

theorem walkStep_scores_frame (w : Nat × Memory V) (step a : Nat)
    (miss : ∀ i < sh.topK, (row * sh.numSteps + step) * sh.topK + i ≠ a) :
    (walkStep perturb c row w step).2.selectorScores a = w.2.selectorScores a :=
  storeLanes_miss fun i _ passes => miss i (laneMask_below c row passes)

theorem walkStep_tokens_frame (w : Nat × Memory V) (step a : Nat)
    (miss : row * sh.numSteps + step ≠ a) :
    (walkStep perturb c row w step).2.draftTokens a = w.2.draftTokens a := by
  simp only [walkStep]
  split
  · exact Function.update_of_ne miss.symm _ _
  · rfl

theorem walkStep_scores (valid : 0 ≤ rowState c row) (w : Nat × Memory V) (step i : Nat)
    (below : i < sh.topK) :
    (walkStep perturb c row w step).2.selectorScores
        ((row * sh.numSteps + step) * sh.topK + i) =
      c.scores (((row * sh.numSteps + step) * sh.topK + w.1) * sh.topK + i) := by
  have passes := (laneMask_valid c row valid i).mpr below
  refine storeLanes_hit ?_ ⟨i, below.trans_le (topK_le_blockK sh), passes, rfl⟩
  intro j _ _ same
  have lane : j = i := Nat.add_left_cancel same
  rw [lane, rowScores, passes]
  rfl

theorem walked_to (memory : Memory V) (n : Nat) : WalkedTo perturb c row memory n
    ((List.range n).foldl (walkStep perturb c row) (0, memory)) := by
  induction n with
  | zero =>
    exact ⟨rfl, rfl, rfl, fun _ step none => absurd none (Nat.not_lt_zero step),
      fun _ step none => absurd none (Nat.not_lt_zero step), fun _ _ => rfl, fun _ _ => rfl⟩
  | succ n ih =>
    rw [List.range_succ, List.foldl_append, List.foldl_cons, List.foldl_nil]
    refine ⟨?_, ih.logits, ih.cached, ?_, ?_, ?_, ?_⟩
    · simp only [walkStep, ih.previous, previousIndex]
    · intro valid step below i lane
      rcases Nat.lt_succ_iff_lt_or_eq.mp below with earlier | rfl
      · rw [walkStep_scores_frame, ih.scores valid step earlier i lane]
        intro j other same
        have steps := (digit_unique other lane same).1
        omega
      · rw [walkStep_scores perturb c row valid _ step i lane, ih.previous]
        rfl
    · intro valid step below
      rcases Nat.lt_succ_iff_lt_or_eq.mp below with earlier | rfl
      · rw [walkStep_tokens_frame perturb c row _ n _ (by omega), ih.tokens valid step earlier]
      · simp only [walkStep, if_pos valid, Function.update_self, ih.previous]
    · intro a miss
      rw [walkStep_scores_frame perturb c row _ n a (miss n (Nat.lt_succ_self n)),
        ih.scores_frame a fun step below => miss step (Nat.lt_succ_of_lt below)]
    · intro a miss
      rw [walkStep_tokens_frame perturb c row _ n a (miss n (Nat.lt_succ_self n)),
        ih.tokens_frame a fun step below => miss step (Nat.lt_succ_of_lt below)]

structure Walked (memory after : Memory V) : Prop where
  logits : after.draftLogits = memory.draftLogits
  cached : after.cachedCandidateIds = memory.cachedCandidateIds
  scores : ∀ row < c.numReqs, 0 ≤ rowState c row → ∀ step < sh.numSteps, ∀ i < sh.topK,
    after.selectorScores ((row * sh.numSteps + step) * sh.topK + i) =
      realisedScore perturb c row step i
  tokens : ∀ row < c.numReqs, 0 ≤ rowState c row → ∀ step < sh.numSteps,
    after.draftTokens (row * sh.numSteps + step) =
      c.candidateIds ((row * sh.numSteps + step) * sh.topK +
        sampledIndex perturb c row step (previousIndex perturb c row step))

theorem walk_launch (memory : Memory V) :
    Walked perturb c memory (launch (selectorWalkKernel perturb c) c.rowOrder memory) := by
  have whole := fun row before => walked_to perturb c row before sh.numSteps
  have trivially : ∀ row ∈ c.rowOrder, ∀ s : Memory V, True → True := fun _ _ _ _ => trivial
  have once : c.rowOrder.Nodup := c.all_rows.nodup_iff.mpr List.nodup_range
  have runs : ∀ row < c.numReqs, row ∈ c.rowOrder :=
    fun row below => c.all_rows.mem_iff.mpr (List.mem_range.mpr below)
  constructor
  · exact launch_untouched Memory.draftLogits trivially
      (fun row _ before _ => (whole row before).logits) trivial
  · exact launch_untouched Memory.cachedCandidateIds trivially
      (fun row _ before _ => (whole row before).cached) trivial
  · intro row below valid step inside i lane
    obtain ⟨before, _, _, value⟩ := launch_touched
      (fun m : Memory V => m.selectorScores ((row * sh.numSteps + step) * sh.topK + i))
      once (runs row below) trivially (fun other _ different before _ =>
        (whole other before).scores_frame _ fun step' inside' i' lane' same =>
          different (digit_unique inside' inside (digit_unique lane' lane same).1).1)
      (s := memory) trivial
    exact value.trans ((whole row before).scores valid step inside i lane)
  · intro row below valid step inside
    obtain ⟨before, _, _, value⟩ := launch_touched
      (fun m : Memory V => m.draftTokens (row * sh.numSteps + step))
      once (runs row below) trivially (fun other _ different before _ =>
        (whole other before).tokens_frame _ fun step' inside' same =>
          different (digit_unique inside' inside same).1)
      (s := memory) trivial
    exact value.trans ((whole row before).tokens valid step inside)

end WalkSpec

end DraftLogits
