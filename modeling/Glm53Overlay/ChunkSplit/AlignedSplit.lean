import Mathlib
import Glm53Overlay.Library.PyText

/-!
The prefill splitter of the scheduler, with the align floor and the tail floor as
switches over the upstream text. All positions are token counts. A chunk is clipped to
the page grid and to the first of four optional stops strictly inside it.
-/
namespace ChunkSplit
open PyText

/-- `GLM53_ALIGN_FLOOR`, read once; unset counts as on. -/
def alignFloorEnabled (raw : Option String) : Bool :=
  let v := lower (strip (raw.getD "1"))
  !(v = "0" ∨ v = "off" ∨ v = "false" ∨ v = "no" ∨ v = "")

/-- What the splitter reads from the scheduler. Both grids are positive. -/
structure SplitConfig where
  blockSize : Nat
  hashBlockSize : Nat
  maxNumScheduledTokens : Int
  longPrefillTokenThreshold : Int
  useEagle : Bool
  mambaPartialCacheHit : Bool
  alignFloor : Bool
  tailFloor : Bool
  block_positive : 0 < blockSize
  hash_positive : 0 < hashBlockSize

structure PrefillRequest where
  numComputedTokens : Nat
  numPromptTokens : Nat
  numTokens : Nat
  sharedPrefixBoundary : Nat
  deriving DecidableEq, Repr

/-- The last hash boundary of the prompt, floored from n or, with the tail floor
    installed, from n - 1. -/
def promptBoundary (tailFloor : Bool) (unit n : Nat) : Nat :=
  if tailFloor then (n - 1) / unit * unit else n / unit * unit

def prefillEnd (req : PrefillRequest) : Nat := max req.numPromptTokens (req.numTokens - 1)

def lastCachePosition (cfg : SplitConfig) (req : PrefillRequest) : Nat :=
  let last := req.numTokens - req.numTokens % cfg.blockSize
  if cfg.useEagle then last - cfg.blockSize else last

def maxPrefillTokens (cfg : SplitConfig) : Int :=
  if 0 < cfg.longPrefillTokenThreshold then
    min cfg.maxNumScheduledTokens cfg.longPrefillTokenThreshold
  else cfg.maxNumScheduledTokens

def alignedEnd (cfg : SplitConfig) (req : PrefillRequest) (start stop : Nat) : Nat :=
  if stop < prefillEnd req then
    let aligned := stop / cfg.blockSize * cfg.blockSize
    if start < aligned ∨ ((cfg.blockSize : Int) ≤ maxPrefillTokens cfg ∧ cfg.alignFloor = false)
    then aligned else stop
  else stop

def splitStops (cfg : SplitConfig) (req : PrefillRequest) (start stop : Nat) : List Nat :=
  let last := lastCachePosition cfg req
  let tail := if cfg.mambaPartialCacheHit then
    promptBoundary cfg.tailFloor cfg.hashBlockSize req.numPromptTokens else 0
  [if start % cfg.blockSize ≠ 0 then (start / cfg.blockSize + 1) * cfg.blockSize else 0,
   last,
   if last < tail ∧ tail < req.numPromptTokens then tail else 0,
   if start < req.sharedPrefixBoundary ∧ req.sharedPrefixBoundary < stop then
     start + (req.sharedPrefixBoundary - start) / cfg.blockSize * cfg.blockSize else 0]

/-- `min((s for s in stops if start < s < end), default=end)`. -/
def firstStop (stops : List Nat) (start stop : Nat) : Nat :=
  ((stops.filter fun s => start < s ∧ s < stop).min?).getD stop

def splitStart (req : PrefillRequest) (localComputed externalComputed : Nat) : Nat :=
  req.numComputedTokens + localComputed + externalComputed

def mambaBlockAlignedSplit (cfg : SplitConfig) (req : PrefillRequest) (numNewTokens : Nat)
    (localComputed externalComputed : Nat) : Nat :=
  let start := splitStart req localComputed externalComputed
  if prefillEnd req ≤ start then numNewTokens
  else
    let stop := alignedEnd cfg req start (start + numNewTokens)
    firstStop (splitStops cfg req start stop) start stop - start

theorem page_floor_le (p x : Nat) : x / p * p ≤ x := Nat.div_mul_le_self x p

theorem lt_next_page {p : Nat} (positive : 0 < p) (x : Nat) : x < (x / p + 1) * p := by
  have whole := Nat.div_add_mod x p
  have rest := Nat.mod_lt x positive
  rw [Nat.add_mul, Nat.one_mul, Nat.mul_comm]
  omega

theorem first_stop_spec (stops : List Nat) {start stop : Nat} (ahead : start < stop) :
    start < firstStop stops start stop ∧ firstStop stops start stop ≤ stop ∧
      ∀ s ∈ stops, start < s → firstStop stops start stop ≤ s ∨ stop ≤ s := by
  unfold firstStop
  cases least : (stops.filter fun s => start < s ∧ s < stop).min? with
  | none =>
    have empty := List.min?_eq_none_iff.mp least
    refine ⟨by simpa using ahead, by simp, ?_⟩
    intro s member past
    right
    by_contra inside
    have kept : s ∈ stops.filter fun s => start < s ∧ s < stop :=
      List.mem_filter.mpr ⟨member, by simpa using ⟨past, not_le.mp inside⟩⟩
    rw [empty] at kept
    cases kept
  | some m =>
    obtain ⟨chosen, lowest⟩ := List.min?_eq_some_iff.mp least
    have bounds := (List.mem_filter.mp chosen).2
    simp only [decide_eq_true_eq] at bounds
    refine ⟨bounds.1, Nat.le_of_lt bounds.2, ?_⟩
    intro s member past
    by_cases inside : s < stop
    · left
      exact lowest s (List.mem_filter.mpr ⟨member, by simpa using ⟨past, inside⟩⟩)
    · right
      exact not_lt.mp inside

theorem aligned_end_range (cfg : SplitConfig) (req : PrefillRequest)
    (floor : cfg.alignFloor = true) {start stop : Nat} (ahead : start < stop) :
    start < alignedEnd cfg req start stop ∧ alignedEnd cfg req start stop ≤ stop := by
  have below := page_floor_le cfg.blockSize stop
  unfold alignedEnd
  split
  · simp only [floor, Bool.true_eq_false, and_false, or_false]
    split
    · omega
    · omega
  · omega

theorem split_spec (cfg : SplitConfig) (req : PrefillRequest) (floor : cfg.alignFloor = true)
    (b localComputed externalComputed : Nat) (positive : 1 ≤ b)
    (unfinished : splitStart req localComputed externalComputed < prefillEnd req) :
    ∃ stop, stop = alignedEnd cfg req (splitStart req localComputed externalComputed)
        (splitStart req localComputed externalComputed + b) ∧
      1 ≤ mambaBlockAlignedSplit cfg req b localComputed externalComputed ∧
      mambaBlockAlignedSplit cfg req b localComputed externalComputed ≤ b ∧
      ∀ s ∈ splitStops cfg req (splitStart req localComputed externalComputed) stop,
        splitStart req localComputed externalComputed < s →
        splitStart req localComputed externalComputed +
          mambaBlockAlignedSplit cfg req b localComputed externalComputed ≤ s := by
  refine ⟨_, rfl, ?_⟩
  have open' : ¬ prefillEnd req ≤ splitStart req localComputed externalComputed := by omega
  simp only [mambaBlockAlignedSplit, open', ↓reduceIte]
  generalize splitStart req localComputed externalComputed = start
  have range := aligned_end_range cfg req floor (show start < start + b by omega)
  have chosen := first_stop_spec
    (splitStops cfg req start (alignedEnd cfg req start (start + b))) range.1
  refine ⟨by omega, by omega, ?_⟩
  intro s member past
  rcases chosen.2.2 s member past with before | beyond
  · omega
  · omega

theorem split_within_page (cfg : SplitConfig) (req : PrefillRequest)
    (floor : cfg.alignFloor = true) (b localComputed externalComputed : Nat) (positive : 1 ≤ b)
    (unfinished : splitStart req localComputed externalComputed < prefillEnd req)
    (offGrid : splitStart req localComputed externalComputed % cfg.blockSize ≠ 0) :
    splitStart req localComputed externalComputed +
        mambaBlockAlignedSplit cfg req b localComputed externalComputed ≤
      (splitStart req localComputed externalComputed / cfg.blockSize + 1) * cfg.blockSize := by
  obtain ⟨stop, _, _, _, passes⟩ :=
    split_spec cfg req floor b localComputed externalComputed positive unfinished
  apply passes
  · simp [splitStops, offGrid]
  · exact lt_next_page cfg.block_positive _

theorem align_floor_dormant (cfg : SplitConfig) (req : PrefillRequest)
    (small : maxPrefillTokens cfg < cfg.blockSize) (b localComputed externalComputed : Nat) :
    mambaBlockAlignedSplit { cfg with alignFloor := true } req b localComputed externalComputed =
      mambaBlockAlignedSplit { cfg with alignFloor := false } req b localComputed
        externalComputed := by
  have idle : ∀ on : Bool, ∀ start stop,
      alignedEnd { cfg with alignFloor := on } req start stop =
        if stop < prefillEnd req then
          if start < stop / cfg.blockSize * cfg.blockSize then
            stop / cfg.blockSize * cfg.blockSize else stop
        else stop := by
    intro on start stop
    have never : ¬ (cfg.blockSize : Int) ≤ maxPrefillTokens cfg := not_le.mpr small
    have caps : maxPrefillTokens { cfg with alignFloor := on } = maxPrefillTokens cfg := rfl
    simp [alignedEnd, caps, never]
  simp only [mambaBlockAlignedSplit, idle]
  rfl

def walk (cfg : SplitConfig) (req : PrefillRequest) (budgets : Nat → Nat) : Nat → Nat
  | 0 => req.numComputedTokens
  | k + 1 =>
    walk cfg req budgets k + mambaBlockAlignedSplit cfg
      { req with numComputedTokens := walk cfg req budgets k } (budgets k) 0 0

theorem walk_advances (cfg : SplitConfig) (req : PrefillRequest) (floor : cfg.alignFloor = true)
    (budgets : Nat → Nat) (positive : ∀ k, 1 ≤ budgets k) (k : Nat) :
    k ≤ walk cfg req budgets k := by
  induction k with
  | zero => exact Nat.zero_le _
  | succ k ih =>
    have step : 1 ≤ mambaBlockAlignedSplit cfg
        { req with numComputedTokens := walk cfg req budgets k } (budgets k) 0 0 := by
      by_cases finished : prefillEnd req ≤ walk cfg req budgets k
      · have done : prefillEnd { req with numComputedTokens := walk cfg req budgets k } ≤
            splitStart { req with numComputedTokens := walk cfg req budgets k } 0 0 := finished
        simpa [mambaBlockAlignedSplit, done] using positive k
      · obtain ⟨_, _, forward, _⟩ := split_spec cfg
          { req with numComputedTokens := walk cfg req budgets k } floor (budgets k) 0 0
          (positive k) (not_le.mp finished)
        exact forward
    simp only [walk]
    omega

/-- Progress, the page bound, arrival at the end of the prompt, and dormancy below the
    page size, for every configuration with the align floor on. -/
theorem aligned_split_progress (cfg : SplitConfig) (floor : cfg.alignFloor = true) :
    (∀ (req : PrefillRequest) (b localComputed externalComputed : Nat), 1 ≤ b →
      splitStart req localComputed externalComputed < prefillEnd req →
      1 ≤ mambaBlockAlignedSplit cfg req b localComputed externalComputed ∧
      mambaBlockAlignedSplit cfg req b localComputed externalComputed ≤ b ∧
      (splitStart req localComputed externalComputed % cfg.blockSize ≠ 0 →
        splitStart req localComputed externalComputed +
          mambaBlockAlignedSplit cfg req b localComputed externalComputed ≤
        (splitStart req localComputed externalComputed / cfg.blockSize + 1) *
          cfg.blockSize)) ∧
    (∀ (req : PrefillRequest) (budgets : Nat → Nat), (∀ k, 1 ≤ budgets k) →
      ∃ k, req.numPromptTokens ≤ walk cfg req budgets k) ∧
    (maxPrefillTokens cfg < cfg.blockSize →
      ∀ (req : PrefillRequest) (b localComputed externalComputed : Nat),
        mambaBlockAlignedSplit cfg req b localComputed externalComputed =
          mambaBlockAlignedSplit { cfg with alignFloor := false } req b localComputed
            externalComputed) := by
  refine ⟨?_, ?_, ?_⟩
  · intro req b loc ext positive unfinished
    obtain ⟨_, _, forward, bounded, _⟩ := split_spec cfg req floor b loc ext positive unfinished
    exact ⟨forward, bounded, split_within_page cfg req floor b loc ext positive unfinished⟩
  · intro req budgets positive
    exact ⟨req.numPromptTokens, walk_advances cfg req floor budgets positive _⟩
  · intro small req b loc ext
    have same : { cfg with alignFloor := true } = cfg := by rw [← floor]
    have dormant := align_floor_dormant cfg req small b loc ext
    rw [same] at dormant
    exact dormant

theorem deployed_page_positive : 0 < 3584 := by decide

theorem deployed_hash_positive : 0 < 64 := by decide

def fullPageConfig : SplitConfig :=
  ⟨3584, 64, 8192, 3584, true, true, true, false, deployed_page_positive, deployed_hash_positive⟩

theorem aligned_split_progress_full_page :
    fullPageConfig.alignFloor = true ∧
      1 ≤ mambaBlockAlignedSplit fullPageConfig ⟨512, 20000, 20000, 0⟩ 512 0 0 :=
  ⟨rfl, ((aligned_split_progress fullPageConfig rfl).1 ⟨512, 20000, 20000, 0⟩ 512 0 0
    (by decide) (by decide)).1⟩

end ChunkSplit
