import Glm53Overlay.ChunkSplit.AlignedSplit

/-!
The prefill walk and the two partial-tail registration sites that must meet it. The
walk is the scheduling loop: one chunk per step, clamped to the prompt, until the prompt
is computed. Registration runs once per chunk end; the length of the block table at that
moment is a parameter.
-/
namespace ChunkSplit

/-- The scheduling loop, with fuel; `k` counts steps and picks the budget. -/
def chunkEndsFrom (cfg : SplitConfig) (req : PrefillRequest) (budgets : Nat → Nat) :
    Nat → Nat → Nat → List Nat
  | 0, _, _ => []
  | fuel + 1, k, start =>
    if start < req.numPromptTokens then
      let stop := min (start + mambaBlockAlignedSplit cfg
        { req with numComputedTokens := start } (budgets k) 0 0) req.numPromptTokens
      stop :: chunkEndsFrom cfg req budgets fuel (k + 1) stop
    else []

/-- A chunk is never empty, so as many steps as prompt tokens are enough. -/
def chunkEnds (cfg : SplitConfig) (req : PrefillRequest) (budgets : Nat → Nat) : List Nat :=
  chunkEndsFrom cfg req budgets req.numPromptTokens 0 0

/-- `FullAttentionManager._cache_partial_tail_block`: the position it registers, if any. -/
def fullAttentionTail (cfg : SplitConfig) (n blocks numTokens : Nat) : Option Nat :=
  let boundary := promptBoundary cfg.tailFloor cfg.hashBlockSize n
  if boundary = 0 ∨ numTokens < boundary then none
  else if boundary % cfg.blockSize = 0 then none
  else if blocks ≤ boundary / cfg.blockSize then none
  else some boundary

/-- `MambaManager._cache_partial_tail_block`: it registers where the chunk ended. -/
def mambaTail (cfg : SplitConfig) (n blocks numTokens : Nat) : Option Nat :=
  if cfg.blockSize = cfg.hashBlockSize then none
  else if numTokens % cfg.blockSize = 0 then none
  else if numTokens % cfg.hashBlockSize ≠ 0 then none
  else if numTokens ≠ promptBoundary cfg.tailFloor cfg.hashBlockSize n then none
  else if blocks ≤ numTokens / cfg.blockSize then none
  else some numTokens

def registered (site : SplitConfig → Nat → Nat → Nat → Option Nat) (cfg : SplitConfig)
    (req : PrefillRequest) (budgets blocks : Nat → Nat) : List Nat :=
  (chunkEnds cfg req budgets).filterMap fun e => site cfg req.numPromptTokens (blocks e) e

theorem uncrossed_position_is_end (cfg : SplitConfig) (req : PrefillRequest)
    (budgets : Nat → Nat) (t : Nat) (inside : t < req.numPromptTokens)
    (forward : ∀ k start, start < t → 1 ≤ mambaBlockAlignedSplit cfg
      { req with numComputedTokens := start } (budgets k) 0 0)
    (uncrossed : ∀ k start, start < t → start + mambaBlockAlignedSplit cfg
      { req with numComputedTokens := start } (budgets k) 0 0 ≤ t)
    (fuel k start : Nat) (before : start < t) (enough : t - start ≤ fuel) :
    t ∈ chunkEndsFrom cfg req budgets fuel k start := by
  induction fuel generalizing k start with
  | zero => omega
  | succ fuel ih =>
    have open' : start < req.numPromptTokens := by omega
    have step := forward k start before
    have limit := uncrossed k start before
    simp only [chunkEndsFrom, open', ↓reduceIte, List.mem_cons]
    generalize mambaBlockAlignedSplit cfg { req with numComputedTokens := start } (budgets k) 0 0
      = chunk at step limit ⊢
    rw [Nat.min_eq_left (by omega)]
    by_cases arrived : start + chunk = t
    · exact Or.inl arrived.symm
    · exact Or.inr (ih (k + 1) (start + chunk) (by omega) (by omega))

section boundary
variable {u p n : Nat}

theorem boundary_lt (positive : 0 < u) (long : u < n) :
    0 < promptBoundary true u n ∧ promptBoundary true u n < n := by
  have below := page_floor_le u (n - 1)
  have one : 1 ≤ (n - 1) / u := (Nat.one_le_div_iff positive).mpr (by omega)
  have product := Nat.mul_le_mul_right u one
  simp only [promptBoundary, ↓reduceIte]
  omega

theorem boundary_greatest (q : Nat) (grid : u ∣ q) (reachable : q ≤ n - 1) :
    q ≤ promptBoundary true u n := by
  obtain ⟨m, rfl⟩ := grid
  rcases Nat.eq_zero_or_pos u with zero | positive
  · simp [zero]
  · have units : m ≤ (n - 1) / u := by
      rw [Nat.le_div_iff_mul_le positive, Nat.mul_comm]
      exact reachable
    simp only [promptBoundary, ↓reduceIte]
    rw [Nat.mul_comm]
    exact Nat.mul_le_mul_right u units

theorem page_before_boundary (fine : u ∣ p) (finer : u < p) (long : u < n) :
    n - n % p - p < promptBoundary true u n := by
  have pagePos : 0 < p := by omega
  have unitPos : 0 < u := Nat.pos_of_dvd_of_pos fine pagePos
  have whole := Nat.div_add_mod n p
  have inPage := Nat.mod_lt n pagePos
  by_cases two : 2 * p ≤ n
  · -- the unit just below the last page boundary is on the hash grid
    have pages : 2 ≤ n / p := (Nat.le_div_iff_mul_le pagePos).mpr two
    have product : 2 * p ≤ p * (n / p) := by
      rw [Nat.mul_comm p]
      exact Nat.mul_le_mul_right p pages
    have grid : u ∣ p * (n / p) - u := Nat.dvd_sub (fine.mul_right _) (Nat.dvd_refl u)
    have deep := boundary_greatest (n := n) (p * (n / p) - u) grid (by omega)
    omega
  · have positive := (boundary_lt (n := n) unitPos long).1
    have few : n - n % p ≤ p := by
      have pages : n / p < 2 := (Nat.div_lt_iff_lt_mul pagePos).mpr (by omega)
      have product : p * (n / p) ≤ p * 1 := Nat.mul_le_mul_left p (by omega)
      omega
    omega

theorem boundary_off_grid (offGrid : n % u ≠ 0) :
    promptBoundary true u n = promptBoundary false u n := by
  rcases Nat.eq_zero_or_pos u with zero | positive
  · simp [promptBoundary, zero]
  · have whole := Nat.div_add_mod n u
    have rest := Nat.mod_lt n positive
    have previous : n - 1 = u * (n / u) + (n % u - 1) := by omega
    have small : (n % u - 1) / u = 0 := Nat.div_eq_of_lt (by omega)
    have same : (n - 1) / u = n / u := by
      rw [previous, Nat.mul_add_div positive, small, Nat.add_zero]
    simp [promptBoundary, same]

end boundary

/-- The tail stop is always armed: no chunk that starts below the boundary crosses it. -/
theorem tail_boundary_uncrossed (cfg : SplitConfig) (req : PrefillRequest)
    (align : cfg.alignFloor = true) (tail : cfg.tailFloor = true) (eagle : cfg.useEagle = true)
    (hits : cfg.mambaPartialCacheHit = true) (fine : cfg.hashBlockSize ∣ cfg.blockSize)
    (finer : cfg.hashBlockSize < cfg.blockSize) (long : cfg.hashBlockSize < req.numPromptTokens)
    (fresh : req.numTokens = req.numPromptTokens) (b : Nat) (positive : 1 ≤ b) (start : Nat)
    (before : start < promptBoundary true cfg.hashBlockSize req.numPromptTokens) :
    1 ≤ mambaBlockAlignedSplit cfg { req with numComputedTokens := start } b 0 0 ∧
      start + mambaBlockAlignedSplit cfg { req with numComputedTokens := start } b 0 0 ≤
        promptBoundary true cfg.hashBlockSize req.numPromptTokens := by
  have bounds := boundary_lt cfg.hash_positive long
  have last : lastCachePosition cfg { req with numComputedTokens := start } <
      promptBoundary true cfg.hashBlockSize req.numPromptTokens := by
    simpa [lastCachePosition, eagle, fresh] using page_before_boundary fine finer long
  have unfinished : splitStart { req with numComputedTokens := start } 0 0 <
      prefillEnd { req with numComputedTokens := start } := by
    simp only [splitStart, prefillEnd]
    omega
  obtain ⟨stop, _, forward, _, passes⟩ :=
    split_spec cfg { req with numComputedTokens := start } align b 0 0 positive unfinished
  refine ⟨forward, passes _ ?_ before⟩
  simp [splitStops, hits, tail, last, bounds.2]

theorem full_attention_registers {cfg : SplitConfig} {n blocks e p : Nat}
    (tail : cfg.tailFloor = true) (found : fullAttentionTail cfg n blocks e = some p) :
    p = promptBoundary true cfg.hashBlockSize n ∧ p % cfg.blockSize ≠ 0 := by
  unfold fullAttentionTail at found
  rw [tail] at found
  simp only at found
  split at found
  · cases found
  · split at found
    · cases found
    · split at found
      · cases found
      · rename_i offPage _
        rw [Option.some.injEq] at found
        exact ⟨found.symm, found ▸ offPage⟩

theorem mamba_registers {cfg : SplitConfig} {n blocks e p : Nat}
    (tail : cfg.tailFloor = true) (found : mambaTail cfg n blocks e = some p) :
    p = promptBoundary true cfg.hashBlockSize n ∧ p % cfg.blockSize ≠ 0 := by
  unfold mambaTail at found
  rw [tail] at found
  split at found
  · cases found
  · split at found
    · cases found
    · split at found
      · cases found
      · split at found
        · cases found
        · split at found
          · cases found
          · rename_i _ offPage _ atBoundary _
            rw [Option.some.injEq] at found
            exact ⟨found ▸ not_not.mp atBoundary, found ▸ offPage⟩

theorem full_attention_at_boundary {cfg : SplitConfig} {n blocks : Nat}
    (tail : cfg.tailFloor = true) (deep : 0 < promptBoundary true cfg.hashBlockSize n)
    (offPage : promptBoundary true cfg.hashBlockSize n % cfg.blockSize ≠ 0)
    (room : promptBoundary true cfg.hashBlockSize n / cfg.blockSize < blocks) :
    fullAttentionTail cfg n blocks (promptBoundary true cfg.hashBlockSize n) =
      some (promptBoundary true cfg.hashBlockSize n) := by
  have nonzero : promptBoundary true cfg.hashBlockSize n ≠ 0 := by omega
  simp [fullAttentionTail, tail, nonzero, offPage, room]

theorem mamba_at_boundary {cfg : SplitConfig} {n blocks : Nat}
    (tail : cfg.tailFloor = true) (finer : cfg.hashBlockSize < cfg.blockSize)
    (offPage : promptBoundary true cfg.hashBlockSize n % cfg.blockSize ≠ 0)
    (room : promptBoundary true cfg.hashBlockSize n / cfg.blockSize < blocks) :
    mambaTail cfg n blocks (promptBoundary true cfg.hashBlockSize n) =
      some (promptBoundary true cfg.hashBlockSize n) := by
  have differ : cfg.blockSize ≠ cfg.hashBlockSize := by omega
  have onGrid : promptBoundary true cfg.hashBlockSize n % cfg.hashBlockSize = 0 := by
    simp [promptBoundary]
  simp [mambaTail, tail, differ, offPage, onGrid, room]

theorem tail_floor_unobserved (cfg : SplitConfig) (req : PrefillRequest)
    (budgets blocks : Nat → Nat) (offGrid : req.numPromptTokens % cfg.hashBlockSize ≠ 0) :
    chunkEnds { cfg with tailFloor := true } req budgets =
        chunkEnds { cfg with tailFloor := false } req budgets ∧
      registered fullAttentionTail { cfg with tailFloor := true } req budgets blocks =
        registered fullAttentionTail { cfg with tailFloor := false } req budgets blocks ∧
      registered mambaTail { cfg with tailFloor := true } req budgets blocks =
        registered mambaTail { cfg with tailFloor := false } req budgets blocks := by
  have floors := boundary_off_grid offGrid
  have chunks : ∀ start b, mambaBlockAlignedSplit { cfg with tailFloor := true }
      { req with numComputedTokens := start } b 0 0 =
      mambaBlockAlignedSplit { cfg with tailFloor := false }
        { req with numComputedTokens := start } b 0 0 := by
    intro start b
    unfold mambaBlockAlignedSplit splitStops
    simp only [floors]
    rfl
  have ends : ∀ fuel k start, chunkEndsFrom { cfg with tailFloor := true } req budgets fuel k start =
      chunkEndsFrom { cfg with tailFloor := false } req budgets fuel k start := by
    intro fuel
    induction fuel with
    | zero => intro k start; rfl
    | succ fuel ih =>
      intro k start
      simp only [chunkEndsFrom, chunks, ih]
  have walks : chunkEnds { cfg with tailFloor := true } req budgets =
      chunkEnds { cfg with tailFloor := false } req budgets := ends _ _ _
  refine ⟨walks, ?_, ?_⟩
  · simp only [registered, walks, fullAttentionTail, floors]
  · simp only [registered, walks, mambaTail, floors]

def RegistersOnly (positions : List Nat) (t : Nat) : Prop :=
  t ∈ positions ∧ ∀ p ∈ positions, p = t

section Site
variable {site : SplitConfig → Nat → Nat → Nat → Option Nat} {cfg : SplitConfig}
  {req : PrefillRequest} {budgets blocks : Nat → Nat} {t : Nat}
  (only : ∀ e p, site cfg req.numPromptTokens (blocks e) e = some p →
    p = t ∧ p % cfg.blockSize ≠ 0)

include only in
theorem site_within (p : Nat) (member : p ∈ registered site cfg req budgets blocks) : p = t := by
  obtain ⟨e, _, found⟩ := List.mem_filterMap.mp member
  exact (only e p found).1

include only in
theorem site_registers_only (reached : t ∈ chunkEnds cfg req budgets)
    (hit : site cfg req.numPromptTokens (blocks t) t = some t) :
    RegistersOnly (registered site cfg req budgets blocks) t := by
  constructor
  · exact List.mem_filterMap.mpr ⟨t, reached, hit⟩
  · exact site_within only

include only in
theorem site_registers_nothing (onPage : t % cfg.blockSize = 0) :
    registered site cfg req budgets blocks = [] := by
  apply List.filterMap_eq_nil_iff.mpr
  intro e _
  by_contra some'
  obtain ⟨p, found⟩ := Option.ne_none_iff_exists'.mp some'
  obtain ⟨same, offPage⟩ := only e p found
  exact offPage (same ▸ onPage)
end Site

theorem tail_boundary_reached (cfg : SplitConfig) (req : PrefillRequest)
    (align : cfg.alignFloor = true) (tail : cfg.tailFloor = true) (eagle : cfg.useEagle = true)
    (hits : cfg.mambaPartialCacheHit = true) (fine : cfg.hashBlockSize ∣ cfg.blockSize)
    (finer : cfg.hashBlockSize < cfg.blockSize) (long : cfg.hashBlockSize < req.numPromptTokens)
    (fresh : req.numTokens = req.numPromptTokens) (budgets : Nat → Nat)
    (positive : ∀ k, 1 ≤ budgets k) :
    promptBoundary true cfg.hashBlockSize req.numPromptTokens ∈ chunkEnds cfg req budgets := by
  have bounds := boundary_lt cfg.hash_positive long
  have crossing := tail_boundary_uncrossed cfg req align tail eagle hits fine finer long fresh
  apply uncrossed_position_is_end cfg req budgets _ bounds.2
  · exact fun k start before => (crossing (budgets k) (positive k) start before).1
  · exact fun k start before => (crossing (budgets k) (positive k) start before).2
  · exact bounds.1
  · omega

/-- The walk ends a chunk at the deepest reachable hash boundary, both managers register
    it and nothing else unless it is a page boundary, and the overlay is invisible off
    the hash grid. -/
theorem tail_floor_reaches_boundary (cfg : SplitConfig) (align : cfg.alignFloor = true)
    (tail : cfg.tailFloor = true) (eagle : cfg.useEagle = true)
    (hits : cfg.mambaPartialCacheHit = true) (fine : cfg.hashBlockSize ∣ cfg.blockSize)
    (finer : cfg.hashBlockSize < cfg.blockSize) (req : PrefillRequest)
    (long : cfg.hashBlockSize < req.numPromptTokens) (fresh : req.numTokens = req.numPromptTokens)
    (budgets blocks : Nat → Nat) (positive : ∀ k, 1 ≤ budgets k) :
    let t := (req.numPromptTokens - 1) / cfg.hashBlockSize * cfg.hashBlockSize
    t ∈ chunkEnds cfg req budgets ∧
    (t % cfg.blockSize ≠ 0 → (∀ e, t ≤ e → t / cfg.blockSize < blocks e) →
      RegistersOnly (registered fullAttentionTail cfg req budgets blocks) t ∧
      RegistersOnly (registered mambaTail cfg req budgets blocks) t) ∧
    (t % cfg.blockSize = 0 →
      registered fullAttentionTail cfg req budgets blocks = [] ∧
      registered mambaTail cfg req budgets blocks = []) ∧
    (∀ p, p ∈ registered fullAttentionTail cfg req budgets blocks ∨
      p ∈ registered mambaTail cfg req budgets blocks → p ≤ t) ∧
    (∀ q, cfg.hashBlockSize ∣ q → q ≤ req.numPromptTokens - 1 → q ≤ t) ∧
    (req.numPromptTokens % cfg.hashBlockSize ≠ 0 →
      chunkEnds cfg req budgets = chunkEnds { cfg with tailFloor := false } req budgets ∧
      registered fullAttentionTail cfg req budgets blocks =
        registered fullAttentionTail { cfg with tailFloor := false } req budgets blocks ∧
      registered mambaTail cfg req budgets blocks =
        registered mambaTail { cfg with tailFloor := false } req budgets blocks) := by
  intro t
  have deep : 0 < t := (boundary_lt cfg.hash_positive long).1
  have reached : t ∈ chunkEnds cfg req budgets :=
    tail_boundary_reached cfg req align tail eagle hits fine finer long fresh budgets positive
  have fullOnly : ∀ e p, fullAttentionTail cfg req.numPromptTokens (blocks e) e = some p →
      p = t ∧ p % cfg.blockSize ≠ 0 := fun e p found => full_attention_registers tail found
  have mambaOnly : ∀ e p, mambaTail cfg req.numPromptTokens (blocks e) e = some p →
      p = t ∧ p % cfg.blockSize ≠ 0 := fun e p found => mamba_registers tail found
  refine ⟨reached, ?_, ?_, ?_, fun q grid => boundary_greatest q grid, ?_⟩
  · intro offPage room
    have space := room t (Nat.le_refl t)
    constructor
    · exact site_registers_only fullOnly reached
        (full_attention_at_boundary tail deep offPage space)
    · exact site_registers_only mambaOnly reached (mamba_at_boundary tail finer offPage space)
  · intro onPage
    exact ⟨site_registers_nothing fullOnly onPage, site_registers_nothing mambaOnly onPage⟩
  · rintro p (member | member)
    · exact Nat.le_of_eq (site_within fullOnly p member)
    · exact Nat.le_of_eq (site_within mambaOnly p member)
  · intro offGrid
    have same : { cfg with tailFloor := true } = cfg := by rw [← tail]
    have unobserved := tail_floor_unobserved cfg req budgets blocks offGrid
    rw [same] at unobserved
    exact unobserved

def tailFloorConfig : SplitConfig :=
  ⟨3584, 64, 3584, 0, true, true, true, true, Nat.succ_pos _, Nat.succ_pos _⟩

theorem tail_floor_reaches_boundary_7168 :
    (7168 - 1) / 64 * 64 ∈ chunkEnds tailFloorConfig ⟨0, 7168, 7168, 0⟩ fun _ => 3584 :=
  (tail_floor_reaches_boundary tailFloorConfig rfl rfl rfl rfl (by decide) (by decide)
    ⟨0, 7168, 7168, 0⟩ (by decide) rfl (fun _ => 3584) (fun _ => 64) (fun _ => by decide)).1

end ChunkSplit
