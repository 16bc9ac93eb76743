import Glm53Overlay.FusedMoe.RowTiles

/-!
The launches of the row tiles as data: the counts each passes and the positions it gathers,
for any buffer whose slots are sorted by expert with the sentinels last.
-/
namespace FusedMoe
open SegmentedRange
variable {X XH MH V W : Type}

/-- The counts a launch passes and the positions its slots are gathered from. -/
structure TileLaunch where
  tileEc : List Nat
  src : List Nat

/-- The launches of `_exl3_moe_row_tiles`; a tile without rows is skipped. -/
def tileLaunches (counts : List Nat) (tile maxRows : Nat) : List TileLaunch :=
  let starts := 0 :: cumsum counts.dropLast
  (List.range ((maxRows + tile - 1) / tile)).filterMap fun t =>
    let row0 := t * tile
    let tileCounts := counts.map fun c => min (c - row0) tile
    let nTile := tileCounts.sum
    if nTile = 0 then none
    else some
      { tileEc := tileCounts ++ [0]
        src := (List.range nTile).map fun i =>
          let located := locate tileCounts i
          starts.getD located.1 0 + row0 + located.2 }

def runLaunches (x : Nat → X) (dev : Device X XH MH V W) (tokens : List Nat) (weights : List W)
    (launches : List TileLaunch) (out : Rows V) : Rows V :=
  launches.foldl (fun out l =>
    dev.exl3Moe x out l.tileEc (indexSelect tokens l.src) (indexSelect weights l.src)) out

theorem row_tiles_launches (x : Nat → X) (dev : Device X XH MH V W) (counts tokens : List Nat)
    (weights : List W) (maxRows : Nat) (out : Rows V) :
    exl3MoeRowTiles x dev counts tokens weights maxRows out =
      runLaunches x dev tokens weights (tileLaunches counts dev.cap maxRows) out := by
  rw [exl3MoeRowTiles, runLaunches, tileLaunches]
  generalize List.range ((maxRows + dev.cap - 1) / dev.cap) = tiles
  induction tiles generalizing out with
  | nil => rfl
  | cons t rest ih =>
    rw [List.foldl_cons, List.filterMap_cons, ih]
    by_cases empty : (counts.map fun c => min (c - t * dev.cap) dev.cap).sum = 0
    · simp only [empty, ↓reduceIte]
    · simp only [empty, ↓reduceIte, List.foldl_cons]

/-- What the launches have to do: no expert over the tile, slots grouped as the counts say,
    positions inside the buffers, and every slot of a local expert gathered once. -/
structure CoversSlots (counts experts : List Nat) (tile : Nat) (launches : List TileLaunch) :
    Prop where
  within : ∀ l ∈ launches, l.tileEc.length = counts.length + 1 ∧ ∀ c ∈ l.tileEc, c ≤ tile
  grouped : ∀ l ∈ launches, l.src.map (experts.getD · 0) =
    (List.range l.tileEc.length).flatMap fun e => List.replicate (l.tileEc.getD e 0) e
  inside : ∀ l ∈ launches, ∀ p ∈ l.src, p < experts.length
  once : (launches.flatMap TileLaunch.src).Perm
    ((List.range experts.length).filter fun p => experts.getD p 0 < counts.length)

section Positions
variable (counts : List Nat) (tile : Nat)

def tilePositions (t : Nat) : List Nat :=
  (List.range counts.length).flatMap fun e =>
    (List.range (min (counts.getD e 0 - t * tile) tile)).map fun j =>
      (counts.take e).sum + t * tile + j

theorem tile_src_eq (t : Nat) :
    ((List.range (counts.map fun c => min (c - t * tile) tile).sum).map fun i =>
      (0 :: cumsum counts.dropLast).getD
          (locate (counts.map fun c => min (c - t * tile) tile) i).1 0 + t * tile +
        (locate (counts.map fun c => min (c - t * tile) tile) i).2) =
      tilePositions counts tile t := by
  have visit := congrArg (List.map fun q : Nat × Nat =>
    (0 :: cumsum counts.dropLast).getD q.1 0 + t * tile + q.2)
    (range_locate (counts.map fun c => min (c - t * tile) tile))
  rw [List.map_map, rows, List.map_flatMap, List.length_map] at visit
  refine visit.trans ?_
  apply List.flatMap_congr
  intro e member
  have known := List.mem_range.mp member
  have count : (counts.map fun c => min (c - t * tile) tile).getD e 0 =
      min (counts.getD e 0 - t * tile) tile := by
    simp [List.getD_eq_getElem?_getD, known]
  rw [count, List.map_map]
  simp only [Function.comp_def, shifted_cumsum_at counts e known]

theorem launches_src (maxRows : Nat) :
    (tileLaunches counts tile maxRows).flatMap TileLaunch.src =
      (List.range ((maxRows + tile - 1) / tile)).flatMap (tilePositions counts tile) := by
  rw [tileLaunches]
  generalize List.range ((maxRows + tile - 1) / tile) = tiles
  induction tiles with
  | nil => rfl
  | cons t rest ih =>
    have here := tile_src_eq counts tile t
    rw [List.filterMap_cons, List.flatMap_cons, ← ih]
    by_cases empty : (counts.map fun c => min (c - t * tile) tile).sum = 0
    · rw [empty] at here
      simp only [empty, ↓reduceIte, ← here, List.range_zero, List.map_nil, List.nil_append]
    · simp only [empty, ↓reduceIte, List.flatMap_cons, here]

theorem launch_shape {maxRows : Nat} {l : TileLaunch}
    (member : l ∈ tileLaunches counts tile maxRows) :
    ∃ t, l.tileEc = (counts.map fun c => min (c - t * tile) tile) ++ [0] ∧
      l.src = tilePositions counts tile t := by
  obtain ⟨t, _, made⟩ := List.mem_filterMap.mp member
  by_cases empty : (counts.map fun c => min (c - t * tile) tile).sum = 0
  · simp [empty] at made
  · simp only [empty, ↓reduceIte, Option.some.injEq] at made
    exact ⟨t, by rw [← made], by rw [← made, ← tile_src_eq]⟩

theorem tiles_perm (positive : 1 ≤ tile) (maxRows : Nat)
    (most : ∀ e < counts.length, counts.getD e 0 ≤ maxRows) :
    ((List.range ((maxRows + tile - 1) / tile)).flatMap (tilePositions counts tile)).Perm
      (List.range counts.sum) := by
  apply (flatMap_swap_perm _ _ _).trans
  apply List.Perm.of_eq
  have places := congrArg (List.map fun q : Nat × Nat => (counts.take q.1).sum + q.2)
    (range_locate counts)
  have same : ((List.range counts.sum).map fun i =>
      (counts.take (locate counts i).1).sum + (locate counts i).2) = List.range counts.sum := by
    conv_rhs => rw [← List.map_id (List.range counts.sum)]
    apply List.map_congr_left
    intro i member
    exact (locate_spec counts i (List.mem_range.mp member)).2.2
  rw [List.map_map, rows, List.map_flatMap] at places
  refine Eq.trans ?_ (places.symm.trans same)
  apply List.flatMap_congr
  intro e member
  have bound := most e (List.mem_range.mp member)
  have enough : counts.getD e 0 ≤ (maxRows + tile - 1) / tile * tile := by
    have division := Nat.div_add_mod (maxRows + tile - 1) tile
    have remainder := Nat.mod_lt (maxRows + tile - 1) positive
    rw [Nat.mul_comm] at division
    omega
  rw [List.map_map, ← tiles_cover _ tile _ enough, List.map_flatMap]
  simp [Function.comp_def, Nat.add_assoc]
end Positions

section Sorted
variable (counts experts : List Nat) (sorted : experts.Pairwise (· ≤ ·))
  (counted : ∀ e < counts.length, counts.getD e 0 = experts.count e)

include sorted in
theorem experts_split :
    experts = (List.range counts.length).flatMap (fun e => experts.filter fun k => k = e) ++
      experts.filter fun k => counts.length ≤ k :=
  SortedRuns.sorted_runs id experts sorted counts.length

include counted in
theorem run_sizes :
    sizes (fun e => experts.filter fun k => k = e) counts.length = counts := by
  apply List.ext_getElem?
  intro e
  by_cases known : e < counts.length
  · have count := counted e known
    rw [List.count_eq_countP, List.countP_eq_length_filter] at count
    simp only [List.getD_eq_getElem?_getD, List.getElem?_eq_getElem known, Option.getD_some]
      at count
    simp only [sizes, List.getElem?_map, List.getElem?_range known, Option.map_some,
      List.getElem?_eq_getElem known, count]
    rfl
  · simp [sizes, known]

include sorted counted in
theorem expert_at (e j : Nat) (known : e < counts.length) (row : j < counts.getD e 0) :
    experts[(counts.take e).sum + j]? = some e := by
  have split := experts_split counts experts sorted
  have run := run_sizes counts experts counted
  have size := sizes_at (fun e => experts.filter fun k => k = e) counts.length e known
  rw [run] at size
  have item := item_of_group (fun e => experts.filter fun k => k = e) counts.length
    (experts.filter fun k => counts.length ≤ k) e j known (by rw [← size]; exact row)
  rw [run] at item
  rw [← split] at item
  have here : j < (experts.filter fun k => k = e).length := by rw [← size]; exact row
  rw [item, List.getElem?_eq_getElem here]
  have owner := (List.mem_filter.mp (List.getElem_mem here)).2
  simpa using owner

include sorted counted in
theorem local_slots :
    ((List.range experts.length).filter fun p => experts.getD p 0 < counts.length) =
      List.range counts.sum := by
  have split := experts_split counts experts sorted
  have run := run_sizes counts experts counted
  have first := sizes_sum (fun e => experts.filter fun k => k = e) counts.length
  rw [run] at first
  have total := congrArg List.length split
  rw [List.length_append] at total
  have shape : experts.length =
      counts.sum + (experts.filter fun k => counts.length ≤ k).length := by
    rw [first]
    exact total
  rw [shape, List.range_add, List.filter_append]
  have locals : (List.range counts.sum).filter (fun p => experts.getD p 0 < counts.length) =
      List.range counts.sum := by
    rw [List.filter_eq_self]
    intro p member
    obtain ⟨known, row, place⟩ := locate_spec counts p (List.mem_range.mp member)
    have owner := expert_at counts experts sorted counted _ _ known row
    rw [place] at owner
    simpa [List.getD_eq_getElem?_getD, owner] using known
  have sentinels : ((List.range (experts.filter fun k => counts.length ≤ k).length).map
      (counts.sum + ·)).filter (fun p => experts.getD p 0 < counts.length) = [] := by
    rw [List.filter_eq_nil_iff]
    intro p member
    obtain ⟨k, inside, rfl⟩ := List.mem_map.mp member
    have room := List.mem_range.mp inside
    have item : experts[counts.sum + k]? = (experts.filter fun k => counts.length ≤ k)[k]? := by
      conv_lhs => rw [split, first]
      rw [List.getElem?_append_right (Nat.le_add_right _ _), Nat.add_sub_cancel_left]
    rw [List.getElem?_eq_getElem room] at item
    have above := (List.mem_filter.mp (List.getElem_mem room)).2
    simpa [List.getD_eq_getElem?_getD, item] using above
  rw [locals, sentinels, List.append_nil]

include sorted counted in
theorem tile_grouped (tile t : Nat) :
    (tilePositions counts tile t).map (experts.getD · 0) =
      (List.range ((counts.map fun c => min (c - t * tile) tile) ++ [0]).length).flatMap fun e =>
        List.replicate (((counts.map fun c => min (c - t * tile) tile) ++ [0]).getD e 0) e := by
  rw [tilePositions, List.map_flatMap, List.length_append, List.length_map, List.length_singleton,
    List.range_succ, List.flatMap_append]
  have last : ((counts.map fun c => min (c - t * tile) tile) ++ [0]).getD counts.length 0 = 0 := by
    simp [List.getD_eq_getElem?_getD]
  rw [List.flatMap_singleton, last, List.replicate_zero, List.append_nil]
  apply List.flatMap_congr
  intro e member
  have known := List.mem_range.mp member
  have count : ((counts.map fun c => min (c - t * tile) tile) ++ [0]).getD e 0 =
      min (counts.getD e 0 - t * tile) tile := by
    simp [List.getD_eq_getElem?_getD, List.getElem?_append, known]
  rw [count, List.map_map, List.eq_replicate_iff]
  constructor
  · simp
  · intro k slot
    obtain ⟨j, inside, rfl⟩ := List.mem_map.mp slot
    have row := List.mem_range.mp inside
    have owner := expert_at counts experts sorted counted e (t * tile + j) known (by omega)
    rw [← Nat.add_assoc] at owner
    simp [List.getD_eq_getElem?_getD, owner]
end Sorted

/-- The row tiles gather every slot of every local expert once and no sentinel slot. -/
theorem row_tiles_cover_slots (x : Nat → X) (dev : Device X XH MH V W)
    (counts experts tokens : List Nat) (weights : List W) (maxRows : Nat) (out : Rows V)
    (most : counts.max? = some maxRows) (tile : 1 ≤ dev.cap)
    (sorted : experts.Pairwise (· ≤ ·))
    (counted : ∀ e < counts.length, counts.getD e 0 = experts.count e)
    (tokenSlots : tokens.length = experts.length) (weightSlots : weights.length = experts.length) :
    exl3MoeRowTiles x dev counts tokens weights maxRows out =
        runLaunches x dev tokens weights (tileLaunches counts dev.cap maxRows) out ∧
      (∀ l ∈ tileLaunches counts dev.cap maxRows, ∀ p ∈ l.src,
        p < tokens.length ∧ p < weights.length) ∧
      CoversSlots counts experts dev.cap (tileLaunches counts dev.cap maxRows) := by
  have bound : ∀ e < counts.length, counts.getD e 0 ≤ maxRows := by
    intro e known
    rw [List.getD_eq_getElem?_getD, List.getElem?_eq_getElem known, Option.getD_some]
    exact (List.max?_eq_some_iff.mp most).2 _ (List.getElem_mem known)
  have cover : ((tileLaunches counts dev.cap maxRows).flatMap TileLaunch.src).Perm
      ((List.range experts.length).filter fun p => experts.getD p 0 < counts.length) := by
    rw [local_slots counts experts sorted counted, launches_src]
    exact tiles_perm counts dev.cap tile maxRows bound
  have inside : ∀ l ∈ tileLaunches counts dev.cap maxRows, ∀ p ∈ l.src, p < experts.length := by
    intro l member p slot
    have gathered := cover.mem_iff.mp (List.mem_flatMap.mpr ⟨l, member, slot⟩)
    exact List.mem_range.mp (List.mem_filter.mp gathered).1
  refine ⟨row_tiles_launches x dev counts tokens weights maxRows out, ?_, ?_⟩
  · intro l member p slot
    have room := inside l member p slot
    omega
  constructor
  case within =>
    intro l member
    obtain ⟨t, ec, _⟩ := launch_shape counts dev.cap member
    rw [ec]
    constructor
    · simp
    · intro c count
      rcases List.mem_append.mp count with expert | sentinel
      · obtain ⟨_, _, rfl⟩ := List.mem_map.mp expert
        exact Nat.min_le_right _ _
      · rw [List.mem_singleton.mp sentinel]
        exact Nat.zero_le _
  case grouped =>
    intro l member
    obtain ⟨t, ec, src⟩ := launch_shape counts dev.cap member
    rw [ec, src]
    exact tile_grouped counts experts sorted counted dev.cap t
  case inside => exact inside
  case once => exact cover

/-- Tiles of two over an empty expert, one of five slots, one of two, and a sentinel slot. -/
theorem row_tiles_cover_sample :
    let dev : Device Unit Unit Unit Nat Nat :=
      ⟨id, fun _ out _ tokens _ => fun t => out t + tokens.count t, 2, 64, 64,
        fun _ => (), fun _ => ()⟩
    exl3MoeRowTiles (fun _ => ()) dev [0, 5, 2] [0, 1, 2, 3, 4, 0, 1, 2] (List.replicate 8 1) 5
        (fun _ => 0) =
      runLaunches (fun _ => ()) dev [0, 1, 2, 3, 4, 0, 1, 2] (List.replicate 8 1)
        (tileLaunches [0, 5, 2] 2 5) (fun _ => 0) ∧
      (∀ l ∈ tileLaunches [0, 5, 2] 2 5, ∀ p ∈ l.src,
        p < [0, 1, 2, 3, 4, 0, 1, 2].length ∧ p < (List.replicate 8 1).length) ∧
      CoversSlots [0, 5, 2] [1, 1, 1, 1, 1, 2, 2, 3] 2 (tileLaunches [0, 5, 2] 2 5) :=
  row_tiles_cover_slots _ ⟨id, fun _ out _ tokens _ => fun t => out t + tokens.count t, 2, 64, 64,
    fun _ => (), fun _ => ()⟩ _ _ _ _ 5 _ (by decide) (by decide) (by decide) (by decide) (by decide)
    (by decide)
end FusedMoe
