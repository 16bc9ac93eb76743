import Glm53Overlay.FusedMoe.GroupedTables

/-!
The layout of the grouped tables for any counts, capacity and tile height. The tables over
real buffers are read through the tables over the positions themselves, so the group lemmas
say which position every row comes from.
-/
namespace FusedMoe
open SegmentedRange
variable {W : Type}

def Belongs (counts : List Nat) (e p : Nat) : Prop :=
  (counts.take e).sum ≤ p ∧ p < (counts.take e).sum + counts.getD e 0

instance (counts : List Nat) (e p : Nat) : Decidable (Belongs counts e p) :=
  inferInstanceAs (Decidable (_ ∧ _))

def fatPositions (counts : List Nat) (cap : Nat) : List Nat :=
  (List.range counts.sum).filter fun p =>
    ∃ e < counts.length, Belongs counts e p ∧ cap < counts.getD e 0

/-- What the tables have to say: the sizes, the segments, and where the rows come from. -/
structure DescribesFatRows (counts : List Nat) (cap rowsCap tileRows : Nat) (tokens : List Nat)
    (weights : List W) (t : FatTables W) : Prop where
  numRows : t.numRows = (counts.filter fun c => cap < c).sum
  rowsFit : t.numRows ≤ t.rowExpert.length ∧ t.rowExpert.length = rowsCap
  segsFit : t.numSegs ≤ t.segExpert.length ∧
    t.segExpert.length = (rowsCap + tileRows - 1) / tileRows + counts.length
  segTables : t.segRow0.length = t.segExpert.length ∧ t.segRows.length = t.segExpert.length
  segment : ∀ s < t.numSegs, 1 ≤ t.segRows.getD s 0 ∧ t.segRows.getD s 0 ≤ tileRows ∧
    t.segExpert.getD s 0 < counts.length ∧ cap < counts.getD (t.segExpert.getD s 0) 0
  consecutive : Consecutive 0 t.numRows ((List.range t.numSegs).map fun s =>
    (t.segRow0.getD s 0, t.segRow0.getD s 0 + t.segRows.getD s 0))
  rowExpert : ∀ s < t.numSegs, ∀ i < t.segRows.getD s 0,
    t.rowExpert.getD (t.segRow0.getD s 0 + i) 0 = t.segExpert.getD s 0
  rowToken : t.rowToken.take t.numRows = indexSelect tokens (fatPositions counts cap)
  rowWeight : t.rowWeight.take t.numRows = indexSelect weights (fatPositions counts cap)

section Positions
variable (counts : List Nat) (cap rowsCap : Nat)

def positionGroup (e : Nat) : List (Nat × Unit) :=
  (List.range (counts.getD e 0)).map fun j => ((counts.take e).sum + j, ())

def positionRest : List (Nat × Unit) :=
  (List.range (rowsCap - counts.sum)).map fun j => (counts.sum + j, ())

theorem position_sizes : sizes (positionGroup counts) counts.length = counts := by
  apply List.ext_getElem?
  intro e
  by_cases inside : e < counts.length
  · simp [sizes, positionGroup, inside]
  · simp [sizes, inside]

theorem position_rows :
    (List.range counts.length).flatMap (positionGroup counts) =
      (List.range counts.sum).map fun p => (p, ()) := by
  have places : ((List.range counts.sum).map fun i =>
      (((counts.take (locate counts i).1).sum + (locate counts i).2, ()) : Nat × Unit)) =
        (List.range counts.sum).map fun p => (p, ()) := by
    apply List.map_congr_left
    intro i member
    rw [(locate_spec counts i (List.mem_range.mp member)).2.2]
  have visited := congrArg (List.map fun q : Nat × Nat =>
    (((counts.take q.1).sum + q.2, ()) : Nat × Unit)) (range_locate counts)
  rw [List.map_map, rows, List.map_flatMap] at visited
  rw [← places]
  simp only [Function.comp_def, List.map_map] at visited
  exact visited.symm

theorem position_buffer (room : counts.sum ≤ rowsCap) :
    buffer (positionGroup counts) counts.length (positionRest counts rowsCap) =
      (List.range rowsCap).map fun p => (p, ()) := by
  obtain ⟨spare, rfl⟩ := Nat.exists_eq_add_of_le room
  rw [buffer, position_rows, positionRest, Nat.add_sub_cancel_left, List.range_add,
    List.map_append, List.map_map]
  rfl

def positionTables (tileRows : Nat) : FatTables Unit :=
  tablesOf (positionGroup counts) cap counts.length (positionRest counts rowsCap) tileRows

theorem position_tables_eq (tileRows : Nat) (room : counts.sum ≤ rowsCap) :
    positionTables counts cap rowsCap tileRows =
      buildGroupedFatTables counts cap (List.range rowsCap) (List.replicate rowsCap ())
        rowsCap tileRows := by
  rw [positionTables, tablesOf, position_sizes, position_buffer counts rowsCap room]
  simp [Function.comp_def]

theorem fat_sizes_at (e : Nat) :
    (fatGroup (positionGroup counts) cap e).length =
      if cap < counts.getD e 0 then counts.getD e 0 else 0 := by
  unfold fatGroup
  have length : (positionGroup counts e).length = counts.getD e 0 := by simp [positionGroup]
  rw [length]
  split <;> simp [length]

theorem fat_sizes_sum :
    (sizes (fatGroup (positionGroup counts) cap) counts.length).sum =
      (counts.filter fun c => cap < c).sum := by
  rw [← fat_rows_eq, position_sizes]
  induction counts with
  | nil => rfl
  | cons c rest ih =>
    by_cases fat : cap < c
    · simp [fat, ih]
    · simp [fat, ih]
end Positions

section Belonging
variable (counts : List Nat)

theorem belongs_unique {e other p : Nat} (here : Belongs counts e p)
    (there : Belongs counts other p) (known : e < counts.length) : ¬ e < other := by
  intro before
  have step : (counts.take e).sum + counts.getD e 0 = (counts.take (e + 1)).sum := by
    rw [List.take_add_one, List.sum_append, List.getD_eq_getElem?_getD,
      List.getElem?_eq_getElem known]
    simp
  have ordered : (counts.take (e + 1)).sum ≤ (counts.take other).sum :=
    List.monotone_sum_take counts before
  have below := here.2
  have above := there.1
  omega

theorem fat_positions_eq (cap : Nat) :
    (fatPositions counts cap).map (fun p => (p, ())) =
      (List.range counts.length).flatMap (fatGroup (positionGroup counts) cap) := by
  have kept : (fatPositions counts cap).map (fun p => (p, ())) =
      ((List.range counts.sum).map fun p => (p, ())).filter fun s : Nat × Unit =>
        ∃ e < counts.length, Belongs counts e s.1 ∧ cap < counts.getD e 0 := by
    rw [List.filter_map]
    rfl
  rw [kept, ← position_rows, List.filter_flatMap]
  apply List.flatMap_congr
  intro e member
  have known := List.mem_range.mp member
  have length : (positionGroup counts e).length = counts.getD e 0 := by simp [positionGroup]
  have owned : ∀ s ∈ positionGroup counts e,
      (∃ other < counts.length, Belongs counts other s.1 ∧ cap < counts.getD other 0) ↔
        cap < counts.getD e 0 := by
    intro s slot
    obtain ⟨j, inside, rfl⟩ := List.mem_map.mp slot
    have here : Belongs counts e ((counts.take e).sum + j) :=
      ⟨Nat.le_add_right _ _, Nat.add_lt_add_left (List.mem_range.mp inside) _⟩
    constructor
    · rintro ⟨other, found, there, fat⟩
      have before := belongs_unique counts here there known
      have after := belongs_unique counts there here found
      have same : other = e := by omega
      exact same ▸ fat
    · intro fat
      exact ⟨e, known, here, fat⟩
  rw [fatGroup, length]
  by_cases fat : cap < counts.getD e 0
  · rw [if_pos fat, List.filter_eq_self]
    intro s slot
    simpa only [decide_eq_true_eq] using (owned s slot).mpr fat
  · rw [if_neg fat, List.filter_eq_nil_iff]
    intro s slot
    simpa only [decide_eq_true_eq] using fun some_fat => fat ((owned s slot).mp some_fat)
end Belonging

section Select
variable {α : Type}

theorem index_select_positions (m : Nat) (index : List Nat) (inside : ∀ i ∈ index, i < m) :
    indexSelect (List.range m) index = index := by
  unfold indexSelect
  conv_rhs => rw [← List.filterMap_some (l := index)]
  apply List.filterMap_congr
  intro i member
  simp [inside i member]

theorem index_select_take (values : List α) (index : List Nat) (m : Nat)
    (inside : ∀ i ∈ index, i < values.length) :
    (indexSelect values index).take m = indexSelect values (index.take m) := by
  apply List.ext_getElem?
  intro r
  have kept : ∀ i ∈ index.take m, i < values.length := fun i member =>
    inside i (List.mem_of_mem_take member)
  rw [index_select_at values _ kept, List.getElem?_take, List.getElem?_take]
  split
  · exact index_select_at values index inside r
  · rfl
end Select

section Layout
variable (counts : List Nat) (cap rowsCap tileRows : Nat)

def rowPositions : List Nat := (positionTables counts cap rowsCap tileRows).rowToken

theorem row_tables_select (tokens : List Nat) (weights : List W)
    (some_row : 1 ≤ rowsCap) (room : counts.sum ≤ rowsCap) :
    (∀ p ∈ rowPositions counts cap rowsCap tileRows, p < rowsCap) ∧
      (rowPositions counts cap rowsCap tileRows).length = rowsCap ∧
      (buildGroupedFatTables counts cap tokens weights rowsCap tileRows).rowToken =
        indexSelect tokens (rowPositions counts cap rowsCap tileRows) ∧
      (buildGroupedFatTables counts cap tokens weights rowsCap tileRows).rowWeight =
        indexSelect weights (rowPositions counts cap rowsCap tileRows) := by
  rw [rowPositions, position_tables_eq counts cap rowsCap tileRows room]
  simp only [buildGroupedFatTables]
  generalize sources : (List.range rowsCap).map _ = src
  have inside : ∀ p ∈ src, p < rowsCap := by
    intro p member
    rw [← sources] at member
    obtain ⟨r, _, rfl⟩ := List.mem_map.mp member
    omega
  rw [index_select_positions rowsCap src inside]
  refine ⟨inside, ?_, rfl, rfl⟩
  rw [← sources, List.length_map, List.length_range]

theorem positions_fit (room : counts.sum ≤ rowsCap) :
    (sizes (fatGroup (positionGroup counts) cap) counts.length).sum ≤ rowsCap := by
  have fit := fat_rows_fit (positionGroup counts) cap counts.length (positionRest counts rowsCap)
  rw [position_buffer counts rowsCap room] at fit
  simpa using fit

theorem row_positions_take (some_row : 1 ≤ rowsCap) (room : counts.sum ≤ rowsCap) :
    (rowPositions counts cap rowsCap tileRows).take (counts.filter fun c => cap < c).sum =
      fatPositions counts cap := by
  obtain ⟨_, length, _⟩ := row_tables_select (W := Unit) counts cap rowsCap tileRows [] []
    some_row room
  have fit := positions_fit counts cap rowsCap room
  have total := sizes_sum (fatGroup (positionGroup counts) cap) counts.length
  rw [← fat_positions_eq, List.length_map] at total
  rw [← fat_sizes_sum]
  apply List.ext_getElem?
  intro r
  by_cases live : r < (sizes (fatGroup (positionGroup counts) cap) counts.length).sum
  · obtain ⟨s, slot, _, token, _⟩ := row_at (positionGroup counts) cap counts.length
      (positionRest counts rowsCap) tileRows r live
    obtain ⟨known, row, place⟩ := locate_spec _ r live
    rw [sizes_length] at known
    rw [sizes_at _ _ _ known] at row
    have item := item_of_group (fatGroup (positionGroup counts) cap) counts.length [] _ _ known row
    rw [List.append_nil, place, ← fat_positions_eq, slot, List.getElem?_map] at item
    have here : (fatPositions counts cap)[r]? = some s.1 := by
      cases found : (fatPositions counts cap)[r]? with
      | none => simp [found] at item
      | some p =>
        rw [found, Option.map_some, Option.some.injEq] at item
        rw [← item]
    have stored : r < (rowPositions counts cap rowsCap tileRows).length := by omega
    have value : (rowPositions counts cap rowsCap tileRows).getD r 0 = s.1 := token
    rw [List.getD_eq_getElem?_getD, List.getElem?_eq_getElem stored, Option.getD_some] at value
    rw [List.getElem?_take_of_lt live, here, List.getElem?_eq_getElem stored, value]
  · have past : (fatPositions counts cap).length ≤ r := by omega
    rw [List.getElem?_eq_none past, List.getElem?_eq_none]
    rw [List.length_take]
    omega

theorem segment_slice (tile : 1 ≤ tileRows) (s : Nat)
    (live : s < (positionTables counts cap rowsCap tileRows).numSegs) :
    1 ≤ (positionTables counts cap rowsCap tileRows).segRows.getD s 0 ∧
      (positionTables counts cap rowsCap tileRows).segRows.getD s 0 ≤ tileRows ∧
      (positionTables counts cap rowsCap tileRows).segExpert.getD s 0 < counts.length ∧
      cap < counts.getD ((positionTables counts cap rowsCap tileRows).segExpert.getD s 0) 0 := by
  rw [positionTables, num_segs_eq] at live
  obtain ⟨expert, _, count⟩ := segment_at (positionGroup counts) cap counts.length
    (positionRest counts rowsCap) tileRows tile s live
  obtain ⟨known, inside, _⟩ := locate_spec _ s live
  rw [positionTables, expert, count]
  generalize locate (segments (positionGroup counts) cap counts.length tileRows) s = q at *
  rw [segments_length] at known
  have size := sizes_at (fatGroup (positionGroup counts) cap) counts.length q.1 known
  have fat := fat_sizes_at counts cap q.1
  have slices : (segments (positionGroup counts) cap counts.length tileRows).getD q.1 0 =
      ((fatGroup (positionGroup counts) cap q.1).length + (tileRows - 1)) / tileRows := by
    simp [segments, sizes, List.getD_eq_getElem?_getD, known]
  rw [slices] at inside
  have division := Nat.div_mul_le_self
    ((fatGroup (positionGroup counts) cap q.1).length + (tileRows - 1)) tileRows
  have earlier := Nat.mul_le_mul_right tileRows (Nat.succ_le_of_lt inside)
  rw [Nat.succ_mul] at earlier
  have remains : 1 ≤ (fatGroup (positionGroup counts) cap q.1).length - q.2 * tileRows := by omega
  rw [size]
  refine ⟨by omega, Nat.min_le_right _ _, known, ?_⟩
  by_contra thin
  rw [fat, if_neg thin] at remains
  omega

theorem segments_consecutive (tile : 1 ≤ tileRows) :
    Consecutive 0 (positionTables counts cap rowsCap tileRows).numRows
      ((List.range (positionTables counts cap rowsCap tileRows).numSegs).map fun s =>
        ((positionTables counts cap rowsCap tileRows).segRow0.getD s 0,
          (positionTables counts cap rowsCap tileRows).segRow0.getD s 0 +
            (positionTables counts cap rowsCap tileRows).segRows.getD s 0)) := by
  apply consecutive_of_cover (Nat.zero_le _)
  · intro r member
    obtain ⟨s, live, rfl⟩ := List.mem_map.mp member
    obtain ⟨nonempty, _⟩ := segment_slice counts cap rowsCap tileRows tile s (List.mem_range.mp live)
    dsimp only
    omega
  · have rows := congrArg (List.map Prod.snd) (visited_eq (positionGroup counts) cap counts.length
      (positionRest counts rowsCap) tileRows tile)
    rw [List.map_map, ← num_rows_eq _ _ _ (positionRest counts rowsCap) tileRows, FatTables.visited,
      List.map_flatMap] at rows
    rw [List.flatMap_map, Nat.sub_zero, ← List.range_eq_range']
    simp only [List.map_map, Function.comp_def, List.map_id'] at rows
    simp only [Nat.add_sub_cancel_left, List.range'_eq_map_range]
    exact rows

theorem covering_expert (tile : 1 ≤ tileRows) (s : Nat)
    (live : s < (positionTables counts cap rowsCap tileRows).numSegs) (i : Nat)
    (inside : i < (positionTables counts cap rowsCap tileRows).segRows.getD s 0) :
    (positionTables counts cap rowsCap tileRows).rowExpert.getD
        ((positionTables counts cap rowsCap tileRows).segRow0.getD s 0 + i) 0 =
      (positionTables counts cap rowsCap tileRows).segExpert.getD s 0 := by
  have visit : ((positionTables counts cap rowsCap tileRows).segExpert.getD s 0,
      (positionTables counts cap rowsCap tileRows).segRow0.getD s 0 + i) ∈
        (positionTables counts cap rowsCap tileRows).visited :=
    List.mem_flatMap.mpr ⟨s, List.mem_range.mpr live, List.mem_map.mpr
      ⟨i, List.mem_range.mpr inside, rfl⟩⟩
  rw [positionTables, visited_eq _ _ _ _ _ tile, ← positionTables] at visit
  obtain ⟨r, row, same⟩ := List.mem_map.mp visit
  obtain ⟨expert, place⟩ := Prod.mk.inj same
  obtain ⟨_, _, owner, _⟩ := row_at (positionGroup counts) cap counts.length
    (positionRest counts rowsCap) tileRows r (List.mem_range.mp row)
  rw [← place, ← expert]
  exact owner
end Layout

end FusedMoe
