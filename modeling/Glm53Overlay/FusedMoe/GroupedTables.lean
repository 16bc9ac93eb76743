import Glm53Overlay.FusedMoe.ExpertGroups

/-!
The device-side tables of the grouped tier. The fat rows lie back to back in expert
order; the segments of either tile height visit each of them once, under its expert, and
the row tables hold the slot the row came from.
-/
namespace FusedMoe
open SegmentedRange
variable {S D X XH M MH V W : Type}

section Tables
variable (groups : Nat → List (Nat × W)) (cap n : Nat) (rest : List (Nat × W)) (tile : Nat)

def fatGroup (e : Nat) : List (Nat × W) := if cap < (groups e).length then groups e else []

theorem fat_rows_eq :
    ((sizes groups n).map fun c => if cap < c then c else 0) = sizes (fatGroup groups cap) n := by
  simp only [sizes, List.map_map]
  apply List.map_congr_left
  intro e _
  by_cases fat : cap < (groups e).length <;> simp [fatGroup, fat]

theorem fat_rows_fit : (sizes (fatGroup groups cap) n).sum ≤ (buffer groups n rest).length := by
  rw [buffer_length, ← fat_rows_eq]
  induction sizes groups n with
  | nil => simp
  | cons c later ih =>
    simp only [List.map_cons, List.sum_cons]
    split <;> omega

def tablesOf : FatTables W :=
  buildGroupedFatTables (sizes groups n) cap ((buffer groups n rest).map Prod.fst)
    ((buffer groups n rest).map Prod.snd) (buffer groups n rest).length tile

theorem num_rows_eq :
    (tablesOf groups cap n rest tile).numRows = (sizes (fatGroup groups cap) n).sum := by
  rw [← fat_rows_eq]
  exact cumsum_last _
def segments : List Nat := (sizes (fatGroup groups cap) n).map fun r => (r + (tile - 1)) / tile

theorem segments_length : (segments groups cap n tile).length = n := by
  rw [segments, List.length_map, sizes_length]

theorem num_segs_eq :
    (tablesOf groups cap n rest tile).numSegs = (segments groups cap n tile).sum := by
  rw [segments, ← fat_rows_eq]
  exact cumsum_last _

theorem segments_fit (positive : 0 < tile) :
    (segments groups cap n tile).sum ≤
      ((buffer groups n rest).length + tile - 1) / tile + n := by
  have bound := tiles_bound (sizes (fatGroup groups cap) n) tile positive
  have fit := fat_rows_fit groups cap n rest
  rw [sizes_length] at bound
  have wider : (sizes (fatGroup groups cap) n).sum / tile ≤
      ((buffer groups n rest).length + tile - 1) / tile :=
    Nat.div_le_div_right (by omega)
  exact Nat.le_trans bound (Nat.add_le_add_right wider n)

theorem range_map_getD {α : Type} (m : Nat) (f : Nat → α) (i : Nat) (d : α) (inside : i < m) :
    ((List.range m).map f).getD i d = f i := by
  simp [List.getD_eq_getElem?_getD, inside]

theorem clamped_search (counts : List Nat) (i : Nat) (inside : i < counts.sum) :
    min (searchsortedRight (cumsum counts) i) (counts.length - 1) = (locate counts i).1 := by
  have found := searchsorted_inside counts i inside
  simp only [locate]
  omega

theorem segment_at (positive : 0 < tile) (seg : Nat)
    (inside : seg < (segments groups cap n tile).sum) :
    (tablesOf groups cap n rest tile).segExpert.getD seg 0 =
        (locate (segments groups cap n tile) seg).1 ∧
      (tablesOf groups cap n rest tile).segRow0.getD seg 0 =
        ((sizes (fatGroup groups cap) n).take (locate (segments groups cap n tile) seg).1).sum +
          (locate (segments groups cap n tile) seg).2 * tile ∧
      (tablesOf groups cap n rest tile).segRows.getD seg 0 =
        min ((sizes (fatGroup groups cap) n).getD (locate (segments groups cap n tile) seg).1 0 -
          (locate (segments groups cap n tile) seg).2 * tile) tile := by
  have room := Nat.lt_of_lt_of_le inside (segments_fit groups cap n rest tile positive)
  have expert := clamped_search (segments groups cap n tile) seg inside
  obtain ⟨known, _, place⟩ := locate_spec (segments groups cap n tile) seg inside
  have offset := cumsum_sub_at (segments groups cap n tile) _ known
  rw [segments_length] at expert known
  have row0 := cumsum_sub_at (sizes (fatGroup groups cap) n) _ (by rwa [sizes_length])
  have localTile : seg - ((segments groups cap n tile).take
      (locate (segments groups cap n tile) seg).1).sum =
        (locate (segments groups cap n tile) seg).2 := by omega
  simp only [tablesOf, buildGroupedFatTables, exclCumsum, fat_rows_eq, sizes_length]
  rw [range_map_getD _ _ _ _ room, range_map_getD _ _ _ _ room, range_map_getD _ _ _ _ room]
  have folded : ((sizes (fatGroup groups cap) n).map fun r => (r + (tile - 1)) / tile) =
      segments groups cap n tile := rfl
  simp only [folded, expert, offset, row0, localTile, and_self]
theorem expert_segments (positive : 0 < tile) (e start : Nat) :
    ((List.range (((fatGroup groups cap e).length + (tile - 1)) / tile)).flatMap fun lt =>
      (List.range (min ((fatGroup groups cap e).length - lt * tile) tile)).map fun i =>
        (e, start + lt * tile + i)) =
      (List.range (fatGroup groups cap e).length).map fun j => (e, start + j) := by
  have enough : (fatGroup groups cap e).length ≤
      ((fatGroup groups cap e).length + (tile - 1)) / tile * tile := by
    have division := Nat.div_add_mod ((fatGroup groups cap e).length + (tile - 1)) tile
    have remainder := Nat.mod_lt ((fatGroup groups cap e).length + (tile - 1)) positive
    rw [Nat.mul_comm] at division
    omega
  conv_rhs => rw [← tiles_cover _ tile _ enough, List.map_flatMap]
  apply List.flatMap_congr
  intro lt _
  simp [Function.comp_def, Nat.add_assoc]

def segmentRows (p : Nat × Nat) : List (Nat × Nat) :=
  (List.range (min ((sizes (fatGroup groups cap) n).getD p.1 0 - p.2 * tile) tile)).map fun i =>
    (p.1, ((sizes (fatGroup groups cap) n).take p.1).sum + p.2 * tile + i)

theorem visited_by_segment (positive : 0 < tile) :
    (tablesOf groups cap n rest tile).visited =
      (List.range (segments groups cap n tile).sum).flatMap fun seg =>
        segmentRows groups cap n tile (locate (segments groups cap n tile) seg) := by
  rw [FatTables.visited, num_segs_eq]
  apply List.flatMap_congr
  intro seg member
  obtain ⟨expert, row0, count⟩ :=
    segment_at groups cap n rest tile positive seg (List.mem_range.mp member)
  rw [expert, row0, count, segmentRows]

theorem rows_in_place :
    ((List.range (sizes (fatGroup groups cap) n).sum).map fun r =>
      ((locate (sizes (fatGroup groups cap) n) r).1, r)) =
        (rows (sizes (fatGroup groups cap) n)).map fun p =>
          (p.1, ((sizes (fatGroup groups cap) n).take p.1).sum + p.2) := by
  rw [← range_locate, List.map_map]
  apply List.map_congr_left
  intro r member
  obtain ⟨_, _, place⟩ := locate_spec _ r (List.mem_range.mp member)
  simp only [Function.comp_apply, place]

theorem visited_eq (positive : 0 < tile) :
    (tablesOf groups cap n rest tile).visited =
      (List.range (sizes (fatGroup groups cap) n).sum).map fun r =>
        ((locate (sizes (fatGroup groups cap) n) r).1, r) := by
  rw [visited_by_segment groups cap n rest tile positive, flatMap_locate, segments_length,
    rows_in_place, rows, sizes_length, List.map_flatMap]
  apply List.flatMap_congr
  intro e member
  have below := List.mem_range.mp member
  have count : (segments groups cap n tile).getD e 0 =
      ((fatGroup groups cap e).length + (tile - 1)) / tile := by
    simp [segments, sizes, List.getD_eq_getElem?_getD, below]
  rw [count, sizes_at _ n e below, List.map_map]
  simp only [segmentRows, sizes_at _ n e below]
  exact expert_segments groups cap tile positive e _

theorem row_field {α : Type} (field : Nat × W → α) (items : List (Nat × W)) (src : Nat → Nat)
    (r : Nat) (room : r < items.length) :
    (indexSelect (items.map field)
      ((List.range items.length).map fun r => min (src r) (items.length - 1)))[r]? =
        items[min (src r) (items.length - 1)]?.map field := by
  rw [index_select_at]
  · simp [room]
  · intro i member
    obtain ⟨k, _, rfl⟩ := List.mem_map.mp member
    rw [List.length_map]
    omega

theorem row_at (r : Nat) (inside : r < (sizes (fatGroup groups cap) n).sum) :
    ∃ s, (fatGroup groups cap (locate (sizes (fatGroup groups cap) n) r).1)[
        (locate (sizes (fatGroup groups cap) n) r).2]? = some s ∧
      (tablesOf groups cap n rest tile).rowExpert.getD r 0 =
        (locate (sizes (fatGroup groups cap) n) r).1 ∧
      (tablesOf groups cap n rest tile).rowToken.getD r 0 = s.1 ∧
      (tablesOf groups cap n rest tile).rowWeight[r]? = some s.2 := by
  have fit := fat_rows_fit groups cap n rest
  have room := Nat.lt_of_lt_of_le inside fit
  have expert := clamped_search (sizes (fatGroup groups cap) n) r inside
  obtain ⟨known, row, place⟩ := locate_spec (sizes (fatGroup groups cap) n) r inside
  have row_offset := cumsum_sub_at (sizes (fatGroup groups cap) n) _ known
  rw [sizes_length] at expert known
  have sorted_offset := cumsum_sub_at (sizes groups n) _ (by rwa [sizes_length])
  generalize locate (sizes (fatGroup groups cap) n) r = p at *
  rw [sizes_at _ n _ known] at row
  have fat : fatGroup groups cap p.1 = groups p.1 := by
    by_cases exceeds : cap < (groups p.1).length
    · simp [fatGroup, exceeds]
    · simp [fatGroup, exceeds] at row
  rw [fat] at row ⊢
  have item : (buffer groups n rest)[((sizes groups n).take p.1).sum + p.2]? = (groups p.1)[p.2]? :=
    item_of_group groups n rest p.1 p.2 known row
  obtain ⟨s, here⟩ : ∃ s, (groups p.1)[p.2]? = some s := ⟨_, List.getElem?_eq_getElem row⟩
  have reached : ((sizes groups n).take p.1).sum + p.2 < (buffer groups n rest).length := by
    rw [here] at item
    exact (List.getElem?_eq_some_iff.mp item).1
  have unclamped : min (((sizes groups n).take p.1).sum + p.2) ((buffer groups n rest).length - 1) =
      ((sizes groups n).take p.1).sum + p.2 := by omega
  have localRow : r - ((sizes (fatGroup groups cap) n).take p.1).sum = p.2 := by omega
  refine ⟨s, here, ?_, ?_, ?_⟩ <;>
    simp only [tablesOf, buildGroupedFatTables, exclCumsum, fat_rows_eq, sizes_length]
  · rw [range_map_getD _ _ _ _ room, expert]
  · rw [List.getD_eq_getElem?_getD, row_field _ _ _ _ room, expert, sorted_offset, row_offset,
      localRow, unclamped, item, here]
    rfl
  · rw [row_field _ _ _ _ room, expert, sorted_offset, row_offset, localRow, unclamped, item, here]
    rfl
end Tables

theorem loop_writes {α : Type} (m : Nat) (step : (Nat → α) → Nat → Nat → α)
    (other : ∀ h r i, i ≠ r → step h r i = h i) (start : Nat → α) (r : Nat) (inside : r < m)
    (value : α) (own : ∀ h, step h r r = value) :
    (List.range m).foldl step start r = value := by
  induction m with
  | zero => omega
  | succ m ih =>
    rw [List.range_succ, List.foldl_append, List.foldl_cons, List.foldl_nil]
    rcases Nat.lt_succ_iff_lt_or_eq.mp inside with earlier | rfl
    · rw [other _ _ _ (Nat.ne_of_lt earlier)]
      exact ih earlier
    · exact own _

section Kernels
variable (stages : Stages S D X XH M MH V W) (packs : List (Pack S D XH M MH V)) (x : Nat → X)
  (groups : Nat → List (Nat × W)) (cap : Nat) (rest : List (Nat × W)) (tile : Nat)

def RowIs (r : Nat) (p : Pack S D XH M MH V) (s : Nat × W) : Prop :=
  packs[(locate (sizes (fatGroup groups cap) packs.length) r).1]? = some p ∧
    (fatGroup groups cap (locate (sizes (fatGroup groups cap) packs.length) r).1)[
      (locate (sizes (fatGroup groups cap) packs.length) r).2]? = some s

theorem row_is_some (r : Nat) (inside : r < (sizes (fatGroup groups cap) packs.length).sum) :
    ∃ p s, RowIs packs groups cap r p s := by
  obtain ⟨known, row, _⟩ := locate_spec _ r inside
  rw [sizes_length] at known
  rw [sizes_at _ _ _ known] at row
  exact ⟨_, _, List.getElem?_eq_getElem known, List.getElem?_eq_getElem row⟩

theorem row_tables (r : Nat) (inside : r < (sizes (fatGroup groups cap) packs.length).sum)
    {p : Pack S D XH M MH V} {s : Nat × W} (row : RowIs packs groups cap r p s) :
    packs[(tablesOf groups cap packs.length rest tile).rowExpert.getD r 0]? = some p ∧
      (tablesOf groups cap packs.length rest tile).rowToken.getD r 0 = s.1 ∧
      (tablesOf groups cap packs.length rest tile).rowWeight[r]? = some s.2 := by
  obtain ⟨found, slot, expert, token, weight⟩ := row_at groups cap packs.length rest tile r inside
  obtain ⟨pack, here⟩ := row
  obtain rfl : found = s := Option.some.inj (slot.symm.trans here)
  rw [expert]
  exact ⟨pack, token, weight⟩

theorem gather_row (h13 : Nat → XH) (r : Nat)
    (inside : r < (sizes (fatGroup groups cap) packs.length).sum)
    {p : Pack S D XH M MH V} {s : Nat × W} (row : RowIs packs groups cap r p s) :
    fatMoeGather stages packs x (tablesOf groups cap packs.length rest tile) h13 r =
      stages.had p.gateSuh (x s.1) := by
  obtain ⟨pack, token, _⟩ := row_tables packs groups cap rest tile r inside row
  rw [fatMoeGather, num_rows_eq]
  apply loop_writes _ _ _ _ _ inside
  · intro h
    simp only [pack, token, Function.update_self]
  · intro h r i different
    cases packs[(tablesOf groups cap packs.length rest tile).rowExpert.getD r 0]? with
    | none => rfl
    | some q => exact Function.update_of_ne different _ _

theorem gateup_row (positive : 0 < tile) (h13 : Nat → XH) (h2 : Nat → MH) (r : Nat)
    (inside : r < (sizes (fatGroup groups cap) packs.length).sum)
    {p : Pack S D XH M MH V} {s : Nat × W} (row : RowIs packs groups cap r p s) :
    fatMoeGateup stages packs (tablesOf groups cap packs.length rest tile) h13 h2 r =
      stages.hadDown p.downSuh (stages.act (p.gate (h13 r)) (p.up (h13 r))) := by
  rw [fatMoeGateup, visited_eq _ _ _ _ _ positive, List.foldl_map]
  apply loop_writes _ _ _ _ _ inside
  · intro h
    simp only [row.1, Function.update_self]
  · intro h r i different
    cases packs[(locate (sizes (fatGroup groups cap) packs.length) r).1]? with
    | none => rfl
    | some q => exact Function.update_of_ne different _ _

theorem activation_row [DecidableEq S] (shared : sharedW13Suh packs = true) (positive : 0 < tile)
    (h13 : Nat → XH) (h2 : Nat → MH) (r : Nat)
    (inside : r < (sizes (fatGroup groups cap) packs.length).sum)
    {p : Pack S D XH M MH V} {s : Nat × W} (row : RowIs packs groups cap r p s) :
    p.down (fatMoeGateup stages packs (tablesOf groups cap packs.length rest tile)
      (fatMoeGather stages packs x (tablesOf groups cap packs.length rest tile) h13) h2 r) =
        forward stages p (x s.1) := by
  have equal := List.all_eq_true.mp shared p (List.mem_of_getElem? row.1)
  rw [← shared_forward_eq stages p (by simpa using equal), sharedForward,
    gateup_row stages packs groups cap rest tile positive _ h2 r inside row,
    gather_row stages packs x groups cap rest tile h13 r inside row]

def rowAdditions (p : Nat × Nat) : List (Nat × V) :=
  (fatGroup groups cap p.1)[p.2]?.toList.flatMap (addition (forward stages) stages.scale packs x p.1)

theorem fat_rows_additions (n : Nat) :
    ((List.range (sizes (fatGroup groups cap) n).sum).flatMap fun r =>
      rowAdditions stages packs x groups cap (locate (sizes (fatGroup groups cap) n) r)) =
      (fatExperts groups cap n).flatMap (groupAdditions stages packs x groups) := by
  have chosen : fatExperts groups cap n =
      (List.range n).filter fun e => ¬ (groups e).length ≤ cap := by
    apply List.filter_congr
    intro e _
    simp
  rw [flatMap_locate, sizes_length, chosen, ← flatMap_if_filter]
  apply List.flatMap_congr
  intro e member
  rw [sizes_at _ n e (List.mem_range.mp member)]
  simp only [rowAdditions]
  rw [read_all]
  by_cases thin : (groups e).length ≤ cap
  · simp [fatGroup, thin]
  · simp [fatGroup, thin, groupAdditions, Nat.lt_of_not_le thin]

variable [AddCommMonoid V] (out : Rows V)

theorem down_rows (positive : 0 < tile) (h2 : Nat → MH)
    (filled : ∀ r < (sizes (fatGroup groups cap) packs.length).sum, ∀ p s,
      RowIs packs groups cap r p s → p.down (h2 r) = forward stages p (x s.1)) :
    fatMoeDown stages packs (tablesOf groups cap packs.length rest tile) h2 out =
      indexAdd out ((fatExperts groups cap packs.length).flatMap
        (groupAdditions stages packs x groups)) := by
  rw [fatMoeDown, visited_eq _ _ _ _ _ positive, List.foldl_map, ← fat_rows_additions,
    ← foldl_index_add]
  apply List.foldl_ext
  intro out r member
  have inside := List.mem_range.mp member
  obtain ⟨p, s, row⟩ := row_is_some packs groups cap r inside
  obtain ⟨_, token, weight⟩ := row_tables packs groups cap rest tile r inside row
  have value := filled r inside p s row
  simp only [row.1, token, weight, value, rowAdditions, row.2, Option.toList_some,
    List.flatMap_singleton, addition]

theorem grouped_fat_groups [DecidableEq S] (shared : sharedW13Suh packs = true)
    (symbols : Symbols) (built : symbols.fatMoe = true) (dev : Device X XH MH V W)
    (gateupRows : 0 < dev.tileGateup) (downRows : 0 < dev.tileDown) :
    applyExl3GroupedFat stages packs x symbols dev (sizes groups packs.length)
        ((buffer groups packs.length rest).map Prod.fst)
        ((buffer groups packs.length rest).map Prod.snd) out =
      some (indexAdd out ((fatExperts groups dev.cap packs.length).flatMap
        (groupAdditions stages packs x groups))) := by
  have td_eq : (if dev.tileDown = dev.tileGateup then
      tablesOf groups dev.cap packs.length rest dev.tileGateup
      else tablesOf groups dev.cap packs.length rest dev.tileDown) =
        tablesOf groups dev.cap packs.length rest dev.tileDown := by
    by_cases same : dev.tileDown = dev.tileGateup
    · rw [if_pos same, same]
    · rw [if_neg same]
  have present : ¬ symbols.fatMoe = false := by simp [built]
  rw [applyExl3GroupedFat, if_neg present]
  simp only [List.length_map, ← tablesOf.eq_def, td_eq]
  rw [down_rows stages packs x groups dev.cap rest dev.tileDown out downRows]
  intro r inside p s row
  exact activation_row stages packs x groups dev.cap rest dev.tileGateup shared gateupRows
    dev.h13 dev.h2 r inside row
end Kernels
end FusedMoe
