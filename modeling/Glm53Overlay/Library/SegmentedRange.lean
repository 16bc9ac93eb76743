import Mathlib

/-!
Flat indices over consecutive segments. An index is located by searching the inclusive
prefix sums; running over all indices visits the segments in order, each from its first
row to its last. A row range cut into tiles of a fixed size is covered tile by tile, and
cut into pieces it is covered by ranges that follow one another.
-/
namespace SegmentedRange

def cumsum : List Nat → List Nat
  | [] => []
  | c :: rest => c :: (cumsum rest).map (c + ·)

/-- The first position whose bound is above `v`; the length when there is none. -/
def searchsortedRight (bounds : List Nat) (v : Nat) : Nat := bounds.findIdx fun b => v < b

def locate (counts : List Nat) (i : Nat) : Nat × Nat :=
  let segment := searchsortedRight (cumsum counts) i
  (segment, i - ((cumsum counts).getD segment 0 - counts.getD segment 0))

def rows (counts : List Nat) : List (Nat × Nat) :=
  (List.range counts.length).flatMap fun e => (List.range (counts.getD e 0)).map fun j => (e, j)

theorem cumsum_length (counts : List Nat) : (cumsum counts).length = counts.length := by
  induction counts with
  | nil => rfl
  | cons c rest ih => simp [cumsum, ih]

theorem cumsum_at (counts : List Nat) (e : Nat) (inside : e < counts.length) :
    (cumsum counts).getD e 0 = (counts.take e).sum + counts.getD e 0 := by
  induction counts generalizing e with
  | nil => simp at inside
  | cons c rest ih =>
    cases e with
    | zero => simp [cumsum]
    | succ e =>
      have later : e < rest.length := by simpa using inside
      have value := ih e later
      simp only [cumsum, List.getD_eq_getElem?_getD, List.getElem?_cons_succ, List.getElem?_map,
        List.take_succ_cons, List.sum_cons] at value ⊢
      rw [List.getElem?_eq_getElem (by rw [cumsum_length]; exact later)] at value ⊢
      simp only [Option.map_some, Option.getD_some] at value ⊢
      omega

theorem cumsum_last (counts : List Nat) : (cumsum counts).getLastD 0 = counts.sum := by
  induction counts with
  | nil => rfl
  | cons c rest ih =>
    have shifted := List.getLastD_map (f := (c + ·)) (l := cumsum rest) (a := 0)
    rw [cumsum, List.getLastD_cons, List.sum_cons, ← ih, ← shifted, Nat.add_zero]

theorem shifted_cumsum_at (counts : List Nat) (e : Nat) (inside : e < counts.length) :
    (0 :: cumsum counts.dropLast).getD e 0 = (counts.take e).sum := by
  cases e with
  | zero => rfl
  | succ e =>
    have earlier : e < counts.dropLast.length := by
      rw [List.length_dropLast]
      omega
    rw [List.getD_cons_succ, cumsum_at counts.dropLast e earlier, List.dropLast_eq_take,
      List.take_take, Nat.min_eq_left (by omega), List.take_add_one, List.sum_append,
      List.getD_eq_getElem?_getD, List.getElem?_take_of_lt (by omega),
      List.getElem?_eq_getElem (by omega)]
    simp

theorem cumsum_sub_at (counts : List Nat) (e : Nat) (inside : e < counts.length) :
    (List.zipWith (· - ·) (cumsum counts) counts).getD e 0 = (counts.take e).sum := by
  have total := cumsum_at counts e inside
  have summed : e < (cumsum counts).length := by rwa [cumsum_length]
  simp only [List.getD_eq_getElem?_getD, List.getElem?_zipWith, List.getElem?_eq_getElem inside,
    List.getElem?_eq_getElem summed, Option.getD_some] at total ⊢
  omega

theorem searchsorted_shift (bounds : List Nat) (c v : Nat) :
    searchsortedRight (bounds.map (c + ·)) (c + v) = searchsortedRight bounds v := by
  simp [searchsortedRight, List.findIdx_map, Function.comp_def]

theorem locate_first (c : Nat) (rest : List Nat) (i : Nat) (inside : i < c) :
    locate (c :: rest) i = (0, i) := by
  have found : searchsortedRight (cumsum (c :: rest)) i = 0 := by
    simp [searchsortedRight, cumsum, List.findIdx_cons, inside]
  simp only [locate, found]
  simp [cumsum]

theorem searchsorted_inside (counts : List Nat) (i : Nat) (inside : i < counts.sum) :
    searchsortedRight (cumsum counts) i < counts.length := by
  induction counts generalizing i with
  | nil => simp at inside
  | cons c rest ih =>
    by_cases first : i < c
    · simp [searchsortedRight, cumsum, List.findIdx_cons, first]
    · obtain ⟨v, rfl⟩ := Nat.exists_eq_add_of_le (Nat.le_of_not_lt first)
      have later := ih v (by simpa using inside)
      have shift := searchsorted_shift (cumsum rest) c v
      simp only [searchsortedRight, cumsum, List.findIdx_cons, first, decide_false, cond_false,
        List.length_cons] at shift later ⊢
      omega

theorem locate_later (c : Nat) (rest : List Nat) (v : Nat) (inside : v < rest.sum) :
    locate (c :: rest) (c + v) = ((locate rest v).1 + 1, (locate rest v).2) := by
  have found : searchsortedRight (cumsum (c :: rest)) (c + v) =
      searchsortedRight (cumsum rest) v + 1 := by
    have shift := searchsorted_shift (cumsum rest) c v
    have past : ¬ c + v < c := by omega
    simp only [searchsortedRight, cumsum, List.findIdx_cons, past, decide_false, cond_false]
      at shift ⊢
    rw [shift]
  have bound := searchsorted_inside rest v inside
  have sum := cumsum_at rest _ bound
  have shifted : (cumsum (c :: rest)).getD (searchsortedRight (cumsum rest) v + 1) 0 =
      c + (cumsum rest).getD (searchsortedRight (cumsum rest) v) 0 := by
    simp only [cumsum, List.getD_eq_getElem?_getD, List.getElem?_cons_succ, List.getElem?_map]
    rw [List.getElem?_eq_getElem (by rw [cumsum_length]; exact bound)]
    simp
  simp only [locate, found, shifted, List.getD_cons_succ, Prod.mk.injEq, true_and]
  omega

theorem rows_cons (c : Nat) (rest : List Nat) :
    rows (c :: rest) = (List.range c).map (fun j => (0, j)) ++
      (rows rest).map fun r => (r.1 + 1, r.2) := by
  simp [rows, List.range_succ_eq_map, List.flatMap_map, List.map_flatMap, Function.comp_def]

theorem range_locate (counts : List Nat) :
    (List.range counts.sum).map (locate counts) = rows counts := by
  induction counts with
  | nil => rfl
  | cons c rest ih =>
    rw [List.sum_cons, List.range_add, List.map_append, rows_cons, ← ih, List.map_map,
      List.map_map]
    congr 1
    · apply List.map_congr_left
      intro i member
      exact locate_first c rest i (List.mem_range.mp member)
    · apply List.map_congr_left
      intro v member
      exact locate_later c rest v (List.mem_range.mp member)

theorem locate_spec (counts : List Nat) (i : Nat) (inside : i < counts.sum) :
    (locate counts i).1 < counts.length ∧
      (locate counts i).2 < counts.getD (locate counts i).1 0 ∧
        (counts.take (locate counts i).1).sum + (locate counts i).2 = i := by
  induction counts generalizing i with
  | nil => simp at inside
  | cons c rest ih =>
    by_cases first : i < c
    · rw [locate_first c rest i first]
      simp [first]
    · obtain ⟨v, rfl⟩ := Nat.exists_eq_add_of_le (Nat.le_of_not_lt first)
      have later : v < rest.sum := by simpa using inside
      obtain ⟨segment, row, place⟩ := ih v later
      rw [locate_later c rest v later]
      refine ⟨by simpa using segment, by simpa using row, ?_⟩
      simp only [List.take_succ_cons, List.sum_cons]
      omega

theorem flatMap_locate {γ : Type*} (counts : List Nat) (f : Nat × Nat → List γ) :
    ((List.range counts.sum).flatMap fun i => f (locate counts i)) =
      (List.range counts.length).flatMap fun e =>
        (List.range (counts.getD e 0)).flatMap fun j => f (e, j) := by
  rw [← List.flatMap_map, range_locate, rows, List.flatMap_assoc]
  simp only [List.flatMap_map]

section Groups
variable {α β γ : Type*}

def sizes (groups : Nat → List α) (n : Nat) : List Nat :=
  (List.range n).map fun e => (groups e).length

variable (groups : Nat → List α) (n : Nat)

theorem sizes_length : (sizes groups n).length = n := by
  simp [sizes]

theorem sizes_at (e : Nat) (below : e < n) : (sizes groups n).getD e 0 = (groups e).length := by
  simp [sizes, List.getD_eq_getElem?_getD, below]

theorem sizes_sum : (sizes groups n).sum = ((List.range n).flatMap groups).length := by
  simp [sizes, List.length_flatMap]

theorem sizes_take_sum (e : Nat) (below : e ≤ n) :
    ((sizes groups n).take e).sum = ((List.range e).flatMap groups).length := by
  rw [← sizes_sum, sizes, ← List.map_take, List.take_range, Nat.min_eq_left below, sizes]

theorem groups_split (e : Nat) (below : e < n) :
    ∃ later, (List.range n).flatMap groups =
      (List.range e).flatMap groups ++ (groups e ++ later) := by
  obtain ⟨m, rfl⟩ := Nat.exists_eq_add_of_lt below
  refine ⟨((List.range m).map (e + 1 + ·)).flatMap groups, ?_⟩
  have shape : e + m + 1 = (e + 1) + m := by omega
  rw [shape, List.range_add, List.range_succ]
  simp [List.append_assoc]

theorem slice_group (rest : List α) (e : Nat) (below : e < n) :
    (((List.range n).flatMap groups ++ rest).drop ((sizes groups n).take e).sum).take
      (groups e).length = groups e := by
  obtain ⟨later, split⟩ := groups_split groups n e below
  rw [sizes_take_sum groups n e (Nat.le_of_lt below), split, List.append_assoc, List.drop_left,
    List.append_assoc, List.take_left]

theorem item_of_group (rest : List α) (e j : Nat) (below : e < n)
    (inside : j < (groups e).length) :
    ((List.range n).flatMap groups ++ rest)[((sizes groups n).take e).sum + j]? =
      (groups e)[j]? := by
  conv_rhs => rw [← slice_group groups n rest e below]
  rw [List.getElem?_take_of_lt inside, List.getElem?_drop]
end Groups

section Tiles
variable {α β γ : Type*}

theorem tiles_of_list (items : List α) (tile n : Nat) (enough : items.length ≤ n * tile) :
    ((List.range n).flatMap fun t => (items.drop (t * tile)).take tile) = items := by
  have covered : ∀ m, ((List.range m).flatMap fun t => (items.drop (t * tile)).take tile) =
      items.take (m * tile) := by
    intro m
    induction m with
    | zero => simp
    | succ m ih =>
      rw [List.range_succ, List.flatMap_append, ih, List.flatMap_singleton, Nat.succ_mul,
        List.take_add]
  rw [covered, List.take_of_length_le enough]

theorem take_tile_length (items : List α) (tile : Nat) :
    items.take (items.take tile).length = items.take tile := by
  rw [List.length_take]
  rcases Nat.le_total tile items.length with short | whole
  · rw [Nat.min_eq_left short]
  · rw [Nat.min_eq_right whole, List.take_length, List.take_of_length_le whole]

theorem read_range (items : List α) (start length : Nat) :
    ((List.range length).filterMap fun j => items[start + j]?) =
      (items.drop start).take length := by
  induction length with
  | zero => simp
  | succ m ih =>
    rw [List.range_succ, List.filterMap_append, ih, List.take_add_one, List.getElem?_drop]
    cases found : items[start + m]? <;> simp [found]

theorem read_all (items : List α) (f : α → List β) :
    ((List.range items.length).flatMap fun j => items[j]?.toList.flatMap f) =
      items.flatMap f := by
  have whole := read_range items 0 items.length
  rw [List.drop_zero, List.take_length, List.filterMap_eq_flatMap_toList] at whole
  conv_rhs => rw [← whole, List.flatMap_assoc]
  simp only [Nat.zero_add]

/-- Tiles of the segments never outnumber the tiles of all rows by more than the segments. -/
theorem tiles_bound (counts : List Nat) (tile : Nat) (positive : 0 < tile) :
    (counts.map fun c => (c + (tile - 1)) / tile).sum ≤ counts.sum / tile + counts.length := by
  induction counts with
  | nil => simp
  | cons c rest ih =>
    have up : (c + (tile - 1)) / tile ≤ c / tile + 1 := by
      rw [← Nat.add_div_right c positive]
      exact Nat.div_le_div_right (by omega)
    have together : c / tile + rest.sum / tile ≤ (c + rest.sum) / tile :=
      Nat.div_add_div_le_add_div
    simp only [List.map_cons, List.sum_cons, List.length_cons]
    omega

theorem tiles_cover (c tile n : Nat) (enough : c ≤ n * tile) :
    ((List.range n).flatMap fun t =>
      (List.range (min (c - t * tile) tile)).map fun j => t * tile + j) = List.range c := by
  have tile_rows : ∀ t, ((List.range (min (c - t * tile) tile)).map fun j => t * tile + j) =
      ((List.range c).drop (t * tile)).take tile := by
    intro t
    apply List.ext_getElem?
    intro j
    simp only [List.getElem?_map, List.getElem?_take, List.getElem?_drop]
    by_cases inside : j < min (c - t * tile) tile
    · have row : t * tile + j < c := by omega
      have column : j < tile := by omega
      simp [inside, row, column]
    · by_cases column : j < tile
      · have past : ¬ t * tile + j < c := by omega
        simp [inside, past]
      · simp [inside, column]
  rw [List.flatMap_congr fun t _ => tile_rows t]
  exact tiles_of_list (List.range c) tile n (by simpa using enough)

theorem flatMap_swap_perm (xs : List α) (ys : List β) (f : α → β → List γ) :
    (xs.flatMap fun x => ys.flatMap (f x)).Perm (ys.flatMap fun y => xs.flatMap fun x => f x y) := by
  induction xs with
  | nil => simp
  | cons x rest ih =>
    simp only [List.flatMap_cons]
    exact (ih.append_left _).trans (List.flatMap_append_perm ys (f x) _)
end Tiles

def Consecutive : Nat → Nat → List (Nat × Nat) → Prop
  | lo, hi, [] => lo = hi
  | lo, hi, r :: rest => r.1 = lo ∧ r.1 < r.2 ∧ Consecutive r.2 hi rest

theorem consecutive_nonempty {lo hi : Nat} {ranges : List (Nat × Nat)}
    (follow : Consecutive lo hi ranges) {r : Nat × Nat} (member : r ∈ ranges) : r.1 < r.2 := by
  induction ranges generalizing lo with
  | nil => exact absurd member List.not_mem_nil
  | cons first rest ih =>
    rcases List.mem_cons.mp member with rfl | later
    · exact follow.2.1
    · exact ih follow.2.2 later

theorem consecutive_of_cover {lo hi : Nat} (ordered : lo ≤ hi) {ranges : List (Nat × Nat)}
    (nonempty : ∀ r ∈ ranges, r.1 < r.2)
    (cover : (ranges.flatMap fun r => List.range' r.1 (r.2 - r.1)) = List.range' lo (hi - lo)) :
    Consecutive lo hi ranges := by
  induction ranges generalizing lo with
  | nil =>
    have total := congrArg List.length cover
    simp at total
    change lo = hi
    omega
  | cons r rest ih =>
    have long := nonempty r List.mem_cons_self
    rw [List.flatMap_cons] at cover
    have total := congrArg List.length cover
    rw [List.length_append, List.length_range', List.length_range'] at total
    have start : r.1 = lo := by
      have first := congrArg List.head? cover
      obtain ⟨m, own⟩ : ∃ m, r.2 - r.1 = m + 1 := ⟨r.2 - r.1 - 1, by omega⟩
      obtain ⟨n, all⟩ : ∃ n, hi - lo = n + 1 := ⟨hi - lo - 1, by omega⟩
      rw [own, all, List.range'_succ, List.range'_succ] at first
      simpa using first
    have split : List.range' lo (hi - lo) =
        List.range' lo (r.2 - r.1) ++ List.range' r.2 (hi - r.2) := by
      have shape : hi - lo = (r.2 - r.1) + (hi - r.2) := by omega
      rw [shape, ← List.range'_append_1]
      congr 2
      omega
    rw [split, start] at cover
    exact ⟨start, long, ih (by omega) (fun r member => nonempty r (List.mem_cons_of_mem _ member))
      (List.append_cancel_left cover)⟩

/-- The half-open pieces of `[0, m)`, `step` long but for the last. -/
def pieces (m step : Nat) : List (Nat × Nat) :=
  (List.range ((m + step - 1) / step)).map fun i => (i * step, i * step + min step (m - i * step))

theorem pieces_length_le (m step : Nat) (r : Nat × Nat) (piece : r ∈ pieces m step) :
    r.2 - r.1 ≤ step := by
  obtain ⟨i, _, rfl⟩ := List.mem_map.mp piece
  dsimp only
  omega

theorem pieces_from (m step : Nat) (positive : 0 < step) (c : Nat) : ∀ i, m ≤ (i + c) * step →
    (c = 0 ∨ (i + c - 1) * step < m) →
    Consecutive (min m (i * step)) m
      ((List.range' i c).map fun i => (i * step, i * step + min step (m - i * step))) := by
  induction c with
  | zero =>
    intro i enough _
    exact Nat.min_eq_left enough
  | succ c ih =>
    intro i enough last
    have inside : (i + c) * step < m := by
      rcases last with none | inside
      · omega
      · exact inside
    have here : i * step < m := lt_of_le_of_lt (Nat.mul_le_mul_right step (by omega)) inside
    have next : (i + 1) * step = i * step + step := by ring
    have stop : i * step + min step (m - i * step) = min m ((i + 1) * step) := by
      rw [next]
      omega
    have room : c = 0 ∨ (i + 1 + c - 1) * step < m := by
      right
      rw [show i + 1 + c - 1 = i + c by omega]
      exact inside
    rw [List.range'_succ, List.map_cons]
    refine ⟨by omega, by dsimp only; omega, ?_⟩
    dsimp only
    rw [stop]
    exact ih (i + 1) (by rw [show i + 1 + c = i + (c + 1) by omega]; exact enough) room

theorem pieces_consecutive (m step : Nat) (positive : 0 < step) :
    Consecutive 0 m (pieces m step) := by
  have up := Nat.lt_mul_div_succ (m + step - 1) positive
  have down := Nat.div_mul_le_self (m + step - 1) step
  have enough : m ≤ (0 + (m + step - 1) / step) * step := by
    rw [Nat.mul_add, Nat.mul_comm] at up
    rw [Nat.zero_add]
    omega
  have last : (m + step - 1) / step = 0 ∨ (0 + (m + step - 1) / step - 1) * step < m := by
    rcases Nat.eq_zero_or_pos ((m + step - 1) / step) with none | some
    · exact Or.inl none
    · right
      have less : (0 + (m + step - 1) / step - 1) * step + step = (m + step - 1) / step * step := by
        rw [Nat.zero_add, Nat.sub_mul, Nat.one_mul]
        have := Nat.mul_le_mul_right step some
        omega
      omega
  have all := pieces_from m step positive _ 0 enough last
  rw [Nat.zero_mul, Nat.min_eq_right (Nat.zero_le m), ← List.range_eq_range'] at all
  exact all

end SegmentedRange
