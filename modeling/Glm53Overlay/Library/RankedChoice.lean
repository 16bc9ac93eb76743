import Mathlib.Data.List.Sort

/-!
The `n` items of smallest key, in key order. The choice is closed downwards: an item
that ranks strictly before a chosen one is chosen.
-/
namespace RankedChoice
variable {α κ : Type*} [LinearOrder κ]

def smallest (key : α → κ) (n : Nat) (items : List α) : List α :=
  (items.insertionSort fun a b => key a ≤ key b).take n

theorem mem_of_smallest {key : α → κ} {n : Nat} {items : List α} {x : α}
    (chosen : x ∈ smallest key n items) : x ∈ items :=
  (List.mem_insertionSort _).mp (List.mem_of_mem_take chosen)

theorem sorted_by_key (key : α → κ) (items : List α) :
    (items.insertionSort fun a b => key a ≤ key b).Pairwise fun a b => key a ≤ key b := by
  have total : Std.Total fun a b : α => key a ≤ key b := ⟨fun a b => le_total (key a) (key b)⟩
  have transitive : IsTrans α fun a b => key a ≤ key b := ⟨fun _ _ _ => le_trans⟩
  exact List.pairwise_insertionSort _ items

theorem smallest_downward {key : α → κ} {n : Nat} {items : List α} {x y : α}
    (chosen : x ∈ smallest key n items) (member : y ∈ items) (before : key y < key x) :
    y ∈ smallest key n items := by
  unfold smallest at chosen ⊢
  have listed := (List.mem_insertionSort fun a b => key a ≤ key b).mpr member
  have sorted := sorted_by_key key items
  generalize (items.insertionSort fun a b => key a ≤ key b) = ranked at chosen listed sorted ⊢
  rw [← List.take_append_drop n ranked] at listed sorted
  rcases List.mem_append.mp listed with kept | dropped
  · exact kept
  · have order := (List.pairwise_append.mp sorted).2.2 x chosen y dropped
    exact absurd before (not_lt_of_ge order)

theorem smallest_length (key : α → κ) {n : Nat} {items : List α} (enough : n ≤ items.length) :
    (smallest key n items).length = n := by
  rw [smallest, List.length_take, List.length_insertionSort, Nat.min_eq_left enough]

theorem smallest_sorted (key : α → κ) (n : Nat) (items : List α) :
    (smallest key n items).Pairwise fun a b => key a ≤ key b :=
  (sorted_by_key key items).sublist (List.take_sublist _ _)

theorem smallest_nodup (key : α → κ) (n : Nat) {items : List α} (nodup : items.Nodup) :
    (smallest key n items).Nodup :=
  ((List.perm_insertionSort _ items).nodup_iff.mpr nodup).sublist (List.take_sublist _ _)

theorem smallest_least {key : α → κ} {n : Nat} {items : List α} {x y : α}
    (chosen : x ∈ smallest key n items) (member : y ∈ items) (left : y ∉ smallest key n items) :
    key x ≤ key y :=
  le_of_not_gt fun before => left (smallest_downward chosen member before)

theorem smallest_keyed (key : α → κ) (n : Nat) (items : List α) :
    (smallest Prod.fst n (items.map fun a => (key a, a))).map Prod.snd = smallest key n items := by
  have sorted := List.map_insertionSort (r := fun a b => key a ≤ key b)
    (s := fun a b : κ × α => a.1 ≤ b.1) (fun a => (key a, a)) items fun _ _ _ _ => Iff.rfl
  rw [smallest, smallest, ← sorted, ← List.map_take, List.map_map]
  exact List.map_id _

end RankedChoice
