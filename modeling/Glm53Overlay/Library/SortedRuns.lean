import Mathlib.Data.List.Sort
import Mathlib.Data.List.Dedup
import Mathlib.Data.List.Perm.Basic
import Mathlib.Algebra.BigOperators.Group.List.Basic

/-!
Lists grouped by a key. A key-sorted list is its runs one after the other; in any list
the runs of distinct keys together are a rearrangement of the items that carry one of
the keys.
-/
namespace SortedRuns
variable {α β γ : Type*}

def distinct (values : List Int) : List Int := values.dedup.insertionSort (· ≤ ·)

theorem mem_distinct (values : List Int) (v : Int) : v ∈ distinct values ↔ v ∈ values := by
  simp [distinct, List.mem_insertionSort]

theorem distinct_nodup (values : List Int) : (distinct values).Nodup :=
  (List.perm_insertionSort _ _).nodup_iff.mpr (List.nodup_dedup values)

section Sorted
variable (key : α → Nat)

theorem sorted_run_first (items : List α) (sorted : items.Pairwise fun a b => key a ≤ key b)
    (e : Nat) :
    items.filter (fun a => e ≤ key a) =
      items.filter (fun a => key a = e) ++ items.filter fun a => e + 1 ≤ key a := by
  induction items with
  | nil => rfl
  | cons a rest ih =>
    obtain ⟨after, tail⟩ := List.pairwise_cons.mp sorted
    have split := ih tail
    rcases Nat.lt_trichotomy (key a) e with small | same | large
    · have low : ¬ e ≤ key a := by omega
      have below : ¬ e + 1 ≤ key a := by omega
      simp only [List.filter_cons, low, below, Nat.ne_of_lt small, decide_false,
        Bool.false_eq_true, ↓reduceIte, split]
    · simp only [List.filter_cons, same, Nat.le_refl, decide_true, ↓reduceIte,
        Nat.not_succ_le_self, decide_false, Bool.false_eq_true, List.cons_append, split]
    · have no_run : rest.filter (fun b => key b = e) = [] := by
        rw [List.filter_eq_nil_iff]
        intro b member
        have order := after b member
        simp only [decide_eq_true_eq]
        omega
      have above : e + 1 ≤ key a := large
      have upto : e ≤ key a := Nat.le_of_lt large
      simp only [List.filter_cons, upto, above, Nat.ne_of_gt large, decide_true, decide_false,
        Bool.false_eq_true, ↓reduceIte, split, no_run, List.nil_append]

theorem sorted_runs (items : List α) (sorted : items.Pairwise fun a b => key a ≤ key b)
    (n : Nat) :
    items = (List.range n).flatMap (fun e => items.filter fun a => key a = e) ++
      items.filter fun a => n ≤ key a := by
  induction n with
  | zero => simp
  | succ n ih =>
    rw [List.range_succ, List.flatMap_append, List.flatMap_singleton, List.append_assoc,
      ← sorted_run_first key items sorted n]
    exact ih
end Sorted

theorem flatMap_runs_perm [DecidableEq β] (key : α → β) (keys : List β) (nodup : keys.Nodup)
    (items : List α) :
    (keys.flatMap fun k => items.filter fun a => key a = k).Perm
      (items.filter fun a => keys.contains (key a)) := by
  induction keys with
  | nil => simp
  | cons k rest ih =>
    obtain ⟨fresh, tail⟩ := List.nodup_cons.mp nodup
    have own : (items.filter fun a => (k :: rest).contains (key a)).filter
        (fun a => key a = k) = items.filter fun a => key a = k := by
      rw [List.filter_filter]
      congr 1
      funext a
      by_cases here : key a = k <;> simp [here]
    have others : (items.filter fun a => (k :: rest).contains (key a)).filter
        (fun a => !decide (key a = k)) = items.filter fun a => rest.contains (key a) := by
      rw [List.filter_filter]
      congr 1
      funext a
      by_cases here : key a = k
      · simp [here, fresh]
      · simp [here]
    have parts := List.filter_append_perm (fun a => decide (key a = k))
      (items.filter fun a => (k :: rest).contains (key a))
    rw [own, others] at parts
    rw [List.flatMap_cons]
    exact ((ih tail).append_left _).trans parts

theorem flatMap_by_key_perm [DecidableEq β] (key : α → β) (keys : List β) (nodup : keys.Nodup)
    (items : List α) (f : β → α → List γ) :
    (keys.flatMap fun k => (items.filter fun a => key a = k).flatMap (f k)).Perm
      ((items.filter fun a => keys.contains (key a)).flatMap fun a => f (key a) a) := by
  have own_key : ∀ k ∈ keys, ((items.filter fun a => key a = k).flatMap (f k)) =
      (items.filter fun a => key a = k).flatMap fun a => f (key a) a := by
    intro k _
    apply List.flatMap_congr
    intro a member
    have carries : key a = k := by simpa using (List.mem_filter.mp member).2
    rw [carries]
  rw [List.flatMap_congr own_key, ← List.flatMap_assoc]
  exact (flatMap_runs_perm key keys nodup items).flatMap_right _

end SortedRuns
