import Mathlib.Data.List.Basic
import Mathlib.Order.Bounds.Basic

/-!
Length of the longest common prefix of two lists, with the three facts a scanning
algorithm needs: the prefixes agree, the length is bounded, and agreement up to a
position that ends a list or differs pins the length.
-/
namespace CommonPrefix
variable {α : Type*} [DecidableEq α]

def length : List α → List α → Nat
  | a :: as, b :: bs => if a = b then length as bs + 1 else 0
  | _, _ => 0

theorem length_le (as bs : List α) : length as bs ≤ min as.length bs.length := by
  induction as generalizing bs with
  | nil => simp [length]
  | cons a as ih =>
    cases bs with
    | nil => simp [length]
    | cons b bs =>
      have rest := ih bs
      simp only [length, List.length_cons]
      split <;> omega

theorem length_eq_of (as bs : List α) (k : Nat) (bound : k ≤ min as.length bs.length)
    (agree : as.take k = bs.take k) (stop : k = min as.length bs.length ∨ as[k]? ≠ bs[k]?) :
    length as bs = k := by
  induction as generalizing bs k with
  | nil =>
    have zero : k = 0 := by simpa using bound
    simp [length, zero]
  | cons a as ih =>
    cases bs with
    | nil =>
      have zero : k = 0 := by simpa using bound
      simp [length, zero]
    | cons b bs =>
      cases k with
      | zero =>
        rcases stop with finished | differ
        · simp at finished
        · have heads : a ≠ b := by
            intro same
            simp [same] at differ
          simp [length, heads]
      | succ k =>
        simp only [List.take_succ_cons, List.cons.injEq] at agree
        simp only [List.length_cons] at bound
        have rest := ih bs k (by omega) agree.2 (by
          rcases stop with finished | differ
          · left
            simp only [List.length_cons] at finished
            omega
          · right
            simpa using differ)
        simp [length, agree.1, rest]

theorem take_length (as bs : List α) : as.take (length as bs) = bs.take (length as bs) := by
  induction as generalizing bs with
  | nil => simp [length]
  | cons a as ih =>
    cases bs with
    | nil => simp [length]
    | cons b bs =>
      by_cases same : a = b
      · simp [length, same, ih bs]
      · simp [length, same]

theorem prefix_length_le (p as bs : List α) (left : p <+: as) (right : p <+: bs) :
    p.length ≤ length as bs := by
  induction p generalizing as bs with
  | nil => simp
  | cons x p ih =>
    obtain ⟨later, rfl⟩ := left
    obtain ⟨other, rfl⟩ := right
    have rest := ih (p ++ later) (p ++ other) (List.prefix_append p later)
      (List.prefix_append p other)
    simp only [List.cons_append, length, ↓reduceIte, List.length_cons]
    omega

theorem isGreatest (as bs : List α) :
    IsGreatest {k | ∃ p, p.length = k ∧ p <+: as ∧ p <+: bs} (length as bs) := by
  constructor
  · refine ⟨as.take (length as bs), ?_, List.take_prefix _ as, ?_⟩
    · have bound := length_le as bs
      rw [List.length_take]
      omega
    · rw [take_length]
      exact List.take_prefix _ bs
  · rintro k ⟨p, rfl, left, right⟩
    exact prefix_length_le p as bs left right

end CommonPrefix
