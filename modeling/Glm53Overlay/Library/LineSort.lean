import Mathlib.Data.List.Basic

/-!
Sorting the lines of a text. Two texts sort alike exactly when they have the same lines with
the same multiplicities.
-/
namespace LineSort

def lineLe : List Char → List Char → Bool
  | [], _ => true
  | _ :: _, [] => false
  | c :: cs, d :: ds => c.toNat < d.toNat || c == d && lineLe cs ds

def sort (lines : List (List Char)) : List (List Char) := lines.mergeSort lineLe

theorem char_eq {c d : Char} (left : ¬ c.toNat < d.toNat) (right : ¬ d.toNat < c.toNat) :
    c = d := by
  have same : c.toNat = d.toNat := by omega
  exact Char.ext (UInt32.toNat_inj.mp same)

theorem line_le_total (a : List Char) : ∀ b, (lineLe a b || lineLe b a) = true := by
  induction a with
  | nil =>
    intro b
    rfl
  | cons c cs ih =>
    intro b
    cases b with
    | nil => rfl
    | cons d ds =>
      simp only [lineLe, Bool.or_eq_true, decide_eq_true_eq, Bool.and_eq_true, beq_iff_eq]
      by_cases left : c.toNat < d.toNat
      · exact Or.inl (Or.inl left)
      by_cases right : d.toNat < c.toNat
      · exact Or.inr (Or.inl right)
      have same := char_eq left right
      rcases Bool.or_eq_true_iff.mp (ih ds) with less | more
      · exact Or.inl (Or.inr ⟨same, less⟩)
      · exact Or.inr (Or.inr ⟨same.symm, more⟩)

theorem line_le_trans (a : List Char) : ∀ b c, lineLe a b = true → lineLe b c = true →
    lineLe a c = true := by
  induction a with
  | nil =>
    intro b c _ _
    rfl
  | cons x xs ih =>
    intro b c first second
    cases b with
    | nil => exact absurd first Bool.false_ne_true
    | cons y ys =>
      cases c with
      | nil => exact absurd second Bool.false_ne_true
      | cons z zs =>
        simp only [lineLe, Bool.or_eq_true, decide_eq_true_eq, Bool.and_eq_true,
          beq_iff_eq] at first second ⊢
        rcases first with less | ⟨rfl, rest⟩
        · rcases second with more | ⟨rfl, _⟩
          · exact Or.inl (Nat.lt_trans less more)
          · exact Or.inl less
        · rcases second with more | ⟨rfl, tail⟩
          · exact Or.inl more
          · exact Or.inr ⟨rfl, ih ys zs rest tail⟩

theorem line_le_antisymm (a : List Char) : ∀ b, lineLe a b = true → lineLe b a = true →
    a = b := by
  induction a with
  | nil =>
    intro b _ back
    cases b with
    | nil => rfl
    | cons d ds => exact absurd back Bool.false_ne_true
  | cons c cs ih =>
    intro b forth back
    cases b with
    | nil => exact absurd forth Bool.false_ne_true
    | cons d ds =>
      simp only [lineLe, Bool.or_eq_true, decide_eq_true_eq, Bool.and_eq_true,
        beq_iff_eq] at forth back
      rcases forth with less | ⟨rfl, rest⟩
      · rcases back with more | ⟨rfl, _⟩
        · omega
        · omega
      · rcases back with more | ⟨_, tail⟩
        · omega
        · rw [ih ds rest tail]

theorem sort_eq_iff (xs ys : List (List Char)) : sort xs = sort ys ↔ xs.Perm ys := by
  constructor
  · intro same
    have left := List.mergeSort_perm xs lineLe
    have right := List.mergeSort_perm ys lineLe
    unfold sort at same
    rw [same] at left
    exact left.symm.trans right
  · intro perm
    have left := List.mergeSort_perm xs lineLe
    have right := List.mergeSort_perm ys lineLe
    have sorted : ∀ lines : List (List Char),
        (lines.mergeSort lineLe).Pairwise fun a b => lineLe a b = true :=
      fun lines => List.pairwise_mergeSort line_le_trans line_le_total lines
    have meets : ∀ a b : List Char, a ∈ xs.mergeSort lineLe → b ∈ ys.mergeSort lineLe →
        lineLe a b = true → lineLe b a = true → a = b :=
      fun a b _ _ forth back => line_le_antisymm a b forth back
    exact List.Perm.eq_of_pairwise meets (sorted xs) (sorted ys) ((left.trans perm).trans right.symm)

end LineSort
