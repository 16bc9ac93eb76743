import Mathlib
import Glm53Overlay.Library.PyJson

/-!
Doubles by their exact values: what the comparisons say, the least of a list, products that are
not rounded, and rounding to decimals.
-/
namespace Binary64
open Float.Model Float.Model.UnpackedFloat

/-- Sign, exponent and mantissa in the order of the comparisons. -/
abbrev Place := ℤ ×ₗ ℤ ×ₗ ℤ

/-- The place of a number among the others; a NaN has none. -/
def place : UnpackedFloat → Option Place
  | .notANumber => none
  | .infinity .negative => some (toLex (-2, toLex (0, 0)))
  | .finite .negative m e _ => some (toLex (-1, toLex (-e, -m)))
  | .zero _ => some (toLex (0, toLex (0, 0)))
  | .finite .positive m e _ => some (toLex (1, toLex (e, m)))
  | .infinity .positive => some (toLex (2, toLex (0, 0)))

def rank (x : Float) : Option Place := place x.toModel.unpack

theorem compare_nat (m n : ℕ) : compare (m : ℤ) n = compare m n := by
  rcases lt_trichotomy m n with less | same | more
  · rw [compare_lt_iff_lt.mpr less, compare_lt_iff_lt.mpr (Int.ofNat_lt.mpr less)]
  · rw [compare_eq_iff_eq.mpr same, compare_eq_iff_eq.mpr (congrArg Nat.cast same)]
  · rw [compare_gt_iff_gt.mpr more, compare_gt_iff_gt.mpr (Int.ofNat_lt.mpr more)]

theorem compare_neg (e f : ℤ) : compare (-e) (-f) = (compare e f).swap := by
  rcases lt_trichotomy e f with less | same | more
  · rw [compare_lt_iff_lt.mpr less, compare_gt_iff_gt.mpr (neg_lt_neg less)]
    rfl
  · rw [compare_eq_iff_eq.mpr same, compare_eq_iff_eq.mpr (congrArg Neg.neg same)]
    rfl
  · rw [compare_gt_iff_gt.mpr more, compare_lt_iff_lt.mpr (neg_lt_neg more)]
    rfl

theorem compare_place (u v : UnpackedFloat) :
    u.compare v = (place u).bind fun a => (place v).map (compare a) := by
  cases u with
  | notANumber => rfl
  | infinity s =>
    cases v with
    | finite t => cases s <;> cases t <;> rfl
    | infinity t => cases s <;> cases t <;> rfl
    | notANumber => cases s <;> rfl
    | zero => cases s <;> rfl
  | zero s =>
    cases v with
    | finite t => cases t <;> rfl
    | infinity t => cases t <;> rfl
    | notANumber => rfl
    | zero => rfl
  | finite s m e =>
    cases v with
    | infinity t => cases s <;> cases t <;> rfl
    | notANumber => cases s <;> rfl
    | zero => cases s <;> rfl
    | finite t n f =>
      cases s with
      | negative =>
        cases t with
        | positive => rfl
        | negative =>
          have keys : compare (toLex (-1, toLex (-e, -(m : ℤ))) : Place)
              (toLex (-1, toLex (-f, -(n : ℤ)))) =
            (compare (-e) (-f)).then (compare (-(m : ℤ)) (-n)) := rfl
          simp only [place, Option.bind_some, Option.map_some, keys, compare_neg, compare_nat,
            UnpackedFloat.compare, Ordering.swap_then]
      | positive =>
        cases t with
        | negative => rfl
        | positive =>
          have keys : compare (toLex (1, toLex (e, (m : ℤ))) : Place)
              (toLex (1, toLex (f, (n : ℤ)))) =
            (compare e f).then (compare (m : ℤ) n) := rfl
          simp only [place, Option.bind_some, Option.map_some, keys, compare_nat, UnpackedFloat.compare]

theorem lt_iff {x y : Float} : x < y ↔ ∃ a b, rank x = some a ∧ rank y = some b ∧ a < b := by
  have compared : x < y ↔ (x.toModel.unpack.compare y.toModel.unpack == some .lt) = true :=
    decide_eq_true_iff
  rw [compared, compare_place, beq_iff_eq, Option.bind_eq_some_iff]
  simp only [Option.map_eq_some_iff, compare_lt_iff_lt, exists_and_left, rank]

theorem le_iff {x y : Float} : x ≤ y ↔ ∃ a b, rank x = some a ∧ rank y = some b ∧ a ≤ b := by
  have compared : x ≤ y ↔ (x.toModel.unpack.compare y.toModel.unpack).any (·.isLE) = true :=
    decide_eq_true_iff
  rw [compared, compare_place]
  unfold rank
  cases place x.toModel.unpack with
  | none => simp
  | some a =>
    cases place y.toModel.unpack with
    | none => simp
    | some b =>
      simp [← Ordering.ne_gt_iff_isLE, ← compare_le_iff_le]

section Order
variable {x y z : Float}

theorem rank_of_le (below : x ≤ y) : rank x ≠ none ∧ rank y ≠ none := by
  rw [le_iff] at below
  obtain ⟨a, b, rankX, rankY, _⟩ := below
  simp [rankX, rankY]

theorem le_chain (first : x ≤ y) (second : y ≤ z) : x ≤ z := by
  rw [le_iff] at first second ⊢
  obtain ⟨a, b, rankX, rankY, below⟩ := first
  obtain ⟨c, d, again, rankZ, next⟩ := second
  obtain rfl : b = c := Option.some_inj.mp (rankY.symm.trans again)
  exact ⟨a, d, rankX, rankZ, below.trans next⟩

theorem lt_chain (first : x ≤ y) (second : y < z) : x < z := by
  rw [le_iff] at first
  rw [lt_iff] at second ⊢
  obtain ⟨a, b, rankX, rankY, below⟩ := first
  obtain ⟨c, d, again, rankZ, next⟩ := second
  obtain rfl : b = c := Option.some_inj.mp (rankY.symm.trans again)
  exact ⟨a, d, rankX, rankZ, below.trans_lt next⟩

theorem not_lt_of_le (below : x ≤ y) : ¬ y < x := by
  intro above
  rw [le_iff] at below
  rw [lt_iff] at above
  obtain ⟨a, b, rankX, rankY, le⟩ := below
  obtain ⟨c, d, againY, againX, lt⟩ := above
  obtain rfl : b = c := Option.some_inj.mp (rankY.symm.trans againY)
  obtain rfl : a = d := Option.some_inj.mp (rankX.symm.trans againX)
  exact absurd lt (not_lt.mpr le)

theorem le_of_not_lt (left : rank x ≠ none) (right : rank y ≠ none) (notLess : ¬ y < x) :
    x ≤ y := by
  obtain ⟨a, rankX⟩ := Option.ne_none_iff_exists'.mp left
  obtain ⟨b, rankY⟩ := Option.ne_none_iff_exists'.mp right
  rw [lt_iff] at notLess
  rw [le_iff]
  exact ⟨a, b, rankX, rankY, not_lt.mp fun less => notLess ⟨b, a, rankY, rankX, less⟩⟩

theorem lt_of_not_le (left : rank x ≠ none) (right : rank y ≠ none) (notLe : ¬ y ≤ x) :
    x < y := by
  by_contra notLess
  exact notLe (le_of_not_lt right left notLess)

theorem zero_number : rank 0 ≠ none := by
  have zero : rank 0 = some (toLex (0, toLex (0, 0))) := rfl
  rw [zero]
  exact Option.some_ne_none _

theorem rank_none_iff : rank x = none ↔ x.isNaN = true := by
  show place x.toModel.unpack = none ↔ x.toModel.unpack.isNaN = true
  cases x.toModel.unpack with
  | notANumber => exact ⟨fun _ => rfl, fun _ => rfl⟩
  | infinity s => cases s <;> simp [place, UnpackedFloat.isNaN]
  | zero s => simp [place, UnpackedFloat.isNaN]
  | finite s => cases s <;> simp [place, UnpackedFloat.isNaN]

theorem le_self (number : rank x ≠ none) : x ≤ x := by
  obtain ⟨a, rankX⟩ := Option.ne_none_iff_exists'.mp number
  rw [le_iff]
  exact ⟨a, a, rankX, rankX, le_refl a⟩

theorem le_of_lt (less : x < y) : x ≤ y := by
  rw [lt_iff] at less
  rw [le_iff]
  obtain ⟨a, b, rankX, rankY, below⟩ := less
  exact ⟨a, b, rankX, rankY, below.le⟩

end Order

section Least

def smaller (best x : Float) : Float := if x < best then x else best

/-- `min(values)`: the first value that no later one is below. -/
def least? : List Float → Option Float
  | [] => none
  | x :: rest => some (rest.foldl smaller x)

theorem foldl_smaller_mem (rest : List Float) : ∀ x : Float, rest.foldl smaller x ∈ x :: rest := by
  induction rest with
  | nil =>
    intro x
    exact List.mem_cons_self
  | cons y rest ih =>
    intro x
    rw [List.foldl_cons, smaller]
    split
    · exact List.mem_cons_of_mem x (ih y)
    · rcases List.mem_cons.mp (ih x) with same | later
      · rw [same]
        exact List.mem_cons_self
      · exact List.mem_cons_of_mem x (List.mem_cons_of_mem y later)

theorem foldl_smaller_nan {x : Float} (nan : rank x = none) (rest : List Float) :
    rest.foldl smaller x = x := by
  induction rest with
  | nil => rfl
  | cons y rest ih =>
    have kept : ¬ y < x := fun less => (rank_of_le (le_of_lt less)).2 nan
    rw [List.foldl_cons, smaller, if_neg kept, ih]

theorem foldl_smaller_le (rest : List Float) : ∀ x : Float, rank x ≠ none →
    rest.foldl smaller x ≤ x ∧ ∀ y ∈ rest, rank y ≠ none → rest.foldl smaller x ≤ y := by
  induction rest with
  | nil =>
    intro x number
    exact ⟨le_self number, fun _ none => absurd none List.not_mem_nil⟩
  | cons z rest ih =>
    intro x number
    rw [List.foldl_cons, smaller]
    split
    · rename_i less
      obtain ⟨first, later⟩ := ih z (rank_of_le (le_of_lt less)).1
      refine ⟨le_chain first (le_of_lt less), fun y member some' => ?_⟩
      rcases List.mem_cons.mp member with rfl | inRest
      · exact first
      · exact later y inRest some'
    · rename_i notLess
      obtain ⟨first, later⟩ := ih x number
      refine ⟨first, fun y member some' => ?_⟩
      rcases List.mem_cons.mp member with rfl | inRest
      · exact le_chain first (le_of_not_lt number some' notLess)
      · exact later y inRest some'

variable {xs : List Float} {least : Float}

theorem least?_mem (found : least? xs = some least) : least ∈ xs := by
  cases xs with
  | nil => cases found
  | cons x rest =>
    cases found
    exact foldl_smaller_mem rest x

theorem least?_le (found : least? xs = some least) (number : rank least ≠ none) :
    ∀ x ∈ xs, rank x ≠ none → least ≤ x := by
  cases xs with
  | nil => cases found
  | cons x rest =>
    cases found
    by_cases nan : rank x = none
    · rw [foldl_smaller_nan nan] at number
      exact absurd nan number
    · obtain ⟨first, later⟩ := foldl_smaller_le rest x nan
      intro y member some'
      rcases List.mem_cons.mp member with rfl | inRest
      · exact first
      · exact later y inRest some'

theorem least?_none_iff : least? xs = none ↔ xs = [] := by
  cases xs <;> simp [least?]

end Least

section Values

/-- How an exact number stands to a double, `none` for a NaN. -/
def compareRat (q : ℚ) (x : Float) : Option Ordering :=
  match x.toModel.unpack with
  | .notANumber => none
  | .infinity .positive => some .lt
  | .infinity .negative => some .gt
  | .zero _ => some (compare q 0)
  | .finite .positive mantissa exponent _ => some (compare q (mantissa * 2 ^ exponent))
  | .finite .negative mantissa exponent _ => some (compare q (-(mantissa * 2 ^ exponent)))

theorem compareRat_lt {p q : ℚ} {x : Float} (le : p ≤ q) (low : compareRat q x = some .lt) :
    compareRat p x = some .lt := by
  unfold compareRat at low ⊢
  generalize x.toModel.unpack = u at low ⊢
  cases u with
  | notANumber => cases low
  | infinity sign =>
    cases sign with
    | negative => cases low
    | positive => rfl
  | zero sign =>
    simp only [Option.some_inj, compare_lt_iff_lt] at low ⊢
    exact le.trans_lt low
  | finite sign =>
    cases sign <;> simp only [Option.some_inj, compare_lt_iff_lt] at low ⊢ <;> exact le.trans_lt low

def toRat? (x : Float) : Option ℚ :=
  match x.toModel.unpack with
  | .zero _ => some 0
  | .finite .positive mantissa exponent _ => some (mantissa * 2 ^ exponent)
  | .finite .negative mantissa exponent _ => some (-(mantissa * 2 ^ exponent))
  | _ => none

/-- `x < y * z` without rounding the product; with an infinite factor it is none. -/
def belowProduct (x y z : Float) : Bool :=
  match toRat? y, toRat? z with
  | some q, some r => compareRat (q * r) x == some .gt
  | _, _ => x < y * z

theorem nan_mul {x : Float} (y : Float) (nan : rank x = none) : rank (x * y) = none := by
  have shape : x.toModel.unpack = .notANumber := by
    unfold rank place at nan
    split at nan <;> first | assumption | cases nan
  have product (v : UnpackedFloat) : UnpackedFloat.mul .binary64 .notANumber v = .notANumber := by
    cases v <;> rfl
  show place (Float.Model.pack (.mul .binary64 x.toModel.unpack y.toModel.unpack)).unpack = none
  rw [shape, product]
  decide +kernel

theorem factor_number {x y z : Float} (below : belowProduct x y z = true) : rank y ≠ none := by
  intro nan
  have valueless : toRat? y = none := by
    unfold rank place at nan
    unfold toRat?
    split at nan <;> simp_all
  unfold belowProduct at below
  rw [valueless] at below
  obtain ⟨_, b, _, ranked, _⟩ := lt_iff.mp (of_decide_eq_true below)
  rw [nan_mul z nan] at ranked
  cases ranked

/-- `round(x, digits)`: the decimal nearest to the exact value, the even one of two, as a double. -/
def round (digits : Nat) (x : Float) : Float :=
  match x.toModel.unpack with
  | .finite sign mantissa exponent _ =>
    let scaled := PyRound.halfEven (mantissa * 2 ^ exponent * 10 ^ digits)
    let size := Float.ofScientific scaled.toNat true digits
    match sign with
    | .positive => size
    | .negative => -size
  | _ => x

example : round 2 2.675 = 2.67 := by decide +kernel

end Values

end Binary64
