import Mathlib.Data.Rat.Defs
import Mathlib.Algebra.Order.Ring.Rat
import Glm53Overlay.Library.Binary64

/-!
Numbers of the host language: exact integers and doubles. An integer meets a double by its exact
value when the two are compared, and is rounded to a double, or refused, when they are divided.
-/

inductive ArithmeticError where
  | overflow
  | zeroDivision
  deriving DecidableEq

inductive HostNumber where
  | int (i : Int)
  | float (x : Float)

namespace HostNumber

def largest : Nat := 2 ^ 1024 - 2 ^ 971

/-- From here on the nearest double is an infinity. -/
def overflowBound : Nat := 2 ^ 1024 - 2 ^ 970

/-- How an integer's value stands to a double's, `none` for a NaN. -/
def compareInt (i : Int) (y : Float) : Option Ordering := Binary64.compareRat i y

/-- `float(n)`. -/
def toFloat : HostNumber → Except ArithmeticError Float
  | .int i => if i.natAbs < overflowBound then .ok (Float.ofInt i) else .error .overflow
  | .float x => .ok x

/-- `math.isfinite(n)`: an integer is converted first. -/
def isFinite : HostNumber → Except ArithmeticError Bool
  | .int i => if i.natAbs < overflowBound then .ok true else .error .overflow
  | .float x => .ok x.isFinite

/-- `n > 0`. -/
def isPositive : HostNumber → Bool
  | .int i => 0 < i
  | .float x => 0 < x

/-- `n <= 0`. -/
def atMostZero : HostNumber → Bool
  | .int i => i ≤ 0
  | .float x => x ≤ 0

/-- `n < bound`. -/
def below : HostNumber → Float → Bool
  | .int i, bound => compareInt i bound == some .lt
  | .float x, bound => x < bound

/-- `n >= bound`. -/
def atLeast : HostNumber → Float → Bool
  | .int i, bound => (compareInt i bound).any (·.isGE)
  | .float x, bound => bound ≤ x

def isZero : HostNumber → Bool
  | .int i => i = 0
  | .float x => x == 0

/-- An integer as a double that was not rounded yet. -/
def unrounded (i : Int) : Float.Model.UnpackedFloat :=
  if zero : i = 0 then .zero .positive
  else .finite (if 0 < i then .positive else .negative) i.natAbs 0 (Int.natAbs_pos.mpr zero)

/-- `n / m`: the exact quotient of two integers is rounded once, and is refused when it rounds
    to an infinity; two doubles may have an infinite quotient. -/
def truediv (n m : HostNumber) : Except ArithmeticError Float :=
  if m.isZero then .error .zeroDivision
  else match n, m with
    | .int i, .int j =>
      if i.natAbs < j.natAbs * overflowBound then
        .ok ⟨.pack (.div .binary64 (unrounded i) (unrounded j))⟩
      else .error .overflow
    | n, m => do return (← n.toFloat) / (← m.toFloat)

/-- An integer of the range of doubles; every double is. -/
def InDoubleRange : HostNumber → Prop
  | .int i => i.natAbs ≤ largest
  | .float _ => True

theorem largest_lt_bound : largest < overflowBound := by
  decide +kernel

theorem below_bound {i : Int} (fits : (int i).InDoubleRange) : i.natAbs < overflowBound := by
  have most : i.natAbs ≤ largest := fits
  exact Nat.lt_of_le_of_lt most largest_lt_bound

theorem toFloat_in_range {n : HostNumber} (fits : n.InDoubleRange) : ∃ x, n.toFloat = .ok x := by
  cases n with
  | int i =>
    refine ⟨Float.ofInt i, ?_⟩
    rw [toFloat, if_pos (below_bound fits)]
  | float x => exact ⟨x, rfl⟩

theorem isFinite_in_range {n : HostNumber} (fits : n.InDoubleRange) :
    ∃ finite, n.isFinite = .ok finite := by
  cases n with
  | int i =>
    refine ⟨true, ?_⟩
    rw [isFinite, if_pos (below_bound fits)]
  | float x => exact ⟨x.isFinite, rfl⟩

theorem float_positive_ne_zero {x : Float} (positive : 0 < x) : (x == 0) = false := by
  have zero : (0 : Float).toModel.unpack = .zero .positive := by rfl
  have above : (0 : Float).toModel.unpack.lt x.toModel.unpack = true := of_decide_eq_true positive
  show x.toModel.unpack.beq (0 : Float).toModel.unpack = false
  rw [zero] at above ⊢
  cases shape : x.toModel.unpack with
  | notANumber => rfl
  | zero sign =>
    rw [shape] at above
    exact absurd above Bool.false_ne_true
  | infinity sign => cases sign <;> rfl
  | finite sign mantissa exponent _ => cases sign <;> rfl

theorem positive_not_zero {n : HostNumber} (positive : n.isPositive = true) :
    n.isZero = false := by
  cases n with
  | int i =>
    have above : 0 < i := of_decide_eq_true positive
    exact decide_eq_false (by omega)
  | float x => exact float_positive_ne_zero (of_decide_eq_true positive)

theorem truediv_in_range {n m : HostNumber} (fits : n.InDoubleRange) (below : m.InDoubleRange)
    (positive : m.isPositive = true) : ∃ ratio, n.truediv m = .ok ratio := by
  have nonzero := positive_not_zero positive
  obtain ⟨x, above⟩ := toFloat_in_range fits
  obtain ⟨y, under⟩ := toFloat_in_range below
  have rounded : (do return (← n.toFloat) / (← m.toFloat) : Except ArithmeticError Float) =
      .ok (x / y) := by
    rw [above, under]
    rfl
  unfold truediv
  rw [if_neg (by rw [nonzero]; exact Bool.false_ne_true)]
  cases n with
  | float a => exact ⟨x / y, rounded⟩
  | int i =>
    cases m with
    | float b => exact ⟨x / y, rounded⟩
    | int j =>
      have above : 0 < j := of_decide_eq_true positive
      have room : i.natAbs < j.natAbs * overflowBound := by
        calc i.natAbs < 1 * overflowBound := by
              rw [Nat.one_mul]
              exact below_bound fits
          _ ≤ j.natAbs * overflowBound := Nat.mul_le_mul_right _ (by omega)
      exact ⟨_, if_pos room⟩

end HostNumber

namespace PyJson

/-- A number that is not a boolean. -/
def hostNumber : PyJson Float → Option HostNumber
  | .int i => some (.int i)
  | .float x => some (.float x)
  | _ => none

/-- `value == n` for an integer, which a boolean may be. -/
def equalsInt (n : Int) : PyJson Float → Bool
  | .bool b => (if b then 1 else 0) = n
  | .int i => i = n
  | .float x => HostNumber.compareInt n x == some .eq
  | _ => false

def InDoubleRange (v : PyJson Float) : Prop :=
  ∀ x n, Part x v → x.hostNumber = some n → n.InDoubleRange

theorem InDoubleRange.get {members : List (String × PyJson Float)}
    (fits : InDoubleRange (.obj members)) (key : String) : InDoubleRange (get members key) := by
  intro x n part number
  rcases get_part members key with absent | inner
  · rw [absent] at part
    cases part
    cases number
  · exact fits x n (inner x part) number

theorem in_range_obj {members : List (String × PyJson Float)}
    (fits : ∀ m ∈ members, InDoubleRange m.2) : InDoubleRange (.obj members) := by
  intro x n part number
  cases part with
  | self => cases number
  | member inMembers inner => exact fits _ inMembers x n inner number

theorem in_range_arr {items : List (PyJson Float)} (fits : ∀ v ∈ items, InDoubleRange v) :
    InDoubleRange (.arr items) := by
  intro x n part number
  cases part with
  | self => cases number
  | item inItems inner => exact fits _ inItems x n inner number

theorem in_range_int {i : Int} (fits : i.natAbs ≤ HostNumber.largest) :
    InDoubleRange (.int i) := by
  intro x n part number
  cases part
  cases number
  exact fits

theorem in_range_float (x : Float) : InDoubleRange (.float x) := by
  intro x n part number
  cases part
  cases number
  trivial

theorem in_range_text (s : String) : InDoubleRange (.str s) := by
  intro x n part number
  cases part
  cases number

theorem in_range_bool (b : Bool) : InDoubleRange (.bool b) := by
  intro x n part number
  cases part
  cases number

theorem InDoubleRange.item {items : List (PyJson Float)} (fits : InDoubleRange (.arr items))
    {v : PyJson Float} (member : v ∈ items) : InDoubleRange v :=
  fun x n part number => fits x n (.item member part) number

end PyJson
