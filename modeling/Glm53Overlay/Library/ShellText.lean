import Mathlib.Data.List.Basic
import Mathlib.Data.List.Nodup
import Mathlib.Tactic.Ring

/-!
Decimal text as the shell sees it: the `[0-9]` class, the operands of `test`, which are machine
integers or an error, and base-ten arithmetic, which wraps.
-/
namespace ShellText

def value (cs : List Char) : Nat := cs.foldl (fun n c => 10 * n + (c.toNat - 48)) 0

/-- `^[0-9]+$`. -/
def isNumeral (cs : List Char) : Bool := !cs.isEmpty && cs.all Char.isDigit

/-- The largest operand the `test` builtin and `$(( ))` hold. -/
def machineMax : Nat := 2 ^ 63 - 1

/-- An operand of `-lt`, `-ge` and the others for a numeral; `none` is the error status. -/
def operand (cs : List Char) : Option Nat :=
  if value cs ≤ machineMax then some (value cs) else none

/-- `$((10#cs))` for a numeral: two's complement on 64 bits. -/
def arithmetic (cs : List Char) : Int := Int.bmod (value cs) (2 ^ 64)

@[simp] theorem value_nil : value [] = 0 := rfl

theorem foldl_value (cs : List Char) : ∀ n : Nat,
    cs.foldl (fun n c => 10 * n + (c.toNat - 48)) n = n * 10 ^ cs.length + value cs := by
  unfold value
  induction cs with
  | nil =>
    intro n
    simp
  | cons c cs ih =>
    intro n
    rw [List.foldl_cons, List.foldl_cons, ih, ih (10 * 0 + _), List.length_cons, Nat.pow_succ]
    ring

theorem value_cons (c : Char) (cs : List Char) :
    value (c :: cs) = (c.toNat - 48) * 10 ^ cs.length + value cs := by
  have opened := foldl_value cs (c.toNat - 48)
  unfold value at opened ⊢
  rw [List.foldl_cons, Nat.mul_zero, Nat.zero_add]
  exact opened

theorem digit_le {c : Char} (digit : c.isDigit = true) : 48 ≤ c.toNat ∧ c.toNat ≤ 57 := by
  unfold Char.isDigit at digit
  simp only [ge_iff_le, Bool.and_eq_true, decide_eq_true_eq] at digit
  exact ⟨digit.1, digit.2⟩

theorem value_lt {cs : List Char} (digits : cs.all Char.isDigit = true) :
    value cs < 10 ^ cs.length := by
  induction cs with
  | nil => exact Nat.one_pos
  | cons c cs ih =>
    rw [List.all_cons, Bool.and_eq_true] at digits
    have rest := ih digits.2
    have range := digit_le digits.1
    have first : (c.toNat - 48) * 10 ^ cs.length ≤ 9 * 10 ^ cs.length :=
      Nat.mul_le_mul_right _ (by omega)
    rw [value_cons, List.length_cons, Nat.pow_succ]
    omega

theorem value_zero_cons (cs : List Char) : value ('0' :: cs) = value cs := by
  rw [value_cons]
  have zero : '0'.toNat - 48 = 0 := rfl
  rw [zero, Nat.zero_mul, Nat.zero_add]

/-- Up to eighteen digits there is nothing to wrap and nothing to refuse. -/
theorem value_le_machineMax {cs : List Char} (digits : cs.all Char.isDigit = true)
    (short : cs.length ≤ 18) : value cs ≤ machineMax := by
  have bound := value_lt digits
  have power : 10 ^ cs.length ≤ 10 ^ 18 := Nat.pow_le_pow_right (by decide) short
  have small : 10 ^ 18 ≤ machineMax := by decide
  omega

theorem arithmetic_eq {cs : List Char} (digits : cs.all Char.isDigit = true)
    (short : cs.length ≤ 18) : arithmetic cs = value cs := by
  have bound := value_le_machineMax digits short
  unfold machineMax at bound
  unfold arithmetic
  rw [Int.bmod_eq_of_le] <;> omega

end ShellText
