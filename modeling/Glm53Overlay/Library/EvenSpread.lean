import Mathlib.Tactic.Linarith
import Mathlib.Tactic.Positivity
import Mathlib.Tactic.FieldSimp
import Mathlib.Tactic.Ring
import Glm53Overlay.Library.PyJson

/-!
Indices spread evenly over a longer range by rounding a ratio. A rounded number is within a
half of the number, so steps longer than one keep the indices apart; the two ends are exact.
-/
namespace EvenSpread
open PyRound

theorem halfEven_near (x : ℚ) : x - 1 / 2 ≤ halfEven x ∧ (halfEven x : ℚ) ≤ x + 1 / 2 := by
  have below := Int.floor_le x
  have above := Int.lt_floor_add_one x
  unfold halfEven
  dsimp only
  split_ifs <;> push_cast <;> constructor <;> linarith

theorem halfEven_lt {x y : ℚ} (apart : x + 1 < y) : halfEven x < halfEven y := by
  have upper := (halfEven_near x).2
  have lower := (halfEven_near y).1
  have ordered : (halfEven x : ℚ) < halfEven y := by linarith
  exact_mod_cast ordered

def position (last count i : Nat) : ℤ := halfEven ((i : ℚ) * last / ((count : ℚ) - 1))

variable {last count : Nat} (two : 2 ≤ count) (sparse : count ≤ last)

theorem position_first : position last count 0 = 0 := by
  have exact := halfEven_int 0
  simpa [position] using exact

include two in
theorem position_last : position last count (count - 1) = last := by
  have divisor : (count : ℚ) - 1 ≠ 0 := by
    have more : (2 : ℚ) ≤ count := by exact_mod_cast two
    linarith
  have whole : ((count - 1 : Nat) : ℚ) * last / ((count : ℚ) - 1) = ((last : ℤ) : ℚ) := by
    rw [Nat.cast_sub (by omega), Nat.cast_one, mul_div_right_comm, div_self divisor, one_mul]
    simp
  rw [position, whole, halfEven_int]

include two sparse in
theorem position_lt {i j : Nat} (before : i < j) : position last count i < position last count j := by
  apply halfEven_lt
  have more : (2 : ℚ) ≤ count := by exact_mod_cast two
  have longer : (count : ℚ) ≤ last := by exact_mod_cast sparse
  have next : (i : ℚ) + 1 ≤ j := by exact_mod_cast before
  have divisor : 0 < (count : ℚ) - 1 := by linarith
  rw [← sub_pos]
  have gap : (j : ℚ) * last / (count - 1) - (i * last / (count - 1) + 1) =
      ((j - i) * last - (count - 1)) / (count - 1) := by
    field_simp
    ring
  rw [gap]
  apply div_pos _ divisor
  have step : (last : ℚ) ≤ (j - i) * last := by
    have positive : (0 : ℚ) ≤ last := by positivity
    nlinarith
  linarith

include two sparse in
theorem position_range {i : Nat} (inside : i < count) :
    0 ≤ position last count i ∧ position last count i ≤ last := by
  constructor
  · rcases Nat.eq_zero_or_pos i with rfl | later
    · exact (position_first).ge
    · have above := position_lt two sparse later
      rw [position_first] at above
      exact Int.le_of_lt above
  · rcases Nat.lt_or_eq_of_le (Nat.le_sub_one_of_lt inside) with earlier | rfl
    · have below := position_lt two sparse earlier
      rw [position_last two] at below
      exact Int.le_of_lt below
    · exact (position_last two).le

end EvenSpread
