import Mathlib.Algebra.BigOperators.Ring.Finset
import Mathlib.Algebra.BigOperators.Group.Finset.Sigma

/-!
A block-diagonal transform of vectors indexed by natural numbers, and sums over consecutive
ranges. A shift by whole blocks passes through the transform, and so do sums.
-/
namespace BlockTransform
open Finset
variable {R : Type*} [CommSemiring R]

def blockApply (w : Nat) (h : Nat → Nat → R) (v : Nat → R) (i : Nat) : R :=
  ∑ b ∈ range w, h (i % w) b * v (w * (i / w) + b)

theorem blockApply_shift {w s : Nat} (whole : w ∣ s) (h : Nat → Nat → R) (v : Nat → R)
    (i : Nat) : blockApply w h v (s + i) = blockApply w h (fun j => v (s + j)) i := by
  obtain ⟨k, rfl⟩ := whole
  unfold blockApply
  refine sum_congr rfl ?_
  intro b inside
  have positive : 0 < w := Nat.pos_of_ne_zero (by rintro rfl; simp at inside)
  rw [Nat.mul_add_mod, Nat.mul_add_div positive, Nat.mul_add, Nat.add_assoc]

theorem blockApply_sum {ι : Type*} (w : Nat) (h : Nat → Nat → R) (s : Finset ι)
    (f : ι → Nat → R) (i : Nat) :
    blockApply w h (fun j => ∑ r ∈ s, f r j) i = ∑ r ∈ s, blockApply w h (f r) i := by
  unfold blockApply
  rw [sum_comm]
  refine sum_congr rfl ?_
  intro b _
  rw [mul_sum]

theorem sum_parts (n m : Nat) (f : Nat → R) :
    ∑ r ∈ range n, ∑ j ∈ range m, f (m * r + j) = ∑ i ∈ range (n * m), f i := by
  induction n with
  | zero => simp
  | succ n ih =>
    rw [sum_range_succ, ih, Nat.succ_mul, sum_range_add]
    simp only [Nat.mul_comm m n]

end BlockTransform
