import Glm53Overlay.Library.BlockTransform
import Glm53Overlay.TensorParallel.ShardedLoad

/-!
The linear layer over packed tensors: scale the input, transform it block by block, multiply
by the matrix of decoded tiles, transform, scale the output. A slice of the output dimension
is a slice of the result; slices of the input dimension add up.
-/
namespace TensorParallel
open Finset BlockTransform
variable {V : Type} {R : Type} [CommSemiring R]

/-- What the stored words mean: the 16 by 16 tile of a marker and its words, a scale, and the
    128-wide transform. -/
structure Codec (V R : Type) where
  decode : V → List V → Nat → Nat → R
  scale : V → R
  hadamard : Nat → Nat → R

structure Packed (V : Type) where
  trellis : Tensor V
  suh : Tensor V
  svh : Tensor V
  mcg : Tensor V

/-- `suh.numel()`. -/
def Packed.inFeatures (p : Packed V) : Nat := p.suh.shape.foldr (· * ·) 1

def Packed.tile (c : Codec V R) (p : Packed V) (inTile outTile : Nat) : Nat → Nat → R :=
  c.decode (p.mcg.get [0])
    ((List.range (p.trellis.shape.getD 2 0)).map fun k => p.trellis.get [inTile, outTile, k])

def Packed.weight (c : Codec V R) (p : Packed V) (i o : Nat) : R :=
  p.tile c (i / 16) (o / 16) (i % 16) (o % 16)

def Packed.product (c : Codec V R) (p : Packed V) (x : Nat → R) (o : Nat) : R :=
  ∑ i ∈ range p.inFeatures,
    blockApply 128 c.hadamard (fun j => c.scale (p.suh.get [j]) * x j) i * p.weight c i o

def Packed.linear (c : Codec V R) (p : Packed V) (x : Nat → R) (o : Nat) : R :=
  c.scale (p.svh.get [o]) * blockApply 128 c.hadamard (p.product c x) o

def expertForward (c : Codec V R) (act : R → R → R) (tensors : Proj → Packed V) (x : Nat → R) :
    Nat → R :=
  (tensors .down).linear c fun i =>
    act ((tensors .gate).linear c x i) ((tensors .up).linear c x i)

section
variable {c : Codec V R} {p q : Packed V} {s : Nat}

/-- `q` is the slice of `p` that starts at output `s`. -/
structure ColumnSlice (p q : Packed V) (s : Nat) : Prop where
  suh : q.suh = p.suh
  mcg : q.mcg.get [0] = p.mcg.get [0]
  words : q.trellis.shape.getD 2 0 = p.trellis.shape.getD 2 0
  svh : ∀ o, q.svh.get [o] = p.svh.get [s + o]
  trellis : ∀ a b k, q.trellis.get [a, b, k] = p.trellis.get [a, s / 16 + b, k]

/-- `q` is the slice of `p` that starts at input `s`. -/
structure RowSlice (p q : Packed V) (s : Nat) : Prop where
  svh : ∀ o, q.svh.get [o] = p.svh.get [o]
  mcg : q.mcg.get [0] = p.mcg.get [0]
  words : q.trellis.shape.getD 2 0 = p.trellis.shape.getD 2 0
  suh : ∀ j, q.suh.get [j] = p.suh.get [s + j]
  trellis : ∀ a b k, q.trellis.get [a, b, k] = p.trellis.get [s / 16 + a, b, k]

theorem tile_of_shift {s : Nat} (whole : 128 ∣ s) (i : Nat) :
    (s + i) / 16 = s / 16 + i / 16 ∧ (s + i) % 16 = i % 16 := by
  obtain ⟨k, rfl⟩ := whole
  omega

omit [CommSemiring R] in
theorem weight_columnSlice (slice : ColumnSlice p q s) (whole : 128 ∣ s) (i o : Nat) :
    q.weight c i o = p.weight c i (s + o) := by
  obtain ⟨tile, inside⟩ := tile_of_shift whole o
  simp only [Packed.weight, Packed.tile, tile, inside, slice.mcg, slice.words, slice.trellis]

omit [CommSemiring R] in
theorem weight_rowSlice (slice : RowSlice p q s) (whole : 128 ∣ s) (i o : Nat) :
    q.weight c i o = p.weight c (s + i) o := by
  obtain ⟨tile, inside⟩ := tile_of_shift whole i
  simp only [Packed.weight, Packed.tile, tile, inside, slice.mcg, slice.words, slice.trellis]

theorem linear_columnSlice (slice : ColumnSlice p q s) (whole : 128 ∣ s) (x : Nat → R)
    (o : Nat) : q.linear c x o = p.linear c x (s + o) := by
  have product : q.product c x = fun o' => p.product c x (s + o') := by
    funext o'
    simp only [Packed.product, Packed.inFeatures, slice.suh, weight_columnSlice slice whole]
  rw [Packed.linear, Packed.linear, slice.svh, blockApply_shift whole, product]

theorem product_rowSlice (slice : RowSlice p q s) (whole : 128 ∣ s) (y : Nat → R) (o : Nat) :
    q.product c (fun j => y (s + j)) o = ∑ i ∈ range q.inFeatures,
      blockApply 128 c.hadamard (fun j => c.scale (p.suh.get [j]) * y j) (s + i) *
        p.weight c (s + i) o := by
  rw [Packed.product]
  refine sum_congr rfl ?_
  intro i _
  rw [weight_rowSlice slice whole, blockApply_shift whole]
  simp only [slice.suh]

theorem sum_linear_rowSlices {n m : Nat} {slices : Nat → Packed V} (whole : 128 ∣ m)
    (all : ∀ r < n, RowSlice p (slices r) (m * r))
    (sizes : ∀ r < n, (slices r).inFeatures = m) (total : p.inFeatures = n * m)
    (y : Nat → R) (o : Nat) :
    ∑ r ∈ range n, (slices r).linear c (fun j => y (m * r + j)) o = p.linear c y o := by
  have part : ∀ r ∈ range n, (slices r).linear c (fun j => y (m * r + j)) o =
      c.scale (p.svh.get [o]) * blockApply 128 c.hadamard (fun o' => ∑ i ∈ range m,
        blockApply 128 c.hadamard (fun j => c.scale (p.suh.get [j]) * y j) (m * r + i) *
          p.weight c (m * r + i) o') o := by
    intro r inside
    have slice := all r (mem_range.mp inside)
    have product := fun o' => product_rowSlice (c := c) slice (Dvd.dvd.mul_right whole r) y o'
    rw [Packed.linear, slice.svh, funext product, sizes r (mem_range.mp inside)]
  rw [sum_congr rfl part, ← mul_sum, ← blockApply_sum, Packed.linear]
  congr 2
  funext o'
  rw [Packed.product, total]
  exact sum_parts n m fun i =>
    blockApply 128 c.hadamard (fun j => c.scale (p.suh.get [j]) * y j) i * p.weight c i o'

end

theorem sum_expertForward {c : Codec V R} {n m : Nat} (whole : 128 ∣ m)
    {full : Proj → Packed V} {ranks : Nat → Proj → Packed V}
    (gate : ∀ r < n, ColumnSlice (full .gate) (ranks r .gate) (m * r))
    (up : ∀ r < n, ColumnSlice (full .up) (ranks r .up) (m * r))
    (down : ∀ r < n, RowSlice (full .down) (ranks r .down) (m * r))
    (sizes : ∀ r < n, (ranks r .down).inFeatures = m) (total : (full .down).inFeatures = n * m)
    (act : R → R → R) (x : Nat → R) (o : Nat) :
    ∑ r ∈ range n, expertForward c act (ranks r) x o = expertForward c act full x o := by
  have part : ∀ r ∈ range n, expertForward c act (ranks r) x o =
      (ranks r .down).linear c (fun j => act ((full .gate).linear c x (m * r + j))
        ((full .up).linear c x (m * r + j))) o := by
    intro r inside
    have shift := Dvd.dvd.mul_right whole r
    have bound := mem_range.mp inside
    simp only [expertForward, linear_columnSlice (gate r bound) shift,
      linear_columnSlice (up r bound) shift]
  rw [sum_congr rfl part]
  exact sum_linear_rowSlices whole down sizes total
    (fun i => act ((full .gate).linear c x i) ((full .up).linear c x i)) o

end TensorParallel
