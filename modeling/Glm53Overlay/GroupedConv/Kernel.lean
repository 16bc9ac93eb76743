import Mathlib.Algebra.Ring.Defs
import Glm53Overlay.Library.StoreTrace

/-!
The grouped convolution of the drafter over exact numbers: the kernel on flat memory, one program
for a row and a block of channels, and the dense path on whole tensors.
-/
namespace GroupedConv
variable {R : Type} [Semiring R]

/-- The operands in memory; channels, and a tap's groups, lie next to each other. -/
structure Tensors (R : Type) where
  x : Nat → R
  delta : Nat → R
  base : Nat → R
  xStrideRow : Nat
  deltaStrideRow : Nat
  deltaStrideTap : Nat
  baseStrideTap : Nat
  outputStrideRow : Nat

def cdiv (n d : Nat) : Nat := (n + d - 1) / d

/-- `tl.load(..., mask=mask, other=0.0)`. -/
def load (mask : Bool) (memory : Nat → R) (address : Nat) : R :=
  if mask then memory address else 0

/-- One lane of a program; a row above the first is only addressed under the tap's mask. -/
def accumulate (t : Tensors R) (numChannels blockSize groupSize taps row channel : Nat) : R :=
  let mask := decide (channel < numChannels)
  let group := channel / groupSize
  let position := row % blockSize
  let accumulator := (load mask t.base channel +
    load mask t.delta (row * t.deltaStrideRow + group)) *
      load mask t.x (row * t.xStrideRow + channel)
  (List.range' 1 (taps - 1)).foldl (fun accumulator tap =>
    let tapMask := mask && decide (tap ≤ position)
    let coefficient := load tapMask t.base (tap * t.baseStrideTap + channel) +
      load tapMask t.delta (row * t.deltaStrideRow + tap * t.deltaStrideTap + group)
    let x := load tapMask t.x ((row - tap) * t.xStrideRow + channel)
    accumulator + coefficient * x) accumulator

def groupedConvKernel (t : Tensors R) (numChannels blockSize groupSize taps elementBlock
    pid : Nat) : List (Nat × R) :=
  let row := pid / cdiv numChannels elementBlock
  let colBlock := pid % cdiv numChannels elementBlock
  ((List.range elementBlock).filter fun lane =>
    colBlock * elementBlock + lane < numChannels).map fun lane =>
      (row * t.outputStrideRow + (colBlock * elementBlock + lane),
        accumulate t numChannels blockSize groupSize taps row (colBlock * elementBlock + lane))

def elementBlock (numRows numChannels : Nat) : Nat :=
  if 128 ≤ numRows ∧ numChannels % 1024 = 0 then 1024 else 512

def groupedConvImpl (t : Tensors R) (numRows numChannels blockSize groupSize taps : Nat) :
    List (Nat × R) :=
  if numRows = 0 then []
  else
    let block := elementBlock numRows numChannels
    (List.range (numRows * cdiv numChannels block)).flatMap
      (groupedConvKernel t numChannels blockSize groupSize taps block)

abbrev Block (R : Type) := Nat → Nat → R

/-- The loop over the taps on whole tensors; `none` when the shapes do not fit. -/
def addTaps (coefficient : Nat → Nat → Block R) (blocks : List (Block R)) (position : Nat → Nat) :
    List Nat → List (Block R) → Option (List (Block R))
  | [], output => some output
  | tap :: rest, output =>
    let shifted := List.replicate tap (fun _ _ => 0) ++ blocks.take (blocks.length - tap)
    if shifted.length ≠ output.length then none
    else
      addTaps coefficient blocks position rest (output.mapIdx fun row block g l =>
        block g l + coefficient row tap g l * shifted.getD row (fun _ _ => 0) g l *
          (if tap ≤ position row then 1 else 0))

/-- The position in the block, by a mask where the size is a power of two. -/
def positionOf (blockSize row : Nat) : Nat :=
  if blockSize &&& (blockSize - 1) = 0 then row &&& (blockSize - 1) else row % blockSize

/-- `_grouped_conv` off the device. -/
def groupedConvDense (hiddenStates : List (Nat → R)) (delta : Nat → Nat → Nat → R)
    (base : Nat → Nat → R) (numChannels blockSize numGroups groupSize taps : Nat) :
    Option (List (Nat → R)) :=
  if numGroups * groupSize ≠ numChannels ∨ taps = 0 then none
  else
    let blocks := hiddenStates.map fun row g l => row (g * groupSize + l)
    let coefficient := fun row tap g l => base tap (g * groupSize + l) + delta row tap g
    let output := blocks.mapIdx fun row block g l => coefficient row 0 g l * block g l
    (addTaps coefficient blocks (positionOf blockSize) (List.range' 1 (taps - 1)) output).map
      fun output => output.map fun block channel => block (channel / groupSize) (channel % groupSize)

def Tensors.rows (t : Tensors R) (numRows : Nat) : List (Nat → R) :=
  (List.range numRows).map fun row channel => t.x (row * t.xStrideRow + channel)

def Tensors.dense (t : Tensors R) (numRows numChannels blockSize groupSize taps : Nat) :
    Option (List (Nat → R)) :=
  groupedConvDense (t.rows numRows)
    (fun row tap group => t.delta (row * t.deltaStrideRow + tap * t.deltaStrideTap + group))
    (fun tap channel => t.base (tap * t.baseStrideTap + channel)) numChannels blockSize
    (numChannels / groupSize) groupSize taps

end GroupedConv
