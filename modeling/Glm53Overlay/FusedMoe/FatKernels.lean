import Glm53Overlay.FusedMoe.FatTiers
import Glm53Overlay.Library.StoreTrace

/-!
The three kernels over the grouped tables, told by what each thread touches: the rows and
columns it stores or adds to, and what it loads of the row buffers and the tables.
-/
namespace FusedMoe
open StoreTrace
variable {W : Type}

def fmThreads : Nat := 256
def fmWarps : Nat := fmThreads / 32
def fmTileN : Nat := 128
def fmTileK : Nat := 32
def fmStages : Nat := 4
def fmMbGateup : Nat := 4
def fmMbDown : Nat := 4

inductive Buffer where
  | h13
  | h2
  | rowToken
  | rowExpert
  | rowWeight
  | segExpert
  | segRow0
  | segRows
  deriving DecidableEq

/-- One element touched; an atomic add goes to the output on behalf of a fat row. -/
inductive Access where
  | load (buffer : Buffer) (index : Nat)
  | store (buffer : Buffer) (index : Nat)
  | atomicAdd (row index : Nat)

def launch (gridX gridY : Nat) (thread : Nat → Nat → Nat → List Access) : List Access :=
  (List.range gridX).flatMap fun x => (List.range gridY).flatMap fun y =>
    (List.range fmThreads).flatMap (thread x y)

def fmGatherKernel (t : FatTables W) (sizeK gridX x y thread : Nat) : List Access :=
  let warp := thread / 32
  let lane := thread % 32
  (strideLoop t.numRows (gridX * fmWarps) (x * fmWarps + warp)).flatMap fun row =>
    [.load .rowToken row, .load .rowExpert row] ++
      (List.range 4).map fun i => .store .h13 (row * sizeK + y * 128 + lane * 4 + i)

/-- The rows of `a` that one pipeline stage copies; the unused rows of the tile are not read. -/
def loadStage (a : Buffer) (mb sizeK row0 rows thread kt : Nat) : List Access :=
  (List.range ((mb * 16 * 4 + fmThreads - 1) / fmThreads)).flatMap fun i =>
    let c := i * fmThreads + thread
    if c < mb * 16 * 4 then
      let row := c / 4
      let chunk := c % 4
      if row < rows then
        (List.range 8).map fun j => .load a ((row0 + row) * sizeK + kt * fmTileK + chunk * 8 + j)
      else []
    else []

def fmMainloop (a : Buffer) (mb sizeK row0 rows thread : Nat) : List Access :=
  let kTiles := sizeK / fmTileK
  ((List.range (fmStages - 1)).filter (fun s => s < kTiles) ++
    ((List.range kTiles).map fun kt => kt + fmStages - 1).filter fun nk => nk < kTiles).flatMap
      (loadStage a mb sizeK row0 rows thread)

/-- The 16-row blocks of a tile up to the break; a warp takes two rows of each. -/
def epilogueRows (mb rows warp : Nat) : List Nat :=
  ((List.range mb).takeWhile fun b => b * 16 < rows).flatMap fun b =>
    (List.range 2).flatMap fun rr =>
      let r := warp + rr * fmWarps
      if r < rows - b * 16 then [b * 16 + r] else []

def segmentLoads (seg : Nat) : List Access :=
  [.load .segExpert seg, .load .segRow0 seg, .load .segRows seg]

def fmGateupKernel (t : FatTables W) (sizeK sizeN gridY x y thread : Nat) : List Access :=
  let warp := thread / 32
  let lane := thread % 32
  let nBase := x * fmTileN
  (strideLoop t.numSegs gridY y).flatMap fun seg =>
    let row0 := t.segRow0.getD seg 0
    let rows := t.segRows.getD seg 0
    segmentLoads seg ++ fmMainloop .h13 fmMbGateup sizeK row0 rows thread ++
      (epilogueRows fmMbGateup rows warp).flatMap fun r =>
        (List.range 4).map fun i => .store .h2 ((row0 + r) * sizeN + nBase + lane * 4 + i)

def fmDownKernel (t : FatTables W) (sizeK sizeN gridY x y thread : Nat) : List Access :=
  let warp := thread / 32
  let lane := thread % 32
  let nBase := x * (2 * fmTileN)
  (strideLoop t.numSegs gridY y).flatMap fun seg =>
    let row0 := t.segRow0.getD seg 0
    let rows := t.segRows.getD seg 0
    segmentLoads seg ++ fmMainloop .h2 fmMbDown sizeK row0 rows thread ++
      (epilogueRows fmMbDown rows warp).flatMap fun r =>
        [.load .rowWeight (row0 + r), .load .rowToken (row0 + r)] ++
          (List.range 2).flatMap fun s => (List.range 4).map fun i =>
            .atomicAdd (row0 + r) (t.rowToken.getD (row0 + r) 0 * sizeN + nBase + lane * 4 +
              s * fmTileN + i)

def fmGridY (maxSegs : Nat) : Nat :=
  let g := if maxSegs < 1 then 1 else maxSegs
  if 512 < g then 512 else g

def gatherGridX (rowsCap : Nat) : Nat :=
  let g := (rowsCap + fmWarps - 1) / fmWarps
  let g := if 1024 < g then 1024 else g
  if g < 1 then 1 else g

/-- `none` when a check of the host function fails. -/
def exl3FatMoeGather (t : FatTables W) (rowsCap sizeK : Nat) : Option (List Access) :=
  if sizeK % 128 = 0 ∧ rowsCap ≤ t.rowToken.length ∧ rowsCap ≤ t.rowExpert.length then
    some (launch (gatherGridX rowsCap) (sizeK / 128)
      (fmGatherKernel t sizeK (gatherGridX rowsCap)))
  else none

def segmentsChecked (t : FatTables W) : Prop :=
  t.segRow0.length = t.segExpert.length ∧ t.segRows.length = t.segExpert.length

instance (t : FatTables W) : Decidable (segmentsChecked t) :=
  inferInstanceAs (Decidable (_ ∧ _))

def exl3FatMoeGateup (t : FatTables W) (sizeK sizeN : Nat) : Option (List Access) :=
  if (sizeK % fmTileK = 0 ∧ fmTileK ≤ sizeK) ∧ sizeN % fmTileN = 0 ∧ segmentsChecked t then
    some (launch (sizeN / fmTileN) (fmGridY t.segExpert.length)
      (fmGateupKernel t sizeK sizeN (fmGridY t.segExpert.length)))
  else none

def exl3FatMoeDown (t : FatTables W) (rowsCap sizeK sizeN : Nat) : Option (List Access) :=
  if (sizeK % fmTileK = 0 ∧ fmTileK ≤ sizeK) ∧ sizeN % fmTileN = 0 ∧
      rowsCap ≤ t.rowToken.length ∧ rowsCap ≤ t.rowWeight.length ∧ segmentsChecked t ∧
      sizeN % (2 * fmTileN) = 0 then
    some (launch (sizeN / (2 * fmTileN)) (fmGridY t.segExpert.length)
      (fmDownKernel t sizeK sizeN (fmGridY t.segExpert.length)))
  else none

end FusedMoe
