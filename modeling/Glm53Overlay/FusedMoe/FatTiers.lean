import Glm53Overlay.Library.SegmentedRange
import Glm53Overlay.FusedMoe.Routing

/-!
The EXL3 MoE tiers: one fused launch, row tiles, and the fat-expert fallbacks behind the
`EXL3_FAT_*` switches. The fused kernel and `argsort` belong to other packages and stay
parameters. The grouped kernels are the loops of `exl3_fat_moe.cu` over rows and
segments; their scratch buffers hold whatever an earlier call left. Diagnostics, device
checks and scratch growth are left out.
-/
namespace FusedMoe
open SegmentedRange
variable {S D X XH M MH V W : Type}

structure Switches where
  sorted : Bool
  batched : Bool
  kernel : Bool
  grouped : Bool
  rowTile : Bool

def exl3FatMoeSymbols : List String :=
  ["exl3_fat_moe_gather", "exl3_fat_moe_gateup", "exl3_fat_moe_down",
    "exl3_fat_moe_tile_rows_gateup", "exl3_fat_moe_tile_rows_down"]

/-- Which optional kernels the image was built with; `fatMoe` when all of the E3 ones are. -/
structure Symbols where
  fatGemm : Bool
  fatGemmScatter : Bool
  fatMoe : Bool

inductive Tier where
  | grouped
  | kernel
  | batched
  | sorted
  | legacy
  deriving DecidableEq, Repr

def Tier.name : Tier → String
  | .grouped => "grouped"
  | .kernel => "kernel"
  | .batched => "batched"
  | .sorted => "sorted"
  | .legacy => "legacy"

def configuredFatTier (sw : Switches) : Tier :=
  if sw.grouped then .grouped
  else if sw.kernel then .kernel
  else if sw.batched then .batched
  else if sw.sorted then .sorted
  else .legacy

def resolveKernel (symbols : Symbols) (configured : Tier) (reasonPrefix : String) :
    Except String (Tier × String) :=
  let missing := (if symbols.fatGemm then [] else ["exl3_fat_gemm"]) ++
    (if symbols.fatGemmScatter then [] else ["exl3_fat_gemm_scatter"])
  if configured = .kernel ∧ missing ≠ [] then
    .error ("EXL3_FAT_KERNEL=1 requires exllamav3_ext." ++ "/".intercalate missing ++
      "; this image was built without the fat kernel — unset EXL3_FAT_KERNEL or serve an E2 image")
  else .ok (configured, reasonPrefix ++ configured.name ++ "_ok")

/-- `resolve_exl3_fat_tier`; `eligible` is the grouped eligibility of the layer with its
    reason, and an error is the exception that stops the load. -/
def resolveExl3FatTier (sw : Switches) (sharedSuh : Bool) (symbols : Symbols)
    (eligible : Bool × String) : Except String (Tier × String) :=
  let configured := configuredFatTier sw
  if configured = .legacy then .ok (configured, "none_requested")
  else if configured = .grouped ∧ symbols.fatMoe = false then
    .error ("EXL3_FAT_GROUPED=1 requires " ++ "/".intercalate exl3FatMoeSymbols ++
      " (exllamav3_ext or exl3_fat_moe_ext); this image was built without exl3_fat_moe.cu — " ++
      "set EXL3_FAT_GROUPED=0 (E2 kernel) or build the E3 candidate image")
  else if sharedSuh = false ∧ configured ∈ [Tier.grouped, .kernel, .batched] then
    .ok (.sorted, "shared_suh_absent")
  else if configured = .grouped then
    if eligible.1 then .ok (configured, "grouped_ok")
    else resolveKernel symbols .kernel ("grouped_ineligible_" ++ eligible.2 ++ ":")
  else resolveKernel symbols configured ""

/-- What a layer call takes from the device: the sort, the fused kernel with its temp
    rows, the tile heights of the grouped kernels, and stale scratch rows. -/
structure Device (X XH MH V W : Type) where
  argsort : List Nat → List Nat
  exl3Moe : (Nat → X) → Rows V → List Nat → List Nat → List W → Rows V
  cap : Nat
  tileGateup : Nat
  tileDown : Nat
  h13 : Nat → XH
  h2 : Nat → MH

/-- `values.index_select(0, index)`. -/
def indexSelect {α : Type} (values : List α) (index : List Nat) : List α :=
  index.filterMap fun i => values[i]?

/-- `values[start:start + length]`. -/
def slice {α : Type} (values : List α) (start length : Nat) : List α :=
  (values.drop start).take length

/-- `zeros(n).scatter_add_(0, index, ones)`. -/
def scatterAddOnes (n : Nat) (index : List Nat) : List Nat :=
  index.foldl (fun acc e => acc.modify e (· + 1)) (List.replicate n 0)

section Fat
variable (stages : Stages S D X XH M MH V W) (packs : List (Pack S D XH M MH V)) (x : Nat → X)

def expertAdditions (run : Pack S D XH M MH V → X → V) (e : Nat) (tokens : List Nat)
    (weights : List W) : List (Nat × V) :=
  (tokens.zip weights).flatMap (addition run stages.scale packs x e)

/-- The slices of the sorted buffers that belong to experts with more than `cap` rows;
    the walk carries the expert and the offset. -/
def fatSlices (cap : Nat) (tokens : List Nat) (weights : List W) :
    Nat → Nat → List Nat → List (Nat × List Nat × List W)
  | _, _, [] => []
  | e, offset, n :: rest =>
    if n ≤ cap then fatSlices cap tokens weights (e + 1) (offset + n) rest
    else (e, slice tokens offset n, slice weights offset n) ::
      fatSlices cap tokens weights (e + 1) (offset + n) rest

variable [AddCommMonoid V]

def applyExl3SortedFat (tokens : List Nat) (weights : List W) (counts : List Nat) (cap : Nat)
    (out : Rows V) : Rows V :=
  (fatSlices cap tokens weights 0 0 counts).foldl (fun out f =>
    indexAdd out (expertAdditions stages packs x (forward stages) f.1 f.2.1 f.2.2)) out

/-- Raises at the first fat expert when the kernel is wanted and missing. -/
def applyExl3BatchedFat (symbols : Symbols) (useKernel : Bool) (tokens : List Nat)
    (weights : List W) (counts : List Nat) (cap : Nat) (out : Rows V) : Option (Rows V) :=
  (fatSlices cap tokens weights 0 0 counts).foldlM (fun out f =>
    if useKernel = true ∧ (symbols.fatGemm = false ∨ symbols.fatGemmScatter = false) then none
    else some
      (indexAdd out (expertAdditions stages packs x (sharedForward stages) f.1 f.2.1 f.2.2))) out
end Fat

def exclCumsum (values : List Nat) : List Nat × List Nat :=
  (List.zipWith (· - ·) (cumsum values) values, cumsum values)

structure FatTables (W : Type) where
  segExpert : List Nat
  segRow0 : List Nat
  segRows : List Nat
  numSegs : Nat
  numRows : Nat
  rowExpert : List Nat
  rowToken : List Nat
  rowWeight : List W

def buildGroupedFatTables (counts : List Nat) (cap : Nat) (tokens : List Nat) (weights : List W)
    (rowsCap tileRows : Nat) : FatTables W :=
  let nExp := counts.length
  let fatRows := counts.map fun c => if cap < c then c else 0
  let (rowOff, rowCum) := exclCumsum fatRows
  let (sortedOff, _) := exclCumsum counts
  let tiles := fatRows.map fun r => (r + (tileRows - 1)) / tileRows
  let (tileOff, tileCum) := exclCumsum tiles
  let maxSegs := (rowsCap + tileRows - 1) / tileRows + nExp
  let segExpert := fun seg => min (searchsortedRight tileCum seg) (nExp - 1)
  let localTile := fun seg => seg - tileOff.getD (segExpert seg) 0
  let rowExpert := fun r => min (searchsortedRight rowCum r) (nExp - 1)
  let src := (List.range rowsCap).map fun r =>
    min (sortedOff.getD (rowExpert r) 0 + (r - rowOff.getD (rowExpert r) 0)) (rowsCap - 1)
  { segExpert := (List.range maxSegs).map segExpert
    segRow0 := (List.range maxSegs).map fun seg =>
      rowOff.getD (segExpert seg) 0 + localTile seg * tileRows
    segRows := (List.range maxSegs).map fun seg =>
      min (fatRows.getD (segExpert seg) 0 - localTile seg * tileRows) tileRows
    numSegs := tileCum.getLastD 0
    numRows := rowCum.getLastD 0
    rowExpert := (List.range rowsCap).map rowExpert
    rowToken := indexSelect tokens src
    rowWeight := indexSelect weights src }

/-- The rows a kernel visits through its segments, each with the segment's expert. -/
def FatTables.visited (t : FatTables W) : List (Nat × Nat) :=
  (List.range t.numSegs).flatMap fun seg =>
    (List.range (t.segRows.getD seg 0)).map fun i =>
      (t.segExpert.getD seg 0, t.segRow0.getD seg 0 + i)

section Grouped
variable (stages : Stages S D X XH M MH V W) (packs : List (Pack S D XH M MH V)) (x : Nat → X)

/-- `h13[row] = had128(x[token[row]] * suh[expert[row]])`. -/
def fatMoeGather (t : FatTables W) (h13 : Nat → XH) : Nat → XH :=
  (List.range t.numRows).foldl (fun h13 r =>
    match packs[t.rowExpert.getD r 0]? with
    | none => h13
    | some p => Function.update h13 r (stages.had p.gateSuh (x (t.rowToken.getD r 0)))) h13

/-- Both projections, the activation and the down transform, segment by segment. -/
def fatMoeGateup (t : FatTables W) (h13 : Nat → XH) (h2 : Nat → MH) : Nat → MH :=
  t.visited.foldl (fun h2 v =>
    match packs[v.1]? with
    | none => h2
    | some p => Function.update h2 v.2
        (stages.hadDown p.downSuh (stages.act (p.gate (h13 v.2)) (p.up (h13 v.2))))) h2

/-- The weighted down projection, added to the rows' tokens. -/
def fatMoeDown [AddCommMonoid V] (t : FatTables W) (h2 : Nat → MH) (out : Rows V) : Rows V :=
  t.visited.foldl (fun out v =>
    match packs[v.1]?, t.rowWeight[v.2]? with
    | some p, some w => indexAdd out [(t.rowToken.getD v.2 0, stages.scale (p.down (h2 v.2)) w)]
    | _, _ => out) out

def applyExl3GroupedFat [AddCommMonoid V] (symbols : Symbols) (dev : Device X XH MH V W)
    (counts tokens : List Nat) (weights : List W) (out : Rows V) : Option (Rows V) :=
  if symbols.fatMoe = false then none
  else
    let rowsCap := tokens.length
    let tg := buildGroupedFatTables counts dev.cap tokens weights rowsCap dev.tileGateup
    let td := if dev.tileDown = dev.tileGateup then tg
      else buildGroupedFatTables counts dev.cap tokens weights rowsCap dev.tileDown
    let h13 := fatMoeGather stages packs x tg dev.h13
    let h2 := fatMoeGateup stages packs tg h13 dev.h2
    some (fatMoeDown stages packs td h2 out)

/-- One fused launch per slice of `tile` rows of every expert. -/
def exl3MoeRowTiles (dev : Device X XH MH V W) (counts tokens : List Nat) (weights : List W)
    (maxRows : Nat) (out : Rows V) : Rows V :=
  let tile := dev.cap
  let starts := 0 :: cumsum counts.dropLast
  (List.range ((maxRows + tile - 1) / tile)).foldl (fun out t =>
    let row0 := t * tile
    let tileCounts := counts.map fun c => min (c - row0) tile
    let nTile := tileCounts.sum
    if nTile = 0 then out
    else
      let src := (List.range nTile).map fun i =>
        let located := locate tileCounts i
        starts.getD located.1 0 + row0 + located.2
      dev.exl3Moe x out (tileCounts ++ [0]) (indexSelect tokens src) (indexSelect weights src)) out
end Grouped

/-- `apply_exl3_fused_moe`; `none` is a raised exception. -/
def applyExl3FusedMoe [DecidableEq S] [AddCommMonoid V] (stages : Stages S D X XH M MH V W)
    (packs : List (Pack S D XH M MH V)) (b : Batch X W) (expertMap : Option (List Int))
    (dev : Device X XH MH V W) (sw : Switches) (symbols : Symbols) (effectiveTier : Tier) :
    Option (Rows V) :=
  let nExp := packs.length
  let slotExpert := b.slots.map fun s => mapTopkToLocal nExp expertMap (b.idOf s)
  let order := dev.argsort slotExpert
  let tokens := indexSelect (b.slots.map Prod.fst) order
  let weights := indexSelect (b.slots.map b.weightOf) order
  let expertCount := scatterAddOnes (nExp + 1) slotExpert
  let counts := expertCount.take nExp
  let launch := fun out => dev.exl3Moe b.x out expertCount tokens weights
  let zeros : Rows V := fun _ => 0
  if b.tokens ≤ dev.cap then some (launch zeros)
  else if sw.grouped = true ∧ sw.rowTile = false ∧ effectiveTier = .grouped then
    applyExl3GroupedFat stages packs b.x symbols dev counts tokens weights (launch zeros)
  else
    let wantFatKernel := sw.kernel || sw.grouped
    let wantBatchedFat := sw.batched || wantFatKernel
    let useSortedFat := sw.sorted || wantBatchedFat
    let useBatchedFat := wantBatchedFat && sharedW13Suh packs
    let useFatKernel := useBatchedFat && wantFatKernel
    let launched := useBatchedFat && !sw.rowTile
    let out := if launched then launch zeros else zeros
    -- without host counts the maximum is `counts.max()`, which an empty tensor does not have
    let maxRows? := if launched || useSortedFat then some (counts.foldl max 0) else counts.max?
    match maxRows? with
    | none => none
    | some maxRows =>
      if maxRows ≤ dev.cap then some (if launched then out else launch out)
      else if sw.rowTile then some (exl3MoeRowTiles b.x dev counts tokens weights maxRows out)
      else
        let out := if launched then out else launch out
        if useBatchedFat then
          applyExl3BatchedFat stages packs b.x symbols useFatKernel tokens weights counts dev.cap
            out
        else if useSortedFat then
          some (applyExl3SortedFat stages packs b.x tokens weights counts dev.cap out)
        else
          let fat := (List.range nExp).filter fun e => dev.cap < counts.getD e 0
          if fat = [] then some out
          else some (applyExl3PythonLoop stages packs b expertMap (some fat) out)

end FusedMoe
