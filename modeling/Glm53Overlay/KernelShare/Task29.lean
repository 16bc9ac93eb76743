import Mathlib
import Glm53Overlay.KernelShare.RangeLabels
import Glm53Overlay.Library.HostNumber
import Glm53Overlay.Library.PyDict

/-!
The task 29 verdict over trace events: rows by kernel name, the share of the fused MoE kernels
and two sources of occupancy, in doubles. The audit is one without a roofline; reason texts,
graphs and the other families are left out, and of the generations all but their labels.
-/
namespace KernelShare

abbrev Event := PyJson Float

abbrev Fields := List (String × Event)

/-- `str` of a value that is not text, and `float` of text. -/
structure Host where
  toStr : Event → String
  parse : String → Option Float

/-- `mapping.get(name)`. -/
def lookupField (members : Fields) (name : String) : Option Event := members.lookup name

/-- `isinstance(value, (int, float))`, with the number. -/
def number : Event → Option HostNumber
  | .float x => some (.float x)
  | v => v.asInt.map .int

/-- `float(n)`; `none` is an exception. -/
def asFloat (n : HostNumber) : Option Float := n.toFloat.toOption

/-- `float(value)`; `none` is an exception. -/
def Host.toFloat (host : Host) : Event → Option Float
  | .str s => host.parse s
  | v => (number v).bind asFloat

/-- `int(value)`; `none` is an exception. -/
def toInt : Event → Option Int
  | .str s => PyText.toInt s
  | .float x => (Binary64.toRat? x).map fun q => if 0 ≤ q then ⌊q⌋ else ⌈q⌉
  | v => v.asInt

/-- `bool(value)`. -/
def truthy : Event → Bool
  | .null => false
  | .bool b => b
  | .int i => i ≠ 0
  | .float x => !(x == 0)
  | .str s => s ≠ ""
  | .arr items => !items.isEmpty
  | .obj members => !members.isEmpty

/-- The capacity of `_derived_occupancy`, where the event states one. -/
def warpCapacity (args : Fields) : Option Int :=
  match lookupField args "block" with
  | some (.arr (first :: _)) =>
    first.asInt.bind fun threads =>
      (((lookupField args "occupancy").bind PyJson.asObject).bind fun occ =>
        (lookupField occ "blockLimitWarps").bind PyJson.asInt).bind fun blockLimit =>
          let capacity := blockLimit * max 1 (threads / 32)
          if blockLimit ≤ 0 ∨ capacity ≤ 0 then none else some capacity
  | _ => none

/-- `_derived_occupancy`; the outer `none` is an exception. -/
def derivedOccupancy (args : Fields) : Option (Option Float) :=
  match (lookupField args "warps per SM").bind number with
  | none => some none
  | some warpsPerSm =>
    if warpsPerSm.atMostZero then some none
    else
      match warpCapacity args with
      | none => some none
      | some capacity => do
        let warps ← asFloat warpsPerSm
        let percent ← ((HostNumber.float (100 * warps)).truediv (.int capacity)).toOption
        return some (Binary64.round 2 percent)

structure KernelRecord where
  name : String
  dur : Float
  ts : Float
  est : Option Int
  derived : Option Float
  deriving DecidableEq

inductive Reading where
  | kernel (record : KernelRecord)
  | range (start length : Float) (label : String)
  | other
  deriving DecidableEq

/-- `int` of every block entry. -/
def blockReads (args : Fields) : Bool :=
  match lookupField args "block" with
  | some (.arr items) => items.all fun v => (toInt v).isSome
  | _ => true

def readKernel (host : Host) (event : Fields) (duration : HostNumber) : Option KernelRecord := do
  let name := match lookupField event "name" with
    | none => "<unnamed>"
    | some (.str s) => s
    | some v => host.toStr v
  let dur ← asFloat duration
  let args ← match lookupField event "args" with
    | none => some []
    | some v => if truthy v then v.asObject else some []
  let ts ← match lookupField event "ts" with
    | none => some 0
    | some v => host.toFloat v
  let derived ← derivedOccupancy args
  if blockReads args then
    return ⟨name, dur, ts, (lookupField args "est. achieved occupancy %").bind PyJson.asInt,
      derived⟩
  else none

/-- One pass of the event loop; `none` is an exception. -/
def readEvent (host : Host) : Event → Option Reading
  | .obj event =>
    let isCat := fun text => (lookupField event "cat").any (PyJson.isText text)
    let duration := (lookupField event "dur").bind number
    if isCat "gpu_user_annotation" then
      match (lookupField event "name").bind PyJson.asText, duration with
      | some label, some duration => do
        let start ← (lookupField event "ts").bind host.toFloat
        let length ← asFloat duration
        return .range start length label
      | _, _ => some .other
    else
      match duration with
      | none => some .other
      | some duration =>
        if isCat "gpu_memcpy" then (asFloat duration).map fun _ => .other
        else if isCat "kernel" then (readKernel host event duration).map .kernel
        else some .other
  | _ => none

def Reading.kernel? : Reading → Option KernelRecord
  | .kernel record => some record
  | _ => none

def Reading.annotation? : Reading → Option Stamped
  | .range start length label => some ⟨start, length, label⟩
  | _ => none

def KernelRecord.stamped (r : KernelRecord) : Stamped := ⟨r.ts, r.dur, r.name⟩

def kernelRecords (host : Host) (traces : List (List Event)) : Option (List KernelRecord) :=
  (traces.flatten.mapM (readEvent host)).map fun readings => readings.filterMap Reading.kernel?

/-- `_generation_summary` reads the labels its kernels were joined to. -/
def labelsRead (host : Host) (traces : List (List Event)) : Bool :=
  traces.all fun trace => (trace.mapM (readEvent host)).any fun readings =>
    (joinedLabels (readings.filterMap Reading.annotation?)
      ((readings.filterMap Reading.kernel?).map KernelRecord.stamped)).all labelRead

/-- A row of `per_kernel`; a set is what was added to it. -/
structure KernelRow where
  totalUs : Float
  occPct : List Int
  derivedOccPct : List Float

def emptyKernel : KernelRow := ⟨0, [], []⟩

def KernelRow.add (row : KernelRow) (r : KernelRecord) : KernelRow :=
  ⟨row.totalUs + r.dur, row.occPct ++ r.est.toList, row.derivedOccPct ++ r.derived.toList⟩

def addKernel (perKernel : PyDict String KernelRow) (r : KernelRecord) :
    PyDict String KernelRow :=
  perKernel.set r.name (((perKernel.get r.name).getD emptyKernel).add r)

/-- `classify(name) == "fused_moe"`: the first pattern. -/
def isFusedMoe (name : String) : Bool :=
  "exl3_moe".toList <:+: (PyText.lower name).toList

/-- `kernels_out`: totals rounded, largest first. Beside a NaN the order is that of insertion,
    and the share a NaN in every order. -/
def kernelsOut (perKernel : PyDict String KernelRow) : List (String × KernelRow) :=
  (perKernel.entries.map fun e => (e.1, { e.2 with totalUs := Binary64.round 3 e.2.totalUs }))
    |>.insertionSort fun a b => ¬ a.2.totalUs < b.2.totalUs

def fusedRows (records : List KernelRecord) : List (String × KernelRow) :=
  (kernelsOut (records.foldl addKernel PyDict.empty)).filter fun r => isFusedMoe r.1

/-- `fam["total_us"]` of the fused family. -/
def fusedUs (records : List KernelRecord) : Float :=
  (fusedRows records).foldl (fun total r => Binary64.round 3 (total + r.2.totalUs)) 0

/-- `fam["share"]` of the fused family. -/
def fusedShare (records : List KernelRecord) : Float :=
  let totalKernelUs := records.foldl (fun total r => total + r.dur) 0
  if fusedRows records = [] ∨ totalKernelUs == 0 then 0
  else Binary64.round 6 (fusedUs records / totalKernelUs)

inductive Verdict where
  | stopShareBelowFloor
  | gapCandidateUnmeasured
  | stopNoOccupancyGap
  deriving DecidableEq

structure Task29 where
  verdict : Verdict
  fusedMoeUs : Float
  fusedMoeShare : Float
  fusedKernels : List String
  estOccupancyPctMin : Option Int
  derivedOccupancyPctMin : Option Float
  deriving DecidableEq

def cascade (moeShareFloor occFloor share : Float) (minOcc : Option Int)
    (minDerivedOcc : Option Float) : Verdict :=
  if share < moeShareFloor then .stopShareBelowFloor
  else if minDerivedOcc.any fun d => d < occFloor then .gapCandidateUnmeasured
  else
    match minOcc with
    | none => .gapCandidateUnmeasured
    | some occ =>
      if (HostNumber.int occ).below occFloor then .gapCandidateUnmeasured else .stopNoOccupancyGap

/-- `audit` as far as `task29`; `none` is an exception, also that of a trace set without
    kernels. -/
def task29 (host : Host) (moeShareFloor occFloor : Float) (traces : List (List Event)) :
    Option Task29 :=
  (kernelRecords host traces).bind fun records =>
    if records = [] ∨ labelsRead host traces = false then none
    else
      let fused := fusedRows records
      let minOcc := (fused.flatMap fun r => r.2.occPct).min?
      let minDerivedOcc := Binary64.least? (fused.flatMap fun r => r.2.derivedOccPct)
      some ⟨cascade moeShareFloor occFloor (fusedShare records) minOcc minDerivedOcc,
        fusedUs records, fusedShare records, fused.map Prod.fst, minOcc, minDerivedOcc⟩

def estimates (records : List KernelRecord) : List Int :=
  (records.filter fun r => isFusedMoe r.name).filterMap KernelRecord.est

def derivedValues (records : List KernelRecord) : List Float :=
  (records.filter fun r => isFusedMoe r.name).filterMap KernelRecord.derived

/-- The documented occupancy: the least derived one, or failing that the least estimate. A NaN
    among the derived values leaves no least one. -/
def Occupancy (records : List KernelRecord) : Option HostNumber → Prop
  | none => derivedValues records = [] ∧ estimates records = []
  | some (.float d) => d ∈ derivedValues records ∧ ∀ x ∈ derivedValues records, d ≤ x
  | some (.int e) => derivedValues records = [] ∧ e ∈ estimates records ∧
      ∀ f ∈ estimates records, e ≤ f

/-- The documented rule from the floor of the share on. -/
def rule (occFloor : Float) : Option HostNumber → Verdict
  | none => .gapCandidateUnmeasured
  | some occ => if occ.below occFloor then .gapCandidateUnmeasured else .stopNoOccupancyGap

/-- The same traces in another order, with their events in another order. -/
def Rearranged (traces traces' : List (List Event)) : Prop :=
  ∃ moved, traces.Perm moved ∧ List.Forall₂ List.Perm moved traces'

end KernelShare
