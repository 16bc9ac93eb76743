import Mathlib.Data.List.Sort
import Glm53Overlay.Library.Binary64
import Glm53Overlay.Library.PyDict
import Glm53Overlay.Library.PyText

/-!
The occupancy gate over a parsed capture: launches by kernel and launch id, metric values by
metric, `none` for a value that is stated and not a number. Sums, quotients and comparisons are
those of doubles.
-/
namespace OccupancyGate

inductive Kernel where
  | gateup
  | down
  deriving DecidableEq

def kernels : List Kernel := [.gateup, .down]

inductive Metric where
  | registersPerThread
  | blockSize
  | gridSize
  | smemStatic
  | smemDynamic
  | blockLimitRegisters
  | blockLimitSharedMem
  | blockLimitWarps
  | blockLimitSm
  | theoreticalOccupancyPct
  | achievedOccupancyPct
  | wavesPerSm
  deriving DecidableEq

def required : List Metric := [.registersPerThread, .blockSize, .gridSize, .blockLimitRegisters,
  .blockLimitSharedMem, .blockLimitWarps, .theoreticalOccupancyPct, .achievedOccupancyPct,
  .wavesPerSm]

/-- The limits checked for a sign at the end. -/
def signChecked : List Metric :=
  [.blockLimitRegisters, .blockLimitSharedMem, .blockLimitWarps, .wavesPerSm]

/-- What `_number` reads, which is no NaN. -/
structure Reading where
  value : Float
  number : value.isNaN = false
  deriving DecidableEq

def reading (x : Float) : Option Reading :=
  if number : x.isNaN = false then some ⟨x, number⟩ else none

abbrev Record := PyDict Metric (Option Reading)

abbrev Capture := PyDict Kernel (PyDict String Record)

inductive Problem where
  | missing (metrics : List Metric)
  | unreadable (metrics : List Metric)
  | registers (value : Float)
  | block (value : Float)
  | grid (value : Float)
  | theoretical (value : Float)
  | achieved (value : Float)
  | exceeds (achieved theoretical : Float)
  | negative (metric : Metric) (value : Float)
  deriving DecidableEq

def Record.value (record : Record) (metric : Metric) : Float :=
  ((record.get metric).getD none).elim 0 Reading.value

def launchProblem (record : Record) : Option Problem :=
  let absent := required.filter fun metric => metric ∉ record.keys
  if absent ≠ [] then some (.missing absent)
  else
    let unreadable := record.keys.filter fun metric => record.get metric = some none
    if unreadable ≠ [] then some (.unreadable unreadable)
    else
      let regs := record.value .registersPerThread
      let block := record.value .blockSize
      let grid := record.value .gridSize
      let theoretical := record.value .theoreticalOccupancyPct
      let achieved := record.value .achievedOccupancyPct
      if regs ≤ 0 then some (.registers regs)
      else if block ≤ 0 then some (.block block)
      else if grid ≤ 0 then some (.grid grid)
      else if ¬ (0 < theoretical ∧ theoretical ≤ 100) then some (.theoretical theoretical)
      else if ¬ (0 < achieved ∧ achieved ≤ 100) then some (.achieved achieved)
      else if achieved > theoretical + 0.05 then some (.exceeds achieved theoretical)
      else (signChecked.find? fun metric => record.value metric < 0).map fun metric =>
        .negative metric (record.value metric)

/-- `_launch_order`: numbered launches by number, the others behind them by name. `none` is the
    `ValueError` of `int`, which takes fewer digits than `isdigit`. -/
def launchOrder (launch : String) : Option (Int × String) :=
  if PyText.isDigits launch then (PyText.toInt launch).map fun n => (n, "")
  else some (2 ^ 30, launch)

def keyLe (a b : (Int × String) × (String × Record)) : Bool :=
  a.1.1 < b.1.1 || a.1.1 == b.1.1 && a.1.2 ≤ b.1.2

/-- `sorted(launches, key=_launch_order)`, with the records. -/
def inOrder (launches : PyDict String Record) : Option (List (String × Record)) :=
  (launches.entries.mapM fun l => (launchOrder l.1).map (·, l)).map fun keyed =>
    (keyed.insertionSort fun a b => keyLe a b).map Prod.snd

inductive Reason where
  | missingKernels (names : List Kernel)
  | launchTotal (found expected : Int)
  | noLaunch (name : Kernel)
  | differingMetrics (name : Kernel)
  | problem (name : Kernel) (launch : String) (problem : Problem)
  deriving DecidableEq

inductive Verdict where
  | stopRegisterHeadroom
  | stopNoGap
  | openGap
  deriving DecidableEq

/-- How a capture stays without a verdict: it is refused, or the checks raise. -/
inductive Stop where
  | refused (reason : Reason)
  | raised
  deriving DecidableEq

def kernelStop (name : Kernel) (launches : PyDict String Record) : Option Stop :=
  if launches.entries = [] then some (.refused (.noLaunch name))
  else if ¬ ∀ a ∈ launches.entries, ∀ b ∈ launches.entries,
      ∀ metric ∈ a.2.keys, metric ∈ b.2.keys then
    some (.refused (.differingMetrics name))
  else
    match inOrder launches with
    | none => some .raised
    | some sorted => sorted.findSome? fun l =>
      (launchProblem l.2).map fun p => .refused (.problem name l.1 p)

/-- `capture[name]` once the name is known to be present. -/
def Capture.launches (capture : Capture) (name : Kernel) : PyDict String Record :=
  (capture.get name).getD PyDict.empty

/-- The checks of a capture, `none` when it is judged. -/
def stop (capture : Capture) (expectedLaunches : Option Int) : Option Stop :=
  let missing := kernels.filter fun name => name ∉ capture.keys
  let total : Int := (capture.entries.map fun e => e.2.size).sum
  if missing ≠ [] then some (.refused (.missingKernels missing))
  else if expectedLaunches.any fun expected => total ≠ expected then
    some (.refused (.launchTotal total (expectedLaunches.getD 0)))
  else kernels.findSome? fun name => kernelStop name (capture.launches name)

/-- The value the gate uses for a metric of a kernel, of which there is a launch. -/
def aggregate (launches : PyDict String Record) (metric : Metric) : Float :=
  (Binary64.least? (launches.entries.map fun l => Record.value l.2 metric)).getD 0

def verdict (regsStop achievedRatio : Float) (launches : PyDict String Record) : Verdict :=
  let regs := aggregate launches .registersPerThread
  let theoretical := aggregate launches .theoreticalOccupancyPct
  let achieved := aggregate launches .achievedOccupancyPct
  if regs > regsStop then .stopRegisterHeadroom
  else if achieved / theoretical ≥ achievedRatio then .stopNoGap
  else .openGap

inductive Decision where
  | abort (reason : Reason)
  | judged (verdict : Verdict)
  deriving DecidableEq

structure Report where
  decision : Decision
  verdicts : List (Kernel × Verdict)
  deriving DecidableEq

/-- `judge`; `none` is the exception. -/
def judge (regsStop achievedRatio : Float) (expectedLaunches : Option Int) (capture : Capture) :
    Option Report :=
  match stop capture expectedLaunches with
  | some .raised => none
  | some (.refused reason) => some ⟨.abort reason, []⟩
  | none =>
    let verdicts := kernels.map fun name => (name, verdict regsStop achievedRatio
      (capture.launches name))
    let decision :=
      if verdicts.any fun v => v.2 = .openGap then .openGap
      else if verdicts.all fun v => v.2 = .stopRegisterHeadroom then .stopRegisterHeadroom
      else .stopNoGap
    some ⟨.judged decision, verdicts⟩

structure Usable (record : Record) : Prop where
  readable : ∀ metric ∈ required, ∃ value, record.get metric = some (some value)
  stated : ∀ metric, record.get metric ≠ some none
  registers : 0 < record.value .registersPerThread
  block : 0 < record.value .blockSize
  grid : 0 < record.value .gridSize
  theoretical : 0 < record.value .theoreticalOccupancyPct ∧
    record.value .theoreticalOccupancyPct ≤ 100
  achieved : 0 < record.value .achievedOccupancyPct ∧ record.value .achievedOccupancyPct ≤ 100
  below : ¬ record.value .achievedOccupancyPct > record.value .theoreticalOccupancyPct + 0.05
  limits : ∀ metric ∈ signChecked, 0 ≤ record.value metric

structure Complete (capture : Capture) (expectedLaunches : Option Int) : Prop where
  present : ∀ name ∈ kernels, name ∈ capture.keys
  total : ∀ expected ∈ expectedLaunches,
    ((capture.entries.map fun e => e.2.size).sum : Int) = expected
  launched : ∀ name ∈ kernels, (capture.launches name).entries ≠ []
  alike : ∀ name ∈ kernels, ∀ a ∈ (capture.launches name).entries,
    ∀ b ∈ (capture.launches name).entries, ∀ metric ∈ a.2.keys, metric ∈ b.2.keys
  usable : ∀ name ∈ kernels, ∀ l ∈ (capture.launches name).entries, Usable l.2

def Numbered (capture : Capture) : Prop :=
  ∀ name ∈ kernels, ∀ l ∈ (capture.launches name).entries, launchOrder l.1 ≠ none

/-- A launch that taken alone shows a gap. -/
def ShowsGap (regsStop achievedRatio : Float) (record : Record) : Prop :=
  record.value .registersPerThread ≤ regsStop ∧
    Binary64.belowProduct (record.value .achievedOccupancyPct) achievedRatio
      (record.value .theoreticalOccupancyPct) = true

end OccupancyGate
