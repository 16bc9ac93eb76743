import Glm53Overlay.Library.HostNumber
import Glm53Overlay.Library.PyDict

/-!
One side of the shared-experts comparison: the structural and evidence checks of a receipt, which
is any JSON value. `reprOf` is the host's `repr`, used in the texts only.
-/
namespace ExpertsWindow

abbrev Json := PyJson Float
abbrev Members := List (String × Json)

def lanes : List String := ["structured", "prose", "essay"]

def floors : List (String × Float) := [("structured", 68.8), ("prose", 30.0), ("essay", 20.0)]

def parity : Float := 0.97

def memfreeFloorKib : Float := 2.5 * 1024 * 1024

/-- The ranks of the pair. -/
def nodes : List String := ["head", "worker"]

/-- `_positive_number`, with the number. -/
def positiveNumber (value : Json) : Except ArithmeticError (Option HostNumber) :=
  match value.hostNumber with
  | none => .ok none
  | some n => do
    if (← n.isFinite) && n.isPositive then return some n
    return none

def laneEntries : Json → List Json
  | .obj members =>
    match PyJson.get members "lanes" with
    | .arr entries => entries
    | _ => []
  | _ => []

/-- A lane row with its lane, for an object that names one. -/
def namedRow : Json → Option (String × Members)
  | .obj row =>
    match PyJson.get row "lane" with
    | .str lane => some (lane, row)
    | _ => none
  | _ => none

/-- `_lane_rows`: the first row of each lane. -/
def laneRows (receipt : Json) : PyDict String Members :=
  PyDict.firstWins ((laneEntries receipt).filterMap namedRow)

/-- `_median_lane`, null for `None`. -/
def medianLane (receipt : Json) (lane : String) : Json :=
  match (laneRows receipt).get lane with
  | some row => PyJson.get row "tok_s_median"
  | none => .null

/-- The lines of a report for one check. -/
def flag (wrong : Bool) (text : String) : List String := if wrong then [text] else []

@[simp] theorem flag_eq_nil (wrong : Bool) (text : String) :
    flag wrong text = [] ↔ wrong = false := by
  cases wrong <;> simp [flag]

section Checks
variable (reprOf : Json → String) (label : String)

def healthProblems (receipt : Members) : List String :=
  ["health_before", "health_after"].flatMap fun key =>
    flag (!(PyJson.get receipt key).equalsInt 200)
      s!"{label}: {key}={reprOf (PyJson.get receipt key)}, expected 200"

def lanesProblem (receipt : Members) : List String :=
  match PyJson.get receipt "lanes" with
  | .arr _ => []
  | found => [s!"{label}: lanes={reprOf found}, expected a list"]

def entryProblem (entry : Json × Nat) : List String :=
  match entry.1 with
  | .obj row =>
    match PyJson.get row "lane" with
    | .str _ => []
    | _ => [s!"{label}: lane entry {entry.2} has no lane name"]
  | _ => [s!"{label}: lane entry {entry.2} is not an object"]

def seenLanes (entries : List Json) : PyDict String Nat :=
  PyDict.tally ((entries.filterMap namedRow).map Prod.fst)

def countProblems (seen : PyDict String Nat) : List String :=
  lanes.flatMap fun lane =>
    let count := (seen.get lane).getD 0
    flag (count ≠ 1) s!"{label}/{lane}: {count} results for this lane, expected exactly 1"

def extraLanes (seen : PyDict String Nat) : List String :=
  (seen.keys.filter fun lane => lane ∉ lanes).mergeSort fun a b => a ≤ b

def extraProblem (seen : PyDict String Nat) : List String :=
  flag (extraLanes seen ≠ [])
    s!"{label}: unexpected lanes {reprOf (.arr ((extraLanes seen).map .str))}"

def rowProblems (lane : String) (row : Members) : Except ArithmeticError (List String) := do
  let returncode := PyJson.get row "returncode"
  let median := PyJson.get row "tok_s_median"
  let anyNan := PyJson.get row "any_nan"
  let positive ← positiveNumber median
  return flag (!returncode.equalsInt 0) s!"{label}/{lane}: benchmark exit {reprOf returncode}" ++
    flag positive.isNone
      s!"{label}/{lane}: median {reprOf median} is not a finite positive number" ++
    flag (!anyNan.isBool false)
      s!"{label}/{lane}: any_nan={reprOf anyNan}, expected False" ++
    flag (lane ∈ ["prose", "essay"] && !(PyJson.get row "coherent").isBool true)
      s!"{label}/{lane}: coherence not confirmed"

def laneProblems (rows : PyDict String Members) (lane : String) :
    Except ArithmeticError (List String) :=
  match rows.get lane with
  | none => .ok []
  | some row => rowProblems reprOf label lane row

def sampleProblem (node : String) (samples : Json) : List String :=
  flag (!samples.plainInt.any (0 < ·))
    s!"{label}/{node}: MemFree samples={reprOf samples}, expected a positive count"

def minimumProblem (node : String) (low : Json) : List String :=
  match low.plainInt with
  | some kib =>
    if kib ≤ 0 then [s!"{label}/{node}: MemFree min {reprOf low} is not a positive number"]
    else flag (HostNumber.compareInt kib memfreeFloorKib == some .lt)
      s!"{label}/{node}: MemFree min {kib} KiB below the {memfreeFloorKib.toUInt64} KiB floor"
  | none => [s!"{label}/{node}: MemFree min {reprOf low} is not a positive number"]

def nodeProblems (node : String) : Json → List String
  | .obj entry => sampleProblem reprOf label node (PyJson.get entry "samples") ++
    minimumProblem reprOf label node (PyJson.get entry "min_kib")
  | _ => [s!"{label}/{node}: no MemFree entry"]

def memoryProblems (receipt : Members) : List String :=
  match PyJson.get receipt "memfree" with
  | .obj mem => nodes.flatMap fun node => nodeProblems reprOf label node (PyJson.get mem node)
  | _ => [s!"{label}: no MemFree block"]

def markerProblems (receipt : Members) (expectMarkers : Int) : List String :=
  match PyJson.get receipt "marker_counts" with
  | .obj marks => nodes.flatMap fun node =>
    flag (!(PyJson.get marks node).equalsInt expectMarkers)
      (s!"{label}/{node}: installer marker count {reprOf (PyJson.get marks node)}, " ++
        s!"expected {expectMarkers}")
  | _ => [s!"{label}: no installer marker counts"]

def receiptFailures (receipt : Json) (expectMarkers : Int) :
    Except ArithmeticError (List String) :=
  match receipt with
  | .obj members => do
    let entries := laneEntries receipt
    let seen := seenLanes entries
    let rows ← lanes.mapM (laneProblems reprOf label (laneRows receipt))
    return healthProblems reprOf label members ++ lanesProblem reprOf label members ++
      entries.zipIdx.flatMap (entryProblem label) ++ countProblems label seen ++
      extraProblem reprOf label seen ++ rows.flatten ++ memoryProblems reprOf label members ++
      markerProblems reprOf label members expectMarkers
  | _ => .ok [s!"{label}: receipt is not an object"]

end Checks
end ExpertsWindow
