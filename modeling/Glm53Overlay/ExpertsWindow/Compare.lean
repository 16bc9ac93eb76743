import Glm53Overlay.ExpertsWindow.SmokeEvidence

/-!
The pre-registered gate and the throughput verdict of the shared-experts comparison. The verdict
is to adopt exactly on complete evidence with every lane at parity and above its floor.
-/
namespace ExpertsWindow

inductive Verdict where
  | adopt
  | needMoreData
  | revert
  | partialGate
  | invalid
  deriving DecidableEq

structure Scored where
  deltaPct : Float
  ratio : Float
  parity : Bool
  aboveFloor : Bool
  floor : Float

/-- A row of the comparison; `scored` is absent when a median is no positive number. -/
structure Row where
  lane : String
  control : Json
  armed : Json
  scored : Option Scored

def floorOf (lane : String) : Float := (floors.lookup lane).getD 0

def compareLane (control armed : Json) (lane : String) :
    Except ArithmeticError (Row × Option Verdict) := do
  let c := medianLane control lane
  let a := medianLane armed lane
  let unread := (({ lane := lane, control := c, armed := a, scored := none } : Row),
    some Verdict.needMoreData)
  match ← positiveNumber c with
  | none => return unread
  | some cn =>
    match ← positiveNumber a with
    | none => return unread
    | some an =>
      let ratio ← an.truediv cn
      let aboveParity := decide (parity ≤ ratio)
      let aboveFloor := an.atLeast (floorOf lane)
      let scored : Scored :=
        { deltaPct := (ratio - 1) * 100, ratio := ratio, parity := aboveParity,
          aboveFloor := aboveFloor, floor := floorOf lane }
      return ({ lane := lane, control := c, armed := a, scored := some scored },
        if aboveParity && aboveFloor then none else some .revert)

def compareLanes (control armed : Json) :
    List String → List Row → Verdict → Except ArithmeticError (List Row × Verdict)
  | [], rows, verdict => .ok (rows, verdict)
  | lane :: rest, rows, verdict => do
    let (row, assigned) ← compareLane control armed lane
    compareLanes control armed rest (rows ++ [row]) (assigned.getD verdict)

/-- Whether an entry of a lane list is not an object or does not deny a NaN. -/
def entryNan : Json → Bool
  | .obj row => !(PyJson.get row "any_nan").isBool false
  | _ => true

def compareRows (control armed : Json) : Except ArithmeticError (List Row × Verdict) := do
  let (rows, verdict) ← compareLanes control armed lanes [] .adopt
  if (laneEntries control ++ laneEntries armed).any entryNan then return (rows, .revert)
  return (rows, verdict)

section Gate
variable (reprOf : Json → String) (script : Option SmokeModule)

def armedFlag : Json → Bool
  | .obj armed =>
    match PyJson.get armed "effective_env" with
    | .obj env => (PyJson.get env "GLM53_SHARED_EXPERTS_EARLY").isText "1"
    | _ => false
  | _ => false

/-- `gate_failures`; a null smoke is an absent one. -/
def gateFailures (control armed smoke : Json) : Except ArithmeticError (List String) := do
  let stock ← receiptFailures reprOf "control" control 0
  let early ← receiptFailures reprOf "armed" armed 3
  return stock ++ early ++
    flag (!armedFlag armed)
      "armed: GLM53_SHARED_EXPERTS_EARLY is not 1 in the container environment" ++
    if smoke.isNull then ["smoke: no serving-smoke receipt supplied"]
    else smokeFailures reprOf script smoke

structure Comparison where
  rows : List Row
  gateFailures : List String
  complete : Bool
  verdict : Verdict
  memfreeControl : Json
  memfreeArmed : Json
  markerCounts : Json
  effectiveEnv : Json

/-- `value.get(key) if isinstance(value, dict) else None`. -/
def fieldOf (value : Json) (key : String) : Json :=
  match value with
  | .obj members => PyJson.get members key
  | _ => .null

/-- The smoke argument: `none` when absent, `some none` for the empty path, which is not read. -/
abbrev SmokeArgument := Option (Option Json)

def SmokeArgument.value (smoke : SmokeArgument) : Json := (smoke.getD none).getD .null

/-- `compare`, over the parsed files. -/
def compare (control armed : Json) (smoke : SmokeArgument) :
    Except ArithmeticError Comparison := do
  let problems ← gateFailures reprOf script control armed smoke.value
  let (rows, verdict) ← compareRows control armed
  return {
    rows := rows
    gateFailures := problems
    complete := problems.isEmpty
    verdict := if problems.isEmpty then verdict
      else if smoke.isNone then .partialGate else .invalid
    memfreeControl := fieldOf control "memfree"
    memfreeArmed := fieldOf armed "memfree"
    markerCounts := fieldOf armed "marker_counts"
    effectiveEnv := fieldOf armed "effective_env" }

end Gate
end ExpertsWindow
