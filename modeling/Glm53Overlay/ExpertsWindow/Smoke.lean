import Glm53Overlay.ExpertsWindow.Receipt

/-!
The serving smoke of the comparison: the request list that the smoke script declares is the
contract, and each recorded result must agree with it and with its own success flags.
-/
namespace ExpertsWindow

/-- The smoke script as a module, `none` for an attribute it lacks. Lists and tuples are one. -/
structure SmokeModule where
  requests : Option Json
  toolContract : Option Json

/-- `REQUESTS` and `TOOL_CONTRACT`. -/
def smokeScript : SmokeModule where
  requests := some (.arr [
    .arr [.str "tool-weather",
      .str "What is the weather in Lisbon right now? Use the tool, in celsius.",
      .str "get_weather"],
    .arr [.str "tool-add", .str "Add 4217 and 1938. Use the tool.", .str "add_numbers"],
    .arr [.str "plain-1", .str "Reply with exactly the word READY.", .null],
    .arr [.str "plain-2", .str "Name the three primary colours, comma separated. No other text.",
      .null]])
  toolContract := some (.obj [
    ("get_weather", .obj [("properties", .arr [.str "city", .str "units"]),
      ("expected", .obj [("city", .str "Lisbon"), ("units", .str "celsius")])]),
    ("add_numbers", .obj [("properties", .arr [.str "a", .str "b"]),
      ("operand_sets", .arr [.arr [.int 4217, .int 1938], .arr [.int 1938, .int 4217]])])])

def declareRequests (contracts : List String) :
    List Json → PyDict String (Option String) → Option (PyDict String (Option String))
  | [], out => some out
  | .arr [.str name, .str prompt, function] :: rest, out =>
    if name = "" ∨ prompt = "" then none
    else match function with
      | .null => if name ∈ out.keys then none else declareRequests contracts rest (out.set name none)
      | .str called =>
        if called = "" ∨ called ∉ contracts ∨ name ∈ out.keys then none
        else declareRequests contracts rest (out.set name (some called))
      | _ => none
  | _ :: _, _ => none

/-- `_expected_requests` of the loaded module, `none` when it could not be loaded. -/
def expectedRequests : Option SmokeModule → Option (PyDict String (Option String))
  | none => none
  | some script =>
    match script.requests, script.toolContract with
    | some (.arr (first :: rest)), some (.obj contracts) =>
      declareRequests (contracts.map Prod.fst) (first :: rest) PyDict.empty
    | _, _ => none

/-- `bool` as the host prints it. -/
def boolText (b : Bool) : String := if b then "True" else "False"

def functionValue : Option String → Json
  | some called => .str called
  | none => .null

/-- `result.get("expected_function") != want_function` is false. -/
def isFunction (want : Option String) (value : Json) : Bool :=
  match want with
  | some called => value.isText called
  | none => value.isNull

section Checks
variable (reprOf : Json → String)

/-- The checks of a result whose request the contract declares, by whether it wants a tool. -/
def contractProblems (index : Nat) (result : Members) (calls : Int) (want : Option String) :
    List String :=
  let name := reprOf (PyJson.get result "name")
  let found := PyJson.get result "expected_function"
  let argsOk := PyJson.get result "tool_args_ok"
  flag (!isFunction want found)
      (s!"smoke: result {index} ({name}) expected_function={reprOf found}, " ++
        s!"contract says {reprOf (functionValue want)}") ++
    (["wants_tool", "tool_call_required"].flatMap fun field =>
      flag (!(PyJson.get result field).isBool want.isSome)
        (s!"smoke: result {index} ({name}) {field}={reprOf (PyJson.get result field)}, " ++
          s!"contract says {boolText want.isSome}")) ++
    match want with
    | none =>
      flag (!argsOk.isNull)
          (s!"smoke: result {index} ({name}) is a plain request but " ++
            s!"reports tool_args_ok={reprOf argsOk}") ++
        flag (calls ≠ 0)
          (s!"smoke: result {index} ({name}) is a plain request but " ++
            s!"made {calls} tool call(s)")
    | some _ =>
      flag (!argsOk.isBool true)
          s!"smoke: result {index} ({name}) tool_args_ok={reprOf argsOk}, expected True" ++
        flag (calls ≠ 1)
          (s!"smoke: result {index} ({name}) made {calls} tool call(s), " ++
            "expected exactly 1")

def flagProblems (index : Nat) (result : Members) : List String :=
  let name := PyJson.get result "name"
  let round := PyJson.get result "round"
  let nan := PyJson.get result "nan"
  flag (!(name.asText.any (· ≠ ""))) s!"smoke: result {index} has no request name" ++
    flag (!(round.plainInt.any (1 ≤ ·)))
      (s!"smoke: result {index} ({reprOf name}) round={reprOf round}, " ++
        "expected a positive round") ++
    flag (!(PyJson.get result "ok").isBool true)
      s!"smoke: result {index} ({reprOf name}) is not a passing request" ++
    flag (!nan.isBool false)
      s!"smoke: result {index} ({reprOf name}) nan={reprOf nan}, expected False"

def declaredFor (expected : Option (PyDict String (Option String))) (result : Members) :
    Option (Option String) :=
  match expected, PyJson.get result "name" with
  | some requests, .str name => requests.get name
  | _, _ => none

def resultFailures (expected : Option (PyDict String (Option String))) (index : Nat) :
    Json → List String
  | .obj result =>
    let name := PyJson.get result "name"
    let found := PyJson.get result "n_tool_calls"
    match found.plainInt.filter (0 ≤ ·) with
    | some calls =>
      flagProblems reprOf index result ++
        match declaredFor expected result with
        | some want => contractProblems reprOf index result calls want
        | none => []
    | none =>
      flagProblems reprOf index result ++
        [s!"smoke: result {index} ({reprOf name}) n_tool_calls={reprOf found}, " ++
          "expected a non-negative count"]
  | _ => [s!"smoke: result {index} is not an object"]

def resultKey : Json → Option (String × Int)
  | .obj result =>
    match PyJson.get result "name", PyJson.get result "round" with
    | .str name, .int round => some (name, round)
    | _, _ => none
  | _ => none

def seenResults (results : List Json) : PyDict (String × Int) Nat :=
  PyDict.tally (results.filterMap resultKey)

/-- `range(1, repeat + 1)`. -/
def rounds (count : Int) : List Int := (List.range count.toNat).map fun n : Nat => (n : Int) + 1

def coverageProblems (requests : PyDict String (Option String)) (count : Int)
    (seen : PyDict (String × Int) Nat) : List String :=
  requests.keys.flatMap fun name => (rounds count).flatMap fun round =>
    let found := (seen.get (name, round)).getD 0
    flag (found ≠ 1) s!"smoke/{name} round {round}: {found} results, expected 1"

def keyLe (a b : String × Int) : Bool := a.1 < b.1 || a.1 = b.1 && a.2 ≤ b.2

def extraKeys (requests : PyDict String (Option String)) (count : Int)
    (seen : PyDict (String × Int) Nat) : List (String × Int) :=
  (seen.keys.filter fun key =>
    key.1 ∉ requests.keys || !(1 ≤ key.2 && key.2 ≤ count)).mergeSort keyLe

def keyText (key : String × Int) : String := s!"({reprOf (.str key.1)}, {key.2})"

def extraKeyProblem (requests : PyDict String (Option String)) (count : Int)
    (seen : PyDict (String × Int) Nat) : List String :=
  let extra := extraKeys requests count seen
  let listed := ", ".intercalate (extra.map (keyText reprOf))
  flag (extra ≠ []) s!"smoke: unexpected requests [{listed}]"

def resultsProblems (expected : Option (PyDict String (Option String))) (count requests : Json) :
    Json → List String
  | .arr results =>
    let seen := seenResults results
    (match requests.plainInt with
      | some total => flag ((results.length : Int) ≠ total)
          s!"smoke: {results.length} results for {total} requests"
      | none => []) ++
      (results.zipIdx.flatMap fun entry => resultFailures reprOf expected entry.2 entry.1) ++
      match expected, count.plainInt with
      | some declared, some n =>
        coverageProblems declared n seen ++ extraKeyProblem reprOf declared n seen
      | _, _ => []
  | found => [s!"smoke: results={reprOf found}, expected a list"]

def logErrorProblems : Json → List String
  | .obj errors => nodes.flatMap fun node =>
    match PyJson.get errors node with
    | .arr [] => []
    | .arr found => [s!"smoke/{node}: engine/CUDA/NCCL errors recorded: {reprOf (.arr found)}"]
    | _ => [s!"smoke/{node}: log scan status is not a list"]
  | found => [s!"smoke: no per-rank log scan status: {reprOf found}"]

def logFailureProblems : Json → List String
  | .obj failures => nodes.flatMap fun node =>
    match PyJson.get failures node with
    | .str text => flag (text ≠ "") s!"smoke/{node}: log collection failed: {reprOf (.str text)}"
    | found => [s!"smoke/{node}: log collection status {reprOf found} is not a string"]
  | _ => ["smoke: no per-rank log collection status"]

def smokeFailures (script : Option SmokeModule) : Json → List String
  | .obj smoke =>
    let expected := expectedRequests script
    let ok := PyJson.get smoke "ok"
    let failed := PyJson.get smoke "failed"
    let anyNan := PyJson.get smoke "any_nan"
    let count := PyJson.get smoke "repeat"
    let requests := PyJson.get smoke "requests"
    flag (!ok.isBool true) s!"smoke: ok={reprOf ok}, expected True" ++
      flag (!failed.equalsInt 0) s!"smoke: failed={reprOf failed}, expected 0" ++
      flag (!anyNan.isBool false) s!"smoke: any_nan={reprOf anyNan}, expected False" ++
      flag expected.isNone "smoke: could not read the expected request list" ++
      flag (!count.plainInt.any (0 < ·))
        s!"smoke: repeat={reprOf count}, expected a positive count" ++
      flag (!requests.plainInt.any (0 < ·))
        s!"smoke: requests={reprOf requests}, expected a positive count" ++
      resultsProblems reprOf expected count requests (PyJson.get smoke "results") ++
      logErrorProblems reprOf (PyJson.get smoke "log_errors") ++
      logFailureProblems reprOf (PyJson.get smoke "log_failures")
  | _ => ["smoke: receipt is not an object"]

end Checks
end ExpertsWindow
