import Mathlib.Logic.Function.Basic
import Glm53Overlay.Library.FaultProgram
import Glm53Overlay.Library.TextSearch

/-!
The phases of the guarded occupancy window. Every external action (a unit, a container, a file,
the head's HTTP port) takes the next outcome of the environment: a good status, a bad one, an
exception or an interrupt. Writing the receipt cannot fail. The trace keeps, newest first, what
the window did.
-/
namespace OccupancyWindow
open FaultProgram

inductive Phase where
  | preflight | disarm | stop | capture | judge | start | gates | rearm
  deriving DecidableEq, Repr

def phases : List Phase := [.preflight, .disarm, .stop, .capture, .judge, .start, .gates, .rearm]

/-- `PHASES.index`. -/
def Phase.index (p : Phase) : Nat := phases.idxOf p

inductive Outcome where
  | ok
  | bad (text : String)
  | raised (timeout : Bool) (text : String)
  | interrupted
  deriving DecidableEq, Repr

/-- An exception, and whether it is `subprocess.TimeoutExpired`. -/
structure Fault where
  timeout : Bool
  text : String
  deriving DecidableEq, Repr

inductive Event where
  | containerNamed
  | removal (confirmed : Bool)
  | headAnswered
  | guardedStart
  | leftDown
  | rearmEntered
  | timersActive
  | phaseFailed (phase : Phase)
  deriving DecidableEq, Repr

/-- The keys of the receipt that some step reads or that recovery writes. -/
structure Receipt where
  backup : Bool
  disarmAttempted : Bool
  containerName : Option String
  phases : Phase → Option String
  error : Option String
  previousErrors : List String
  recoveryHealth : Option Bool
  recoveryStart : Option String
  recovery : Option String
  finished : Bool

def emptyReceipt : Receipt :=
  ⟨false, false, none, fun _ => none, none, [], none, none, none, false⟩

/-- `outcomes` and `polls` are indexed by the number of actions so far; `polls` tells how many
    times a wait asks before its deadline. -/
structure World where
  outcomes : Nat → Outcome
  polls : Nat → Nat
  clock : String
  used : Nat
  receipt : Receipt
  saved : Option Receipt
  trace : List Event

abbrev Window := Program World Fault

def emit (e : Event) : Window Unit := modify fun w => { w with trace := e :: w.trace }

def record (f : Receipt → Receipt) : Window Unit := modify fun w => { w with receipt := f w.receipt }

def save : Window Unit := modify fun w => { w with saved := some w.receipt }

/-- The next external action: nothing for a good status, the text for a bad one. -/
def act : Window (Option String) := fun w =>
  let next := { w with used := w.used + 1 }
  match w.outcomes w.used with
  | .ok => (.ok none, next)
  | .bad text => (.ok (some text), next)
  | .raised timeout text => (.error (.exception ⟨timeout, text⟩), next)
  | .interrupted => (.error .interrupt, next)

def perform : Window Unit := do
  let _ ← act

/-- An action or check whose bad status raises `RuntimeError`. -/
def require (problem : String) : Window Unit := do
  match ← act with
  | none => pure ()
  | some text => raise ⟨false, problem ++ text⟩

def check (holds : Bool) (problem : String) : Window Unit :=
  if holds then pure () else raise ⟨false, problem⟩

/-- Ask until the answer is good or the deadline has passed. -/
def pollUntil (ask : Window Bool) : Nat → Window Bool
  | 0 => pure false
  | n + 1 => do
    if ← ask then pure true else pollUntil ask n

def wait (ask : Window Bool) : Window Bool := do
  let n ← inspect fun w => w.polls w.used
  pollUntil ask n

def good : Window Bool := do
  let status ← act
  pure status.isNone

def timers : List String := ["vllm-glm53exl3-watchdog.timer", "glm53exl3-metrics-alert.timer"]

/-- `docker rm -f`: the problem when the container may still be there. -/
def removeContainer (name : String) : Window (Option String) := handle
  (do
    match ← act with
    | none => pure none
    | some out =>
      if (TextSearch.find "No such container".toList out.toList).isSome then pure none
      else pure (some ("profiling container " ++ name ++ " may still hold the GPU")))
  (fun e => pure (some ("could not confirm removal of profiling container " ++ name ++
    " (" ++ e.text ++ ")")))

/-- `cleanup_container`: nothing to do without a name on the receipt. -/
def cleanupContainer : Window (Option String) := do
  let name ← inspect fun w => w.receipt.containerName.filter (· ≠ "")
  match name with
  | none => pure none
  | some name =>
    let problem ← removeContainer name
    emit (.removal problem.isNone)
    pure problem

/-- `curl("/health")`: whether the head answers 200. -/
def health : Window Bool := do
  if ← good then
    emit .headAnswered
    pure true
  else pure false

def waitHealth : Window Bool := wait health

def guardedStart : Window Unit := do
  emit .guardedStart
  require "prod-start.sh exited "

/-- `timer_states`: whether each unit is reported active. -/
def timerStates : List String → Window (List Bool)
  | [] => pure []
  | _ :: units => do
    let active ← good
    let others ← timerStates units
    pure (active :: others)

def eachUnit (problem : String) : List String → Window Unit
  | [] => pure ()
  | unit :: units => do
    require (problem ++ unit ++ " exited ")
    eachUnit problem units

/-- A serving head has to drain first. -/
def drainServing : Window Unit := do
  if ← health then check (← wait good) "server did not drain; refusing to take it down"
  else pure ()

/-- The shared preflight, then this window's auditor. -/
def phasePreflight : Window Unit := do
  require "missing .env"
  require "missing probe"
  perform
  perform
  record fun r => { r with backup := true }
  save
  require "profiler knobs already present in .env — window not clean"
  drainServing
  perform
  perform
  perform
  save

def phaseDisarm : Window Unit := do
  record fun r => { r with disarmAttempted := true }
  save
  eachUnit "systemctl stop " timers
  perform
  let states ← timerStates timers
  check (!states.any id) "timers still active after disarm"

def phaseStop : Window Unit := do
  perform
  check (← wait good) "head container still present after stop"

def memoryFree : Window Bool := do
  let head ← good
  let worker ← good
  pure (head && worker)

/-- `docker run` of the profiler: a timeout and a bad status drop the container first. -/
def profile : Window Unit := do
  let status ← handle act fun e =>
    if e.timeout then do
      let problem ← cleanupContainer
      raise ⟨false, "ncu exceeded its timeout" ++ (problem.map ("; " ++ ·)).getD ""⟩
    else raise e
  match status with
  | none => pure ()
  | some text =>
    let problem ← cleanupContainer
    raise ⟨false, "ncu exited " ++ text ++ (problem.map ("; " ++ ·)).getD ""⟩

/-- The image of the head container, or else the one in `.env`. -/
def resolveImage : Window Unit := do
  if ← good then pure () else require "cannot resolve the production image id"

/-- The name goes on the receipt before the container can exist. -/
def nameContainer : Window Unit := do
  let clock ← inspect World.clock
  modify fun w => { w with
    receipt := { w.receipt with containerName := some ("w5-occupancy-" ++ clock) }
    trace := .containerNamed :: w.trace }
  save

def phaseCapture : Window Unit := do
  check (← wait memoryFree) "MemFree did not reach the need"
  require "missing ncu directory"
  resolveImage
  perform
  nameContainer
  profile
  require "probe wrote no /out/probe.json"
  perform
  require "probe did not exercise the grouped path"
  require "probe output is not finite"
  require "probe JSON has no routing block"
  require "probe median_ms is not a positive finite number"

def phaseJudge : Window Unit := do
  require "missing capture"
  require "occupancy auditor exited "
  perform

/-- A head that already answers is left running. -/
def startUnlessHealthy : Window Unit := do
  if ← health then pure ()
  else
    guardedStart
    check (← waitHealth) "head did not become healthy after the window"

def phaseStart : Window Unit := do
  match ← cleanupContainer with
  | some orphan => raise ⟨false, orphan ++ "; refusing to start production"⟩
  | none =>
    startUnlessHealthy
    perform

def phaseGates : Window Unit := do
  let acceptance ← good
  let head ← good
  let worker ← good
  perform
  let stamp ← good
  check acceptance "acceptance battery failed after restore"
  check (head && worker) "MemFree tripwire: below 2.5 GiB on a node"
  check stamp "JIT shape stamp changed; profiler knob must be hash-neutral"

def phaseRearm : Window Unit := do
  emit .rearmEntered
  eachUnit "systemctl start " timers
  let states ← timerStates timers
  check (states.all id) "timers not active after rearm"
  emit .timersActive

def handlers : Phase → Window Unit
  | .preflight => phasePreflight
  | .disarm => phaseDisarm
  | .stop => phaseStop
  | .capture => phaseCapture
  | .judge => phaseJudge
  | .start => phaseStart
  | .gates => phaseGates
  | .rearm => phaseRearm

end OccupancyWindow
