import Glm53Overlay.OccupancyWindow.Phases

/-!
The window's recovery and its main: the phase loop, the handler that takes any failure, and the
final block that recovers once the disarm phase is on the receipt.
-/
namespace OccupancyWindow
open FaultProgram

def checkHead : Window (Bool × List String) := handle
  (do
    let healthy ← health
    pure (healthy, []))
  (fun e => pure (false, ["health check failed: " ++ e.text]))

def startAgain : Window (List String) := handle
  (do
    guardedStart
    let ok ← waitHealth
    record fun r => { r with recoveryHealth := some ok }
    pure (if ok then [] else ["head did not become healthy after the recovery restart"]))
  (fun e => pure ["restart failed: " ++ e.text])

/-- A healthy head stays, and nothing is started beside a container that may be there. -/
def ensureProduction (healthy : Bool) (orphan : Option String) : Window (List String) :=
  if healthy then do
    record fun r => { r with
      recoveryHealth := some true, recoveryStart := some "skipped (already healthy)" }
    pure []
  else if orphan.isSome then do
    record fun r => { r with
      recoveryHealth := some false
      recoveryStart := some "skipped (profiling container may still hold the GPU)" }
    emit .leftDown
    pure ["production is not running and was not started while the container is unconfirmed"]
  else startAgain

def rearmTimers : Window (List String) := handle
  (do
    phaseRearm
    pure [])
  (fun e => pure ["re-arm failed: " ++ e.text])

def recoveryText (problems : List String) : String :=
  if problems = [] then "ok" else "FAILED: " ++ "; ".intercalate problems

/-- `recover`: each part on its own, the problems in order. -/
def recover : Window Unit := do
  let orphan ← cleanupContainer
  let checked ← checkHead
  let restarted ← ensureProduction checked.1 orphan
  let rearmed ← rearmTimers
  record fun r => { r with
    recovery := some (recoveryText (orphan.toList ++ checked.2 ++ restarted ++ rearmed)) }

/-- The loop of `main`; a failure comes back with its phase. -/
def phaseLoop : List Phase → Window (Option (Phase × Raised Fault))
  | [] => pure none
  | p :: rest => do
    record fun r => { r with phases := Function.update r.phases p (some "running") }
    save
    match ← attempt (handlers p) with
    | .ok _ =>
      record fun r => { r with phases := Function.update r.phases p (some "ok") }
      save
      phaseLoop rest
    | .error e => pure (some (p, e))

def failureText : Raised Fault → String
  | .exception e => e.text
  | .interrupt => "KeyboardInterrupt"

/-- What the environment does: in the phases and, from its start on, in the recovery. -/
structure Environment where
  phaseOutcomes : Nat → Outcome
  recoveryOutcomes : Nat → Outcome
  polls : Nat → Nat
  recoveryPolls : Nat → Nat
  clock : String

/-- The handler of any failure; the environment of the recovery begins behind it. -/
def noteFailure (env : Environment) (p : Phase) (e : Raised Fault) : Window Unit := do
  emit (.phaseFailed p)
  record fun r => { r with
    error := some (failureText e)
    phases := Function.update r.phases p (some ("FAILED: " ++ failureText e)) }
  save
  modify fun w => { w with
    outcomes := env.recoveryOutcomes, polls := env.recoveryPolls, used := 0 }

/-- Recover once the disarm phase is on the receipt, else only drop the container. -/
def recoverDisarmed : Window Unit := do
  let disarmed ← inspect fun w => (w.receipt.phases .disarm).isSome
  handle
    (if disarmed then recover
      else do
        let _ ← cleanupContainer)
    (fun e => record fun r => { r with recovery := some ("FAILED: unexpected " ++ e.text) })

def finish : Window Unit := do
  record fun r => { r with finished := true }
  save

structure Args where
  start : Phase
  stop : Phase
  /-- An override that differs from the receipt's value. -/
  conflict : Bool

/-- `PHASES[PHASES.index(start):PHASES.index(end) + 1]`. -/
def order (args : Args) : List Phase :=
  (phases.take (args.stop.index + 1)).drop args.start.index

/-- What a resumed window keeps of the receipt's failure. -/
def resume (r : Receipt) : Receipt :=
  { r with error := none, previousErrors := r.previousErrors ++ r.error.toList }

/-- `main` from the parsed arguments on; an unreadable receipt is no receipt. -/
def window (args : Args) (env : Environment) : Window Int := do
  let prior ← inspect fun w => w.receipt
  if args.start ≠ .preflight ∧ prior.backup = false then pure 2
  else if args.conflict then pure 2
  else
    record resume
    save
    if order args = [] then raise ⟨false, "tuple index out of range"⟩
    else
      match ← phaseLoop (order args) with
      | none =>
        finish
        pure 0
      | some (p, e) =>
        noteFailure env p e
        recoverDisarmed
        finish
        pure 1

def start (resumed : Option Receipt) (env : Environment) : World :=
  ⟨env.phaseOutcomes, env.polls, env.clock, 0, resumed.getD emptyReceipt, resumed, []⟩

def main (args : Args) (resumed : Option Receipt) (env : Environment) :
    Except (Raised Fault) Int × World :=
  window args env (start resumed env)

end OccupancyWindow
