import Mathlib.Data.List.Basic
import Mathlib.Logic.Function.Basic

/-!
The shared-experts object with double-batch overlap: the stock class, which launches the layer
in `forward`, and the patched class, which launches it at the sync point and joins it in
`forward`. A stream is a queue of launches; waiting for an event or for a stream moves the
position up to which the other queue is known to be finished. A failed assertion is `none`.
-/
namespace SharedExperts

inductive SharedExpertsOrder where
  | none
  | noOverlap
  | mkInternalOverlapped
  | multiStreamOverlapped
  deriving DecidableEq

/-- What decides the order besides the number of rows; fixed for the object's life. -/
structure Overlap where
  shardSequenceParallel : Bool
  enableEplb : Bool
  all2allBackend : String
  useFiNvlTwoSidedKernels : Bool
  mkCanOverlapSharedExperts : Bool
  isCuda : Bool
  stream : Bool
  streamTokenThreshold : Nat

def eplbOverlapSafeBackends : List String :=
  ["allgather_reducescatter", "flashinfer_nvlink_one_sided"]

/-- `_disable_shared_experts_overlap`. -/
def Overlap.disabled (c : Overlap) : Bool :=
  c.shardSequenceParallel ||
    (c.enableEplb && !eplbOverlapSafeBackends.contains c.all2allBackend) ||
    c.useFiNvlTwoSidedKernels

/-- `_determine_shared_experts_order` on an input of the given number of rows. -/
def determineSharedExpertsOrder (c : Overlap) (rows : Nat) : SharedExpertsOrder :=
  if c.disabled then .noOverlap
  else if c.mkCanOverlapSharedExperts then .mkInternalOverlapped
  else if c.isCuda && c.stream && decide (rows ≤ c.streamTokenThreshold) then
    .multiStreamOverlapped
  else .noOverlap

/-- The DBO ubatch id. -/
abbrev Slot := Fin 2

/-- Where the layer was enqueued: on the main stream, or on the auxiliary stream at a position
    of its queue, after the given number of main launches was waited for. -/
inductive Launch where
  | main
  | aux (position mainWaited : Nat)
  deriving DecidableEq

structure Call (X : Type) where
  slot : Slot
  input : X
  launch : Launch

variable {X Y : Type}

/-- Host state, the two queues' lengths, how much of the other queue each has waited for,
    the positions the events hold, and the log of layer executions. -/
structure State (X Y : Type) where
  output : Slot → Option Y
  earlyPending : Slot → Bool
  earlyInputReady : Slot → Nat
  earlyOutputReady : Slot → Nat
  mainLength : Nat
  auxLength : Nat
  mainWaited : Nat
  auxWaited : Nat
  calls : List (Call X)

def State.init : State X Y where
  output _ := Option.none
  earlyPending _ := false
  earlyInputReady _ := 0
  earlyOutputReady _ := 0
  mainLength := 0
  auxLength := 0
  mainWaited := 0
  auxWaited := 0
  calls := []

inductive Step (X : Type) where
  | sync (input : X)
  | forward (input : X) (order : SharedExpertsOrder)
  | read

def State.runOnMain (layer : X → Y) (s : State X Y) (slot : Slot) (x : X) : State X Y :=
  { s with
    output := Function.update s.output slot (some (layer x))
    mainLength := s.mainLength + 1
    calls := s.calls ++ [⟨slot, x, .main⟩] }

def State.runOnAux (layer : X → Y) (s : State X Y) (slot : Slot) (x : X) : State X Y :=
  { s with
    output := Function.update s.output slot (some (layer x))
    auxLength := s.auxLength + 1
    calls := s.calls ++ [⟨slot, x, .aux s.auxLength s.auxWaited⟩] }

/-- `current_stream().wait_stream(self._stream)`. -/
def State.mainWaitsAux (s : State X Y) : State X Y :=
  { s with mainWaited := max s.mainWaited s.auxLength }

/-- `self._stream.wait_stream(current_stream())`. -/
def State.auxWaitsMain (s : State X Y) : State X Y :=
  { s with auxWaited := max s.auxWaited s.mainLength }

/-- The fall-through of `forward` in both classes: run the layer where the order says. -/
def State.runLayer (layer : X → Y) (s : State X Y) (slot : Slot) (x : X)
    (order : SharedExpertsOrder) : Option (State X Y) :=
  if s.output slot ≠ Option.none then Option.none
  else if order = .multiStreamOverlapped then
    some (s.runOnAux layer slot x).mainWaitsAux
  else some (s.runOnMain layer slot x)

/-- The `output` property: the slot's value, which it empties. -/
def State.take (s : State X Y) (slot : Slot) : Option (State X Y × Option Y) :=
  (s.output slot).map fun y =>
    ({ s with output := Function.update s.output slot Option.none }, some y)

def stockSync (c : Overlap) (rows : X → Nat) (s : State X Y) (x : X) : Option (State X Y) :=
  if determineSharedExpertsOrder c (rows x) = .multiStreamOverlapped then
    if c.stream then some s.auxWaitsMain else Option.none
  else some s

def stockForward (c : Overlap) (rows : X → Nat) (layer : X → Y) (s : State X Y) (slot : Slot)
    (x : X) (order : SharedExpertsOrder) : Option (State X Y) :=
  if order ≠ determineSharedExpertsOrder c (rows x) then some s
  else s.runLayer layer slot x order

def stockStep (c : Overlap) (rows : X → Nat) (layer : X → Y) (s : State X Y) (slot : Slot) :
    Step X → Option (State X Y × Option Y)
  | .sync x => (stockSync c rows s x).map (·, Option.none)
  | .forward x order => (stockForward c rows layer s slot x order).map (·, Option.none)
  | .read => s.take slot

/-- The early launch: the aux stream waits for the event recorded on the main stream, the
    layer is enqueued on it, and the second event is recorded behind it. -/
def State.launchEarly (layer : X → Y) (s : State X Y) (slot : Slot) (x : X) : State X Y :=
  let recorded := { s with earlyInputReady := Function.update s.earlyInputReady slot s.mainLength }
  let waited := { recorded with
    auxWaited := max recorded.auxWaited (recorded.earlyInputReady slot) }
  let launched := waited.runOnAux layer slot x
  { launched with
    earlyOutputReady := Function.update launched.earlyOutputReady slot launched.auxLength
    earlyPending := Function.update launched.earlyPending slot true }

def patchedSync (c : Overlap) (rows : X → Nat) (layer : X → Y) (s : State X Y) (slot : Slot)
    (x : X) : Option (State X Y) :=
  if determineSharedExpertsOrder c (rows x) = .multiStreamOverlapped then
    if c.stream then
      if s.output slot ≠ Option.none then Option.none else some (s.launchEarly layer slot x)
    else Option.none
  else some s

def State.joinEarly (s : State X Y) (slot : Slot) : Option (State X Y) :=
  let joined := { s with
    earlyPending := Function.update s.earlyPending slot false
    mainWaited := max s.mainWaited (s.earlyOutputReady slot) }
  if joined.output slot = Option.none then Option.none else some joined

def patchedForward (c : Overlap) (rows : X → Nat) (layer : X → Y) (s : State X Y) (slot : Slot)
    (x : X) (order : SharedExpertsOrder) : Option (State X Y) :=
  if order ≠ determineSharedExpertsOrder c (rows x) then some s
  else if s.earlyPending slot then s.joinEarly slot
  else s.runLayer layer slot x order

def patchedStep (c : Overlap) (rows : X → Nat) (layer : X → Y) (s : State X Y) (slot : Slot) :
    Step X → Option (State X Y × Option Y)
  | .sync x => (patchedSync c rows layer s slot x).map (·, Option.none)
  | .forward x order => (patchedForward c rows layer s slot x order).map (·, Option.none)
  | .read => s.take slot

def run (step : State X Y → Slot → Step X → Option (State X Y × Option Y)) :
    State X Y → List (Slot × Step X) → Option (State X Y × List (Slot × Y))
  | s, [] => some (s, [])
  | s, (slot, st) :: rest => do
    let (s', value) ← step s slot st
    let (final, values) ← run step s' rest
    return (final, (value.map (slot, ·)).toList ++ values)

end SharedExperts
