import Glm53Overlay.Library.PyText

/-!
The resident-tail helpers of the scheduler: the stamp of a fresh admission, the scan of the
waiting queues, and the deferral of a running cold prefill. Attributes may be missing or of
no use to `int`; the prefix hold and the cache lookup belong to other code. Logging is left
out.
-/
namespace ResidentTail
variable {Hash : Type}

/-- An attribute: absent or `None`, refused by `int`, or a number. -/
inductive Attr where
  | missing
  | unusable
  | int (i : Int)
  deriving DecidableEq

/-- `int(obj.name)`; `none` is an exception. -/
def Attr.read : Attr → Option Int
  | .int i => some i
  | _ => none

/-- `int(getattr(obj, name, 0) or 0)`. -/
def Attr.readOrZero : Attr → Option Int
  | .missing => some 0
  | .unusable => none
  | .int i => some i

structure Env where
  page : Option String
  tokens : Option String
  steps : Option String

def residentTailLimit (raw : Option String) (default lo hi : Int) : Int :=
  match raw with
  | none => default
  | some raw =>
    match PyText.toInt (PyText.strip raw) with
    | none => default
    | some value => if value < lo ∨ hi < value then default else value

def residentTailPage (env : Env) : Int := residentTailLimit env.page 3584 64 65536
def residentTailTokens (env : Env) : Int := residentTailLimit env.tokens 3584 1 65536
def residentTailSteps (env : Env) : Int := residentTailLimit env.steps 4 1 32

/-- A request as the scheduler holds it. `ref` is the object's identity, and `writable`
    whether attributes can be set on it. -/
structure Request (Hash : Type) where
  ref : Nat
  numPromptTokens : Attr
  numComputedTokens : Attr
  numTokens : Attr
  blockHashes : List Hash
  residentTail : Option Int
  residentTailDefers : Option Int
  writable : Bool

def isResidentTail (computed prompt : Option Int) (page tail : Int) : Bool :=
  match computed, prompt with
  | some computed, some prompt =>
    if page ≤ 0 ∨ tail ≤ 0 then false
    else page ≤ computed ∧ 0 < prompt - computed ∧ prompt - computed ≤ tail
  | _, _ => false

def shouldDeferCold (prefillLeft : Int) (isTail tailWaiting tailRunning : Bool)
    (numRunning maxRunning deferCount stepCap : Int) : Bool :=
  if isTail = true ∨ prefillLeft ≤ 64 ∨ stepCap ≤ deferCount ∨ stepCap ≤ 0 then false
  else if tailRunning then true
  else if tailWaiting = true ∧ numRunning < maxRunning then true
  else false

def noteResidentTail (env : Env) (request : Request Hash) (computed : Option Int) : Request Hash :=
  match request.numComputedTokens.readOrZero with
  | none => request
  | some already =>
    if already ≠ 0 then request
    else
      match request.numPromptTokens.read with
      | none => request
      | some prompt =>
        let qualifies :=
          isResidentTail computed (some prompt) (residentTailPage env) (residentTailTokens env)
        if request.writable then
          { request with residentTail := some (if qualifies then 1 else 0) }
        else request

def tailStillOpen (env : Env) (request : Request Hash) (computed : Option Int) : Bool :=
  if request.residentTail.getD 0 ≠ 1 then false
  else
    match request.numPromptTokens.read with
    | none => false
    | some prompt =>
      isResidentTail computed (some prompt) (residentTailPage env) (residentTailTokens env)

/-- What the helpers read of the scheduler; `none` stands for a missing attribute or global. -/
structure Scheduler (Hash : Type) where
  running : List (Request Hash)
  waiting : Option (List (Request Hash))
  skippedWaiting : Option (List (Request Hash))
  maxNumRunningReqs : Attr
  blockSize : Attr
  hashBlockSize : Attr
  findLongestCacheHit : Option (List Hash → Int → Option Int)
  holdForInflightPrefix :
    Option (Request Hash → List (Request Hash) → Int → Int → Option Int)

def waiterCacheHit (waiter : Request Hash) (find : List Hash → Int → Option Int) : Int :=
  match waiter.numComputedTokens.readOrZero with
  | none => -1
  | some computed =>
    if computed ≠ 0 then -1
    else if waiter.blockHashes = [] then -1
    else
      let ntok := (waiter.numTokens.readOrZero).getD 0
      let ntok? := if ntok ≤ 1 then waiter.numPromptTokens.readOrZero else some ntok
      match ntok? with
      | none => -1
      | some ntok =>
        if ntok ≤ 1 then -1
        else
          match find waiter.blockHashes (ntok - 1) with
          | none => -1
          | some hit => max 0 hit

/-- A hold that raises blocks the waiter. -/
def waiterIsBlocked (s : Scheduler Hash) (blockSize hashBlockSize : Int)
    (waiter : Request Hash) : Bool :=
  match s.holdForInflightPrefix with
  | none => false
  | some hold =>
    match hold waiter s.running blockSize hashBlockSize with
    | none => true
    | some tokens => tokens ≠ 0

/-- The loop over one queue: a verdict that ends the scan, or the number scanned so far. -/
def scanQueue (s : Scheduler Hash) (find : List Hash → Int → Option Int)
    (blockSize hashBlockSize page tail : Int) : Nat → List (Request Hash) → Bool ⊕ Nat
  | scanned, [] => .inr scanned
  | scanned, waiter :: rest =>
    if 4 ≤ scanned then .inl false
    else if waiterIsBlocked s blockSize hashBlockSize waiter then
      scanQueue s find blockSize hashBlockSize page tail (scanned + 1) rest
    else if isResidentTail (some (waiterCacheHit waiter find)) waiter.numPromptTokens.read page tail
    then .inl true
    else scanQueue s find blockSize hashBlockSize page tail (scanned + 1) rest

def hasWaitingResidentTail (s : Scheduler Hash) (page tail : Int) : Bool :=
  match s.blockSize.read, s.hashBlockSize.read, s.findLongestCacheHit with
  | some blockSize, some hashBlockSize, some find =>
    match scanQueue s find blockSize hashBlockSize page tail 0 (s.waiting.getD []) with
    | .inl found => found
    | .inr scanned =>
      match scanQueue s find blockSize hashBlockSize page tail scanned
          (s.skippedWaiting.getD []) with
      | .inl found => found
      | .inr _ => false
  | _, _, _ => false

def deferColdForResidentTail (env : Env) (s : Scheduler Hash) (request : Request Hash) :
    Bool × Request Hash :=
  match request.numPromptTokens.read, request.numComputedTokens.read, s.maxNumRunningReqs.read with
  | some prompt, some computed, some maxRunning =>
    let numRunning : Int := s.running.length
    let left := prompt - computed
    let isTail := tailStillOpen env request (some computed)
    let deferCount := request.residentTailDefers.getD 0
    let stepCap := residentTailSteps env
    if isTail = true ∨ left ≤ 64 ∨ stepCap ≤ deferCount then (false, request)
    else
      let tailRunning := s.running.any fun other =>
        other.ref != request.ref && other.numComputedTokens.read.isSome &&
          tailStillOpen env other other.numComputedTokens.read
      let tailWaiting := !tailRunning && decide (numRunning < maxRunning) &&
        hasWaitingResidentTail s (residentTailPage env) (residentTailTokens env)
      if shouldDeferCold left isTail tailWaiting tailRunning numRunning maxRunning deferCount
          stepCap then
        if request.writable then
          (true, { request with residentTailDefers := some (deferCount + 1) })
        else (false, request)
      else (false, request)
  | _, _, _ => (false, request)

/-- The calls of one step over the running list; each sees the counters left by the earlier. -/
def deferCalls (env : Env) (s : Scheduler Hash) (done : List (Request Hash)) :
    List (Request Hash) → List Bool
  | [] => []
  | request :: rest =>
    let call := deferColdForResidentTail env { s with running := done ++ request :: rest } request
    call.1 :: deferCalls env s (done ++ [call.2]) rest

end ResidentTail
