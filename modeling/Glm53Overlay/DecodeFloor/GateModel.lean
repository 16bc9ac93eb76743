import Mathlib.Data.Rat.Floor
import Mathlib.Tactic.Linarith
import Glm53Overlay.Library.PyText
import Glm53Overlay.Library.PyDict

/-!
The mixed-prefill gate installed by the decode-floor overlay: knobs, policy, the
per-request state of the v3.1 helper, where that state is stored, and the retained
v2 helper. One clock reading stands for all reads made inside one gate call. Readings are
doubles there and exact seconds here: where the readings of a trace lie within a 128th of the
earliest one, their differences, the products of these with 1000 and the sums of disjoint ones
lose nothing in a double. The objects of a trace are alive throughout it, so no entry of a
weak-keyed dictionary vanishes.
-/
namespace DecodeFloorGate
open PyText

/-- The knobs as found in the environment; `none` is an unset variable. -/
structure GateEnv where
  warmTokens : Option String
  maxWaitMs : Option String
  lateCap : Option String
  escalateMs : Option String
  lateCapMax : Option String

def intKnob (raw : Option String) (default lo hi : Int) : Int :=
  match raw with
  | none => default
  | some text =>
    if strip text = "" then default
    else match toInt (strip text) with
      | none => default
      | some v => if v < lo ∨ hi < v then default else v

theorem int_knob_range (raw : Option String) (default lo hi : Int)
    (low : lo ≤ default) (high : default ≤ hi) :
    lo ≤ intKnob raw default lo hi ∧ intKnob raw default lo hi ≤ hi := by
  unfold intKnob
  split
  · exact ⟨low, high⟩
  · split
    · exact ⟨low, high⟩
    · split
      · exact ⟨low, high⟩
      · split
        · exact ⟨low, high⟩
        · rename_i inside
          omega

/-- A gate configuration is one the parser admits: every knob in its range and the
    escalation ceiling not below the base late cap. -/
structure GateConfig where
  warmTokens : Int
  maxWaitMs : Int
  lateCap : Int
  escalateMs : Int
  lateCapMax : Int
  warm_range : 0 ≤ warmTokens ∧ warmTokens ≤ 1000000
  wait_range : 0 ≤ maxWaitMs ∧ maxWaitMs ≤ 600000
  cap_range : 64 ≤ lateCap ∧ lateCap ≤ 8192
  escalate_range : 0 ≤ escalateMs ∧ escalateMs ≤ 600000
  ceiling_range : lateCap ≤ lateCapMax ∧ lateCapMax ≤ 8192

def gateConfig (env : GateEnv) : GateConfig :=
  let lateCap := intKnob env.lateCap 512 64 8192
  let lateCapMax := intKnob env.lateCapMax 1792 64 8192
  { warmTokens := intKnob env.warmTokens 3584 0 1000000
    maxWaitMs := intKnob env.maxWaitMs 1500 0 600000
    lateCap := lateCap
    escalateMs := intKnob env.escalateMs 0 0 600000
    lateCapMax := if lateCapMax < lateCap then lateCap else lateCapMax
    warm_range := int_knob_range _ _ _ _ (by decide) (by decide)
    wait_range := int_knob_range _ _ _ _ (by decide) (by decide)
    cap_range := int_knob_range _ _ _ _ (by decide) (by decide)
    escalate_range := int_knob_range _ _ _ _ (by decide) (by decide)
    ceiling_range := by
      have base := int_knob_range env.lateCap 512 64 8192 (by decide) (by decide)
      have top := int_knob_range env.lateCapMax 1792 64 8192 (by decide) (by decide)
      split <;> omega }

/-- How an object hashes and compares: as itself, by a value that makes it equal to the other
    objects of that value, or not at all (`__eq__` without `__hash__`). -/
inductive Hashing where
  | byIdentity
  | byValue (value : Nat)
  | unhashable
  deriving DecidableEq, Repr

/-- What the class of a request object allows: attribute assignment, weak references (neither
    for `__slots__` without `__dict__` and `__weakref__`), and being a key. -/
structure Storage where
  attributes : Bool
  weakReferences : Bool
  hashing : Hashing
  deriving DecidableEq, Repr

def Storage.plain : Storage := ⟨true, true, .byIdentity⟩

/-- A request object as a gate call sees it. `ident` is `id(request)`. -/
structure Request where
  ident : Nat
  requestId : String
  storage : Storage
  numTokens : Int
  numPromptTokens : Int
  numComputedTokens : Int
  deriving DecidableEq, Repr

def decoding (r : Request) : Bool := r.numPromptTokens ≤ r.numComputedTokens

def samePeer (r current : Request) : Bool :=
  r.ident = current.ident ∨ r.requestId = current.requestId

/-- What GLM53_MIXED_PREFILL_CHUNK asks for: `none` no policy, `some 0` skip. -/
def chunkCap (chunk : Option String) : Option Int :=
  let raw := lower (strip (chunk.getD "skip"))
  if raw = "0" ∨ raw = "off" ∨ raw = "no" then none
  else if raw = "skip" ∨ raw = "-1" then some 0
  else
    let cap := (toInt raw).getD 0
    if cap ≤ 0 then none else some cap

def mixedPrefillPolicy (chunk : Option String) (running : List Request) (current : Request) :
    Option Int :=
  match chunkCap chunk with
  | none => none
  | some cap =>
    if running.any fun r => !samePeer r current && decoding r then some cap else none

theorem chunk_cap_nonneg {chunk : Option String} {cap : Int} (asked : chunkCap chunk = some cap) :
    0 ≤ cap := by
  unfold chunkCap at asked
  simp only at asked
  split at asked
  · cases asked
  · split at asked
    · simp only [Option.some.injEq] at asked
      omega
    · split at asked
      · cases asked
      · simp only [Option.some.injEq] at asked
        omega

theorem policy_some_iff (chunk : Option String) (running : List Request) (current : Request)
    (cap : Int) :
    mixedPrefillPolicy chunk running current = some cap ↔
      chunkCap chunk = some cap ∧ ∃ r ∈ running, samePeer r current = false ∧ decoding r = true := by
  unfold mixedPrefillPolicy
  cases asked : chunkCap chunk with
  | none => simp
  | some c =>
    simp only [Option.some.injEq]
    split
    · rename_i peer
      have found : ∃ r ∈ running, samePeer r current = false ∧ decoding r = true := by
        simpa [List.any_eq_true] using peer
      simp [found]
    · rename_i alone
      have missing : ¬ ∃ r ∈ running, samePeer r current = false ∧ decoding r = true := by
        simpa [List.any_eq_true] using alone
      simp [missing]

/-- The dict kept per request. A missing key and a stored None read the same. -/
structure GateState where
  firstSeen : Option ℚ
  lateAt : Option ℚ
  cap : Option Int
  done : Bool
  lastComputed : Option Int
  cappedAt : Option ℚ
  cappedS : Option ℚ
  deriving DecidableEq

def GateState.fresh : GateState := ⟨none, none, none, false, none, none, none⟩

inductive GateLog where
  | lateAdmit (waitedMs : ℚ) (remaining cap : Int)
  | lateEscalate (before after : Int)
  | lateDone (crawlWall crawlCapped : ℚ) (finalCap : Option Int)
  deriving DecidableEq

def setCapped (now : ℚ) (active : Bool) (st : GateState) : GateState :=
  if st.lateAt = none then st
  else if active then
    match st.cappedAt with
    | none => { st with cappedAt := some now }
    | some _ => st
  else
    match st.cappedAt with
    | none => st
    | some since =>
      { st with cappedS := some (st.cappedS.getD 0 + max (now - since) 0), cappedAt := none }

/-- A smaller count than last time is a rollback: the crawl episode is forgotten, the
    hold age is not. -/
def noteComputed (computed : Int) (st : GateState) : GateState :=
  let kept := match st.lastComputed with
    | some last =>
      if computed < last then
        { st with lateAt := none, cap := none, done := false, cappedAt := none, cappedS := none }
      else st
    | none => st
  { kept with lastComputed := some computed }

def finishCrawl (now : ℚ) (st : GateState) : GateState × List GateLog :=
  match st.lateAt with
  | none => (st, [])
  | some since =>
    if st.done then (st, [])
    else
      let closed := { setCapped now false st with done := true }
      (closed, [.lateDone (now - since) (closed.cappedS.getD 0) closed.cap])

def stampFirstSeen (now : ℚ) (st : GateState) : GateState :=
  { st with firstSeen := some (st.firstSeen.getD now) }

def admitLate (now waitedMs : ℚ) (remaining lateCap : Int) (st : GateState) :
    GateState × List GateLog :=
  match st.lateAt with
  | none => ({ st with lateAt := some now }, [.lateAdmit waitedMs remaining lateCap])
  | some _ => (st, [])

/-- The late cap doubles every `escalateMs`, at most eight times. A negative shift
    count cannot come up on a non-decreasing clock; it reads as no doubling here. -/
def escalatedCap (cfg : GateConfig) (now lateAt : ℚ) : Int :=
  if 0 < cfg.escalateMs then
    let doublings := min ⌊(now - lateAt) * 1000 / cfg.escalateMs⌋ 8
    min cfg.lateCapMax (cfg.lateCap * 2 ^ doublings.toNat)
  else cfg.lateCap

def recordCap (lateCap : Int) (st : GateState) : GateState × List GateLog :=
  if st.cap = some lateCap then (st, [])
  else ({ st with cap := some lateCap },
    match st.cap with
    | some before => [.lateEscalate before lateCap]
    | none => [])

structure Outcome where
  state : Option GateState
  verdict : Option Int
  log : List GateLog

def lateCrawl (cfg : GateConfig) (now waitedMs : ℚ) (remaining : Int) (st : GateState) :
    Outcome :=
  let admitted := admitLate now waitedMs remaining cfg.lateCap st
  let lateCap := escalatedCap cfg now (admitted.1.lateAt.getD now)
  let recorded := recordCap lateCap admitted.1
  ⟨some (setCapped now true recorded.1), some (max (min lateCap remaining) 1),
    admitted.2 ++ recorded.2⟩

/-- `_glm53_mixed_prefill_gate` of v3.1 from the state lookup on, for a request with
    something left to compute. The policy is pure, so it is passed as its value. -/
def gateBody (cfg : GateConfig) (now : ℚ) (policy : Option Int) (remaining computed : Int)
    (found : Option GateState) : Outcome :=
  let st := found.map (noteComputed computed)
  if remaining ≤ cfg.warmTokens then
    ⟨st.map fun s => (finishCrawl now s).1, none,
      (st.map fun s => (finishCrawl now s).2).getD []⟩
  else match policy with
    | none => ⟨st.map (setCapped now false), none, []⟩
    | some cap =>
      if 0 < cap then ⟨st.map (setCapped now false), some cap, []⟩
      else if cfg.maxWaitMs ≤ 0 then ⟨st, some cap, []⟩
      else
        let stamped := stampFirstSeen now
          (st.getD { GateState.fresh with lastComputed := some computed })
        let waitedMs := (now - stamped.firstSeen.getD now) * 1000
        if waitedMs < cfg.maxWaitMs then ⟨some stamped, some cap, []⟩
        else lateCrawl cfg now waitedMs remaining stamped

structure Call where
  now : ℚ
  running : List Request
  current : Request
  computed : Int

def Call.remaining (c : Call) : Int := c.current.numTokens - c.computed

/-- Where the state dicts live: an attribute of the request object, or the bounded
    module-level map keyed by `id()` and guarded by the request id. -/
structure World where
  attrs : Nat → Option GateState
  fallback : Option (PyDict Nat (String × GateState))

def World.empty : World := ⟨fun _ => none, none⟩

def fallbackGet (w : World) (r : Request) : World × Option GateState :=
  match w.fallback with
  | none => (w, none)
  | some m =>
    match m.get r.ident with
    | none => (w, none)
    | some (rid, st) =>
      if rid = r.requestId then (w, some st)
      else ({ w with fallback := some (m.pop r.ident) }, none)

def fallbackLimit : Nat := 4096
def fallbackDrop : Nat := 1024

def fallbackPut (w : World) (r : Request) (st : GateState) : World :=
  let m := w.fallback.getD PyDict.empty
  let room := if fallbackLimit ≤ m.size then m.dropOldest fallbackDrop else m
  { w with fallback := some (room.set r.ident (r.requestId, st)) }

def gateState (w : World) (r : Request) : World × Option GateState :=
  match w.attrs r.ident with
  | some st => (w, some st)
  | none => fallbackGet w r

def setAttr (w : World) (r : Request) (st : GateState) : World :=
  { w with attrs := Function.update w.attrs r.ident (some st) }

def updateState (w : World) (r : Request) (st : GateState) : World :=
  match w.attrs r.ident with
  | some _ => setAttr w r st
  | none => { w with fallback := w.fallback.map fun m => m.set r.ident (r.requestId, st) }

def createState (w : World) (r : Request) (st : GateState) : World :=
  if r.storage.attributes then setAttr w r st else fallbackPut w r st

def saveState (w : World) (r : Request) (found after : Option GateState) : World :=
  match found, after with
  | some _, some st => updateState w r st
  | none, some st => createState w r st
  | _, none => w

/-- The installed v3.1 gate: new world, verdict and late-path lines. -/
def mixedPrefillGate (cfg : GateConfig) (chunk : Option String) (w : World) (c : Call) :
    World × (Option Int × List GateLog) :=
  if c.remaining ≤ 0 then (w, none, [])
  else
    let looked := gateState w c.current
    let out := gateBody cfg c.now (mixedPrefillPolicy chunk c.running c.current) c.remaining
      c.computed looked.2
    (saveState looked.1 c.current looked.2 out.state, out.verdict, out.log)

inductive WeakKey where
  | object (ident : Nat)
  | value (value : Nat)
  deriving DecidableEq

/-- The reference to the object and its hash; `none` where one of them is a TypeError. -/
def weakKey (r : Request) : Option WeakKey :=
  if r.storage.weakReferences then
    match r.storage.hashing with
    | .byIdentity => some (.object r.ident)
    | .byValue value => some (.value value)
    | .unhashable => none
  else none

/-- The retained v2 helper keeps one timestamp per request, on the object or in a
    weak-keyed dictionary. -/
structure WorldV2 where
  firstSeen : Nat → Option ℚ
  fallback : Option (PyDict WeakKey ℚ)

def WorldV2.empty : WorldV2 := ⟨fun _ => none, none⟩

/-- The only failure of the v2 helper: an object that cannot be a weak key. -/
inductive GateError where
  | typeError
  deriving DecidableEq

def stampV2 (w : WorldV2) (now : ℚ) (r : Request) : WorldV2 × Except GateError ℚ :=
  if r.storage.attributes then
    ({ w with firstSeen := Function.update w.firstSeen r.ident (some now) }, .ok now)
  else
    let m := w.fallback.getD PyDict.empty
    match weakKey r with
    | none => ({ w with fallback := some m }, .error .typeError)
    | some key => ({ w with fallback := some (m.set key now) }, .ok now)

/-- Once the dictionary exists it is asked for every object without a stamp of its own. -/
def firstSeenV2 (w : WorldV2) (now : ℚ) (r : Request) : WorldV2 × Except GateError ℚ :=
  match w.firstSeen r.ident with
  | some first => (w, .ok first)
  | none =>
    match w.fallback with
    | none => stampV2 w now r
    | some m =>
      match weakKey r with
      | none => (w, .error .typeError)
      | some key =>
        match m.get key with
        | some first => (w, .ok first)
        | none => stampV2 w now r

def mixedPrefillGateV2 (cfg : GateConfig) (chunk : Option String) (w : WorldV2) (c : Call) :
    WorldV2 × Except GateError (Option Int) :=
  if c.remaining ≤ 0 then (w, .ok none)
  else if c.remaining ≤ cfg.warmTokens then (w, .ok none)
  else match mixedPrefillPolicy chunk c.running c.current with
    | none => (w, .ok none)
    | some cap =>
      if 0 < cap then (w, .ok (some cap))
      else if cfg.maxWaitMs ≤ 0 then (w, .ok (some cap))
      else
        let seen := firstSeenV2 w c.now c.current
        (seen.1, seen.2.map fun first =>
          if cfg.maxWaitMs ≤ (c.now - first) * 1000 then
            some (max (min cfg.lateCap c.remaining) 1)
          else some cap)

def defaultConfig : GateConfig := gateConfig ⟨none, none, none, none, none⟩

def decodingPeer : Request := ⟨1, "peer", .plain, 100, 50, 99⟩

def coldRequest : Request := ⟨2, "cold", .plain, 100000, 100000, 0⟩

def coldTrace : List Call :=
  [⟨0, [decodingPeer], coldRequest, 0⟩, ⟨2, [decodingPeer], coldRequest, 0⟩,
   ⟨3, [decodingPeer], coldRequest, 512⟩]

end DecodeFloorGate
