import Glm53Overlay.Library.PyText
import Glm53Overlay.Library.PyDict
import Glm53Overlay.Library.SortedRuns

/-!
The adaptive-K policy object and its three call sites: the override file, the observe
hook, and the draft hook that trims verified prefixes. Float arithmetic and the text of
JSON values belong to the host and stay parameters. `batch_k` is not modelled: the
installer refuses to wire it. Printed lines are not modelled.
-/
namespace AdaptiveK
open PyText

inductive Json (F : Type) where
  | null
  | bool (b : Bool)
  | int (i : Int)
  | float (f : F)
  | str (s : String)
  | list (items : List (Json F))
  | dict (members : List (String × Json F))

/-- Float operations; `none` is a raised exception. `ofInt` is only used on draft lengths
    and widths, `fromInt` on any integer a file may hold. -/
structure Host (F : Type) where
  ofInt : Int → F
  fromInt : Int → Option F
  parse : String → Option F
  trunc : F → Option Int
  ceil : F → Option Int
  add : F → F → F
  mul : F → F → F
  oneMinus : F → F
  repr : Json F → String

variable {F : Type} (host : Host F)

def Host.toFloat : Json F → Option F
  | .bool b => some (host.ofInt (if b then 1 else 0))
  | .int i => host.fromInt i
  | .float f => some f
  | .str s => host.parse s
  | .null | .list _ | .dict _ => none

def Host.toInt : Json F → Option Int
  | .bool b => some (if b then 1 else 0)
  | .int i => some i
  | .float f => host.trunc f
  | .str s => PyText.toInt s
  | .null | .list _ | .dict _ => none

def Host.toStr : Json F → String
  | .null => "None"
  | .bool b => if b then "True" else "False"
  | .int i => toString i
  | .str s => s
  | v => host.repr v

/-- `mode in ("ema", "on", "1")`. -/
def modeOn (mode : String) : Bool := ["ema", "on", "1"].contains (lower (strip mode))

/-- `value in ("1", "on", "true", "yes")`. -/
def switchOn (value : String) : Bool := ["1", "on", "true", "yes"].contains (lower (strip value))

/-- `text.split(",")`. -/
def splitCommas (text : String) : List String := (text.toList.splitOn ',').map String.ofList

/-- `sorted(set(values))`. -/
def sortedSet (values : List Int) : List Int := SortedRuns.distinct values

/-- The environment the policy object and the graph helper read; `none` is unset. -/
structure Env where
  mode : Option String
  capture : Option String
  alpha : Option String
  margin : Option String
  minSteps : Option String
  set : Option String
  saturate : Option String
  hist : Option String
  batchMargin : Option String
  posTrim : Option String

/-- `{int(x) for x in raw.split(",") if x.strip()}`. -/
def Env.widths (env : Env) : Option (List Int) :=
  ((splitCommas (env.set.getD "2,4,7")).filter fun x => strip x ≠ "").mapM PyText.toInt

/-- The override file as one reload sees it. No content means it cannot be opened or
    is not JSON. -/
structure OverrideFile (F : Type) where
  mtime : Int
  content : Option (Json F)

structure Policy (F : Type) where
  enabled : Bool
  alpha : F
  margin : F
  minSteps : Int
  kSet : List Int
  saturate : String
  histEvery : Int
  batchMargin : Bool
  posTrim : Bool
  state : PyDict String (F × Nat)
  hist : PyDict Int Nat
  steps : Nat
  kMax : Int
  bootSet : List Int
  bootEnabled : Bool
  fileMtime : Option Int

/-- `convert(cfg.get(name, default))`. -/
def field {α : Type} (members : List (String × Json F)) (name : String)
    (convert : Json F → Option α) (default : α) : Option α :=
  match members.lookup name with
  | none => some default
  | some v => convert v

def Host.overrideSet : Json F → Option (List Int)
  | .list items => items.mapM host.toInt
  | v => (splitCommas (host.toStr v)).mapM PyText.toInt

def ladder (bootSet want : List Int) : List Int :=
  let kept := sortedSet (want.filter (bootSet.contains ·))
  if kept = [] then bootSet else kept

def overrideMode (members : List (String × Json F)) : Bool :=
  modeOn (((members.lookup "mode").map host.toStr).getD "ema")

/-- The assignments of `_reload` in order. An exception keeps those made before it, and
    the flag says that the file is reported as ignored. -/
def readOverride (k : Policy F) (cfg : Json F) : Policy F × Bool :=
  match cfg with
  | .dict members =>
    let k := { k with enabled := overrideMode host members }
    match field members "alpha" host.toFloat k.alpha with
    | none => (k, true)
    | some alpha =>
      let k := { k with alpha := alpha }
      match field members "margin" host.toFloat k.margin with
      | none => (k, true)
      | some margin =>
        let k := { k with margin := margin }
        match field members "min_steps" host.toInt k.minSteps with
        | none => (k, true)
        | some minSteps =>
          let text := ((members.lookup "saturate").map host.toStr).getD k.saturate
          let k := { k with minSteps := minSteps, saturate := lower (strip text) }
          match field members "set" (fun v => (host.overrideSet v).map (ladder k.bootSet)) k.kSet with
          | none => (k, true)
          | some kSet =>
            ({ k with kSet := kSet, state := PyDict.empty, hist := PyDict.empty }, false)
  | _ => (k, true)

def reload (k : Policy F) (disk : Option (OverrideFile F)) : Policy F :=
  if k.bootEnabled = false then k
  else
    let mtime := disk.map OverrideFile.mtime
    if mtime = k.fileMtime then k
    else
      let k := { k with fileMtime := mtime }
      match disk.bind OverrideFile.content with
      | none => k
      | some cfg => (readOverride host k cfg).1

/-- The constructor; `none` is a `ValueError` from one of the numeric knobs. -/
def init (env : Env) (disk : Option (OverrideFile F)) : Option (Policy F) := do
  let enabled := modeOn (env.mode.getD "off")
  let alpha ← host.parse (env.alpha.getD "0.25")
  let margin ← host.parse (env.margin.getD "1.0")
  let minSteps ← PyText.toInt (env.minSteps.getD "4")
  let widths ← env.widths
  let histEvery ← PyText.toInt (env.hist.getD "200")
  let kSet := sortedSet widths
  return reload host
    { enabled, alpha, margin, minSteps, kSet, histEvery
      saturate := lower (strip (env.saturate.getD "max"))
      batchMargin := switchOn (env.batchMargin.getD "0")
      posTrim := switchOn (env.posTrim.getD "0")
      state := PyDict.empty
      hist := PyDict.empty
      steps := 0
      kMax := (kSet.max?).getD 0
      bootSet := kSet
      bootEnabled := enabled
      fileMtime := none } disk

def observe (k : Policy F) (reqId : String) (numDraft numAccepted : Int) : Policy F :=
  if k.enabled = false ∨ numDraft ≤ 0 then k
  else
    let obs := if numDraft ≤ numAccepted ∧ k.saturate ≠ "n" then host.ofInt (max k.kMax numDraft)
      else host.ofInt numAccepted
    let blend := fun old => host.add (host.mul obs k.alpha) (host.mul old (host.oneMinus k.alpha))
    match k.state.get reqId with
    | none => { k with state := k.state.set reqId (blend (host.ofInt k.kMax), 1) }
    | some (ema, seen) => { k with state := k.state.set reqId (blend ema, seen + 1) }

/-- Outer `none` is a raised exception, inner `none` a request that stays at full width. -/
def choose (k : Policy F) (reqId : String) (width : Int) (structured : Bool) :
    Option (Option Int) :=
  if k.enabled = false ∨ structured = true ∨ width ≤ 0 then some none
  else
    match k.state.get reqId with
    | none => some none
    | some (ema, seen) =>
      if (seen : Int) < k.minSteps then some none
      else
        (host.ceil (host.add ema k.margin)).bind fun target =>
          let cands := k.kSet.filter fun v => v ≤ min target width
          let rung := if cands = [] then k.kSet.min? else cands.max?
          rung.map fun n => some (max 1 (min n width))

structure Row (Token : Type) where
  requestId : String
  specTokenIds : List Token
  structured : Bool

variable {Token : Type}

def Row.width (r : Row Token) : Int := r.specTokenIds.length

def marginWidth (k : Policy F) (rows : List (Row Token)) (picks : List (Option Int)) :
    Option Int :=
  if k.batchMargin = false ∨ rows.any Row.structured = true then none
  else (picks.filterMap id).min?

def posWidth (k : Policy F) (rows : List (Row Token)) (picks : List (Option Int)) (n : Int) :
    Option Int :=
  if ¬(k.posTrim = true ∧ k.batchMargin = true) then none
  else if rows.any Row.structured = true then none
  else if rows.length < 2 then none
  else if picks.any Option.isNone = true then none
  else
    let floor := (k.kSet.min?).getD n
    if floor < n then some (min n floor) else none

/-- `tokens[:n]`, also for a negative bound. -/
def upTo (tokens : List Token) (n : Int) : List Token :=
  if 0 ≤ n then tokens.take n.toNat else tokens.take (tokens.length - (-n).toNat)

def Row.trim (n : Int) (r : Row Token) : Row Token :=
  if n < r.width then { r with specTokenIds := upTo r.specTokenIds n } else r

/-- `_count`; the periodic print also drops the state of requests that are gone. -/
def count (k : Policy F) (n : Int) (live : String → Bool) : Policy F :=
  let k := { k with hist := k.hist.set n ((k.hist.get n).getD 0 + 1), steps := k.steps + 1 }
  if 0 < k.histEvery ∧ (k.steps : Int) % k.histEvery = 0 then
    { k with state := k.state.filterKeys live }
  else k

def batchWidth (k : Policy F) (rows : List (Row Token)) (picks : List (Option Int)) : Int :=
  if picks.all Option.isSome = true then
    let n := ((picks.filterMap id).min?).getD 0
    (posWidth k rows picks n).getD n
  else (marginWidth k rows picks).getD (((rows.map Row.width).max?).getD 0)

structure Applied (F Token : Type) where
  policy : Policy F
  rows : List (Row Token)
  raised : Bool

/-- `apply`. A row is written only after every pick of the batch succeeded. -/
def apply (k : Policy F) (rows : List (Row Token)) (live : String → Bool)
    (disk : Option (OverrideFile F)) : Applied F Token :=
  let k := if k.steps % 50 = 0 then reload host k disk else k
  if k.enabled = false ∨ rows = [] then ⟨{ k with steps := k.steps + 1 }, rows, false⟩
  else
    match rows.mapM fun r => choose host k r.requestId r.width r.structured with
    | none => ⟨k, rows, true⟩
    | some picks =>
      let n := batchWidth k rows picks
      ⟨count k n live, rows.map (Row.trim n), false⟩

/-- What the scheduler knows of a request when drafts arrive. `structured` is the answer
    of the structured-output manager. -/
structure Request (Token : Type) where
  finished : Bool
  isPrefillChunk : Bool
  structured : Bool
  specTokenIds : List Token

abbrev Requests (Token : Type) := PyDict String (Request Token)

/-- One iteration of the draft loop; `validate` is the grammar of a structured request. -/
def takeDraft (enabled : Bool) (validate : String → List Token → List Token)
    (acc : Requests Token × List (String × Bool)) (draft : String × List Token) :
    Requests Token × List (String × Bool) :=
  match acc.1.get draft.1 with
  | none => acc
  | some r =>
    if r.finished then acc
    else if r.isPrefillChunk then
      if r.specTokenIds.isEmpty then acc
      else (acc.1.set draft.1 { r with specTokenIds := [] }, acc.2)
    else
      let tokens := if r.structured then validate draft.1 draft.2 else draft.2
      let requests := acc.1.set draft.1 { r with specTokenIds := tokens }
      if enabled = true ∧ tokens.isEmpty = false then
        (requests, acc.2 ++ [(draft.1, r.structured)])
      else (requests, acc.2)

def collectedRows (requests : Requests Token) (collected : List (String × Bool)) :
    List (Row Token) :=
  collected.filterMap fun c => (requests.get c.1).map fun r => ⟨c.1, r.specTokenIds, c.2⟩

def writeRow (requests : Requests Token) (row : Row Token) : Requests Token :=
  match requests.get row.requestId with
  | none => requests
  | some r => requests.set row.requestId { r with specTokenIds := row.specTokenIds }

structure Updated (F Token : Type) where
  policy : Policy F
  requests : Requests Token
  raised : Bool

def updateDraftTokenIds (k : Policy F) (requests : Requests Token)
    (validate : String → List Token → List Token) (drafts : List (String × List Token))
    (disk : Option (OverrideFile F)) : Updated F Token :=
  let taken := drafts.foldl (takeDraft k.enabled validate) (requests, [])
  if taken.2 = [] then ⟨k, taken.1, false⟩
  else
    let applied := apply host k (collectedRows taken.1 taken.2) (taken.1.keys.contains ·) disk
    ⟨applied.policy, applied.rows.foldl writeRow taken.1, applied.raised⟩

/-- `_glm53_adaptive_k_query_lens`; `none` is the `ValueError` of the set knob. -/
def adaptiveKQueryLens (env : Env) (lens : List Int) (decodeQueryLen : Int) :
    Option (List Int) :=
  if modeOn (env.mode.getD "off") = false ∧ switchOn (env.capture.getD "0") = false then some lens
  else
    env.widths.map fun ks =>
      let extra := (ks.map (· + 1)).filter fun q => 0 < q ∧ q ≤ decodeQueryLen
      sortedSet (lens ++ extra ++ [decodeQueryLen])

end AdaptiveK
