import Glm53Overlay.Library.TextSearch

/-!
The streaming reader of a trace. The text comes in pieces; the reader keeps a buffer and a
position, and decodes one event at a time. The decoder is the standard library's.
-/
namespace KernelShare

abbrev Text := List Char

def eventsKey : Text := "\"traceEvents\"".toList

def isSeparator (c : Char) : Bool := c ∈ [' ', '\t', '\r', '\n', ',']

inductive Missing where
  | noArray
  | neverOpened
  | endsBeforeClose
  | midEvent
  deriving DecidableEq

/-- How the generator ends: at the closing bracket, or at the end of the text, where strict mode
    raises `TruncatedTrace` with this reason and the other mode returns. -/
inductive Ending where
  | closed
  | truncated (why : Missing)
  deriving DecidableEq

/-- `while not test(buf): buf += read()`; `none` when there is no more to read. -/
def fillUntil (test : Text → Bool) : Text → List Text → Option (Text × List Text)
  | buf, [] => if test buf then some (buf, []) else none
  | buf, chunk :: reads =>
    if test buf then some (buf, chunk :: reads) else fillUntil test (buf ++ chunk) reads

variable {V : Type}

/-- The event loop; `none` when the fuel ends first. -/
def streamEvents (rawDecode : Text → Nat → Option (V × Nat)) (compactAt : Nat) :
    Nat → Text → Nat → List Text → Option (List V × Ending)
  | 0, _, _, _ => none
  | fuel + 1, buf, pos, reads =>
    let pos := pos + ((buf.drop pos).takeWhile isSeparator).length
    match buf[pos]? with
    | none =>
      match reads with
      | [] => some ([], .truncated .endsBeforeClose)
      | chunk :: reads => streamEvents rawDecode compactAt fuel (buf.drop pos ++ chunk) 0 reads
    | some c =>
      if c = ']' then some ([], .closed)
      else
        match rawDecode buf pos with
        | none =>
          match reads with
          | [] => some ([], .truncated .midEvent)
          | chunk :: reads =>
            streamEvents rawDecode compactAt fuel (buf.drop pos ++ chunk) 0 reads
        | some (event, stop) =>
          let (buf, pos) := if compactAt < stop then (buf.drop stop, 0) else (buf, stop)
          (streamEvents rawDecode compactAt fuel buf pos reads).map fun r => (event :: r.1, r.2)

/-- `iter_trace_events` over the pieces the file returns. -/
def iterTraceEvents (rawDecode : Text → Nat → Option (V × Nat)) (compactAt fuel : Nat)
    (reads : List Text) : Option (List V × Ending) :=
  match fillUntil (fun buf => eventsKey <:+: buf) [] reads with
  | none => some ([], .truncated .noArray)
  | some (buf, reads) =>
    let buf := buf.drop ((TextSearch.find eventsKey buf).getD 0)
    match fillUntil (fun buf => '[' ∈ buf) buf reads with
    | none => some ([], .truncated .neverOpened)
    | some (buf, reads) =>
      streamEvents rawDecode compactAt fuel (buf.drop (buf.idxOf '[' + 1)) 0 reads

/-- What is relied on of `raw_decode`: an object is decoded wherever it is complete, no proper
    prefix of one is, and a decoded value is not empty. -/
structure Decodes (IsObject : Text → V → Prop) (rawDecode : Text → Nat → Option (V × Nat)) :
    Prop where
  opens : ∀ text value, IsObject text value → ∃ rest, text = '{' :: rest
  complete : ∀ before text after value, IsObject text value →
    rawDecode (before ++ text ++ after) before.length = some (value, before.length + text.length)
  cut : ∀ before text part value, IsObject text value → part <+: text → part ≠ text →
    rawDecode (before ++ part) before.length = none
  advances : ∀ buf pos value stop, rawDecode buf pos = some (value, stop) →
    pos < stop ∧ stop ≤ buf.length

structure Element (V : Type) where
  gap : Text
  text : Text
  value : V

structure Document (V : Type) where
  front : Text
  colon : Text
  elements : List (Element V)
  gap : Text
  back : Text

def arrayText (elements : List (Element V)) (gap : Text) : Text :=
  elements.flatMap (fun e => e.gap ++ e.text) ++ gap

def Document.opened (d : Document V) : Text :=
  d.front ++ (eventsKey ++ d.colon) ++ '[' :: arrayText d.elements d.gap

def Document.text (d : Document V) : Text := d.opened ++ ']' :: d.back

def Document.values (d : Document V) : List V := d.elements.map Element.value

/-- The key's first occurrence is that of an array of objects, in any layout. -/
structure Document.Proper (IsObject : Text → V → Prop) (d : Document V) : Prop where
  first : TextSearch.find eventsKey d.text = some d.front.length
  colon : '[' ∉ d.colon
  gaps : ∀ e ∈ d.elements, e.gap.all isSeparator = true
  objects : ∀ e ∈ d.elements, IsObject e.text e.value
  last : d.gap.all isSeparator = true

end KernelShare
