import Glm53Overlay.Library.LongestMatch
import Glm53Overlay.Library.PyDict
import Mathlib.Data.Rat.Defs

/-!
The segment token cache of the renderer: which tokenizers it qualifies, which calls it takes,
the walk over the matches of a text, and the store with its byte and entry budgets. The
tokenizer itself cuts a text at the longest added tokens and encodes the pieces one by one.
-/
namespace TokenCache
open LongestMatch

abbrev Text := List Char

def minChars : Nat := 1024

inductive Salt where
  | absent
  | str (s : String)
  | other
  deriving DecidableEq

/-- A keyword value; `other` equals no bool. -/
inductive PyValue where
  | none
  | bool (b : Bool)
  | int (i : Int)
  | float (x : Rat)
  | other

def PyValue.asBool : PyValue → Option Bool
  | .bool b => some b
  | .int i => if i = 0 then some false else if i = 1 then some true else Option.none
  | .float x => if x = 0 then some false else if x = 1 then some true else Option.none
  | _ => Option.none

/-- Keyword arguments; `others` tells whether any further key is given. -/
structure Kwargs where
  addSpecialTokens : Option PyValue
  truncation : Option PyValue
  maxLength : Option PyValue
  others : Bool

def Kwargs.plain : Kwargs := ⟨some (.bool false), some (.bool false), none, false⟩

/-- `kwargs.get("truncation", False)`, as the bool it equals. -/
def Kwargs.truncate (kw : Kwargs) : Option Bool := (kw.truncation.getD (.bool false)).asBool

/-- `kwargs.get("max_length")`: no limit, or an int of at least 1; anything else is refused. -/
def Kwargs.limit (kw : Kwargs) : Option (Option Nat) :=
  match kw.maxLength with
  | none => some none
  | some .none => some none
  | some (.int i) => if i < 1 then none else some (some i.toNat)
  | some _ => none

def Kwargs.hasMaxLength (kw : Kwargs) : Bool :=
  match kw.maxLength with
  | none => false
  | some .none => false
  | some _ => true

/-- Truncation comes with a maximal length, and a maximal length with truncation. -/
def Kwargs.paired (kw : Kwargs) : Bool := kw.hasMaxLength == (kw.truncate == some true)

inductive PartType where
  | split
  | byteLevel
  | other
  deriving DecidableEq

structure Part where
  type : PartType
  addPrefixSpace : Option Bool

inductive PreTokenizer where
  | sequence (parts : List Part)
  | single (part : Part)

def PreTokenizer.parts : PreTokenizer → List Part
  | .sequence parts => parts
  | .single part => [part]

structure AddedToken where
  content : Text
  singleWord : Bool
  lstrip : Bool
  rstrip : Bool
  normalized : Bool

/-- The backend's configuration, as far as it is read; `normalizer` and `dropout` tell whether
    one is set. -/
structure Config where
  normalizer : Bool
  modelIsBpe : Bool
  dropout : Bool
  preTokenizer : PreTokenizer
  postProcessor : Option PartType
  added : List AddedToken

def Config.contents (config : Config) : List Text := config.added.map AddedToken.content

inductive Side where
  | left
  | right

/-- A tokenizer. `config` is `none` when there is no backend or its configuration cannot be
    read; `otherwise` is what it returns outside the modelled pipeline. -/
structure Tokenizer where
  isFast : Bool
  config : Option Config
  segment : Text → List Nat
  special : Text → List Nat
  side : Side
  otherwise : Option Text → Kwargs → Bool → Bool → List Nat

/-- `_qualify`: the alternatives of the pattern, longest first. -/
def Tokenizer.qualify (tok : Tokenizer) : Option (List Text) :=
  if !tok.isFast then none
  else match tok.config with
    | none => none
    | some config =>
      if config.normalizer || !config.modelIsBpe || config.dropout then none
      else if config.preTokenizer.parts.isEmpty || config.preTokenizer.parts.any fun p =>
          p.type == .other || (p.type == .byteLevel && p.addPrefixSpace != some false) then none
      else if config.postProcessor != none && config.postProcessor != some .byteLevel then none
      else if config.added.isEmpty || config.added.any fun t =>
          t.content.isEmpty || t.singleWord || t.lstrip || t.rstrip || t.normalized then none
      else some (config.contents.insertionSort fun a b => b.length ≤ a.length)

def Tokenizer.encodePiece (tok : Tokenizer) : Piece Char → List Nat
  | .gap t => tok.segment t
  | .word t => tok.special t

/-- The tokenizer's own encoding: cut at the longest added tokens, encode every piece. -/
def Tokenizer.encoding (tok : Tokenizer) (config : Config) (text : Text) : List Nat :=
  (pieces (longestAt config.contents) [] 0 text).flatMap tok.encodePiece

def Side.truncate (side : Side) (limit : Nat) (ids : List Nat) : List Nat :=
  match side with
  | .right => ids.take limit
  | .left => ids.drop (ids.length - limit)

def Side.cutTo (side : Side) (limit : Option Nat) (ids : List Nat) : List Nat :=
  match limit with
  | none => ids
  | some limit => side.truncate limit ids

/-- `tokenizer(text, **kwargs)` with the two special-token switches as they stand. -/
def Tokenizer.stock (tok : Tokenizer) (text : Option Text) (kw : Kwargs)
    (splitSpecialTokens encodeSpecialTokens : Bool) : List Nat :=
  match tok.config, text, kw.addSpecialTokens, kw.truncate, kw.limit with
  | some config, some t, some (.bool false), some _, some limit =>
    if kw.others || splitSpecialTokens || encodeSpecialTokens || !kw.paired then
      tok.otherwise text kw splitSpecialTokens encodeSpecialTokens
    else tok.side.cutTo limit (tok.encoding config t)
  | _, _, _, _, _ => tok.otherwise text kw splitSpecialTokens encodeSpecialTokens

/-- `tokenizer(text, add_special_tokens=False, truncation=False)`. -/
def Tokenizer.plain (tok : Tokenizer) (text : Text) : List Nat :=
  tok.stock (some text) Kwargs.plain false false

abbrev Key := Salt × Text

inductive PyObject where
  | key (k : Key)
  | text (t : Text)
  | salt (s : Salt)
  | tokens (ids : List Nat)
  | token (id : Nat)

structure Settings where
  maxBytes : Nat
  maxEntries : Nat
  getsizeof : PyObject → Nat

def Settings.size (settings : Settings) (key : Key) (tokens : List Nat) : Nat :=
  settings.getsizeof (.key key) + settings.getsizeof (.text key.2) +
    settings.getsizeof (.salt key.1) + settings.getsizeof (.tokens tokens) +
    tokens.foldr (fun t total => settings.getsizeof (.token t) + total) 0 + 256

/-- Ghost record of the entries' use, with the salt of the acting call. -/
inductive Event where
  | stored (salt : Salt) (key : Key)
  | reused (salt : Salt) (key : Key)
  deriving DecidableEq

structure Cache where
  entries : PyDict Key (List Nat × Nat)
  bytes : Int
  hits : Nat
  misses : Nat
  announcedHit : Bool
  log : List Event

def Cache.init : Cache := ⟨PyDict.empty, 0, 0, 0, false, []⟩

/-- One call: a text (`none` when it is no string), its arguments, the switches of the
    tokenizer at that time, and which of its uses of the tokenizer raise. -/
structure Call where
  text : Option Text
  kwargs : Kwargs
  salt : Salt
  splitSpecialTokens : Bool
  encodeSpecialTokens : Bool
  raises : Nat → Bool
  stockRaises : Bool

inductive Failure where
  | tokenizer
  | keyError

/-- The loop variables of `encode`, with the number of tokenizer uses so far. -/
structure Walk where
  cache : Cache
  invoked : Nat
  ids : List Nat
  pending : List (Key × List Nat)
  start : Nat

section
variable (tok : Tokenizer) (settings : Settings)

/-- A use of the tokenizer whose ids extend the result; an exception leaves the cache behind. -/
def Walk.extend (raises : Nat → Bool) (w : Walk) (text : Text) : Except Cache Walk :=
  if raises w.invoked then .error w.cache
  else .ok { w with invoked := w.invoked + 1, ids := w.ids ++ tok.plain text }

/-- The text before a match: taken from the cache, or encoded and kept for the store. -/
def Walk.chunk (raises : Nat → Bool) (salt : Salt) (w : Walk) (chunk : Text) :
    Except Cache Walk :=
  if chunk = [] then .ok w
  else match w.cache.entries.get (salt, chunk) with
    | none =>
      let missed : Walk := { w with cache := { w.cache with misses := w.cache.misses + 1 } }
      (missed.extend tok raises chunk).map fun w' =>
        if minChars ≤ chunk.length then
          { w' with pending := w'.pending ++ [((salt, chunk), tok.plain chunk)] }
        else w'
    | some cached =>
      .ok { w with
        cache := { w.cache with
          hits := w.cache.hits + 1
          entries := w.cache.entries.moveToEnd (salt, chunk)
          log := w.cache.log ++ [.reused salt (salt, chunk)] }
        ids := w.ids ++ cached.1 }

def Walk.span (raises : Nat → Bool) (salt : Salt) (text : Text) (w : Walk) (m : Nat × Nat) :
    Except Cache Walk := do
  let w ← w.chunk tok raises salt (slice text w.start m.1)
  let w ← w.extend tok raises (slice text m.1 m.2)
  return { w with start := m.2 }

def Walk.tail (raises : Nat → Bool) (text : Text) (w : Walk) : Except Cache Walk :=
  if w.start < text.length then w.extend tok raises (text.drop w.start) else .ok w

def Cache.overBudget (c : Cache) : Bool :=
  c.bytes > settings.maxBytes || c.entries.size > settings.maxEntries

/-- The eviction loop; the first argument is the number of entries, and an empty dictionary
    that is still over its budget raises. -/
def Cache.evict : Nat → Cache → Except Cache Cache
  | 0, c => if c.overBudget settings then .error c else .ok c
  | n + 1, c =>
    if c.overBudget settings then
      match c.entries.entries with
      | [] => .error c
      | (_, (_, removed)) :: _ =>
        Cache.evict n { c with entries := c.entries.dropOldest 1, bytes := c.bytes - removed }
    else .ok c

def Cache.bytesWithout (c : Cache) (key : Key) : Int :=
  match c.entries.get key with
  | some previous => c.bytes - previous.2
  | none => c.bytes

/-- One round of the store loop. -/
def Cache.store (salt : Salt) (c : Cache) (item : Key × List Nat) : Except Cache Cache :=
  let size := settings.size item.1 item.2
  if size > settings.maxBytes then .ok c
  else
    let kept : Cache := { c with
      entries := (c.entries.pop item.1).set item.1 (item.2, size)
      bytes := c.bytesWithout item.1 + size
      log := c.log ++ [.stored salt item.1] }
    kept.evict settings kept.entries.size

/-- The first checks of `encode`: alternatives, text, whether to truncate, limit. -/
def admits (call : Call) : Option (List Text × Text × Bool × Option Nat) :=
  match tok.qualify, call.text, call.kwargs.addSpecialTokens, call.kwargs.truncate with
  | some alternatives, some text, some (.bool false), some truncate =>
    if text.length < minChars || call.kwargs.others || call.splitSpecialTokens ||
        call.encodeSpecialTokens || call.salt == .other then none
    else call.kwargs.limit.map fun limit => (alternatives, text, truncate, limit)
  | _, _, _, _ => none

/-- What follows the walk: an over-limit result is left to the tokenizer, else the new chunks
    are stored. -/
def finish (salt : Salt) (truncate : Bool) (limit : Option Nat) (w : Walk) :
    Except Failure (Option (List Nat)) × Cache :=
  if truncate && limit.any fun limit => w.ids.length > limit then (.ok none, w.cache)
  else match w.pending.foldlM (Cache.store settings salt) w.cache with
    | .error c => (.error .keyError, c)
    | .ok c => (.ok (some w.ids), if c.hits ≠ 0 then { c with announcedHit := true } else c)

def encode (c : Cache) (call : Call) : Except Failure (Option (List Nat)) × Cache :=
  match admits tok call with
  | none => (.ok none, c)
  | some (alternatives, text, truncate, limit) =>
    match spans (firstAt alternatives) 0 0 text with
    | [] => (.ok none, c)
    | m :: rest =>
      let walked := do
        let w ← (m :: rest).foldlM (Walk.span tok call.raises call.salt text) ⟨c, 0, [], [], 0⟩
        w.tail tok call.raises text
      match walked with
      | .error c => (.error .tokenizer, c)
      | .ok w => finish settings call.salt truncate limit w

def tokenize (c : Cache) (call : Call) : Except Failure (List Nat) × Cache :=
  match encode tok settings c call with
  | (.ok (some ids), c) => (.ok ids, c)
  | (.ok none, c) =>
    if call.stockRaises then (.error .tokenizer, c)
    else (.ok (tok.stock call.text call.kwargs call.splitSpecialTokens
      call.encodeSpecialTokens), c)
  | (.error failure, c) => (.error failure, c)

inductive Op where
  | tokenize (call : Call)
  | encode (call : Call)

def step (c : Cache) : Op → Cache
  | .tokenize call => (tokenize tok settings c call).2
  | .encode call => (encode tok settings c call).2

def after (history : List Op) : Cache := history.foldl (step tok settings) Cache.init

end

end TokenCache
