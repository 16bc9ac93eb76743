import Mathlib.Data.Char
import Mathlib.Data.List.Lex
import Mathlib.Data.List.MinMax
import Mathlib.Data.List.Sort
import Glm53Overlay.Library.PyJson
import Glm53Overlay.Library.PyText

/-!
The validator of a downloaded snapshot: the index names the shards, each shard declares its
tensors in a header behind an 8-byte length. The JSON decoder is the standard library's.
-/
namespace SnapshotCheck

abbrev Text := List Char
abbrev Bytes := List UInt8

structure PurePosixPath where
  root : Text
  components : List Text

/-- Two leading slashes are kept, three or more count as one. -/
def rootOf : Text → Text
  | '/' :: '/' :: '/' :: _ => ['/']
  | '/' :: '/' :: _ => ['/', '/']
  | '/' :: _ => ['/']
  | _ => []

def PurePosixPath.parse (name : Text) : PurePosixPath :=
  { root := rootOf name
    components := (name.splitOn '/').filter fun c => c ≠ [] ∧ c ≠ ['.'] }

def PurePosixPath.isAbsolute (p : PurePosixPath) : Bool := p.root ≠ []

def PurePosixPath.parts (p : PurePosixPath) : List Text :=
  if p.isAbsolute then p.root :: p.components else p.components

def joinComponents (components : List Text) : Text := ['/'].intercalate components

def PurePosixPath.asPosix (p : PurePosixPath) : Text :=
  if p.parts = [] then ['.'] else p.root ++ joinComponents p.components

inductive Found where
  | missing
  | dangling
  | denied
  | other
  | file (content : Bytes)

/-- A snapshot directory: what its relative paths lead to, and the relative paths that a
    recursive walk lists, whatever is there. -/
structure Directory where
  follow : List Text → Found
  walk : List (List Text)

structure Repo where
  /-- The text of `refs/main`, `none` when it cannot be read. -/
  refsMain : Option Text
  /-- The directories under `snapshots` with their times, `none` when it cannot be listed. -/
  snapshots : Option (List (Text × Nat))
  snapshot : Text → Option Directory

/-- What the decoder raises: an error that is caught, or another one. -/
inductive LoadError where
  | undecodable
  | escaping

inductive SnapshotError where
  | noSnapshots
  | revisionMissing (explicit : Bool) (revision : Text)
  | indexMissing
  | invalidIndex
  | noWeightMap
  | invalidShardName
  | shardCount (found : Nat) (expected : Int)
  | missingFromIndex (sample : List Text)
  | unsafeShardPath (name : Text)
  | danglingSymlink
  | missingFile
  | notRegularFile
  | zeroOrTruncated (size : Nat)
  | invalidHeaderLength (headerLen size : Nat)
  | invalidHeader
  | headerNotObject
  | invalidTensorMetadata (name : String)
  | invalidDataOffsets (name : String)
  | noTensors
  | truncatedPayload (payloadBytes : Nat) (maxPayloadEnd : Int)
  /-- Not a `SnapshotError`: what the system or the decoder raises otherwise. -/
  | uncaught

structure SnapshotReport where
  revision : Text
  shardCount : Nat
  totalBytes : Nat

def readRef (repo : Repo) : Text :=
  match repo.refsMain with
  | some text => PyText.stripChars text
  | none => []

def selectRevision (repo : Repo) (explicitRevision : Text) : Except SnapshotError Text :=
  if explicitRevision ≠ [] then .ok explicitRevision
  else if readRef repo ≠ [] then .ok (readRef repo)
  else match repo.snapshots with
    | none => .error .noSnapshots
    | some candidates =>
      match candidates.argmax Prod.snd with
      | none => .error .noSnapshots
      | some newest => .ok newest.1

def safeSnapshotMember (name : Text) : Except SnapshotError (List Text) :=
  let relative := PurePosixPath.parse name
  if relative.isAbsolute ∨ relative.parts = [] ∨ ['.', '.'] ∈ relative.parts then
    .error (.unsafeShardPath name)
  else .ok relative.parts

variable {F : Type}

/-- `int.from_bytes(raw, "little")`. -/
def fromBytesLittle (raw : Bytes) : Nat := raw.foldr (fun byte high => byte.toNat + 256 * high) 0

/-- A list of two integers, the first not negative and not above the second. -/
def validOffsets : Option (PyJson F) → Option (Int × Int)
  | some (.arr [first, second]) =>
    match first.asInt, second.asInt with
    | some start, some stop =>
      if start < 0 ∨ stop < start then none else some (start, stop)
    | _, _ => none
  | _ => none

/-- The loop over the header's items, with the tensors counted and the largest end. -/
def scanTensors : List (String × PyJson F) → Nat → Int → Except SnapshotError (Nat × Int)
  | [], tensorCount, maxPayloadEnd => .ok (tensorCount, maxPayloadEnd)
  | (name, metadata) :: rest, tensorCount, maxPayloadEnd =>
    if name = "__metadata__" then scanTensors rest tensorCount maxPayloadEnd
    else
      match metadata.asObject with
      | none => .error (.invalidTensorMetadata name)
      | some fields =>
        match validOffsets (fields.lookup "data_offsets") with
        | none => .error (.invalidDataOffsets name)
        | some (_, stop) => scanTensors rest (tensorCount + 1) (max maxPayloadEnd stop)

def validateContent (loads : Bytes → Except LoadError (PyJson F)) (content : Bytes) :
    Except SnapshotError Nat :=
  let size := content.length
  if size < 9 then .error (.zeroOrTruncated size)
  else
    let headerLen := fromBytesLittle (content.take 8)
    if headerLen = 0 ∨ size - 8 < headerLen then .error (.invalidHeaderLength headerLen size)
    else
      match loads ((content.drop 8).take headerLen) with
      | .error .undecodable => .error .invalidHeader
      | .error .escaping => .error .uncaught
      | .ok header =>
        match header.asObject with
        | none => .error .headerNotObject
        | some items =>
          match scanTensors items 0 0 with
          | .error e => .error e
          | .ok (tensorCount, maxPayloadEnd) =>
            if tensorCount = 0 then .error .noTensors
            else
              let payloadBytes := size - 8 - headerLen
              if (payloadBytes : Int) < maxPayloadEnd then
                .error (.truncatedPayload payloadBytes maxPayloadEnd)
              else .ok size

def validateSafetensorsFile (loads : Bytes → Except LoadError (PyJson F)) :
    Found → Except SnapshotError Nat
  | .missing => .error .missingFile
  | .dangling => .error .danglingSymlink
  | .denied => .error .uncaught
  | .other => .error .notRegularFile
  | .file content => validateContent loads content

/-- The loop over the shards; the names whose paths it touched come with the result. -/
def validateShards (loads : Bytes → Except LoadError (PyJson F)) (snapshot : Directory) :
    List Text → List Text × Except SnapshotError Nat
  | [] => ([], .ok 0)
  | name :: rest =>
    match safeSnapshotMember name with
    | .error e => ([], .error e)
    | .ok member =>
      match validateSafetensorsFile loads (snapshot.follow member) with
      | .error e => ([name], .error e)
      | .ok size =>
        let later := validateShards loads snapshot rest
        (name :: later.1, later.2.map (size + ·))

def indexName : Text := "model.safetensors.index.json".toList

def suffix : Text := ".safetensors".toList

/-- The index's parsed text; `loads` stands for reading the text and decoding it. -/
def readIndex (loads : Bytes → Except LoadError (PyJson F)) :
    Found → Except SnapshotError (PyJson F)
  | .file content =>
    match loads content with
    | .error .undecodable => .error .invalidIndex
    | .error .escaping => .error .uncaught
    | .ok value => .ok value
  | .denied => .error .invalidIndex
  | _ => .error .indexMissing

def weightMap (index : PyJson F) : Option (List (String × PyJson F)) :=
  index.asObject.bind fun fields => (fields.lookup "weight_map").bind PyJson.asObject

/-- The values of the weight map when each is a text that is not empty. -/
def shardNames : List (String × PyJson F) → Option (List Text)
  | [] => some []
  | (_, value) :: rest =>
    match value.asText with
    | none => none
    | some name =>
      if name = "" then none
      else (shardNames rest).map (name.toList :: ·)

/-- `sorted(set(names))`. -/
def sortedSet (names : List Text) : List Text := names.dedup.insertionSort (· ≤ ·)

/-- The walk's paths that `*.safetensors` matches. -/
def present (snapshot : Directory) : List Text :=
  (snapshot.walk.filter fun path => path.getLast?.any fun last => suffix.isSuffixOf last).map
    joinComponents

def validateDirectory (loadsIndex loadsHeader : Bytes → Except LoadError (PyJson F))
    (revision : Text) (snapshot : Directory) (expectedShards : Option Int) :
    List Text × Except SnapshotError SnapshotReport :=
  match readIndex loadsIndex (snapshot.follow [indexName]) with
  | .error e => ([], .error e)
  | .ok index =>
    match weightMap index with
    | none | some [] => ([], .error .noWeightMap)
    | some weights =>
      match shardNames weights with
      | none => ([], .error .invalidShardName)
      | some values =>
        let names := sortedSet values
        if expectedShards.any fun expected => (names.length : Int) ≠ expected then
          ([], .error (.shardCount names.length (expectedShards.getD 0)))
        else
          let indexed := names.map fun name => (PurePosixPath.parse name).asPosix
          let unindexed := sortedSet ((present snapshot).filter fun path => path ∉ indexed)
          if unindexed ≠ [] then ([], .error (.missingFromIndex (unindexed.take 3)))
          else
            let shards := validateShards loadsHeader snapshot names
            (shards.1, shards.2.map fun totalBytes =>
              { revision := revision, shardCount := names.length, totalBytes := totalBytes })

def validateSnapshot (loadsIndex loadsHeader : Bytes → Except LoadError (PyJson F))
    (repo : Repo) (explicitRevision : Text) (expectedShards : Option Int) :
    List Text × Except SnapshotError SnapshotReport :=
  match selectRevision repo explicitRevision with
  | .error e => ([], .error e)
  | .ok revision =>
    match repo.snapshot revision with
    | none => ([], .error (.revisionMissing (explicitRevision ≠ []) revision))
    | some snapshot =>
      validateDirectory loadsIndex loadsHeader revision snapshot expectedShards

end SnapshotCheck
