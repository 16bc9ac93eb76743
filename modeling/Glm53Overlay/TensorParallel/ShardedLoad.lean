import Mathlib.Data.List.Basic

/-!
Packed expert parameters of one tensor-parallel rank: their shapes, the sharding of a
checkpoint tensor, and the loader that copies it into its place. A tensor is a shape and a
function on index lists; what the stored words mean is left to the linear layer.
-/
namespace TensorParallel

@[ext]
structure Tensor (V : Type) where
  shape : List Nat
  get : List Nat → V

variable {V : Type}

/-- `tensor.narrow(dim, start, length)`. -/
def Tensor.narrow (t : Tensor V) (dim start length : Nat) : Tensor V :=
  ⟨t.shape.set dim length, fun index => t.get (index.modify dim (start + ·))⟩

/-- `tensor[path]` for a path of integers. -/
def Tensor.view (t : Tensor V) (path : List Nat) : Tensor V :=
  ⟨t.shape.drop path.length, fun index => t.get (path ++ index)⟩

def Tensor.hasPath (t : Tensor V) (path : List Nat) : Bool :=
  path.length ≤ t.shape.length && (path.zip t.shape).all fun (i, size) => i < size

/-- `tensor[path].copy_(source)`. -/
def Tensor.copyAt (t : Tensor V) (path : List Nat) (source : Tensor V) : Tensor V :=
  ⟨t.shape, fun index => if index.take path.length = path then source.get (index.drop path.length)
    else t.get index⟩

inductive Suffix where
  | trellis
  | suh
  | svh
  | mcg
  deriving DecidableEq

def Suffix.word : Suffix → List Char
  | .trellis => ['t', 'r', 'e', 'l', 'l', 'i', 's']
  | .suh => ['s', 'u', 'h']
  | .svh => ['s', 'v', 'h']
  | .mcg => ['m', 'c', 'g']

def exl3Suffixes : List Suffix := [.trellis, .suh, .svh, .mcg]

inductive LoadError where
  | notDivisible (dim size tpSize : Nat)
  | noDimension (dim : Nat)
  | notPackedName (weightName : List Char)
  | unknownShard (shardId : List Char)
  | index (path : List Nat)
  | shapeMismatch (weightName shardId : List Char) (expert : Nat) (dest loaded : List Nat)
  deriving DecidableEq

/-- `weight_name.rsplit(".", 1)[-1]`. -/
def nameTail (weightName : List Char) : List Char :=
  (weightName.reverse.takeWhile (· ≠ '.')).reverse

def suffixFromMappedName (weightName : List Char) : Except LoadError Suffix :=
  match exl3Suffixes.find? fun s =>
      nameTail weightName == s.word || ('_' :: s.word).isSuffixOf (nameTail weightName) with
  | some s => .ok s
  | none => .error (.notPackedName weightName)

def narrowTp (t : Tensor V) (dim tpRank tpSize : Nat) : Except LoadError (Tensor V) :=
  if tpSize ≤ 1 then .ok t
  else match t.shape[dim]? with
    | none => .error (.noDimension dim)
    | some size =>
      if size % tpSize ≠ 0 then .error (.notDivisible dim size tpSize)
      else .ok (t.narrow dim (size / tpSize * tpRank) (size / tpSize))

/-- Gate and up: trellis dimension 1 and svh dimension 0 are column-parallel. -/
def shardExl3Col (loaded : Tensor V) (suffix : Suffix) (tpRank tpSize : Nat) :
    Except LoadError (Tensor V) :=
  match suffix with
  | .trellis => narrowTp loaded 1 tpRank tpSize
  | .svh => narrowTp loaded 0 tpRank tpSize
  | _ => .ok loaded

/-- Down: trellis dimension 0 and suh dimension 0 are row-parallel. -/
def shardExl3Row (loaded : Tensor V) (suffix : Suffix) (tpRank tpSize : Nat) :
    Except LoadError (Tensor V) :=
  match suffix with
  | .trellis => narrowTp loaded 0 tpRank tpSize
  | .suh => narrowTp loaded 0 tpRank tpSize
  | _ => .ok loaded

inductive Stack where
  | w13
  | w2
  deriving DecidableEq

abbrev ParamName := Stack × Suffix

/-- The shapes `create_weights` allocates. -/
def paramShape (numExperts hiddenSize intermediateLocal bits : Nat) : ParamName → List Nat
  | (.w13, .trellis) =>
    [numExperts, 2, hiddenSize / 16, intermediateLocal / 16, bits * 16]
  | (.w13, .suh) => [numExperts, 2, hiddenSize]
  | (.w13, .svh) => [numExperts, 2, intermediateLocal]
  | (.w13, .mcg) => [numExperts, 2, 1]
  | (.w2, .trellis) => [numExperts, intermediateLocal / 16, hiddenSize / 16, bits * 16]
  | (.w2, .suh) => [numExperts, intermediateLocal]
  | (.w2, .svh) => [numExperts, hiddenSize]
  | (.w2, .mcg) => [numExperts, 1]

/-- A copy that took place: the parameter, the path inside it, and the loader call. -/
structure Write (S : Type) where
  param : ParamName
  path : List Nat
  source : S

/-- One rank's layer, with a ghost record of the copies. -/
structure Layer (V S : Type) where
  params : ParamName → Tensor V
  written : List (Write S)

variable {S : Type}

/-- `create_weights`: the refusal of sizes that are no whole tiles, then empty tensors (the
    content of fresh memory is `memory`). -/
def createWeights (memory : ParamName → List Nat → V) (numExperts hiddenSize intermediateLocal
    bits : Nat) : Option (Layer V S) :=
  if hiddenSize % 16 ≠ 0 ∨ intermediateLocal % 16 ≠ 0 then none
  else some ⟨fun name =>
    ⟨paramShape numExperts hiddenSize intermediateLocal bits name, memory name⟩, []⟩

structure Load (V S : Type) where
  param : ParamName
  loadedWeight : Tensor V
  weightName : List Char
  shardId : List Char
  expertId : Nat
  returnSuccess : Bool
  source : S

/-- Shard and place of a call with a shard id: the sharded tensor and the path. -/
def shardFor (ld : Load V S) (expert tpRank tpSize : Nat) :
    Except LoadError (Tensor V × List Nat) := do
  let suffix ← suffixFromMappedName ld.weightName
  if ld.shardId = ['w', '1'] ∨ ld.shardId = ['w', '3'] then
    let sharded ← shardExl3Col ld.loadedWeight suffix tpRank tpSize
    return (sharded, [expert, if ld.shardId = ['w', '1'] then 0 else 1])
  else if ld.shardId = ['w', '2'] then
    let sharded ← shardExl3Row ld.loadedWeight suffix tpRank tpSize
    return (sharded, [expert])
  else throw (.unknownShard ld.shardId)

/-- `_load_exl3`; the expert map gives `none` for -1. -/
def loadExl3 (expertMap : Nat → Option Nat) (tpRank tpSize : Nat) (layer : Layer V S)
    (ld : Load V S) : Except LoadError (Option Bool) × Layer V S :=
  match expertMap ld.expertId with
  | none => (.ok (if ld.returnSuccess then some false else none), layer)
  | some expert =>
    match shardFor ld expert tpRank tpSize with
    | .error e => (.error e, layer)
    | .ok (sharded, path) =>
      let param := layer.params ld.param
      if !param.hasPath path then (.error (.index path), layer)
      else if (param.view path).shape ≠ sharded.shape then
        (.error (.shapeMismatch ld.weightName ld.shardId expert (param.view path).shape
          sharded.shape), layer)
      else
        (.ok (if ld.returnSuccess then some true else none),
          { params := fun name => if name = ld.param then param.copyAt path sharded
              else layer.params name
            written := layer.written ++ [⟨ld.param, path, ld.source⟩] })

/-- A sequence of calls: what each returned or raised, and the layer left behind. -/
def loadAll (expertMap : Nat → Option Nat) (tpRank tpSize : Nat) :
    Layer V S → List (Load V S) → List (Except LoadError (Option Bool)) × Layer V S
  | layer, [] => ([], layer)
  | layer, ld :: rest =>
    let (result, next) := loadExl3 expertMap tpRank tpSize layer ld
    let (results, final) := loadAll expertMap tpRank tpSize next rest
    (result :: results, final)

inductive Proj where
  | gate
  | up
  | down
  deriving DecidableEq

def Proj.stack : Proj → Stack
  | .gate => .w13
  | .up => .w13
  | .down => .w2

def Proj.shardId : Proj → List Char
  | .gate => ['w', '1']
  | .up => ['w', '3']
  | .down => ['w', '2']

def Proj.path (p : Proj) (expert : Nat) : List Nat :=
  match p with
  | .gate => [expert, 0]
  | .up => [expert, 1]
  | .down => [expert]

def Stack.word : Stack → List Char
  | .w13 => ['w', '1', '3']
  | .w2 => ['w', '2']

/-- A tensor of the checkpoint: global expert, projection, suffix. -/
abbrev Source := Nat × Proj × Suffix

def loadOf (checkpoint : Source → Tensor V) (module : List Char) (returnSuccess : Bool)
    (source : Source) : Load V Source where
  param := (source.2.1.stack, source.2.2)
  loadedWeight := checkpoint source
  weightName := module ++ '.' :: (source.2.1.stack.word ++ '_' :: source.2.2.word)
  shardId := source.2.1.shardId
  expertId := source.1
  returnSuccess := returnSuccess
  source := source

def checkpointShape (hiddenSize intermediateSize bits : Nat) : Proj → Suffix → List Nat
  | .down, .trellis => [intermediateSize / 16, hiddenSize / 16, bits * 16]
  | .down, .suh => [intermediateSize]
  | .down, .svh => [hiddenSize]
  | .down, .mcg => [1]
  | _, .trellis => [hiddenSize / 16, intermediateSize / 16, bits * 16]
  | _, .suh => [hiddenSize]
  | _, .svh => [intermediateSize]
  | _, .mcg => [1]

def allSources (numGlobal : Nat) : List Source :=
  (List.range numGlobal).flatMap fun e =>
    [Proj.gate, .up, .down].flatMap fun p => exl3Suffixes.map fun s => (e, p, s)

end TensorParallel
