import Mathlib.Data.List.FinRange
import Glm53Overlay.Library.PyDict
import Glm53Overlay.Library.ReplayMachine
import Glm53Overlay.PrefixCache.TailEvict

/-!
A prefix cache over `numBlocks` physical blocks with concurrent requests. A block leaves
the free queue when a request touches or receives it and returns to its tail when no
running request holds it any more. Block hashes form a tree in which a child covers more
tokens than its parent. An operation that the pool would refuse changes nothing.
-/
namespace PrefixCache
open ReplayMachine

structure HashTree (H : Type) where
  parent : H → Option H
  numTokens : H → Nat
  deeper : ∀ child above, parent child = some above → numTokens above < numTokens child

/-- A running request: the hashes it has cached or hit, in order, and its blocks. -/
structure Running (numBlocks : Nat) (H : Type) where
  path : List H
  blocks : List (Fin numBlocks)

structure Pool (numBlocks : Nat) (H : Type) where
  hash : Fin numBlocks → Option H
  reused : Fin numBlocks → Bool
  free : List (Fin numBlocks)
  running : PyDict Nat (Running numBlocks H)

def Pool.empty (numBlocks : Nat) (H : Type) : Pool numBlocks H :=
  ⟨fun _ => none, fun _ => false, List.finRange numBlocks, PyDict.empty⟩

inductive Op (numBlocks : Nat) (H : Type) where
  | hit (request : Nat) (blocks : List (Fin numBlocks))
  | allocate (request count : Nat)
  | cache (request : Nat) (hash : H)
  | free (request : Nat)

variable {numBlocks : Nat} {H : Type} [DecidableEq H] (tree : HashTree H)

/-- Cached hashes that start at a root and descend one parent link at a time. -/
def rootPath : Option H → List (Option H) → Bool
  | _, [] => true
  | above, some h :: rest => tree.parent h = above ∧ rootPath (some h) rest
  | _, none :: _ => false

def Pool.freeBlocks (s : Pool numBlocks H) : List (FreeBlock (Fin numBlocks) H) :=
  s.free.map fun b => ⟨b, s.hash b, (s.hash b).map fun h => (tree.numTokens h : Int)⟩

def Pool.held (s : Pool numBlocks H) (b : Fin numBlocks) : Bool :=
  s.running.entries.any fun e => e.2.blocks.contains b

/-- Touch the blocks of a hit; with protection on, mark those that carry a hash. -/
def Pool.hit (protect : Bool) (s : Pool numBlocks H) (request : Nat)
    (blocks : List (Fin numBlocks)) : Pool numBlocks H :=
  if s.running.get request = none ∧ rootPath tree none (blocks.map s.hash) = true then
    { s with
      reused := fun b => s.reused b || (protect && blocks.contains b && (s.hash b).isSome)
      free := s.free.filter fun b => !blocks.contains b
      running := s.running.set request ⟨blocks.filterMap s.hash, blocks⟩ }
  else s

/-- Take victims off the free queue; `reset_hash` drops the hash and the mark of each. -/
def Pool.allocate (protect : Bool) (s : Pool numBlocks H) (request count : Nat) :
    Pool numBlocks H :=
  match s.running.get request with
  | none => s
  | some r =>
    if count ≤ s.free.length then
      let selected := selectBlocks protect s.reused (s.freeBlocks tree) count
      let victims := selected.1.map FreeBlock.blockId
      { hash := fun b => if victims.contains b then none else s.hash b
        reused := fun b => if protect && victims.contains b && (s.hash b).isSome then false
          else s.reused b
        free := selected.2.map FreeBlock.blockId
        running := s.running.set request { r with blocks := r.blocks ++ victims } }
    else s

/-- Give the next block of a request the hash below the last one of its path. -/
def Pool.cache (s : Pool numBlocks H) (request : Nat) (hash : H) : Pool numBlocks H :=
  match s.running.get request with
  | none => s
  | some r =>
    match r.blocks[r.path.length]? with
    | none => s
    | some b =>
      if tree.parent hash = r.path.getLast? ∧ s.hash b = none then
        { s with
          hash := fun c => if c = b then some hash else s.hash c
          running := s.running.set request { r with path := r.path ++ [hash] } }
      else s

/-- Release all blocks of a request, last block first. -/
def Pool.release (s : Pool numBlocks H) (request : Nat) : Pool numBlocks H :=
  match s.running.get request with
  | none => s
  | some r =>
    let rest := { s with running := s.running.pop request }
    { rest with free := s.free ++ r.blocks.reverse.filter fun b => !rest.held b }

def step (protect : Bool) (s : Pool numBlocks H) : Op numBlocks H → Pool numBlocks H × Unit
  | .hit request blocks => (s.hit tree protect request blocks, ())
  | .allocate request count => (s.allocate tree protect request count, ())
  | .cache request hash => (s.cache tree request hash, ())
  | .free request => (s.release request, ())

def poolAfter (protect : Bool) (ops : List (Op numBlocks H)) : Pool numBlocks H :=
  final (step tree protect) (Pool.empty numBlocks H) ops

def ParentsCached (s : Pool numBlocks H) : Prop :=
  ∀ c child above, s.hash c = some child → tree.parent child = some above →
    ∃ p, s.hash p = some above

def ParentsMarked (s : Pool numBlocks H) : Prop :=
  ∀ c child above, s.reused c = true → s.hash c = some child → tree.parent child = some above →
    ∃ p, s.hash p = some above ∧ s.reused p = true

end PrefixCache
