import Glm53Overlay.Library.PyDict
import Glm53Overlay.Library.ReplayMachine
import Mathlib.Data.List.Count

/-!
Retirement of state blocks in `MambaManager`. Prefill leaves null gaps between the blocks of a
request, so the override walks over a gap and remembers in `numRetired` how far it has walked.
The rescan it is compared with remembers nothing.
-/
namespace MambaBlocks
open ReplayMachine

inductive Block (B : Type) where
  | null
  | real (id : B)
  deriving DecidableEq

def Block.isNull {B : Type} : Block B → Bool
  | .null => true
  | .real _ => false

structure Manager (B : Type) where
  mambaCacheMode : String
  reqToBlocks : PyDict String (List (Block B))
  numRetired : PyDict String Nat
  /-- What `block_pool.free_blocks` was called with. -/
  freeCalls : List (List (Block B))

variable {B : Type}

def Manager.fresh (mode : String) : Manager B := ⟨mode, PyDict.empty, PyDict.empty, []⟩

def Manager.blocks (s : Manager B) (request : String) : List (Block B) :=
  (s.reqToBlocks.get request).getD []

def Manager.retired (s : Manager B) (request : String) : Nat :=
  (s.numRetired.get request).getD 0

/-- `self.req_to_blocks[request_id] = blocks`, also for a list changed in place. -/
def Manager.setBlocks (s : Manager B) (request : String) (blocks : List (Block B)) : Manager B :=
  { s with reqToBlocks := s.reqToBlocks.set request blocks }

def Manager.setRetired (s : Manager B) (request : String) (index : Nat) : Manager B :=
  { s with numRetired := s.numRetired.set request index }

@[simp] theorem blocks_setBlocks (s : Manager B) (request r : String) (xs : List (Block B)) :
    (s.setBlocks request xs).blocks r = if r = request then xs else s.blocks r := by
  unfold Manager.setBlocks Manager.blocks
  split
  · rename_i same
    rw [same, PyDict.get_set_same]
    rfl
  · rename_i other
    rw [PyDict.get_set_other _ _ other]

@[simp] theorem retired_setBlocks (s : Manager B) (request r : String) (xs : List (Block B)) :
    (s.setBlocks request xs).retired r = s.retired r := rfl

@[simp] theorem blocks_setRetired (s : Manager B) (request r : String) (index : Nat) :
    (s.setRetired request index).blocks r = s.blocks r := rfl

@[simp] theorem retired_setRetired (s : Manager B) (request r : String) (index : Nat) :
    (s.setRetired request index).retired r = if r = request then index else s.retired r := by
  unfold Manager.setRetired Manager.retired
  split
  · rename_i same
    rw [same, PyDict.get_set_same]
    rfl
  · rename_i other
    rw [PyDict.get_set_other _ _ other]

/-- `for i in range(last_block - 1, first_block - 1, -1)` with `todo` indices left. -/
def retireLoop (first : Nat) : Nat → List (Block B) → List (Block B) →
    List (Block B) × List (Block B)
  | 0, blocks, freed => (blocks, freed)
  | todo + 1, blocks, freed =>
    match blocks[first + todo]? with
    | some (.real b) =>
      retireLoop first todo (blocks.set (first + todo) .null) (freed ++ [.real b])
    | _ => retireLoop first todo blocks freed

/-- The loop on the list of a request, and the call that hands over what it collected. -/
def Manager.sweep (s : Manager B) (request : String) (first last : Nat) : Manager B :=
  let swept := retireLoop first (last - first) (s.blocks request) []
  { s.setBlocks request swept.1 with
    freeCalls := if swept.2.isEmpty then s.freeCalls else s.freeCalls ++ [swept.2] }

@[simp] theorem blocks_sweep (s : Manager B) (request r : String) (first last : Nat) :
    (s.sweep request first last).blocks r =
      if r = request then (retireLoop first (last - first) (s.blocks request) []).1
      else s.blocks r := blocks_setBlocks s request r _

@[simp] theorem retired_sweep (s : Manager B) (request r : String) (first last : Nat) :
    (s.sweep request first last).retired r = s.retired r := rfl

section Machine
variable (generic : Manager B → String → Int → Int → Manager B)

/-- The override; `generic` is the method of the base class. -/
def Manager.removeBlocksInRange (s : Manager B) (request : String) (firstBlock lastBlock : Int) :
    Manager B :=
  if s.mambaCacheMode ≠ "align" then generic s request firstBlock lastBlock
  else
    let firstBlock := max firstBlock (s.retired request)
    let lastBlock := min lastBlock (s.blocks request).length
    if firstBlock ≥ lastBlock then s
    else (s.sweep request firstBlock.toNat lastBlock.toNat).setRetired request lastBlock.toNat

/-- Scan the whole range at every call and skip what is null. -/
def Manager.rescanInRange (s : Manager B) (request : String) (firstBlock lastBlock : Int) :
    Manager B :=
  let firstBlock := max firstBlock 0
  let lastBlock := min lastBlock (s.blocks request).length
  if firstBlock ≥ lastBlock then s else s.sweep request firstBlock.toNat lastBlock.toNat

def Manager.popBlocksForFree (s : Manager B) (request : String) : Manager B × List (Block B) :=
  ({ s with
    reqToBlocks := s.reqToBlocks.pop request
    numRetired := if s.mambaCacheMode = "align" then s.numRetired.pop request
      else s.numRetired },
    s.blocks request)

inductive Op (B : Type) where
  | append (request : String) (block : Block B)
  | replace (request : String) (index : Nat) (block : Block B)
  | remove (request : String) (firstBlock lastBlock : Int)
  | free (request : String)

def Manager.append (s : Manager B) (request : String) (block : Block B) : Manager B :=
  s.setBlocks request (s.blocks request ++ [block])

def Manager.replace (s : Manager B) (request : String) (index : Nat) (block : Block B) :
    Manager B :=
  if index < (s.blocks request).length then
    s.setBlocks request ((s.blocks request).set index block)
  else s

def step (s : Manager B) : Op B → Manager B × List (Block B)
  | .append request block => (s.append request block, [])
  | .replace request index block => (s.replace request index block, [])
  | .remove request firstBlock lastBlock =>
    (s.removeBlocksInRange generic request firstBlock lastBlock, [])
  | .free request => s.popBlocksForFree request

def rescanStep (s : Manager B) : Op B → Manager B × List (Block B)
  | .append request block => (s.append request block, [])
  | .replace request index block => (s.replace request index block, [])
  | .remove request firstBlock lastBlock => (s.rescanInRange request firstBlock lastBlock, [])
  | .free request => s.popBlocksForFree request

def Respects (s : Manager B) : Op B → Prop
  | .replace request index block => block = .null ∨ s.retired request ≤ index
  | _ => True

/-- A call that retires something leaves no real block between the retired index and its start. -/
def Covers (s : Manager B) : Op B → Prop
  | .remove request firstBlock lastBlock =>
    max firstBlock (s.retired request) < min lastBlock (s.blocks request).length →
      ∀ i b, s.retired request ≤ i → (i : Int) < firstBlock →
        (s.blocks request)[i]? ≠ some (.real b)
  | _ => True

structure Retires (before after : Manager B) (request : String) (firstBlock lastBlock : Int) :
    Prop where
  nulled : ∀ i : Nat, firstBlock ≤ i → (i : Int) < min lastBlock (before.blocks request).length →
    (after.blocks request)[i]? = some .null
  untouched : ∀ i : Nat, ¬ (firstBlock ≤ i ∧ (i : Int) < lastBlock) →
    (after.blocks request)[i]? = (before.blocks request)[i]?
  others : ∀ r, r ≠ request → after.blocks r = before.blocks r
  table : after.reqToBlocks = (before.rescanInRange request firstBlock lastBlock).reqToBlocks
  handed : after.freeCalls = (before.rescanInRange request firstBlock lastBlock).freeCalls

def RetiresThroughout (ops : List (Op B)) : Prop :=
  ∀ k request firstBlock lastBlock, ops[k]? = some (.remove request firstBlock lastBlock) →
    Retires (final (step generic) (.fresh "align") (ops.take k))
      ((final (step generic) (.fresh "align") (ops.take k)).removeBlocksInRange generic request
        firstBlock lastBlock) request firstBlock lastBlock

end Machine

def Manager.handed [DecidableEq B] (s : Manager B) (b : B) : Nat :=
  s.freeCalls.flatten.count (.real b)

def Manager.live [DecidableEq B] (s : Manager B) (b : B) : Nat :=
  (s.reqToBlocks.entries.flatMap Prod.snd).count (.real b)

def entered [DecidableEq B] (b : B) (ops : List (Op B)) : Nat :=
  ops.countP fun
    | .append _ block => block = .real b
    | .replace _ _ block => block = .real b
    | _ => false

end MambaBlocks
