import Mathlib.Algebra.Order.Ring.Nat
import Mathlib.Data.Fin.Basic
import Mathlib.Logic.Function.Basic
import Glm53Overlay.Library.StoreTrace

/-!
The expert loop of the patched `exl3_moe_kernel`, block by block: the scan for the claimed
expert, the five stages with the group barrier behind each, the ticket drawn and published by
block 0, and the retirement that resets the scheduler words. Any block may take the next step.
The `group_barrier` of the extension is a parameter with its contract: a call returns once every
block of the group has made as many calls. The arithmetic of the stages is left out.
-/
namespace ExpertTickets
open StoreTrace

def exl3GemmBaseThreads : Nat := 256
def moeTilesizeK : Nat := 32
def blockThreads : Nat := exl3GemmBaseThreads * moeTilesizeK / 16
def warpsPerBlock : Nat := blockThreads / 32

/-- One launch: the grid and what the kernel reads to find its experts. `expertCount` has one
    entry more than there are experts. -/
structure Launch where
  numGroups : Nat
  groupSize : Nat
  expertCount : List Nat
  maxTokensPerExpert : Nat
  hiddenDim : Nat
  groups_pos : 0 < numGroups
  size_pos : 0 < groupSize

namespace Launch
variable (l : Launch)

def counts : List Nat := l.expertCount.dropLast

def tokenStart (e : Nat) : Nat := (l.counts.take e).sum

def handles (count : Nat) : Bool := count ≠ 0 ∧ count ≤ l.maxTokensPerExpert

def active (e : Nat) : Bool := l.handles (l.counts.getD e 0)

def activeExperts : List Nat := (List.range l.counts.length).filter l.active

def numActive : Nat := l.activeExperts.length

def warpsPerToken : Nat := l.hiddenDim / 128

/-- The slots and 128-column chunks of an expert's output, as `had_d_out` numbers them. -/
def chunkOf (start i : Nat) : Nat × Nat := (start + i / l.warpsPerToken, i % l.warpsPerToken)

/-- What one block scatters of an expert: each of its warps strides over the group's warps. -/
def share (block e : Nat) : List (Nat × Nat) :=
  (List.range warpsPerBlock).flatMap fun warp =>
    (strideLoop (l.counts.getD e 0 * l.warpsPerToken) (l.groupSize * warpsPerBlock)
      (block * warpsPerBlock + warp)).map (l.chunkOf (l.tokenStart e))
end Launch

inductive Stage where
  | hadGatherGuIn
  | gemmUp
  | hadGuad
  | gemmDown
  | hadDOut
  deriving DecidableEq

def Stage.number : Stage → Nat
  | .hadGatherGuIn => 0
  | .gemmUp => 1
  | .hadGuad => 2
  | .gemmDown => 3
  | .hadDOut => 4

def Stage.next : Stage → Option Stage
  | .hadGatherGuIn => some .gemmUp
  | .gemmUp => some .hadGuad
  | .hadGuad => some .gemmDown
  | .gemmDown => some .hadDOut
  | .hadDOut => none

inductive Pc where
  | scan
  | stage (k : Stage)
  | draw
  | publish (ticket : Nat)
  | barrier (k : Stage)
  | reload
  | retire
  | resetNext
  | resetRetired
  | done
  deriving DecidableEq

structure Block where
  pc : Pc
  ticket : Nat
  expertIdx : Nat
  stop : Nat
  assign : Nat
  calls : Nat
  scattered : List (Nat × Nat)

structure Sched where
  next : Nat
  retired : Nat
  published : Nat → Nat

structure State (l : Launch) where
  sched : Sched
  block : Fin l.numGroups → Fin l.groupSize → Block

/-- Where a scan stops: the claimed expert, the end of its tokens and the next active number. -/
structure Claim where
  expert : Nat
  stop : Nat
  assign : Nat

def claim (l : Launch) (ticket : Nat) : List Nat → Nat → Nat → Nat → Option Claim
  | [], _, _, _ => none
  | count :: rest, e, stop, assign =>
    if l.handles count then
      if assign = ticket then some ⟨e, stop + count, assign + 1⟩
      else claim l ticket rest (e + 1) (stop + count) (assign + 1)
    else claim l ticket rest (e + 1) (stop + count) assign

/-- The `group_barrier` of the extension: whether a call can return, by the calls that the blocks
    of the group have made and the caller's own. -/
structure GroupBarrier where
  returns : List Nat → Nat → Bool
  /-- A call returns only when every block of the group has made as many. -/
  waits : ∀ calls mine, returns calls mine = true → ∀ c ∈ calls, mine ≤ c
  /-- And then it can. -/
  releases : ∀ calls mine, (∀ c ∈ calls, mine ≤ c) → returns calls mine = true

namespace State
variable {l : Launch} (s : State l) (barrier : GroupBarrier)

def put (g : Fin l.numGroups) (b : Fin l.groupSize) (me : Block) : State l :=
  { s with block := Function.update s.block g (Function.update (s.block g) b me) }

def groupCalls (g : Fin l.numGroups) : List Nat :=
  (List.finRange l.groupSize).map fun b => (s.block g b).calls

/-- One step of block `b` of group `g`; `none` while it waits at a barrier or has ended. -/
def step (g : Fin l.numGroups) (b : Fin l.groupSize) : Option (State l) :=
  let me := s.block g b
  match me.pc with
  | .scan =>
    match claim l me.ticket (l.counts.drop me.expertIdx) me.expertIdx me.stop me.assign with
    | some c => some (s.put g b { me with
        pc := .stage .hadGatherGuIn, expertIdx := c.expert, stop := c.stop, assign := c.assign })
    | none => some (s.put g b { me with pc := if b.val = 0 then .retire else .done })
  | .stage .hadDOut =>
    let scattered := me.scattered ++ l.share b me.expertIdx
    -- block 0 draws the next ticket before it comes to the barrier
    if b.val = 0 then some (s.put g b { me with pc := .draw, scattered := scattered })
    else some (s.put g b { me with
      pc := .barrier .hadDOut, calls := me.calls + 1, scattered := scattered })
  | .stage k => some (s.put g b { me with pc := .barrier k, calls := me.calls + 1 })
  | .draw => some { s.put g b { me with pc := .publish (l.numGroups + s.sched.next) } with
      sched := { s.sched with next := s.sched.next + 1 } }
  | .publish ticket => some { s.put g b { me with
        pc := .barrier .hadDOut, calls := me.calls + 1 } with
      sched := { s.sched with published := Function.update s.sched.published g ticket } }
  | .barrier k =>
    if barrier.returns (s.groupCalls g) me.calls then
      some (s.put g b { me with pc := k.next.elim .reload .stage })
    else none
  | .reload => some (s.put g b { me with
      pc := .scan, ticket := s.sched.published g, expertIdx := me.expertIdx + 1 })
  | .retire => some { s.put g b { me with
        pc := if s.sched.retired = l.numGroups - 1 then .resetNext else .done } with
      sched := { s.sched with retired := s.sched.retired + 1 } }
  | .resetNext => some { s.put g b { me with pc := .resetRetired } with
      sched := { s.sched with next := 0 } }
  | .resetRetired => some { s.put g b { me with pc := .done } with
      sched := { s.sched with retired := 0 } }
  | .done => none

def run (s : State l) (actors : List (Fin l.numGroups × Fin l.groupSize)) : Option (State l) :=
  actors.foldlM (fun s actor => s.step barrier actor.1 actor.2) s

def Finished : Prop := ∀ g b, (s.block g b).pc = .done

instance : Decidable s.Finished := by unfold Finished; infer_instance

def output : List (Nat × Nat) :=
  (List.finRange l.numGroups).flatMap fun g =>
    (List.finRange l.groupSize).flatMap fun b => (s.block g b).scattered
end State

/-- A launch begins with the scheduler words it finds; initial tickets are the group indices. -/
def start (l : Launch) (sched : Sched) : State l where
  sched := sched
  block g _ := ⟨.scan, g, 0, 0, 0, 0, []⟩

end ExpertTickets
