import Mathlib.Data.Fintype.Card
import Glm53Overlay.ExpertTickets.Kernel
import Glm53Overlay.Library.DealtNumbers

/-!
What holds of every interleaving of the expert loop. The tickets a group has had are a list;
a block in its `r`-th expert works with the `r`-th of them. The barriers keep the blocks of a
group within one call of each other, so a block reads its ticket before block 0 can publish
the next. The lists of all groups deal the numbers below the next ticket out once each.
-/
namespace ExpertTickets
open DealtNumbers

def Pc.offset : Pc → Nat
  | .stage k => k.number
  | .draw | .publish _ => 4
  | .barrier k => k.number + 1
  | .reload => 5
  | .scan | .retire | .resetNext | .resetRetired | .done => 0

def Pc.busy : Pc → Bool
  | .stage _ | .draw | .publish _ | .barrier _ | .reload => true
  | .scan | .retire | .resetNext | .resetRetired | .done => false

def Pc.scattered : Pc → Bool
  | .draw | .publish _ | .barrier .hadDOut | .reload => true
  | _ => false

def Pc.drawn : Pc → Bool
  | .publish _ | .barrier .hadDOut | .reload => true
  | _ => false

def Pc.ended : Pc → Bool
  | .retire | .resetNext | .resetRetired | .done => true
  | _ => false

def Pc.leads : Pc → Bool
  | .draw | .publish _ | .retire | .resetNext | .resetRetired => true
  | _ => false

/-- Barrier calls that have returned. -/
def Block.left (me : Block) : Nat :=
  match me.pc with
  | .barrier _ => me.calls - 1
  | _ => me.calls

def Block.round (me : Block) : Nat := (me.calls - me.pc.offset) / 5

theorem round_of_calls {me : Block} {r : Nat} (calls : me.calls = 5 * r + me.pc.offset) :
    me.round = r := by
  rw [Block.round, calls]
  omega

namespace Launch
variable (l : Launch)

def leader : Fin l.groupSize := ⟨0, l.size_pos⟩

def activeBefore (e : Nat) : Nat := ((List.range e).filter l.active).length

def shareOf (block ticket : Nat) : List (Nat × Nat) :=
  match l.activeExperts[ticket]? with
  | some e => l.share block e
  | none => []

theorem activeBefore_succ (e : Nat) : l.activeBefore (e + 1) =
    l.activeBefore e + if l.active e then 1 else 0 := by
  simp only [activeBefore, List.range_succ, List.filter_append, List.length_append]
  by_cases active : l.active e = true <;> simp [active]

theorem active_at {e : Nat} (inside : e < l.counts.length)
    (active : l.active e = true) : l.activeExperts[l.activeBefore e]? = some e := by
  have split : List.range l.counts.length =
      List.range e ++ e :: (List.range (l.counts.length - e - 1)).map (e + 1 + ·) := by
    have whole : l.counts.length = e + (1 + (l.counts.length - e - 1)) := by omega
    conv_lhs => rw [whole, List.range_add, List.range_add]
    simp [Function.comp_def, Nat.add_assoc]
  rw [activeExperts, split, List.filter_append, List.filter_cons_of_pos active, activeBefore]
  simp

theorem active_lt_iff (t : Nat) : t < l.numActive ↔ ∃ e, l.activeExperts[t]? = some e := by
  rw [numActive]
  constructor
  · intro inside
    exact ⟨_, List.getElem?_eq_getElem inside⟩
  · rintro ⟨e, found⟩
    exact (List.getElem?_eq_some_iff.mp found).1

theorem counts_left {count e : Nat} {rest : List Nat} (left : l.counts.drop e = count :: rest) :
    e < l.counts.length ∧ l.counts[e]? = some count ∧ l.counts.drop (e + 1) = rest := by
  refine ⟨?_, ?_, ?_⟩
  · by_contra beyond
    rw [List.drop_eq_nil_of_le (by omega)] at left
    exact absurd left (List.cons_ne_nil _ _).symm
  · have first := congrArg List.head? left
    simpa [List.head?_drop] using first
  · rw [← List.tail_drop, left, List.tail_cons]

theorem claim_spec (ticket : Nat) : ∀ (rest : List Nat) (e : Nat), l.counts.drop e = rest →
    e ≤ l.counts.length → l.activeBefore e ≤ ticket →
    claim l ticket rest e (l.tokenStart e) (l.activeBefore e) =
      (l.activeExperts[ticket]?).map fun x => ⟨x, l.tokenStart (x + 1), ticket + 1⟩ := by
  intro rest
  induction rest with
  | nil =>
    intro e left inside ahead
    have finished : l.counts.length ≤ e := List.drop_eq_nil_iff.mp left
    have whole : e = l.counts.length := by omega
    have past : l.activeExperts[ticket]? = none := by
      apply List.getElem?_eq_none
      rw [whole] at ahead
      exact ahead
    simp [claim, past]
  | cons count rest ih =>
    intro e left inside ahead
    obtain ⟨below, here, tail⟩ := l.counts_left left
    have value : l.counts.getD e 0 = count := by simp [List.getD, here]
    have sum : l.tokenStart (e + 1) = l.tokenStart e + count := by
      rw [tokenStart, tokenStart, List.take_add_one, here]
      simp
    have later := ih (e + 1) tail below
    have test : l.active e = l.handles count := by rw [Launch.active, value]
    rw [activeBefore_succ, test, sum] at later
    rw [claim]
    by_cases active : l.handles count = true
    · rw [if_pos active] at later ⊢
      by_cases mine : l.activeBefore e = ticket
      · rw [if_pos mine, ← mine, l.active_at below (test.trans active)]
        simp [sum]
      · rw [if_neg mine]
        exact later (by omega)
    · rw [if_neg active] at later ⊢
      exact later ahead
end Launch

section Invariant
variable (l : Launch)

structure BlockInv (tickets : List Nat) (b : Nat) (me : Block) : Prop where
  calls : me.calls = 5 * me.round + me.pc.offset
  ticket : tickets[me.round]? = some me.ticket
  earlier : ∀ t ∈ tickets.take me.round, t < l.numActive
  scanning : me.pc = .scan → me.expertIdx ≤ l.counts.length ∧
    me.stop = l.tokenStart me.expertIdx ∧ me.assign = l.activeBefore me.expertIdx ∧
    me.assign ≤ me.ticket
  busy : me.pc.busy = true → l.activeExperts[me.ticket]? = some me.expertIdx ∧
    me.stop = l.tokenStart (me.expertIdx + 1) ∧ me.assign = me.ticket + 1
  ended : me.pc.ended = true → l.numActive ≤ me.ticket
  scattered : me.scattered =
    (tickets.take (me.round + if me.pc.scattered then 1 else 0)).flatMap (l.shareOf b)
  leads : me.pc.leads = true → b = 0

structure LeadInv (tickets : List Nat) (word : Nat) (me : Block) : Prop where
  length : tickets.length = me.round + 1 + if me.pc.drawn then 1 else 0
  pending : ∀ t, me.pc = .publish t → tickets.getLast? = some t
  word : (∀ t, me.pc ≠ .publish t) → 2 ≤ tickets.length → tickets.getLast? = some word

variable {l}

structure GroupInv (s : State l) (tickets : List Nat) (g : Fin l.numGroups) : Prop where
  block : ∀ b : Fin l.groupSize, BlockInv l tickets b (s.block g b)
  meet : ∀ b b', (s.block g b).left ≤ (s.block g b').calls
  lead : LeadInv tickets (s.sched.published g) (s.block g l.leader)

def leadPc (s : State l) (g : Fin l.numGroups) : Pc := (s.block g l.leader).pc

/-- The shared words, by how far the retirement has come. -/
inductive Shared (s : State l) (bound : Nat) : Prop
  | running (gone : Finset (Fin l.numGroups)) (out : ∀ g, g ∈ gone ↔ leadPc s g = .done)
      (few : gone.card < l.numGroups)
      (quiet : ∀ g, leadPc s g ≠ .resetNext ∧ leadPc s g ≠ .resetRetired)
      (next : l.numGroups + s.sched.next = bound) (retired : s.sched.retired = gone.card)
  | closing (g : Fin l.numGroups) (last : leadPc s g = .resetNext)
      (rest : ∀ g', g' ≠ g → leadPc s g' = .done)
  | clearing (g : Fin l.numGroups) (last : leadPc s g = .resetRetired)
      (rest : ∀ g', g' ≠ g → leadPc s g' = .done) (next : s.sched.next = 0)
  | closed (all : ∀ g, leadPc s g = .done) (next : s.sched.next = 0)
      (retired : s.sched.retired = 0)

structure Inv (s : State l) (held : Fin l.numGroups → List Nat) (bound : Nat) : Prop where
  dealt : Dealt held bound
  group : ∀ g, GroupInv s (held g) g
  shared : Shared s bound

end Invariant
end ExpertTickets
