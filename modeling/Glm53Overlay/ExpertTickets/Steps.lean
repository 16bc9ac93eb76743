import Glm53Overlay.ExpertTickets.Invariant

/-!
Every step of the expert loop keeps the invariant: one lemma for each place a block can be at.
-/
namespace ExpertTickets
open DealtNumbers

variable {l : Launch} {s s' : State l} {held held' : Fin l.numGroups → List Nat}
  {bound bound' : Nat} {g : Fin l.numGroups} {b : Fin l.groupSize}

section Moves

theorem put_own (me : Block) : (s.put g b me).block g b = me := by simp [State.put]

theorem put_beside (me : Block) {b' : Fin l.groupSize} (other : b' ≠ b) :
    (s.put g b me).block g b' = s.block g b' := by
  simp [State.put, other]

theorem put_elsewhere (me : Block) {g' : Fin l.numGroups} (other : g' ≠ g) :
    (s.put g b me).block g' = s.block g' := by
  simp [State.put, other]

theorem left_le_calls (me : Block) : me.left ≤ me.calls := by
  unfold Block.left
  split <;> omega

theorem leader_iff : b.val = 0 ↔ b = l.leader := by
  rw [Fin.ext_iff]
  rfl

theorem BlockInv.extend {tickets longer : List Nat} {place : Nat} {me : Block}
    (books : BlockInv l tickets place me) (grows : tickets <+: longer) :
    BlockInv l longer place me := by
  obtain ⟨more, rfl⟩ := grows
  have inside : me.round < tickets.length := (List.getElem?_eq_some_iff.mp books.ticket).1
  refine { books with ticket := ?_, earlier := ?_, scattered := ?_ }
  · rw [List.getElem?_append_left inside]
    exact books.ticket
  · rw [List.take_append_of_le_length (by omega)]
    exact books.earlier
  · rw [List.take_append_of_le_length (by split <;> omega)]
    exact books.scattered

/-- What has to be shown of a step of block `b` of group `g`; the rest stands still. -/
theorem Inv.move (inv : Inv s held bound) (me : Block) (sched : Sched)
    (dealt : Dealt held' bound') (others : ∀ g', g' ≠ g → held' g' = held g')
    (grows : held g <+: held' g) (own : BlockInv l (held' g) b me)
    (calls : (s.block g b).calls ≤ me.calls)
    (left : ∀ b', b' ≠ b → me.left ≤ (s.block g b').calls)
    (words : ∀ g' : Fin l.numGroups, g' ≠ g → sched.published g' = s.sched.published g')
    (lead : LeadInv (held' g) (sched.published g) ((s.put g b me).block g l.leader))
    (shared : Shared { s.put g b me with sched := sched } bound') :
    Inv { s.put g b me with sched := sched } held' bound' where
  dealt := dealt
  shared := shared
  group := by
    intro g'
    by_cases same : g' = g
    · subst same
      refine ⟨?_, ?_, lead⟩
      · intro b'
        by_cases here : b' = b
        · subst here
          simp only [put_own]
          exact own
        · simp only [put_beside me here]
          exact ((inv.group g').block b').extend grows
      · intro b₁ b₂
        have before := (inv.group g').meet b₁ b₂
        by_cases first : b₁ = b <;> by_cases second : b₂ = b
        · subst first second
          simp only [put_own]
          exact left_le_calls me
        · subst first
          simp only [put_own, put_beside me second]
          exact left b₂ second
        · subst second
          simp only [put_own, put_beside me first]
          omega
        · simp only [put_beside me first, put_beside me second]
          exact before
    · have earlier := inv.group g'
      refine ⟨?_, ?_, ?_⟩
      · intro b'
        simp only [put_elsewhere me same, others g' same]
        exact earlier.block b'
      · intro b₁ b₂
        simp only [put_elsewhere me same]
        exact earlier.meet b₁ b₂
      · simp only [put_elsewhere me same, others g' same, words g' same]
        exact earlier.lead

theorem Inv.stay (inv : Inv s held bound) (me : Block) (sched : Sched)
    (own : BlockInv l (held g) b me) (calls : (s.block g b).calls ≤ me.calls)
    (left : ∀ b', b' ≠ b → me.left ≤ (s.block g b').calls)
    (words : ∀ g' : Fin l.numGroups, g' ≠ g → sched.published g' = s.sched.published g')
    (lead : LeadInv (held g) (sched.published g) ((s.put g b me).block g l.leader))
    (shared : Shared { s.put g b me with sched := sched } bound) :
    Inv { s.put g b me with sched := sched } held bound :=
  inv.move me sched inv.dealt (fun _ _ => rfl) (List.prefix_refl _) own calls left words lead
    shared

theorem lead_put (group : GroupInv s (held g) g) (me : Block)
    (own : b = l.leader → LeadInv (held g) (s.sched.published g) me) :
    LeadInv (held g) (s.sched.published g) ((s.put g b me).block g l.leader) := by
  by_cases leads : b = l.leader
  · subst leads
    rw [put_own]
    exact own rfl
  · rw [put_beside me (Ne.symm leads)]
    exact group.lead

theorem Shared.congr (shared : Shared s bound) (pcs : ∀ g, leadPc s' g = leadPc s g)
    (next : s'.sched.next = s.sched.next) (retired : s'.sched.retired = s.sched.retired) :
    Shared s' bound := by
  cases shared with
  | running gone out few quiet total count =>
    refine .running gone ?_ few ?_ (next ▸ total) (retired ▸ count)
    · intro g
      rw [pcs]
      exact out g
    · intro g
      rw [pcs]
      exact quiet g
  | closing g last rest =>
    refine .closing g ?_ ?_
    · rw [pcs]
      exact last
    · intro g' other
      rw [pcs]
      exact rest g' other
  | clearing g last rest zero =>
    refine .clearing g ?_ ?_ (next ▸ zero)
    · rw [pcs]
      exact last
    · intro g' other
      rw [pcs]
      exact rest g' other
  | closed all zero none =>
    refine .closed ?_ (next ▸ zero) (retired ▸ none)
    intro g
    rw [pcs]
    exact all g

/-- Not yet in the retirement, or only about to enter it. -/
def Pc.working : Pc → Bool
  | .resetNext | .resetRetired | .done => false
  | _ => true

theorem leadPc_put (me : Block) (sched : Sched) (g' : Fin l.numGroups) :
    leadPc { s.put g l.leader me with sched := sched } g' = if g' = g then me.pc else leadPc s g' := by
  by_cases same : g' = g
  · subst same
    simp [leadPc, put_own]
  · simp [leadPc, put_elsewhere me same, same]

theorem leadPc_follower (me : Block) (sched : Sched) (follower : b ≠ l.leader)
    (g' : Fin l.numGroups) : leadPc { s.put g b me with sched := sched } g' = leadPc s g' := by
  by_cases same : g' = g
  · subst same
    simp [leadPc, put_beside me (Ne.symm follower)]
  · simp [leadPc, put_elsewhere me same]

theorem Shared.running_of_working (shared : Shared s bound) (working : (leadPc s g).working = true) :
    ∃ gone : Finset (Fin l.numGroups), (∀ g, g ∈ gone ↔ leadPc s g = .done) ∧
      gone.card < l.numGroups ∧ (∀ g, leadPc s g ≠ .resetNext ∧ leadPc s g ≠ .resetRetired) ∧
      l.numGroups + s.sched.next = bound ∧ s.sched.retired = gone.card := by
  cases shared with
  | running gone out few quiet next retired => exact ⟨gone, out, few, quiet, next, retired⟩
  | closing g' last rest =>
    by_cases same : g = g'
    · rw [same, last] at working
      exact absurd working (by decide)
    · rw [rest g same] at working
      exact absurd working (by decide)
  | clearing g' last rest _ =>
    by_cases same : g = g'
    · rw [same, last] at working
      exact absurd working (by decide)
    · rw [rest g same] at working
      exact absurd working (by decide)
  | closed all _ _ =>
    rw [all g] at working
    exact absurd working (by decide)

theorem Shared.work (shared : Shared s bound) (me : Block) (sched : Sched)
    (was : (leadPc s g).working = true) (now : me.pc.working = true)
    (next : l.numGroups + s.sched.next = bound → l.numGroups + sched.next = bound')
    (retired : sched.retired = s.sched.retired) :
    Shared { s.put g l.leader me with sched := sched } bound' := by
  obtain ⟨gone, out, few, quiet, total, count⟩ := shared.running_of_working was
  have stays : me.pc ≠ .done ∧ me.pc ≠ .resetNext ∧ me.pc ≠ .resetRetired := by
    refine ⟨?_, ?_, ?_⟩ <;> intro same <;> rw [same] at now <;> exact absurd now (by decide)
  refine .running gone ?_ few ?_ (next total) (retired.trans count)
  · intro g'
    rw [leadPc_put]
    split
    next same =>
      subst same
      rw [out]
      constructor
      · intro ended
        rw [ended] at was
        exact absurd was (by decide)
      · exact fun ended => absurd ended stays.1
    next => exact out g'
  · intro g'
    rw [leadPc_put]
    split
    next => exact stays.2
    next => exact quiet g'

theorem Shared.pass (shared : Shared s bound) (me : Block) (sched : Sched)
    (was : ((s.block g b).pc).working = true) (now : me.pc.working = true ∨ b ≠ l.leader)
    (next : sched.next = s.sched.next) (retired : sched.retired = s.sched.retired) :
    Shared { s.put g b me with sched := sched } bound := by
  by_cases leads : b = l.leader
  · subst leads
    rcases now with now | follower
    · exact shared.work me sched was now (fun total => by rw [next]; exact total) retired
    · exact absurd rfl follower
  · exact shared.congr (leadPc_follower me sched leads) next retired
end Moves
end ExpertTickets
