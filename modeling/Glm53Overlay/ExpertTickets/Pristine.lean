import Glm53Overlay.ExpertTickets.HostCalls
import Glm53Overlay.Library.SortedRuns

/-!
The kernel the ticket scheduler replaces deals the handled experts to its groups in turn, before
any of them has started. What its blocks scatter is what the blocks of the new kernel scatter,
on grids of different shapes and in every order.
-/
namespace ExpertTickets
open SortedRuns

/-- The experts one group does not skip, of those that are left, the first of them number `e`. -/
def turns (l : Launch) (g : Nat) : List Nat → Nat → Nat → List Nat
  | [], _, _ => []
  | count :: rest, e, assign =>
    if l.handles count then
      if assign % l.numGroups ≠ g then turns l g rest (e + 1) (assign + 1)
      else e :: turns l g rest (e + 1) (assign + 1)
    else turns l g rest (e + 1) assign

def pristineOutput (l : Launch) : List (Nat × Nat) :=
  (List.finRange l.numGroups).flatMap fun g =>
    (List.finRange l.groupSize).flatMap fun b =>
      (turns l g.val l.counts 0 0).flatMap (l.share b.val)

/-- The pristine launch: narrow groups, as many as there are buffers. -/
def Call.pristine (c : Call) : Launch where
  numGroups := c.concurrency
  groupSize := moeSmsPerExpert
  expertCount := c.expertCount
  maxTokensPerExpert := c.maxTokensPerExpert
  hiddenDim := c.hiddenDim
  groups_pos := c.buffers
  size_pos := by decide

variable (l : Launch)

theorem turns_from (g : Nat) : ∀ (rest : List Nat) (e : Nat), l.counts.drop e = rest →
    e ≤ l.counts.length → turns l g rest e (l.activeBefore e) =
      (((List.range l.counts.length).drop e).filter l.active).filter
        fun x => l.activeBefore x % l.numGroups = g := by
  intro rest
  induction rest with
  | nil =>
    intro e left _
    have past : l.counts.length ≤ e := List.drop_eq_nil_iff.mp left
    have none : (List.range l.counts.length).drop e = [] :=
      List.drop_eq_nil_of_le (by simpa using past)
    simp [turns, none]
  | cons count rest ih =>
    intro e left _
    obtain ⟨below, here, tail⟩ := l.counts_left left
    have value : l.counts.getD e 0 = count := by simp [List.getD, here]
    have test : l.active e = l.handles count := by rw [Launch.active, value]
    have split : (List.range l.counts.length).drop e =
        e :: (List.range l.counts.length).drop (e + 1) := by
      rw [List.drop_eq_getElem_cons (by simpa using below), List.getElem_range]
    have later := ih (e + 1) tail below
    rw [l.activeBefore_succ, test] at later
    rw [turns, split, List.filter_cons, test]
    by_cases active : l.handles count = true
    · rw [if_pos active] at later
      rw [if_pos active, if_pos active, List.filter_cons, later]
      by_cases mine : l.activeBefore e % l.numGroups = g <;> simp [mine]
    · rw [if_neg active] at later
      rw [if_neg active, if_neg active]
      exact later

theorem turns_filter (g : Nat) : turns l g l.counts 0 0 =
    l.activeExperts.filter fun x => l.activeBefore x % l.numGroups = g := by
  have whole := turns_from l g l.counts 0 rfl (Nat.zero_le _)
  rw [List.drop_zero] at whole
  exact whole

theorem turns_cover :
    ((List.finRange l.numGroups).flatMap fun g => turns l g.val l.counts 0 0).Perm
      l.activeExperts := by
  let key := fun x => l.activeBefore x % l.numGroups
  have dealt := flatMap_runs_perm key (List.range l.numGroups) List.nodup_range l.activeExperts
  have all : l.activeExperts.filter (fun x => (List.range l.numGroups).contains (key x)) =
      l.activeExperts := by
    apply List.filter_eq_self.mpr
    intro x _
    rw [List.contains_iff_mem, List.mem_range]
    exact Nat.mod_lt _ l.groups_pos
  have groups : ((List.finRange l.numGroups).flatMap fun g => turns l g.val l.counts 0 0) =
      (List.range l.numGroups).flatMap fun g => l.activeExperts.filter fun x => key x = g := by
    rw [← List.map_coe_finRange_eq_range, List.flatMap_map]
    exact List.flatMap_congr fun g _ => turns_filter l g.val
  rw [groups]
  rw [all] at dealt
  exact dealt

theorem pristine_owed :
    (pristineOutput l).Perm (owed l.expertCount l.maxTokensPerExpert l.hiddenDim) := by
  have byExpert : (pristineOutput l).Perm ((List.finRange l.numGroups).flatMap fun g =>
      (turns l g.val l.counts 0 0).flatMap l.chunks) := by
    apply List.Perm.flatMap_left
    intro g _
    refine (SegmentedRange.flatMap_swap_perm _ _ _).trans ?_
    exact List.Perm.flatMap_left _ fun e _ => l.shares_cover e
  refine byExpert.trans ?_
  rw [← List.flatMap_assoc, ← l.chunks_owed]
  exact (turns_cover l).flatMap_right _

/-- The ticket scheduler changes who does what and when, not what is done: whatever the
    interleaving, a finished launch has scattered what the pristine launch of the call does. -/
theorem ticket_kernel_agrees (barrier : GroupBarrier) (c : Call) {numSms : Nat}
    (room : c.concurrency * moeSmsPerExpert ≤ numSms) (sched : Sched) (next : sched.next = 0)
    (retired : sched.retired = 0)
    (actors : List (Fin (c.launch room).numGroups × Fin (c.launch room).groupSize))
    (s : State (c.launch room)) (ran : (start (c.launch room) sched).run barrier actors = some s)
    (finished : s.Finished) : s.output.Perm (pristineOutput c.pristine) :=
  (answered_of_launched next retired ran finished).1.trans (pristine_owed c.pristine).symm

theorem ticket_kernel_agrees_four_experts : ∃ actors s,
    (start (fourExperts.launch fourExperts_room) Sched.zeroed).run countingBarrier actors = some s ∧
      s.output.Perm (pristineOutput fourExperts.pristine) := by
  have begun : Inv (start (fourExperts.launch fourExperts_room) Sched.zeroed) _ _ :=
    start_inv rfl rfl
  obtain ⟨actors, s, ran, finished⟩ := can_finish begun
  exact ⟨actors, s, ran, ticket_kernel_agrees countingBarrier fourExperts fourExperts_room
    Sched.zeroed rfl rfl actors s ran finished⟩
end ExpertTickets
