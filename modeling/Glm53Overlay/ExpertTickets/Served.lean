import Glm53Overlay.ExpertTickets.Progress
import Glm53Overlay.Library.PlacedOnce
import Glm53Overlay.Library.SegmentedRange

/-!
What the ticket scheduler guarantees, whatever the order of the steps: a finished launch has
scattered every chunk of every handled expert once and left the counters at zero; and blocks at
work in one group are in the same stage of the same expert, which no other group works on.
-/
namespace ExpertTickets
open DealtNumbers StoreTrace

variable {l : Launch} {s s' : State l} {held : Fin l.numGroups → List Nat} {bound : Nat}

/-- What the experts a launch handles need: every one of their slots with each of its
    128-column chunks. -/
def owed (expertCount : List Nat) (maxTokensPerExpert hiddenDim : Nat) : List (Nat × Nat) :=
  let counts := expertCount.dropLast
  ((List.range counts.length).filter fun e =>
      0 < counts.getD e 0 ∧ counts.getD e 0 ≤ maxTokensPerExpert).flatMap fun e =>
    (List.range (counts.getD e 0)).flatMap fun i =>
      (List.range (hiddenDim / 128)).map fun j => ((counts.take e).sum + i, j)

namespace Launch
variable (l : Launch)

def chunks (e : Nat) : List (Nat × Nat) :=
  (List.range (l.counts.getD e 0)).flatMap fun i =>
    (List.range l.warpsPerToken).map fun j => (l.tokenStart e + i, j)

theorem chunks_owed :
    l.activeExperts.flatMap l.chunks = owed l.expertCount l.maxTokensPerExpert l.hiddenDim := by
  have same : l.active = fun e =>
      decide (0 < l.counts.getD e 0 ∧ l.counts.getD e 0 ≤ l.maxTokensPerExpert) := by
    funext e
    simp only [active, handles, Nat.pos_iff_ne_zero]
  rw [activeExperts, same]
  rfl

theorem shares_cover (e : Nat) :
    ((List.finRange l.groupSize).flatMap fun b => l.share b.val e).Perm (l.chunks e) := by
  have positive : 0 < l.groupSize * warpsPerBlock := Nat.mul_pos l.size_pos (by decide)
  let total := l.counts.getD e 0 * l.warpsPerToken
  let column := l.chunkOf (l.tokenStart e)
  have blocks : ((List.finRange l.groupSize).flatMap fun b => l.share b.val e) =
      (List.range l.groupSize).flatMap fun b => l.share b e := by
    rw [← List.map_coe_finRange_eq_range, List.flatMap_map]
  have warps : ((List.range l.groupSize).flatMap fun b => l.share b e) =
      (List.range (l.groupSize * warpsPerBlock)).flatMap fun warp =>
        (strideLoop total (l.groupSize * warpsPerBlock) warp).map column :=
    flatMap_digits l.groupSize warpsPerBlock fun warp =>
      (strideLoop total (l.groupSize * warpsPerBlock) warp).map column
  have visited := strideLoops_flatMap (n := total) positive fun i => [column i]
  have split := flatMap_range_mul (l.counts.getD e 0) l.warpsPerToken
    fun i j => [(l.tokenStart e + i, j)]
  simp only [← List.map_eq_flatMap] at visited split
  rw [blocks, warps, chunks, ← split]
  exact visited
end Launch

section Finished

theorem scattered_at_end (inv : Inv s held bound) (finished : s.Finished) (g : Fin l.numGroups)
    (b : Fin l.groupSize) : (s.block g b).scattered =
      ((held g).filter (· < l.numActive)).flatMap (l.shareOf b) := by
  have books := (inv.group g).block b
  have here := finished g b
  have past := books.ended (by rw [here]; rfl)
  have same := books.scattered
  simp only [here, Pc.scattered, Bool.false_eq_true, if_false, Nat.add_zero] at same
  rw [same, take_of_rising (inv.dealt.rising g) books.ticket past books.earlier]

theorem all_claimed (inv : Inv s held bound) (finished : s.Finished) : l.numActive ≤ bound := by
  let g : Fin l.numGroups := ⟨0, l.groups_pos⟩
  have books := (inv.group g).block l.leader
  have past := books.ended (by rw [finished g l.leader]; rfl)
  have small := inv.dealt.below g _ (List.mem_of_getElem? books.ticket)
  omega

theorem shares_by_ticket (t : Nat) (inside : t < l.numActive) :
    ((List.finRange l.groupSize).flatMap fun b => l.shareOf b.val t).Perm
      ((l.activeExperts[t]?.toList).flatMap l.chunks) := by
  obtain ⟨e, active⟩ := (l.active_lt_iff t).mp inside
  simp only [Launch.shareOf, active, Option.toList_some, List.flatMap_cons, List.flatMap_nil,
    List.append_nil]
  exact l.shares_cover e

theorem experts_by_ticket : (List.range l.numActive).flatMap (fun t => l.activeExperts[t]?.toList) =
    l.activeExperts := by
  apply PlacedOnce.flatMap_getElem?
  exact Nat.le_refl _

theorem output_once (inv : Inv s held bound) (finished : s.Finished) :
    s.output.Perm (owed l.expertCount l.maxTokensPerExpert l.hiddenDim) := by
  have served := served_once inv.dealt (all_claimed inv finished) (List.finRange l.numGroups)
    (List.nodup_finRange _) List.mem_finRange
  have byGroup : s.output.Perm ((List.finRange l.numGroups).flatMap fun g =>
      ((held g).filter (· < l.numActive)).flatMap fun t =>
        (List.finRange l.groupSize).flatMap fun b => l.shareOf b.val t) := by
    apply List.Perm.flatMap_left
    intro g _
    have blocks : ((List.finRange l.groupSize).flatMap fun b => (s.block g b).scattered) =
        (List.finRange l.groupSize).flatMap fun b =>
          ((held g).filter (· < l.numActive)).flatMap fun t => l.shareOf b.val t := by
      apply List.flatMap_congr
      intro b _
      exact scattered_at_end inv finished g b
    rw [blocks]
    exact SegmentedRange.flatMap_swap_perm _ _ _
  refine byGroup.trans ?_
  rw [← List.flatMap_assoc]
  refine (served.flatMap_right _).trans ?_
  rw [← l.chunks_owed, ← experts_by_ticket, List.flatMap_assoc]
  apply List.Perm.flatMap_left
  intro t member
  exact shares_by_ticket t (List.mem_range.mp member)

theorem words_reset (inv : Inv s held bound) (finished : s.Finished) :
    s.sched.next = 0 ∧ s.sched.retired = 0 := by
  cases inv.shared with
  | running gone out few quiet next retired =>
    have everyone : gone = Finset.univ := by
      apply Finset.eq_univ_of_forall
      intro g
      exact (out g).mpr (finished g l.leader)
    rw [everyone, Finset.card_univ, Fintype.card_fin] at few
    exact absurd few (Nat.lt_irrefl _)
  | closing g last rest =>
    rw [leadPc, finished g l.leader] at last
    cases last
  | clearing g last rest zero =>
    rw [leadPc, finished g l.leader] at last
    cases last
  | closed all next retired => exact ⟨next, retired⟩
end Finished

section Lockstep

theorem stage_count {tickets : List Nat} {g : Fin l.numGroups} (group : GroupInv s tickets g)
    {b : Fin l.groupSize} {k : Stage} (here : (s.block g b).pc = .stage k) :
    (s.block g b).calls = 5 * (s.block g b).round + k.number ∧
      ∀ b', (s.block g b).calls ≤ (s.block g b').calls := by
  have count := (group.block b).calls
  simp only [here, Pc.offset] at count
  refine ⟨count, fun b' => ?_⟩
  have apart := group.meet b b'
  simpa only [Block.left, here] using apart

theorem same_stage {tickets : List Nat} {g : Fin l.numGroups} (group : GroupInv s tickets g)
    {b b' : Fin l.groupSize} {k k' : Stage} (here : (s.block g b).pc = .stage k)
    (there : (s.block g b').pc = .stage k') :
    k = k' ∧ (s.block g b).expertIdx = (s.block g b').expertIdx := by
  have mine := stage_count group here
  have its := stage_count group there
  have level : (s.block g b).calls = (s.block g b').calls := Nat.le_antisymm (mine.2 b') (its.2 b)
  have small : k.number ≤ 4 ∧ k'.number ≤ 4 := by cases k <;> cases k' <;> decide
  have number : k.number = k'.number := by omega
  have round : (s.block g b).round = (s.block g b').round := by omega
  have ticket := (group.block b).ticket
  rw [round, (group.block b').ticket] at ticket
  have active := ((group.block b).busy (by rw [here]; rfl)).1
  rw [← Option.some.inj ticket, ((group.block b').busy (by rw [there]; rfl)).1] at active
  refine ⟨?_, (Option.some.inj active).symm⟩
  cases k <;> cases k' <;> first | rfl | cases number

theorem same_group (inv : Inv s held bound) {g g' : Fin l.numGroups} {b b' : Fin l.groupSize}
    (here : (s.block g b).pc.busy = true) (there : (s.block g' b').pc.busy = true)
    (expert : (s.block g b).expertIdx = (s.block g' b').expertIdx) : g = g' := by
  have mine := (inv.group g).block b
  have its := (inv.group g').block b'
  have own := active_index (mine.busy here).1
  have other := active_index (its.busy there).1
  have ticket : (s.block g b).ticket = (s.block g' b').ticket := by
    rw [← own.2.2, ← other.2.2, expert]
  have held := List.mem_of_getElem? its.ticket
  rw [← ticket] at held
  exact inv.dealt.apart g g' _ (List.mem_of_getElem? mine.ticket) held

/-- In every reachable state the blocks of a group that are in a stage are in one stage of one
    expert; no block is in a stage before all blocks of its group have come through the stages
    before it; and no expert is with two groups. -/
theorem groups_in_lockstep (barrier : GroupBarrier) (l : Launch) (sched : Sched)
    (next : sched.next = 0) (retired : sched.retired = 0)
    (actors : List (Fin l.numGroups × Fin l.groupSize)) (s : State l)
    (ran : (start l sched).run barrier actors = some s) :
    (∀ g b b' k k', (s.block g b).pc = .stage k → (s.block g b').pc = .stage k' →
      k = k' ∧ (s.block g b).expertIdx = (s.block g b').expertIdx) ∧
    (∀ g b k, (s.block g b).pc = .stage k → ∀ b', (s.block g b).calls ≤ (s.block g b').calls) ∧
    (∀ g g' b b', (s.block g b).pc.busy = true → (s.block g' b').pc.busy = true →
      (s.block g b).expertIdx = (s.block g' b').expertIdx → g = g') := by
  obtain ⟨held, bound, inv⟩ := run_kept (start_inv next retired) actors ran
  refine ⟨?_, ?_, ?_⟩
  · intro g b b' k k' here there
    exact same_stage (inv.group g) here there
  · intro g b k here
    exact (stage_count (inv.group g) here).2
  · intro g g' b b' here there expert
    exact same_group inv here there expert

def twoGroups.scanned : List (Fin twoGroups.numGroups × Fin twoGroups.groupSize) :=
  [twoGroups.actor false false, twoGroups.actor true false, twoGroups.actor true true,
    twoGroups.actor false true]

def twoGroups.found : State twoGroups :=
  ((start twoGroups ⟨0, 0, fun _ => 7⟩).run countingBarrier twoGroups.scanned).getD
    (start twoGroups ⟨0, 0, id⟩)

def twoGroups.foundBlock (g b : Bool) : Block :=
  twoGroups.found.block (twoGroups.actor g b).1 (twoGroups.actor g b).2

theorem groups_in_lockstep_two_groups :
    (start twoGroups ⟨0, 0, fun _ => 7⟩).run countingBarrier twoGroups.scanned =
        some twoGroups.found ∧
      ∀ b b', (twoGroups.foundBlock false b).expertIdx ≠
        (twoGroups.foundBlock true b').expertIdx := by
  have lockstep := groups_in_lockstep countingBarrier twoGroups ⟨0, 0, fun _ => 7⟩ rfl rfl
    twoGroups.scanned twoGroups.found rfl
  have busy : ∀ g b, (twoGroups.foundBlock g b).pc.busy = true := by decide
  refine ⟨rfl, ?_⟩
  intro b b' expert
  have same : (twoGroups.actor false b).1 = (twoGroups.actor true b').1 :=
    lockstep.2.2 _ _ _ _ (busy false b) (busy true b') expert
  exact absurd same (by revert b b'; decide)
end Lockstep
end ExpertTickets
