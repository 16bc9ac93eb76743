import Mathlib.Algebra.BigOperators.Fin
import Mathlib.Algebra.Order.BigOperators.Group.Finset
import Mathlib.Data.Fintype.Lattice
import Mathlib.Tactic.Ring
import Glm53Overlay.ExpertTickets.Preserved

/-!
The expert loop gets done. Every step raises the rank of the block that takes it, a rank the
tickets bound, so no run goes on for ever; and the block of a group that has made the fewest
barrier calls is never the one that has to wait.
-/
namespace ExpertTickets
open DealtNumbers

variable {l : Launch} {barrier : GroupBarrier} {s s' : State l}
variable {held : Fin l.numGroups → List Nat} {bound : Nat}
  {g : Fin l.numGroups} {b : Fin l.groupSize}

section Rank

def Pc.weight : Pc → Nat
  | .barrier _ => 0
  | .stage .hadGatherGuIn => 3
  | .stage _ | .reload => 1
  | .scan | .draw => 2
  | .publish _ | .retire => 3
  | .resetNext => 4
  | .resetRetired => 5
  | .done => 6

def Block.rank (me : Block) : Nat := 4 * me.calls + me.pc.weight

def State.rank (s : State l) : Nat :=
  Finset.univ.sum fun g => Finset.univ.sum fun b => (s.block g b).rank

theorem weight_le (pc : Pc) : pc.weight ≤ 6 := by
  cases pc with
  | stage k => cases k <;> decide
  | _ => simp [Pc.weight]

theorem stage_weight (k : Stage) : 1 ≤ (Pc.stage k).weight ∧ (Pc.stage k).weight ≤ 3 := by
  cases k <;> decide

theorem step_moves (moved : s.step barrier g b = some s') : ∃ me sched,
    s' = { s.put g b me with sched := sched } ∧ (s.block g b).rank < me.rank := by
  cases here : (s.block g b).pc with
  | scan =>
    simp only [State.step, here] at moved
    split at moved
    · cases moved
      exact ⟨_, s.sched, rfl, by simp [Block.rank, here, Pc.weight]⟩
    · cases moved
      refine ⟨_, s.sched, rfl, ?_⟩
      by_cases lead : b.val = 0 <;> simp [Block.rank, here, Pc.weight, lead]
  | stage k =>
    have light := stage_weight k
    by_cases late : k = .hadDOut
    · subst late
      simp only [State.step, here] at moved
      split at moved
      · cases moved
        exact ⟨_, s.sched, rfl, by simp [Block.rank, here, Pc.weight]⟩
      · cases moved
        refine ⟨_, s.sched, rfl, ?_⟩
        simp only [Block.rank, here, Pc.weight]
        omega
    · have stepped : s.step barrier g b = some (s.put g b { s.block g b with
          pc := .barrier k, calls := (s.block g b).calls + 1 }) := by
        cases k <;> simp_all [State.step]
      rw [stepped] at moved
      cases moved
      refine ⟨_, s.sched, rfl, ?_⟩
      simp only [Block.rank, here]
      omega
  | draw =>
    simp only [State.step, here] at moved
    cases moved
    exact ⟨_, _, rfl, by simp [Block.rank, here, Pc.weight]⟩
  | publish t =>
    simp only [State.step, here] at moved
    cases moved
    refine ⟨_, _, rfl, ?_⟩
    simp only [Block.rank, here, Pc.weight]
    omega
  | barrier k =>
    simp only [State.step, here] at moved
    split at moved
    · cases moved
      refine ⟨_, s.sched, rfl, ?_⟩
      cases k <;> simp [Block.rank, here, Pc.weight, Stage.next]
    · cases moved
  | reload =>
    simp only [State.step, here] at moved
    cases moved
    exact ⟨_, s.sched, rfl, by simp [Block.rank, here, Pc.weight]⟩
  | retire =>
    simp only [State.step, here] at moved
    cases moved
    refine ⟨_, _, rfl, ?_⟩
    by_cases last : s.sched.retired = l.numGroups - 1 <;>
      simp [Block.rank, here, Pc.weight, last]
  | resetNext =>
    simp only [State.step, here] at moved
    cases moved
    exact ⟨_, _, rfl, by simp [Block.rank, here, Pc.weight]⟩
  | resetRetired =>
    simp only [State.step, here] at moved
    cases moved
    exact ⟨_, _, rfl, by simp [Block.rank, here, Pc.weight]⟩
  | done =>
    simp only [State.step, here] at moved
    cases moved

theorem step_rank (moved : s.step barrier g b = some s') : s.rank < s'.rank := by
  obtain ⟨me, sched, rfl, higher⟩ := step_moves moved
  have each : ∀ g' b', (s.block g' b').rank ≤ ((s.put g b me).block g' b').rank := by
    intro g' b'
    by_cases same : g' = g
    · subst same
      by_cases own : b' = b
      · subst own
        rw [put_own]
        exact higher.le
      · rw [put_beside me own]
    · rw [put_elsewhere me same]
  apply Finset.sum_lt_sum
  · intro g' _
    exact Finset.sum_le_sum fun b' _ => each g' b'
  · refine ⟨g, Finset.mem_univ g, ?_⟩
    apply Finset.sum_lt_sum
    · exact fun b' _ => each g b'
    · refine ⟨b, Finset.mem_univ b, ?_⟩
      show (s.block g b).rank < ((s.put g b me).block g b).rank
      rw [put_own]
      exact higher

theorem run_rank (actors : List (Fin l.numGroups × Fin l.groupSize))
    (ran : s.run barrier actors = some s') : s.rank + actors.length ≤ s'.rank := by
  induction actors generalizing s with
  | nil =>
    have same : s = s' := by simpa [State.run] using ran
    subst same
    simp
  | cons actor rest ih =>
    simp only [State.run, List.foldlM_cons, Option.bind_eq_bind, Option.bind_eq_some_iff] at ran
    obtain ⟨middle, first, later⟩ := ran
    have gained := step_rank first
    have tail := ih later
    rw [List.length_cons]
    omega

theorem calls_le {tickets : List Nat} {place : Nat} {me : Block}
    (books : BlockInv l tickets place me) (rising : tickets.Pairwise (· < ·)) :
    me.calls ≤ 5 * l.numActive := by
  have count := books.calls
  have own := index_le_of_rising rising books.ticket
  cases busy : me.pc.busy with
  | true =>
    have inside := (l.active_lt_iff me.ticket).mpr ⟨_, (books.busy busy).1⟩
    have small : me.pc.offset ≤ 5 := by
      cases me.pc with
      | stage k => cases k <;> decide
      | barrier k => cases k <;> decide
      | _ => simp [Pc.offset]
    omega
  | false =>
    have nothing : me.pc.offset = 0 := by
      revert busy
      cases me.pc <;> simp [Pc.busy, Pc.offset]
    rcases Nat.eq_zero_or_pos me.round with none | some
    · omega
    · obtain ⟨inside, _⟩ := List.getElem?_eq_some_iff.mp books.ticket
      have before : me.round - 1 < tickets.length := by omega
      have handled := books.earlier tickets[me.round - 1]
        (List.mem_take_iff_getElem.mpr ⟨me.round - 1, by omega, rfl⟩)
      have place := index_le_of_rising rising (List.getElem?_eq_getElem before)
      omega

theorem rank_le (inv : Inv s held bound) :
    s.rank ≤ l.numGroups * (l.groupSize * (20 * l.numActive + 6)) := by
  have each : ∀ g b, (s.block g b).rank ≤ 20 * l.numActive + 6 := by
    intro g b
    have calls := calls_le ((inv.group g).block b) (inv.dealt.rising g)
    have light := weight_le (s.block g b).pc
    simp only [Block.rank]
    omega
  calc s.rank ≤ Finset.univ.sum fun _ : Fin l.numGroups =>
        Finset.univ.sum fun _ : Fin l.groupSize => 20 * l.numActive + 6 :=
        Finset.sum_le_sum fun g _ => Finset.sum_le_sum fun b _ => each g b
    _ = _ := by simp
end Rank

section Waiting

theorem free_moves (free : ∀ k, (s.block g b).pc ≠ .barrier k)
    (going : (s.block g b).pc ≠ .done) : (s.step barrier g b).isSome := by
  cases here : (s.block g b).pc with
  | barrier k => exact absurd here (free k)
  | done => exact absurd here going
  | scan =>
    simp only [State.step, here]
    split <;> rfl
  | stage k =>
    cases k with
    | hadDOut =>
      simp only [State.step, here]
      split <;> rfl
    | _ => simp [State.step, here]
  | _ => simp [State.step, here]

theorem barrier_moves {k : Stage} (here : (s.block g b).pc = .barrier k)
    (all : ∀ b', (s.block g b).calls ≤ (s.block g b').calls) : (s.step barrier g b).isSome := by
  have through : barrier.returns (s.groupCalls g) (s.block g b).calls = true := by
    apply barrier.releases
    simpa [State.groupCalls] using all
  simp [State.step, here, through]

theorem some_block_moves (inv : Inv s held bound) (unfinished : ¬ s.Finished) :
    ∃ g b, (s.step barrier g b).isSome := by
  simp only [State.Finished, not_forall] at unfinished
  obtain ⟨g, b, going⟩ := unfinished
  have : Nonempty (Fin l.groupSize) := ⟨l.leader⟩
  obtain ⟨m, least⟩ := Finite.exists_min fun b => (s.block g b).calls
  by_cases waits : ∃ k, (s.block g m).pc = .barrier k
  · obtain ⟨k, here⟩ := waits
    exact ⟨g, m, barrier_moves here least⟩
  · by_cases left : (s.block g m).pc = .done
    · by_cases held' : ∃ k, (s.block g b).pc = .barrier k
      · obtain ⟨k, here⟩ := held'
        refine ⟨g, b, barrier_moves here ?_⟩
        -- the block that has left the loop has come out of the call the other one waits in
        have mine := (inv.group g).block b
        have its := (inv.group g).block m
        have count := mine.calls
        have ended := its.calls
        have apart := (inv.group g).meet b m
        have near := least b
        simp only [here, Pc.offset] at count
        simp only [left, Pc.offset] at ended
        simp only [Block.left, here] at apart
        have late : (s.block g b).round ≠ (s.block g m).round := by
          intro same
          have ticket := mine.ticket
          rw [same, its.ticket] at ticket
          have past := its.ended (by rw [left]; rfl)
          have active := (l.active_lt_iff _).mpr ⟨_, (mine.busy (by rw [here]; rfl)).1⟩
          have equal := Option.some.inj ticket
          omega
        have small : k.number ≤ 4 := by cases k <;> decide
        have level : (s.block g b).calls = (s.block g m).calls := by omega
        intro b'
        rw [level]
        exact least b'
      · exact ⟨g, b, free_moves (fun k at' => held' ⟨k, at'⟩) going⟩
    · exact ⟨g, m, free_moves (fun k at' => waits ⟨k, at'⟩) left⟩
theorem run_cons {middle : State l} (moved : s.step barrier g b = some middle)
    {actors : List (Fin l.numGroups × Fin l.groupSize)} (ran : middle.run barrier actors = some s') :
    s.run barrier ((g, b) :: actors) = some s' := by
  simp only [State.run, List.foldlM_cons, Option.bind_eq_bind, moved, Option.bind_some]
  exact ran

theorem can_finish (inv : Inv s held bound) :
    ∃ actors s', s.run barrier actors = some s' ∧ s'.Finished := by
  induction gap : l.numGroups * (l.groupSize * (20 * l.numActive + 6)) - s.rank
    using Nat.strongRecOn generalizing s held bound with
  | ind k ih =>
    by_cases finished : s.Finished
    · exact ⟨[], s, rfl, finished⟩
    · obtain ⟨g, b, moves⟩ := some_block_moves inv finished
      obtain ⟨middle, moved⟩ := Option.isSome_iff_exists.mp moves
      obtain ⟨held', bound', kept⟩ := step_kept inv moved
      have gained := step_rank moved
      have room := rank_le kept
      obtain ⟨actors, s', ran, finished'⟩ := ih _ (by omega) kept rfl
      exact ⟨(g, b) :: actors, s', run_cons moved ran, finished'⟩

theorem start_rank (sched : Sched) :
    (start l sched).rank = l.numGroups * (l.groupSize * 2) := by
  simp [State.rank, start, Block.rank, Pc.weight]

/-- Any order of steps comes to an end within a bound that the handled experts set, and never
    stands still before it. -/
theorem launch_progress (barrier : GroupBarrier) (l : Launch) (sched : Sched)
    (next : sched.next = 0) (retired : sched.retired = 0)
    (actors : List (Fin l.numGroups × Fin l.groupSize)) (s : State l)
    (ran : (start l sched).run barrier actors = some s) :
    actors.length ≤ l.numGroups * (l.groupSize * (20 * l.numActive + 4)) ∧
      (s.Finished ∨ ∃ g b, (s.step barrier g b).isSome) := by
  obtain ⟨held, bound, inv⟩ := run_kept (start_inv next retired) actors ran
  refine ⟨?_, ?_⟩
  · have gained := run_rank actors ran
    have most := rank_le inv
    rw [start_rank] at gained
    have split : l.numGroups * (l.groupSize * (20 * l.numActive + 6)) =
        l.numGroups * (l.groupSize * 2) +
          l.numGroups * (l.groupSize * (20 * l.numActive + 4)) := by ring
    omega
  · by_cases finished : s.Finished
    · exact Or.inl finished
    · exact Or.inr (some_block_moves inv finished)

/-- Two groups of two blocks, two experts with a token each. -/
def twoGroups : Launch where
  numGroups := 2
  groupSize := 2
  expertCount := [1, 0, 1, 0]
  maxTokensPerExpert := 4
  hiddenDim := 256
  groups_pos := Nat.zero_lt_two
  size_pos := Nat.zero_lt_two

def twoGroups.actor (g b : Bool) : Fin twoGroups.numGroups × Fin twoGroups.groupSize :=
  (cond g (Fin.last 1) (Fin.last 1).rev, cond b (Fin.last 1) (Fin.last 1).rev)

theorem counting_waits (calls : List Nat) (mine : Nat)
    (returns : calls.all (mine ≤ ·) = true) : ∀ c ∈ calls, mine ≤ c := by
  simpa using returns

theorem counting_releases (calls : List Nat) (mine : Nat) (all : ∀ c ∈ calls, mine ≤ c) :
    calls.all (mine ≤ ·) = true := by
  simpa using all

/-- A barrier that compares the counts. -/
def countingBarrier : GroupBarrier :=
  ⟨fun calls mine => calls.all (mine ≤ ·), counting_waits, counting_releases⟩

/-- The blocks of the first group come to its first barrier, and one of them goes on. -/
def twoGroups.order : List (Fin twoGroups.numGroups × Fin twoGroups.groupSize) :=
  [twoGroups.actor false false, twoGroups.actor false true, twoGroups.actor false false,
    twoGroups.actor true false, twoGroups.actor false true, twoGroups.actor false false]

theorem launch_progress_two_groups : ∃ s,
    (start twoGroups ⟨0, 0, fun _ => 7⟩).run countingBarrier twoGroups.order = some s ∧
      (s.block (twoGroups.actor false false).1 (twoGroups.actor false false).2).pc =
        .stage .gemmUp ∧
      (s.Finished ∨ ∃ g b, (s.step countingBarrier g b).isSome) :=
  ⟨_, rfl, rfl,
    (launch_progress countingBarrier twoGroups ⟨0, 0, fun _ => 7⟩ rfl rfl twoGroups.order _ rfl).2⟩
end Waiting
end ExpertTickets
