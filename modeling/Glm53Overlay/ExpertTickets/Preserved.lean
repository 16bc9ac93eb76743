import Glm53Overlay.ExpertTickets.Steps

/-!
The invariant is kept at every place of the expert loop, by any block, and so along every run.
-/
namespace ExpertTickets
open DealtNumbers

variable {l : Launch} {barrier : GroupBarrier} {s s' : State l}
  {held : Fin l.numGroups → List Nat} {bound : Nat} {g : Fin l.numGroups} {b : Fin l.groupSize}

theorem active_index {t e : Nat} (found : l.activeExperts[t]? = some e) :
    e < l.counts.length ∧ l.active e = true ∧ l.activeBefore e = t := by
  have member : e ∈ l.activeExperts := List.mem_of_getElem? found
  rw [Launch.activeExperts, List.mem_filter, List.mem_range] at member
  obtain ⟨inside, active⟩ := member
  have again := l.active_at inside active
  have nodup : l.activeExperts.Nodup := List.Nodup.filter _ List.nodup_range
  obtain ⟨tInside, tAt⟩ := List.getElem?_eq_some_iff.mp found
  obtain ⟨eInside, eAt⟩ := List.getElem?_eq_some_iff.mp again
  exact ⟨inside, active, (List.Nodup.getElem_inj_iff nodup).mp (eAt.trans tAt.symm)⟩

theorem left_of_free {me : Block} (free : ∀ k, me.pc ≠ .barrier k) : me.left = me.calls := by
  unfold Block.left
  split
  next k at' => exact absurd at' (free k)
  next => rfl

section Places

/-- The scan stops at the expert of the block's ticket, or takes the block out of the loop. -/
theorem scan_moved (inv : Inv s held bound) (here : (s.block g b).pc = .scan)
    (moved : s.step barrier g b = some s') :
    (∃ e, l.activeExperts[(s.block g b).ticket]? = some e ∧ s' = s.put g b { s.block g b with
      pc := .stage .hadGatherGuIn, expertIdx := e, stop := l.tokenStart (e + 1),
      assign := (s.block g b).ticket + 1 }) ∨
    (l.numActive ≤ (s.block g b).ticket ∧
      s' = s.put g b { s.block g b with pc := if b.val = 0 then .retire else .done }) := by
  obtain ⟨inside, stop, assign, ahead⟩ := ((inv.group g).block b).scanning here
  have found := l.claim_spec (s.block g b).ticket _ (s.block g b).expertIdx rfl inside
    (assign ▸ ahead)
  rw [← stop, ← assign] at found
  simp only [State.step, here, found] at moved
  cases active : l.activeExperts[(s.block g b).ticket]? with
  | some e =>
    simp only [active, Option.map_some, Option.some.injEq] at moved
    exact Or.inl ⟨e, rfl, moved.symm⟩
  | none =>
    simp only [active, Option.map_none, Option.some.injEq] at moved
    exact Or.inr ⟨List.getElem?_eq_none_iff.mp active, moved.symm⟩

theorem claimed_kept (inv : Inv s held bound) (here : (s.block g b).pc = .scan) {e : Nat}
    (active : l.activeExperts[(s.block g b).ticket]? = some e) :
    Inv (s.put g b { s.block g b with
      pc := .stage .hadGatherGuIn, expertIdx := e, stop := l.tokenStart (e + 1),
      assign := (s.block g b).ticket + 1 }) held bound := by
  have books := (inv.group g).block b
  have calls := books.calls
  simp only [here, Pc.offset] at calls
  have same := books.scattered
  simp only [here, Pc.scattered, Bool.false_eq_true, if_false, Nat.add_zero] at same
  let me : Block := { s.block g b with
    pc := .stage .hadGatherGuIn, expertIdx := e, stop := l.tokenStart (e + 1),
    assign := (s.block g b).ticket + 1 }
  have round : me.round = (s.block g b).round := round_of_calls calls
  apply inv.stay me s.sched
  · exact {
      calls := round ▸ calls
      ticket := round ▸ books.ticket
      earlier := round ▸ books.earlier
      scanning := fun at' => absurd at' (by simp [me])
      busy := fun _ => ⟨active, rfl, rfl⟩
      ended := fun at' => absurd at' (by simp [me, Pc.ended])
      scattered := by rw [round]; exact same
      leads := fun at' => absurd at' (by simp [me, Pc.leads]) }
  · exact Nat.le_refl _
  · intro b' _
    have before := (inv.group g).meet b b'
    simpa [Block.left, here, me] using before
  · exact fun _ _ => rfl
  · apply lead_put (inv.group g) me
    rintro rfl
    have lead := (inv.group g).lead
    constructor
    · rw [round]
      simpa [me, Pc.drawn, here] using lead.length
    · intro t at'
      exact absurd at' (by simp [me])
    · intro _ two
      exact lead.word (by simp [here]) two
  · exact inv.shared.pass me s.sched (by rw [here]; rfl) (Or.inl rfl) rfl rfl

/-- Behind the last expert the leader goes on to retire its group, the others are done. -/
theorem left_kept (inv : Inv s held bound) (here : (s.block g b).pc = .scan)
    (beyond : l.numActive ≤ (s.block g b).ticket) :
    Inv (s.put g b { s.block g b with pc := if b.val = 0 then .retire else .done }) held
      bound := by
  have books := (inv.group g).block b
  have calls := books.calls
  simp only [here, Pc.offset] at calls
  have same := books.scattered
  simp only [here, Pc.scattered, Bool.false_eq_true, if_false, Nat.add_zero] at same
  let me : Block := { s.block g b with pc := if b.val = 0 then .retire else .done }
  have at' : me.pc = .retire ∧ b = l.leader ∨ me.pc = .done ∧ b ≠ l.leader := by
    by_cases leads : b.val = 0
    · exact Or.inl ⟨if_pos leads, leader_iff.mp leads⟩
    · exact Or.inr ⟨if_neg leads, fun same => leads (leader_iff.mpr same)⟩
  have offset : me.pc.offset = 0 := by rcases at' with ⟨at', _⟩ | ⟨at', _⟩ <;> rw [at'] <;> rfl
  have round : me.round = (s.block g b).round := round_of_calls (by rw [offset]; exact calls)
  apply inv.stay me s.sched
  · exact {
      calls := by rw [round, offset]; exact calls
      ticket := round ▸ books.ticket
      earlier := round ▸ books.earlier
      scanning := fun now => by rcases at' with ⟨at', _⟩ | ⟨at', _⟩ <;> simp [at'] at now
      busy := fun now => by rcases at' with ⟨at', _⟩ | ⟨at', _⟩ <;> simp [at', Pc.busy] at now
      ended := fun _ => beyond
      scattered := by
        rw [round]
        rcases at' with ⟨at', _⟩ | ⟨at', _⟩ <;> simpa [at', Pc.scattered] using same
      leads := fun now => by
        rcases at' with ⟨_, leads⟩ | ⟨at', _⟩
        · exact leader_iff.mpr leads
        · simp [at', Pc.leads] at now }
  · exact Nat.le_refl _
  · intro b' _
    have before := (inv.group g).meet b b'
    rw [left_of_free (by simp [here])] at before
    rw [left_of_free (by rcases at' with ⟨at', _⟩ | ⟨at', _⟩ <;> simp [at'])]
    exact before
  · exact fun _ _ => rfl
  · apply lead_put (inv.group g) me
    rintro rfl
    have lead := (inv.group g).lead
    have retires : me.pc = .retire := by
      rcases at' with ⟨at', _⟩ | ⟨_, follower⟩
      · exact at'
      · exact absurd rfl follower
    constructor
    · rw [round, retires]
      simpa [Pc.drawn, here] using lead.length
    · intro t now
      rw [retires] at now
      exact absurd now (by simp)
    · intro _ two
      exact lead.word (by simp [here]) two
  · apply inv.shared.pass me s.sched (by rw [here]; rfl) _ rfl rfl
    rcases at' with ⟨at', _⟩ | ⟨_, follower⟩
    · exact Or.inl (by rw [at']; rfl)
    · exact Or.inr follower

theorem scan_kept (inv : Inv s held bound) (here : (s.block g b).pc = .scan)
    (moved : s.step barrier g b = some s') : Inv s' held bound := by
  rcases scan_moved inv here moved with ⟨e, active, rfl⟩ | ⟨beyond, rfl⟩
  · exact claimed_kept inv here active
  · exact left_kept inv here beyond

theorem stage_kept (inv : Inv s held bound) {k : Stage} (here : (s.block g b).pc = .stage k)
    (early : k ≠ .hadDOut) (moved : s.step barrier g b = some s') : Inv s' held bound := by
  have books := (inv.group g).block b
  have calls := books.calls
  simp only [here, Pc.offset] at calls
  have busy := books.busy (by rw [here]; rfl)
  let me : Block := { s.block g b with pc := .barrier k, calls := (s.block g b).calls + 1 }
  have next : s' = s.put g b me := by
    simp only [State.step, here] at moved
    cases k <;> exact (Option.some.inj moved).symm
  have pending : me.pc.scattered = false ∧ me.pc.drawn = false := by
    cases k <;> first | exact ⟨rfl, rfl⟩ | exact absurd rfl early
  have round : me.round = (s.block g b).round := by
    apply round_of_calls
    simp only [me, Pc.offset]
    omega
  subst next
  apply inv.stay me s.sched
  · exact {
      calls := by
        rw [round]
        simp only [me, Pc.offset]
        omega
      ticket := round ▸ books.ticket
      earlier := round ▸ books.earlier
      scanning := fun at' => absurd at' (by simp [me])
      busy := fun _ => busy
      ended := fun at' => absurd at' (by simp [me, Pc.ended])
      scattered := by
        rw [round, pending.1]
        have same := books.scattered
        simpa [here, Pc.scattered] using same
      leads := fun at' => absurd at' (by simp [me, Pc.leads]) }
  · exact Nat.le_succ _
  · intro b' _
    have before := (inv.group g).meet b b'
    rw [left_of_free (by simp [here])] at before
    simpa [Block.left, me] using before
  · exact fun _ _ => rfl
  · apply lead_put (inv.group g) me
    rintro rfl
    have lead := (inv.group g).lead
    constructor
    · rw [round, pending.2]
      simpa [here, Pc.drawn] using lead.length
    · intro t at'
      exact absurd at' (by simp [me])
    · intro _ two
      exact lead.word (by simp [here]) two
  · exact inv.shared.pass me s.sched (by rw [here]; rfl) (Or.inl rfl) rfl rfl

theorem scattered_next {tickets : List Nat} {place : Nat} {me : Block}
    (books : BlockInv l tickets place me) (here : me.pc = .stage .hadDOut) :
    me.scattered ++ l.share place me.expertIdx =
      (tickets.take (me.round + 1)).flatMap (l.shareOf place) := by
  have same := books.scattered
  simp only [here, Pc.scattered, Bool.false_eq_true, if_false, Nat.add_zero] at same
  have active := (books.busy (by rw [here]; rfl)).1
  have mine : l.shareOf place me.ticket = l.share place me.expertIdx := by
    rw [Launch.shareOf, active]
  rw [List.take_add_one, books.ticket, same]
  simp [mine]

theorem scatter_kept (inv : Inv s held bound) (here : (s.block g b).pc = .stage .hadDOut)
    (moved : s.step barrier g b = some s') : Inv s' held bound := by
  have books := (inv.group g).block b
  have calls := books.calls
  simp only [here, Pc.offset, Stage.number] at calls
  have busy := books.busy (by rw [here]; rfl)
  have scattered := scattered_next books here
  simp only [State.step, here] at moved
  by_cases leads : b.val = 0
  · rw [if_pos leads] at moved
    have next := (Option.some.inj moved).symm
    subst next
    let me : Block := { s.block g b with
      pc := .draw, scattered := (s.block g b).scattered ++ l.share b (s.block g b).expertIdx }
    have round : me.round = (s.block g b).round := round_of_calls calls
    apply inv.stay me s.sched
    · exact {
        calls := round ▸ calls
        ticket := round ▸ books.ticket
        earlier := round ▸ books.earlier
        scanning := fun at' => absurd at' (by simp [me])
        busy := fun _ => busy
        ended := fun at' => absurd at' (by simp [me, Pc.ended])
        scattered := by
          rw [round]
          exact scattered
        leads := fun _ => leads }
    · exact Nat.le_refl _
    · intro b' _
      have before := (inv.group g).meet b b'
      rw [left_of_free (by simp [here])] at before
      rw [left_of_free (by simp [me])]
      exact before
    · exact fun _ _ => rfl
    · apply lead_put (inv.group g) me
      rintro rfl
      have lead := (inv.group g).lead
      constructor
      · rw [round]
        simpa [me, here, Pc.drawn] using lead.length
      · intro t at'
        exact absurd at' (by simp [me])
      · intro _ two
        exact lead.word (by simp [here]) two
    · exact inv.shared.pass me s.sched (by rw [here]; rfl) (Or.inl rfl) rfl rfl
  · rw [if_neg leads] at moved
    have next := (Option.some.inj moved).symm
    subst next
    have follower : b ≠ l.leader := fun same => leads (leader_iff.mpr same)
    let me : Block := { s.block g b with
      pc := .barrier .hadDOut, calls := (s.block g b).calls + 1
      scattered := (s.block g b).scattered ++ l.share b (s.block g b).expertIdx }
    have round : me.round = (s.block g b).round := by
      apply round_of_calls
      simp only [me, Pc.offset, Stage.number]
      omega
    apply inv.stay me s.sched
    · exact {
        calls := by
          rw [round]
          simp only [me, Pc.offset, Stage.number]
          omega
        ticket := round ▸ books.ticket
        earlier := round ▸ books.earlier
        scanning := fun at' => absurd at' (by simp [me])
        busy := fun _ => busy
        ended := fun at' => absurd at' (by simp [me, Pc.ended])
        scattered := by
          rw [round]
          exact scattered
        leads := fun at' => absurd at' (by simp [me, Pc.leads]) }
    · exact Nat.le_succ _
    · intro b' _
      have before := (inv.group g).meet b b'
      rw [left_of_free (by simp [here])] at before
      simpa [Block.left, me] using before
    · exact fun _ _ => rfl
    · apply lead_put (inv.group g) me
      exact fun same => absurd same follower
    · exact inv.shared.pass me s.sched (by rw [here]; rfl) (Or.inr follower) rfl rfl

theorem draw_kept (inv : Inv s held bound) (here : (s.block g b).pc = .draw)
    (moved : s.step barrier g b = some s') : Inv s' (deal held g bound) (bound + 1) := by
  have books := (inv.group g).block b
  have leads : b = l.leader := leader_iff.mp (books.leads (by rw [here]; rfl))
  subst leads
  have working : (leadPc s g).working = true := by rw [leadPc, here]; rfl
  obtain ⟨_, _, _, _, next, _⟩ := inv.shared.running_of_working working
  have calls := books.calls
  simp only [here, Pc.offset] at calls
  have same := books.scattered
  simp only [here, Pc.scattered, if_true] at same
  simp only [State.step, here, next] at moved
  have moved := (Option.some.inj moved).symm
  subst moved
  let me : Block := { s.block g l.leader with pc := .publish bound }
  have round : me.round = (s.block g l.leader).round := round_of_calls calls
  have grown : held g <+: deal held g bound g := by
    rw [deal_own]
    exact List.prefix_append _ _
  have own : BlockInv l (held g) l.leader me := {
    calls := round ▸ calls
    ticket := round ▸ books.ticket
    earlier := round ▸ books.earlier
    scanning := fun at' => absurd at' (by simp [me])
    busy := fun _ => books.busy (by rw [here]; rfl)
    ended := fun at' => absurd at' (by simp [me, Pc.ended])
    scattered := by
      rw [round]
      exact same
    leads := fun _ => rfl }
  apply inv.move me { s.sched with next := s.sched.next + 1 }
  · exact dealt_next inv.dealt g
  · exact fun g' other => deal_other held other bound
  · exact grown
  · exact own.extend grown
  · exact Nat.le_refl _
  · intro b' _
    have before := (inv.group g).meet l.leader b'
    rw [left_of_free (by simp [here])] at before
    rw [left_of_free (by simp [me])]
    exact before
  · exact fun _ _ => rfl
  · rw [put_own]
    have lead := (inv.group g).lead
    constructor
    · rw [round, deal_own, List.length_append, lead.length]
      simp [me, here, Pc.drawn]
    · intro t at'
      have drawn : bound = t := by simpa [me] using at'
      rw [deal_own, ← drawn]
      simp
    · intro other _
      exact absurd rfl (other bound)
  · apply inv.shared.work me { s.sched with next := s.sched.next + 1 } working rfl
    · intro total
      simp only
      omega
    · rfl

theorem publish_kept (inv : Inv s held bound) {t : Nat} (here : (s.block g b).pc = .publish t)
    (moved : s.step barrier g b = some s') : Inv s' held bound := by
  have books := (inv.group g).block b
  have leads : b = l.leader := leader_iff.mp (books.leads (by rw [here]; rfl))
  subst leads
  have calls := books.calls
  simp only [here, Pc.offset] at calls
  have same := books.scattered
  simp only [here, Pc.scattered, if_true] at same
  simp only [State.step, here] at moved
  have moved := (Option.some.inj moved).symm
  subst moved
  let me : Block := { s.block g l.leader with
    pc := .barrier .hadDOut, calls := (s.block g l.leader).calls + 1 }
  let sched : Sched := { s.sched with published := Function.update s.sched.published g t }
  have round : me.round = (s.block g l.leader).round := by
    apply round_of_calls
    simp only [me, Pc.offset, Stage.number]
    omega
  apply inv.stay me sched
  · exact {
      calls := by
        rw [round]
        simp only [me, Pc.offset, Stage.number]
        omega
      ticket := round ▸ books.ticket
      earlier := round ▸ books.earlier
      scanning := fun at' => absurd at' (by simp [me])
      busy := fun _ => books.busy (by rw [here]; rfl)
      ended := fun at' => absurd at' (by simp [me, Pc.ended])
      scattered := by
        rw [round]
        exact same
      leads := fun at' => absurd at' (by simp [me, Pc.leads]) }
  · exact Nat.le_succ _
  · intro b' _
    have before := (inv.group g).meet l.leader b'
    rw [left_of_free (by simp [here])] at before
    simpa [Block.left, me] using before
  · intro g' other
    have apart : g'.val ≠ g.val := fun equal => other (Fin.ext equal)
    simp [sched, apart]
  · rw [put_own]
    have lead := (inv.group g).lead
    constructor
    · rw [round]
      simpa [me, here, Pc.drawn] using lead.length
    · intro u at'
      exact absurd at' (by simp [me])
    · intro _ _
      simpa [sched] using lead.pending t here
  · exact inv.shared.pass me sched (by rw [here]; rfl) (Or.inl rfl) rfl rfl

theorem barrier_kept (inv : Inv s held bound) {k : Stage} (here : (s.block g b).pc = .barrier k)
    (moved : s.step barrier g b = some s') : Inv s' held bound := by
  have books := (inv.group g).block b
  have calls := books.calls
  simp only [here, Pc.offset] at calls
  have busy := books.busy (by rw [here]; rfl)
  simp only [State.step, here] at moved
  split at moved
  next all =>
    have moved := (Option.some.inj moved).symm
    subst moved
    let me : Block := { s.block g b with pc := k.next.elim .reload .stage }
    have offset : me.pc.offset = k.number + 1 := by cases k <;> rfl
    have scattered : me.pc.scattered = (Pc.barrier k).scattered := by cases k <;> rfl
    have drawn : me.pc.drawn = (Pc.barrier k).drawn := by cases k <;> rfl
    have free : ∀ k', me.pc ≠ .barrier k' := by
      intro k'
      cases k <;> simp [me, Stage.next]
    have plain : me.pc ≠ .scan ∧ me.pc.ended = false ∧ me.pc.leads = false ∧
        me.pc.working = true ∧ ∀ t, me.pc ≠ .publish t := by
      cases k <;> simp [me, Stage.next, Pc.ended, Pc.leads, Pc.working]
    have round : me.round = (s.block g b).round := round_of_calls (by rw [offset]; exact calls)
    apply inv.stay me s.sched
    · exact {
        calls := by rw [round, offset]; exact calls
        ticket := round ▸ books.ticket
        earlier := round ▸ books.earlier
        scanning := fun at' => absurd at' plain.1
        busy := fun _ => busy
        ended := fun at' => absurd at' (by simp [plain.2.1])
        scattered := by
          rw [round, scattered, ← here]
          exact books.scattered
        leads := fun at' => absurd at' (by simp [plain.2.2.1]) }
    · exact Nat.le_refl _
    · intro b' _
      rw [left_of_free free]
      exact barrier.waits _ _ all _ (List.mem_map_of_mem (List.mem_finRange b'))
    · exact fun _ _ => rfl
    · apply lead_put (inv.group g) me
      rintro rfl
      have lead := (inv.group g).lead
      constructor
      · rw [round, drawn, ← here]
        exact lead.length
      · intro t at'
        exact absurd at' (plain.2.2.2.2 t)
      · intro _ two
        exact lead.word (by simp [here]) two
    · exact inv.shared.pass me s.sched (by rw [here]; rfl) (Or.inl plain.2.2.2.1) rfl rfl
  next => cases moved

theorem published_at {tickets : List Nat} (group : GroupInv s tickets g)
    (here : (s.block g b).pc = .reload) :
    tickets[(s.block g b).round + 1]? = some (s.sched.published g) := by
  have calls := (group.block b).calls
  have leadCalls := (group.block l.leader).calls
  have behind := group.meet b l.leader
  have ahead := group.meet l.leader b
  rw [left_of_free (by simp [here])] at behind
  simp only [here, Pc.offset] at calls
  have length := group.lead.length
  have settled : tickets.length = (s.block g b).round + 2 ∧
      ∀ t, (s.block g l.leader).pc ≠ .publish t := by
    cases leadAt : (s.block g l.leader).pc with
    | stage k =>
      rw [left_of_free (by simp [leadAt])] at ahead
      simp only [leadAt, Pc.offset, Pc.drawn, Bool.false_eq_true, if_false] at leadCalls length
      have small : k.number ≤ 4 := by cases k <;> decide
      exact ⟨by omega, by simp⟩
    | barrier k =>
      simp only [Block.left, leadAt] at ahead
      cases k <;> simp only [leadAt, Pc.offset, Pc.drawn, Stage.number, Bool.false_eq_true,
        if_false, if_true] at leadCalls length <;> exact ⟨by omega, by simp⟩
    | _ =>
      rw [left_of_free (by simp [leadAt])] at ahead
      simp only [leadAt, Pc.offset, Pc.drawn, Bool.false_eq_true, if_false, if_true]
        at leadCalls length
      refine ⟨by omega, ?_⟩
      intro t
      first | exact Pc.noConfusion | omega
  have last := group.lead.word settled.2 (by omega)
  rw [List.getLast?_eq_getElem?, settled.1] at last
  exact last

/-- The next ticket is a later one, so the scan can go on where it stands. -/
theorem reload_kept (inv : Inv s held bound) (here : (s.block g b).pc = .reload)
    (moved : s.step barrier g b = some s') : Inv s' held bound := by
  have books := (inv.group g).block b
  have calls := books.calls
  simp only [here, Pc.offset] at calls
  obtain ⟨active, stop, assign⟩ := books.busy (by rw [here]; rfl)
  obtain ⟨inside, handled, index⟩ := active_index active
  have next := published_at (inv.group g) here
  have same := books.scattered
  simp only [here, Pc.scattered, if_true] at same
  simp only [State.step, here] at moved
  have moved := (Option.some.inj moved).symm
  subst moved
  let me : Block := { s.block g b with
    pc := .scan, ticket := s.sched.published g, expertIdx := (s.block g b).expertIdx + 1 }
  have round : me.round = (s.block g b).round + 1 := by
    apply round_of_calls
    simp only [me, Pc.offset]
    omega
  have later : (s.block g b).ticket < s.sched.published g := by
    obtain ⟨oldInside, oldAt⟩ := List.getElem?_eq_some_iff.mp books.ticket
    obtain ⟨newInside, newAt⟩ := List.getElem?_eq_some_iff.mp next
    have ordered := List.pairwise_iff_getElem.mp (inv.dealt.rising g) _ _ oldInside newInside
      (Nat.lt_succ_self _)
    rw [oldAt, newAt] at ordered
    exact ordered
  apply inv.stay me s.sched
  · exact {
      calls := by
        rw [round]
        simp only [me, Pc.offset]
        omega
      ticket := by
        rw [round]
        exact next
      earlier := by
        intro t member
        rw [round, List.take_add_one, books.ticket, List.mem_append] at member
        rcases member with old | own
        · exact books.earlier t old
        · have mine : t = (s.block g b).ticket := by simpa using own
          rw [mine]
          exact (l.active_lt_iff _).mpr ⟨_, active⟩
      scanning := by
        intro _
        have before := l.activeBefore_succ (s.block g b).expertIdx
        rw [handled, if_pos rfl, index] at before
        refine ⟨inside, stop, ?_, ?_⟩
        · exact assign.trans before.symm
        · simp only [me]
          omega
      busy := fun at' => absurd at' (by simp [me, Pc.busy])
      ended := fun at' => absurd at' (by simp [me, Pc.ended])
      scattered := by
        rw [round]
        exact same
      leads := fun at' => absurd at' (by simp [me, Pc.leads]) }
  · exact Nat.le_refl _
  · intro b' _
    have before := (inv.group g).meet b b'
    rw [left_of_free (by simp [here])] at before
    rw [left_of_free (by simp [me])]
    exact before
  · exact fun _ _ => rfl
  · apply lead_put (inv.group g) me
    rintro rfl
    have lead := (inv.group g).lead
    constructor
    · rw [round]
      simpa [me, here, Pc.drawn] using lead.length
    · intro t at'
      exact absurd at' (by simp [me])
    · intro _ two
      exact lead.word (by simp [here]) two
  · exact inv.shared.pass me s.sched (by rw [here]; rfl) (Or.inl rfl) rfl rfl

theorem retired_kept (inv : Inv s held bound) {pc : Pc} {sched : Sched}
    (here : (s.block g l.leader).pc.ended = true) (there : pc.ended = true)
    (words : sched.published = s.sched.published)
    (shared : Shared { s.put g l.leader { s.block g l.leader with pc := pc } with sched := sched }
      bound) :
    Inv { s.put g l.leader { s.block g l.leader with pc := pc } with sched := sched } held bound := by
  have books := (inv.group g).block l.leader
  let me : Block := { s.block g l.leader with pc := pc }
  have plain : ∀ {p : Pc}, p.ended = true → p.offset = 0 ∧ p.scattered = false ∧ p.drawn = false ∧
      p ≠ .scan ∧ p.busy = false ∧ (∀ k, p ≠ .barrier k) ∧ ∀ t, p ≠ .publish t := by
    intro p ended
    cases p <;> simp_all [Pc.ended, Pc.offset, Pc.scattered, Pc.drawn, Pc.busy]
  have calls := books.calls
  rw [(plain here).1] at calls
  have same := books.scattered
  rw [(plain here).2.1] at same
  have round : me.round = (s.block g l.leader).round :=
    round_of_calls (by rw [(plain there).1]; exact calls)
  apply inv.stay me sched
  · exact {
      calls := by
        rw [round, (plain there).1]
        exact calls
      ticket := round ▸ books.ticket
      earlier := round ▸ books.earlier
      scanning := fun at' => absurd at' (plain there).2.2.2.1
      busy := fun at' => absurd at' (by simp [me, (plain there).2.2.2.2.1])
      ended := fun _ => books.ended here
      scattered := by
        rw [round, (plain there).2.1]
        exact same
      leads := fun _ => rfl }
  · exact Nat.le_refl _
  · intro b' _
    have before := (inv.group g).meet l.leader b'
    rw [left_of_free (plain here).2.2.2.2.2.1] at before
    rw [left_of_free (plain there).2.2.2.2.2.1]
    exact before
  · intro g' _
    rw [words]
  · rw [put_own, words]
    have lead := (inv.group g).lead
    constructor
    · rw [round, (plain there).2.2.1, ← (plain here).2.2.1]
      exact lead.length
    · intro t at'
      exact absurd at' ((plain there).2.2.2.2.2.2 t)
    · intro _ two
      exact lead.word (plain here).2.2.2.2.2.2 two
  · exact shared

theorem retire_kept (inv : Inv s held bound) (here : (s.block g b).pc = .retire)
    (moved : s.step barrier g b = some s') : Inv s' held bound := by
  have books := (inv.group g).block b
  have leads : b = l.leader := leader_iff.mp (books.leads (by rw [here]; rfl))
  subst leads
  have working : (leadPc s g).working = true := by rw [leadPc, here]; rfl
  obtain ⟨gone, out, few, quiet, next, count⟩ := inv.shared.running_of_working working
  have fresh : g ∉ gone := by
    intro member
    have ended := (out g).mp member
    rw [leadPc, here] at ended
    cases ended
  simp only [State.step, here] at moved
  have moved := (Option.some.inj moved).symm
  subst moved
  apply retired_kept inv (by rw [here]; rfl)
  · split <;> rfl
  · rfl
  · have size := Finset.card_insert_of_notMem fresh
    by_cases last : s.sched.retired = l.numGroups - 1
    · apply Shared.closing g
      · rw [leadPc_put, if_pos rfl, if_pos last]
      · intro g' other
        rw [leadPc_put, if_neg other]
        have everyone : insert g gone = Finset.univ := by
          apply Finset.eq_univ_of_card
          rw [size, Fintype.card_fin]
          omega
        have member : g' ∈ insert g gone := by
          rw [everyone]
          exact Finset.mem_univ g'
        exact (out g').mp ((Finset.mem_insert.mp member).resolve_left other)
    · refine .running (insert g gone) ?_ (by omega) ?_ next ?_
      · intro g'
        rw [leadPc_put, Finset.mem_insert, out]
        by_cases same : g' = g
        · simp [same, last]
        · simp [same]
      · intro g'
        rw [leadPc_put]
        split
        next => simp
        next => exact quiet g'
      · simp only
        omega

theorem resetNext_kept (inv : Inv s held bound) (here : (s.block g b).pc = .resetNext)
    (moved : s.step barrier g b = some s') : Inv s' held bound := by
  have books := (inv.group g).block b
  have leads : b = l.leader := leader_iff.mp (books.leads (by rw [here]; rfl))
  subst leads
  have at' : leadPc s g = .resetNext := here
  simp only [State.step, here] at moved
  have moved := (Option.some.inj moved).symm
  subst moved
  apply retired_kept inv (by rw [here]; rfl)
  · rfl
  · rfl
  have rest : ∀ g', g' ≠ g → leadPc s g' = .done := by
    cases inv.shared with
    | running gone out few quiet next retired => exact absurd at' (quiet g).1
    | closing g₀ last rest =>
      have same : g = g₀ := by
        by_contra other
        rw [rest g other] at at'
        cases at'
      exact same ▸ rest
    | clearing g₀ last rest zero =>
      exfalso
      by_cases same : g = g₀
      · rw [same, last] at at'
        cases at'
      · rw [rest g same] at at'
        cases at'
    | closed all zero none =>
      rw [all g] at at'
      cases at'
  refine .clearing g ?_ ?_ rfl
  · rw [leadPc_put, if_pos rfl]
  · intro g' other
    rw [leadPc_put, if_neg other]
    exact rest g' other

theorem resetRetired_kept (inv : Inv s held bound) (here : (s.block g b).pc = .resetRetired)
    (moved : s.step barrier g b = some s') : Inv s' held bound := by
  have books := (inv.group g).block b
  have leads : b = l.leader := leader_iff.mp (books.leads (by rw [here]; rfl))
  subst leads
  have at' : leadPc s g = .resetRetired := here
  simp only [State.step, here] at moved
  have moved := (Option.some.inj moved).symm
  subst moved
  apply retired_kept inv (by rw [here]; rfl)
  · rfl
  · rfl
  have rest : (∀ g', g' ≠ g → leadPc s g' = .done) ∧ s.sched.next = 0 := by
    cases inv.shared with
    | running gone out few quiet next retired => exact absurd at' (quiet g).2
    | closing g₀ last rest =>
      exfalso
      by_cases same : g = g₀
      · rw [same, last] at at'
        cases at'
      · rw [rest g same] at at'
        cases at'
    | clearing g₀ last rest zero =>
      have same : g = g₀ := by
        by_contra other
        rw [rest g other] at at'
        cases at'
      exact ⟨same ▸ rest, zero⟩
    | closed all zero none =>
      rw [all g] at at'
      cases at'
  refine .closed ?_ rest.2 rfl
  intro g'
  rw [leadPc_put]
  split
  next => rfl
  next other => exact rest.1 g' other
end Places

theorem step_kept (inv : Inv s held bound) (moved : s.step barrier g b = some s') :
    ∃ held' bound', Inv s' held' bound' := by
  cases here : (s.block g b).pc with
  | scan => exact ⟨held, bound, scan_kept inv here moved⟩
  | stage k =>
    by_cases late : k = .hadDOut
    · subst late
      exact ⟨held, bound, scatter_kept inv here moved⟩
    · exact ⟨held, bound, stage_kept inv here late moved⟩
  | draw => exact ⟨_, _, draw_kept inv here moved⟩
  | publish t => exact ⟨held, bound, publish_kept inv here moved⟩
  | barrier k => exact ⟨held, bound, barrier_kept inv here moved⟩
  | reload => exact ⟨held, bound, reload_kept inv here moved⟩
  | retire => exact ⟨held, bound, retire_kept inv here moved⟩
  | resetNext => exact ⟨held, bound, resetNext_kept inv here moved⟩
  | resetRetired => exact ⟨held, bound, resetRetired_kept inv here moved⟩
  | done =>
    simp only [State.step, here] at moved
    cases moved

theorem start_inv {sched : Sched} (next : sched.next = 0) (retired : sched.retired = 0) :
    Inv (start l sched) (fun g => [g.val]) l.numGroups where
  dealt := dealt_start l.numGroups
  group := by
    intro g
    refine ⟨?_, ?_, ?_⟩
    · intro b
      exact {
        calls := by simp [start, Block.round, Pc.offset]
        ticket := by simp [start, Block.round, Pc.offset]
        earlier := by simp [start, Block.round, Pc.offset]
        scanning := fun _ => ⟨Nat.zero_le _, rfl, rfl, Nat.zero_le _⟩
        busy := fun at' => absurd at' (by simp [start, Pc.busy])
        ended := fun at' => absurd at' (by simp [start, Pc.ended])
        scattered := by simp [start, Block.round, Pc.offset, Pc.scattered]
        leads := fun at' => absurd at' (by simp [start, Pc.leads]) }
    · exact fun _ _ => Nat.zero_le _
    · constructor
      · simp [start, Block.round, Pc.offset, Pc.drawn]
      · intro t at'
        exact absurd at' (by simp [start])
      · intro _ two
        exact absurd two (by simp)
  shared := by
    refine .running ∅ ?_ (by simpa using l.groups_pos) ?_ ?_ ?_
    · intro g
      simp [leadPc, start]
    · intro g
      simp [leadPc, start]
    · simp [start, next]
    · simp [start, retired]

theorem run_kept (inv : Inv s held bound) (actors : List (Fin l.numGroups × Fin l.groupSize))
    (ran : s.run barrier actors = some s') : ∃ held' bound', Inv s' held' bound' := by
  induction actors generalizing s held bound with
  | nil =>
    have same : s = s' := by simpa [State.run] using ran
    exact ⟨held, bound, same ▸ inv⟩
  | cons actor rest ih =>
    simp only [State.run, List.foldlM_cons, Option.bind_eq_bind, Option.bind_eq_some_iff] at ran
    obtain ⟨middle, first, later⟩ := ran
    obtain ⟨held', bound', kept⟩ := step_kept inv first
    exact ih kept later
end ExpertTickets
