import Glm53Overlay.DecodeFloor.GateSteps

/-!
The hold deadline over whole call traces. Calls on other requests may be interleaved
anywhere; peers, counts and phases change freely between calls. The request object is
assumed to accept attributes, as the fallback map may forget a stamp when it is full.
-/
namespace DecodeFloorGate
open ReplayMachine

def verdicts (cfg : GateConfig) (chunk : Option String) (w : World) (calls : List Call) :
    List (Option Int) :=
  (outputs (mixedPrefillGate cfg chunk) w calls).map Prod.fst

def worldAfter (cfg : GateConfig) (chunk : Option String) (calls : List Call) : World :=
  final (mixedPrefillGate cfg chunk) World.empty calls

theorem verdict_at (cfg : GateConfig) (chunk : Option String) (calls : List Call) (k : Nat)
    (c : Call) (here : calls[k]? = some c) :
    (verdicts cfg chunk World.empty calls)[k]? =
      some (mixedPrefillGate cfg chunk (worldAfter cfg chunk (calls.take k)) c).2.1 := by
  simp [verdicts, worldAfter, outputs_at, here]

def Accepts (i : Nat) (c : Call) : Prop :=
  c.current.ident = i → c.current.storage.attributes = true

theorem gate_seen_kept (cfg : GateConfig) (chunk : Option String) (w : World) (c : Call)
    (i : Nat) (f : ℚ) (accepts : Accepts i c) (absent : NoFallback w i)
    (stamped : seen (w.attrs i) = some f) :
    seen ((mixedPrefillGate cfg chunk w c).1.attrs i) = some f := by
  by_cases own : c.current.ident = i
  · subst own
    by_cases work : 0 < c.remaining
    · rw [gate_attrs_own cfg chunk w c (accepts rfl) absent work]
      exact body_first_seen_kept cfg c.now _ _ _ _ f (policy_cases chunk _ _) stamped
    · have idle : c.remaining ≤ 0 := by omega
      simpa [mixedPrefillGate, idle] using stamped
  · rw [gate_attrs_other cfg chunk w c i (Ne.symm own)]
    exact stamped

theorem gate_seen_bounded (cfg : GateConfig) (chunk : Option String) (w : World) (c : Call)
    (i : Nat) (limit : ℚ) (accepts : Accepts i c) (absent : NoFallback w i)
    (clock : c.now ≤ limit) (bounded : ∀ f, seen (w.attrs i) = some f → f ≤ limit) :
    ∀ f, seen ((mixedPrefillGate cfg chunk w c).1.attrs i) = some f → f ≤ limit := by
  intro f stamped
  by_cases own : c.current.ident = i
  · subst own
    by_cases work : 0 < c.remaining
    · rw [gate_attrs_own cfg chunk w c (accepts rfl) absent work] at stamped
      by_cases waits : Waiting cfg (mixedPrefillPolicy chunk c.running c.current) c.remaining
      · rw [(body_waiting cfg c.now _ _ c.computed _ waits).1] at stamped
        simp only [Option.some.injEq] at stamped
        cases before : seen (w.attrs c.current.ident) with
        | none => simpa [before, ← stamped] using clock
        | some g =>
          rw [before] at stamped
          exact stamped ▸ bounded g before
      · rw [(body_not_waiting cfg c.now _ _ c.computed _ (policy_cases chunk _ _) waits).1]
          at stamped
        exact bounded f stamped
    · have idle : c.remaining ≤ 0 := by omega
      simp only [mixedPrefillGate, idle, ↓reduceIte] at stamped
      exact bounded f stamped
  · rw [gate_attrs_other cfg chunk w c i (Ne.symm own)] at stamped
    exact bounded f stamped

theorem run_no_fallback (cfg : GateConfig) (chunk : Option String) (i : Nat) (w : World)
    (calls : List Call) (accepts : ∀ c ∈ calls, Accepts i c) (start : NoFallback w i) :
    NoFallback (final (mixedPrefillGate cfg chunk) w calls) i :=
  final_invariant _ (fun w => NoFallback w i) (Accepts i)
    (fun w c ok absent => gate_keeps_no_fallback cfg chunk w c i ok absent) w calls accepts start

theorem empty_no_fallback (i : Nat) : NoFallback World.empty i := by
  intro m same
  cases same

theorem run_seen_kept (cfg : GateConfig) (chunk : Option String) (i : Nat) (f : ℚ) (w : World)
    (calls : List Call) (accepts : ∀ c ∈ calls, Accepts i c)
    (start : NoFallback w i ∧ seen (w.attrs i) = some f) :
    seen ((final (mixedPrefillGate cfg chunk) w calls).attrs i) = some f := by
  have both := final_invariant (mixedPrefillGate cfg chunk)
    (fun w => NoFallback w i ∧ seen (w.attrs i) = some f) (Accepts i)
    (fun w c ok inv => ⟨gate_keeps_no_fallback cfg chunk w c i ok inv.1,
      gate_seen_kept cfg chunk w c i f ok inv.1 inv.2⟩) w calls accepts start
  exact both.2

theorem run_seen_bounded (cfg : GateConfig) (chunk : Option String) (i : Nat) (limit : ℚ)
    (calls : List Call) (accepts : ∀ c ∈ calls, Accepts i c) (clock : ∀ c ∈ calls, c.now ≤ limit) :
    ∀ f, seen ((worldAfter cfg chunk calls).attrs i) = some f → f ≤ limit := by
  have both := final_invariant (mixedPrefillGate cfg chunk)
    (fun w => NoFallback w i ∧ ∀ f, seen (w.attrs i) = some f → f ≤ limit)
    (fun c => Accepts i c ∧ c.now ≤ limit)
    (fun w c ok inv => ⟨gate_keeps_no_fallback cfg chunk w c i ok.1 inv.1,
      gate_seen_bounded cfg chunk w c i limit ok.1 inv.1 ok.2 inv.2⟩)
    World.empty calls (fun c member => ⟨accepts c member, clock c member⟩)
    ⟨empty_no_fallback i, by intro f stamped; cases stamped⟩
  exact both.2

theorem held_call_waits (cfg : GateConfig) (chunk : Option String) (w : World) (c : Call)
    (deadline : 0 < cfg.maxWaitMs) (absent : NoFallback w c.current.ident)
    (held : (mixedPrefillGate cfg chunk w c).2.1 = some 0) :
    0 < c.remaining ∧
      Waiting cfg (mixedPrefillPolicy chunk c.running c.current) c.remaining := by
  by_cases work : 0 < c.remaining
  · refine ⟨work, ?_⟩
    rw [gate_verdict_own cfg chunk w c absent work] at held
    by_contra idle
    rw [(body_not_waiting cfg c.now _ _ c.computed _ (policy_cases chunk _ _) idle).2] at held
    split at held
    · cases held
    · exact idle ⟨by omega, held, deadline⟩
  · have idle : c.remaining ≤ 0 := by omega
    simp [mixedPrefillGate, idle] at held

theorem held_call_stamps (cfg : GateConfig) (chunk : Option String) (w : World) (c : Call)
    (deadline : 0 < cfg.maxWaitMs) (accepts : c.current.storage.attributes = true)
    (absent : NoFallback w c.current.ident)
    (older : ∀ f, seen (w.attrs c.current.ident) = some f → f ≤ c.now)
    (held : (mixedPrefillGate cfg chunk w c).2.1 = some 0) :
    ∃ f, seen ((mixedPrefillGate cfg chunk w c).1.attrs c.current.ident) = some f ∧
      f ≤ c.now := by
  obtain ⟨work, waits⟩ := held_call_waits cfg chunk w c deadline absent held
  rw [gate_attrs_own cfg chunk w c accepts absent work,
    (body_waiting cfg c.now _ _ c.computed _ waits).1]
  refine ⟨_, rfl, ?_⟩
  cases before : seen (w.attrs c.current.ident) with
  | none => exact le_refl c.now
  | some g => exact older g before

def Served (cfg : GateConfig) (remaining : Int) (verdict : Option Int) : Prop :=
  verdict = none ∨ ∃ cap, verdict = some cap ∧ 1 ≤ cap ∧ cap ≤ min remaining cfg.lateCapMax

theorem stamped_call_served (cfg : GateConfig) (chunk : Option String) (w : World) (c : Call)
    (f : ℚ) (deadline : 0 < cfg.maxWaitMs) (skip : chunkCap chunk = some 0)
    (absent : NoFallback w c.current.ident)
    (stamped : seen (w.attrs c.current.ident) = some f)
    (late : (cfg.maxWaitMs : ℚ) ≤ (c.now - f) * 1000) :
    Served cfg c.remaining (mixedPrefillGate cfg chunk w c).2.1 := by
  by_cases work : 0 < c.remaining
  · rw [gate_verdict_own cfg chunk w c absent work]
    by_cases waits : Waiting cfg (mixedPrefillPolicy chunk c.running c.current) c.remaining
    · obtain ⟨_, lateAt, answer⟩ := body_waiting cfg c.now _ _ c.computed
        (w.attrs c.current.ident) waits
      have passed : ¬ (c.now - f) * 1000 < cfg.maxWaitMs := not_lt.mpr late
      rw [answer, stamped, Option.getD_some]
      simp only [passed, ↓reduceIte]
      have bounds := escalated_cap_bounds cfg c.now lateAt
      exact Or.inr ⟨_, rfl, by omega, by omega⟩
    · rw [(body_not_waiting cfg c.now _ _ c.computed _ (policy_cases chunk _ _) waits).2]
      split
      · exact Or.inl rfl
      · rename_i cold
        -- without a deadline hit the policy itself answers, and it can only be silent
        cases asked : mixedPrefillPolicy chunk c.running c.current with
        | none => exact Or.inl rfl
        | some cap =>
          have same := ((policy_some_iff chunk c.running c.current cap).mp asked).1
          rw [skip, Option.some.injEq] at same
          subst same
          exact absurd ⟨by omega, asked, deadline⟩ waits
  · have idle : c.remaining ≤ 0 := by omega
    exact Or.inl (by simp [mixedPrefillGate, idle])

theorem clock_le {calls : List Call} (clock : calls.Pairwise fun a b => a.now ≤ b.now)
    {h k : Nat} (order : h ≤ k) {a b : Call} (atH : calls[h]? = some a)
    (atK : calls[k]? = some b) : a.now ≤ b.now := by
  obtain ⟨hl, rfl⟩ := List.getElem?_eq_some_iff.mp atH
  obtain ⟨kl, rfl⟩ := List.getElem?_eq_some_iff.mp atK
  rcases Nat.lt_or_eq_of_le order with before | same
  · exact List.pairwise_iff_getElem.mp clock h k hl kl before
  · subst same
    exact le_refl _

theorem take_through {calls : List Call} {h l : Nat} {a : Call} (atH : calls[h]? = some a)
    (before : h < l) : ∃ rest, calls.take l = calls.take h ++ a :: rest := by
  obtain ⟨hl, rfl⟩ := List.getElem?_eq_some_iff.mp atH
  refine ⟨(calls.drop (h + 1)).take (l - (h + 1)), ?_⟩
  have split : calls = calls.take h ++ calls[h] :: calls.drop (h + 1) := by
    rw [List.cons_getElem_drop_succ, List.take_append_drop]
  conv => lhs; rw [split]
  rw [List.take_append, List.length_take, Nat.min_eq_left (Nat.le_of_lt hl),
    List.take_take, Nat.min_eq_right (Nat.le_of_lt before)]
  obtain ⟨gap, rfl⟩ := Nat.exists_eq_add_of_lt before
  have distance : h + gap + 1 - h = gap + 1 := by omega
  have shorter : h + gap + 1 - (h + 1) = gap := by omega
  rw [distance, shorter, List.take_succ_cons]

/-- Once a call comes `maxWaitMs` after a call that returned 0, it and every later call
    on the request are served. Any zero-returning call may play the first one's part. -/
theorem hold_deadline_permanent (cfg : GateConfig) (chunk : Option String)
    (deadline : 0 < cfg.maxWaitMs) (skip : chunkCap chunk = some 0) (i : Nat)
    (calls : List Call) (accepts : ∀ c ∈ calls, Accepts i c)
    (clock : calls.Pairwise fun a b => a.now ≤ b.now)
    (h k l : Nat) (later : h ≤ k) (latest : k ≤ l) (a b c : Call)
    (atH : calls[h]? = some a) (atK : calls[k]? = some b) (atL : calls[l]? = some c)
    (onH : a.current.ident = i) (onL : c.current.ident = i)
    (held : (verdicts cfg chunk World.empty calls)[h]? = some (some 0))
    (late : (cfg.maxWaitMs : ℚ) ≤ (b.now - a.now) * 1000) :
    ∃ v, (verdicts cfg chunk World.empty calls)[l]? = some v ∧ Served cfg c.remaining v := by
  subst onH
  have strict : h < l := by
    rcases Nat.lt_or_eq_of_le (le_trans later latest) with before | same
    · exact before
    · have same' : h = k := by omega
      subst same'
      rw [atH, Option.some.injEq] at atK
      subst atK
      have positive : (0 : ℚ) < cfg.maxWaitMs := by exact_mod_cast deadline
      simp at late
      linarith
  obtain ⟨rest, through⟩ := take_through atH strict
  have acceptsTake : ∀ n, ∀ d ∈ calls.take n, Accepts a.current.ident d :=
    fun n d member => accepts d (List.mem_of_mem_take member)
  -- the state in which the zero verdict was given
  have before := run_no_fallback cfg chunk a.current.ident World.empty (calls.take h)
    (acceptsTake h) (empty_no_fallback _)
  have older := run_seen_bounded cfg chunk a.current.ident a.now (calls.take h) (acceptsTake h)
    (by
      intro d member
      obtain ⟨n, bound, rfl⟩ := List.getElem_of_mem member
      rw [List.length_take] at bound
      rw [List.getElem_take]
      exact clock_le clock (by omega) (List.getElem?_eq_getElem (by omega)) atH)
  rw [verdict_at cfg chunk calls h a atH, Option.some.injEq] at held
  have stores := accepts a (List.mem_of_getElem? atH) rfl
  obtain ⟨f, stamped, early⟩ := held_call_stamps cfg chunk _ a deadline stores before older held
  -- the stamp survives every call in between
  have acceptsRest : ∀ d ∈ rest, Accepts a.current.ident d := by
    intro d member
    exact acceptsTake l d (by rw [through]; simp [member])
  have world : worldAfter cfg chunk (calls.take l) = final (mixedPrefillGate cfg chunk)
      (mixedPrefillGate cfg chunk (worldAfter cfg chunk (calls.take h)) a).1 rest := by
    rw [worldAfter, through, final_append]
    rfl
  have absent := gate_keeps_no_fallback cfg chunk (worldAfter cfg chunk (calls.take h)) a
    a.current.ident (fun _ => stores) before
  have kept := run_seen_kept cfg chunk a.current.ident f _ rest acceptsRest ⟨absent, stamped⟩
  have clean := run_no_fallback cfg chunk a.current.ident _ rest acceptsRest absent
  rw [← world] at kept clean
  refine ⟨_, verdict_at cfg chunk calls l c atL, ?_⟩
  have ordered := clock_le clock latest atK atL
  apply stamped_call_served cfg chunk _ c f deadline skip
  · rw [onL]; exact clean
  · rw [onL]; exact kept
  · linarith

theorem hold_deadline_cold_trace :
    ∃ v, (verdicts defaultConfig none World.empty coldTrace)[2]? = some v ∧
      Served defaultConfig 99488 v :=
  hold_deadline_permanent defaultConfig none (by decide) (by decide) 2 coldTrace
    (by intro c member _; simp only [coldTrace, List.mem_cons, List.not_mem_nil, or_false] at member
        rcases member with rfl | rfl | rfl <;> rfl)
    (by norm_num [coldTrace])
    0 1 2 (by decide) (by decide)
    ⟨0, [decodingPeer], coldRequest, 0⟩ ⟨2, [decodingPeer], coldRequest, 0⟩
    ⟨3, [decodingPeer], coldRequest, 512⟩ rfl rfl rfl rfl rfl
    (by decide +kernel)
    (by
      have wait : defaultConfig.maxWaitMs = 1500 := by decide
      rw [wait]; norm_num)

end DecodeFloorGate
