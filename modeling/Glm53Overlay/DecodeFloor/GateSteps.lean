import Glm53Overlay.DecodeFloor.GateModel
import Glm53Overlay.Library.ReplayMachine

/-!
What one gate call can do, said once. The body either bypasses, follows an explicit
policy, or holds and ages the request; only the last branch writes the first-seen
stamp, and no branch removes it. World lemmas say which dict a call reads and writes.
-/
namespace DecodeFloorGate

theorem policy_cases (chunk : Option String) (running : List Request) (current : Request) :
    mixedPrefillPolicy chunk running current = none ∨
      mixedPrefillPolicy chunk running current = some 0 ∨
      ∃ cap, 0 < cap ∧ mixedPrefillPolicy chunk running current = some cap := by
  cases asked : mixedPrefillPolicy chunk running current with
  | none => exact Or.inl rfl
  | some cap =>
    have low := chunk_cap_nonneg ((policy_some_iff chunk running current cap).mp asked).1
    rcases Int.lt_or_eq_of_le low with positive | zero
    · exact Or.inr (Or.inr ⟨cap, positive, rfl⟩)
    · exact Or.inr (Or.inl (by rw [zero]))

@[simp] theorem set_capped_first_seen (now : ℚ) (active : Bool) (st : GateState) :
    (setCapped now active st).firstSeen = st.firstSeen := by
  unfold setCapped
  split
  · rfl
  · split
    · split <;> rfl
    · split <;> rfl

@[simp] theorem note_computed_first_seen (computed : Int) (st : GateState) :
    (noteComputed computed st).firstSeen = st.firstSeen := by
  unfold noteComputed
  cases st.lastComputed with
  | none => rfl
  | some last =>
    dsimp only
    split <;> rfl

@[simp] theorem finish_crawl_first_seen (now : ℚ) (st : GateState) :
    (finishCrawl now st).1.firstSeen = st.firstSeen := by
  unfold finishCrawl
  split
  · rfl
  · split
    · rfl
    · exact set_capped_first_seen now false st

@[simp] theorem stamp_first_seen (now : ℚ) (st : GateState) :
    (stampFirstSeen now st).firstSeen = some (st.firstSeen.getD now) := rfl

@[simp] theorem admit_late_first_seen (now waitedMs : ℚ) (remaining lateCap : Int)
    (st : GateState) :
    (admitLate now waitedMs remaining lateCap st).1.firstSeen = st.firstSeen := by
  unfold admitLate
  split <;> rfl

@[simp] theorem record_cap_first_seen (lateCap : Int) (st : GateState) :
    (recordCap lateCap st).1.firstSeen = st.firstSeen := by
  unfold recordCap
  split <;> rfl

theorem late_crawl_first_seen (cfg : GateConfig) (now waitedMs : ℚ) (remaining : Int)
    (st : GateState) :
    (lateCrawl cfg now waitedMs remaining st).state.bind GateState.firstSeen = st.firstSeen := by
  simp [lateCrawl]

def seen (found : Option GateState) : Option ℚ := found.bind GateState.firstSeen

theorem seen_note_computed (computed : Int) (found : Option GateState) :
    seen (found.map (noteComputed computed)) = seen found := by
  cases found with
  | none => rfl
  | some st => exact note_computed_first_seen computed st

theorem seen_getD_fresh (computed : Int) (found : Option GateState) :
    ((found.map (noteComputed computed)).getD
      { GateState.fresh with lastComputed := some computed }).firstSeen = seen found := by
  cases found with
  | none => rfl
  | some st => exact note_computed_first_seen computed st

/-- The one branch that stamps: a skip verdict, more than the warm window left, and a
    deadline configured. -/
def Waiting (cfg : GateConfig) (policy : Option Int) (remaining : Int) : Prop :=
  cfg.warmTokens < remaining ∧ policy = some 0 ∧ 0 < cfg.maxWaitMs

instance (cfg : GateConfig) (policy : Option Int) (remaining : Int) :
    Decidable (Waiting cfg policy remaining) := by
  unfold Waiting; infer_instance

theorem body_not_waiting (cfg : GateConfig) (now : ℚ) (policy : Option Int)
    (remaining computed : Int) (found : Option GateState)
    (shape : policy = none ∨ policy = some 0 ∨ ∃ cap, 0 < cap ∧ policy = some cap)
    (idle : ¬ Waiting cfg policy remaining) :
    seen (gateBody cfg now policy remaining computed found).state = seen found ∧
      (gateBody cfg now policy remaining computed found).verdict =
        if remaining ≤ cfg.warmTokens then none else policy := by
  unfold gateBody
  by_cases warm : remaining ≤ cfg.warmTokens
  · simp only [warm, ↓reduceIte, and_true]
    cases found <;> simp [seen]
  · simp only [warm, ↓reduceIte]
    rcases shape with off | skip | ⟨cap, positive, asked⟩
    · subst off
      cases found <;> simp [seen]
    · subst skip
      have forever : cfg.maxWaitMs ≤ 0 := by
        by_contra deadline
        exact idle ⟨by omega, rfl, by omega⟩
      simp only [Int.lt_irrefl, ↓reduceIte, forever]
      exact ⟨seen_note_computed computed found, trivial⟩
    · subst asked
      simp only [positive, ↓reduceIte]
      cases found <;> simp [seen]

theorem body_waiting (cfg : GateConfig) (now : ℚ) (policy : Option Int)
    (remaining computed : Int) (found : Option GateState)
    (waits : Waiting cfg policy remaining) :
    seen (gateBody cfg now policy remaining computed found).state =
        some ((seen found).getD now) ∧
      ∃ lateAt : ℚ, (gateBody cfg now policy remaining computed found).verdict =
        if (now - (seen found).getD now) * 1000 < cfg.maxWaitMs then some 0
        else some (max (min (escalatedCap cfg now lateAt) remaining) 1) := by
  obtain ⟨cold, skip, deadline⟩ := waits
  have notWarm : ¬ remaining ≤ cfg.warmTokens := by omega
  have notForever : ¬ cfg.maxWaitMs ≤ 0 := by omega
  subst skip
  unfold gateBody
  simp only [notWarm, ↓reduceIte, Int.lt_irrefl, notForever, stamp_first_seen, seen_getD_fresh,
    Option.getD_some]
  split
  · exact ⟨by simp [seen, seen_getD_fresh], 0, rfl⟩
  · refine ⟨?_, _, rfl⟩
    rw [seen, late_crawl_first_seen, stamp_first_seen, seen_getD_fresh]

theorem body_first_seen_kept (cfg : GateConfig) (now : ℚ) (policy : Option Int)
    (remaining computed : Int) (found : Option GateState) (f : ℚ)
    (shape : policy = none ∨ policy = some 0 ∨ ∃ cap, 0 < cap ∧ policy = some cap)
    (stamped : seen found = some f) :
    seen (gateBody cfg now policy remaining computed found).state = some f := by
  by_cases waits : Waiting cfg policy remaining
  · rw [(body_waiting cfg now policy remaining computed found waits).1, stamped]
    rfl
  · rw [(body_not_waiting cfg now policy remaining computed found shape waits).1, stamped]

theorem body_state_some (cfg : GateConfig) (now : ℚ) (policy : Option Int)
    (remaining computed : Int) (st : GateState) :
    (gateBody cfg now policy remaining computed (some st)).state ≠ none := by
  unfold gateBody
  simp only [Option.map_some, Option.getD_some]
  split
  · simp
  · split
    · simp
    · split
      · simp
      · split
        · simp
        · split <;> simp [lateCrawl]

theorem escalated_cap_bounds (cfg : GateConfig) (now lateAt : ℚ) :
    1 ≤ escalatedCap cfg now lateAt ∧ escalatedCap cfg now lateAt ≤ cfg.lateCapMax := by
  have base := cfg.cap_range
  have top := cfg.ceiling_range
  unfold escalatedCap
  split
  · have power : (1 : Int) ≤ 2 ^ (min ⌊(now - lateAt) * 1000 / cfg.escalateMs⌋ 8).toNat :=
      one_le_pow₀ (by decide)
    have grown : cfg.lateCap * 1 ≤
        cfg.lateCap * 2 ^ (min ⌊(now - lateAt) * 1000 / cfg.escalateMs⌋ 8).toNat :=
      Int.mul_le_mul_of_nonneg_left power (by omega)
    simp only
    omega
  · omega

def NoFallback (w : World) (i : Nat) : Prop :=
  ∀ m, w.fallback = some m → i ∉ m.keys

theorem fallback_get_absent (w : World) (r : Request) (absent : NoFallback w r.ident) :
    fallbackGet w r = (w, none) := by
  unfold fallbackGet
  cases stored : w.fallback with
  | none => rfl
  | some m => simp [(PyDict.get_eq_none_iff m r.ident).mpr (absent m stored)]

theorem gate_state_attribute (w : World) (r : Request) (absent : NoFallback w r.ident) :
    gateState w r = (w, w.attrs r.ident) := by
  unfold gateState
  cases found : w.attrs r.ident with
  | none => exact fallback_get_absent w r absent
  | some st => rfl

theorem gate_state_keeps_attrs (w : World) (r : Request) : (gateState w r).1.attrs = w.attrs := by
  unfold gateState fallbackGet
  split
  · rfl
  · split
    · rfl
    · split
      · rfl
      · split <;> rfl

theorem save_state_attrs_other (w : World) (r : Request) (found after : Option GateState)
    (j : Nat) (different : j ≠ r.ident) : (saveState w r found after).attrs j = w.attrs j := by
  unfold saveState updateState createState fallbackPut setAttr
  cases found <;> cases after
  · rfl
  · cases r.storage.attributes <;> simp [different]
  · rfl
  · cases w.attrs r.ident <;> simp [different]

theorem gate_attrs_other (cfg : GateConfig) (chunk : Option String) (w : World) (c : Call)
    (j : Nat) (different : j ≠ c.current.ident) :
    (mixedPrefillGate cfg chunk w c).1.attrs j = w.attrs j := by
  unfold mixedPrefillGate
  split
  · rfl
  · rw [save_state_attrs_other _ _ _ _ _ different, gate_state_keeps_attrs]

theorem fallback_get_keeps_absent (w : World) (r : Request) (i : Nat) (absent : NoFallback w i) :
    NoFallback (gateState w r).1 i := by
  unfold gateState fallbackGet
  split
  · exact absent
  · split
    · exact absent
    · rename_i m stored
      split
      · exact absent
      · split
        · exact absent
        · intro m' same
          simp only [Option.some.injEq] at same
          subst same
          intro member
          simp only [PyDict.keys, PyDict.pop, PyDict.filterKeys, List.mem_map,
            List.mem_filter] at member
          obtain ⟨e, ⟨kept, _⟩, key⟩ := member
          exact absent m stored (List.mem_map.mpr ⟨e, kept, key⟩)

theorem put_keeps_absent (w : World) (r : Request) (st : GateState) (i : Nat)
    (different : i ≠ r.ident) (absent : NoFallback w i) : NoFallback (fallbackPut w r st) i := by
  have start : i ∉ (w.fallback.getD PyDict.empty).keys := by
    cases stored : w.fallback with
    | none => simp [PyDict.keys, PyDict.empty]
    | some m => exact absent m stored
  intro m same
  simp only [fallbackPut, Option.some.injEq] at same
  subst same
  rw [PyDict.mem_keys_set]
  rintro (old | key)
  · split at old
    · simp only [PyDict.keys, PyDict.dropOldest, List.map_drop] at old
      exact start (List.mem_of_mem_drop old)
    · exact start old
  · exact different key

theorem save_state_keeps_absent (w : World) (r : Request) (found after : Option GateState)
    (i : Nat) (owner : i = r.ident → r.storage.attributes = true ∧ found = w.attrs r.ident)
    (absent : NoFallback w i) : NoFallback (saveState w r found after) i := by
  unfold saveState
  cases found with
  | none =>
    cases after with
    | none => exact absent
    | some st =>
      simp only [createState]
      by_cases own : i = r.ident
      · rw [if_pos (owner own).1]
        exact absent
      · split
        · exact absent
        · exact put_keeps_absent w r st i own absent
  | some old =>
    cases after with
    | none => exact absent
    | some st =>
      simp only [updateState]
      cases stored : w.attrs r.ident with
      | some _ => exact absent
      | none =>
        have own : i ≠ r.ident := by
          intro own
          have lookup := (owner own).2
          rw [stored] at lookup
          cases lookup
        intro m same
        simp only [Option.map_eq_some_iff] at same
        obtain ⟨before, held, changed⟩ := same
        subst changed
        rw [PyDict.mem_keys_set]
        rintro (old | key)
        · exact absent before held old
        · exact own key

theorem gate_keeps_no_fallback (cfg : GateConfig) (chunk : Option String) (w : World) (c : Call)
    (i : Nat) (owner : c.current.ident = i → c.current.storage.attributes = true)
    (absent : NoFallback w i) : NoFallback (mixedPrefillGate cfg chunk w c).1 i := by
  unfold mixedPrefillGate
  split
  · exact absent
  · apply save_state_keeps_absent
    · intro own
      subst own
      rw [gate_state_attribute w c.current absent]
      exact ⟨owner rfl, rfl⟩
    · exact fallback_get_keeps_absent w c.current i absent

theorem gate_attrs_own (cfg : GateConfig) (chunk : Option String) (w : World) (c : Call)
    (owner : c.current.storage.attributes = true) (absent : NoFallback w c.current.ident)
    (work : 0 < c.remaining) :
    (mixedPrefillGate cfg chunk w c).1.attrs c.current.ident =
      (gateBody cfg c.now (mixedPrefillPolicy chunk c.running c.current) c.remaining c.computed
        (w.attrs c.current.ident)).state := by
  have busy : ¬ c.remaining ≤ 0 := by omega
  unfold mixedPrefillGate
  simp only [busy, ↓reduceIte, gate_state_attribute w c.current absent]
  cases found : w.attrs c.current.ident with
  | none =>
    cases after : (gateBody cfg c.now (mixedPrefillPolicy chunk c.running c.current) c.remaining
        c.computed none).state with
    | none => simpa [saveState] using found
    | some st => simp [saveState, createState, owner, setAttr]
  | some old =>
    cases after : (gateBody cfg c.now (mixedPrefillPolicy chunk c.running c.current) c.remaining
        c.computed (some old)).state with
    | none => exact absurd after (body_state_some cfg _ _ _ _ old)
    | some st => simp [saveState, updateState, found, setAttr]

theorem gate_verdict_own (cfg : GateConfig) (chunk : Option String) (w : World) (c : Call)
    (absent : NoFallback w c.current.ident) (work : 0 < c.remaining) :
    (mixedPrefillGate cfg chunk w c).2.1 =
      (gateBody cfg c.now (mixedPrefillPolicy chunk c.running c.current) c.remaining c.computed
        (w.attrs c.current.ident)).verdict := by
  have busy : ¬ c.remaining ≤ 0 := by omega
  unfold mixedPrefillGate
  simp only [busy, ↓reduceIte, gate_state_attribute w c.current absent]

end DecodeFloorGate
