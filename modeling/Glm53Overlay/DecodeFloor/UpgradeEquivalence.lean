import Mathlib.Data.Finset.Card
import Glm53Overlay.DecodeFloor.HoldDeadline

/-!
The v3.1 helper against the retained v2 helper with aging off. The two keep their
stamps in different places, so the comparison is a lockstep simulation between the
dicts of v3.1 and the timestamps of v2. Objects that reject attributes are included as
long as v2 can use every object as a weak key of its own and the bounded map of v3.1 never
overflows.
-/
namespace DecodeFloorGate
open ReplayMachine

/-- Idents of the objects that live in the fallback maps, with the request id and the weak
    key each one has. Distinct live objects have distinct idents. -/
structure Registry where
  mapped : Finset Nat
  owner : Nat → String
  key : Nat → WeakKey
  apart : ∀ i ∈ mapped, ∀ j ∈ mapped, key i = key j → i = j

/-- An object outside the maps is looked up there too, once v2 has opened its own. -/
def Registry.Outside (g : Registry) (r : Request) : Prop :=
  r.storage.attributes = true ∧ r.ident ∉ g.mapped ∧
    (g.mapped.Nonempty → ∃ key, weakKey r = some key ∧ ∀ i ∈ g.mapped, g.key i ≠ key)

def Registry.Inside (g : Registry) (r : Request) : Prop :=
  r.storage.attributes = false ∧ r.ident ∈ g.mapped ∧ g.owner r.ident = r.requestId ∧
    weakKey r = some (g.key r.ident)

def Registry.Admits (g : Registry) (c : Call) : Prop := g.Outside c.current ∨ g.Inside c.current

def fallbackMap (w : World) : PyDict Nat (String × GateState) := w.fallback.getD PyDict.empty

def fallbackMapV2 (w : WorldV2) : PyDict WeakKey ℚ := w.fallback.getD PyDict.empty

def mapSeen (w : World) (i : Nat) : Option ℚ :=
  ((fallbackMap w).get i).bind fun e => e.2.firstSeen

def weakSeen (v : WorldV2) (r : Request) : Option ℚ := (weakKey r).bind (fallbackMapV2 v).get

structure Simulates (g : Registry) (w : World) (v : WorldV2) : Prop where
  on_object : ∀ i, seen (w.attrs i) = v.firstSeen i
  mapped_bare : ∀ i ∈ g.mapped, w.attrs i = none
  in_map : ∀ i ∈ g.mapped, mapSeen w i = (fallbackMapV2 v).get (g.key i)
  map_keys : ∀ i ∈ (fallbackMap w).keys, i ∈ g.mapped
  map_owner : ∀ i e, (fallbackMap w).get i = some e → e.1 = g.owner i
  weak_keys : ∀ key ∈ (fallbackMapV2 v).keys, ∃ i ∈ g.mapped, g.key i = key
  opened : v.fallback ≠ none → g.mapped.Nonempty

theorem simulates_empty (g : Registry) : Simulates g World.empty WorldV2.empty := by
  refine ⟨fun _ => rfl, fun _ _ => rfl, fun _ _ => rfl, ?_, ?_, ?_, fun opened => absurd rfl opened⟩
  · intro i member
    simp [fallbackMap, World.empty, PyDict.keys, PyDict.empty] at member
  · intro i e found
    cases found
  · intro key member
    simp [fallbackMapV2, WorldV2.empty, PyDict.keys, PyDict.empty] at member

theorem fallback_get_map (w : World) (r : Request) :
    fallbackGet w r =
      match (fallbackMap w).get r.ident with
      | none => (w, none)
      | some e =>
        if e.1 = r.requestId then (w, some e.2)
        else ({ w with fallback := some ((fallbackMap w).pop r.ident) }, none) := by
  unfold fallbackGet fallbackMap
  cases stored : w.fallback with
  | none => rfl
  | some m =>
    simp only [Option.getD_some]
    cases m.get r.ident <;> rfl

theorem gate_state_simulated {g : Registry} {w : World} {v : WorldV2} (sim : Simulates g w v)
    {c : Call} (ok : g.Admits c) :
    ∃ found, gateState w c.current = (w, found) ∧
      found = (w.attrs c.current.ident <|> ((fallbackMap w).get c.current.ident).map Prod.snd) := by
  unfold gateState
  cases attr : w.attrs c.current.ident with
  | some st => exact ⟨some st, rfl, rfl⟩
  | none =>
    rw [fallback_get_map]
    cases stored : (fallbackMap w).get c.current.ident with
    | none => exact ⟨none, rfl, rfl⟩
    | some e =>
      have owned := sim.map_owner _ e stored
      have inMap := sim.map_keys _ (PyDict.mem_keys_of_get stored)
      have named : g.owner c.current.ident = c.current.requestId := by
        rcases ok with ⟨_, out, _⟩ | ⟨_, _, named, _⟩
        · exact absurd inMap out
        · exact named
      exact ⟨some e.2, by simp [owned, named], rfl⟩

theorem weak_seen_outside {g : Registry} {w : World} {v : WorldV2} (sim : Simulates g w v)
    {r : Request} (ok : g.Outside r) : weakSeen v r = none := by
  unfold weakSeen
  cases keyed : weakKey r with
  | none => rfl
  | some key =>
    refine (PyDict.get_eq_none_iff _ _).mpr fun member => ?_
    obtain ⟨i, inside, same⟩ := sim.weak_keys key member
    obtain ⟨key', keyed', apart⟩ := ok.2.2 ⟨i, inside⟩
    rw [keyed, Option.some.injEq] at keyed'
    exact apart i inside (same.trans keyed')

theorem weak_seen_inside {g : Registry} {v : WorldV2} {r : Request} (ok : g.Inside r) :
    weakSeen v r = (fallbackMapV2 v).get (g.key r.ident) := by
  rw [weakSeen, ok.2.2.2]
  rfl

theorem stamp_simulated {g : Registry} {w : World} {v : WorldV2} (sim : Simulates g w v)
    {c : Call} (ok : g.Admits c) :
    seen (gateState w c.current).2 =
      (v.firstSeen c.current.ident <|> weakSeen v c.current) := by
  obtain ⟨found, looked, shape⟩ := gate_state_simulated sim ok
  rw [looked, shape, ← sim.on_object]
  rcases ok with out | inside
  · have absent : c.current.ident ∉ (fallbackMap w).keys := fun k => out.2.1 (sim.map_keys _ k)
    rw [weak_seen_outside sim out, (PyDict.get_eq_none_iff _ _).mpr absent]
    cases w.attrs c.current.ident with
    | none => rfl
    | some st => simp [seen]
  · rw [weak_seen_inside inside, ← sim.in_map _ inside.2.1, sim.mapped_bare _ inside.2.1, mapSeen]
    cases (fallbackMap w).get c.current.ident <;> rfl

def Stamped (r : Request) : Prop := r.storage.attributes = true ∨ weakKey r ≠ none

theorem admits_stamped {g : Registry} {c : Call} (ok : g.Admits c) : Stamped c.current := by
  rcases ok with out | inside
  · exact Or.inl out.1
  · exact Or.inr (by simp [inside.2.2.2])

theorem admits_keyed {g : Registry} {w : World} {v : WorldV2} (sim : Simulates g w v) {c : Call}
    (ok : g.Admits c) (opened : v.fallback ≠ none) : weakKey c.current ≠ none := by
  rcases ok with out | inside
  · obtain ⟨key, keyed, _⟩ := out.2.2 (sim.opened opened)
    simp [keyed]
  · simp [inside.2.2.2]

theorem first_seen_v2_ok (v : WorldV2) (now : ℚ) (r : Request)
    (keyed : v.fallback ≠ none → weakKey r ≠ none) :
    firstSeenV2 v now r =
      match v.firstSeen r.ident <|> weakSeen v r with
      | some first => (v, .ok first)
      | none => stampV2 v now r := by
  unfold firstSeenV2 weakSeen fallbackMapV2
  cases v.firstSeen r.ident with
  | some first => rfl
  | none =>
    cases opened : v.fallback with
    | none => cases weakKey r <;> rfl
    | some m =>
      obtain ⟨key, isKey⟩ := Option.ne_none_iff_exists'.mp (keyed (by simp [opened]))
      rw [isKey]
      rfl

theorem stamp_v2_ok (v : WorldV2) (now : ℚ) (r : Request) (usable : Stamped r) :
    (stampV2 v now r).2 = .ok now := by
  unfold stampV2
  split
  · rfl
  · rename_i rejects
    obtain ⟨key, isKey⟩ := Option.ne_none_iff_exists'.mp (usable.resolve_left rejects)
    rw [isKey]

theorem flat_cap (cfg : GateConfig) (flat : cfg.escalateMs = 0) (now lateAt : ℚ) :
    escalatedCap cfg now lateAt = cfg.lateCap := by
  simp [escalatedCap, flat]

theorem verdicts_agree {g : Registry} (cfg : GateConfig) (chunk : Option String)
    (flat : cfg.escalateMs = 0) {w : World} {v : WorldV2} (sim : Simulates g w v)
    {c : Call} (ok : g.Admits c) :
    Except.ok (mixedPrefillGate cfg chunk w c).2.1 = (mixedPrefillGateV2 cfg chunk v c).2 := by
  have stamp := stamp_simulated sim ok
  unfold mixedPrefillGate mixedPrefillGateV2
  by_cases idle : c.remaining ≤ 0
  · simp [idle]
  · simp only [idle, ↓reduceIte]
    by_cases waits : Waiting cfg (mixedPrefillPolicy chunk c.running c.current) c.remaining
    · obtain ⟨_, lateAt, answer⟩ := body_waiting cfg c.now _ _ c.computed
        (gateState w c.current).2 waits
      obtain ⟨cold, skip, deadline⟩ := waits
      have notWarm : ¬ c.remaining ≤ cfg.warmTokens := by omega
      have notForever : ¬ cfg.maxWaitMs ≤ 0 := by omega
      rw [answer, stamp]
      simp only [notWarm, ↓reduceIte, skip, Int.lt_irrefl, notForever, flat_cap cfg flat,
        first_seen_v2_ok v c.now c.current (admits_keyed sim ok)]
      have either : ∀ first : ℚ,
          (if (c.now - first) * 1000 < cfg.maxWaitMs then some 0
            else some (max (min cfg.lateCap c.remaining) 1)) =
          if (cfg.maxWaitMs : ℚ) ≤ (c.now - first) * 1000 then
            some (max (min cfg.lateCap c.remaining) 1) else some (0 : Int) := by
        intro first
        by_cases early : (c.now - first) * 1000 < cfg.maxWaitMs
        · simp [early, not_le.mpr early]
        · simp [early, not_lt.mp early]
      cases found : (v.firstSeen c.current.ident <|> weakSeen v c.current) with
      | some first => simp only [either, Except.map, Option.getD_some]
      | none =>
        simp only [either, stamp_v2_ok v c.now c.current (admits_stamped ok), Except.map,
          Option.getD_none]
    · have quiet := (body_not_waiting cfg c.now _ _ c.computed (gateState w c.current).2
        (policy_cases chunk _ _) waits).2
      rw [quiet]
      split
      · rfl
      · rename_i cold
        rcases policy_cases chunk c.running c.current with off | skip | ⟨cap, positive, asked⟩
        · simp [off]
        · have forever : cfg.maxWaitMs ≤ 0 := by
            by_contra deadline
            exact waits ⟨by omega, skip, by omega⟩
          simp [skip, forever]
        · simp [asked, positive]

def stampAfter (cfg : GateConfig) (chunk : Option String) (c : Call) (before : Option ℚ) :
    Option ℚ :=
  if 0 < c.remaining ∧ Waiting cfg (mixedPrefillPolicy chunk c.running c.current) c.remaining then
    some (before.getD c.now)
  else before

theorem body_stamp_after (cfg : GateConfig) (chunk : Option String) (c : Call)
    (found : Option GateState) (work : 0 < c.remaining) :
    seen (gateBody cfg c.now (mixedPrefillPolicy chunk c.running c.current) c.remaining
      c.computed found).state = stampAfter cfg chunk c (seen found) := by
  unfold stampAfter
  by_cases waits : Waiting cfg (mixedPrefillPolicy chunk c.running c.current) c.remaining
  · simpa [work, waits] using (body_waiting cfg c.now _ _ c.computed found waits).1
  · simpa [work, waits] using
      (body_not_waiting cfg c.now _ _ c.computed found (policy_cases chunk _ _) waits).1

theorem gate_v2_world (cfg : GateConfig) (chunk : Option String) (v : WorldV2) (c : Call) :
    (mixedPrefillGateV2 cfg chunk v c).1 =
      if 0 < c.remaining ∧ Waiting cfg (mixedPrefillPolicy chunk c.running c.current) c.remaining
      then (firstSeenV2 v c.now c.current).1 else v := by
  unfold mixedPrefillGateV2 Waiting
  by_cases idle : c.remaining ≤ 0
  · simp [idle, not_lt.mpr idle]
  · by_cases warm : c.remaining ≤ cfg.warmTokens
    · simp [idle, warm, not_lt.mpr warm]
    · rcases policy_cases chunk c.running c.current with off | skip | ⟨cap, positive, asked⟩
      · simp [idle, warm, off]
      · by_cases forever : cfg.maxWaitMs ≤ 0
        · simp [idle, warm, skip, forever, not_lt.mpr forever]
        · simp [idle, warm, skip, forever, not_le.mp idle, not_le.mp warm, not_le.mp forever]
      · have nonzero : cap ≠ 0 := by omega
        simp [idle, warm, asked, positive, nonzero]

theorem gate_v2_on_object {g : Registry} {w : World} {v : WorldV2} (sim : Simulates g w v)
    (cfg : GateConfig) (chunk : Option String) (c : Call) (out : g.Outside c.current) :
    (∀ j, (mixedPrefillGateV2 cfg chunk v c).1.firstSeen j =
      if j = c.current.ident then stampAfter cfg chunk c (v.firstSeen c.current.ident)
      else v.firstSeen j) ∧
    (mixedPrefillGateV2 cfg chunk v c).1.fallback = v.fallback := by
  rw [gate_v2_world, first_seen_v2_ok v c.now c.current (admits_keyed sim (Or.inl out)),
    weak_seen_outside sim out, stampAfter]
  split
  · cases found : v.firstSeen c.current.ident with
    | some first =>
      refine ⟨?_, rfl⟩
      intro j
      by_cases own : j = c.current.ident
      · simp [own, found]
      · simp [own]
    | none =>
      refine ⟨?_, by simp [stampV2, out.1]⟩
      intro j
      by_cases own : j = c.current.ident
      · simp [own, stampV2, out.1]
      · simp [own, stampV2, out.1]
  · refine ⟨?_, rfl⟩
    intro j
    by_cases own : j = c.current.ident
    · simp [own]
    · simp [own]

theorem gate_v2_in_map {g : Registry} (cfg : GateConfig) (chunk : Option String) (v : WorldV2)
    (c : Call) (inside : g.Inside c.current) (bare : v.firstSeen c.current.ident = none) :
    (∀ key, (fallbackMapV2 (mixedPrefillGateV2 cfg chunk v c).1).get key =
      if key = g.key c.current.ident then
        stampAfter cfg chunk c ((fallbackMapV2 v).get (g.key c.current.ident))
      else (fallbackMapV2 v).get key) ∧
    (mixedPrefillGateV2 cfg chunk v c).1.firstSeen = v.firstSeen := by
  have looked : weakSeen v c.current = (fallbackMapV2 v).get (g.key c.current.ident) :=
    weak_seen_inside inside
  obtain ⟨kind, _, _, isKey⟩ := inside
  rw [gate_v2_world, first_seen_v2_ok v c.now c.current (by simp [isKey]), bare, looked,
    stampAfter]
  split
  · cases found : (fallbackMapV2 v).get (g.key c.current.ident) with
    | some first =>
      refine ⟨?_, by simp⟩
      intro key
      by_cases own : key = g.key c.current.ident
      · simp [own, found]
      · simp [own]
    | none =>
      refine ⟨?_, by simp [stampV2, kind, isKey]⟩
      intro key
      by_cases own : key = g.key c.current.ident
      · simp [own, stampV2, kind, isKey, fallbackMapV2]
      · simp [own, stampV2, kind, isKey, fallbackMapV2, PyDict.get_set_other _ _ own]
  · refine ⟨?_, rfl⟩
    intro key
    by_cases own : key = g.key c.current.ident
    · simp [own]
    · simp [own]

theorem simulates_set_attr {g : Registry} {w : World} {v v' : WorldV2} (sim : Simulates g w v)
    (r : Request) (st : GateState) (out : r.ident ∉ g.mapped)
    (onObject : ∀ j, v'.firstSeen j = if j = r.ident then st.firstSeen else v.firstSeen j)
    (maps : v'.fallback = v.fallback) : Simulates g (setAttr w r st) v' := by
  have sameMap : fallbackMapV2 v' = fallbackMapV2 v := by rw [fallbackMapV2, maps, fallbackMapV2]
  refine ⟨?_, ?_, ?_, sim.map_keys, sim.map_owner, ?_, ?_⟩
  · intro j
    rw [onObject]
    by_cases own : j = r.ident
    · simp [own, setAttr, seen]
    · simpa [own, setAttr] using sim.on_object j
  · intro j inside
    have own : j ≠ r.ident := by
      intro same
      exact out (same ▸ inside)
    simpa [setAttr, own] using sim.mapped_bare j inside
  · intro j inside
    rw [sameMap]
    exact sim.in_map j inside
  · rw [sameMap]
    exact sim.weak_keys
  · rw [maps]
    exact sim.opened

theorem simulates_set_map {g : Registry} {w w' : World} {v v' : WorldV2} (sim : Simulates g w v)
    (r : Request) (st : GateState) (ok : g.Inside r) (attrs : w'.attrs = w.attrs)
    (written : fallbackMap w' = (fallbackMap w).set r.ident (r.requestId, st))
    (objects : v'.firstSeen = v.firstSeen)
    (maps : ∀ key, (fallbackMapV2 v').get key =
      if key = g.key r.ident then st.firstSeen else (fallbackMapV2 v).get key) :
    Simulates g w' v' := by
  obtain ⟨_, inside, named, _⟩ := ok
  refine ⟨?_, ?_, ?_, ?_, ?_, ?_, fun _ => ⟨_, inside⟩⟩
  · intro j
    rw [attrs, objects]
    exact sim.on_object j
  · intro j member
    rw [attrs]
    exact sim.mapped_bare j member
  · intro j member
    rw [maps, mapSeen, written]
    by_cases own : j = r.ident
    · simp [own]
    · have apart : g.key j ≠ g.key r.ident := fun same => own (g.apart j member _ inside same)
      simpa [apart, PyDict.get_set_other _ _ own, mapSeen] using sim.in_map j member
  · intro j member
    rw [written, PyDict.mem_keys_set] at member
    rcases member with old | same
    · exact sim.map_keys j old
    · exact same ▸ inside
  · intro j e found
    rw [written] at found
    by_cases own : j = r.ident
    · subst own
      rw [PyDict.get_set_same, Option.some.injEq] at found
      rw [← found, named]
    · rw [PyDict.get_set_other _ _ own] at found
      exact sim.map_owner j e found
  · intro key member
    by_cases own : key = g.key r.ident
    · exact ⟨_, inside, own.symm⟩
    · apply sim.weak_keys
      by_contra absent
      have gone := maps key
      rw [if_neg own, (PyDict.get_eq_none_iff _ _).mpr absent, PyDict.get_eq_none_iff] at gone
      exact gone member

theorem map_has_room {g : Registry} {w : World} {v : WorldV2} (sim : Simulates g w v)
    (room : g.mapped.card ≤ fallbackLimit) {i : Nat} (inside : i ∈ g.mapped)
    (absent : i ∉ (fallbackMap w).keys) : (fallbackMap w).size < fallbackLimit := by
  have distinct : (i :: (fallbackMap w).keys).Nodup :=
    List.nodup_cons.mpr ⟨absent, (fallbackMap w).distinct⟩
  have inRegistry : (i :: (fallbackMap w).keys).toFinset ⊆ g.mapped := by
    intro j member
    rw [List.mem_toFinset, List.mem_cons] at member
    rcases member with same | old
    · exact same ▸ inside
    · exact sim.map_keys j old
  have count := Finset.card_le_card inRegistry
  rw [List.toFinset_card_of_nodup distinct, List.length_cons, PyDict.keys_length] at count
  omega

theorem fallback_put_map (w : World) (r : Request) (st : GateState)
    (room : (fallbackMap w).size < fallbackLimit) :
    fallbackMap (fallbackPut w r st) = (fallbackMap w).set r.ident (r.requestId, st) := by
  have fits : ¬ fallbackLimit ≤ (w.fallback.getD PyDict.empty).size := not_le.mpr room
  simp only [fallbackPut, fits, ↓reduceIte]
  rfl

theorem update_state_map (w : World) (r : Request) (st : GateState)
    (bare : w.attrs r.ident = none) (present : r.ident ∈ (fallbackMap w).keys) :
    fallbackMap (updateState w r st) = (fallbackMap w).set r.ident (r.requestId, st) := by
  unfold updateState
  rw [bare]
  cases stored : w.fallback with
  | none => simp [fallbackMap, stored, PyDict.keys, PyDict.empty] at present
  | some m => simp [fallbackMap, stored]

theorem body_state_none (cfg : GateConfig) (now : ℚ) (policy : Option Int)
    (remaining computed : Int) (found : Option GateState)
    (state : (gateBody cfg now policy remaining computed found).state = none) : found = none := by
  by_contra some'
  obtain ⟨st, same⟩ := Option.ne_none_iff_exists'.mp some'
  rw [same] at state
  exact body_state_some cfg _ _ _ _ st state

theorem simulates_save_attribute {g : Registry} {w : World} {v v' : WorldV2}
    (sim : Simulates g w v) (r : Request) (ok : g.Outside r) (found : Option GateState)
    (st : GateState) (attr : found = w.attrs r.ident)
    (objects : ∀ j, v'.firstSeen j = if j = r.ident then st.firstSeen else v.firstSeen j)
    (maps : v'.fallback = v.fallback) : Simulates g (saveState w r found (some st)) v' := by
  have written : saveState w r found (some st) = setAttr w r st := by
    cases found with
    | none => simp [saveState, createState, ok.1]
    | some old => simp [saveState, updateState, ← attr]
  rw [written]
  exact simulates_set_attr sim r st ok.2.1 objects maps

theorem simulates_save_mapped {g : Registry} (room : g.mapped.card ≤ fallbackLimit) {w : World}
    {v v' : WorldV2} (sim : Simulates g w v) (r : Request) (ok : g.Inside r)
    (found : Option GateState) (st : GateState)
    (fromMap : found = ((fallbackMap w).get r.ident).map Prod.snd)
    (objects : v'.firstSeen = v.firstSeen)
    (maps : ∀ key, (fallbackMapV2 v').get key =
      if key = g.key r.ident then st.firstSeen else (fallbackMapV2 v).get key) :
    Simulates g (saveState w r found (some st)) v' := by
  have inside := ok.2.1
  have bareAttr := sim.mapped_bare _ inside
  cases found with
  | none =>
    have absent : r.ident ∉ (fallbackMap w).keys := by
      rw [← PyDict.get_eq_none_iff]
      exact Option.map_eq_none_iff.mp fromMap.symm
    have written := fallback_put_map w r st (map_has_room sim room inside absent)
    simp only [saveState, createState, ok.1, Bool.false_eq_true, ↓reduceIte]
    exact simulates_set_map sim r st ok rfl written objects maps
  | some old =>
    have present : r.ident ∈ (fallbackMap w).keys := by
      obtain ⟨e, stored, _⟩ := Option.map_eq_some_iff.mp fromMap.symm
      exact PyDict.mem_keys_of_get stored
    have written := update_state_map w r st bareAttr present
    simp only [saveState]
    refine simulates_set_map sim r st ok ?_ written objects maps
    simp [updateState, bareAttr]

theorem gate_v2_unstamped (cfg : GateConfig) (chunk : Option String) (v : WorldV2) (c : Call)
    (found : Option GateState) (work : 0 < c.remaining)
    (stateless : (gateBody cfg c.now (mixedPrefillPolicy chunk c.running c.current) c.remaining
      c.computed found).state = none) : (mixedPrefillGateV2 cfg chunk v c).1 = v := by
  have after := body_stamp_after cfg chunk c found work
  rw [stateless, stampAfter] at after
  rw [gate_v2_world]
  split at after
  · cases after
  · rename_i passes
    rw [if_neg passes]

theorem simulates_step {g : Registry} (room : g.mapped.card ≤ fallbackLimit) (cfg : GateConfig)
    (chunk : Option String) {w : World} {v : WorldV2} (sim : Simulates g w v) {c : Call}
    (ok : g.Admits c) :
    Simulates g (mixedPrefillGate cfg chunk w c).1 (mixedPrefillGateV2 cfg chunk v c).1 := by
  by_cases work : 0 < c.remaining
  · obtain ⟨found, looked, shape⟩ := gate_state_simulated sim ok
    have busy : ¬ c.remaining ≤ 0 := by omega
    have stamped := body_stamp_after cfg chunk c found work
    simp only [mixedPrefillGate, busy, ↓reduceIte, looked]
    cases after : (gateBody cfg c.now (mixedPrefillPolicy chunk c.running c.current) c.remaining
        c.computed found).state with
    | none =>
      rw [gate_v2_unstamped cfg chunk v c found work after, body_state_none _ _ _ _ _ _ after]
      exact sim
    | some st =>
      rw [after] at stamped
      rcases ok with out | inside
      · have absent : c.current.ident ∉ (fallbackMap w).keys :=
          fun k => out.2.1 (sim.map_keys _ k)
        have missing := (PyDict.get_eq_none_iff _ _).mpr absent
        have attr : found = w.attrs c.current.ident := by
          rw [shape, missing]
          cases w.attrs c.current.ident <;> rfl
        obtain ⟨objects, maps⟩ := gate_v2_on_object sim cfg chunk c out
        rw [← sim.on_object, ← attr, ← stamped] at objects
        exact simulates_save_attribute sim c.current out found st attr objects maps
      · have bareAttr := sim.mapped_bare _ inside.2.1
        have unstamped : v.firstSeen c.current.ident = none := by
          rw [← sim.on_object, bareAttr]
          rfl
        have fromMap : found = ((fallbackMap w).get c.current.ident).map Prod.snd := by
          rw [shape, bareAttr]
          rfl
        have stampOld : seen found = (fallbackMapV2 v).get (g.key c.current.ident) := by
          rw [← sim.in_map _ inside.2.1, fromMap, mapSeen]
          cases (fallbackMap w).get c.current.ident <;> rfl
        obtain ⟨maps, objects⟩ := gate_v2_in_map cfg chunk v c inside unstamped
        rw [← stampOld, ← stamped] at maps
        exact simulates_save_mapped room sim c.current inside found st fromMap objects maps
  · have idle : c.remaining ≤ 0 := by omega
    simpa [mixedPrefillGate, mixedPrefillGateV2, idle] using sim

def mappedIdents (calls : List Call) : Finset Nat :=
  ((calls.filter fun c => c.current.storage.attributes = false).map
    fun c => c.current.ident).toFinset

/-- An ident names one object throughout the trace, whose request id and class stay. -/
def SameObjects (calls : List Call) : Prop :=
  ∀ a ∈ calls, ∀ b ∈ calls, a.current.ident = b.current.ident →
    a.current.requestId = b.current.requestId ∧ a.current.storage = b.current.storage

/-- Every object takes an attribute, or every object can be weakly referenced and hashed and
    equals no other one. -/
def Stampable (calls : List Call) : Prop :=
  (∀ c ∈ calls, c.current.storage.attributes = true) ∨
    (∀ c ∈ calls, weakKey c.current ≠ none) ∧
      ∀ a ∈ calls, ∀ b ∈ calls, weakKey a.current = weakKey b.current →
        a.current.ident = b.current.ident

def requestOf (calls : List Call) (i : Nat) : Option Request :=
  (calls.find? fun c => c.current.ident = i).map Call.current

theorem mem_mapped {calls : List Call} (i : Nat) : i ∈ mappedIdents calls ↔
    ∃ c ∈ calls, c.current.storage.attributes = false ∧ c.current.ident = i := by
  simp [mappedIdents, and_assoc]

theorem request_of {calls : List Call} {c : Call} (member : c ∈ calls) :
    ∃ d ∈ calls, d.current.ident = c.current.ident ∧
      requestOf calls c.current.ident = some d.current := by
  unfold requestOf
  cases found : calls.find? fun d => d.current.ident = c.current.ident with
  | none =>
    have never := List.find?_eq_none.mp found c member
    simp at never
  | some d =>
    have same := List.find?_some found
    simp only [decide_eq_true_eq] at same
    exact ⟨d, List.mem_of_find?_eq_some found, same, rfl⟩

def keyOf (calls : List Call) (i : Nat) : WeakKey :=
  ((requestOf calls i).bind weakKey).getD (.object i)

theorem weak_key_same {calls : List Call} (objects : SameObjects calls) {a b : Call}
    (inA : a ∈ calls) (inB : b ∈ calls) (same : a.current.ident = b.current.ident) :
    weakKey a.current = weakKey b.current := by
  simp [weakKey, same, (objects a inA b inB same).2]

theorem key_of {calls : List Call} (objects : SameObjects calls) {c : Call} (member : c ∈ calls)
    (keyed : weakKey c.current ≠ none) :
    weakKey c.current = some (keyOf calls c.current.ident) := by
  obtain ⟨d, inside, same, found⟩ := request_of member
  obtain ⟨key, isKey⟩ := Option.ne_none_iff_exists'.mp keyed
  have other : weakKey d.current = some key := by
    rw [weak_key_same objects inside member same, isKey]
  simp [keyOf, found, other, isKey]

theorem keys_apart {calls : List Call} (objects : SameObjects calls)
    (stampable : Stampable calls) : ∀ i ∈ mappedIdents calls, ∀ j ∈ mappedIdents calls,
      keyOf calls i = keyOf calls j → i = j := by
  intro i memI j memJ same
  obtain ⟨a, inA, rejects, rfl⟩ := (mem_mapped i).mp memI
  obtain ⟨b, inB, _, rfl⟩ := (mem_mapped j).mp memJ
  rcases stampable with all | ⟨keyed, apart⟩
  · rw [all a inA] at rejects
    cases rejects
  · apply apart a inA b inB
    rw [key_of objects inA (keyed a inA), key_of objects inB (keyed b inB), same]

def registryOf (calls : List Call) (objects : SameObjects calls) (stampable : Stampable calls) :
    Registry where
  mapped := mappedIdents calls
  owner i := ((requestOf calls i).map Request.requestId).getD ""
  key := keyOf calls
  apart := keys_apart objects stampable

theorem registry_outside {calls : List Call} (objects : SameObjects calls)
    (stampable : Stampable calls) {c : Call} (member : c ∈ calls)
    (kind : c.current.storage.attributes = true) :
    (registryOf calls objects stampable).Outside c.current := by
  have unmapped : c.current.ident ∉ mappedIdents calls := by
    intro mapped
    obtain ⟨d, inside, rejects, same⟩ := (mem_mapped _).mp mapped
    rw [(objects d inside c member same).2, kind] at rejects
    cases rejects
  refine ⟨kind, unmapped, ?_⟩
  rintro ⟨i, mapped⟩
  rcases stampable with all | ⟨keyed, apart⟩
  · obtain ⟨d, inside, rejects, _⟩ := (mem_mapped i).mp mapped
    rw [all d inside] at rejects
    cases rejects
  · refine ⟨_, key_of objects member (keyed c member), fun j inMap same => ?_⟩
    obtain ⟨d, inside, _, rfl⟩ := (mem_mapped j).mp inMap
    have clash := apart d inside c member (by
      rw [key_of objects inside (keyed d inside), key_of objects member (keyed c member)]
      exact congrArg some same)
    exact unmapped (clash ▸ inMap)

theorem registry_inside {calls : List Call} (objects : SameObjects calls)
    (stampable : Stampable calls) {c : Call} (member : c ∈ calls)
    (kind : c.current.storage.attributes = false) :
    (registryOf calls objects stampable).Inside c.current := by
  have keyed : weakKey c.current ≠ none := by
    rcases stampable with all | ⟨keyed, _⟩
    · rw [all c member] at kind
      cases kind
    · exact keyed c member
  refine ⟨kind, (mem_mapped _).mpr ⟨c, member, kind, rfl⟩, ?_, key_of objects member keyed⟩
  obtain ⟨d, inside, same, found⟩ := request_of member
  simp [registryOf, found, (objects d inside c member same).1]

theorem registry_admits {calls : List Call} (objects : SameObjects calls)
    (stampable : Stampable calls) :
    ∀ c ∈ calls, (registryOf calls objects stampable).Admits c := by
  intro c member
  cases kind : c.current.storage.attributes with
  | true => exact Or.inl (registry_outside objects stampable member kind)
  | false => exact Or.inr (registry_inside objects stampable member kind)

def coldOf (ident : Nat) (requestId : String) (storage : Storage) : Request :=
  ⟨ident, requestId, storage, 100000, 100000, 0⟩

/-- An object that only v2's dictionary and v3.1's map can hold, one that takes attributes but
    has a value for a hash, and the first again when it is late. -/
def weakTrace : List Call :=
  [⟨0, [decodingPeer], coldOf 2 "cold" ⟨false, true, .byIdentity⟩, 0⟩,
   ⟨1, [decodingPeer], coldOf 3 "other" ⟨true, true, .byValue 7⟩, 0⟩,
   ⟨2, [decodingPeer], coldOf 2 "cold" ⟨false, true, .byIdentity⟩, 0⟩]

end DecodeFloorGate
