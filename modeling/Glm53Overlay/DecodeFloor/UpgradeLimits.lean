import Glm53Overlay.DecodeFloor.UpgradeEquivalence

/-!
Where the two helpers part: objects that are no weak keys, objects that are equal, and more
objects than the bounded map of v3.1 holds, of which it forgets those that came first.
-/
namespace DecodeFloorGate
open ReplayMachine

def Agrees (cfg : GateConfig) (chunk : Option String) (calls : List Call) : Prop :=
  (verdicts cfg chunk World.empty calls).map Except.ok =
    outputs (mixedPrefillGateV2 cfg chunk) WorldV2.empty calls

def crowdRequest (i : Nat) : Request :=
  coldOf (i + 2) (String.ofList (List.replicate (i + 5) 'r')) ⟨false, true, .byIdentity⟩

def crowdCall (now : ℚ) (i : Nat) : Call := ⟨now, [decodingPeer], crowdRequest i, 0⟩

def heldFirst (now : ℚ) : GateState :=
  { GateState.fresh with firstSeen := some now, lastComputed := some 0 }

theorem crowd_policy (i : Nat) :
    mixedPrefillPolicy none [decodingPeer] (crowdRequest i) = some 0 := by
  refine (policy_some_iff _ _ _ _).mpr ⟨by decide, decodingPeer, List.mem_singleton_self _, ?_,
    by decide⟩
  have named : ¬ "peer" = String.ofList (List.replicate (i + 5) 'r') := by
    intro same
    have lengths := congrArg String.length same
    have long : (String.ofList (List.replicate (i + 5) 'r')).length = i + 5 := by simp
    have short : "peer".length = 4 := by decide
    omega
  simp [samePeer, decodingPeer, crowdRequest, coldOf, named]

theorem crowd_body (now : ℚ) :
    gateBody defaultConfig now (some 0) 100000 0 none = ⟨some (heldFirst now), some 0, []⟩ := by
  have warm : defaultConfig.warmTokens = 3584 := by decide
  have wait : defaultConfig.maxWaitMs = 1500 := by decide
  simp [gateBody, warm, wait, stampFirstSeen, heldFirst, GateState.fresh]

theorem crowd_step (now : ℚ) (i : Nat) (w : World) (bare : w.attrs = fun _ => none)
    (absent : i + 2 ∉ (fallbackMap w).keys) :
    mixedPrefillGate defaultConfig none w (crowdCall now i) =
      (fallbackPut w (crowdRequest i) (heldFirst now), some 0, []) := by
  have looked : gateState w (crowdRequest i) = (w, none) := by
    rw [gateState, bare, fallback_get_map]
    have missing : (fallbackMap w).get (crowdRequest i).ident = none :=
      (PyDict.get_eq_none_iff _ _).mpr absent
    rw [missing]
  have left : (crowdCall now i).remaining = 100000 := rfl
  have body : gateBody defaultConfig (crowdCall now i).now
      (mixedPrefillPolicy none (crowdCall now i).running (crowdCall now i).current) 100000
      (crowdCall now i).computed none = ⟨some (heldFirst now), some 0, []⟩ := by
    rw [show mixedPrefillPolicy none (crowdCall now i).running (crowdCall now i).current = some 0
      from crowd_policy i]
    exact crowd_body now
  have current : (crowdCall now i).current = crowdRequest i := rfl
  simp only [mixedPrefillGate, left, current, looked] at body ⊢
  rw [body]
  rfl

def crowd (n : Nat) : List Call := (List.range n).map (crowdCall 0)

theorem crowd_succ (n : Nat) : crowd (n + 1) = crowd n ++ [crowdCall 0 n] := by
  rw [crowd, List.range_succ, List.map_append]
  rfl

theorem crowd_map (n : Nat) (room : n ≤ fallbackLimit) :
    (final (mixedPrefillGate defaultConfig none) World.empty (crowd n)).attrs = (fun _ => none) ∧
    (fallbackMap (final (mixedPrefillGate defaultConfig none) World.empty (crowd n))).keys =
      (List.range n).map (· + 2) := by
  induction n with
  | zero => exact ⟨rfl, rfl⟩
  | succ n ih =>
    obtain ⟨bare, keys⟩ := ih (by omega)
    rw [crowd_succ, final_append, final_cons, final_nil]
    generalize final (mixedPrefillGate defaultConfig none) World.empty (crowd n) = w at bare keys ⊢
    have absent : (crowdRequest n).ident ∉ (fallbackMap w).keys := by
      rw [keys]
      simp [crowdRequest, coldOf]
    rw [crowd_step 0 n w bare absent, fallback_put_map]
    · refine ⟨bare, ?_⟩
      rw [PyDict.keys_set_absent _ _ absent, List.range_succ, List.map_append, keys]
      rfl
    · rw [← PyDict.keys_length, keys, List.length_map, List.length_range]
      omega

theorem fallback_put_full (w : World) (r : Request) (st : GateState)
    (full : fallbackLimit ≤ (fallbackMap w).size) :
    fallbackMap (fallbackPut w r st) =
      ((fallbackMap w).dropOldest fallbackDrop).set r.ident (r.requestId, st) := by
  have crowded : fallbackLimit ≤ (w.fallback.getD PyDict.empty).size := full
  simp only [fallbackPut, crowded, ↓reduceIte]
  rfl

theorem crowd_overflows {n : Nat} (full : n = fallbackLimit) :
    (final (mixedPrefillGate defaultConfig none) World.empty (crowd (n + 1))).attrs =
      (fun _ => none) ∧
    2 ∉ (fallbackMap (final (mixedPrefillGate defaultConfig none) World.empty
      (crowd (n + 1)))).keys := by
  obtain ⟨bare, keys⟩ := crowd_map n full.le
  rw [crowd_succ, final_append, final_cons, final_nil]
  generalize final (mixedPrefillGate defaultConfig none) World.empty (crowd n) = w at bare keys ⊢
  have absent : (crowdRequest n).ident ∉ (fallbackMap w).keys := by
    rw [keys]
    simp [crowdRequest, coldOf]
  rw [crowd_step 0 n w bare absent, fallback_put_full]
  · refine ⟨bare, fun member => ?_⟩
    rcases (PyDict.mem_keys_set _ _ _ _).mp member with kept | own
    · rw [PyDict.keys, PyDict.dropOldest, List.map_drop] at kept
      change 2 ∈ List.drop fallbackDrop (fallbackMap w).keys at kept
      rw [keys, ← List.map_drop, List.mem_map] at kept
      obtain ⟨i, later, same⟩ := kept
      rw [List.range_eq_range', List.drop_range', List.mem_range'_1] at later
      unfold fallbackDrop at later
      omega
    · have positive : 0 < n := by
        rw [full]
        decide
      have ident : (crowdRequest n).ident = n + 2 := rfl
      omega
  · rw [← PyDict.keys_length, keys, List.length_map, List.length_range, full]

def crowdRegistry (i : Nat) : Registry where
  mapped := {i + 2}
  owner _ := (crowdRequest i).requestId
  key := .object
  apart _ _ _ _ same := by
    cases same
    rfl

theorem crowd_inside (i : Nat) : (crowdRegistry i).Inside (crowdRequest i) :=
  ⟨rfl, Finset.mem_singleton_self _, rfl, rfl⟩

theorem crowd_waiting (now : ℚ) (i : Nat) (before : Option ℚ) :
    stampAfter defaultConfig none (crowdCall now i) before = some (before.getD now) := by
  have policy : mixedPrefillPolicy none (crowdCall now i).running (crowdCall now i).current =
      some 0 := crowd_policy i
  have waits : 0 < (100000 : Int) ∧ Waiting defaultConfig (some 0) 100000 := by decide
  rw [stampAfter, policy]
  exact if_pos waits

theorem crowd_stamped_v2 (n : Nat) :
    (final (mixedPrefillGateV2 defaultConfig none) WorldV2.empty (crowd (n + 1))).firstSeen =
      (fun _ => none) ∧
    (fallbackMapV2 (final (mixedPrefillGateV2 defaultConfig none) WorldV2.empty
      (crowd (n + 1)))).get (.object 2) = some 0 := by
  induction n with
  | zero =>
    obtain ⟨maps, objects⟩ := gate_v2_in_map defaultConfig none WorldV2.empty (crowdCall 0 0)
      (crowd_inside 0) rfl
    refine ⟨objects, (maps (.object 2)).trans ?_⟩
    have own : WeakKey.object 2 = (crowdRegistry 0).key (crowdCall 0 0).current.ident := rfl
    rw [if_pos own, crowd_waiting]
    rfl
  | succ n ih =>
    rw [crowd_succ, final_append, final_cons, final_nil]
    generalize final (mixedPrefillGateV2 defaultConfig none) WorldV2.empty (crowd (n + 1)) = v
      at ih ⊢
    obtain ⟨bare, stamped⟩ := ih
    obtain ⟨maps, objects⟩ := gate_v2_in_map defaultConfig none v (crowdCall 0 (n + 1))
      (crowd_inside (n + 1)) (congrFun bare _)
    refine ⟨objects.trans bare, (maps (.object 2)).trans ?_⟩
    have other : WeakKey.object 2 ≠
        (crowdRegistry (n + 1)).key (crowdCall 0 (n + 1)).current.ident := by
      intro same
      have idents : 2 = n + 1 + 2 := WeakKey.object.inj same
      omega
    rw [if_neg other, stamped]

theorem crowd_late_v2 {v : WorldV2} (bare : v.firstSeen = fun _ => none)
    (stamped : (fallbackMapV2 v).get (.object 2) = some 0) :
    (mixedPrefillGateV2 defaultConfig none v (crowdCall 2 0)).2 = .ok (some 512) := by
  have policy : mixedPrefillPolicy none (crowdCall 2 0).running (crowdCall 2 0).current =
      some 0 := crowd_policy 0
  have left : (crowdCall 2 0).remaining = 100000 := rfl
  have weak : weakSeen v (crowdCall 2 0).current = some 0 := stamped
  have cold : ¬ (100000 : Int) ≤ defaultConfig.warmTokens := by decide
  have waits : ¬ defaultConfig.maxWaitMs ≤ 0 := by decide
  have late : (defaultConfig.maxWaitMs : ℚ) ≤ (crowdCall 2 0).now * 1000 := by decide +kernel
  have cap : max (min defaultConfig.lateCap 100000) 1 = 512 := by decide
  have keyed : weakKey (crowdCall 2 0).current ≠ none := by decide
  rw [mixedPrefillGateV2, left, policy]
  simp only [cold, waits, ↓reduceIte, Int.reduceLE, Int.lt_irrefl,
    first_seen_v2_ok v (crowdCall 2 0).now (crowdCall 2 0).current (fun _ => keyed), bare, weak]
  simp [Except.map, late, cap]

/-- A full map forgets the object that came first, and v3.1 holds it again when it is late. -/
theorem crowd_differs {n : Nat} (full : n = fallbackLimit) :
    ¬ Agrees defaultConfig none (crowd (n + 1) ++ [crowdCall 2 0]) := by
  intro same
  have before : (crowd (n + 1)).length = n + 1 := by simp [crowd]
  have here : (crowd (n + 1) ++ [crowdCall 2 0])[n + 1]? = some (crowdCall 2 0) := by
    rw [List.getElem?_append_right before.le, before, Nat.sub_self]
    rfl
  have taken : (crowd (n + 1) ++ [crowdCall 2 0]).take (n + 1) = crowd (n + 1) := by
    rw [List.take_append_of_le_length before.ge, List.take_of_length_le before.le]
  obtain ⟨bare, forgotten⟩ := crowd_overflows full
  obtain ⟨bareV2, stamped⟩ := crowd_stamped_v2 n
  have held := verdict_at defaultConfig none (crowd (n + 1) ++ [crowdCall 2 0]) (n + 1) _ here
  rw [taken, worldAfter, crowd_step 2 0 _ bare forgotten] at held
  have answer := congrArg (·[n + 1]?) same
  simp only [List.getElem?_map, held, Option.map_some, outputs_at, here, taken,
    crowd_late_v2 bareV2 stamped] at answer
  simp at answer

def slottedTrace : List Call :=
  [⟨0, [decodingPeer], coldOf 2 "cold" ⟨false, false, .byIdentity⟩, 0⟩]

def unhashableTrace : List Call :=
  [⟨0, [decodingPeer], coldOf 2 "cold" ⟨false, true, .unhashable⟩, 0⟩]

/-- Two equal objects, of which the second comes when the first would be late. -/
def equalTrace : List Call :=
  [⟨0, [decodingPeer], coldOf 2 "cold" ⟨false, true, .byValue 7⟩, 0⟩,
   ⟨2, [decodingPeer], coldOf 3 "other" ⟨false, true, .byValue 7⟩, 0⟩]

end DecodeFloorGate
