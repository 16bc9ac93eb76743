import Glm53Overlay.SharedExperts.EarlyLaunch

/-!
Rounds on the two ubatch slots, in any interleaving. Each slot goes through idle, a launch
still to come, a launch in flight, and a finished launch; a step of one slot leaves what the
other slot relies on alone. From that the patched class reads what the stock class reads.
-/
namespace SharedExperts
variable {X Y : Type}

/-- One round: the input, and the order in which `forward` is called with the four values. -/
structure Round (X : Type) where
  input : X
  orders : List SharedExpertsOrder
  each : orders.Perm [.none, .noOverlap, .mkInternalOverlapped, .multiStreamOverlapped]

def Round.steps (r : Round X) : List (Step X) :=
  .sync r.input :: (r.orders.map (.forward r.input) ++ [.read])

def stepsOf (slot : Slot) (trace : List (Slot × Step X)) : List (Step X) :=
  (trace.filter fun entry => entry.1 = slot).map Prod.snd

def Interleaves (rounds : Slot → List (Round X)) (trace : List (Slot × Step X)) : Prop :=
  ∀ slot, stepsOf slot trace = (rounds slot).flatMap Round.steps

def Step.isRead : Step X → Bool
  | .read => true
  | _ => false

def readsOf (slot : Slot) (trace : List (Slot × Step X)) : Nat :=
  (stepsOf slot trace).countP Step.isRead

/-- What a step is meant to return to a slot that has ended `k` of its rounds. -/
def Step.value (layer : X → Y) (rounds : List (Round X)) (k : Nat) : Step X → Option Y
  | .read => rounds[k]?.map fun r => layer r.input
  | _ => none

def callsOf (slot : Slot) (s : State X Y) : List (Call X) :=
  s.calls.filter fun call => call.slot = slot

/-- The launch is on the main stream, or the main stream has waited past it. -/
def Joined (s : State X Y) (call : Call X) : Prop :=
  match call.launch with
  | .main => True
  | .aux position _ => position < s.mainWaited

section
variable (c : Overlap) (rows : X → Nat) (layer : X → Y)

structure Idle (s : State X Y) (slot : Slot) (rounds : List (Round X)) (k : Nat) : Prop where
  output : s.output slot = none
  pending : s.earlyPending slot = false
  calls : (callsOf slot s).map Call.input = (rounds.take k).map Round.input

inductive InRound (s : State X Y) (slot : Slot) (rounds : List (Round X)) (k : Nat)
    (r : Round X) (orders : List SharedExpertsOrder) : Prop
  | waiting (inForward : determineSharedExpertsOrder c (rows r.input) ≠ .multiStreamOverlapped)
      (toCome : determineSharedExpertsOrder c (rows r.input) ∈ orders)
      (idle : Idle s slot rounds k)
  | inFlight (early : determineSharedExpertsOrder c (rows r.input) = .multiStreamOverlapped)
      (toCome : determineSharedExpertsOrder c (rows r.input) ∈ orders)
      (output : s.output slot = some (layer r.input)) (pending : s.earlyPending slot = true)
      (calls : (callsOf slot s).map Call.input = (rounds.take (k + 1)).map Round.input)
      (call : Call X) (last : (callsOf slot s).getLast? = some call) (position waited : Nat)
      (launch : call.launch = .aux position waited)
      (recorded : position < s.earlyOutputReady slot)
  | finished (done : determineSharedExpertsOrder c (rows r.input) ∉ orders)
      (output : s.output slot = some (layer r.input)) (pending : s.earlyPending slot = false)
      (calls : (callsOf slot s).map Call.input = (rounds.take (k + 1)).map Round.input)
      (call : Call X) (last : (callsOf slot s).getLast? = some call) (joined : Joined s call)

def SlotInv (s : State X Y) (slot : Slot) (rounds : List (Round X)) (k : Nat)
    (todo : List (Step X)) : Prop :=
  (todo = (rounds.drop k).flatMap Round.steps ∧ Idle s slot rounds k) ∨
  ∃ r orders, rounds[k]? = some r ∧ orders.Nodup ∧
    todo = orders.map (.forward r.input) ++ .read :: (rounds.drop (k + 1)).flatMap Round.steps ∧
    InRound c rows layer s slot rounds k r orders

/-- What a slot relies on is left alone, or the main stream has waited for more. -/
structure Untouched (s s' : State X Y) (slot : Slot) : Prop where
  output : s'.output slot = s.output slot
  pending : s'.earlyPending slot = s.earlyPending slot
  recorded : s'.earlyOutputReady slot = s.earlyOutputReady slot
  calls : callsOf slot s' = callsOf slot s
  waited : s.mainWaited ≤ s'.mainWaited

end

theorem joined_mono {s s' : State X Y} (more : s.mainWaited ≤ s'.mainWaited) (call : Call X)
    (joined : Joined s call) : Joined s' call := by
  unfold Joined at joined ⊢
  split at joined
  · trivial
  · exact Nat.lt_of_lt_of_le joined more

theorem idle_untouched {s s' : State X Y} {slot : Slot} {rounds : List (Round X)} {k : Nat}
    (same : Untouched s s' slot) (idle : Idle s slot rounds k) : Idle s' slot rounds k :=
  ⟨same.output.trans idle.output, same.pending.trans idle.pending,
    (congrArg (List.map Call.input) same.calls).trans idle.calls⟩

theorem slotInv_untouched {c : Overlap} {rows : X → Nat} {layer : X → Y} {s s' : State X Y}
    {slot : Slot} {rounds : List (Round X)} {k : Nat} {todo : List (Step X)}
    (same : Untouched s s' slot) (inv : SlotInv c rows layer s slot rounds k todo) :
    SlotInv c rows layer s' slot rounds k todo := by
  rcases inv with ⟨steps, idle⟩ | ⟨r, orders, place, nodup, steps, inRound⟩
  · exact Or.inl ⟨steps, idle_untouched same idle⟩
  · refine Or.inr ⟨r, orders, place, nodup, steps, ?_⟩
    cases inRound with
    | waiting inForward toCome idle =>
      exact .waiting inForward toCome (idle_untouched same idle)
    | inFlight early toCome output pending calls call last position waited launch recorded =>
      exact .inFlight early toCome (same.output.trans output) (same.pending.trans pending)
        (by rw [same.calls, calls]) call (by rw [same.calls, last]) position waited launch
        (by rw [same.recorded]; exact recorded)
    | finished done output pending calls call last joined =>
      exact .finished done (same.output.trans output) (same.pending.trans pending)
        (by rw [same.calls, calls]) call (by rw [same.calls, last])
        (joined_mono same.waited call joined)

theorem callsOf_other {s : State X Y} {slot other : Slot} (x : X) (launch : Launch)
    (differ : other ≠ slot) :
    (s.calls ++ [Call.mk slot x launch]).filter (fun call => call.slot = other) =
      callsOf other s := by
  simp [callsOf, differ.symm]

theorem callsOf_own (s : State X Y) (slot : Slot) (x : X) (launch : Launch) :
    (s.calls ++ [Call.mk slot x launch]).filter (fun call => call.slot = slot) =
      callsOf slot s ++ [Call.mk slot x launch] := by
  simp [callsOf]

theorem runLayer_untouched {layer : X → Y} {s s' : State X Y} {slot other : Slot} {x : X}
    {order : SharedExpertsOrder} (differ : other ≠ slot)
    (step : s.runLayer layer slot x order = some s') : Untouched s s' other := by
  unfold State.runLayer at step
  split at step
  · cases step
  · split at step
    · cases step
      refine ⟨Function.update_of_ne differ _ _, rfl, rfl, callsOf_other _ _ differ, ?_⟩
      exact Nat.le_max_left _ _
    · cases step
      exact ⟨Function.update_of_ne differ _ _, rfl, rfl, callsOf_other _ _ differ, Nat.le_refl _⟩

theorem take_untouched {s s' : State X Y} {slot other : Slot} {value : Option Y}
    (differ : other ≠ slot) (step : s.take slot = some (s', value)) : Untouched s s' other := by
  obtain ⟨y, _, same⟩ := Option.map_eq_some_iff.mp step
  cases same
  exact ⟨Function.update_of_ne differ _ _, rfl, rfl, rfl, Nat.le_refl _⟩

theorem patchedStep_untouched {c : Overlap} {rows : X → Nat} {layer : X → Y}
    {s s' : State X Y} {slot other : Slot} {st : Step X} {value : Option Y}
    (differ : other ≠ slot) (step : patchedStep c rows layer s slot st = some (s', value)) :
    Untouched s s' other := by
  have refl : Untouched s s other := ⟨rfl, rfl, rfl, rfl, Nat.le_refl _⟩
  cases st with
  | sync x =>
    obtain ⟨t, sync, same⟩ := Option.map_eq_some_iff.mp step
    cases same
    unfold patchedSync at sync
    split at sync
    · split at sync
      · split at sync
        · cases sync
        · cases sync
          exact ⟨Function.update_of_ne differ _ _, Function.update_of_ne differ _ _,
            Function.update_of_ne differ _ _, callsOf_other _ _ differ, Nat.le_refl _⟩
      · cases sync
    · cases sync
      exact refl
  | forward x order =>
    obtain ⟨t, forward, same⟩ := Option.map_eq_some_iff.mp step
    cases same
    unfold patchedForward at forward
    split at forward
    · cases forward
      exact refl
    · split at forward
      · unfold State.joinEarly at forward
        simp only at forward
        split at forward
        · cases forward
        · cases forward
          exact ⟨rfl, Function.update_of_ne differ _ _, rfl, rfl, Nat.le_max_left _ _⟩
      · exact runLayer_untouched differ forward
  | read => exact take_untouched differ step

theorem multi_has_stream {c : Overlap} {n : Nat}
    (early : determineSharedExpertsOrder c n = .multiStreamOverlapped) : c.stream = true := by
  unfold determineSharedExpertsOrder at early
  split at early
  · cases early
  · split at early
    · cases early
    · split at early
      · rename_i all
        simp only [Bool.and_eq_true] at all
        exact all.1.2
      · cases early

theorem Round.all_orders (r : Round X) (order : SharedExpertsOrder) : order ∈ r.orders := by
  rw [r.each.mem_iff]
  cases order <;> decide

theorem Round.orders_nodup (r : Round X) : r.orders.Nodup :=
  r.each.nodup_iff.mpr (by decide)

theorem take_succ_inputs {rounds : List (Round X)} {k : Nat} {r : Round X}
    (place : rounds[k]? = some r) :
    (rounds.take (k + 1)).map Round.input = (rounds.take k).map Round.input ++ [r.input] := by
  rw [List.take_add_one, place]
  simp

theorem drop_round {rounds : List (Round X)} {k : Nat} {r : Round X}
    (place : rounds[k]? = some r) : rounds.drop k = r :: rounds.drop (k + 1) := by
  obtain ⟨bound, rfl⟩ := List.getElem?_eq_some_iff.mp place
  exact List.drop_eq_getElem_cons bound

section
variable {c : Overlap} {rows : X → Nat} {layer : X → Y} {s : State X Y} {slot : Slot}
  {rounds : List (Round X)} {k : Nat} {r : Round X}

theorem patchedSync_starts (place : rounds[k]? = some r) (idle : Idle s slot rounds k) :
    ∃ s', patchedSync c rows layer s slot r.input = some s' ∧
      InRound c rows layer s' slot rounds k r r.orders := by
  unfold patchedSync
  by_cases early : determineSharedExpertsOrder c (rows r.input) = .multiStreamOverlapped
  · rw [if_pos early, if_pos (multi_has_stream early), if_neg (by simp [idle.output])]
    have own := callsOf_own s slot r.input (.aux s.auxLength (max s.auxWaited s.mainLength))
    refine ⟨_, rfl, .inFlight early (r.all_orders _) ?_ ?_ ?_
      ⟨slot, r.input, .aux s.auxLength (max s.auxWaited s.mainLength)⟩ ?_ s.auxLength
      (max s.auxWaited s.mainLength) rfl ?_⟩
    · simp [State.launchEarly, State.runOnAux]
    · simp [State.launchEarly]
    · simp only [callsOf, State.launchEarly, State.runOnAux, Function.update_self]
      rw [own, List.map_append, idle.calls, take_succ_inputs place]
      rfl
    · simp only [callsOf, State.launchEarly, State.runOnAux, Function.update_self]
      rw [own]
      simp
    · simp [State.launchEarly, State.runOnAux]
  · rw [if_neg early]
    exact ⟨s, rfl, .waiting early (r.all_orders _) idle⟩

theorem patchedForward_other {order : SharedExpertsOrder}
    (differ : order ≠ determineSharedExpertsOrder c (rows r.input)) :
    patchedForward c rows layer s slot r.input order = some s := by
  rw [patchedForward, if_pos differ]

theorem patchedForward_advances {order : SharedExpertsOrder} {orders : List SharedExpertsOrder}
    (place : rounds[k]? = some r) (nodup : (order :: orders).Nodup)
    (inRound : InRound c rows layer s slot rounds k r (order :: orders)) :
    ∃ s', patchedForward c rows layer s slot r.input order = some s' ∧
      InRound c rows layer s' slot rounds k r orders := by
  by_cases same : order = determineSharedExpertsOrder c (rows r.input)
  · have gone : determineSharedExpertsOrder c (rows r.input) ∉ orders := by
      rw [← same]
      exact (List.nodup_cons.mp nodup).1
    rw [patchedForward, if_neg (by simp [same])]
    cases inRound with
    | waiting inForward toCome idle =>
      have onMain : order ≠ .multiStreamOverlapped := by
        rw [same]
        exact inForward
      have own := callsOf_own s slot r.input .main
      rw [if_neg (by simp [idle.pending]), State.runLayer, if_neg (by simp [idle.output]),
        if_neg onMain]
      refine ⟨_, rfl, .finished gone (by simp [State.runOnMain]) idle.pending ?_
        ⟨slot, r.input, .main⟩ ?_ trivial⟩
      · simp only [callsOf, State.runOnMain]
        rw [own, List.map_append, idle.calls, take_succ_inputs place]
        rfl
      · simp only [callsOf, State.runOnMain]
        rw [own]
        simp
    | inFlight early toCome output pending calls call last position waited launch recorded =>
      rw [if_pos pending, State.joinEarly, if_neg (by simp [output])]
      refine ⟨_, rfl, .finished gone output (by simp) calls call last ?_⟩
      rw [Joined, launch]
      exact Nat.lt_of_lt_of_le recorded (Nat.le_max_right _ _)
    | finished done output pending calls call last joined =>
      exact absurd (same ▸ List.mem_cons_self) done
  · rw [patchedForward_other same]
    refine ⟨s, rfl, ?_⟩
    cases inRound with
    | waiting inForward toCome idle =>
      exact .waiting inForward ((List.mem_cons.mp toCome).resolve_left (Ne.symm same)) idle
    | inFlight early toCome output pending calls call last position waited launch recorded =>
      exact .inFlight early ((List.mem_cons.mp toCome).resolve_left (Ne.symm same)) output
        pending calls call last position waited launch recorded
    | finished done output pending calls call last joined =>
      exact .finished (fun later => done (List.mem_cons_of_mem _ later)) output pending calls
        call last joined

theorem read_ends (place : rounds[k]? = some r)
    (inRound : InRound c rows layer s slot rounds k r []) :
    ∃ s', s.take slot = some (s', some (layer r.input)) ∧ Idle s' slot rounds (k + 1) ∧
      (callsOf slot s).map Call.input = (rounds.take (k + 1)).map Round.input ∧
      ∃ call, (callsOf slot s).getLast? = some call ∧ call.input = r.input ∧ Joined s call := by
  cases inRound with
  | waiting inForward toCome idle => cases toCome
  | inFlight early toCome output pending calls call last position waited launch recorded =>
    cases toCome
  | finished done output pending calls call last joined =>
    have input : call.input = r.input := by
      have lastInput := congrArg List.getLast? calls
      rw [take_succ_inputs place, List.getLast?_concat, List.getLast?_map, last] at lastInput
      exact Option.some.inj lastInput
    refine ⟨{ s with output := Function.update s.output slot none }, ?_, ?_, calls, call, last,
      input, joined⟩
    · rw [State.take, output]
      rfl
    · exact ⟨by simp, pending, calls⟩

theorem patchedStep_own {st : Step X} {todo : List (Step X)}
    (inv : SlotInv c rows layer s slot rounds k (st :: todo)) :
    ∃ s', patchedStep c rows layer s slot st = some (s', st.value layer rounds k) ∧
      SlotInv c rows layer s' slot rounds (k + st.isRead.toNat) todo := by
  rcases inv with ⟨steps, idle⟩ | ⟨r, orders, place, nodup, steps, inRound⟩
  · cases next : rounds[k]? with
    | none =>
      rw [List.drop_eq_nil_of_le (List.getElem?_eq_none_iff.mp next)] at steps
      cases steps
    | some r =>
      rw [drop_round next, List.flatMap_cons, Round.steps, List.cons_append] at steps
      obtain ⟨rfl, rfl⟩ := List.cons.inj steps
      obtain ⟨s', sync, inRound⟩ := patchedSync_starts next idle
      refine ⟨s', by rw [patchedStep, sync]; rfl, Or.inr ⟨r, r.orders, next, r.orders_nodup, ?_,
        inRound⟩⟩
      simp [List.append_assoc, Step.isRead]
  · cases orders with
    | nil =>
      obtain ⟨rfl, rfl⟩ := List.cons.inj steps
      obtain ⟨s', taken, idle, _⟩ := read_ends place inRound
      refine ⟨s', ?_, Or.inl ⟨rfl, idle⟩⟩
      rw [patchedStep, taken, Step.value, place]
      rfl
    | cons order orders =>
      obtain ⟨rfl, rfl⟩ := List.cons.inj steps
      obtain ⟨s', forward, later⟩ := patchedForward_advances place nodup inRound
      refine ⟨s', by rw [patchedStep, forward]; rfl, Or.inr ⟨r, orders, place,
        (List.nodup_cons.mp nodup).2, rfl, later⟩⟩

end

end SharedExperts
