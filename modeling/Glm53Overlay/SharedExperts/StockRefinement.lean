import Glm53Overlay.SharedExperts.Rounds

/-!
Both classes follow one protocol: a slot's own step succeeds and returns what its round
determines, and a step of the other slot changes nothing the slot relies on. Whatever follows
it reads the same values in every interleaving, so the early launch refines the stock class.
-/
namespace SharedExperts
variable {X Y : Type}

def readValues (layer : X → Y) (rounds : Slot → List (Round X)) :
    (Slot → Nat) → List (Slot × Step X) → List (Slot × Y)
  | _, [] => []
  | ended, (slot, st) :: rest =>
    ((st.value layer (rounds slot) (ended slot)).map (slot, ·)).toList ++
      readValues layer rounds (Function.update ended slot (ended slot + st.isRead.toNat)) rest

/-- An invariant of each slot that its own steps advance and the other slot's steps keep. -/
structure Follows (layer : X → Y) (rounds : Slot → List (Round X))
    (step : State X Y → Slot → Step X → Option (State X Y × Option Y))
    (inv : State X Y → Slot → Nat → List (Step X) → Prop) : Prop where
  own : ∀ s slot k st todo, inv s slot k (st :: todo) →
    ∃ s', step s slot st = some (s', st.value layer (rounds slot) k) ∧
      inv s' slot (k + st.isRead.toNat) todo
  other : ∀ s s' slot st value k todo other, other ≠ slot →
    step s slot st = some (s', value) → inv s other k todo → inv s' other k todo

theorem stepsOf_cons_own (slot : Slot) (st : Step X) (rest : List (Slot × Step X)) :
    stepsOf slot ((slot, st) :: rest) = st :: stepsOf slot rest := by
  simp [stepsOf]

theorem stepsOf_cons_other {slot other : Slot} (differ : other ≠ slot) (st : Step X)
    (rest : List (Slot × Step X)) : stepsOf other ((slot, st) :: rest) = stepsOf other rest := by
  simp [stepsOf, differ.symm]

theorem readsOf_cons (slot other : Slot) (st : Step X) (rest : List (Slot × Step X))
    (ended : Slot → Nat) :
    Function.update ended slot (ended slot + st.isRead.toNat) other + readsOf other rest =
      ended other + readsOf other ((slot, st) :: rest) := by
  by_cases same : other = slot
  · subst same
    rw [Function.update_self, readsOf, readsOf, stepsOf_cons_own, List.countP_cons]
    cases st.isRead
    · simp
    · simp only [Bool.toNat_true, if_true]
      omega
  · rw [Function.update_of_ne same, readsOf, readsOf, stepsOf_cons_other same]

/-- The run lemma: along any beginning of a trace the run succeeds, reads what the rounds
    determine, and every slot keeps its invariant. -/
theorem run_follows {layer : X → Y} {rounds : Slot → List (Round X)}
    {step : State X Y → Slot → Step X → Option (State X Y × Option Y)}
    {inv : State X Y → Slot → Nat → List (Step X) → Prop}
    (follows : Follows layer rounds step inv) (before after : List (Slot × Step X)) :
    ∀ (s : State X Y) (ended : Slot → Nat),
      (∀ slot, inv s slot (ended slot) (stepsOf slot (before ++ after))) →
      ∃ s', run step s before = some (s', readValues layer rounds ended before) ∧
        ∀ slot, inv s' slot (ended slot + readsOf slot before) (stepsOf slot after) := by
  induction before with
  | nil =>
    intro s ended start
    exact ⟨s, rfl, start⟩
  | cons entry rest ih =>
    obtain ⟨slot, st⟩ := entry
    intro s ended start
    have mine := start slot
    rw [List.cons_append, stepsOf_cons_own] at mine
    obtain ⟨s', stepped, advanced⟩ := follows.own s slot (ended slot) st _ mine
    have later : ∀ other, inv s' other
        (Function.update ended slot (ended slot + st.isRead.toNat) other)
        (stepsOf other (rest ++ after)) := by
      intro other
      by_cases same : other = slot
      · subst same
        rw [Function.update_self]
        exact advanced
      · have theirs := start other
        rw [List.cons_append, stepsOf_cons_other same] at theirs
        rw [Function.update_of_ne same]
        exact follows.other s s' slot st _ _ _ other same stepped theirs
    obtain ⟨final, ran, kept⟩ := ih s' _ later
    refine ⟨final, ?_, ?_⟩
    · rw [run, stepped]
      simp only [Option.bind_eq_bind, Option.bind_some, ran]
      rfl
    · intro other
      rw [← readsOf_cons]
      exact kept other

section
variable (c : Overlap) (rows : X → Nat) (layer : X → Y)

theorem patched_follows (rounds : Slot → List (Round X)) :
    Follows layer rounds (patchedStep c rows layer)
      (fun s slot k todo => SlotInv c rows layer s slot (rounds slot) k todo) where
  own _ _ _ _ _ inv := patchedStep_own inv
  other _ _ _ _ _ _ _ _ differ step inv :=
    slotInv_untouched (patchedStep_untouched differ step) inv

/-- Where a slot of the stock class stands: inside a round its output is there exactly when
    the call that runs the layer is over. -/
def StockInv (s : State X Y) (slot : Slot) (rounds : List (Round X)) (k : Nat)
    (todo : List (Step X)) : Prop :=
  (todo = (rounds.drop k).flatMap Round.steps ∧ s.output slot = none) ∨
  ∃ (r : Round X) (orders : List SharedExpertsOrder), rounds[k]? = some r ∧ orders.Nodup ∧
    todo = orders.map (.forward r.input) ++ .read :: (rounds.drop (k + 1)).flatMap Round.steps ∧
    s.output slot = if determineSharedExpertsOrder c (rows r.input) ∈ orders then none
      else some (layer r.input)

end

section
variable {c : Overlap} {rows : X → Nat} {layer : X → Y} {s : State X Y} {slot : Slot}
  {rounds : List (Round X)} {k : Nat}

theorem stockSync_output (c : Overlap) (rows : X → Nat) (s : State X Y) (r : Round X) :
    ∃ s', stockSync c rows s r.input = some s' ∧ s'.output = s.output := by
  unfold stockSync
  by_cases early : determineSharedExpertsOrder c (rows r.input) = .multiStreamOverlapped
  · rw [if_pos early, if_pos (multi_has_stream early)]
    exact ⟨_, rfl, rfl⟩
  · rw [if_neg early]
    exact ⟨s, rfl, rfl⟩

theorem runLayer_output {x : X} {order : SharedExpertsOrder} (empty : s.output slot = none) :
    ∃ s', s.runLayer layer slot x order = some s' ∧ s'.output slot = some (layer x) := by
  rw [State.runLayer, if_neg (by simp [empty])]
  by_cases multi : order = .multiStreamOverlapped
  · rw [if_pos multi]
    exact ⟨_, rfl, by simp [State.mainWaitsAux, State.runOnAux]⟩
  · rw [if_neg multi]
    exact ⟨_, rfl, by simp [State.runOnMain]⟩

theorem stockForward_advances {r : Round X} {order : SharedExpertsOrder}
    {orders : List SharedExpertsOrder} (nodup : (order :: orders).Nodup)
    (output : s.output slot =
      if determineSharedExpertsOrder c (rows r.input) ∈ order :: orders then none
      else some (layer r.input)) :
    ∃ s', stockForward c rows layer s slot r.input order = some s' ∧
      s'.output slot = if determineSharedExpertsOrder c (rows r.input) ∈ orders then none
        else some (layer r.input) := by
  by_cases same : order = determineSharedExpertsOrder c (rows r.input)
  · have gone : determineSharedExpertsOrder c (rows r.input) ∉ orders := by
      rw [← same]
      exact (List.nodup_cons.mp nodup).1
    rw [← same, if_pos List.mem_cons_self] at output
    rw [stockForward, if_neg (by simp [same]), if_neg gone]
    exact runLayer_output output
  · rw [stockForward, if_pos same]
    refine ⟨s, rfl, ?_⟩
    rw [output]
    simp [Ne.symm same]

theorem stockStep_own {st : Step X} {todo : List (Step X)}
    (inv : StockInv c rows layer s slot rounds k (st :: todo)) :
    ∃ s', stockStep c rows layer s slot st = some (s', st.value layer rounds k) ∧
      StockInv c rows layer s' slot rounds (k + st.isRead.toNat) todo := by
  rcases inv with ⟨steps, empty⟩ | ⟨r, orders, place, nodup, steps, output⟩
  · cases next : rounds[k]? with
    | none =>
      rw [List.drop_eq_nil_of_le (List.getElem?_eq_none_iff.mp next)] at steps
      cases steps
    | some r =>
      rw [drop_round next, List.flatMap_cons, Round.steps, List.cons_append] at steps
      obtain ⟨rfl, rfl⟩ := List.cons.inj steps
      obtain ⟨s', sync, same⟩ := stockSync_output c rows s r
      refine ⟨s', by rw [stockStep, sync]; rfl, Or.inr ⟨r, r.orders, next, r.orders_nodup, ?_, ?_⟩⟩
      · simp [List.append_assoc, Step.isRead]
      · rw [if_pos (r.all_orders _), same, empty]
  · cases orders with
    | nil =>
      obtain ⟨rfl, rfl⟩ := List.cons.inj steps
      rw [if_neg List.not_mem_nil] at output
      refine ⟨{ s with output := Function.update s.output slot none }, ?_,
        Or.inl ⟨rfl, Function.update_self _ _ _⟩⟩
      rw [stockStep, State.take, output, Step.value, place]
      rfl
    | cons order orders =>
      obtain ⟨rfl, rfl⟩ := List.cons.inj steps
      obtain ⟨s', forward, later⟩ := stockForward_advances nodup output
      exact ⟨s', by rw [stockStep, forward]; rfl, Or.inr ⟨r, orders, place,
        (List.nodup_cons.mp nodup).2, rfl, later⟩⟩

theorem stockStep_output_other {s' : State X Y} {other : Slot} {st : Step X} {value : Option Y}
    (differ : other ≠ slot) (step : stockStep c rows layer s slot st = some (s', value)) :
    s'.output other = s.output other := by
  cases st with
  | sync x =>
    obtain ⟨t, sync, same⟩ := Option.map_eq_some_iff.mp step
    cases same
    unfold stockSync at sync
    split at sync
    · split at sync
      · cases sync
        rfl
      · cases sync
    · cases sync
      rfl
  | forward x order =>
    obtain ⟨t, forward, same⟩ := Option.map_eq_some_iff.mp step
    cases same
    unfold stockForward at forward
    split at forward
    · cases forward
      rfl
    · exact (runLayer_untouched differ forward).output
  | read => exact (take_untouched differ step).output

end

theorem stock_follows (c : Overlap) (rows : X → Nat) (layer : X → Y)
    (rounds : Slot → List (Round X)) :
    Follows layer rounds (stockStep c rows layer)
      (fun s slot k todo => StockInv c rows layer s slot (rounds slot) k todo) where
  own _ _ _ _ _ inv := stockStep_own inv
  other _ _ _ _ _ _ _ _ differ step inv := by
    unfold StockInv at inv ⊢
    rw [stockStep_output_other differ step]
    exact inv

theorem slot_at_end {c : Overlap} {rows : X → Nat} {layer : X → Y} {s : State X Y}
    {slot : Slot} {rounds : List (Round X)} {k : Nat}
    (inv : SlotInv c rows layer s slot rounds k []) :
    Idle s slot rounds rounds.length := by
  rcases inv with ⟨steps, idle⟩ | ⟨r, orders, place, nodup, steps, inRound⟩
  · have all : rounds.drop k = [] := by
      cases left : rounds.drop k with
      | nil => rfl
      | cons r rest =>
        rw [left] at steps
        cases steps
    refine ⟨idle.output, idle.pending, ?_⟩
    rw [idle.calls, List.take_of_length_le (List.drop_eq_nil_iff.mp all), List.take_length]
  · cases orders <;> cases steps

theorem slot_at_read {c : Overlap} {rows : X → Nat} {layer : X → Y} {s : State X Y}
    {slot : Slot} {rounds : List (Round X)} {k : Nat} {todo : List (Step X)}
    (inv : SlotInv c rows layer s slot rounds k (.read :: todo)) :
    ∃ r, rounds[k]? = some r ∧ InRound c rows layer s slot rounds k r [] := by
  rcases inv with ⟨steps, idle⟩ | ⟨r, orders, place, nodup, steps, inRound⟩
  · cases left : rounds.drop k with
    | nil =>
      rw [left] at steps
      cases steps
    | cons r rest =>
      rw [left] at steps
      cases steps
  · cases orders with
    | nil => exact ⟨r, place, inRound⟩
    | cons order orders => cases steps

/-- Along any beginning of an interleaving both classes run, read the same values, and leave
    every slot where its rounds say. -/
theorem both_run (c : Overlap) (rows : X → Nat) (layer : X → Y) {rounds : Slot → List (Round X)}
    (before after : List (Slot × Step X)) (interleaves : Interleaves rounds (before ++ after)) :
    ∃ s stock values, run (patchedStep c rows layer) State.init before = some (s, values) ∧
      run (stockStep c rows layer) State.init before = some (stock, values) ∧
      ∀ slot,
        SlotInv c rows layer s slot (rounds slot) (readsOf slot before) (stepsOf slot after) ∧
        StockInv c rows layer stock slot (rounds slot) (readsOf slot before)
          (stepsOf slot after) := by
  have start : ∀ slot, SlotInv c rows layer State.init slot (rounds slot) 0
      (stepsOf slot (before ++ after)) := by
    intro slot
    rw [interleaves slot]
    exact Or.inl ⟨rfl, rfl, rfl, rfl⟩
  have stockStart : ∀ slot, StockInv c rows layer State.init slot (rounds slot) 0
      (stepsOf slot (before ++ after)) := by
    intro slot
    rw [interleaves slot]
    exact Or.inl ⟨rfl, rfl⟩
  obtain ⟨s, ran, kept⟩ := run_follows (patched_follows c rows layer rounds) before after
    State.init (fun _ => 0) start
  obtain ⟨stock, stockRan, stockKept⟩ := run_follows (stock_follows c rows layer rounds) before
    after State.init (fun _ => 0) stockStart
  refine ⟨s, stock, _, ran, stockRan, ?_⟩
  intro slot
  have mine := kept slot
  have theirs := stockKept slot
  rw [Nat.zero_add] at mine theirs
  exact ⟨mine, theirs⟩

theorem early_launch_refines_stock (c : Overlap) (rows : X → Nat) (layer : X → Y)
    (rounds : Slot → List (Round X)) (trace : List (Slot × Step X))
    (interleaves : Interleaves rounds trace) :
    (∃ final stockFinal values,
      run (patchedStep c rows layer) State.init trace = some (final, values) ∧
      run (stockStep c rows layer) State.init trace = some (stockFinal, values) ∧
      ∀ slot, final.output slot = none ∧ final.earlyPending slot = false ∧
        (callsOf slot final).map Call.input = (rounds slot).map Round.input) ∧
    ∀ before slot after, trace = before ++ (slot, .read) :: after →
      ∃ s stock values r call s' stock',
        run (patchedStep c rows layer) State.init before = some (s, values) ∧
        run (stockStep c rows layer) State.init before = some (stock, values) ∧
        (rounds slot)[readsOf slot before]? = some r ∧
        (callsOf slot s).map Call.input =
          ((rounds slot).take (readsOf slot before + 1)).map Round.input ∧
        (callsOf slot s).getLast? = some call ∧ call.input = r.input ∧ Joined s call ∧
        patchedStep c rows layer s slot .read = some (s', some (layer r.input)) ∧
        stockStep c rows layer stock slot .read = some (stock', some (layer r.input)) ∧
        s'.output slot = none ∧ s'.earlyPending slot = false := by
  constructor
  · obtain ⟨final, stockFinal, values, ran, stockRan, kept⟩ :=
      both_run c rows layer trace [] (by rw [List.append_nil]; exact interleaves)
    refine ⟨final, stockFinal, values, ran, stockRan, ?_⟩
    intro slot
    have idle := slot_at_end (kept slot).1
    refine ⟨idle.output, idle.pending, ?_⟩
    rw [idle.calls, List.take_length]
  · rintro before slot after rfl
    obtain ⟨s, stock, values, ran, stockRan, kept⟩ := both_run c rows layer before _ interleaves
    obtain ⟨mine, theirs⟩ := kept slot
    rw [stepsOf_cons_own] at mine theirs
    obtain ⟨r, place, inRound⟩ := slot_at_read mine
    obtain ⟨s', taken, idle, calls, call, last, input, joined⟩ := read_ends place inRound
    obtain ⟨stock', stockRead, _⟩ := stockStep_own theirs
    refine ⟨s, stock, values, r, call, s', stock', ran, stockRan, place, calls, last, input,
      joined, taken, ?_, idle.output, idle.pending⟩
    rw [stockRead, Step.value, place]
    rfl

/-- Two rounds on one slot and one on the other; only the first input is small enough for the
    auxiliary stream. -/
def sampleOverlap : Overlap :=
  ⟨false, false, "", false, false, true, true, 8⟩

def sampleRound (input : Nat) : Round Nat :=
  ⟨input, [.none, .noOverlap, .mkInternalOverlapped, .multiStreamOverlapped], List.Perm.refl _⟩

def firstSlot : Slot := ⟨0, Nat.two_pos⟩

def secondSlot : Slot := ⟨1, Nat.one_lt_two⟩

def sampleRounds (slot : Slot) : List (Round Nat) :=
  if slot = firstSlot then [sampleRound 4, sampleRound 20] else [sampleRound 9]

def sampleTrace : List (Slot × Step Nat) :=
  [(firstSlot, .sync 4), (secondSlot, .sync 9)] ++
    (sampleRound 9).orders.map (fun order => (secondSlot, .forward 9 order)) ++
    (sampleRound 4).orders.map (fun order => (firstSlot, .forward 4 order)) ++
    [(secondSlot, .read), (firstSlot, .read)] ++ (sampleRound 20).steps.map (firstSlot, ·)

theorem early_launch_refines_sample :
    Interleaves sampleRounds sampleTrace ∧
    ∃ final stockFinal values,
      run (patchedStep sampleOverlap id (· + 100)) State.init sampleTrace =
        some (final, values) ∧
      run (stockStep sampleOverlap id (· + 100)) State.init sampleTrace =
        some (stockFinal, values) ∧
      ∀ slot, final.output slot = none ∧ final.earlyPending slot = false ∧
        (callsOf slot final).map Call.input = (sampleRounds slot).map Round.input := by
  have interleaves : Interleaves sampleRounds sampleTrace := by
    rw [Interleaves, Fin.forall_fin_two]
    exact ⟨rfl, rfl⟩
  exact ⟨interleaves,
    (early_launch_refines_stock sampleOverlap id (· + 100) sampleRounds sampleTrace interleaves).1⟩

end SharedExperts
