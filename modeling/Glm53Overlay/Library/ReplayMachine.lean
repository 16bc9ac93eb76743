import Mathlib.Data.List.Basic

/-!
Deterministic machines replayed over finite input sequences. A machine is its
step function; outputs are returned data. Nothing here assumes that inputs are
delivered fairly or that a real clock drives them.
-/
namespace ReplayMachine
variable {State Input Output : Type*}

def final (step : State → Input → State × Output) : State → List Input → State
  | s, [] => s
  | s, i :: rest => final step (step s i).1 rest

def outputs (step : State → Input → State × Output) : State → List Input → List Output
  | _, [] => []
  | s, i :: rest => (step s i).2 :: outputs step (step s i).1 rest

@[simp] theorem final_nil (step : State → Input → State × Output) (s : State) :
    final step s [] = s := rfl

@[simp] theorem final_cons (step : State → Input → State × Output) (s : State) (i : Input)
    (rest : List Input) : final step s (i :: rest) = final step (step s i).1 rest := rfl

@[simp] theorem outputs_nil (step : State → Input → State × Output) (s : State) :
    outputs step s [] = [] := rfl

@[simp] theorem outputs_cons (step : State → Input → State × Output) (s : State) (i : Input)
    (rest : List Input) :
    outputs step s (i :: rest) = (step s i).2 :: outputs step (step s i).1 rest := rfl

theorem final_append (step : State → Input → State × Output) (s : State)
    (first second : List Input) :
    final step s (first ++ second) = final step (final step s first) second := by
  induction first generalizing s with
  | nil => rfl
  | cons i rest ih => exact ih (step s i).1

theorem outputs_at (step : State → Input → State × Output) (s : State)
    (inputs : List Input) (k : Nat) :
    (outputs step s inputs)[k]? =
      inputs[k]?.map fun i => (step (final step s (inputs.take k)) i).2 := by
  induction inputs generalizing s k with
  | nil => simp
  | cons i rest ih =>
    cases k with
    | zero => simp
    | succ k => simpa using ih (step s i).1 k

theorem final_invariant (step : State → Input → State × Output) (inv : State → Prop)
    (allowed : Input → Prop)
    (preserved : ∀ s i, allowed i → inv s → inv (step s i).1)
    (s : State) (inputs : List Input) (legal : ∀ i ∈ inputs, allowed i) (start : inv s) :
    inv (final step s inputs) := by
  induction inputs generalizing s with
  | nil => exact start
  | cons i rest ih =>
    exact ih _ (fun j hj => legal j (List.mem_cons_of_mem i hj))
      (preserved s i (legal i List.mem_cons_self) start)

/-- A condition on each input and on the state it meets. -/
def Throughout (step : State → Input → State × Output) (ok : State → Input → Prop) :
    State → List Input → Prop
  | _, [] => True
  | s, i :: rest => ok s i ∧ Throughout step ok (step s i).1 rest

theorem throughout_take (step : State → Input → State × Output) (ok : State → Input → Prop)
    (s : State) (inputs : List Input) (k : Nat) (whole : Throughout step ok s inputs) :
    Throughout step ok s (inputs.take k) := by
  induction inputs generalizing s k with
  | nil => simpa using whole
  | cons i rest ih =>
    cases k with
    | zero => trivial
    | succ k => exact ⟨whole.1, ih _ k whole.2⟩

theorem throughout_at (step : State → Input → State × Output) (ok : State → Input → Prop)
    {s : State} {inputs : List Input} {k : Nat} {i : Input} (whole : Throughout step ok s inputs)
    (here : inputs[k]? = some i) : ok (final step s (inputs.take k)) i := by
  induction inputs generalizing s k with
  | nil => simp at here
  | cons first rest ih =>
    cases k with
    | zero =>
      cases here
      exact whole.1
    | succ k => exact ih whole.2 here

theorem final_invariant_throughout (step : State → Input → State × Output) (inv : State → Prop)
    (ok : State → Input → Prop) (preserved : ∀ s i, ok s i → inv s → inv (step s i).1)
    (s : State) (inputs : List Input) (legal : Throughout step ok s inputs) (start : inv s) :
    inv (final step s inputs) := by
  induction inputs generalizing s with
  | nil => exact start
  | cons i rest ih => exact ih _ legal.2 (preserved s i legal.1 start)

/-- Lockstep simulation: a relation kept by both machines on allowed inputs, and
    equal answers on related states, give equal answer sequences. -/
theorem lockstep_outputs {Other Answer : Type*}
    (step : State → Input → State × Output) (other : Other → Input → Other × Answer)
    (view : Output → Answer) (related : State → Other → Prop) (allowed : Input → Prop)
    (kept : ∀ s t i, allowed i → related s t → related (step s i).1 (other t i).1)
    (agree : ∀ s t i, allowed i → related s t → view (step s i).2 = (other t i).2)
    (s : State) (t : Other) (inputs : List Input) (legal : ∀ i ∈ inputs, allowed i)
    (start : related s t) :
    (outputs step s inputs).map view = outputs other t inputs := by
  induction inputs generalizing s t with
  | nil => rfl
  | cons i rest ih =>
    have now := legal i List.mem_cons_self
    have later := ih _ _ (fun j hj => legal j (List.mem_cons_of_mem i hj)) (kept s t i now start)
    simp only [outputs_cons, List.map_cons, agree s t i now start, later]

end ReplayMachine
