/-!
Programs over a world that may raise: an exception, which handlers catch, or an interrupt, which
only the outermost ones see. The world is kept either way. A triple speaks of the normal end, of
an exception and of an interrupt.
-/
namespace FaultProgram
variable {W E α β : Type}

inductive Raised (E : Type) where
  | exception (e : E)
  | interrupt
  deriving DecidableEq, Repr

def Program (W E α : Type) : Type := W → Except (Raised E) α × W

def andThen (x : Program W E α) (f : α → Program W E β) : Program W E β := fun w =>
  match x w with
  | (.ok a, w') => f a w'
  | (.error e, w') => (.error e, w')

instance : Monad (Program W E) where
  pure a := fun w => (.ok a, w)
  bind := andThen

def raise (e : E) : Program W E α := fun w => (.error (.exception e), w)

def modify (f : W → W) : Program W E Unit := fun w => (.ok (), f w)

def inspect (f : W → β) : Program W E β := fun w => (.ok (f w), w)

/-- `except Exception`: an interrupt passes through. -/
def handle (x : Program W E α) (handler : E → Program W E α) : Program W E α := fun w =>
  match x w with
  | (.error (.exception e), w') => handler e w'
  | other => other

/-- `except BaseException`: the outcome as a value. -/
def attempt (x : Program W E α) : Program W E (Except (Raised E) α) := fun w =>
  (.ok (x w).1, (x w).2)

def Ends (Q : α → W → Prop) (X : E → W → Prop) (I : W → Prop) : Except (Raised E) α × W → Prop
  | (.ok a, w) => Q a w
  | (.error (.exception e), w) => X e w
  | (.error .interrupt, w) => I w

def Triple (P : W → Prop) (x : Program W E α) (Q : α → W → Prop) (X : E → W → Prop)
    (I : W → Prop) : Prop :=
  ∀ w, P w → Ends Q X I (x w)

section Rules
variable {P P' : W → Prop} {x : Program W E α} {Q Q' : α → W → Prop} {X X' : E → W → Prop}
  {I I' : W → Prop}

theorem triple_pure {a : α} (post : ∀ w, P w → Q a w) :
    Triple P (pure a : Program W E α) Q X I := fun w start => post w start

theorem triple_raise {e : E} (post : ∀ w, P w → X e w) :
    Triple P (raise e : Program W E α) Q X I := fun w start => post w start

theorem triple_modify {f : W → W} {Q : Unit → W → Prop} (post : ∀ w, P w → Q () (f w)) :
    Triple P (modify f : Program W E Unit) Q X I := fun w start => post w start

theorem triple_inspect {f : W → β} {Q : β → W → Prop} (post : ∀ w, P w → Q (f w) w) :
    Triple P (inspect f : Program W E β) Q X I := fun w start => post w start

theorem triple_bind {f : α → Program W E β} {Q' : β → W → Prop} (first : Triple P x Q X I)
    (later : ∀ a, Triple (Q a) (f a) Q' X I) : Triple P (x >>= f) Q' X I := by
  intro w start
  have ran := first w start
  show Ends Q' X I (andThen x f w)
  unfold andThen
  rcases result : x w with ⟨outcome, w'⟩
  rw [result] at ran
  cases outcome with
  | ok a => exact later a w' ran
  | error e =>
    cases e with
    | exception e => exact ran
    | interrupt => exact ran

theorem triple_conseq (ran : Triple P x Q X I) (before : ∀ w, P' w → P w)
    (after : ∀ a w, Q a w → Q' a w) (raised : ∀ e w, X e w → X' e w)
    (stopped : ∀ w, I w → I' w) : Triple P' x Q' X' I' := by
  intro w start
  have ends := ran w (before w start)
  rcases result : x w with ⟨outcome, w'⟩
  rw [result] at ends
  cases outcome with
  | ok a => exact after a w' ends
  | error e =>
    cases e with
    | exception e => exact raised e w' ends
    | interrupt => exact stopped w' ends

theorem triple_pre (ran : Triple P x Q X I) (before : ∀ w, P' w → P w) : Triple P' x Q X I :=
  fun w start => ran w (before w start)

theorem triple_post (ran : Triple P x Q X I) (after : ∀ a w, Q a w → Q' a w) :
    Triple P x Q' X I :=
  triple_conseq ran (fun _ start => start) after (fun _ _ raised => raised)
    (fun _ stopped => stopped)

theorem triple_handle {handler : E → Program W E α} {Y : E → W → Prop} (body : Triple P x Q Y I)
    (caught : ∀ e, Triple (Y e) (handler e) Q X I) : Triple P (handle x handler) Q X I := by
  intro w start
  have ran := body w start
  unfold handle
  rcases result : x w with ⟨outcome, w'⟩
  rw [result] at ran
  cases outcome with
  | ok a => exact ran
  | error e =>
    cases e with
    | exception e => exact caught e w' ran
    | interrupt => exact ran

theorem triple_attempt (ran : Triple P x Q X I) :
    Triple P (attempt x) (fun outcome w => Ends Q X I (outcome, w)) X' I' :=
  fun w start => ran w start

end Rules

/-- The program keeps `P` unless it is interrupted, and then ends in `I`. -/
def Keeps (P I : W → Prop) (x : Program W E α) : Prop :=
  Triple P x (fun _ => P) (fun _ => P) I

section Invariant
variable {P I : W → Prop} {x : Program W E α}

theorem keeps_pure (a : α) : Keeps P I (pure a : Program W E α) :=
  triple_pure fun _ start => start

theorem keeps_raise (e : E) : Keeps P I (raise e : Program W E α) :=
  triple_raise fun _ start => start

theorem keeps_modify {f : W → W} (step : ∀ w, P w → P (f w)) :
    Keeps P I (modify f : Program W E Unit) := triple_modify step

theorem keeps_inspect (f : W → β) : Keeps P I (inspect f : Program W E β) :=
  triple_inspect fun _ start => start

theorem keeps_bind {f : α → Program W E β} (first : Keeps P I x) (later : ∀ a, Keeps P I (f a)) :
    Keeps P I (x >>= f) := triple_bind first later

theorem keeps_handle {handler : E → Program W E α} (body : Keeps P I x)
    (caught : ∀ e, Keeps P I (handler e)) : Keeps P I (handle x handler) :=
  triple_handle body caught

end Invariant

end FaultProgram
