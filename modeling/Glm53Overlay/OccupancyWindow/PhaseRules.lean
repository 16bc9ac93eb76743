import Glm53Overlay.OccupancyWindow.Phases

/-!
What the phases keep. A world predicate is steady when no external action, receipt write or calm
event disturbs it, and sound when a removal and a guarded start do not either; every phase keeps
a sound one. Production is never started beside a container whose removal is unconfirmed.
-/
namespace OccupancyWindow
open FaultProgram

def Receipt.container (r : Receipt) : Option String := r.containerName.filter (· ≠ "")

/-- Whether a profiling container may still be there; `named` is whether the window began with
    one on the receipt. -/
def unconfirmed (named : Bool) : List Event → Bool
  | [] => named
  | .containerNamed :: _ => true
  | .removal confirmed :: _ => !confirmed
  | _ :: earlier => unconfirmed named earlier

/-- No guarded start while a removal is unconfirmed. -/
def Guarded (named : Bool) : List Event → Prop
  | [] => True
  | .guardedStart :: earlier => unconfirmed named earlier = false ∧ Guarded named earlier
  | _ :: earlier => Guarded named earlier

/-- Events that say nothing of the container and report no failure. -/
def Event.calm : Event → Bool
  | .headAnswered | .leftDown | .rearmEntered | .timersActive => true
  | _ => false

structure Steady (J I : World → Prop) : Prop where
  used : ∀ w n, J w → J { w with used := n }
  saved : ∀ w, J w → J { w with saved := some w.receipt }
  calm : ∀ w e, e.calm = true → J w → J { w with trace := e :: w.trace }
  receipt : ∀ w r, r.containerName = w.receipt.containerName → r.phases = w.receipt.phases →
    J w → J { w with receipt := r }
  interrupted : ∀ w, J w → w.outcomes w.used = .interrupted → I { w with used := w.used + 1 }

structure Sound (named : Bool) (J I : World → Prop) : Prop extends Steady J I where
  unnamed : ∀ w, J w → w.receipt.container = none → unconfirmed named w.trace = false
  container : ∀ w name, name ≠ "" → J w → J { w with
    receipt := { w.receipt with containerName := some name }
    trace := .containerNamed :: w.trace }
  removal : ∀ w confirmed, w.receipt.container ≠ none → J w →
    J { w with trace := .removal confirmed :: w.trace }
  guarded : ∀ w, unconfirmed named w.trace = false → J w →
    J { w with trace := .guardedStart :: w.trace }

section SteadySteps
variable {J I : World → Prop} (steady : Steady J I)
include steady

theorem act_keeps : Keeps J I act := by
  intro w holds
  have next := steady.used w (w.used + 1) holds
  unfold act
  cases outcome : w.outcomes w.used with
  | ok => exact next
  | bad text => exact next
  | raised timeout text => exact next
  | interrupted => exact steady.interrupted w holds outcome

theorem save_keeps : Keeps J I save := keeps_modify steady.saved

theorem emit_keeps {e : Event} (calm : e.calm = true) : Keeps J I (emit e) :=
  keeps_modify fun w holds => steady.calm w e calm holds

theorem record_keeps {f : Receipt → Receipt} (same : ∀ r, (f r).containerName = r.containerName)
    (phases : ∀ r, (f r).phases = r.phases) : Keeps J I (record f) :=
  keeps_modify fun w holds => steady.receipt w _ (same _) (phases _) holds

theorem perform_keeps : Keeps J I perform := keeps_bind (act_keeps steady) fun _ => keeps_pure ()

theorem require_keeps (problem : String) : Keeps J I (require problem) := by
  refine keeps_bind (act_keeps steady) ?_
  intro status
  cases status with
  | none => exact keeps_pure ()
  | some text => exact keeps_raise _

theorem good_keeps : Keeps J I good := keeps_bind (act_keeps steady) fun _ => keeps_pure _

omit steady in
theorem wait_triple {ask : Window Bool} {G : World → Prop}
    (asks : Triple J ask (fun yes w => J w ∧ (yes = true → G w)) (fun _ => J) I) :
    Triple J (wait ask) (fun yes w => J w ∧ (yes = true → G w)) (fun _ => J) I := by
  have polls : ∀ n, Triple J (pollUntil ask n) (fun yes w => J w ∧ (yes = true → G w))
      (fun _ => J) I := by
    intro n
    induction n with
    | zero => exact triple_pure fun w holds => ⟨holds, fun no => absurd no Bool.false_ne_true⟩
    | succ n ih =>
      refine triple_bind asks ?_
      intro yes
      cases yes with
      | true => exact triple_pure fun w holds => holds
      | false => exact triple_pre ih fun w holds => holds.1
  exact triple_bind (keeps_inspect _) fun n => polls n

omit steady in
theorem wait_keeps {ask : Window Bool} (asks : Keeps J I ask) : Keeps J I (wait ask) := by
  have answers : Triple J ask (fun yes w => J w ∧ (yes = true → True)) (fun _ => J) I :=
    triple_post asks fun _ w holds => ⟨holds, fun _ => trivial⟩
  exact triple_post (wait_triple answers) fun _ w post => post.1

theorem health_keeps : Keeps J I health := by
  refine keeps_bind (good_keeps steady) ?_
  intro yes
  cases yes with
  | true => exact keeps_bind (emit_keeps steady rfl) fun _ => keeps_pure true
  | false => exact keeps_pure false

theorem waitHealth_keeps : Keeps J I waitHealth := wait_keeps (health_keeps steady)

theorem timerStates_keeps (units : List String) : Keeps J I (timerStates units) := by
  induction units with
  | nil => exact keeps_pure []
  | cons unit units ih =>
    exact keeps_bind (good_keeps steady) fun _ => keeps_bind ih fun _ => keeps_pure _

theorem eachUnit_keeps (problem : String) (units : List String) :
    Keeps J I (eachUnit problem units) := by
  induction units with
  | nil => exact keeps_pure ()
  | cons unit units ih => exact keeps_bind (require_keeps steady _) fun _ => ih

theorem memoryFree_keeps : Keeps J I memoryFree :=
  keeps_bind (good_keeps steady) fun _ => keeps_bind (good_keeps steady) fun _ => keeps_pure _

theorem removeContainer_keeps (name : String) {X : Fault → World → Prop} :
    Triple J (removeContainer name) (fun _ => J) X I := by
  refine triple_handle (keeps_bind (act_keeps steady) ?_) fun _ => triple_pure fun _ holds => holds
  intro status
  cases status with
  | none => exact keeps_pure none
  | some out =>
    dsimp only
    split
    · exact keeps_pure none
    · exact keeps_pure _

omit steady in
theorem check_keeps (holds : Bool) (problem : String) : Keeps J I (check holds problem) := by
  unfold check
  split
  · exact keeps_pure ()
  · exact keeps_raise _

theorem drainServing_keeps : Keeps J I drainServing := by
  refine keeps_bind (health_keeps steady) ?_
  intro serving
  cases serving with
  | true =>
    exact keeps_bind (wait_keeps (good_keeps steady)) fun drained => check_keeps drained _
  | false => exact keeps_pure ()

theorem phasePreflight_keeps : Keeps J I phasePreflight := by
  have asked := require_keeps steady
  have done := perform_keeps steady
  exact keeps_bind (asked _) fun _ => keeps_bind (asked _) fun _ => keeps_bind done fun _ =>
    keeps_bind done fun _ => keeps_bind (record_keeps steady (fun _ => rfl) (fun _ => rfl)) fun _ =>
    keeps_bind (save_keeps steady) fun _ => keeps_bind (asked _) fun _ =>
    keeps_bind (drainServing_keeps steady) fun _ => keeps_bind done fun _ =>
    keeps_bind done fun _ => keeps_bind done fun _ => save_keeps steady

theorem phaseDisarm_keeps : Keeps J I phaseDisarm :=
  keeps_bind (record_keeps steady (fun _ => rfl) (fun _ => rfl)) fun _ =>
    keeps_bind (save_keeps steady) fun _ => keeps_bind (eachUnit_keeps steady _ _) fun _ =>
    keeps_bind (perform_keeps steady) fun _ =>
    keeps_bind (timerStates_keeps steady _) fun _ => check_keeps _ _

theorem phaseStop_keeps : Keeps J I phaseStop :=
  keeps_bind (perform_keeps steady) fun _ =>
    keeps_bind (wait_keeps (good_keeps steady)) fun gone => check_keeps gone _

theorem phaseJudge_keeps : Keeps J I phaseJudge :=
  keeps_bind (require_keeps steady _) fun _ => keeps_bind (require_keeps steady _) fun _ =>
    perform_keeps steady

theorem phaseGates_keeps : Keeps J I phaseGates :=
  keeps_bind (good_keeps steady) fun _ => keeps_bind (good_keeps steady) fun _ =>
    keeps_bind (good_keeps steady) fun _ => keeps_bind (perform_keeps steady) fun _ =>
    keeps_bind (good_keeps steady) fun _ => keeps_bind (check_keeps _ _) fun _ =>
    keeps_bind (check_keeps _ _) fun _ => check_keeps _ _

theorem phaseRearm_keeps : Keeps J I phaseRearm :=
  keeps_bind (emit_keeps steady rfl) fun _ => keeps_bind (eachUnit_keeps steady _ _) fun _ =>
    keeps_bind (timerStates_keeps steady _) fun _ => keeps_bind (check_keeps _ _) fun _ =>
    emit_keeps steady rfl

end SteadySteps

theorem Steady.confirmed {J I : World → Prop} (steady : Steady J I) (named : Bool) :
    Steady (fun w => J w ∧ unconfirmed named w.trace = false) I where
  used w n holds := ⟨steady.used w n holds.1, holds.2⟩
  saved w holds := ⟨steady.saved w holds.1, holds.2⟩
  calm w e calm holds := by
    refine ⟨steady.calm w e calm holds.1, ?_⟩
    cases e <;> first | exact holds.2 | exact absurd calm Bool.false_ne_true
  receipt w r same phases holds := ⟨steady.receipt w r same phases holds.1, holds.2⟩
  interrupted w holds := steady.interrupted w holds.1

theorem Steady.containing {J I : World → Prop} (steady : Steady J I) (c : Option String) :
    Steady (fun w => J w ∧ w.receipt.container = c) I where
  used w n holds := ⟨steady.used w n holds.1, holds.2⟩
  saved w holds := ⟨steady.saved w holds.1, holds.2⟩
  calm w e calm holds := ⟨steady.calm w e calm holds.1, holds.2⟩
  receipt w r same phases holds := by
    refine ⟨steady.receipt w r same phases holds.1, ?_⟩
    rw [← holds.2]
    simp only [Receipt.container, same]
  interrupted w holds := steady.interrupted w holds.1

section SoundSteps
variable {named : Bool} {J I : World → Prop} (sound : Sound named J I)
include sound

theorem cleanupContainer_triple {X : Fault → World → Prop} : Triple J cleanupContainer
    (fun problem w => J w ∧ (problem = none → unconfirmed named w.trace = false) ∧
      (problem ≠ none → ∃ earlier, w.trace = .removal false :: earlier)) X I := by
  refine triple_bind (Q := fun name w => J w ∧ w.receipt.container = name)
    (triple_inspect fun w holds => ⟨holds, rfl⟩) ?_
  intro name
  cases name with
  | none =>
    refine triple_pure ?_
    intro w holds
    exact ⟨holds.1, fun _ => sound.unnamed w holds.1 holds.2, fun some => absurd rfl some⟩
  | some name =>
    have steady := sound.toSteady.containing (some name)
    refine triple_bind (removeContainer_keeps steady name) ?_
    intro problem
    refine triple_bind (Q := fun _ w => J w ∧ ∃ earlier,
      w.trace = .removal problem.isNone :: earlier) (triple_modify ?_) fun _ => triple_pure ?_
    · intro w holds
      refine ⟨sound.removal w _ ?_ holds.1, w.trace, rfl⟩
      rw [holds.2]
      exact Option.some_ne_none name
    · rintro w ⟨holds, earlier, last⟩
      refine ⟨holds, ?_, ?_⟩
      · rintro rfl
        rw [last]
        rfl
      · intro some
        refine ⟨earlier, ?_⟩
        rw [last, Option.isNone_eq_false_iff.mpr (Option.isSome_iff_ne_none.mpr some)]

theorem cleanupContainer_keeps : Keeps J I cleanupContainer :=
  triple_post (cleanupContainer_triple sound) fun _ _ post => post.1

theorem guardedStart_keeps : Triple (fun w => J w ∧ unconfirmed named w.trace = false) guardedStart
    (fun _ => J) (fun _ => J) I :=
  triple_bind (Q := fun _ => J) (triple_modify fun w holds => sound.guarded w holds.2 holds.1)
    fun _ => require_keeps sound.toSteady _

theorem startUnlessHealthy_keeps :
    Triple (fun w => J w ∧ unconfirmed named w.trace = false) startUnlessHealthy
      (fun _ => J) (fun _ => J) I := by
  have asked := health_keeps (sound.toSteady.confirmed named)
  refine triple_bind (triple_conseq asked (fun _ holds => holds) (fun _ _ post => post)
    (fun _ _ post => post.1) (fun _ post => post)) ?_
  intro healthy
  cases healthy with
  | true => exact triple_pure fun _ holds => holds.1
  | false =>
    exact triple_bind (guardedStart_keeps sound) fun _ =>
      keeps_bind (waitHealth_keeps sound.toSteady) fun _ => check_keeps _ _

theorem phaseStart_keeps : Keeps J I phaseStart := by
  refine triple_bind (cleanupContainer_triple sound) ?_
  intro problem
  cases problem with
  | some orphan => exact triple_raise fun _ holds => holds.1
  | none =>
    refine triple_bind (Q := fun _ => J) ?_ fun _ => perform_keeps sound.toSteady
    exact triple_pre (startUnlessHealthy_keeps sound) fun _ holds => ⟨holds.1, holds.2.1 rfl⟩

theorem profile_keeps : Keeps J I profile := by
  refine keeps_bind (keeps_handle (act_keeps sound.toSteady) ?_) ?_
  · intro e
    split
    · exact keeps_bind (cleanupContainer_keeps sound) fun _ => keeps_raise _
    · exact keeps_raise e
  · intro status
    cases status with
    | none => exact keeps_pure ()
    | some text => exact keeps_bind (cleanupContainer_keeps sound) fun _ => keeps_raise _

theorem nameContainer_keeps : Keeps J I nameContainer := by
  refine keeps_bind (keeps_inspect _) ?_
  intro clock
  refine keeps_bind (keeps_modify ?_) fun _ => save_keeps sound.toSteady
  intro w holds
  refine sound.container w _ ?_ holds
  intro empty
  have length := congrArg String.length empty
  rw [String.length_append] at length
  exact absurd length (by simp)

theorem phaseCapture_keeps : Keeps J I phaseCapture := by
  have asked := require_keeps sound.toSteady
  have done := perform_keeps sound.toSteady
  have image : Keeps J I resolveImage := by
    refine keeps_bind (good_keeps sound.toSteady) ?_
    intro found
    cases found with
    | true => exact keeps_pure ()
    | false => exact asked _
  exact keeps_bind (wait_keeps (memoryFree_keeps sound.toSteady)) fun _ =>
    keeps_bind (check_keeps _ _) fun _ => keeps_bind (asked _) fun _ => keeps_bind image fun _ =>
    keeps_bind done fun _ => keeps_bind (nameContainer_keeps sound) fun _ =>
    keeps_bind (profile_keeps sound) fun _ => keeps_bind (asked _) fun _ =>
    keeps_bind done fun _ => keeps_bind (asked _) fun _ => keeps_bind (asked _) fun _ =>
    keeps_bind (asked _) fun _ => asked _

theorem handlers_keep (p : Phase) : Keeps J I (handlers p) := by
  have steady := sound.toSteady
  cases p with
  | preflight => exact phasePreflight_keeps steady
  | disarm => exact phaseDisarm_keeps steady
  | stop => exact phaseStop_keeps steady
  | capture => exact phaseCapture_keeps sound
  | judge => exact phaseJudge_keeps steady
  | start => exact phaseStart_keeps sound
  | gates => exact phaseGates_keeps steady
  | rearm => exact phaseRearm_keeps steady

end SoundSteps

end OccupancyWindow
