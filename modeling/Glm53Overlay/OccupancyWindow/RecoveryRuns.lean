import Glm53Overlay.OccupancyWindow.PhaseRules
import Glm53Overlay.OccupancyWindow.Recovery

/-!
Whole runs of the window. The parts of the recovery each say what they were seen to do since the
phase failed; a recovery that ends has re-armed, and calls itself ok just after a head that
answered and timers that are active.
-/
namespace OccupancyWindow
open FaultProgram

def Event.isFailure : Event → Bool
  | .phaseFailed _ => true
  | _ => false

def sinceFailure (trace : List Event) : List Event := trace.takeWhile fun e => !e.isFailure

def Seen (e : Event) (w : World) : Prop := e ∈ sinceFailure w.trace

/-- Production was started, found healthy, or left down beside a container that may be there. -/
def Settled (w : World) : Prop :=
  Seen .guardedStart w ∨ Seen .headAnswered w ∨ Seen .leftDown w ∧ Seen (.removal false) w

theorem since_cons {e : Event} (other : e.isFailure = false) (trace : List Event) :
    sinceFailure (e :: trace) = e :: sinceFailure trace := by
  unfold sinceFailure
  rw [List.takeWhile_cons, other]
  rfl

def Grows (G : World → Prop) : Prop :=
  ∀ w w', sinceFailure w.trace ⊆ sinceFailure w'.trace → G w → G w'

theorem seen_grows (e : Event) : Grows (Seen e) := fun _ _ more seen => more seen

theorem settled_grows : Grows Settled := by
  rintro w w' more (start | head | ⟨down, orphan⟩)
  · exact Or.inl (more start)
  · exact Or.inr (Or.inl (more head))
  · exact Or.inr (Or.inr ⟨more down, more orphan⟩)

theorem event_grows {G : World → Prop} (grows : Grows G) {e : Event} (other : e.isFailure = false)
    (w : World) (holds : G w) (r : Receipt) : G { w with receipt := r, trace := e :: w.trace } := by
  refine grows w _ ?_ holds
  rw [since_cons other]
  exact List.subset_cons_self e _

theorem calm_isFailure {e : Event} (calm : e.calm = true) : e.isFailure = false := by
  cases e <;> first | rfl | exact absurd calm Bool.false_ne_true

theorem Steady.also {J I G : World → Prop} (steady : Steady J I) (grows : Grows G) :
    Steady (fun w => J w ∧ G w) I where
  used w n holds := ⟨steady.used w n holds.1, grows w _ (List.Subset.refl _) holds.2⟩
  saved w holds := ⟨steady.saved w holds.1, grows w _ (List.Subset.refl _) holds.2⟩
  calm w e calm holds :=
    ⟨steady.calm w e calm holds.1, event_grows grows (calm_isFailure calm) w holds.2 w.receipt⟩
  receipt w r same phases holds :=
    ⟨steady.receipt w r same phases holds.1, grows w _ (List.Subset.refl _) holds.2⟩
  interrupted w holds := steady.interrupted w holds.1

section Parts
variable {J I : World → Prop}

theorem emit_seen (steady : Steady J I) {e : Event} (calm : e.calm = true)
    {X : Fault → World → Prop} : Triple J (emit e) (fun _ w => J w ∧ Seen e w) X I := by
  refine triple_modify ?_
  intro w holds
  refine ⟨steady.calm w e calm holds, ?_⟩
  unfold Seen
  rw [since_cons (calm_isFailure calm)]
  exact List.mem_cons_self

theorem health_seen (steady : Steady J I) :
    Triple J health (fun yes w => J w ∧ (yes = true → Seen .headAnswered w)) (fun _ => J) I := by
  refine triple_bind (good_keeps steady) ?_
  intro yes
  cases yes with
  | true =>
    exact triple_bind (emit_seen steady rfl) fun _ =>
      triple_pure fun w holds => ⟨holds.1, fun _ => holds.2⟩
  | false => exact triple_pure fun w holds => ⟨holds, fun no => absurd no Bool.false_ne_true⟩

theorem waitHealth_seen (steady : Steady J I) :
    Triple J waitHealth (fun yes w => J w ∧ (yes = true → Seen .headAnswered w)) (fun _ => J) I :=
  wait_triple (health_seen steady)

theorem checkHead_triple (steady : Steady J I) :
    Triple J checkHead (fun checked w => J w ∧ (checked.1 = true → Seen .headAnswered w))
      (fun _ _ => False) I := by
  refine triple_handle (triple_bind (health_seen steady) ?_) ?_
  · intro healthy
    exact triple_pure fun w holds => holds
  · intro e
    exact triple_pure fun w holds => ⟨holds, fun no => absurd no Bool.false_ne_true⟩

theorem startAgain_triple {named : Bool} (sound : Sound named J I) :
    Triple (fun w => J w ∧ unconfirmed named w.trace = false) startAgain
      (fun problems w => J w ∧ Seen .guardedStart w ∧ (problems = [] → Seen .headAnswered w))
      (fun _ _ => False) I := by
  have steady := sound.toSteady.also (seen_grows .guardedStart)
  have started : Triple (fun w => J w ∧ unconfirmed named w.trace = false) guardedStart
      (fun _ w => J w ∧ Seen .guardedStart w) (fun _ w => J w ∧ Seen .guardedStart w) I := by
    refine triple_bind (Q := fun _ w => J w ∧ Seen .guardedStart w) (triple_modify ?_)
      fun _ => require_keeps steady _
    intro w holds
    refine ⟨sound.guarded w holds.2 holds.1, ?_⟩
    unfold Seen
    rw [since_cons rfl]
    exact List.mem_cons_self
  refine triple_handle (Y := fun _ w => J w ∧ Seen .guardedStart w) (triple_bind started fun _ =>
    triple_bind (waitHealth_seen steady) fun ok => triple_bind (Q := fun _ w =>
      (J w ∧ Seen .guardedStart w) ∧ (ok = true → Seen .headAnswered w)) (triple_modify ?_)
      fun _ => triple_pure ?_) ?_
  · rintro w ⟨holds, answered⟩
    exact ⟨steady.receipt w _ rfl rfl holds, answered⟩
  · rintro w ⟨holds, answered⟩
    refine ⟨holds.1, holds.2, ?_⟩
    intro none
    cases ok with
    | true => exact answered rfl
    | false => exact absurd none (List.cons_ne_nil _ _)
  · intro e
    exact triple_pure fun w holds =>
      ⟨holds.1, holds.2, fun none => absurd none (List.cons_ne_nil _ _)⟩

theorem rearmTimers_triple (steady : Steady J I) :
    Triple J rearmTimers (fun problems w => J w ∧ Seen .rearmEntered w ∧
      (problems = [] → Seen .timersActive w)) (fun _ _ => False) I := by
  have entered := steady.also (seen_grows .rearmEntered)
  have rearms : Triple J phaseRearm
      (fun _ w => (J w ∧ Seen .rearmEntered w) ∧ Seen .timersActive w)
      (fun _ w => J w ∧ Seen .rearmEntered w) I := by
    exact triple_bind (emit_seen steady rfl) fun _ =>
      triple_bind (eachUnit_keeps entered _ _) fun _ =>
      triple_bind (timerStates_keeps entered _) fun _ =>
      triple_bind (check_keeps _ _) fun _ => emit_seen entered rfl
  refine triple_handle (triple_bind rearms fun _ => triple_pure ?_) ?_
  · rintro w ⟨holds, active⟩
    exact ⟨holds.1, holds.2, fun _ => active⟩
  · intro e
    exact triple_pure fun w holds =>
      ⟨holds.1, holds.2, fun none => absurd none (List.cons_ne_nil _ _)⟩

theorem ensureProduction_started {named : Bool} (sound : Sound named J I) (healthy : Bool) :
    Triple (fun w => (J w ∧ unconfirmed named w.trace = false) ∧
        (healthy = true → Seen .headAnswered w))
      (ensureProduction healthy none)
      (fun problems w => (J w ∧ Settled w) ∧ (problems = [] → Seen .headAnswered w))
      (fun _ _ => False) I := by
  cases healthy with
  | true =>
    refine triple_bind (Q := fun _ w => J w ∧ Seen .headAnswered w) (triple_modify ?_)
      fun _ => triple_pure ?_
    · intro w holds
      exact ⟨sound.receipt w _ rfl rfl holds.1.1, holds.2 rfl⟩
    · intro w holds
      exact ⟨⟨holds.1, Or.inr (Or.inl holds.2)⟩, fun _ => holds.2⟩
  | false =>
    refine triple_conseq (startAgain_triple sound) (fun w holds => holds.1) ?_
      (fun _ _ none => none) (fun _ post => post)
    intro problems w post
    exact ⟨⟨post.1, Or.inl post.2.1⟩, post.2.2⟩

theorem ensureProduction_orphan (steady : Steady J I) (healthy : Bool) (orphan : String) :
    Triple (fun w => (J w ∧ Seen (.removal false) w) ∧ (healthy = true → Seen .headAnswered w))
      (ensureProduction healthy (some orphan))
      (fun problems w => (J w ∧ Settled w) ∧ (problems = [] → Seen .headAnswered w))
      (fun _ _ => False) I := by
  have kept := steady.also (seen_grows (.removal false))
  cases healthy with
  | true =>
    refine triple_bind (Q := fun _ w => J w ∧ Seen .headAnswered w) (triple_modify ?_)
      fun _ => triple_pure ?_
    · intro w holds
      exact ⟨steady.receipt w _ rfl rfl holds.1.1, holds.2 rfl⟩
    · intro w holds
      exact ⟨⟨holds.1, Or.inr (Or.inl holds.2)⟩, fun _ => holds.2⟩
  | false =>
    refine triple_bind (Q := fun _ w => J w ∧ Seen (.removal false) w) (triple_modify ?_)
      fun _ => triple_bind (emit_seen kept rfl) fun _ => triple_pure ?_
    · intro w holds
      exact kept.receipt w _ rfl rfl holds.1
    · intro w holds
      exact ⟨⟨holds.1.1, Or.inr (Or.inr ⟨holds.2, holds.1.2⟩)⟩,
        fun none => absurd none (List.cons_ne_nil _ _)⟩

theorem recoveryText_ok {problems : List String} (ok : recoveryText problems = "ok") :
    problems = [] := by
  by_contra some
  rw [recoveryText, if_neg some] at ok
  have first := congrArg (fun s : String => s.toList.head?) ok
  simp only [String.toList_append] at first
  exact absurd first (by simp)

def Recovered (w : World) : Prop :=
  Seen .rearmEntered w ∧ Settled w ∧
    (w.receipt.recovery = some "ok" → Seen .headAnswered w ∧ Seen .timersActive w)

theorem rearm_and_report (steady : Steady J I) (earlier restarted : List String) :
    Triple (fun w => (J w ∧ Settled w) ∧ (restarted = [] → Seen .headAnswered w))
      (rearmTimers >>= fun rearmed => record fun r =>
        { r with recovery := some (recoveryText (earlier ++ restarted ++ rearmed)) })
      (fun _ w => J w ∧ Recovered w) (fun _ _ => False) I := by
  have answered : Grows fun w => restarted = [] → Seen .headAnswered w :=
    fun w w' more seen none => more (seen none)
  have rearms := rearmTimers_triple ((steady.also settled_grows).also answered)
  refine triple_bind rearms ?_
  intro rearmed
  refine triple_modify ?_
  rintro w ⟨⟨⟨holds, settled⟩, head⟩, entered, active⟩
  refine ⟨steady.receipt w _ rfl rfl holds, entered, settled, ?_⟩
  intro ok
  have none := recoveryText_ok (Option.some.inj ok)
  obtain ⟨others, last⟩ := List.append_eq_nil_iff.mp none
  exact ⟨head (List.append_eq_nil_iff.mp others).2, active last⟩

/-- No exception escapes a recovery, and one that ends has re-armed. -/
theorem recover_triple {named : Bool} (sound : Sound named J I) :
    Triple J recover (fun _ w => J w ∧ Recovered w) (fun _ _ => False) I := by
  have steady := sound.toSteady
  refine triple_bind (cleanupContainer_triple sound) ?_
  intro orphan
  cases orphan with
  | none =>
    have checks := checkHead_triple (steady.confirmed named)
    refine triple_bind (triple_pre checks fun w holds => ⟨holds.1, holds.2.1 rfl⟩) ?_
    intro checked
    refine triple_bind (ensureProduction_started sound checked.1) ?_
    intro restarted
    exact rearm_and_report steady _ restarted
  | some problem =>
    have orphaned : ∀ w, (∃ earlier, w.trace = .removal false :: earlier) →
        Seen (.removal false) w := by
      rintro w ⟨earlier, last⟩
      unfold Seen
      rw [last, since_cons rfl]
      exact List.mem_cons_self
    have checks := checkHead_triple (steady.also (seen_grows (.removal false)))
    refine triple_bind (triple_pre checks fun w holds =>
      ⟨holds.1, orphaned w (holds.2.2 (Option.some_ne_none problem))⟩) ?_
    intro checked
    refine triple_bind (ensureProduction_orphan steady checked.1 problem) ?_
    intro restarted
    exact rearm_and_report steady _ restarted

end Parts

/-- What every step of a run keeps: no start beside a container that may be there. -/
structure Held (named : Bool) (w : World) : Prop where
  guarded : Guarded named w.trace
  unnamed : w.receipt.container = none → unconfirmed named w.trace = false

theorem Held.event {named : Bool} {w : World} (held : Held named w) {e : Event} (r : Receipt)
    (quiet : e.calm = true ∨ e.isFailure = true) (same : r.containerName = w.receipt.containerName) :
    Held named { w with receipt := r, trace := e :: w.trace } := by
  have container : r.container = w.receipt.container := by simp only [Receipt.container, same]
  have other : Guarded named (e :: w.trace) = Guarded named w.trace ∧
      unconfirmed named (e :: w.trace) = unconfirmed named w.trace := by
    cases e <;> first | exact ⟨rfl, rfl⟩ | (rcases quiet with no | no <;> cases no)
  constructor
  · dsimp only
    rw [other.1]
    exact held.guarded
  · dsimp only
    rw [other.2, container]
    exact held.unnamed

theorem Held.receipt {named : Bool} {w : World} (held : Held named w) (r : Receipt)
    (same : r.containerName = w.receipt.containerName) : Held named { w with receipt := r } := by
  refine ⟨held.guarded, ?_⟩
  have container : r.container = w.receipt.container := by simp only [Receipt.container, same]
  dsimp only
  rw [container]
  exact held.unnamed

theorem held_sound (named : Bool) {G I : World → Prop}
    (other : ∀ w w', w'.outcomes = w.outcomes → w'.receipt.phases = w.receipt.phases →
      (∀ p, Event.phaseFailed p ∈ w'.trace ↔ Event.phaseFailed p ∈ w.trace) → G w → G w')
    (interrupted : ∀ w, Held named w ∧ G w → w.outcomes w.used = .interrupted →
      I { w with used := w.used + 1 }) :
    Sound named (fun w => Held named w ∧ G w) I where
  used w n holds := ⟨⟨holds.1.guarded, holds.1.unnamed⟩,
    other w _ rfl rfl (fun _ => Iff.rfl) holds.2⟩
  saved w holds := ⟨⟨holds.1.guarded, holds.1.unnamed⟩,
    other w _ rfl rfl (fun _ => Iff.rfl) holds.2⟩
  calm w e calm holds := by
    refine ⟨holds.1.event w.receipt (Or.inl calm) rfl, other w _ rfl rfl ?_ holds.2⟩
    intro p
    cases e <;> simp_all [Event.calm]
  receipt w r same phases holds :=
    ⟨holds.1.receipt r same, other w _ rfl phases (fun _ => Iff.rfl) holds.2⟩
  interrupted := interrupted
  unnamed w holds := holds.1.unnamed
  container w name nonempty holds := by
    refine ⟨⟨holds.1.guarded, ?_⟩, other w _ rfl rfl (fun _ => by simp) holds.2⟩
    intro none
    simp [Receipt.container, nonempty] at none
  removal w confirmed there holds :=
    ⟨⟨holds.1.guarded, fun none => absurd none there⟩, other w _ rfl rfl (fun _ => by simp) holds.2⟩
  guarded w confirmed holds :=
    ⟨⟨⟨confirmed, holds.1.guarded⟩, fun _ => confirmed⟩,
      other w _ rfl rfl (fun _ => by simp) holds.2⟩

def NoFailure (w : World) : Prop := ∀ p, Event.phaseFailed p ∉ w.trace

def Entered (prior : Phase → Option String) (run : List Phase) (w : World) : Prop :=
  ∀ q, (prior q).isSome = true ∨ q ∈ run → (w.receipt.phases q).isSome = true

theorem update_isSome {f : Phase → Option String} {p q : Phase} {status : String}
    (old : (f q).isSome = true ∨ q = p) : (Function.update f p (some status) q).isSome = true := by
  by_cases same : q = p
  · rw [same, Function.update_self]
    rfl
  · rw [Function.update_of_ne same]
    exact old.resolve_right same

section Loop
variable {named : Bool}

theorem phaseLoop_triple {X : Fault → World → Prop} {I : World → Prop} (order : List Phase) :
    ∀ prior : Phase → Option String,
    Triple (fun w => Held named w ∧ (w.receipt.phases = prior ∧ NoFailure w)) (phaseLoop order)
      (fun failure w => (Held named w ∧ NoFailure w) ∧ ∀ p e, failure = some (p, e) →
        ∃ earlier later, order = earlier ++ p :: later ∧ Entered prior (earlier ++ [p]) w) X I := by
  induction order with
  | nil =>
    intro prior
    exact triple_pure fun w holds => ⟨⟨holds.1, holds.2.2⟩, fun p e none => by cases none⟩
  | cons p rest ih =>
    intro prior
    have enters : ∀ (status : String) (before : Phase → Option String),
        Triple (fun w => Held named w ∧ (w.receipt.phases = before ∧ NoFailure w))
          (record fun r => { r with phases := Function.update r.phases p (some status) })
          (fun _ w => Held named w ∧
            (w.receipt.phases = Function.update before p (some status) ∧ NoFailure w)) X I := by
      intro status before
      refine triple_modify ?_
      rintro w ⟨held, rfl, none⟩
      exact ⟨held.receipt _ rfl, rfl, none⟩
    have saves : ∀ now : Phase → Option String,
        Triple (fun w => Held named w ∧ (w.receipt.phases = now ∧ NoFailure w)) save
          (fun _ w => Held named w ∧ (w.receipt.phases = now ∧ NoFailure w)) X I := by
      intro now
      refine triple_modify ?_
      rintro w ⟨held, same, none⟩
      exact ⟨⟨held.guarded, held.unnamed⟩, same, none⟩
    have sound : ∀ now : Phase → Option String, Sound named
        (fun w => Held named w ∧ (w.receipt.phases = now ∧ NoFailure w))
        (fun w => Held named w ∧ (w.receipt.phases = now ∧ NoFailure w)) := by
      intro now
      refine held_sound named ?_ ?_
      · rintro w w' _ phases failures ⟨same, none⟩
        exact ⟨phases.trans same, fun q failed => none q ((failures q).mp failed)⟩
      · rintro w ⟨held, rest⟩ _
        exact ⟨⟨held.guarded, held.unnamed⟩, rest⟩
    refine triple_bind (enters "running" prior) fun _ => triple_bind (saves _) fun _ =>
      triple_bind (triple_attempt (handlers_keep (sound _) p)) ?_
    intro outcome
    cases outcome with
    | ok _ =>
      refine triple_bind (enters "ok" _) fun _ => triple_bind (saves _) fun _ =>
        triple_post (ih _) ?_
      rintro failure w ⟨clean, failed⟩
      refine ⟨clean, ?_⟩
      intro q e found
      obtain ⟨earlier, later, split, entered⟩ := failed q e found
      refine ⟨p :: earlier, later, by rw [split, List.cons_append], ?_⟩
      rintro r (before | among)
      · exact entered r (Or.inl (update_isSome (Or.inl (update_isSome (Or.inl before)))))
      · rcases List.mem_cons.mp among with rfl | among
        · exact entered r (Or.inl (update_isSome (Or.inr rfl)))
        · exact entered r (Or.inr among)
    | error e =>
      refine triple_pure ?_
      intro w holds
      have kept : Held named w ∧
          (w.receipt.phases = Function.update prior p (some "running") ∧ NoFailure w) := by
        cases e <;> exact holds
      refine ⟨⟨kept.1, kept.2.2⟩, ?_⟩
      rintro q e' found
      cases found
      refine ⟨[], rest, rfl, ?_⟩
      rintro r (before | among)
      · rw [kept.2.1]
        exact update_isSome (Or.inl before)
      · rw [kept.2.1, List.mem_singleton.mp among]
        exact update_isSome (Or.inr rfl)

end Loop

/-- What a failed window leaves: re-armed and settled since the failure, and on the final
    receipt an ok only behind a head that answered and timers that are active. -/
def Restored (w : World) : Prop :=
  Seen .rearmEntered w ∧ Settled w ∧ ∃ r, w.saved = some r ∧ r.finished = true ∧
    (r.recovery = some "ok" → Seen .headAnswered w ∧ Seen .timersActive w)

def OnlyFailure (p : Phase) (w : World) : Prop := ∀ q, Event.phaseFailed q ∈ w.trace → q = p

section AfterFailure
variable {named : Bool} (env : Environment) (p : Phase)

def Failed (named : Bool) (w : World) : Prop :=
  Held named w ∧ (w.outcomes = env.recoveryOutcomes ∧ OnlyFailure p w)

theorem failed_sound {I : World → Prop} (interrupted : ∀ w, Failed env p named w →
    w.outcomes w.used = .interrupted → I { w with used := w.used + 1 }) :
    Sound named (Failed env p named) I := by
  refine held_sound named ?_ interrupted
  rintro w w' outcomes _ failures ⟨same, only⟩
  exact ⟨outcomes.trans same, fun q failed => only q ((failures q).mp failed)⟩

theorem noteFailure_triple (e : Raised Fault) {recorded : Prop} {X : Fault → World → Prop}
    {I : World → Prop} :
    Triple (fun w => (Held named w ∧ NoFailure w) ∧
        (recorded → (w.receipt.phases .disarm).isSome = true))
      (noteFailure env p e)
      (fun _ w => Failed env p named w ∧ (recorded → (w.receipt.phases .disarm).isSome = true))
      X I := by
  rintro w ⟨⟨held, none⟩, disarmed⟩
  refine ⟨⟨?_, rfl, ?_⟩, ?_⟩
  · have noted := held.event (e := .phaseFailed p)
      { w.receipt with
        error := some (failureText e)
        phases := Function.update w.receipt.phases p (some ("FAILED: " ++ failureText e)) }
      (Or.inr rfl) rfl
    exact ⟨noted.guarded, noted.unnamed⟩
  · intro q failed
    rcases List.mem_cons.mp failed with same | before
    · exact Event.phaseFailed.inj same
    · exact absurd before (none q)
  · intro known
    exact update_isSome (Or.inl (disarmed known))

theorem recoverDisarmed_triple {I : World → Prop} (sound : Sound named (Failed env p named) I)
    (recorded : Prop) :
    Triple (fun w => Failed env p named w ∧
        (recorded → (w.receipt.phases .disarm).isSome = true))
      recoverDisarmed (fun _ w => Failed env p named w ∧ (recorded → Recovered w))
      (fun _ _ => False) I := by
  refine triple_bind (Q := fun disarmed w => Failed env p named w ∧ (recorded → disarmed = true))
    (triple_inspect fun w holds => holds) ?_
  intro disarmed
  cases disarmed with
  | true =>
    refine triple_handle (Y := fun _ _ => False) ?_ fun _ => fun w none => none.elim
    exact triple_conseq (recover_triple sound) (fun w holds => holds.1)
      (fun _ w post => ⟨post.1, fun _ => post.2⟩) (fun _ _ none => none) (fun _ post => post)
  | false =>
    refine triple_handle (Y := fun _ _ => False) ?_ fun _ => fun w none => none.elim
    by_cases known : recorded
    · intro w holds
      exact absurd (holds.2 known) Bool.false_ne_true
    · refine triple_bind (triple_pre (cleanupContainer_triple sound) fun w holds => holds.1) ?_
      intro problem
      exact triple_pure fun w holds => ⟨holds.1, fun yes => absurd yes known⟩

theorem finish_triple {recorded : Prop} {X : Fault → World → Prop} {I : World → Prop} :
    Triple (fun w => Failed env p named w ∧ (recorded → Recovered w)) finish
      (fun _ w => (Held named w ∧ OnlyFailure p w) ∧ (recorded → Restored w)) X I := by
  rintro w ⟨⟨held, _, only⟩, recovered⟩
  refine ⟨⟨⟨held.guarded, held.unnamed⟩, only⟩, ?_⟩
  intro known
  obtain ⟨entered, settled, ok⟩ := recovered known
  exact ⟨entered, settled, _, rfl, rfl, ok⟩

end AfterFailure

theorem phases_sorted : phases.Pairwise fun p q => p.index < q.index := by decide

theorem disarm_entered {args : Args} (ranged : Phase.disarm ∈ order args)
    {earlier later : List Phase} {p : Phase} (split : order args = earlier ++ p :: later)
    (late : Phase.disarm.index ≤ p.index) : Phase.disarm ∈ earlier ++ [p] := by
  have sorted : (order args).Pairwise fun p q => p.index < q.index :=
    phases_sorted.sublist ((List.drop_sublist _ _).trans (List.take_sublist _ _))
  rw [split] at sorted ranged
  rcases List.mem_append.mp ranged with before | after
  · exact List.mem_append_left _ before
  · rcases List.mem_cons.mp after with same | beyond
    · rw [same]
      exact List.mem_append_right _ List.mem_cons_self
    · have less := (List.pairwise_cons.mp (List.pairwise_append.mp sorted).2.1).1 _ beyond
      omega

/-- The disarm phase is in the range or on the resumed receipt. -/
def Disarms (args : Args) (prior : Receipt) : Prop :=
  Phase.disarm ∈ order args ∨ (prior.phases .disarm).isSome = true

def RestoresFailures (args : Args) (prior : Receipt) (w : World) : Prop :=
  ∀ p, Phase.disarm.index ≤ p.index → Event.phaseFailed p ∈ w.trace → Disarms args prior →
    Restored w

theorem no_failure_restores {args : Args} {prior : Receipt} {w : World} (none : NoFailure w) :
    RestoresFailures args prior w := fun p _ failed => absurd failed (none p)

theorem window_triple (args : Args) (env : Environment) (named : Bool) (prior : Receipt)
    {I : World → Prop} (interrupted : ∀ p w, Failed env p named w →
      w.outcomes w.used = .interrupted → I { w with used := w.used + 1 }) :
    Triple (fun w => (Held named w ∧ NoFailure w) ∧ w.receipt = prior) (window args env)
      (fun _ w => Held named w ∧ RestoresFailures args prior w)
      (fun _ w => Held named w ∧ RestoresFailures args prior w) I := by
  have ended : ∀ w, (Held named w ∧ NoFailure w) ∧ w.receipt = prior →
      Held named w ∧ RestoresFailures args prior w :=
    fun w holds => ⟨holds.1.1, no_failure_restores holds.1.2⟩
  refine triple_bind (Q := fun _ w => (Held named w ∧ NoFailure w) ∧ w.receipt = prior)
    (triple_inspect fun w holds => holds) ?_
  intro seen
  split
  · exact triple_pure ended
  split
  · exact triple_pure ended
  refine triple_bind (Q := fun _ w => Held named w ∧ (w.receipt.phases = prior.phases ∧ NoFailure w))
    (triple_modify ?_) fun _ => triple_bind (Q := fun _ w =>
      Held named w ∧ (w.receipt.phases = prior.phases ∧ NoFailure w)) (triple_modify ?_) fun _ => ?_
  · rintro w ⟨⟨held, none⟩, rfl⟩
    exact ⟨held.receipt _ rfl, rfl, none⟩
  · rintro w ⟨held, same, none⟩
    exact ⟨⟨held.guarded, held.unnamed⟩, same, none⟩
  split
  · exact triple_raise fun w holds => ⟨holds.1, no_failure_restores holds.2.2⟩
  refine triple_bind (phaseLoop_triple (order args) prior.phases) ?_
  intro failure
  rcases failure with _ | ⟨p, e⟩
  · refine triple_bind (Q := fun _ w => Held named w ∧ RestoresFailures args prior w) ?_
      fun _ => triple_pure fun _ holds => holds
    rintro w ⟨⟨held, none⟩, _⟩
    exact ⟨⟨held.guarded, held.unnamed⟩, no_failure_restores none⟩
  · -- from the failure on, what has to be on the receipt is on it
    have recorded : ∀ w, ((Held named w ∧ NoFailure w) ∧ ∀ q e', some (p, e) = some (q, e') →
        ∃ earlier later, order args = earlier ++ q :: later ∧
          Entered prior.phases (earlier ++ [q]) w) →
        (Held named w ∧ NoFailure w) ∧ (Phase.disarm.index ≤ p.index ∧ Disarms args prior →
          (w.receipt.phases .disarm).isSome = true) := by
      rintro w ⟨clean, found⟩
      refine ⟨clean, ?_⟩
      rintro ⟨late, disarms⟩
      obtain ⟨earlier, later, split, entered⟩ := found p e rfl
      rcases disarms with ranged | before
      · exact entered _ (Or.inr (disarm_entered ranged split late))
      · exact entered _ (Or.inl before)
    have recovers := recoverDisarmed_triple env p (failed_sound env p (interrupted p))
      (Phase.disarm.index ≤ p.index ∧ Disarms args prior)
    refine triple_bind (triple_pre (noteFailure_triple env p e) recorded) fun _ =>
      triple_bind (triple_conseq recovers (fun _ holds => holds) (fun _ _ post => post)
        (fun _ _ none => none.elim) (fun _ post => post)) fun _ =>
      triple_bind (finish_triple env p) fun _ => triple_pure ?_
    rintro w ⟨⟨held, only⟩, restored⟩
    refine ⟨held, ?_⟩
    intro q late failed disarms
    exact restored ⟨only q failed ▸ late, disarms⟩

def namedAtStart (resumed : Option Receipt) : Bool :=
  (resumed.getD emptyReceipt).container.isSome

theorem start_held (resumed : Option Receipt) (env : Environment) :
    Held (namedAtStart resumed) (start resumed env) := by
  refine ⟨trivial, ?_⟩
  intro none
  change (resumed.getD emptyReceipt).container = Option.none at none
  change namedAtStart resumed = false
  rw [namedAtStart, none]
  rfl

/-- In every run no production is started beside a container that may be there; and in every run
    whose recovery is not interrupted, and whose range or receipt has the disarm phase, a failure
    from that phase on is restored from. -/
theorem failed_window_restores (args : Args) (resumed : Option Receipt) (env : Environment) :
    Guarded (namedAtStart resumed) (main args resumed env).2.trace ∧
    (Disarms args (resumed.getD emptyReceipt) →
      (∀ k, env.recoveryOutcomes k ≠ .interrupted) →
      ∀ p, Phase.disarm.index ≤ p.index → Event.phaseFailed p ∈ (main args resumed env).2.trace →
        Restored (main args resumed env).2) := by
  have initially : (Held (namedAtStart resumed) (start resumed env) ∧ NoFailure (start resumed env)) ∧
      (start resumed env).receipt = resumed.getD emptyReceipt :=
    ⟨⟨start_held resumed env, fun _ => List.not_mem_nil⟩, rfl⟩
  constructor
  · have held := window_triple args env (namedAtStart resumed) (resumed.getD emptyReceipt)
      (I := Held (namedAtStart resumed))
      (fun p w failed _ => ⟨failed.1.guarded, failed.1.unnamed⟩) _ initially
    unfold main
    rcases result : window args env (start resumed env) with ⟨outcome, w⟩
    rw [result] at held
    rcases outcome with (_ | _) | _
    · exact held.1.guarded
    · exact held.guarded
    · exact held.1.guarded
  · intro disarms quiet p late failed
    have ends := window_triple args env (namedAtStart resumed) (resumed.getD emptyReceipt)
      (I := fun _ => False)
      (fun p w holds stopped => quiet w.used (holds.2.1 ▸ stopped)) _ initially
    unfold main at failed ⊢
    rcases result : window args env (start resumed env) with ⟨outcome, w⟩
    rw [result] at ends failed
    rcases outcome with (_ | _) | _
    · exact ends.2 p late failed disarms
    · exact ends.elim
    · exact ends.2 p late failed disarms

/-- Every action of the phases is good, so the timers are still active after the disarm; the
    recovery meets `recovery` alone. -/
def disarmFails (recovery : Outcome) : Environment :=
  ⟨fun _ => .ok, fun _ => recovery, fun _ => 2, fun _ => 2, "20260909-120000"⟩

theorem good_recovery_restores :
    Event.phaseFailed .disarm ∈ (main ⟨.preflight, .rearm, false⟩ none (disarmFails .ok)).2.trace ∧
      Restored (main ⟨.preflight, .rearm, false⟩ none (disarmFails .ok)).2 := by
  have failed : Event.phaseFailed .disarm ∈
      (main ⟨.preflight, .rearm, false⟩ none (disarmFails .ok)).2.trace := by decide +kernel
  refine ⟨failed, (failed_window_restores _ none (disarmFails .ok)).2 (Or.inl (by decide)) ?_
    .disarm (Nat.le_refl _) failed⟩
  intro k stopped
  cases stopped

/-- The stop phase fails: the head container never goes. -/
def stopFails : Environment :=
  ⟨fun _ => .bad "glm53-exl3-head", fun _ => .ok, fun _ => 2, fun _ => 2, "20260909-120000"⟩

/-- Resumed past a disarm that is not on the receipt, a failed stop is not recovered from; and an
    interrupt in the recovery ends the window before the re-arm. -/
theorem recovery_not_reached :
    (Event.phaseFailed .stop ∈ (main ⟨.stop, .rearm, false⟩
        (some { emptyReceipt with backup := true }) stopFails).2.trace ∧
      Event.rearmEntered ∉ (main ⟨.stop, .rearm, false⟩
        (some { emptyReceipt with backup := true }) stopFails).2.trace ∧
      Event.guardedStart ∉ (main ⟨.stop, .rearm, false⟩
        (some { emptyReceipt with backup := true }) stopFails).2.trace) ∧
    Event.phaseFailed .disarm ∈
      (main ⟨.preflight, .rearm, false⟩ none (disarmFails .interrupted)).2.trace ∧
    Event.rearmEntered ∉
      (main ⟨.preflight, .rearm, false⟩ none (disarmFails .interrupted)).2.trace := by
  decide +kernel

end OccupancyWindow
