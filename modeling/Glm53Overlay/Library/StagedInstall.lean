import Mathlib.Logic.Function.Basic
import Mathlib.Data.List.Basic

/-!
An installer that checks every target before it writes the first one. A check returns the
content to write, or nothing when the target is complete. The run is all-or-nothing by
construction; it is idempotent as soon as what a check asks to write passes that check.
-/
namespace StagedInstall
variable {T F E : Type} [DecidableEq T]

/-- Check every target in turn: the writes to make, or the first error. -/
def stage (check : T → F → Except E (Option F)) (files : T → F) :
    List T → Except E (List (T × F))
  | [] => .ok []
  | t :: rest => do
    let write ← check t (files t)
    let writes ← stage check files rest
    return (write.map (t, ·)).toList ++ writes

def applyWrites (files : T → F) : List (T × F) → T → F
  | [] => files
  | (t, f) :: rest => applyWrites (Function.update files t f) rest

def install (check : T → F → Except E (Option F)) (targets : List T) (files : T → F) :
    Except E Unit × (T → F) :=
  match stage check files targets with
  | .error e => (.error e, files)
  | .ok writes => (.ok (), applyWrites files writes)

section
variable {check : T → F → Except E (Option F)} {files : T → F}

omit [DecidableEq T] in
theorem stage_cons_ok {t : T} {rest : List T} {writes : List (T × F)}
    (staged : stage check files (t :: rest) = .ok writes) :
    ∃ write later, check t (files t) = .ok write ∧ stage check files rest = .ok later ∧
      writes = (write.map (t, ·)).toList ++ later := by
  rw [stage] at staged
  cases checked : check t (files t) with
  | error e =>
    rw [checked] at staged
    cases staged
  | ok write =>
    rw [checked] at staged
    cases rests : stage check files rest with
    | error e =>
      rw [rests] at staged
      cases staged
    | ok later =>
      rw [rests] at staged
      cases staged
      exact ⟨write, later, rfl, rfl, rfl⟩

omit [DecidableEq T] in
theorem stage_ok {targets : List T} (passed : ∀ t ∈ targets, ∃ write, check t (files t) = .ok write) :
    ∃ writes, stage check files targets = .ok writes := by
  induction targets with
  | nil => exact ⟨[], rfl⟩
  | cons t rest ih =>
    obtain ⟨write, checked⟩ := passed t List.mem_cons_self
    obtain ⟨later, rests⟩ := ih fun s member => passed s (List.mem_cons_of_mem _ member)
    rw [stage, checked, rests]
    exact ⟨_, rfl⟩

omit [DecidableEq T] in
theorem stage_fails {targets : List T} {t : T} {e : E} (listed : t ∈ targets)
    (failed : check t (files t) = .error e) :
    ∃ e', stage check files targets = .error e' := by
  induction targets with
  | nil => cases listed
  | cons s rest ih =>
    cases staged : stage check files (s :: rest) with
    | error e' => exact ⟨e', rfl⟩
    | ok writes =>
      obtain ⟨write, later, checked, rests, _⟩ := stage_cons_ok staged
      rcases List.mem_cons.mp listed with rfl | inRest
      · rw [failed] at checked
        cases checked
      · obtain ⟨e', wrong⟩ := ih inRest
        rw [rests] at wrong
        cases wrong

omit [DecidableEq T] in
theorem stage_targets {targets : List T} {writes : List (T × F)}
    (staged : stage check files targets = .ok writes) : ∀ w ∈ writes, w.1 ∈ targets := by
  induction targets generalizing writes with
  | nil =>
    cases staged
    exact fun _ none => (by cases none)
  | cons t rest ih =>
    obtain ⟨write, later, _, rests, rfl⟩ := stage_cons_ok staged
    intro w member
    rcases List.mem_append.mp member with here | there
    · cases write with
      | none => cases here
      | some f =>
        rw [List.mem_singleton.mp here]
        exact List.mem_cons_self
    · exact List.mem_cons_of_mem _ (ih rests w there)

theorem applyWrites_other {writes : List (T × F)} {t : T} (other : ∀ w ∈ writes, w.1 ≠ t) :
    ∀ files : T → F, applyWrites files writes t = files t := by
  induction writes with
  | nil =>
    intro files
    rfl
  | cons w rest ih =>
    intro files
    rw [applyWrites, ih (fun v member => other v (List.mem_cons_of_mem _ member)),
      Function.update_of_ne (Ne.symm (other w List.mem_cons_self))]

theorem complete_after {targets : List T} (distinct : targets.Nodup)
    (settles : ∀ t f g, check t f = .ok (some g) → check t g = .ok none) :
    ∀ {files now : T → F} {writes : List (T × F)}, stage check files targets = .ok writes →
      (∀ t ∈ targets, now t = files t) → ∀ t ∈ targets,
      check t (applyWrites now writes t) = .ok none := by
  induction targets with
  | nil =>
    intro files now writes _ _ t none
    cases none
  | cons s rest ih =>
    intro files now writes staged same t member
    obtain ⟨fresh, restDistinct⟩ := List.nodup_cons.mp distinct
    obtain ⟨write, later, checked, rests, rfl⟩ := stage_cons_ok staged
    have others : ∀ w ∈ later, w.1 ≠ s := by
      intro w inLater wrong
      exact fresh (wrong ▸ stage_targets rests w inLater)
    cases write with
    | none =>
      rcases List.mem_cons.mp member with rfl | inRest
      · rw [Option.map_none, Option.toList_none, List.nil_append, applyWrites_other others,
          same t List.mem_cons_self]
        exact checked
      · exact ih restDistinct rests (fun r listed => same r (List.mem_cons_of_mem _ listed)) t
          inRest
    | some f =>
      rw [Option.map_some, Option.toList_some, List.singleton_append, applyWrites]
      rcases List.mem_cons.mp member with rfl | inRest
      · rw [applyWrites_other others, Function.update_self]
        exact settles t (files t) f checked
      · refine ih restDistinct rests ?_ t inRest
        intro r listed
        have differ : r ≠ s := fun wrong => fresh (wrong ▸ listed)
        rw [Function.update_of_ne differ, same r (List.mem_cons_of_mem _ listed)]

omit [DecidableEq T] in
theorem stage_complete {targets : List T} (complete : ∀ t ∈ targets, check t (files t) = .ok none) :
    stage check files targets = .ok [] := by
  induction targets with
  | nil => rfl
  | cons t rest ih =>
    rw [stage, complete t List.mem_cons_self,
      ih (fun s listed => complete s (List.mem_cons_of_mem _ listed))]
    rfl

end

/-- A check that settles makes the installer all-or-nothing and idempotent: it fails and writes
    nothing, or every target passes its check and a second run changes nothing. -/
theorem install_all_or_nothing {check : T → F → Except E (Option F)} {targets : List T}
    (distinct : targets.Nodup)
    (settles : ∀ t f g, check t f = .ok (some g) → check t g = .ok none) (files : T → F) :
    (∃ e, install check targets files = (.error e, files)) ∨
    ∃ final, install check targets files = (.ok (), final) ∧
      (∀ t ∈ targets, check t (final t) = .ok none) ∧
      install check targets final = (.ok (), final) := by
  cases staged : stage check files targets with
  | error e => exact Or.inl ⟨e, by rw [install, staged]⟩
  | ok writes =>
    have complete := complete_after distinct settles staged (fun _ _ => rfl)
    refine Or.inr ⟨applyWrites files writes, by rw [install, staged], complete, ?_⟩
    rw [install, stage_complete complete]
    rfl

theorem install_refuses {check : T → F → Except E (Option F)} {targets : List T} {files : T → F}
    {t : T} {e : E} (listed : t ∈ targets) (failed : check t (files t) = .error e) :
    ∃ e', install check targets files = (.error e', files) := by
  obtain ⟨e', wrong⟩ := stage_fails listed failed
  exact ⟨e', by rw [install, wrong]⟩

end StagedInstall
