import Mathlib.Data.List.Basic
import Mathlib.Logic.Function.Basic

/-!
A shell script that checks and assigns variables, as a list of steps. A step either fails, which
ends the script, or changes only the variables it declares.
-/
namespace ShellVars

/-- The variables of a shell; `none` is unset. -/
abbrev Vars := String → Option String

/-- `$name`, an unset variable being empty. -/
def Vars.text (vars : Vars) (name : String) : String := (vars name).getD ""

/-- `${name-default}`. -/
def Vars.orUnset (vars : Vars) (name default : String) : String := (vars name).getD default

/-- `${name:-default}`. -/
def Vars.orEmpty (vars : Vars) (name default : String) : String :=
  if vars.text name = "" then default else vars.text name

@[simp] theorem text_update_self (vars : Vars) (name value : String) :
    Vars.text (Function.update vars name (some value)) name = value := by
  unfold Vars.text
  rw [Function.update_self, Option.getD_some]

@[simp] theorem text_update_of_ne (vars : Vars) {name other : String} (different : name ≠ other)
    (value : Option String) : Vars.text (Function.update vars other value) name = vars.text name := by
  unfold Vars.text
  rw [Function.update_of_ne different]

@[simp] theorem or_empty_update_of_ne (vars : Vars) {name other : String}
    (different : name ≠ other) (value : Option String) (default : String) :
    Vars.orEmpty (Function.update vars other value) name default = vars.orEmpty name default := by
  unfold Vars.orEmpty
  rw [text_update_of_ne vars different]

structure Step where
  writes : List String
  run : Vars → Option Vars
  frame : ∀ {vars vars' : Vars}, run vars = some vars' → ∀ name, name ∉ writes →
    vars' name = vars name

def Step.check (ok : Vars → Bool) : Step where
  writes := []
  run := fun vars => if ok vars then some vars else none
  frame := by
    intro vars vars' ran name _
    split at ran
    · rw [Option.some.inj ran]
    · exact absurd ran (by simp)

/-- `name=value`. -/
def Step.assign (name : String) (value : Vars → Option String) : Step where
  writes := [name]
  run := fun vars => (value vars).map fun text => Function.update vars name (some text)
  frame := by
    intro vars vars' ran other unwritten
    obtain ⟨text, _, rfl⟩ := Option.map_eq_some_iff.mp ran
    exact Function.update_of_ne (by simpa using unwritten) _ _

def Step.when (condition : Vars → Bool) (step : Step) : Step where
  writes := step.writes
  run := fun vars => if condition vars then step.run vars else some vars
  frame := by
    intro vars vars' ran name unwritten
    split at ran
    · exact step.frame ran name unwritten
    · rw [Option.some.inj ran]

def runSteps : List Step → Vars → Option Vars
  | [], vars => some vars
  | step :: rest, vars => (step.run vars).bind (runSteps rest)

theorem check_run {ok : Vars → Bool} {vars vars' : Vars}
    (ran : (Step.check ok).run vars = some vars') : ok vars = true ∧ vars' = vars := by
  unfold Step.check at ran
  dsimp only at ran
  split at ran
  · rename_i holds
    exact ⟨holds, (Option.some.inj ran).symm⟩
  · exact absurd ran (by simp)

theorem assign_run {name : String} {value : Vars → Option String} {vars vars' : Vars}
    (ran : (Step.assign name value).run vars = some vars') :
    ∃ text, value vars = some text ∧ vars' name = some text := by
  obtain ⟨text, found, rfl⟩ := Option.map_eq_some_iff.mp ran
  exact ⟨text, found, Function.update_self _ _ _⟩

theorem when_run {condition : Vars → Bool} {step : Step} {vars vars' : Vars}
    (ran : (Step.when condition step).run vars = some vars') :
    condition vars = true ∧ step.run vars = some vars' ∨
      condition vars = false ∧ vars' = vars := by
  unfold Step.when at ran
  dsimp only at ran
  split at ran
  · rename_i holds
    exact Or.inl ⟨holds, ran⟩
  · rename_i fails
    exact Or.inr ⟨by simpa using fails, (Option.some.inj ran).symm⟩

theorem run_cons {step : Step} {rest : List Step} {vars vars' : Vars}
    (ran : runSteps (step :: rest) vars = some vars') :
    ∃ next, step.run vars = some next ∧ runSteps rest next = some vars' :=
  Option.bind_eq_some_iff.mp ran

theorem run_append {first second : List Step} : ∀ {vars vars' : Vars},
    runSteps (first ++ second) vars = some vars' →
    ∃ middle, runSteps first vars = some middle ∧ runSteps second middle = some vars' := by
  induction first with
  | nil =>
    intro vars vars' ran
    exact ⟨vars, rfl, ran⟩
  | cons step rest ih =>
    intro vars vars' ran
    obtain ⟨next, stepped, tail⟩ := run_cons ran
    obtain ⟨middle, before, after⟩ := ih tail
    refine ⟨middle, ?_, after⟩
    show (step.run vars).bind (runSteps rest) = some middle
    rw [stepped]
    exact before

theorem run_frame {steps : List Step} : ∀ {vars vars' : Vars}, runSteps steps vars = some vars' →
    ∀ name, name ∉ steps.flatMap Step.writes → vars' name = vars name := by
  induction steps with
  | nil =>
    intro vars vars' ran name _
    rw [Option.some.inj ran]
  | cons step rest ih =>
    intro vars vars' ran name unwritten
    obtain ⟨next, stepped, tail⟩ := run_cons ran
    rw [List.flatMap_cons, List.mem_append, not_or] at unwritten
    rw [ih tail name unwritten.2, step.frame stepped name unwritten.1]

theorem run_member {steps : List Step} {step : Step} (member : step ∈ steps) {vars vars' : Vars}
    (ran : runSteps steps vars = some vars') :
    ∃ met left, step.run met = some left ∧
      ∀ name, name ∉ steps.flatMap Step.writes → met name = vars name := by
  obtain ⟨before, after, rfl⟩ := List.append_of_mem member
  obtain ⟨met, first, rest⟩ := run_append ran
  obtain ⟨left, stepped, _⟩ := run_cons rest
  refine ⟨met, left, stepped, ?_⟩
  intro name unwritten
  apply run_frame first
  intro early
  rw [List.flatMap_append] at unwritten
  exact unwritten (List.mem_append_left _ early)

theorem run_writer {steps : List Step} {step : Step} (member : step ∈ steps) {name : String}
    (writes : name ∈ step.writes) (once : (steps.flatMap Step.writes).count name = 1)
    {vars vars' : Vars} (ran : runSteps steps vars = some vars') :
    ∃ met left, step.run met = some left ∧ met name = vars name ∧ vars' name = left name ∧
      ∀ other, other ∉ steps.flatMap Step.writes → met other = vars other := by
  obtain ⟨before, after, rfl⟩ := List.append_of_mem member
  obtain ⟨met, first, rest⟩ := run_append ran
  obtain ⟨left, stepped, last⟩ := run_cons rest
  rw [List.flatMap_append, List.flatMap_cons, List.count_append, List.count_append] at once
  have own := List.count_pos_iff.mpr writes
  have early : name ∉ before.flatMap Step.writes := List.count_eq_zero.mp (by omega)
  have late : name ∉ after.flatMap Step.writes := List.count_eq_zero.mp (by omega)
  refine ⟨met, left, stepped, run_frame first name early, run_frame last name late, ?_⟩
  intro other unwritten
  apply run_frame first
  intro written
  rw [List.flatMap_append] at unwritten
  exact unwritten (List.mem_append_left _ written)

end ShellVars
