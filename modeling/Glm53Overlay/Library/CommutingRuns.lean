import Mathlib.Data.List.Basic

/-!
Partial steps over one state. What two steps do one behind the other they do in the other order,
and so do two lists of such steps.
-/
namespace CommutingRuns
universe u v
variable {σ : Type u} {ε : Type v}

/-- From a state in `J`, what `f` and then `g` make of it `g` and then `f` make of it too. -/
def Passes (J : σ → Prop) (f g : σ → Except ε σ) : Prop :=
  ∀ a b c, J a → f a = .ok b → g b = .ok c → ∃ d, g a = .ok d ∧ f d = .ok c

def Keeps (J : σ → Prop) (f : σ → Except ε σ) : Prop := ∀ a b, J a → f a = .ok b → J b

def runAll : List (σ → Except ε σ) → σ → Except ε σ
  | [], a => .ok a
  | f :: rest, a =>
    match f a with
    | .ok b => runAll rest b
    | .error e => .error e

theorem runAll_nil {a c : σ} : runAll ([] : List (σ → Except ε σ)) a = .ok c ↔ a = c := by
  rw [runAll, Except.ok.injEq]

theorem runAll_cons {f : σ → Except ε σ} {rest : List (σ → Except ε σ)} {a c : σ} :
    runAll (f :: rest) a = .ok c ↔ ∃ b, f a = .ok b ∧ runAll rest b = .ok c := by
  rw [runAll]
  cases f a with
  | error e => simp
  | ok b => simp

section
variable {J : σ → Prop}

theorem keeps_runAll {fs : List (σ → Except ε σ)} (kept : ∀ f ∈ fs, Keeps J f) :
    Keeps J (runAll fs) := by
  induction fs with
  | nil =>
    intro a b here ran
    cases ran
    exact here
  | cons f fs ih =>
    intro a c here ran
    rw [runAll_cons] at ran
    obtain ⟨b, first, rest⟩ := ran
    have next := kept f List.mem_cons_self a b here first
    exact ih (fun g member => kept g (List.mem_cons_of_mem _ member)) b c next rest

theorem passes_list {f : σ → Except ε σ} {gs : List (σ → Except ε σ)}
    (passes : ∀ g ∈ gs, Passes J f g) (kept : ∀ g ∈ gs, Keeps J g) : Passes J f (runAll gs) := by
  induction gs with
  | nil =>
    intro a b c _ first rest
    cases rest
    exact ⟨a, rfl, first⟩
  | cons g gs ih =>
    intro a b c here first rest
    rw [runAll_cons] at rest
    obtain ⟨b', second, rest⟩ := rest
    obtain ⟨d, early, late⟩ := passes g List.mem_cons_self a b b' here first second
    have next := kept g List.mem_cons_self a d here early
    obtain ⟨d', later, last⟩ := ih (fun h member => passes h (List.mem_cons_of_mem _ member))
      (fun h member => kept h (List.mem_cons_of_mem _ member)) d b' c next late rest
    refine ⟨d', ?_, last⟩
    rw [runAll_cons]
    exact ⟨d, early, later⟩

theorem passes_lists {fs gs : List (σ → Except ε σ)}
    (passes : ∀ f ∈ fs, ∀ g ∈ gs, Passes J f g) (keptFirst : ∀ f ∈ fs, Keeps J f)
    (keptSecond : ∀ g ∈ gs, Keeps J g) : Passes J (runAll fs) (runAll gs) := by
  induction fs with
  | nil =>
    intro a b c _ first rest
    cases first
    exact ⟨c, rest, rfl⟩
  | cons f fs ih =>
    intro a b c here first second
    rw [runAll_cons] at first
    obtain ⟨a', one, rest⟩ := first
    have next := keptFirst f List.mem_cons_self a a' here one
    obtain ⟨d, early, late⟩ := ih (fun h member => passes h (List.mem_cons_of_mem _ member))
      (fun h member => keptFirst h (List.mem_cons_of_mem _ member)) a' b c next rest second
    obtain ⟨d', earliest, last⟩ := passes_list (passes f List.mem_cons_self) keptSecond a a' d here
      one early
    refine ⟨d', earliest, ?_⟩
    rw [runAll_cons]
    exact ⟨d, last, late⟩

end
end CommutingRuns
