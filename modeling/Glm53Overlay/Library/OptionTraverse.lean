import Mathlib.Data.List.Basic

/-!
Lists of computations that may fail: the whole succeeds when every one does.
-/
namespace OptionTraverse
variable {α β : Type*} {f : α → Option β}

theorem mapM_eq (f : α → Option β) (xs : List α) :
    xs.mapM f = if xs.all fun x => (f x).isSome then some (xs.filterMap f) else none := by
  induction xs with
  | nil => rfl
  | cons x rest ih =>
    rw [List.mapM_cons, ih]
    cases found : f x with
    | none => simp [found]
    | some y =>
      by_cases all : rest.all fun x => (f x).isSome
      · simp [found, all]
      · simp [found, all]

theorem mapM_of_some {g : α → β} {xs : List α} (each : ∀ x ∈ xs, f x = some (g x)) :
    xs.mapM f = some (xs.map g) := by
  have all : (xs.all fun x => (f x).isSome) = true :=
    List.all_eq_true.mpr fun x member => by rw [each x member]; rfl
  rw [mapM_eq, if_pos all, List.filterMap_congr each, List.filterMap_eq_map']

theorem mapM_of_none {xs : List α} {x : α} (member : x ∈ xs) (fails : f x = none) :
    xs.mapM f = none := by
  have notAll : ¬ (xs.all fun x => (f x).isSome) = true := by
    intro all
    have some' := List.all_eq_true.mp all x member
    rw [fails] at some'
    cases some'
  rw [mapM_eq, if_neg notAll]

end OptionTraverse
