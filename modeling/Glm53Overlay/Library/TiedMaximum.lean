import Mathlib

/-!
A left-to-right maximum that also remembers whether some item reaching it carries a
flag. A strictly larger item replaces both components, an equal flagged one sets the
flag, and everything else is ignored.
-/
namespace TiedMaximum
variable {α : Type*} [LinearOrder α]

def step (acc item : α × Bool) : α × Bool :=
  if acc.1 < item.1 then item
  else if item.1 = acc.1 ∧ item.2 = true then (acc.1, true)
  else acc

def scan (acc : α × Bool) (items : List (α × Bool)) : α × Bool := items.foldl step acc

@[simp] theorem scan_nil (acc : α × Bool) : scan acc [] = acc := rfl

@[simp] theorem scan_cons (acc item : α × Bool) (items : List (α × Bool)) :
    scan acc (item :: items) = scan (step acc item) items := rfl

/-- The accumulator stands for the items seen so far: `seed` or one of them. -/
structure Summary (seed : α × Bool) (seen : List (α × Bool)) (acc : α × Bool) : Prop where
  above : ∀ item ∈ seed :: seen, item.1 ≤ acc.1
  reached : ∃ item ∈ seed :: seen, item.1 = acc.1
  flagged : acc.2 = true ↔ ∃ item ∈ seed :: seen, item.1 = acc.1 ∧ item.2 = true

theorem Summary.start (seed : α × Bool) : Summary seed [] seed := by
  constructor <;> simp

theorem Summary.next {seed acc : α × Bool} {seen : List (α × Bool)} (item : α × Bool)
    (now : Summary seed seen acc) : Summary seed (seen ++ [item]) (step acc item) := by
  have split (P : α × Bool → Prop) :
      (∃ x ∈ seed :: (seen ++ [item]), P x) ↔ (∃ x ∈ seed :: seen, P x) ∨ P item := by
    simp only [← List.cons_append, List.mem_append, List.mem_singleton, or_and_right,
      exists_or, exists_eq_left]
  have every (P : α × Bool → Prop) :
      (∀ x ∈ seed :: (seen ++ [item]), P x) ↔ (∀ x ∈ seed :: seen, P x) ∧ P item := by
    simp only [← List.cons_append, List.mem_append, List.mem_singleton, or_imp,
      forall_and, forall_eq]
  rcases lt_trichotomy acc.1 item.1 with larger | same | smaller
  · have taken : step acc item = item := by simp [step, larger]
    have nobody : ∀ x ∈ seed :: seen, x.1 ≠ item.1 := fun x member =>
      ne_of_lt (lt_of_le_of_lt (now.above x member) larger)
    rw [taken]
    refine ⟨(every _).mpr ⟨fun x member => ?_, le_refl _⟩, (split _).mpr (Or.inr rfl), ?_⟩
    · exact le_of_lt (lt_of_le_of_lt (now.above x member) larger)
    · rw [split]
      constructor
      · intro flag
        exact Or.inr ⟨rfl, flag⟩
      · rintro (⟨x, member, reach, _⟩ | ⟨_, flag⟩)
        · exact absurd reach (nobody x member)
        · exact flag
  · have level : (step acc item).1 = acc.1 := by
      unfold step
      split_ifs <;> simp_all
    have flag : (step acc item).2 = true ↔ acc.2 = true ∨ item.2 = true := by
      unfold step
      split_ifs <;> simp_all
    refine ⟨?_, ?_, ?_⟩
    · rw [level]
      exact (every _).mpr ⟨now.above, le_of_eq same.symm⟩
    · rw [level]
      exact (split _).mpr (Or.inl now.reached)
    · rw [level, split, flag, now.flagged]
      simp [same]
  · have kept : step acc item = acc := by
      simp [step, not_lt_of_gt smaller, ne_of_lt smaller]
    rw [kept]
    refine ⟨(every _).mpr ⟨now.above, le_of_lt smaller⟩, (split _).mpr (Or.inl now.reached), ?_⟩
    rw [split, now.flagged]
    simp [ne_of_lt smaller]

theorem scan_summary (seed acc : α × Bool) (seen items : List (α × Bool))
    (now : Summary seed seen acc) : Summary seed (seen ++ items) (scan acc items) := by
  induction items generalizing acc seen with
  | nil => simpa using now
  | cons item rest ih =>
    have later := ih (step acc item) (seen ++ [item]) (now.next item)
    simpa using later

theorem scan_spec (seed : α × Bool) (items : List (α × Bool)) :
    Summary seed items (scan seed items) := by
  simpa using scan_summary seed seed [] items (Summary.start seed)

end TiedMaximum
