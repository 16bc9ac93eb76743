import Mathlib.Algebra.Order.Ring.Nat
import Mathlib.Data.List.Nodup

/-!
A search with a stack of items and a set of keys seen: an item whose key is new pushes the
items its key leads to. Everything the search takes from the stack can be reached from the start
and everything that can be reached is taken; where only finitely many keys lead anywhere, the
search ends.
-/
namespace Worklist
variable {I N : Type*} (key : I → N) (next : N → List I)

/-- Items that a path of keys connects to the start. -/
inductive Reach (start : List I) : I → Prop
  | start {i : I} (first : i ∈ start) : Reach start i
  | step {i j : I} (before : Reach start i) (leads : j ∈ next (key i)) : Reach start j

/-- What holds of stack, keys seen and items taken all along. -/
structure Inv (start stack : List I) (seen : List N) (taken : List I) : Prop where
  sound : ∀ i, i ∈ stack ∨ i ∈ taken → Reach key next start i
  begun : ∀ i ∈ start, i ∈ stack ∨ i ∈ taken
  closed : ∀ n ∈ seen, ∀ j ∈ next n, j ∈ stack ∨ j ∈ taken
  marked : ∀ n, n ∈ seen ↔ ∃ i ∈ taken, key i = n

variable {key next} {start stack : List I} {seen : List N} {taken : List I}

theorem inv_start (start : List I) : Inv key next start start.reverse [] [] where
  sound i member := by simpa using Reach.start (by simpa using member)
  begun i member := Or.inl (List.mem_reverse.mpr member)
  closed n member := by cases member
  marked n := by simp

theorem inv_skip {i : I} (inv : Inv key next start (i :: stack) seen taken)
    (old : key i ∈ seen) : Inv key next start stack seen (i :: taken) where
  sound j member := by
    apply inv.sound
    simp only [List.mem_cons] at member ⊢
    tauto
  begun j member := by
    have placed := inv.begun j member
    simp only [List.mem_cons] at placed ⊢
    tauto
  closed n member j leads := by
    have placed := inv.closed n member j leads
    simp only [List.mem_cons] at placed ⊢
    tauto
  marked n := by
    rw [inv.marked n]
    constructor
    · rintro ⟨j, member, same⟩
      exact ⟨j, List.mem_cons_of_mem i member, same⟩
    · rintro ⟨j, member, same⟩
      rcases List.mem_cons.mp member with here | before
      · subst here
        exact (inv.marked n).mp (same ▸ old)
      · exact ⟨j, before, same⟩

theorem inv_expand {i : I} (inv : Inv key next start (i :: stack) seen taken) :
    Inv key next start ((next (key i)).reverse ++ stack) (key i :: seen) (i :: taken) where
  sound j member := by
    have own := inv.sound i (Or.inl List.mem_cons_self)
    rcases member with onStack | wasTaken
    · rcases List.mem_append.mp onStack with pushed | below
      · exact Reach.step own (List.mem_reverse.mp pushed)
      · exact inv.sound j (Or.inl (List.mem_cons_of_mem i below))
    · rcases List.mem_cons.mp wasTaken with here | before
      · exact here ▸ own
      · exact inv.sound j (Or.inr before)
  begun j member := by
    have placed := inv.begun j member
    simp only [List.mem_cons, List.mem_append] at placed ⊢
    tauto
  closed n member j leads := by
    rcases List.mem_cons.mp member with here | before
    · subst here
      exact Or.inl (List.mem_append_left _ (List.mem_reverse.mpr leads))
    · have placed := inv.closed n before j leads
      simp only [List.mem_cons, List.mem_append] at placed ⊢
      tauto
  marked n := by
    simp only [List.mem_cons, inv.marked n, exists_eq_or_imp]
    constructor
    · rintro (same | later)
      · exact Or.inl same.symm
      · exact Or.inr later
    · rintro (same | later)
      · exact Or.inl same.symm
      · exact Or.inr later

section Search
variable [DecidableEq N]

/-- The keys seen and the items taken once the stack is empty, its top first; `none` when the
    fuel does not reach. -/
def search (key : I → N) (next : N → List I) :
    Nat → List I → List N → List I → Option (List N × List I)
  | _, [], seen, taken => some (seen, taken)
  | 0, _ :: _, _, _ => none
  | fuel + 1, i :: stack, seen, taken =>
    if key i ∈ seen then search key next fuel stack seen (i :: taken)
    else search key next fuel ((next (key i)).reverse ++ stack) (key i :: seen) (i :: taken)

theorem search_inv {fuel : Nat} {result : List N × List I}
    (inv : Inv key next start stack seen taken)
    (found : search key next fuel stack seen taken = some result) :
    Inv key next start [] result.1 result.2 := by
  induction fuel generalizing stack seen taken with
  | zero =>
    cases stack with
    | nil =>
      rw [search] at found
      cases found
      exact inv
    | cons i stack =>
      rw [search] at found
      cases found
  | succ fuel ih =>
    cases stack with
    | nil =>
      rw [search] at found
      cases found
      exact inv
    | cons i stack =>
      rw [search] at found
      by_cases old : key i ∈ seen
      · rw [if_pos old] at found
        exact ih (inv_skip inv old) found
      · rw [if_neg old] at found
        exact ih (inv_expand inv) found

theorem search_spec {fuel : Nat} {result : List N × List I}
    (found : search key next fuel start.reverse [] [] = some result) :
    (∀ i, i ∈ result.2 ↔ Reach key next start i) ∧
      ∀ n, n ∈ result.1 ↔ ∃ i, Reach key next start i ∧ key i = n := by
  have inv := search_inv (inv_start start) found
  have taken : ∀ i, i ∈ result.2 ↔ Reach key next start i := by
    intro i
    constructor
    · exact fun member => inv.sound i (Or.inr member)
    · intro reached
      induction reached with
      | start first =>
        rcases inv.begun _ first with none | member
        · cases none
        · exact member
      | step before leads ih =>
        have seen := (inv.marked _).mpr ⟨_, ih, rfl⟩
        rcases inv.closed _ seen _ leads with none | member
        · cases none
        · exact member
  refine ⟨taken, fun n => ?_⟩
  rw [inv.marked n]
  simp only [taken]

def work (next : N → List I) (keys : List N) (stack : List I) (seen : List N) : Nat :=
  stack.length + ((keys.filter (· ∉ seen)).map fun n => (next n).length).sum

theorem work_expand {keys : List N} (support : ∀ n, next n ≠ [] → n ∈ keys) {n : N}
    (fresh : n ∉ seen) :
    (next n).length + ((keys.filter (· ∉ n :: seen)).map fun m => (next m).length).sum ≤
      ((keys.filter (· ∉ seen)).map fun m => (next m).length).sum := by
  have split : ∀ ks : List N, n ∈ ks ∨ next n = [] →
      (next n).length + ((ks.filter (· ∉ n :: seen)).map fun m => (next m).length).sum ≤
        ((ks.filter (· ∉ seen)).map fun m => (next m).length).sum := by
    have fewer : ∀ ks : List N, ((ks.filter (· ∉ n :: seen)).map fun m => (next m).length).sum ≤
        ((ks.filter (· ∉ seen)).map fun m => (next m).length).sum := by
      intro ks
      induction ks with
      | nil => simp
      | cons k ks ih =>
        by_cases here : k = n <;> by_cases old : k ∈ seen <;> simp_all
        omega
    intro ks member
    induction ks with
    | nil =>
      rcases member with none | empty
      · cases none
      · simp [empty]
    | cons k ks ih =>
      by_cases here : k = n
      · subst here
        have rest := fewer ks
        simp_all
      · have later : n ∈ ks ∨ next n = [] := by
          rcases member with member | empty
          · exact Or.inl ((List.mem_cons.mp member).resolve_left (Ne.symm here))
          · exact Or.inr empty
        have rest := ih later
        by_cases old : k ∈ seen <;> simp_all
        omega
  apply split
  by_cases empty : next n = []
  · exact Or.inr empty
  · exact Or.inl (support n empty)

theorem search_ends {keys : List N} (support : ∀ n, next n ≠ [] → n ∈ keys) {fuel : Nat}
    (enough : work next keys stack seen ≤ fuel) :
    (search key next fuel stack seen taken).isSome := by
  induction fuel generalizing stack seen taken with
  | zero =>
    cases stack with
    | nil => rfl
    | cons i stack =>
      simp only [work, List.length_cons] at enough
      omega
  | succ fuel ih =>
    cases stack with
    | nil => rfl
    | cons i stack =>
      rw [search]
      simp only [work, List.length_cons] at enough
      by_cases old : key i ∈ seen
      · rw [if_pos old]
        apply ih
        simp only [work]
        omega
      · rw [if_neg old]
        apply ih
        have less := work_expand support old
        simp only [work, List.length_append, List.length_reverse]
        omega
end Search
end Worklist
