import Mathlib.Data.List.Nodup
import Mathlib.Data.List.Permutation
import Mathlib.Data.List.FinRange

/-!
Lists dealt out over positions: column `i` takes the `i`-th element of each of several lists.
Nothing is lost or repeated when there are enough columns, and an element of a duplicate-free
concatenation lies in exactly one of the parts.
-/
namespace PlacedOnce
variable {α β : Type*}

theorem flatMap_getElem? (xs : List α) (n : Nat) (room : xs.length ≤ n) :
    (List.range n).flatMap (fun i => xs[i]?.toList) = xs := by
  induction xs generalizing n with
  | nil => simp
  | cons x xs ih =>
    cases n with
    | zero => simp at room
    | succ n =>
      rw [List.range_succ_eq_map, List.flatMap_cons, List.flatMap_map]
      simp only [List.getElem?_cons_zero, Option.toList_some, List.getElem?_cons_succ,
        List.singleton_append]
      rw [ih n (by simpa using room)]

theorem flatMap_columns_perm (groups : List (List α)) (n : Nat)
    (room : ∀ g ∈ groups, g.length ≤ n) :
    ((List.range n).flatMap fun i => groups.flatMap fun g => g[i]?.toList).Perm
      groups.flatten := by
  induction groups with
  | nil => simp
  | cons g groups ih =>
    have here : g.length ≤ n := room g List.mem_cons_self
    have later := ih fun h member => room h (List.mem_cons_of_mem g member)
    simp only [List.flatMap_cons, List.flatten_cons]
    refine (List.flatMap_append_perm _ _ _).symm.trans ?_
    rw [flatMap_getElem? g n here]
    exact later.append_left g

theorem existsUnique_part (parts : List β) (f : β → List α) (nodup : (parts.flatMap f).Nodup)
    (a : α) (member : a ∈ parts.flatMap f) :
    ∃! i : Nat, ∃ part, parts[i]? = some part ∧ a ∈ f part := by
  obtain ⟨part, inParts, inPart⟩ := List.mem_flatMap.mp member
  obtain ⟨i, place⟩ := List.mem_iff_getElem?.mp inParts
  refine ⟨i, ⟨part, place, inPart⟩, ?_⟩
  rintro j ⟨other, otherPlace, inOther⟩
  have apart := (List.nodup_flatMap.mp nodup).2
  rw [List.pairwise_iff_getElem] at apart
  obtain ⟨iBound, iAt⟩ := List.getElem?_eq_some_iff.mp place
  obtain ⟨jBound, jAt⟩ := List.getElem?_eq_some_iff.mp otherPlace
  rcases Nat.lt_trichotomy i j with before | same | after
  · have disjoint := apart i j iBound jBound before
    rw [Function.onFun, iAt, jAt] at disjoint
    exact absurd inOther (disjoint inPart)
  · exact same.symm
  · have disjoint := apart j i jBound iBound after
    rw [Function.onFun, iAt, jAt] at disjoint
    exact absurd inPart (disjoint inOther)

section Keyed
variable {κ : Type*} [DecidableEq κ] {key : α → Option κ}

theorem listed_of_once {targets : List κ} (nodup : targets.Nodup) {xs : List α}
    (keyed : ∀ x ∈ xs, ∃ k ∈ targets, key x = some k)
    (once : ∀ k ∈ targets, (xs.filterMap key).count k = 1) :
    ∃ ys, xs.Perm ys ∧ List.Forall₂ (fun k y => key y = some k) targets ys := by
  induction targets generalizing xs with
  | nil =>
    have none : xs = [] := by
      apply List.eq_nil_iff_forall_not_mem.mpr
      intro x member
      obtain ⟨k, inTargets, _⟩ := keyed x member
      exact absurd inTargets List.not_mem_nil
    exact ⟨[], none ▸ List.Perm.refl _, .nil⟩
  | cons k targets ih =>
    rw [List.nodup_cons] at nodup
    have first := once k List.mem_cons_self
    have occurs : k ∈ xs.filterMap key := List.one_le_count_iff.mp (by omega)
    obtain ⟨x, member, own⟩ := List.mem_filterMap.mp occurs
    obtain ⟨before, after, split⟩ := List.append_of_mem member
    have counted : ∀ j, (xs.filterMap key).count j =
        ((before ++ after).filterMap key).count j + if k = j then 1 else 0 := by
      intro j
      rw [split, List.filterMap_append, List.filterMap_cons_some own, List.count_append,
        List.count_cons, List.filterMap_append, List.count_append]
      simp only [beq_iff_eq]
      omega
    have gone := counted k
    rw [first, if_pos rfl] at gone
    have rest : ∀ y ∈ before ++ after, ∃ j ∈ targets, key y = some j := by
      intro y inRest
      have inAll : y ∈ xs := by
        rw [split]
        simp only [List.mem_append, List.mem_cons] at inRest ⊢
        tauto
      obtain ⟨j, inTargets, other⟩ := keyed y inAll
      rcases List.mem_cons.mp inTargets with same | rest
      · have again : k ∈ (before ++ after).filterMap key :=
          List.mem_filterMap.mpr ⟨y, inRest, same ▸ other⟩
        have more := List.one_le_count_iff.mpr again
        omega
      · exact ⟨j, rest, other⟩
    have onces : ∀ j ∈ targets, ((before ++ after).filterMap key).count j = 1 := by
      intro j inTargets
      have differ : k ≠ j := fun same => nodup.1 (same ▸ inTargets)
      have one := once j (List.mem_cons_of_mem k inTargets)
      rw [counted, if_neg differ] at one
      exact one
    obtain ⟨ys, same, placed⟩ := ih nodup.2 rest onces
    refine ⟨x :: ys, ?_, .cons own placed⟩
    rw [split]
    exact List.perm_middle.trans (same.cons x)

omit [DecidableEq κ] in
theorem listed_from {R : κ → α → Prop} {targets : List κ} {ys : List α}
    (placed : List.Forall₂ R targets ys) {y : α} (member : y ∈ ys) : ∃ k ∈ targets, R k y := by
  induction placed with
  | nil => exact absurd member List.not_mem_nil
  | cons own _ ih =>
    rcases List.mem_cons.mp member with here | later
    · exact ⟨_, List.mem_cons_self, here ▸ own⟩
    · obtain ⟨k, inTargets, holds⟩ := ih later
      exact ⟨k, List.mem_cons_of_mem _ inTargets, holds⟩

omit [DecidableEq κ] in
theorem listed_as {R : κ → α → Prop} {S : κ → β → Prop} (f : β → α) {targets : List κ}
    {ys : List α} (placed : List.Forall₂ R targets ys)
    (image : ∀ k ∈ targets, ∀ y ∈ ys, R k y → ∃ b, y = f b ∧ S k b) :
    ∃ bs, ys = bs.map f ∧ List.Forall₂ S targets bs := by
  induction placed with
  | nil => exact ⟨[], rfl, .nil⟩
  | cons own _ ih =>
    obtain ⟨b, shape, holds⟩ := image _ List.mem_cons_self _ List.mem_cons_self own
    obtain ⟨bs, listed, later⟩ := ih fun k inTargets y member =>
      image k (List.mem_cons_of_mem _ inTargets) y (List.mem_cons_of_mem _ member)
    exact ⟨b :: bs, by rw [List.map_cons, shape, listed], .cons holds later⟩

omit [DecidableEq κ] in
theorem filterMap_of_listed {targets : List κ} {ys : List α}
    (placed : List.Forall₂ (fun k y => key y = some k) targets ys) :
    ys.filterMap key = targets := by
  induction placed with
  | nil => rfl
  | cons own _ ih => rw [List.filterMap_cons_some own, ih]

theorem once_of_listed {targets : List κ} (nodup : targets.Nodup) {xs ys : List α}
    (same : xs.Perm ys) (placed : List.Forall₂ (fun k y => key y = some k) targets ys) :
    (∀ x ∈ xs, ∃ k ∈ targets, key x = some k) ∧
      ∀ k ∈ targets, (xs.filterMap key).count k = 1 := by
  constructor
  · intro x member
    exact listed_from placed (same.mem_iff.mp member)
  · intro k inTargets
    rw [(same.filterMap key).count_eq, filterMap_of_listed placed]
    exact List.count_eq_one_of_mem nodup inTargets

end Keyed
end PlacedOnce
