import Mathlib.Data.List.Nodup
import Mathlib.Logic.Function.Basic
import Glm53Overlay.Library.SegmentedRange

/-!
A launch told by the list of its stores. When no address occurs twice, the memory afterwards
does not depend on the order of the programs. The rest counts what loops over a grid visit:
flat program ids, strided loops and masked lanes.
-/
namespace StoreTrace
variable {A V α : Type*}

section Memory
variable [DecidableEq A]

def applied (memory : A → V) (stores : List (A × V)) : A → V :=
  stores.foldl (fun m s => Function.update m s.1 s.2) memory

theorem applied_miss (memory : A → V) {stores : List (A × V)} {a : A}
    (miss : a ∉ stores.map Prod.fst) : applied memory stores a = memory a := by
  induction stores generalizing memory with
  | nil => rfl
  | cons s rest ih =>
    rw [List.map_cons, List.mem_cons, not_or] at miss
    have later := ih (Function.update memory s.1 s.2) miss.2
    rw [Function.update_of_ne miss.1] at later
    exact later

theorem applied_hit {memory : A → V} {stores : List (A × V)} {a : A} {v : V}
    (once : (stores.map Prod.fst).Nodup) (stored : (a, v) ∈ stores) :
    applied memory stores a = v := by
  induction stores generalizing memory with
  | nil => cases stored
  | cons s rest ih =>
    rw [List.map_cons, List.nodup_cons] at once
    rcases List.mem_cons.mp stored with rfl | later
    · have kept := applied_miss (Function.update memory a v) once.1
      rw [Function.update_self] at kept
      exact kept
    · exact ih once.2 later

end Memory

/-- `for (i = start; i < n; i += stride)`. -/
def strideLoop (n stride i : Nat) : List Nat :=
  if i < n ∧ 0 < stride then i :: strideLoop n stride (i + stride) else []
termination_by n - i
decreasing_by omega

section Strides
variable {n stride : Nat} (positive : 0 < stride)
include positive

theorem mem_strideLoop {i j : Nat} :
    j ∈ strideLoop n stride i ↔ i ≤ j ∧ j < n ∧ j % stride = i % stride := by
  induction i using strideLoop.induct n stride with
  | case1 i more ih =>
    rw [strideLoop, if_pos more, List.mem_cons, ih, Nat.add_mod_right]
    constructor
    · rintro (same | ⟨later, below, congruent⟩)
      · rw [same]
        exact ⟨Nat.le_refl _, more.1, rfl⟩
      · exact ⟨by omega, below, congruent⟩
    · rintro ⟨later, below, congruent⟩
      by_cases same : j = i
      · exact Or.inl same
      · refine Or.inr ⟨?_, below, congruent⟩
        have apart := (Nat.modEq_iff_dvd' later).mp congruent.symm
        have gap := Nat.le_of_dvd (by omega) apart
        omega
  | case2 i stop =>
    rw [strideLoop, if_neg stop]
    constructor
    · exact fun none => absurd none List.not_mem_nil
    · rintro ⟨later, below, _⟩
      exact absurd ⟨by omega, positive⟩ stop

theorem strideLoop_nodup (i : Nat) : (strideLoop n stride i).Nodup := by
  induction i using strideLoop.induct n stride with
  | case1 i more ih =>
    rw [strideLoop, if_pos more, List.nodup_cons]
    refine ⟨?_, ih⟩
    rw [mem_strideLoop positive]
    omega
  | case2 i stop =>
    rw [strideLoop, if_neg stop]
    exact List.nodup_nil

theorem strideLoops_perm :
    ((List.range stride).flatMap (strideLoop n stride)).Perm (List.range n) := by
  refine (List.perm_ext_iff_of_nodup ?_ List.nodup_range).mpr fun j => ?_
  · rw [List.nodup_flatMap]
    refine ⟨fun i _ => strideLoop_nodup positive i, ?_⟩
    refine List.Nodup.pairwise_of_forall_ne List.nodup_range ?_
    intro i below i' below' apart j first second
    rw [mem_strideLoop positive] at first second
    have same := first.2.2.symm.trans second.2.2
    rw [Nat.mod_eq_of_lt (List.mem_range.mp below), Nat.mod_eq_of_lt (List.mem_range.mp below')]
      at same
    exact apart same
  · rw [List.mem_flatMap, List.mem_range]
    constructor
    · rintro ⟨i, _, visited⟩
      exact ((mem_strideLoop positive).mp visited).2.1
    · intro below
      refine ⟨j % stride, List.mem_range.mpr (Nat.mod_lt j positive), ?_⟩
      rw [mem_strideLoop positive]
      exact ⟨Nat.mod_le j stride, below, (Nat.mod_mod j stride).symm⟩

end Strides

theorem strideLoops_flatMap {n stride : Nat} (positive : 0 < stride) (f : Nat → List α) :
    ((List.range stride).flatMap fun i => (strideLoop n stride i).flatMap f).Perm
      ((List.range n).flatMap f) := by
  rw [← List.flatMap_assoc]
  exact (strideLoops_perm positive).flatMap_right f

theorem flatMap_range_mul (a b : Nat) (f : Nat → Nat → List α) :
    ((List.range (a * b)).flatMap fun p => f (p / b) (p % b)) =
      (List.range a).flatMap fun i => (List.range b).flatMap (f i) := by
  induction a with
  | zero => simp
  | succ a ih =>
    rw [Nat.succ_mul, List.range_add, List.flatMap_append, ih, List.range_succ,
      List.flatMap_append, List.flatMap_map, List.flatMap_singleton]
    congr 1
    refine List.flatMap_congr fun j member => ?_
    have below := List.mem_range.mp member
    have positive : 0 < b := Nat.lt_of_le_of_lt (Nat.zero_le j) below
    rw [Nat.mul_comm a b, Nat.mul_add_div positive, Nat.div_eq_of_lt below, Nat.add_zero,
      Nat.mul_add_mod, Nat.mod_eq_of_lt below]

theorem flatMap_digits (a b : Nat) (f : Nat → List α) :
    ((List.range a).flatMap fun i => (List.range b).flatMap fun j => f (i * b + j)) =
      (List.range (a * b)).flatMap f := by
  rw [← flatMap_range_mul a b fun i j => f (i * b + j)]
  refine List.flatMap_congr fun p _ => ?_
  rw [Nat.mul_comm, Nat.div_add_mod]

theorem filter_range_lt (n m : Nat) :
    (List.range n).filter (fun i => i < m) = List.range (min m n) := by
  induction n with
  | zero => simp
  | succ n ih =>
    rw [List.range_succ, List.filter_append, ih]
    by_cases inside : n < m
    · rw [List.filter_cons_of_pos (by simpa using inside), List.filter_nil,
        show min m (n + 1) = n + 1 by omega, show min m n = n by omega, List.range_succ]
    · rw [List.filter_cons_of_neg (by simpa using inside), List.filter_nil, List.append_nil,
        show min m (n + 1) = min m n by omega]

theorem masked_lanes (c lanes blocks : Nat) (enough : c ≤ blocks * lanes) :
    ((List.range blocks).flatMap fun t =>
      ((List.range lanes).filter fun lane => t * lanes + lane < c).map fun lane =>
        t * lanes + lane) = List.range c := by
  rw [← SegmentedRange.tiles_cover c lanes blocks enough]
  refine List.flatMap_congr fun t _ => ?_
  rw [← filter_range_lt]
  congr 1
  refine List.filter_congr fun lane _ => ?_
  simp only [decide_eq_decide]
  omega

end StoreTrace
