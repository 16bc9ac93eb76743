import Mathlib.Data.List.Perm.Basic
import Mathlib.Logic.Function.Basic

/-!
Kernels over flat memory. A program stores lane by lane under a mask; a launch runs its programs
one after another in some order. What one program does to its own cell, and what the others
leave alone, gives what the launch does to the cell.
-/
namespace GridLaunch
variable {V S γ ι : Type}

def storeLanes (n : Nat) (addr : Nat → Nat) (value : Nat → V) (mask : Nat → Bool)
    (memory : Nat → V) : Nat → V :=
  (List.range n).foldl
    (fun m i => if mask i then Function.update m (addr i) (value i) else m) memory

section Store
variable {n : Nat} {addr : Nat → Nat} {value : Nat → V} {mask : Nat → Bool} {memory : Nat → V}

theorem storeLanes_succ : storeLanes (n + 1) addr value mask memory =
    if mask n then Function.update (storeLanes n addr value mask memory) (addr n) (value n)
    else storeLanes n addr value mask memory := by
  unfold storeLanes
  rw [List.range_succ, List.foldl_append, List.foldl_cons, List.foldl_nil]

theorem storeLanes_miss {a : Nat} (miss : ∀ i < n, mask i = true → addr i ≠ a) :
    storeLanes n addr value mask memory a = memory a := by
  induction n with
  | zero => rfl
  | succ n ih =>
    have before := ih fun i below => miss i (Nat.lt_succ_of_lt below)
    rw [storeLanes_succ]
    split
    · rename_i passes
      rw [Function.update_of_ne (miss n (Nat.lt_succ_self n) passes).symm, before]
    · exact before

theorem storeLanes_hit {a : Nat} {v : V}
    (agree : ∀ i < n, mask i = true → addr i = a → value i = v)
    (hit : ∃ i < n, mask i = true ∧ addr i = a) :
    storeLanes n addr value mask memory a = v := by
  induction n with
  | zero =>
    obtain ⟨i, below, _⟩ := hit
    exact absurd below (Nat.not_lt_zero i)
  | succ n ih =>
    rw [storeLanes_succ]
    by_cases last : mask n = true ∧ addr n = a
    · rw [if_pos last.1, last.2, Function.update_self]
      exact agree n (Nat.lt_succ_self n) last.1 last.2
    · have earlier : ∃ i < n, mask i = true ∧ addr i = a := by
        obtain ⟨i, below, passes, same⟩ := hit
        rcases Nat.lt_succ_iff_lt_or_eq.mp below with less | rfl
        · exact ⟨i, less, passes, same⟩
        · exact absurd ⟨passes, same⟩ last
      have before := ih (fun i below => agree i (Nat.lt_succ_of_lt below)) earlier
      split
      · rename_i passes
        rw [Function.update_of_ne fun same => last ⟨passes, same.symm⟩, before]
      · exact before

end Store

theorem digit_unique {n a b a' b' : Nat} (below : b < n) (below' : b' < n)
    (same : a * n + b = a' * n + b') : a = a' ∧ b = b' := by
  have positive : 0 < n := Nat.lt_of_le_of_lt (Nat.zero_le b) below
  have quotient := congrArg (· / n) same
  have remainder := congrArg (· % n) same
  simp only [Nat.mul_comm _ n, Nat.mul_add_div positive, Nat.div_eq_of_lt below,
    Nat.div_eq_of_lt below', Nat.add_zero] at quotient
  simp only [Nat.mul_comm _ n, Nat.mul_add_mod, Nat.mod_eq_of_lt below,
    Nat.mod_eq_of_lt below'] at remainder
  exact ⟨quotient, remainder⟩

def launch (program : ι → S → S) (order : List ι) (s : S) : S :=
  order.foldl (fun s p => program p s) s

section Launch
variable {program : ι → S → S} {keeps : S → Prop} (cell : S → γ)

theorem launch_invariant {order : List ι}
    (step : ∀ p ∈ order, ∀ s, keeps s → keeps (program p s)) {s : S} (start : keeps s) :
    keeps (launch program order s) := by
  induction order generalizing s with
  | nil => exact start
  | cons p rest ih =>
    exact ih (fun q later => step q (List.mem_cons_of_mem p later))
      (step p List.mem_cons_self s start)

theorem launch_untouched {order : List ι}
    (step : ∀ p ∈ order, ∀ s, keeps s → keeps (program p s))
    (others : ∀ p ∈ order, ∀ s, keeps s → cell (program p s) = cell s) {s : S}
    (start : keeps s) : cell (launch program order s) = cell s := by
  induction order generalizing s with
  | nil => rfl
  | cons p rest ih =>
    have first := others p List.mem_cons_self s start
    exact (ih (fun q later => step q (List.mem_cons_of_mem p later))
      (fun q later => others q (List.mem_cons_of_mem p later))
      (step p List.mem_cons_self s start)).trans first

/-- A cell that one program touches is as that program leaves it, run at a state where the
    cell is still the first one. -/
theorem launch_touched {order : List ι} {owner : ι} (once : order.Nodup) (runs : owner ∈ order)
    (step : ∀ p ∈ order, ∀ s, keeps s → keeps (program p s))
    (others : ∀ p ∈ order, p ≠ owner → ∀ s, keeps s → cell (program p s) = cell s) {s : S}
    (start : keeps s) :
    ∃ before, keeps before ∧ cell before = cell s ∧
      cell (launch program order s) = cell (program owner before) := by
  induction order generalizing s with
  | nil => exact absurd runs List.not_mem_nil
  | cons p rest ih =>
    obtain ⟨fresh, once⟩ := List.nodup_cons.mp once
    have later : ∀ q ∈ rest, ∀ s, keeps s → keeps (program q s) :=
      fun q member => step q (List.mem_cons_of_mem p member)
    have kept := step p List.mem_cons_self s start
    by_cases own : p = owner
    · subst own
      refine ⟨s, start, rfl, ?_⟩
      refine launch_untouched cell later ?_ kept
      intro q member
      refine others q (List.mem_cons_of_mem p member) ?_
      intro same
      exact fresh (same ▸ member)
    · have inRest : owner ∈ rest := by
        rcases List.mem_cons.mp runs with same | member
        · exact absurd same.symm own
        · exact member
      obtain ⟨before, holds, same, value⟩ := ih once inRest later
        (fun q member => others q (List.mem_cons_of_mem p member)) kept
      exact ⟨before, holds, same.trans (others p List.mem_cons_self own s start), value⟩

end Launch

end GridLaunch
