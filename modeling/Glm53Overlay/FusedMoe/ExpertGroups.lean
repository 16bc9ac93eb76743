import Glm53Overlay.FusedMoe.FatTiers

/-!
Every tier on buffers that hold the slots of expert 0, of expert 1 and so on, and the
sentinel slots last. The fused launch adds the slots of the experts within the cap; each
fallback adds the slots of the others.
-/
namespace FusedMoe
open SegmentedRange
variable {S D X XH M MH V W : Type}

section Select
variable {α β : Type}

theorem index_select_map (field : α → β) (values : List α) (index : List Nat) :
    indexSelect (values.map field) index = (indexSelect values index).map field := by
  simp [indexSelect, List.map_filterMap]

theorem index_select_range (values : List α) :
    indexSelect values (List.range values.length) = values := by
  have whole := read_range values 0 values.length
  simpa [indexSelect] using whole

theorem index_select_at (values : List α) (index : List Nat)
    (inside : ∀ i ∈ index, i < values.length) (r : Nat) :
    (indexSelect values index)[r]? = index[r]?.bind fun i => values[i]? := by
  induction index generalizing r with
  | nil => rfl
  | cons i later ih =>
    obtain ⟨v, here⟩ : ∃ v, values[i]? = some v :=
      ⟨_, List.getElem?_eq_getElem (inside i List.mem_cons_self)⟩
    rw [indexSelect, List.filterMap_cons, here]
    cases r with
    | zero => simp [here]
    | succ r => exact ih (fun k member => inside k (List.mem_cons_of_mem i member)) r

end Select

section Groups
variable (groups : Nat → List (Nat × W)) (n : Nat) (rest : List (Nat × W))

/-- The sorted slots: the groups of the `n` experts, then the sentinel slots. -/
def buffer : List (Nat × W) := (List.range n).flatMap groups ++ rest

theorem buffer_length : (buffer groups n rest).length = (sizes groups n).sum + rest.length := by
  rw [buffer, List.length_append, sizes_sum]

theorem slice_buffer {α : Type} (field : Nat × W → α) (e : Nat) (below : e < n) :
    slice ((buffer groups n rest).map field) ((sizes groups n).take e).sum
      ((sizes groups n).getD e 0) = (groups e).map field := by
  rw [slice, ← List.map_drop, ← List.map_take, sizes_at groups n e below, buffer,
    slice_group groups n rest e below]
end Groups

section Additions
variable (stages : Stages S D X XH M MH V W) (packs : List (Pack S D XH M MH V)) (x : Nat → X)
  (groups : Nat → List (Nat × W))

def groupAdditions (e : Nat) : List (Nat × V) :=
  (groups e).flatMap (addition (forward stages) stages.scale packs x e)

theorem expert_additions_group (run : Pack S D XH M MH V → X → V) (e : Nat)
    (same : ∀ p ∈ packs, ∀ row, run p row = forward stages p row) :
    expertAdditions stages packs x run e ((groups e).map Prod.fst) ((groups e).map Prod.snd) =
      groupAdditions stages packs x groups e := by
  have pairs : ((groups e).map Prod.fst).zip ((groups e).map Prod.snd) = groups e := by
    rw [List.zip_map']
    simp
  rw [expertAdditions, pairs, groupAdditions]
  apply List.flatMap_congr
  intro s _
  cases found : packs[e]? with
  | none => simp [addition, found]
  | some p => simp [addition, found, same p (List.mem_of_getElem? found)]

theorem flatMap_if_filter {α β : Type} (items : List β) (skip : β → Prop) [DecidablePred skip]
    (f : β → List α) :
    (items.flatMap fun e => if skip e then [] else f e) =
      (items.filter fun e => ¬ skip e).flatMap f := by
  induction items with
  | nil => rfl
  | cons e rest ih =>
    by_cases skipped : skip e <;> simp [skipped, ih]
end Additions

section Launch
variable (stages : Stages S D X XH M MH V W) (packs : List (Pack S D XH M MH V))
  (dev : Device X XH MH V W) [AddCommMonoid V]

/-- What the code relies on in `exl3_moe`: on counts that add up to the buffers, expert `e`
    works on the slots at the prefix sum of its counts, unless it has more than `cap`. -/
def MoeKernelSpec : Prop :=
  ∀ (x : Nat → X) (out : Rows V) (counts tokens : List Nat) (weights : List W),
    counts.length = packs.length + 1 → tokens.length = weights.length →
    counts.sum = tokens.length →
    dev.exl3Moe x out counts tokens weights =
      indexAdd out ((List.range packs.length).flatMap fun e =>
        if dev.cap < counts.getD e 0 then []
        else expertAdditions stages packs x (forward stages) e
          (slice tokens (counts.take e).sum (counts.getD e 0))
          (slice weights (counts.take e).sum (counts.getD e 0)))

variable (kernel : MoeKernelSpec stages packs dev) (x : Nat → X)
  (groups : Nat → List (Nat × W)) (rest : List (Nat × W)) (out : Rows V)

def thinExperts (cap n : Nat) : List Nat :=
  (List.range n).filter fun e => ¬ cap < (groups e).length

def fatExperts (cap n : Nat) : List Nat :=
  (List.range n).filter fun e => cap < (groups e).length

omit [AddCommMonoid V] in
theorem all_thin (cap n : Nat) (within : ∀ e < n, (groups e).length ≤ cap) :
    thinExperts groups cap n = List.range n := by
  rw [thinExperts, List.filter_eq_self]
  intro e member
  have bound := within e (List.mem_range.mp member)
  simpa using bound

theorem thin_then_fat (cap n : Nat) (additions : Nat → List (Nat × V)) :
    indexAdd (indexAdd out ((thinExperts groups cap n).flatMap additions))
        ((fatExperts groups cap n).flatMap additions) =
      indexAdd out ((List.range n).flatMap additions) := by
  rw [← index_add_append, ← List.flatMap_append]
  apply index_add_perm
  apply List.Perm.flatMap_right
  have parts := List.filter_append_perm (fun e => decide (cap < (groups e).length)) (List.range n)
  apply List.perm_append_comm.trans
  have thin : thinExperts groups cap n =
      (List.range n).filter fun e => !decide (cap < (groups e).length) := by
    apply List.filter_congr
    intro e _
    rw [decide_not]
  rw [thin]
  exact parts

include kernel in
theorem launch_groups :
    dev.exl3Moe x out (sizes groups packs.length ++ [rest.length])
        ((buffer groups packs.length rest).map Prod.fst)
        ((buffer groups packs.length rest).map Prod.snd) =
      indexAdd out ((thinExperts groups dev.cap packs.length).flatMap
        (groupAdditions stages packs x groups)) := by
  rw [kernel x out _ _ _ (by simp [sizes_length]) (by simp)
    (by simp [buffer_length]), thinExperts, ← flatMap_if_filter]
  congr 1
  apply List.flatMap_congr
  intro e member
  have below := List.mem_range.mp member
  have inside : e < (sizes groups packs.length).length := by rwa [sizes_length]
  have size : (sizes groups packs.length ++ [rest.length]).getD e 0 =
      (sizes groups packs.length).getD e 0 := by
    simp only [List.getD_eq_getElem?_getD, List.getElem?_append_left inside]
  rw [size, List.take_append_of_le_length (Nat.le_of_lt inside), slice_buffer _ _ _ _ e below,
    slice_buffer _ _ _ _ e below, sizes_at groups _ e below,
    expert_additions_group stages packs x groups _ e fun _ _ _ => rfl]
end Launch

section Fallbacks
variable (stages : Stages S D X XH M MH V W) (packs : List (Pack S D XH M MH V)) (x : Nat → X)
  (groups : Nat → List (Nat × W)) (rest : List (Nat × W)) (cap : Nat)

theorem fat_slices_eq (tokens : List Nat) (weights : List W) (counts : List Nat) (e offset : Nat) :
    fatSlices cap tokens weights e offset counts =
      ((List.range counts.length).filter fun i => cap < counts.getD i 0).map fun i =>
        (e + i, slice tokens (offset + (counts.take i).sum) (counts.getD i 0),
          slice weights (offset + (counts.take i).sum) (counts.getD i 0)) := by
  induction counts generalizing e offset with
  | nil => rfl
  | cons c later ih =>
    rw [List.length_cons, List.range_succ_eq_map, List.filter_cons, List.filter_map]
    by_cases thin : c ≤ cap
    · have skipped : ¬ cap < c := by omega
      simp only [fatSlices, thin, ↓reduceIte, ih, List.getD_cons_zero, skipped, decide_false,
        Bool.false_eq_true, List.map_map, Function.comp_def, List.getD_cons_succ, List.take_succ_cons,
        List.sum_cons]
      apply List.map_congr_left
      intro i _
      rw [Nat.add_assoc offset, Nat.add_assoc e, Nat.add_comm 1 i]
    · have fat : cap < c := by omega
      simp only [fatSlices, thin, ↓reduceIte, ih, List.getD_cons_zero, fat, decide_true,
        List.map_cons, List.map_map, Function.comp_def, List.getD_cons_succ, List.take_succ_cons,
        List.sum_cons, List.take_zero, List.sum_nil, Nat.add_zero]
      congr 1
      apply List.map_congr_left
      intro i _
      rw [Nat.add_assoc offset, Nat.add_assoc e, Nat.add_comm 1 i]

theorem fat_experts_counts (n : Nat) :
    ((List.range n).filter fun e => cap < (sizes groups n).getD e 0) =
      fatExperts groups cap n := by
  apply List.filter_congr
  intro e member
  rw [sizes_at groups n e (List.mem_range.mp member)]

theorem fat_slices_groups (n : Nat) :
    fatSlices cap ((buffer groups n rest).map Prod.fst) ((buffer groups n rest).map Prod.snd)
        0 0 (sizes groups n) =
      (fatExperts groups cap n).map fun e =>
        (e, (groups e).map Prod.fst, (groups e).map Prod.snd) := by
  rw [fat_slices_eq, sizes_length, fat_experts_counts]
  apply List.map_congr_left
  intro e member
  have below := List.mem_range.mp (List.mem_filter.mp member).1
  rw [Nat.zero_add, Nat.zero_add, slice_buffer _ _ _ _ e below, slice_buffer _ _ _ _ e below]

variable [AddCommMonoid V] (out : Rows V)

theorem sorted_fat_groups (n : Nat) :
    applyExl3SortedFat stages packs x ((buffer groups n rest).map Prod.fst)
        ((buffer groups n rest).map Prod.snd) (sizes groups n) cap out =
      indexAdd out ((fatExperts groups cap n).flatMap (groupAdditions stages packs x groups)) := by
  rw [applyExl3SortedFat, fat_slices_groups, foldl_index_add, List.flatMap_map]
  congr 1
  apply List.flatMap_congr
  intro e _
  exact expert_additions_group stages packs x groups _ e fun _ _ _ => rfl

theorem batched_fat_groups [DecidableEq S] (shared : sharedW13Suh packs = true)
    (symbols : Symbols) (useKernel : Bool)
    (built : useKernel = true → symbols.fatGemm = true ∧ symbols.fatGemmScatter = true) (n : Nat) :
    applyExl3BatchedFat stages packs x symbols useKernel ((buffer groups n rest).map Prod.fst)
        ((buffer groups n rest).map Prod.snd) (sizes groups n) cap out =
      some (indexAdd out
        ((fatExperts groups cap n).flatMap (groupAdditions stages packs x groups))) := by
  have present : ¬ (useKernel = true ∧
      (symbols.fatGemm = false ∨ symbols.fatGemmScatter = false)) := by
    rintro ⟨wanted, missing⟩
    obtain ⟨gemm, scatter⟩ := built wanted
    simp [gemm, scatter] at missing
  have same : ∀ p ∈ packs, ∀ row, sharedForward stages p row = forward stages p row := by
    intro p member row
    have equal := List.all_eq_true.mp shared p member
    exact shared_forward_eq stages p (by simpa using equal) row
  rw [applyExl3BatchedFat, fat_slices_groups]
  simp only [present, ↓reduceIte]
  change List.foldlM (m := Option) (fun out (f : Nat × List Nat × List W) => pure (indexAdd out
    (expertAdditions stages packs x (sharedForward stages) f.1 f.2.1 f.2.2))) out _ = _
  rw [List.foldlM_pure, foldl_index_add, List.flatMap_map]
  apply congrArg some
  congr 1
  apply List.flatMap_congr
  intro e _
  exact expert_additions_group stages packs x groups _ e same
end Fallbacks
end FusedMoe
