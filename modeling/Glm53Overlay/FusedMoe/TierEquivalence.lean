import Glm53Overlay.FusedMoe.RoutedSlots
import Glm53Overlay.FusedMoe.RowTiles
import Glm53Overlay.FusedMoe.GroupedTables

/-!
Every tier adds the same sum. The fused launch leaves out the experts above the cap and
each fallback picks up exactly those, so that a slot routed to a local expert is added
once and a sentinel slot never, as in the reference loop over all experts.
-/
namespace FusedMoe
open SegmentedRange
variable {S D X XH M MH V W : Type}

section Slots
variable (stages : Stages S D X XH M MH V W) (packs : List (Pack S D XH M MH V)) (b : Batch X W)
  (expertMap : Option (List Int)) (argsort : List Nat → List Nat)

def slotAdditions (s : Nat × Nat) : List (Nat × V) :=
  addition (forward stages) stages.scale packs b.x (slotExpert b expertMap packs.length s)
    (slotData b s)

theorem groups_perm (sorts : SortSpec argsort) (experts : List Nat) (nodup : experts.Nodup) :
    (experts.flatMap (groupAdditions stages packs b.x
      (expertSlots b expertMap packs.length argsort))).Perm
      ((b.slots.filter fun s => experts.contains (slotExpert b expertMap packs.length s)).flatMap
        (slotAdditions stages packs b expertMap)) := by
  have by_expert := SortedRuns.flatMap_by_key_perm (slotExpert b expertMap packs.length) experts
    nodup (sortedSlots b expertMap packs.length argsort) fun e s =>
      addition (forward stages) stages.scale packs b.x e (slotData b s)
  have groups : (experts.flatMap (groupAdditions stages packs b.x
      (expertSlots b expertMap packs.length argsort))) =
      experts.flatMap fun e => ((sortedSlots b expertMap packs.length argsort).filter fun s =>
        slotExpert b expertMap packs.length s = e).flatMap fun s =>
          addition (forward stages) stages.scale packs b.x e (slotData b s) := by
    apply List.flatMap_congr
    intro e _
    rw [groupAdditions, expertSlots, List.flatMap_map]
  rw [groups]
  have moved := sorted_slots_perm b expertMap packs.length argsort sorts
  exact by_expert.trans ((moved.filter _).flatMap_right _)

theorem all_groups_perm (sorts : SortSpec argsort) :
    ((List.range packs.length).flatMap (groupAdditions stages packs b.x
      (expertSlots b expertMap packs.length argsort))).Perm
      (b.slots.flatMap (slotAdditions stages packs b expertMap)) := by
  apply (groups_perm stages packs b expertMap argsort sorts _ List.nodup_range).trans
  apply List.Perm.of_eq
  have chosen : (b.slots.filter fun s =>
      (List.range packs.length).contains (slotExpert b expertMap packs.length s)) =
      b.slots.filter fun s => ¬ packs.length ≤ slotExpert b expertMap packs.length s := by
    apply List.filter_congr
    intro s _
    simp
  rw [chosen, ← flatMap_if_filter]
  apply List.flatMap_congr
  intro s _
  by_cases sentinel : packs.length ≤ slotExpert b expertMap packs.length s
  · rw [if_pos sentinel, slotAdditions, addition, List.getElem?_eq_none sentinel]
  · rw [if_neg sentinel]

def barred (only : Option (List Nat)) (e : Nat) : Bool :=
  only.any fun experts => !experts.contains e

/-- What the reference loop adds for a slot while it runs the id `raw`. -/
def loopVisit (only : Option (List Nat)) (raw : Int) (s : Nat × Nat) : List (Nat × V) :=
  match loopExpert packs.length expertMap raw with
  | none => []
  | some e =>
    if barred only e then []
    else addition (forward stages) stages.scale packs b.x e (slotData b s)

theorem loop_visit_own (covers : ∀ map, expertMap = some map → packs.length ≤ map.length)
    (only : Option (List Nat)) (s : Nat × Nat) :
    loopVisit stages packs b expertMap only (b.idOf s) s =
      if barred only (slotExpert b expertMap packs.length s) then []
      else slotAdditions stages packs b expertMap s := by
  rw [loopVisit, loop_expert_eq packs.length expertMap covers]
  by_cases isLocal : slotExpert b expertMap packs.length s < packs.length
  · have mapped := isLocal
    rw [slotExpert] at mapped
    rw [if_pos mapped]
    rfl
  · have nothing : slotAdditions stages packs b expertMap s = [] := by
      rw [slotAdditions, addition, List.getElem?_eq_none (Nat.le_of_not_lt isLocal)]
    rw [slotExpert] at isLocal
    rw [if_neg isLocal, nothing, ite_self]

variable [AddCommMonoid V]

theorem loop_round (only : Option (List Nat)) (raw : Int) (out : Rows V) :
    (match loopExpert packs.length expertMap raw with
      | none => out
      | some e =>
        if only.any (fun experts => !experts.contains e) then out
        else indexAdd out ((b.slots.filter fun s => b.idOf s = raw).flatMap fun s =>
          addition (forward stages) stages.scale packs b.x e (s.1, b.weightOf s))) =
      indexAdd out ((b.slots.filter fun s => b.idOf s = raw).flatMap
        (loopVisit stages packs b expertMap only raw)) := by
  have nothing : ∀ visit : Nat × Nat → List (Nat × V), (∀ s, visit s = []) →
      indexAdd out ((b.slots.filter fun s => b.idOf s = raw).flatMap visit) = out := by
    intro visit empty
    rw [List.flatMap_eq_nil_iff.mpr fun s _ => empty s]
    rfl
  cases found : loopExpert packs.length expertMap raw with
  | none =>
    symm
    apply nothing
    intro s
    simp only [loopVisit, found]
  | some e =>
    by_cases out_of_set : barred only e = true
    · rw [barred] at out_of_set
      simp only [out_of_set, ↓reduceIte]
      symm
      apply nothing
      intro s
      simp only [loopVisit, found, barred, out_of_set, ↓reduceIte]
    · rw [barred] at out_of_set
      simp only [out_of_set, Bool.false_eq_true, ↓reduceIte]
      congr 1
      apply List.flatMap_congr
      intro s _
      simp only [loopVisit, found, barred, out_of_set, Bool.false_eq_true, ↓reduceIte, slotData]

theorem python_loop_sum
    (covers : ∀ map, expertMap = some map → packs.length ≤ map.length)
    (only : Option (List Nat)) (out : Rows V) :
    applyExl3PythonLoop stages packs b expertMap only out =
      indexAdd out ((b.slots.filter fun s =>
        ¬ barred only (slotExpert b expertMap packs.length s) = true).flatMap
          (slotAdditions stages packs b expertMap)) := by
  have rounds : applyExl3PythonLoop stages packs b expertMap only out =
      (SortedRuns.distinct (b.slots.map b.idOf)).foldl (fun out raw =>
        indexAdd out ((b.slots.filter fun s => b.idOf s = raw).flatMap
          (loopVisit stages packs b expertMap only raw))) out := by
    apply List.foldl_ext
    intro out raw _
    exact loop_round stages packs b expertMap only raw out
  have every : (b.slots.filter fun s =>
      (SortedRuns.distinct (b.slots.map b.idOf)).contains (b.idOf s)) = b.slots := by
    rw [List.filter_eq_self]
    intro s member
    rw [List.contains_iff_mem, SortedRuns.mem_distinct]
    exact List.mem_map_of_mem member
  have visited := SortedRuns.flatMap_by_key_perm b.idOf
    (SortedRuns.distinct (b.slots.map b.idOf)) (SortedRuns.distinct_nodup _) b.slots
    (loopVisit stages packs b expertMap only)
  rw [every] at visited
  rw [rounds, foldl_index_add, index_add_perm out visited, ← flatMap_if_filter]
  congr 1
  apply List.flatMap_congr
  intro s _
  exact loop_visit_own stages packs b expertMap covers only s
theorem legacy_fat_groups (sorts : SortSpec argsort)
    (covers : ∀ map, expertMap = some map → packs.length ≤ map.length) (cap : Nat)
    (out : Rows V) :
    applyExl3PythonLoop stages packs b expertMap
        (some (fatExperts (expertSlots b expertMap packs.length argsort) cap packs.length)) out =
      indexAdd out
        ((fatExperts (expertSlots b expertMap packs.length argsort) cap packs.length).flatMap
          (groupAdditions stages packs b.x (expertSlots b expertMap packs.length argsort))) := by
  rw [python_loop_sum stages packs b expertMap covers]
  apply index_add_perm
  have nodup : (fatExperts (expertSlots b expertMap packs.length argsort) cap packs.length).Nodup :=
    List.nodup_range.filter _
  apply List.Perm.symm
  apply (groups_perm stages packs b expertMap argsort sorts _ nodup).trans
  apply List.Perm.of_eq
  congr 1
  apply List.filter_congr
  intro s _
  simp [barred]
end Slots

theorem resolve_kernel_ok {symbols : Symbols} {configured tier : Tier} {text reason : String}
    (resolved : resolveKernel symbols configured text = .ok (tier, reason)) :
    tier = configured ∧
      (configured = .kernel → symbols.fatGemm = true ∧ symbols.fatGemmScatter = true) := by
  by_cases blocked : configured = .kernel ∧
      ¬ (symbols.fatGemm = true ∧ symbols.fatGemmScatter = true)
  · obtain ⟨kernel, missing⟩ := blocked
    simp only [resolveKernel] at resolved
    rw [if_pos] at resolved
    · cases resolved
    · refine ⟨kernel, ?_⟩
      cases gemm : symbols.fatGemm <;> cases scatter : symbols.fatGemmScatter <;>
        simp [gemm, scatter] at missing ⊢
  · simp only [resolveKernel] at resolved
    rw [if_neg] at resolved
    · obtain ⟨same, _⟩ := Prod.mk.inj (Except.ok.inj resolved)
      refine ⟨same.symm, ?_⟩
      intro kernel
      by_contra missing
      exact blocked ⟨kernel, missing⟩
    · rintro ⟨kernel, missing⟩
      apply blocked
      refine ⟨kernel, ?_⟩
      rintro ⟨gemm, scatter⟩
      simp [gemm, scatter] at missing

section Resolution
variable (sw : Switches) (sharedSuh : Bool) (symbols : Symbols) (eligible : Bool × String)
  (tier : Tier) (reason : String)
  (resolved : resolveExl3FatTier sw sharedSuh symbols eligible = .ok (tier, reason))

include resolved in
theorem grouped_resolved (grouped : tier = .grouped) :
    sharedSuh = true ∧ symbols.fatMoe = true := by
  subst grouped
  unfold resolveExl3FatTier at resolved
  simp only at resolved
  split at resolved
  · rename_i legacy
    obtain ⟨same, _⟩ := Prod.mk.inj (Except.ok.inj resolved)
    rw [legacy] at same
    cases same
  split at resolved
  · cases resolved
  split at resolved
  · cases resolved
  rename_i notLegacy built shared
  split at resolved
  · rename_i grouped
    simp only [grouped, true_and, Bool.not_eq_false, List.mem_cons, true_or, and_true]
      at built shared
    exact ⟨shared, built⟩
  · rename_i notGrouped
    obtain ⟨same, _⟩ := resolve_kernel_ok resolved
    exact absurd same.symm notGrouped

include resolved in
theorem kernel_resolved (shared : sharedSuh = true) (wanted : (sw.kernel || sw.grouped) = true)
    (notGrouped : ¬ (sw.grouped = true ∧ tier = .grouped)) :
    symbols.fatGemm = true ∧ symbols.fatGemmScatter = true := by
  unfold resolveExl3FatTier at resolved
  simp only [shared, Bool.true_eq_false, false_and, ↓reduceIte] at resolved
  by_cases grouped : sw.grouped = true
  · have configured : configuredFatTier sw = .grouped := by simp [configuredFatTier, grouped]
    simp only [configured, reduceCtorEq, ↓reduceIte, true_and] at resolved
    split at resolved
    · cases resolved
    split at resolved
    · obtain ⟨same, _⟩ := Prod.mk.inj (Except.ok.inj resolved)
      exact absurd ⟨grouped, same.symm⟩ notGrouped
    · exact (resolve_kernel_ok resolved).2 rfl
  · have kernel : sw.kernel = true := by simpa [grouped] using wanted
    have configured : configuredFatTier sw = .kernel := by
      simp [configuredFatTier, grouped, kernel]
    simp only [configured, reduceCtorEq, ↓reduceIte, false_and] at resolved
    exact (resolve_kernel_ok resolved).2 rfl
end Resolution

/-- What the code relies on outside itself: the sort, the fused kernel, and shapes that
    are not empty. -/
structure DeviceSpec [AddCommMonoid V] (stages : Stages S D X XH M MH V W)
    (packs : List (Pack S D XH M MH V)) (dev : Device X XH MH V W) : Prop where
  sorts : SortSpec dev.argsort
  kernel : MoeKernelSpec stages packs dev
  tempRows : 1 ≤ dev.cap
  gateupRows : 0 < dev.tileGateup
  downRows : 0 < dev.tileDown

theorem le_foldl_max (values : List Nat) (start v : Nat) (member : v ∈ values ∨ v ≤ start) :
    v ≤ values.foldl max start := by
  induction values generalizing start with
  | nil => simpa using member
  | cons w rest ih =>
    apply ih
    rcases member with member | below
    · rcases List.mem_cons.mp member with rfl | later
      · exact Or.inr (Nat.le_max_right _ _)
      · exact Or.inl later
    · exact Or.inr (Nat.le_trans below (Nat.le_max_left _ _))

theorem max_rows_bound (groups : Nat → List (Nat × W)) (n : Nat) (some_expert : 0 < n)
    (host : Bool) :
    ∃ m, (if host then some ((sizes groups n).foldl max 0) else (sizes groups n).max?) = some m ∧
      ∀ e < n, (groups e).length ≤ m := by
  have member : ∀ e < n, (groups e).length ∈ sizes groups n := by
    intro e below
    exact List.mem_map_of_mem (List.mem_range.mpr below)
  cases host with
  | true =>
    refine ⟨_, rfl, ?_⟩
    intro e below
    exact le_foldl_max _ _ _ (Or.inl (member e below))
  | false =>
    cases found : (sizes groups n).max? with
    | none =>
      have empty := List.max?_eq_none_iff.mp found
      have first := member 0 some_expert
      rw [empty] at first
      cases first
    | some m =>
      refine ⟨m, rfl, ?_⟩
      intro e below
      exact (List.max?_eq_some_iff.mp found).2 _ (member e below)

section Tiers
variable [DecidableEq S] [AddCommMonoid V] (stages : Stages S D X XH M MH V W)
  (packs : List (Pack S D XH M MH V)) (b : Batch X W) (expertMap : Option (List Int))
  (dev : Device X XH MH V W) (spec : DeviceSpec stages packs dev)
  (routable : Routable b expertMap packs.length)

omit [DecidableEq S] in
include spec routable in
theorem expert_slots_le (e : Nat) (below : e < packs.length) :
    (expertSlots b expertMap packs.length dev.argsort e).length ≤ b.tokens := by
  rw [expertSlots, List.length_map, ← List.countP_eq_length_filter,
    (sorted_slots_perm b expertMap packs.length dev.argsort spec.sorts).countP_eq]
  exact expert_load_le b expertMap packs.length routable.distinct routable.injective e below

theorem fallback_groups (groups : Nat → List (Nat × W)) (rest : List (Nat × W)) (symbols : Symbols)
    (useBatched useKernel useSorted : Bool)
    (shared : useBatched = true → sharedW13Suh packs = true)
    (built : useKernel = true → symbols.fatGemm = true ∧ symbols.fatGemmScatter = true)
    (legacy : ∀ out, applyExl3PythonLoop stages packs b expertMap
      (some (fatExperts groups dev.cap packs.length)) out =
        indexAdd out ((fatExperts groups dev.cap packs.length).flatMap
          (groupAdditions stages packs b.x groups))) (out : Rows V) :
    (if useBatched = true then
        applyExl3BatchedFat stages packs b.x symbols useKernel
          ((buffer groups packs.length rest).map Prod.fst)
          ((buffer groups packs.length rest).map Prod.snd) (sizes groups packs.length) dev.cap out
      else if useSorted = true then
        some (applyExl3SortedFat stages packs b.x ((buffer groups packs.length rest).map Prod.fst)
          ((buffer groups packs.length rest).map Prod.snd) (sizes groups packs.length) dev.cap out)
      else if fatExperts groups dev.cap packs.length = [] then some out
      else some (applyExl3PythonLoop stages packs b expertMap
        (some (fatExperts groups dev.cap packs.length)) out)) =
      some (indexAdd out ((fatExperts groups dev.cap packs.length).flatMap
        (groupAdditions stages packs b.x groups))) := by
  split
  · rename_i batched
    rw [batched_fat_groups stages packs b.x groups rest dev.cap out (shared batched) symbols
      useKernel built]
  · split
    · rw [sorted_fat_groups]
    · split
      · rename_i none_fat
        rw [none_fat]
        rfl
      · rw [legacy]

include spec routable in
theorem fused_moe_groups (some_expert : packs ≠ []) (sw : Switches) (symbols : Symbols)
    (eligible : Bool × String) (tier : Tier) (reason : String)
    (resolved : resolveExl3FatTier sw (sharedW13Suh packs) symbols eligible = .ok (tier, reason)) :
    applyExl3FusedMoe stages packs b expertMap dev sw symbols tier =
      some (indexAdd (fun _ => 0) ((List.range packs.length).flatMap
        (groupAdditions stages packs b.x
          (expertSlots b expertMap packs.length dev.argsort)))) := by
  have keys : (b.slots.map fun s => mapTopkToLocal packs.length expertMap (b.idOf s)) =
      b.slots.map (slotExpert b expertMap packs.length) := rfl
  simp only [applyExl3FusedMoe, keys, tokens_eq b expertMap packs.length dev.argsort spec.sorts,
    weights_eq b expertMap packs.length dev.argsort spec.sorts,
    expert_count_eq b expertMap packs.length dev.argsort spec.sorts,
    List.take_left' (sizes_length (expertSlots b expertMap packs.length dev.argsort) packs.length),
    launch_groups stages packs dev spec.kernel b.x]
  have load := expert_slots_le stages packs b expertMap dev spec routable
  have legacy := legacy_fat_groups stages packs b expertMap dev.argsort spec.sorts
    routable.covers dev.cap
  generalize expertSlots b expertMap packs.length dev.argsort = groups at load legacy ⊢
  generalize sentinelSlots b expertMap packs.length dev.argsort = rest
  by_cases decode : b.tokens ≤ dev.cap
  · rw [if_pos decode, all_thin groups _ _ fun e below => Nat.le_trans (load e below) decode]
  rw [if_neg decode]
  by_cases grouped : sw.grouped = true ∧ sw.rowTile = false ∧ tier = .grouped
  · obtain ⟨shared, built⟩ := grouped_resolved sw _ symbols eligible tier reason resolved
      grouped.2.2
    rw [if_pos grouped, grouped_fat_groups stages packs b.x groups rest _ shared symbols built dev
      spec.gateupRows spec.downRows, thin_then_fat]
  rw [if_neg grouped]
  obtain ⟨m, found, most⟩ := max_rows_bound groups packs.length
    (List.length_pos_iff.mpr some_expert)
    (((sw.batched || (sw.kernel || sw.grouped)) && sharedW13Suh packs && !sw.rowTile) ||
      (sw.sorted || (sw.batched || (sw.kernel || sw.grouped))))
  rw [found]
  simp only [fat_experts_counts]
  by_cases fits : m ≤ dev.cap
  · rw [if_pos fits, all_thin groups _ _ fun e below => Nat.le_trans (most e below) fits]
    split <;> rfl
  rw [if_neg fits]
  cases tiles : sw.rowTile with
  | true =>
    simp only [Bool.not_true, Bool.and_false, Bool.false_eq_true, ↓reduceIte]
    rw [row_tiles_groups stages packs dev spec.kernel b.x groups rest _ spec.tempRows m most]
  | false =>
    simp only [Bool.not_false, Bool.and_true, Bool.false_eq_true, ↓reduceIte]
    have built : (((sw.batched || (sw.kernel || sw.grouped)) && sharedW13Suh packs) &&
        (sw.kernel || sw.grouped)) = true →
          symbols.fatGemm = true ∧ symbols.fatGemmScatter = true := by
      intro wanted
      obtain ⟨batched, kernel⟩ := Bool.and_eq_true_iff.mp wanted
      refine kernel_resolved sw _ symbols eligible tier reason resolved
        (Bool.and_eq_true_iff.mp batched).2 kernel ?_
      rintro ⟨on, reached⟩
      exact grouped ⟨on, tiles, reached⟩
    rw [fallback_groups stages packs b expertMap dev groups rest symbols _ _ _
      (fun batched => (Bool.and_eq_true_iff.mp batched).2) built legacy]
    -- the thin launch went out before or after the counts were read, but once
    by_cases launched :
        ((sw.batched || (sw.kernel || sw.grouped)) && sharedW13Suh packs) = true
    · rw [if_pos launched, if_pos launched, thin_then_fat]
    · rw [if_neg launched, if_neg launched, thin_then_fat]

def routedValue (t k : Nat) : V :=
  match packs[mapTopkToLocal packs.length expertMap (b.ids t k)]? with
  | none => 0
  | some pack => stages.scale (forward stages pack (b.x t)) (b.weights t k)

omit [DecidableEq S] [AddCommMonoid V] in
theorem slots_of_token (t : Nat) (token : t < b.tokens) :
    (b.slots.filter fun s => ¬ s.1 ≠ t) = (List.range b.topk).map fun k => (t, k) := by
  have row : ∀ u ∈ List.range b.tokens, (((List.range b.topk).map fun k => (u, k)).filter
      fun s => ¬ s.1 ≠ t) = if u ≠ t then [] else (List.range b.topk).map fun k => (u, k) := by
    intro u _
    by_cases here : u = t <;> simp [here, List.filter_map, Function.comp_def]
  have only : ((List.range b.tokens).filter fun u => ¬ u ≠ t) = [t] := by
    have once := List.count_eq_one_of_mem List.nodup_range (List.mem_range.mpr token)
    simp [List.filter_eq, once]
  rw [Batch.slots, slots, List.filter_flatMap, List.flatMap_congr row, flatMap_if_filter, only,
    List.flatMap_singleton]

omit [DecidableEq S] in
theorem slots_row_sum (t : Nat) (token : t < b.tokens) :
    indexAdd (fun _ => 0) (b.slots.flatMap (slotAdditions stages packs b expertMap)) t =
      ((List.range b.topk).map (routedValue stages packs b expertMap t)).sum := by
  have restricted : (b.slots.flatMap (slotAdditions stages packs b expertMap)).filter
      (fun a => a.1 = t) = ((List.range b.topk).map fun k => (t, k)).flatMap
        (slotAdditions stages packs b expertMap) := by
    rw [← slots_of_token b t token, ← flatMap_if_filter, List.filter_flatMap]
    apply List.flatMap_congr
    intro s _
    rw [slotAdditions, addition]
    cases packs[slotExpert b expertMap packs.length s]? with
    | none => simp
    | some p => by_cases here : s.1 = t <;> simp [slotData, here]
  have value : ∀ k, ((slotAdditions stages packs b expertMap (t, k)).map Prod.snd).sum =
      routedValue stages packs b expertMap t k := by
    intro k
    rw [slotAdditions, addition, routedValue]
    change (List.map Prod.snd (match packs[mapTopkToLocal packs.length expertMap (b.ids t k)]? with
      | none => []
      | some pack => [(t, stages.scale (forward stages pack (b.x t)) (b.weights t k))])).sum = _
    cases packs[mapTopkToLocal packs.length expertMap (b.ids t k)]? with
    | none => rfl
    | some p => simp
  rw [index_add_apply, restricted, zero_add, List.flatMap_map, List.map_flatMap]
  induction List.range b.topk with
  | nil => rfl
  | cons k later ih => rw [List.flatMap_cons, List.sum_append, ih, value, List.map_cons, List.sum_cons]

include spec routable in
/-- Every switch combination the resolver lets through returns the sum of the reference loop
    over all experts, which holds each routed slot once and no sentinel slot. -/
theorem fused_moe_matches_loop (some_expert : packs ≠ []) (sw : Switches) (symbols : Symbols)
    (eligible : Bool × String) (tier : Tier) (reason : String)
    (resolved : resolveExl3FatTier sw (sharedW13Suh packs) symbols eligible = .ok (tier, reason)) :
    ∃ out, applyExl3FusedMoe stages packs b expertMap dev sw symbols tier = some out ∧
      out = applyExl3PythonLoop stages packs b expertMap none (fun _ => 0) ∧
      ∀ t < b.tokens,
        out t = ((List.range b.topk).map (routedValue stages packs b expertMap t)).sum := by
  have fused := fused_moe_groups stages packs b expertMap dev spec routable some_expert sw symbols
    eligible tier reason resolved
  rw [index_add_perm _ (all_groups_perm stages packs b expertMap dev.argsort spec.sorts)] at fused
  refine ⟨_, fused, ?_, ?_⟩
  · rw [python_loop_sum stages packs b expertMap routable.covers]
    simp [barred]
  · intro t token
    exact slots_row_sum stages packs b expertMap t token
end Tiers

section Example

def exampleStages : Stages Int Int Int Int Int Int Int Int where
  had := (· * ·)
  act := (· * ·)
  hadDown := (· * ·)
  scale := (· * ·)

def examplePacks : List (Pack Int Int Int Int Int Int) :=
  [{ gateSuh := 1, upSuh := 1, downSuh := 2, gate := (· + 1), up := (· + 2), down := (· + 3) },
    { gateSuh := 3, upSuh := 3, downSuh := 1, gate := (· - 1), up := id, down := (· - 5) }]

/-- Expert 0 gets three tokens; one slot is masked and one belongs to another rank. -/
def exampleBatch : Batch Int Int where
  tokens := 3
  topk := 2
  x := fun t => t + 1
  ids := fun t k => ([[2, 0], [2, -1], [1, 2]].getD t []).getD k 0
  weights := fun t k => 10 * t + k + 1

def exampleMap : Option (List Int) := some [1, -1, 0]

/-- A stable sort and the fused kernel written out, with two temp rows. -/
def exampleDevice : Device Int Int Int Int Int where
  argsort := fun keys =>
    (List.range keys.length).insertionSort fun i j => keys.getD i 0 ≤ keys.getD j 0
  exl3Moe := fun x out counts tokens weights =>
    indexAdd out ((List.range examplePacks.length).flatMap fun e =>
      if 2 < counts.getD e 0 then []
      else expertAdditions exampleStages examplePacks x (forward exampleStages) e
        (slice tokens (counts.take e).sum (counts.getD e 0))
        (slice weights (counts.take e).sum (counts.getD e 0)))
  cap := 2
  tileGateup := 2
  tileDown := 1
  h13 := fun _ => 99
  h2 := fun _ => 77

theorem example_device_spec : DeviceSpec exampleStages examplePacks exampleDevice where
  sorts := by
    intro keys
    refine ⟨List.perm_insertionSort _ _, ?_⟩
    have total : Std.Total fun i j : Nat => keys.getD i 0 ≤ keys.getD j 0 :=
      ⟨fun i j => Nat.le_total (keys.getD i 0) (keys.getD j 0)⟩
    have transitive : IsTrans Nat fun i j => keys.getD i 0 ≤ keys.getD j 0 :=
      ⟨fun _ _ _ => Nat.le_trans⟩
    exact List.pairwise_map.mpr (List.pairwise_insertionSort _ _)
  kernel := by
    intro x out counts tokens weights _ _ _
    rfl
  tempRows := by decide
  gateupRows := by decide
  downRows := by decide

theorem example_routable : Routable exampleBatch exampleMap examplePacks.length where
  distinct := by decide
  covers := by
    rintro map found
    obtain rfl := Option.some.inj found
    decide
  injective := by
    rintro map found
    obtain rfl := Option.some.inj found
    decide

/-- The grouped tier on a batch with a fat expert, a masked slot and a foreign one. -/
theorem fused_moe_matches_loop_grouped :
    ∃ out, applyExl3FusedMoe exampleStages examplePacks exampleBatch exampleMap exampleDevice
        ⟨false, false, false, true, false⟩ ⟨true, true, true⟩ .grouped = some out ∧
      out = applyExl3PythonLoop exampleStages examplePacks exampleBatch exampleMap none
        (fun _ => 0) ∧
      ∀ t < 3, out t = ((List.range 2).map
        (routedValue exampleStages examplePacks exampleBatch exampleMap t)).sum :=
  fused_moe_matches_loop exampleStages examplePacks exampleBatch exampleMap exampleDevice
    example_device_spec example_routable (by decide) ⟨false, false, false, true, false⟩
    ⟨true, true, true⟩ (true, "eligible") .grouped "grouped_ok" rfl

-- the same batch through the row tiles
example : (applyExl3FusedMoe exampleStages examplePacks exampleBatch exampleMap exampleDevice
    ⟨false, false, false, false, true⟩ ⟨false, false, false⟩ .legacy).map
      (fun out => (List.range 3).map out) = some [17, 297, 946] := by
  decide +kernel
end Example
end FusedMoe
