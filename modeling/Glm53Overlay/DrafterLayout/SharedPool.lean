import Mathlib
import Glm53Overlay.DrafterLayout.TensorLayout

/-!
The three consumers agree: the tensors fill the pool block by block, every layer name stands
in one tensor, the drafter rides the MLA tensors exactly when its page is theirs, and the
memory bound charges the same bytes for a block.
-/
namespace DrafterLayout
open PlacedOnce
variable {Name : Type}

theorem draftNames_ne_nil_of_some {l : Layout Name} {g : DraftGroup Name}
    (drafter : l.draftGroup = some g) : draftNames l ≠ [] := by
  simp [draftNames, drafter, DraftGroup.layerNames, DraftGroup.kvCacheSpecs]

theorem configPerBlock_eq_pool (l : Layout Name) : configPerBlock l = poolBytesPerBlock l := by
  unfold configPerBlock poolBytesPerBlock
  cases drafter : l.draftGroup with
  | none => simp [draftNames, drafter]
  | some g =>
    have names := draftNames_ne_nil_of_some drafter
    by_cases fits : g.page = l.mlaPage
    · simp [draftShared, drafter, fits]
    · simp only [draftShared, drafter, names, fits, decide_false, ne_eq, not_false_eq_true,
        and_self, if_true]
      simp [draftNames, draftPage, drafter]

theorem maxMemory_eq_demand (l : Layout Name) (attentionAndMamba : Nat)
    (maxMemoryUsagePages : DraftGroup Name → Nat) :
    maxMemoryUsageBytesFromGroups l attentionAndMamba maxMemoryUsagePages =
      blocksNeeded l attentionAndMamba maxMemoryUsagePages * poolBytesPerBlock l := by
  have tail : (if l.tailNames ≠ [] then attentionAndMamba + 1 else attentionAndMamba) =
      attentionAndMamba + (if l.tailNames ≠ [] then 1 else 0) := by
    split <;> rfl
  unfold maxMemoryUsageBytesFromGroups blocksNeeded poolBytesPerBlock
  cases l.draftGroup with
  | none => simp only [tail, Nat.add_zero]
  | some g => simp only [tail]

theorem sum_const_size {β : Type} (xs : List β) (f : β → KVCacheTensor Name) (size : Int)
    (same : ∀ x ∈ xs, (f x).size = size) :
    ((xs.map f).map KVCacheTensor.size).sum = xs.length * size := by
  induction xs with
  | nil => simp
  | cons x xs ih =>
    have rest := ih fun y member => same y (List.mem_cons_of_mem x member)
    simp only [List.map_cons, List.sum_cons, List.length_cons, rest,
      same x List.mem_cons_self]
    push_cast
    ring

theorem tensor_sizes_sum (l : Layout Name) (numBlocks : Int) :
    ((kvCacheTensors l numBlocks).map KVCacheTensor.size).sum =
      numBlocks * (configPerBlock l : Int) := by
  unfold kvCacheTensors configPerBlock
  rw [List.map_append, List.map_append, List.sum_append, List.sum_append,
    sum_const_size _ (mlaTensor l numBlocks) (l.mlaPage * numBlocks) (fun _ _ => rfl),
    sum_const_size _ (idxTensor l numBlocks) (l.idxPage * numBlocks) (fun _ _ => rfl),
    sum_const_size _ (draftTensor l numBlocks) (draftPage l * numBlocks) (fun _ _ => rfl),
    List.length_zipIdx, List.length_zipIdx]
  cases shared : draftShared l with
  | true =>
    simp only [if_true, List.length_nil, Bool.true_eq_false, and_false, if_false]
    push_cast
    ring
  | false =>
    by_cases none : draftNames l = []
    · simp only [none, ne_eq, not_true_eq_false, false_and, if_false, Bool.false_eq_true,
        List.length_nil]
      push_cast
      ring
    · simp only [none, ne_eq, not_false_eq_true, and_self, if_true, Bool.false_eq_true, if_false]
      push_cast
      ring

def ridingNames (l : Layout Name) : List Name := if draftShared l then draftNames l else []

theorem layout_accepted {detected l : Layout Name}
    (accepted : glm5NextTensorLayout detected = some l) (g : DraftGroup Name)
    (drafter : l.draftGroup = some g) : draftAccepted l.mlaPage l.mlaNames g = true := by
  unfold glm5NextTensorLayout at accepted
  split at accepted
  · cases accepted
  · split at accepted
    · rename_i none
      cases accepted
      rw [drafter] at none
      cases none
    · rename_i g' some
      split at accepted
      · rename_i ok
        cases accepted
        rw [drafter] at some
        cases some
        exact ok
      · cases accepted

theorem accepted_page {mlaPage : Nat} {mlaNames : List Name} {g : DraftGroup Name}
    (accepted : draftAccepted mlaPage mlaNames g = true) (entry : Name × DraftSpec)
    (member : entry ∈ g.kvCacheSpecs) : entry.2.pageSizeBytes = g.page := by
  simp only [draftAccepted, Bool.and_eq_true, List.all_eq_true, decide_eq_true_eq] at accepted
  exact accepted.1.1 entry member

theorem accepted_room {mlaPage : Nat} {mlaNames : List Name} {g : DraftGroup Name}
    (accepted : draftAccepted mlaPage mlaNames g = true) (fits : g.page = mlaPage) :
    g.layerNames.length ≤ mlaNames.length := by
  simp only [draftAccepted, Bool.and_eq_true, Bool.not_eq_true', Bool.and_eq_false_iff,
    decide_eq_false_iff_not, fits, not_true_eq_false, false_or, Nat.not_lt] at accepted
  exact accepted.2

theorem riding_room {detected l : Layout Name}
    (accepted : glm5NextTensorLayout detected = some l) :
    (ridingNames l).length ≤ l.mlaNames.length := by
  unfold ridingNames
  split
  · rename_i shared
    cases drafter : l.draftGroup with
    | none => simp [draftNames, drafter]
    | some g =>
      simp only [draftShared, drafter, decide_eq_true_eq] at shared
      have room := accepted_room (layout_accepted accepted g drafter) shared
      simpa [draftNames, drafter] using room
  · exact Nat.zero_le _

theorem flatMap_zipIdx {α β : Type} (xs : List α) (f : Nat → List β) :
    xs.zipIdx.flatMap (fun entry => f entry.2) = (List.range xs.length).flatMap f := by
  have positions : xs.zipIdx.map Prod.snd = List.range xs.length := by
    rw [List.zipIdx_map_snd, List.range_eq_range']
  rw [← positions, List.flatMap_map]

theorem flatMap_zipIdx_fst {α : Type} (xs : List α) :
    xs.zipIdx.flatMap (fun entry => [entry.1]) = xs := by
  rw [← List.map_eq_flatMap, List.zipIdx_map_fst]

theorem filterMap_eq_flatMap {α β : Type} (xs : List α) (f : α → Option β) :
    xs.filterMap f = xs.flatMap fun x => (f x).toList := by
  induction xs with
  | nil => rfl
  | cons x xs ih =>
    rw [List.filterMap_cons, List.flatMap_cons, ← ih]
    cases f x <;> rfl

theorem mla_names_perm (l : Layout Name) (numBlocks : Int) (rest : RestChecked l)
    (room : (ridingNames l).length ≤ l.mlaNames.length) :
    ((l.mlaNames.zipIdx.map (mlaTensor l numBlocks)).flatMap KVCacheTensor.sharedBy).Perm
      (l.mlaNames ++ ((l.mambaGroups.map MambaGroup.layerNames).flatten ++ ridingNames l)) := by
  have columns : ∀ entry : Name × Nat, (mlaTensor l numBlocks entry).sharedBy =
      [entry.1] ++ ((l.mambaGroups.map MambaGroup.layerNames).flatMap
        (fun names => names[entry.2]?.toList) ++ (ridingNames l)[entry.2]?.toList) := by
    intro entry
    simp only [mlaTensor, filterMap_eq_flatMap, List.flatMap_map, ridingNames,
      List.cons_append]
    cases draftShared l <;> simp
  have mamba : ∀ names ∈ l.mambaGroups.map MambaGroup.layerNames,
      names.length ≤ l.mlaNames.length := by
    intro names member
    obtain ⟨g, inGroups, rfl⟩ := List.mem_map.mp member
    exact rest.mambaRoom g inGroups
  rw [List.flatMap_map]
  simp only [columns]
  refine (List.flatMap_append_perm _ _ _).symm.trans ?_
  rw [flatMap_zipIdx_fst]
  refine List.Perm.append_left _ ?_
  refine (List.flatMap_append_perm _ _ _).symm.trans ?_
  rw [flatMap_zipIdx l.mlaNames (fun i =>
      (l.mambaGroups.map MambaGroup.layerNames).flatMap fun names => names[i]?.toList),
    flatMap_zipIdx l.mlaNames (fun i => (ridingNames l)[i]?.toList),
    flatMap_getElem? _ _ room]
  exact (flatMap_columns_perm _ _ mamba).append_right _

theorem idx_names_perm (l : Layout Name) (numBlocks : Int) (rest : RestChecked l) :
    ((l.idxNames.zipIdx.map (idxTensor l numBlocks)).flatMap KVCacheTensor.sharedBy).Perm
      (l.idxNames ++ l.tailNames) := by
  have columns : ∀ entry : Name × Nat, (idxTensor l numBlocks entry).sharedBy =
      [entry.1] ++ l.tailNames[entry.2]?.toList := fun _ => rfl
  have room : l.tailNames.length ≤ l.idxNames.length := by
    rcases rest.tailRoom with none | same
    · simp [none]
    · exact Nat.le_of_eq same
  rw [List.flatMap_map]
  simp only [columns]
  refine (List.flatMap_append_perm _ _ _).symm.trans ?_
  rw [flatMap_zipIdx_fst, flatMap_zipIdx l.idxNames (fun i => l.tailNames[i]?.toList),
    flatMap_getElem? _ _ room]

theorem tensor_names_perm {detected l : Layout Name}
    (accepted : glm5NextTensorLayout detected = some l) (rest : RestChecked l)
    (numBlocks : Int) :
    ((kvCacheTensors l numBlocks).flatMap KVCacheTensor.sharedBy).Perm (allNames l) := by
  have standalone : ((if draftShared l then [] else draftNames l).map
      (draftTensor l numBlocks)).flatMap KVCacheTensor.sharedBy =
      if draftShared l then [] else draftNames l := by
    rw [List.flatMap_map]
    simp [draftTensor]
  rw [kvCacheTensors, List.flatMap_append, List.flatMap_append, standalone]
  refine (((mla_names_perm l numBlocks rest (riding_room accepted)).append
    (idx_names_perm l numBlocks rest)).append_right _).trans ?_
  unfold ridingNames allNames
  cases draftShared l with
  | true =>
    simp only [if_true, List.append_nil, List.append_assoc]
    refine List.Perm.append_left _ (List.Perm.append_left _ ?_)
    exact List.perm_append_comm.trans (by simp)
  | false => simp

theorem config_spec {l : Layout Name} {availableMemory : Int} {config : KVCacheConfig Name}
    (made : getKvCacheConfigFromGroups l availableMemory = some config) :
    0 < poolBytesPerBlock l ∧ config.numBlocks = availableMemory / (poolBytesPerBlock l : Int) ∧
      config.kvCacheTensors = kvCacheTensors l config.numBlocks := by
  unfold getKvCacheConfigFromGroups at made
  rw [configPerBlock_eq_pool] at made
  split at made
  · cases made
  · rename_i nonzero
    cases made
    exact ⟨Nat.pos_of_ne_zero nonzero, rfl, rfl⟩

theorem drafter_rides_iff {detected l : Layout Name}
    (accepted : glm5NextTensorLayout detected = some l) (rest : RestChecked l)
    (numBlocks : Int) (g : DraftGroup Name) (drafter : l.draftGroup = some g) (name : Name)
    (member : name ∈ g.layerNames) :
    (∃ t ∈ kvCacheTensors l numBlocks, name ∈ t.sharedBy ∧ ∃ m ∈ l.mlaNames, m ∈ t.sharedBy) ↔
      g.page = l.mlaPage := by
  have names : draftNames l = g.layerNames := by simp [draftNames, drafter]
  have perm := tensor_names_perm accepted rest numBlocks
  constructor
  · rintro ⟨t, inTensors, holds, m, inMla, holdsMla⟩
    by_contra differ
    have apart : draftShared l = false := by simp [draftShared, drafter, differ]
    -- its own tensor and this one would be two tensors with the same name
    have own : draftTensor l numBlocks name ∈ kvCacheTensors l numBlocks := by
      refine List.mem_append_right _ (List.mem_map.mpr ⟨name, ?_, rfl⟩)
      rw [apart, names]
      exact member
    obtain ⟨i, place⟩ := List.mem_iff_getElem?.mp inTensors
    obtain ⟨j, ownPlace⟩ := List.mem_iff_getElem?.mp own
    have unique := existsUnique_part (kvCacheTensors l numBlocks) KVCacheTensor.sharedBy
      (perm.nodup_iff.mpr rest.distinct) name (List.mem_flatMap.mpr ⟨t, inTensors, holds⟩)
    have same : i = j := unique.unique ⟨t, place, holds⟩
      ⟨_, ownPlace, by simp [draftTensor]⟩
    rw [same, ownPlace] at place
    cases place
    have meet : m = name := by simpa [draftTensor] using holdsMla
    have distinct := rest.distinct
    rw [allNames, names, List.nodup_append] at distinct
    exact distinct.2.2 m (by simp [inMla]) name member meet
  · intro fits
    have shared : draftShared l = true := by simp [draftShared, drafter, fits]
    obtain ⟨i, place⟩ := List.mem_iff_getElem?.mp member
    have room := accepted_room (layout_accepted accepted g drafter) fits
    have bound : i < l.mlaNames.length := by
      have := (List.getElem?_eq_some_iff.mp place).1
      omega
    refine ⟨mlaTensor l numBlocks (l.mlaNames[i], i), ?_, ?_, l.mlaNames[i],
      List.getElem_mem bound, by simp [mlaTensor]⟩
    · refine List.mem_append_left _ (List.mem_append_left _ (List.mem_map.mpr ⟨_, ?_, rfl⟩))
      rw [List.mem_zipIdx_iff_getElem?]
      exact List.getElem?_eq_getElem bound
    · simp [mlaTensor, shared, names, place]

/-- The drafter layout is one layout for its three consumers. -/
theorem drafter_layout_consistent (detected l : Layout Name)
    (accepted : glm5NextTensorLayout detected = some l) (rest : RestChecked l)
    (availableMemory : Int) :
    (getKvCacheConfigFromGroups l availableMemory = none ↔ poolBytesPerBlock l = 0) ∧
    (∀ config, getKvCacheConfigFromGroups l availableMemory = some config →
      (config.kvCacheTensors.map KVCacheTensor.size).sum =
          config.numBlocks * (poolBytesPerBlock l : Int) ∧
      (config.kvCacheTensors.map KVCacheTensor.size).sum ≤ availableMemory ∧
      (∀ name ∈ allNames l, ∃! i : Nat, ∃ t, config.kvCacheTensors[i]? = some t ∧
        name ∈ t.sharedBy) ∧
      (∀ g, l.draftGroup = some g → ∀ entry ∈ g.kvCacheSpecs,
        (∃ t ∈ config.kvCacheTensors, entry.1 ∈ t.sharedBy ∧
          ∃ m ∈ l.mlaNames, m ∈ t.sharedBy) ↔ entry.2.pageSizeBytes = l.mlaPage)) ∧
    (∀ attentionAndMamba maxMemoryUsagePages,
      maxMemoryUsageBytesFromGroups l attentionAndMamba maxMemoryUsagePages =
        blocksNeeded l attentionAndMamba maxMemoryUsagePages * poolBytesPerBlock l) := by
  refine ⟨?_, ?_, maxMemory_eq_demand l⟩
  · unfold getKvCacheConfigFromGroups
    rw [configPerBlock_eq_pool]
    split
    · simp [*]
    · simp [*]
  · intro config made
    obtain ⟨positive, blocks, tensors⟩ := config_spec made
    have total : (config.kvCacheTensors.map KVCacheTensor.size).sum =
        config.numBlocks * (poolBytesPerBlock l : Int) := by
      rw [tensors, tensor_sizes_sum, configPerBlock_eq_pool]
    have perm := tensor_names_perm accepted rest config.numBlocks
    refine ⟨total, ?_, ?_, ?_⟩
    · rw [total, blocks]
      exact Int.ediv_mul_le _ (by omega)
    · intro name member
      rw [tensors]
      exact existsUnique_part _ _ (perm.nodup_iff.mpr rest.distinct) name
        (perm.mem_iff.mpr member)
    · intro g drafter entry member
      rw [accepted_page (layout_accepted accepted g drafter) entry member, tensors]
      exact drafter_rides_iff accepted rest config.numBlocks g drafter entry.1
        (List.mem_map.mpr ⟨entry, member, rfl⟩)

def sampleLayout : Layout Nat where
  mambaGroups := [⟨[20, 21], 100⟩, ⟨[22], 100⟩]
  mlaNames := [10, 11, 12]
  idxNames := [30]
  mlaPage := 100
  idxPage := 7
  tailNames := [31]
  draftGroup := some ⟨(40, ⟨64, 90, some 100⟩), [(41, ⟨64, 90, some 100⟩)]⟩

theorem sampleLayout_checked : RestChecked sampleLayout :=
  ⟨by decide, by decide, Or.inr rfl⟩

/-- Three blocks out of 1000 bytes: the books balance, and the drafters ride on MLA tensors. -/
theorem drafter_layout_consistent_sample :
    ∃ config, getKvCacheConfigFromGroups sampleLayout 1000 = some config ∧
      (config.kvCacheTensors.map KVCacheTensor.size).sum = 3 * 307 ∧
      (config.kvCacheTensors.map KVCacheTensor.size).sum ≤ 1000 ∧
      (∀ name ∈ [10, 12, 30, 31, 40, 41], ∃! i : Nat, ∃ t, config.kvCacheTensors[i]? = some t ∧
        name ∈ t.sharedBy) ∧
      (∃ t ∈ config.kvCacheTensors, 40 ∈ t.sharedBy ∧ ∃ m ∈ [10, 11, 12], m ∈ t.sharedBy) ∧
      maxMemoryUsageBytesFromGroups sampleLayout 2 (fun _ => 5) =
        blocksNeeded sampleLayout 2 (fun _ => 5) * 307 := by
  obtain ⟨-, configs, usage⟩ :=
    drafter_layout_consistent sampleLayout sampleLayout rfl sampleLayout_checked 1000
  obtain ⟨total, within, once, rides⟩ := configs _ rfl
  exact ⟨_, rfl, total, within, fun name member => once name (by revert name; decide),
    (rides _ rfl (40, ⟨64, 90, some 100⟩) (by decide)).mpr rfl, usage 2 (fun _ => 5)⟩

end DrafterLayout
