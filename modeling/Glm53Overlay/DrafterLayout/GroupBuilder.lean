import Glm53Overlay.DrafterLayout.TensorLayout

/-!
The drafter group `_get_kv_cache_groups_glm5_next` appends: an exact fit of the MLA page where
the geometry gives one, a padded slot-share otherwise. The layout function then checks what was
built.
-/
namespace DrafterLayout
variable {Name : Type}

structure WindowSpec where
  blockSize : Nat
  bytesPerToken : Nat
  block_positive : 0 < blockSize
  bytes_positive : 0 < bytesPerToken
  deriving DecidableEq

def WindowSpec.pageSizeBytes (s : WindowSpec) : Nat := s.blockSize * s.bytesPerToken

def WindowSpec.draftBytesPerToken (s : WindowSpec) : Nat := s.pageSizeBytes / s.blockSize

/-- `replace(s, block_size=.., page_size_padded=..)`. -/
def WindowSpec.replace (s : WindowSpec) (block : Nat) (padded : Option Nat) : DraftSpec :=
  ⟨block, block * s.bytesPerToken, padded⟩

def fitBlock (mlaPage draftBytes : Nat) : Nat :=
  if mlaPage % draftBytes = 0 then mlaPage / draftBytes else 0

def exactFit (mlaPage mlaBlock draftBytes layers tensors : Nat) : Bool :=
  let fit := fitBlock mlaPage draftBytes
  fit ≠ 0 ∧ fit % 64 = 0 ∧ (fit % mlaBlock = 0 ∨ mlaBlock % fit = 0) ∧ layers ≤ tensors

/-- The spec every drafter layer is given; `compactBlock` is the padded branch's block. -/
def newDraftSpec (compactBlock mlaPage mlaBlock tensors layers : Nat) (s : WindowSpec) :
    DraftSpec :=
  if exactFit mlaPage mlaBlock s.draftBytesPerToken layers tensors then
    s.replace (fitBlock mlaPage s.draftBytesPerToken) none
  else s.replace compactBlock (some mlaPage)

/-- The appended group; `none` is the assertion that the layers share one spec. -/
def buildDraftGroup (compactBlock mlaPage mlaBlock : Nat) (mlaNames : List Name)
    (first : Name × WindowSpec) (others : List (Name × WindowSpec)) : Option (DraftGroup Name) :=
  if others.all fun entry => entry.2 = first.2 then
    let new := newDraftSpec compactBlock mlaPage mlaBlock mlaNames.length (others.length + 1)
    some ⟨(first.1, new first.2), others.map fun entry => (entry.1, new entry.2)⟩
  else none

theorem WindowSpec.draftBytes_eq (s : WindowSpec) : s.draftBytesPerToken = s.bytesPerToken :=
  Nat.mul_div_cancel_left s.bytesPerToken s.block_positive

def uniformGroup (s : DraftSpec) (first : Name) (others : List Name) : DraftGroup Name :=
  ⟨(first, s), others.map fun name => (name, s)⟩

theorem build_uniform (compactBlock mlaPage mlaBlock : Nat) (mlaNames : List Name)
    (s : WindowSpec) (first : Name) (others : List Name) :
    buildDraftGroup compactBlock mlaPage mlaBlock mlaNames (first, s)
        (others.map fun name => (name, s)) =
      some (uniformGroup
        (newDraftSpec compactBlock mlaPage mlaBlock mlaNames.length (others.length + 1) s)
        first others) := by
  have shared : (others.map fun name => (name, s)).all (fun entry => entry.2 = s) = true := by
    rw [List.all_eq_true]
    intro entry member
    obtain ⟨name, _, rfl⟩ := List.mem_map.mp member
    exact decide_eq_true rfl
  unfold buildDraftGroup
  rw [if_pos shared]
  simp only [uniformGroup, List.map_map, List.length_map, Function.comp_def]

section Uniform
variable (s : DraftSpec) (first : Name) (others : List Name)

theorem uniform_spec {entry : Name × DraftSpec}
    (member : entry ∈ (uniformGroup s first others).kvCacheSpecs) : entry.2 = s := by
  rcases List.mem_cons.mp member with rfl | later
  · rfl
  · obtain ⟨name, _, rfl⟩ := List.mem_map.mp later
    rfl

theorem uniform_layers : (uniformGroup s first others).layerNames.length = others.length + 1 := by
  simp [uniformGroup, DraftGroup.layerNames, DraftGroup.kvCacheSpecs]

theorem uniform_all (p : DraftSpec → Prop) [DecidablePred p] :
    ((uniformGroup s first others).kvCacheSpecs.all fun entry => p entry.2) = decide (p s) := by
  by_cases holds : p s
  · rw [decide_eq_true holds, List.all_eq_true]
    intro entry member
    rw [uniform_spec s first others member]
    exact decide_eq_true holds
  · rw [decide_eq_false holds, List.all_eq_false]
    exact ⟨(first, s), List.mem_cons_self, by simpa using holds⟩

theorem uniform_any (p : DraftSpec → Bool) :
    ((uniformGroup s first others).kvCacheSpecs.any fun entry => p entry.2) = p s := by
  cases holds : p s with
  | true => exact List.any_eq_true.mpr ⟨(first, s), List.mem_cons_self, holds⟩
  | false =>
    rw [List.any_eq_false]
    intro entry member
    rw [uniform_spec s first others member, holds]
    exact Bool.false_ne_true

theorem uniform_accepted_iff (mlaPage : Nat) (mlaNames : List Name) :
    draftAccepted mlaPage mlaNames (uniformGroup s first others) = true ↔
      (s.pageSizePadded.isSome = true → s.blockSize = 64 ∧ s.pageSizePadded = some mlaPage) ∧
      (s.pageSizeBytes = mlaPage → others.length + 1 ≤ mlaNames.length) := by
  have page : (uniformGroup s first others).page = s.pageSizeBytes := rfl
  unfold draftAccepted
  rw [page, uniform_layers,
    uniform_all s first others (fun s' => s'.pageSizeBytes = s.pageSizeBytes),
    uniform_any s first others (fun s' => s'.pageSizePadded.isSome),
    uniform_all s first others (fun s' => s'.blockSize = 64 ∧ s'.pageSizePadded = some mlaPage)]
  cases s.pageSizePadded.isSome <;> simp [imp_iff_not_or]

end Uniform

theorem replace_page (s : WindowSpec) (compactBlock mlaPage mlaBlock tensors layers : Nat) :
    (newDraftSpec compactBlock mlaPage mlaBlock tensors layers s).pageSizeBytes = mlaPage := by
  unfold newDraftSpec
  split
  · rename_i fits
    simp only [exactFit, decide_eq_true_eq, s.draftBytes_eq] at fits
    have divides : mlaPage % s.bytesPerToken = 0 := by
      by_contra no
      exact fits.1 (if_neg no)
    simp only [WindowSpec.replace, DraftSpec.pageSizeBytes, Option.getD_none, s.draftBytes_eq,
      fitBlock, if_pos divides]
    exact Nat.div_mul_cancel (Nat.dvd_of_mod_eq_zero divides)
  · rfl

/-- A built group passes the drafter checks just when every drafter layer has an MLA tensor to
    ride: its page is the MLA page in both modes, and no standalone group is ever built. -/
theorem built_group_accepted_iff (mlaPage mlaBlock : Nat) (mlaNames : List Name) (s : WindowSpec)
    (first : Name) (others : List Name) :
    ∃ g, buildDraftGroup 64 mlaPage mlaBlock mlaNames (first, s)
        (others.map fun name => (name, s)) = some g ∧
      (draftAccepted mlaPage mlaNames g = true ↔
        (first :: others).length ≤ mlaNames.length) ∧
      ∀ base : Layout Name, base.mlaPage = mlaPage → base.mlaNames = mlaNames →
        (glm5NextTensorLayout { base with draftGroup := none }).isSome = true →
        ((glm5NextTensorLayout { base with draftGroup := some g }).isSome = true ↔
          (first :: others).length ≤ mlaNames.length) := by
  refine ⟨_, build_uniform 64 mlaPage mlaBlock mlaNames s first others, ?_⟩
  have accepted : draftAccepted mlaPage mlaNames (uniformGroup
      (newDraftSpec 64 mlaPage mlaBlock mlaNames.length (others.length + 1) s) first others) = true ↔
      (first :: others).length ≤ mlaNames.length := by
    rw [uniform_accepted_iff, replace_page, List.length_cons]
    constructor
    · rintro ⟨_, ride⟩
      exact ride rfl
    · intro enough
      refine ⟨?_, fun _ => enough⟩
      intro padded
      unfold newDraftSpec at padded ⊢
      split at padded
      · cases padded
      · rename_i mode
        rw [if_neg mode]
        exact ⟨rfl, rfl⟩
  refine ⟨accepted, ?_⟩
  rintro base rfl rfl kept
  unfold glm5NextTensorLayout at kept ⊢
  dsimp only at kept ⊢
  split at kept
  · cases kept
  · rename_i pages
    rw [if_neg pages, ← accepted]
    split
    · rename_i holds
      simp [holds]
    · rename_i refused
      simp [refused]

theorem flash_block_positive : 0 < 64 := by decide

theorem flash_bytes_positive : 0 < 4096 := by decide

def flashSpec : WindowSpec := ⟨64, 4096, flash_block_positive, flash_bytes_positive⟩

theorem single_drafter_layer_rides :
    ∃ g, buildDraftGroup 64 (3584 * 656) 3584 ["mla.0"] ("draft.0", flashSpec) [] = some g ∧
      draftAccepted (3584 * 656) ["mla.0"] g = true ∧
      (glm5NextTensorLayout ⟨[⟨["kda.0"], 3584 * 656⟩], ["mla.0"], [], 3584 * 656, 0, [],
        some g⟩).isSome = true := by
  obtain ⟨g, built, accepted, kept⟩ :=
    built_group_accepted_iff (3584 * 656) 3584 ["mla.0"] flashSpec "draft.0" []
  have base := kept ⟨[⟨["kda.0"], 3584 * 656⟩], ["mla.0"], [], 3584 * 656, 0, [], none⟩ rfl rfl rfl
  exact ⟨g, built, accepted.mpr (Nat.le_refl 1), base.mpr (Nat.le_refl 1)⟩

/-- One MLA tensor, two drafter layers: the padded group that is built is refused. -/
theorem second_drafter_layer_refused :
    64 * flashSpec.bytesPerToken ≤ 3584 * 656 ∧
    ∃ g, buildDraftGroup 64 (3584 * 656) 3584 ["mla.0"] ("draft.0", flashSpec)
        [("draft.1", flashSpec)] = some g ∧
      draftAccepted (3584 * 656) ["mla.0"] g = false ∧
      glm5NextTensorLayout ⟨[], ["mla.0"], [], 3584 * 656, 0, [], some g⟩ = none := by
  refine ⟨by decide, _, rfl, ?_, ?_⟩
  · decide
  · rfl

end DrafterLayout
