import Mathlib.Algebra.BigOperators.Group.List.Basic
import Glm53Overlay.Library.PlacedOnce

/-!
The GLM-5-Next KV layout with a drafter group: the checks the layout function makes on the
drafter, and the three consumers that each work the sharing decision and the bytes of a block
out of the returned tuple again.
-/
namespace DrafterLayout
variable {Name : Type}

structure DraftSpec where
  blockSize : Nat
  realPageSizeBytes : Nat
  pageSizePadded : Option Nat
  deriving DecidableEq

def DraftSpec.pageSizeBytes (s : DraftSpec) : Nat := s.pageSizePadded.getD s.realPageSizeBytes

/-- The drafter's group: a non-empty dictionary of specs, keyed by its layer names. -/
structure DraftGroup (Name : Type) where
  first : Name × DraftSpec
  others : List (Name × DraftSpec)

def DraftGroup.kvCacheSpecs (g : DraftGroup Name) : List (Name × DraftSpec) := g.first :: g.others

def DraftGroup.layerNames (g : DraftGroup Name) : List Name := g.kvCacheSpecs.map Prod.fst

/-- `next(iter(kv_cache_specs.values())).page_size_bytes`. -/
def DraftGroup.page (g : DraftGroup Name) : Nat := g.first.2.pageSizeBytes

structure MambaGroup (Name : Type) where
  layerNames : List Name
  pageSizeBytes : Nat

/-- What `_glm5_next_tensor_layout` returns, less the attention group and the tail page, which
    no consumer here reads. -/
structure Layout (Name : Type) where
  mambaGroups : List (MambaGroup Name)
  mlaNames : List Name
  idxNames : List Name
  mlaPage : Nat
  idxPage : Nat
  tailNames : List Name
  draftGroup : Option (DraftGroup Name)

def draftAccepted (mlaPage : Nat) (mlaNames : List Name) (g : DraftGroup Name) : Bool :=
  g.kvCacheSpecs.all (fun s => s.2.pageSizeBytes = g.page) &&
  (!(g.kvCacheSpecs.any fun s => s.2.pageSizePadded.isSome) ||
    g.kvCacheSpecs.all fun s => s.2.blockSize = 64 ∧ s.2.pageSizePadded = some mlaPage) &&
  !(decide (g.page = mlaPage) && decide (mlaNames.length < g.layerNames.length))

/-- `_glm5_next_tensor_layout` from the point where the groups have been told apart. -/
def glm5NextTensorLayout (detected : Layout Name) : Option (Layout Name) :=
  if detected.mambaGroups.any fun g => g.pageSizeBytes ≠ detected.mlaPage then none
  else match detected.draftGroup with
    | none => some detected
    | some g => if draftAccepted detected.mlaPage detected.mlaNames g then some detected else none

def poolBytesPerBlock (l : Layout Name) : Nat :=
  let perBlock := l.mlaNames.length * l.mlaPage + l.idxNames.length * l.idxPage
  match l.draftGroup with
  | none => perBlock
  | some g => if g.page ≠ l.mlaPage then perBlock + g.layerNames.length * g.page else perBlock

structure KVCacheTensor (Name : Type) where
  size : Int
  sharedBy : List Name

structure KVCacheConfig (Name : Type) where
  numBlocks : Int
  kvCacheTensors : List (KVCacheTensor Name)

def draftNames (l : Layout Name) : List Name :=
  match l.draftGroup with
  | none => []
  | some g => g.layerNames

def draftPage (l : Layout Name) : Nat :=
  match l.draftGroup with
  | none => 0
  | some g => g.page

def draftShared (l : Layout Name) : Bool :=
  match l.draftGroup with
  | none => false
  | some g => g.page = l.mlaPage

def configPerBlock (l : Layout Name) : Nat :=
  let perBlock := l.mlaNames.length * l.mlaPage + l.idxNames.length * l.idxPage
  if draftNames l ≠ [] ∧ draftShared l = false then
    perBlock + (draftNames l).length * draftPage l
  else perBlock

def mlaTensor (l : Layout Name) (numBlocks : Int) (entry : Name × Nat) : KVCacheTensor Name where
  size := l.mlaPage * numBlocks
  sharedBy := entry.1 :: l.mambaGroups.filterMap (fun g => g.layerNames[entry.2]?) ++
    (if draftShared l then (draftNames l)[entry.2]?.toList else [])

/-- With tail layers, `tail_names[i]` shares the i-th indexer tensor. -/
def idxTensor (l : Layout Name) (numBlocks : Int) (entry : Name × Nat) : KVCacheTensor Name where
  size := l.idxPage * numBlocks
  sharedBy := entry.1 :: l.tailNames[entry.2]?.toList

def draftTensor (l : Layout Name) (numBlocks : Int) (name : Name) : KVCacheTensor Name where
  size := draftPage l * numBlocks
  sharedBy := [name]

def kvCacheTensors (l : Layout Name) (numBlocks : Int) : List (KVCacheTensor Name) :=
  l.mlaNames.zipIdx.map (mlaTensor l numBlocks) ++
  l.idxNames.zipIdx.map (idxTensor l numBlocks) ++
  (if draftShared l then [] else draftNames l).map (draftTensor l numBlocks)

/-- `get_kv_cache_config_from_groups` on this layout; `none` is the division by zero. -/
def getKvCacheConfigFromGroups (l : Layout Name) (availableMemory : Int) :
    Option (KVCacheConfig Name) :=
  if configPerBlock l = 0 then none
  else
    let numBlocks := availableMemory / (configPerBlock l : Int)
    some { numBlocks, kvCacheTensors := kvCacheTensors l numBlocks }

def blocksNeeded (l : Layout Name) (attentionAndMamba : Nat)
    (maxMemoryUsagePages : DraftGroup Name → Nat) : Nat :=
  attentionAndMamba + (if l.tailNames ≠ [] then 1 else 0) +
    (match l.draftGroup with
      | none => 0
      | some g => maxMemoryUsagePages g)

def maxMemoryUsageBytesFromGroups (l : Layout Name) (attentionAndMamba : Nat)
    (maxMemoryUsagePages : DraftGroup Name → Nat) : Nat :=
  let blocks := if l.tailNames ≠ [] then attentionAndMamba + 1 else attentionAndMamba
  let perBlock := l.mlaNames.length * l.mlaPage + l.idxNames.length * l.idxPage
  match l.draftGroup with
  | none => blocks * perBlock
  | some g =>
    (blocks + maxMemoryUsagePages g) *
      (if g.page ≠ l.mlaPage then perBlock + g.layerNames.length * g.page else perBlock)

def allNames (l : Layout Name) : List Name :=
  l.mlaNames ++ (l.mambaGroups.map MambaGroup.layerNames).flatten ++ l.idxNames ++ l.tailNames ++
    draftNames l

structure RestChecked (l : Layout Name) : Prop where
  distinct : (allNames l).Nodup
  mambaRoom : ∀ g ∈ l.mambaGroups, g.layerNames.length ≤ l.mlaNames.length
  tailRoom : l.tailNames = [] ∨ l.tailNames.length = l.idxNames.length

end DrafterLayout
