import Mathlib.Data.Finset.Dedup

/-!
KV-cache groups as the injected helpers look at them: the spec object of a group, unwrapped
when it is a uniform wrapper, and the class name the drafter is told by.
-/
namespace HybridHit

/-- The attributes of one spec object that are read; `none` for a missing attribute. -/
structure LayerSpec where
  className : String
  slidingWindow : Option Int
  blockSize : Option Int
  deriving DecidableEq

structure KvCacheSpec where
  own : LayerSpec
  kvCacheSpecs : Option (List (String × LayerSpec))
  deriving DecidableEq

/-- `_glm53_inner_kv_spec`: the first member of a non-empty dictionary, else the object. -/
def innerKvSpec (spec : KvCacheSpec) : LayerSpec :=
  match spec.kvCacheSpecs with
  | some ((_, first) :: _) => first
  | _ => spec.own

def isDraftSwaSpec (spec : KvCacheSpec) : Bool :=
  (innerKvSpec spec).className = "SlidingWindowSpec"

structure KvCacheGroup where
  kvCacheSpec : KvCacheSpec
  isEagleGroup : Bool
  deriving DecidableEq

def groupIdsWhere (test : KvCacheGroup → Bool) (groups : List KvCacheGroup) : Finset Nat :=
  ((groups.zipIdx.filter fun entry => test entry.1).map Prod.snd).toFinset

def swaIds (groups : List KvCacheGroup) : Finset Nat :=
  groupIdsWhere (fun g => isDraftSwaSpec g.kvCacheSpec) groups

theorem mem_groupIdsWhere (test : KvCacheGroup → Bool) (groups : List KvCacheGroup) (i : Nat) :
    i ∈ groupIdsWhere test groups ↔ ∃ g, groups[i]? = some g ∧ test g = true := by
  simp only [groupIdsWhere, List.mem_toFinset, List.mem_map, List.mem_filter, Prod.exists,
    exists_eq_right, List.mem_zipIdx_iff_getElem?]

end HybridHit
