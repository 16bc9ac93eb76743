import Mathlib.Data.Prod.Lex
import Mathlib.Data.Int.Order.Basic
import Mathlib.Order.Nat
import Glm53Overlay.Library.RankedChoice

/-!
`rank_key` and `select_blocks` of the tail-first eviction. The linked free list is the
list of its blocks from head to tail; the reused set is a predicate on block ids.
-/
namespace PrefixCache
variable {B H : Type} [DecidableEq B]

structure FreeBlock (B H : Type) where
  blockId : B
  blockHash : Option H
  blockHashNumTokens : Option Int

/-- The band and depth of a block, and its place in the queue. Smaller is evicted sooner. -/
def rankKey (hashed : Bool) (numTokens : Option Int) (index : Nat) (reused : Bool) :
    Nat ×ₗ Nat ×ₗ Int ×ₗ Nat :=
  toLex (if hashed then 1 else 0, toLex (if reused then 1 else 0,
    toLex (-(numTokens.getD 0), index)))

def blockKey (protect : Bool) (reused : B → Bool) (b : FreeBlock B H) (index : Nat) :
    Nat ×ₗ Nat ×ₗ Int ×ₗ Nat :=
  rankKey b.blockHash.isSome b.blockHashNumTokens index
    (protect && b.blockHash.isSome && reused b.blockId)

/-- The victims in rank order and the queue without them. -/
def selectBlocks (protect : Bool) (reused : B → Bool) (queue : List (FreeBlock B H))
    (numBlocks : Nat) : List (FreeBlock B H) × List (FreeBlock B H) :=
  let ranked := queue.zipIdx.map fun b => (blockKey protect reused b.1 b.2, b.1)
  let chosen := (RankedChoice.smallest Prod.fst numBlocks ranked).map Prod.snd
  (chosen, queue.filter fun b => !(chosen.map FreeBlock.blockId).contains b.blockId)

theorem selected_from_queue (protect : Bool) (reused : B → Bool) (queue : List (FreeBlock B H))
    (numBlocks : Nat) (b : FreeBlock B H)
    (chosen : b ∈ (selectBlocks protect reused queue numBlocks).1) : b ∈ queue := by
  obtain ⟨item, ranked, rfl⟩ := List.mem_map.mp chosen
  obtain ⟨⟨block, index⟩, listed, rfl⟩ := List.mem_map.mp (RankedChoice.mem_of_smallest ranked)
  exact List.fst_mem_of_mem_zipIdx listed

/-- `c` is in an earlier band than `p`, or in the same one and covers more tokens. -/
def RanksBefore (protect : Bool) (reused : B → Bool) (c p : FreeBlock B H) : Prop :=
  ∀ i j, blockKey protect reused c i < blockKey protect reused p j

theorem selected_downward (protect : Bool) (reused : B → Bool) (queue : List (FreeBlock B H))
    (numBlocks : Nat) (c p : FreeBlock B H)
    (chosen : p ∈ (selectBlocks protect reused queue numBlocks).1) (queued : c ∈ queue)
    (before : RanksBefore protect reused c p) :
    c ∈ (selectBlocks protect reused queue numBlocks).1 := by
  obtain ⟨item, smallest, same⟩ := List.mem_map.mp chosen
  obtain ⟨⟨block, j⟩, _, rfl⟩ := List.mem_map.mp (RankedChoice.mem_of_smallest smallest)
  obtain ⟨i, place⟩ := List.mem_iff_getElem?.mp queued
  have ranked := List.mem_map_of_mem (f := fun b => (blockKey protect reused b.1 b.2, b.1))
    (List.mk_mem_zipIdx_iff_getElem?.mpr place)
  have named : block = p := same
  have earlier : blockKey protect reused c i < blockKey protect reused block j :=
    named ▸ before i j
  exact List.mem_map.mpr ⟨_, RankedChoice.smallest_downward smallest ranked earlier, rfl⟩

omit [DecidableEq B] in
theorem ranks_before_deeper (protect : Bool) (reused : B → Bool) (c p : FreeBlock B H)
    (child : c.blockHash.isSome = true) (parent : p.blockHash.isSome = true)
    (deeper : p.blockHashNumTokens.getD 0 < c.blockHashNumTokens.getD 0)
    (band : (protect && reused c.blockId) = true → (protect && reused p.blockId) = true) :
    RanksBefore protect reused c p := by
  intro i j
  simp only [blockKey, rankKey, child, parent, Bool.and_true, ↓reduceIte,
    Prod.Lex.toLex_lt_toLex, lt_self_iff_false, false_or, true_and]
  cases marked : protect && reused c.blockId with
  | true => simp [band marked, deeper]
  | false =>
    cases other : protect && reused p.blockId with
    | true => simp
    | false => simp [deeper]

end PrefixCache
