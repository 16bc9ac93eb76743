import Glm53Overlay.Library.LinkedList
import Glm53Overlay.Library.PyText
import Glm53Overlay.PrefixCache.TailEvict

/-!
`select_blocks` on the free list as it lies in memory: blocks with links in both directions
between two fake ends. The walk, the ranking and the removals are those of the source;
`none` is a missing link. The log lines are left out.
-/
namespace PrefixCache
open LinkedList
variable {A B H : Type} [DecidableEq A]

structure FreeQueue (A : Type) where
  fakeFreeListHead : A
  fakeFreeListTail : A
  links : A → Links A
  numFreeBlocks : Int

def FreeQueue.remove (q : FreeQueue A) (block : A) : Option (FreeQueue A) :=
  (unlink q.links block).map fun links =>
    { q with links := links, numFreeBlocks := q.numFreeBlocks - 1 }

def hotProtectEnabled (env : Option String) : Bool := PyText.strip (env.getD "0") = "1"

def rankedBlocks (protect : Bool) (reused : B → Bool) (info : A → FreeBlock B H)
    (cells : List A) : List ((Nat ×ₗ Nat ×ₗ Int ×ₗ Nat) × A) :=
  cells.zipIdx.map fun b => (blockKey protect reused (info b.1) b.2, b.1)

def selectLinked (env : Option String) (reused : B → Bool) (info : A → FreeBlock B H)
    (fuel : Nat) (q : FreeQueue A) (numBlocks : Nat) : Option (List A × FreeQueue A) :=
  let protect := hotProtectEnabled env
  if numBlocks = 0 then some ([], q)
  else do
    let cells ← walk q.links q.fakeFreeListTail fuel (q.links q.fakeFreeListHead).next
    let ranked := rankedBlocks protect reused info cells
    let chosen := (RankedChoice.smallest Prod.fst numBlocks ranked).map Prod.snd
    let rest ← chosen.foldlM FreeQueue.remove q
    some (chosen, rest)

def FreeQueue.Holds (q : FreeQueue A) (cells : List A) : Prop :=
  Linked q.links (q.fakeFreeListHead :: (cells ++ [q.fakeFreeListTail]))

def queueKey (protect : Bool) (reused : B → Bool) (info : A → FreeBlock B H) (cells : List A)
    (a : A) : Nat ×ₗ Nat ×ₗ Int ×ₗ Nat :=
  blockKey protect reused (info a) (cells.idxOf a)

section Ranking
variable (protect : Bool) (reused : B → Bool) (info : A → FreeBlock B H) (cells : List A)

theorem ranked_blocks_eq (nodup : cells.Nodup) :
    rankedBlocks protect reused info cells =
      cells.map fun a => (queueKey protect reused info cells a, a) := by
  apply List.ext_getElem
  · simp [rankedBlocks]
  · intro i left right
    simp only [rankedBlocks, List.getElem_map, List.getElem_zipIdx, Nat.zero_add, queueKey,
      nodup.idxOf_getElem]

theorem queue_key_injective {a b : A} (left : a ∈ cells)
    (same : queueKey protect reused info cells a = queueKey protect reused info cells b) :
    a = b := by
  have places : cells.idxOf a = cells.idxOf b := by
    have parts := congrArg (fun k => (ofLex (ofLex (ofLex k).2).2)) same
    exact congrArg (fun k => (ofLex k).2) parts
  exact (List.idxOf_inj left).mp places

end Ranking

theorem remove_all (q : FreeQueue A) (chosen : List A) :
    chosen.foldlM FreeQueue.remove q = (unlinkAll q.links chosen).map fun links =>
      { q with links := links, numFreeBlocks := q.numFreeBlocks - chosen.length } := by
  induction chosen generalizing q with
  | nil => simp [unlinkAll]
  | cons a rest ih =>
    have step : unlinkAll q.links (a :: rest) = (unlink q.links a).bind (unlinkAll · rest) := rfl
    rw [List.foldlM_cons, step, FreeQueue.remove]
    cases unlink q.links a with
    | none => rfl
    | some links =>
      simp only [Option.map_some, Option.bind_eq_bind, Option.bind_some, ih, List.length_cons]
      congr 1
      funext last
      congr 1
      omega

structure SelectsPrefix (protect : Bool) (reused : B → Bool) (info : A → FreeBlock B H)
    (q : FreeQueue A) (cells : List A) (n : Nat) (chosen : List A) (rest : FreeQueue A) :
    Prop where
  count : chosen.length = n
  distinct : chosen.Nodup
  queued : ∀ a ∈ chosen, a ∈ cells
  ordered : chosen.Pairwise fun a b =>
    queueKey protect reused info cells a < queueKey protect reused info cells b
  least : ∀ a ∈ chosen, ∀ b ∈ cells, b ∉ chosen →
    queueKey protect reused info cells a < queueKey protect reused info cells b
  ends : rest.fakeFreeListHead = q.fakeFreeListHead ∧ rest.fakeFreeListTail = q.fakeFreeListTail
  remaining : rest.Holds (cells.filter (· ∉ chosen))
  free : rest.numFreeBlocks = q.numFreeBlocks - n

/-- The selection is the ranked prefix, and the queue keeps the other blocks in order. -/
theorem select_is_ranked_prefix (env : Option String) (reused : B → Bool)
    (info : A → FreeBlock B H) (q : FreeQueue A) (cells : List A) (held : q.Holds cells) (n : Nat)
    (enough : n ≤ cells.length) (fuel : Nat) (walked : cells.length < fuel) :
    (∃ chosen rest, selectLinked env reused info fuel q n = some (chosen, rest) ∧
      SelectsPrefix (hotProtectEnabled env) reused info q cells n chosen rest) ∧
      (hotProtectEnabled env = false → ∀ other : B → Bool,
        selectLinked env other info fuel q n = selectLinked env reused info fuel q n) := by
  have inner : Linked q.links (cells ++ [q.fakeFreeListTail]) :=
    ⟨(List.nodup_cons.mp held.nodup).2, held.chain.tail⟩
  have nodup : cells.Nodup := (List.nodup_append.mp inner.nodup).1
  have steps : walk q.links q.fakeFreeListTail fuel (q.links q.fakeFreeListHead).next =
      some cells := by
    rw [head_link held]
    exact walk_cells inner walked
  constructor
  · by_cases none_wanted : n = 0
    · refine ⟨[], q, by rw [selectLinked, if_pos none_wanted], ?_⟩
      subst none_wanted
      exact ⟨rfl, List.nodup_nil, by simp, List.Pairwise.nil, by simp, ⟨rfl, rfl⟩, by simpa using held,
        by simp⟩
    · have ranked : (RankedChoice.smallest Prod.fst n
          (rankedBlocks (hotProtectEnabled env) reused info cells)).map Prod.snd =
            RankedChoice.smallest (queueKey (hotProtectEnabled env) reused info cells) n cells := by
        rw [ranked_blocks_eq _ reused info cells nodup, RankedChoice.smallest_keyed]
      generalize chosen_eq : RankedChoice.smallest
        (queueKey (hotProtectEnabled env) reused info cells) n cells = chosen at ranked
      have queued : ∀ a ∈ chosen, a ∈ cells := fun a member =>
        RankedChoice.mem_of_smallest (chosen_eq ▸ member)
      have distinct : chosen.Nodup := chosen_eq ▸ RankedChoice.smallest_nodup _ n nodup
      obtain ⟨links, run, represented, _⟩ := unlinkAll_cells held distinct queued
      refine ⟨chosen, { q with
        links := links
        numFreeBlocks := q.numFreeBlocks - chosen.length }, ?_, ?_⟩
      · rw [selectLinked, if_neg none_wanted]
        simp only [steps, ranked, remove_all, run, Option.map_some, Option.bind_eq_bind,
          Option.bind_some]
      · constructor
        case count => rw [← chosen_eq, RankedChoice.smallest_length _ enough]
        case distinct => exact distinct
        case queued => exact queued
        case ordered =>
          have sorted := RankedChoice.smallest_sorted
            (queueKey (hotProtectEnabled env) reused info cells) n cells
          rw [chosen_eq] at sorted
          apply (sorted.and distinct).imp_of_mem
          intro a b first _ both
          exact lt_of_le_of_ne both.1 fun same =>
            both.2 (queue_key_injective _ reused info cells (queued a first) same)
        case least =>
          intro a member b waiting left
          apply lt_of_le_of_ne
          · exact RankedChoice.smallest_least (chosen_eq ▸ member) waiting (chosen_eq ▸ left)
          · intro same
            have equal := queue_key_injective _ reused info cells (queued a member) same
            exact left (equal ▸ member)
        case ends => exact ⟨rfl, rfl⟩
        case remaining => exact represented
        case free =>
          rw [← chosen_eq, RankedChoice.smallest_length _ enough]
  · intro off other
    simp only [selectLinked, off]
    rfl

section Example

/-- A paused agent's tail and first page, then a newer page; cells 1 to 3 between 0 and 4. -/
def pausedQueue : FreeQueue Nat :=
  ⟨0, 4, fun a => ⟨if a = 0 then none else some (a - 1), if a = 4 then none else some (a + 1)⟩, 3⟩

def pausedInfo (a : Nat) : FreeBlock Nat Unit :=
  ⟨a, some (), some (([0, 100352, 3584, 8192].getD a 0))⟩

theorem select_is_ranked_prefix_paused :
    (∃ chosen rest, selectLinked none (fun _ => false) pausedInfo 4 pausedQueue 2 =
        some (chosen, rest) ∧
      SelectsPrefix (hotProtectEnabled none) (fun _ => false) pausedInfo pausedQueue [1, 2, 3] 2
        chosen rest) ∧
      (hotProtectEnabled none = false → ∀ other : Nat → Bool,
        selectLinked none other pausedInfo 4 pausedQueue 2 =
          selectLinked none (fun _ => false) pausedInfo 4 pausedQueue 2) :=
  select_is_ranked_prefix none (fun _ => false) pausedInfo pausedQueue [1, 2, 3]
    ⟨by decide, by simp [pausedQueue, Adjacent]⟩ 2 (by decide) 4 (by decide)
end Example

end PrefixCache
