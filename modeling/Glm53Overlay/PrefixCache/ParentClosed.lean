import Glm53Overlay.PrefixCache.BlockPool

/-!
Eviction and cached prefixes over every interleaving of requests. Without protection no
assumption is needed. With protection a mark sits on one physical copy, so the result
asks of each hit that requests holding a copy of a hit block also have their own copy of
its parent marked; a run that breaks this is given at the end.
-/
namespace PrefixCache
open ReplayMachine
variable {numBlocks : Nat} {H : Type} [DecidableEq H] (tree : HashTree H)

/-- A hit leaves no request with a marked block over an unmarked parent of its own. -/
def Covered (s : Pool numBlocks H) : Op numBlocks H → Prop
  | .hit _ blocks =>
    ∀ c ∈ blocks, ∀ child above, s.hash c = some child → tree.parent child = some above →
      ∀ r x, s.running.get r = some x → c ∈ x.blocks →
        ∃ p ∈ x.blocks, s.hash p = some above ∧ (s.reused p = true ∨ p ∈ blocks)
  | _ => True

/-- What every reachable pool satisfies. `own_parent` and `own_mark` speak of one request's
    own copies; the last two fields are the properties wanted. -/
structure PoolInv (protect : Bool) (s : Pool numBlocks H) : Prop where
  queue_unheld : ∀ b ∈ s.free, ∀ r x, s.running.get r = some x → b ∉ x.blocks
  hashed_kept : ∀ b, s.hash b ≠ none →
    b ∈ s.free ∨ ∃ r x, s.running.get r = some x ∧ b ∈ x.blocks
  path_held : ∀ r x, s.running.get r = some x → ∀ h ∈ x.path, ∃ b ∈ x.blocks, s.hash b = some h
  unhashed_once : ∀ b, s.hash b = none → ∀ r x q y, s.running.get r = some x →
    s.running.get q = some y → b ∈ x.blocks → b ∈ y.blocks → r = q
  own_parent : ∀ r x, s.running.get r = some x → ∀ c ∈ x.blocks, ∀ child above,
    s.hash c = some child → tree.parent child = some above → ∃ p ∈ x.blocks, s.hash p = some above
  mark_hashed : ∀ b, s.reused b = true → s.hash b ≠ none
  unprotected : protect = false → ∀ b, s.reused b = false
  own_mark : ∀ c child above, s.reused c = true → s.hash c = some child →
    tree.parent child = some above → ∀ r x, s.running.get r = some x → c ∈ x.blocks →
      ∃ p ∈ x.blocks, s.hash p = some above ∧ s.reused p = true
  parents_cached : ParentsCached tree s
  parents_marked : ParentsMarked tree s

omit [DecidableEq H] in
theorem empty_inv (protect : Bool) : PoolInv tree protect (Pool.empty numBlocks H) where
  queue_unheld := by intro b _ r x found; cases found
  hashed_kept := by intro b hashed; exact absurd rfl hashed
  path_held := by intro r x found; cases found
  unhashed_once := by intro b _ r x q y found; cases found
  own_parent := by intro r x found; cases found
  mark_hashed := by intro b marked; cases marked
  unprotected := by intro _ b; rfl
  own_mark := by intro c child above marked; cases marked
  parents_cached := by intro c child above hashed; cases hashed
  parents_marked := by intro c child above marked; cases marked

theorem root_path_parent (hash : Fin numBlocks → Option H) (blocks : List (Fin numBlocks))
    (above : Option H) (path : rootPath tree above (blocks.map hash) = true) :
    (∀ c ∈ blocks, hash c ≠ none) ∧
    ∀ c ∈ blocks, ∀ child parent, hash c = some child → tree.parent child = some parent →
      above = some parent ∨ ∃ p ∈ blocks, hash p = some parent := by
  induction blocks generalizing above with
  | nil => exact ⟨nofun, nofun⟩
  | cons b rest ih =>
    cases hashed : hash b with
    | none => simp [rootPath, hashed] at path
    | some h =>
      simp only [List.map_cons, hashed, rootPath, Bool.decide_and, Bool.decide_eq_true,
        Bool.and_eq_true, decide_eq_true_eq] at path
      obtain ⟨present, linked⟩ := ih (some h) path.2
      constructor
      · intro c member
        rcases List.mem_cons.mp member with rfl | later
        · simp [hashed]
        · exact present c later
      · intro c member child parent value link
        rcases List.mem_cons.mp member with rfl | later
        · rw [hashed] at value
          rw [← Option.some.inj value, path.1] at link
          exact Or.inl link
        · rcases linked c later child parent value link with here | ⟨p, listed, found⟩
          · exact Or.inr ⟨b, List.mem_cons_self, hashed.trans here⟩
          · exact Or.inr ⟨p, List.mem_cons_of_mem b listed, found⟩

omit [DecidableEq H] in
theorem get_entered (running : PyDict Nat (Running numBlocks H)) (request : Nat)
    (entry : Running numBlocks H) (r : Nat) (x : Running numBlocks H)
    (found : (running.set request entry).get r = some x) :
    (r = request ∧ x = entry) ∨ (r ≠ request ∧ running.get r = some x) := by
  by_cases own : r = request
  · rw [own, PyDict.get_set_same] at found
    exact Or.inl ⟨own, (Option.some.inj found).symm⟩
  · rw [PyDict.get_set_other _ _ own] at found
    exact Or.inr ⟨own, found⟩

def Pool.touched (s : Pool numBlocks H) (protect : Bool) (request : Nat)
    (blocks : List (Fin numBlocks)) : Pool numBlocks H :=
  { s with
    reused := fun b => s.reused b || (protect && blocks.contains b && (s.hash b).isSome)
    free := s.free.filter fun b => !blocks.contains b
    running := s.running.set request ⟨blocks.filterMap s.hash, blocks⟩ }

section Touched
variable {protect : Bool} {s : Pool numBlocks H} (inv : PoolInv tree protect s) {request : Nat}
  {blocks : List (Fin numBlocks)} (idle : s.running.get request = none)
  (present : ∀ c ∈ blocks, s.hash c ≠ none)
  (below : ∀ c ∈ blocks, ∀ child above, s.hash c = some child → tree.parent child = some above →
    ∃ p ∈ blocks, s.hash p = some above)

include present in
omit [DecidableEq H] in
theorem touched_mark_iff (b : Fin numBlocks) :
    (s.touched protect request blocks).reused b = true ↔
      s.reused b = true ∨ (protect = true ∧ b ∈ blocks) := by
  by_cases member : b ∈ blocks
  · have hashed := Option.isSome_iff_ne_none.mpr (present b member)
    simp [Pool.touched, member, hashed]
  · simp [Pool.touched, member]

include inv idle in
omit [DecidableEq H] in
theorem touched_hashed_kept (b : Fin numBlocks) (hashed : s.hash b ≠ none) :
    b ∈ (s.touched protect request blocks).free ∨
      ∃ r x, (s.touched protect request blocks).running.get r = some x ∧ b ∈ x.blocks := by
  by_cases member : b ∈ blocks
  · exact Or.inr ⟨request, _, PyDict.get_set_same _ _ _, member⟩
  · rcases inv.hashed_kept b hashed with queued | ⟨r, x, found, held⟩
    · exact Or.inl (List.mem_filter.mpr ⟨queued, by simpa using member⟩)
    · have other : r ≠ request := by
        rintro rfl
        rw [idle] at found
        cases found
      exact Or.inr ⟨r, x, (PyDict.get_set_other _ _ other).trans found, held⟩

include inv present below in
omit [DecidableEq H] in
theorem touched_own_mark (covered : protect = true → Covered tree s (.hit request blocks))
    (c : Fin numBlocks) (child above : H)
    (marked : (s.touched protect request blocks).reused c = true)
    (value : s.hash c = some child) (link : tree.parent child = some above) (r : Nat)
    (x : Running numBlocks H)
    (found : (s.touched protect request blocks).running.get r = some x) (held : c ∈ x.blocks) :
    ∃ p ∈ x.blocks, s.hash p = some above ∧
      (s.touched protect request blocks).reused p = true := by
  rcases get_entered s.running request _ r x found with ⟨_, rfl⟩ | ⟨_, before⟩
  · obtain ⟨p, listed, parent⟩ := below c held child above value link
    refine ⟨p, listed, parent, (touched_mark_iff present p).mpr ?_⟩
    rcases (touched_mark_iff present c).mp marked with old | ⟨on, _⟩
    · cases protect with
      | false =>
        rw [inv.unprotected rfl c] at old
        cases old
      | true => exact Or.inr ⟨rfl, listed⟩
    · exact Or.inr ⟨on, listed⟩
  · rcases (touched_mark_iff present c).mp marked with old | ⟨on, member⟩
    · obtain ⟨p, listed, parent, mark⟩ := inv.own_mark c child above old value link r x before held
      exact ⟨p, listed, parent, (touched_mark_iff present p).mpr (Or.inl mark)⟩
    · obtain ⟨p, listed, parent, mark⟩ := covered on c member child above value link r x before held
      refine ⟨p, listed, parent, (touched_mark_iff present p).mpr ?_⟩
      rcases mark with old | new
      · exact Or.inl old
      · exact Or.inr ⟨on, new⟩

include inv idle present below in
omit [DecidableEq H] in
theorem touched_inv (covered : protect = true → Covered tree s (.hit request blocks)) :
    PoolInv tree protect (s.touched protect request blocks) where
  queue_unheld := by
    intro b queued r x found held
    simp only [Pool.touched, List.mem_filter, Bool.not_eq_true', List.contains_eq_mem,
      decide_eq_false_iff_not] at queued
    rcases get_entered s.running request _ r x found with ⟨_, rfl⟩ | ⟨_, before⟩
    · exact queued.2 held
    · exact inv.queue_unheld b queued.1 r x before held
  hashed_kept := touched_hashed_kept tree inv idle
  path_held := by
    intro r x found h listed
    rcases get_entered s.running request _ r x found with ⟨_, rfl⟩ | ⟨_, before⟩
    · exact List.mem_filterMap.mp listed
    · exact inv.path_held r x before h listed
  unhashed_once := by
    intro b unhashed r x q y first second held also
    rcases get_entered s.running request _ r x first with ⟨_, rfl⟩ | ⟨_, before⟩
    · exact absurd unhashed (present b held)
    · rcases get_entered s.running request _ q y second with ⟨_, rfl⟩ | ⟨_, too⟩
      · exact absurd unhashed (present b also)
      · exact inv.unhashed_once b unhashed r x q y before too held also
  own_parent := by
    intro r x found c held child above value link
    rcases get_entered s.running request _ r x found with ⟨_, rfl⟩ | ⟨_, before⟩
    · exact below c held child above value link
    · exact inv.own_parent r x before c held child above value link
  mark_hashed := by
    intro b marked
    rcases (touched_mark_iff present b).mp marked with old | ⟨_, member⟩
    · exact inv.mark_hashed b old
    · exact present b member
  unprotected := by
    intro off b
    simp [Pool.touched, inv.unprotected off b, off]
  own_mark := touched_own_mark tree inv present below covered
  parents_cached := inv.parents_cached
  parents_marked := by
    intro c child above marked value link
    rcases (touched_mark_iff present c).mp marked with old | ⟨on, member⟩
    · obtain ⟨p, parent, mark⟩ := inv.parents_marked c child above old value link
      exact ⟨p, parent, (touched_mark_iff present p).mpr (Or.inl mark)⟩
    · obtain ⟨p, listed, parent⟩ := below c member child above value link
      exact ⟨p, parent, (touched_mark_iff present p).mpr (Or.inr ⟨on, listed⟩)⟩
end Touched

theorem hit_inv (protect : Bool) (s : Pool numBlocks H) (request : Nat)
    (blocks : List (Fin numBlocks))
    (covered : protect = true → Covered tree s (.hit request blocks))
    (inv : PoolInv tree protect s) : PoolInv tree protect (s.hit tree protect request blocks) := by
  unfold Pool.hit
  split
  · rename_i legal
    obtain ⟨present, linked⟩ := root_path_parent tree s.hash blocks none legal.2
    refine touched_inv tree inv legal.1 present ?_ covered
    intro c member child above value link
    rcases linked c member child above value link with none_above | found
    · cases none_above
    · exact found
  · exact inv

def Pool.labelled (s : Pool numBlocks H) (request : Nat) (r : Running numBlocks H)
    (b : Fin numBlocks) (hash : H) : Pool numBlocks H :=
  { s with
    hash := fun c => if c = b then some hash else s.hash c
    running := s.running.set request { r with path := r.path ++ [hash] } }

section Labelled
variable {protect : Bool} {s : Pool numBlocks H} (inv : PoolInv tree protect s) {request : Nat}
  {r : Running numBlocks H} (own : s.running.get request = some r) {b : Fin numBlocks} {hash : H}
  (held_b : b ∈ r.blocks) (unhashed : s.hash b = none)

include unhashed in
omit [DecidableEq H] in
theorem labelled_keeps (c : Fin numBlocks) (h : H) (value : s.hash c = some h) :
    (s.labelled request r b hash).hash c = some h := by
  simp only [Pool.labelled]
  rw [if_neg, value]
  rintro rfl
  rw [unhashed] at value
  cases value

omit [DecidableEq H] in
theorem labelled_cases (c : Fin numBlocks) (h : H)
    (value : (s.labelled request r b hash).hash c = some h) :
    (c = b ∧ h = hash) ∨ s.hash c = some h := by
  simp only [Pool.labelled] at value
  split at value
  · rename_i same
    exact Or.inl ⟨same, (Option.some.inj value).symm⟩
  · exact Or.inr value

include unhashed in
omit [DecidableEq H] in
theorem labelled_blank (c : Fin numBlocks) (empty : (s.labelled request r b hash).hash c = none) :
    s.hash c = none := by
  by_contra some_hash
  obtain ⟨h, value⟩ := Option.ne_none_iff_exists'.mp some_hash
  cases (labelled_keeps unhashed c h value).symm.trans empty

include own in
omit [DecidableEq H] in
theorem labelled_holder (q : Nat) (x : Running numBlocks H)
    (found : (s.labelled request r b hash).running.get q = some x) :
    ∃ y, s.running.get q = some y ∧ x.blocks = y.blocks := by
  rcases get_entered s.running request _ q x found with ⟨rfl, rfl⟩ | ⟨_, before⟩
  · exact ⟨r, own, rfl⟩
  · exact ⟨x, before, rfl⟩

include own in
omit [DecidableEq H] in
theorem labelled_still_holds (q : Nat) (y : Running numBlocks H) (found : s.running.get q = some y)
    (c : Fin numBlocks) (held : c ∈ y.blocks) :
    ∃ q x, (s.labelled request r b hash).running.get q = some x ∧ c ∈ x.blocks := by
  by_cases mine : q = request
  · rw [mine, own] at found
    exact ⟨request, _, PyDict.get_set_same _ _ _, Option.some.inj found ▸ held⟩
  · exact ⟨q, y, (PyDict.get_set_other _ _ mine).trans found, held⟩

include inv unhashed in
omit [DecidableEq H] in
theorem labelled_unmarked : s.reused b = false := by
  by_contra marked
  exact inv.mark_hashed b (by simpa using marked) unhashed

variable (parent_held : ∀ above, tree.parent hash = some above →
  ∃ p ∈ r.blocks, s.hash p = some above)

include inv own held_b unhashed parent_held in
omit [DecidableEq H] in
theorem labelled_inv : PoolInv tree protect (s.labelled request r b hash) where
  queue_unheld := by
    intro c queued q x found held
    obtain ⟨y, before, same⟩ := labelled_holder own q x found
    exact inv.queue_unheld c queued q y before (same ▸ held)
  hashed_kept := by
    intro c hashed
    by_cases same : c = b
    · exact Or.inr (labelled_still_holds own request r own c (same ▸ held_b))
    · rcases inv.hashed_kept c (by simpa [Pool.labelled, same] using hashed) with
        queued | ⟨q, y, found, held⟩
      · exact Or.inl queued
      · exact Or.inr (labelled_still_holds own q y found c held)
  path_held := by
    intro q x found h listed
    rcases get_entered s.running request _ q x found with ⟨rfl, rfl⟩ | ⟨_, before⟩
    · rcases List.mem_append.mp listed with old | new
      · obtain ⟨c, held, value⟩ := inv.path_held q r own h old
        exact ⟨c, held, labelled_keeps unhashed c h value⟩
      · rw [List.mem_singleton.mp new]
        exact ⟨b, held_b, if_pos rfl⟩
    · obtain ⟨c, held, value⟩ := inv.path_held q x before h listed
      exact ⟨c, held, labelled_keeps unhashed c h value⟩
  unhashed_once := by
    intro c empty q x q' x' first second held also
    obtain ⟨y, before, same⟩ := labelled_holder own q x first
    obtain ⟨y', before', same'⟩ := labelled_holder own q' x' second
    exact inv.unhashed_once c (labelled_blank unhashed c empty) q y q' y' before before'
      (same ▸ held) (same' ▸ also)
  own_parent := by
    intro q x found c held child above value link
    obtain ⟨y, before, same⟩ := labelled_holder own q x found
    rw [same] at held ⊢
    rcases labelled_cases c child value with ⟨rfl, rfl⟩ | old
    · -- the block had no hash, so only this request holds it
      have mine := inv.unhashed_once c unhashed q y request r before own held held_b
      rw [mine, own] at before
      obtain ⟨p, listed, parent⟩ := parent_held above link
      exact ⟨p, Option.some.inj before ▸ listed, labelled_keeps unhashed p above parent⟩
    · obtain ⟨p, listed, parent⟩ := inv.own_parent q y before c held child above old link
      exact ⟨p, listed, labelled_keeps unhashed p above parent⟩
  mark_hashed := by
    intro c marked empty
    exact inv.mark_hashed c marked (labelled_blank unhashed c empty)
  unprotected := inv.unprotected
  own_mark := by
    intro c child above marked value link q x found held
    obtain ⟨y, before, same⟩ := labelled_holder own q x found
    rw [same] at held ⊢
    rcases labelled_cases c child value with ⟨rfl, _⟩ | old
    · cases (labelled_unmarked tree inv unhashed).symm.trans marked
    · obtain ⟨p, listed, parent, mark⟩ := inv.own_mark c child above marked old link q y before held
      exact ⟨p, listed, labelled_keeps unhashed p above parent, mark⟩
  parents_cached := by
    intro c child above value link
    rcases labelled_cases c child value with ⟨_, rfl⟩ | old
    · obtain ⟨p, _, parent⟩ := parent_held above link
      exact ⟨p, labelled_keeps unhashed p above parent⟩
    · obtain ⟨p, parent⟩ := inv.parents_cached c child above old link
      exact ⟨p, labelled_keeps unhashed p above parent⟩
  parents_marked := by
    intro c child above marked value link
    rcases labelled_cases c child value with ⟨rfl, _⟩ | old
    · cases (labelled_unmarked tree inv unhashed).symm.trans marked
    · obtain ⟨p, parent, mark⟩ := inv.parents_marked c child above marked old link
      exact ⟨p, labelled_keeps unhashed p above parent, mark⟩
end Labelled

theorem cache_inv (protect : Bool) (s : Pool numBlocks H) (request : Nat) (hash : H)
    (inv : PoolInv tree protect s) : PoolInv tree protect (s.cache tree request hash) := by
  unfold Pool.cache
  split
  · exact inv
  · rename_i r own
    split
    · exact inv
    · rename_i b place
      split
      · rename_i legal
        refine labelled_inv tree inv own (List.mem_of_getElem? place) legal.2 ?_
        intro above link
        rw [legal.1] at link
        exact inv.path_held request r own above (List.mem_of_getLast? link)
      · exact inv

omit [DecidableEq H] in
theorem held_iff (s : Pool numBlocks H) (b : Fin numBlocks) :
    s.held b = true ↔ ∃ r x, s.running.get r = some x ∧ b ∈ x.blocks := by
  simp only [Pool.held, List.any_eq_true, List.contains_eq_mem, decide_eq_true_eq, Prod.exists]
  constructor
  · rintro ⟨r, x, entry, held⟩
    exact ⟨r, x, (PyDict.get_eq_some_iff _ _ _).mpr entry, held⟩
  · rintro ⟨r, x, found, held⟩
    exact ⟨r, x, (PyDict.get_eq_some_iff _ _ _).mp found, held⟩

omit [DecidableEq H] in
theorem release_inv (protect : Bool) (s : Pool numBlocks H) (request : Nat)
    (inv : PoolInv tree protect s) : PoolInv tree protect (s.release request) := by
  unfold Pool.release
  split
  · exact inv
  · rename_i r own
    have entry (q : Nat) (x : Running numBlocks H)
        (found : (s.running.pop request).get q = some x) :
        q ≠ request ∧ s.running.get q = some x := by
      rw [PyDict.get_pop] at found
      split at found
      · cases found
      · rename_i other
        exact ⟨other, found⟩
    refine ⟨?_, ?_, ?_, ?_, ?_, inv.mark_hashed, inv.unprotected, ?_, inv.parents_cached,
      inv.parents_marked⟩
    · intro b queued q x found held
      rcases List.mem_append.mp queued with old | freed
      · exact inv.queue_unheld b old q x (entry q x found).2 held
      · obtain ⟨_, unheld⟩ := List.mem_filter.mp freed
        rw [Bool.not_eq_true', ← Bool.not_eq_true, held_iff] at unheld
        exact unheld ⟨q, x, found, held⟩
    · intro b hashed
      by_cases still : Pool.held { s with running := s.running.pop request } b = true
      · exact Or.inr ((held_iff _ b).mp still)
      · left
        apply List.mem_append.mpr
        rcases inv.hashed_kept b hashed with queued | ⟨q, x, found, held⟩
        · exact Or.inl queued
        · right
          by_cases mine : q = request
          · rw [mine, own] at found
            have listed : b ∈ r.blocks.reverse :=
              List.mem_reverse.mpr (Option.some.inj found ▸ held)
            exact List.mem_filter.mpr ⟨listed, by simpa using still⟩
          · refine absurd ((held_iff _ b).mpr ⟨q, x, ?_, held⟩) still
            exact (PyDict.get_pop _ _ _).trans ((if_neg mine).trans found)
    · intro q x found
      exact inv.path_held q x (entry q x found).2
    · intro b unhashed q x q' x' first second
      exact inv.unhashed_once b unhashed q x q' x' (entry q x first).2 (entry q' x' second).2
    · intro q x found
      exact inv.own_parent q x (entry q x found).2
    · intro c child above marked value link q x found
      exact inv.own_mark c child above marked value link q x (entry q x found).2

section Allocate
variable (protect : Bool) (s : Pool numBlocks H) (count : Nat)

def Pool.victims : List (Fin numBlocks) :=
  (selectBlocks protect s.reused (s.freeBlocks tree) count).1.map FreeBlock.blockId

omit [DecidableEq H] in
theorem victims_queued (b : Fin numBlocks) (victim : b ∈ s.victims tree protect count) :
    b ∈ s.free := by
  obtain ⟨block, chosen, rfl⟩ := List.mem_map.mp victim
  obtain ⟨c, queued, rfl⟩ := List.mem_map.mp (selected_from_queue _ _ _ _ block chosen)
  exact queued

omit [DecidableEq H] in
theorem remaining_queue (b : Fin numBlocks) :
    b ∈ (selectBlocks protect s.reused (s.freeBlocks tree) count).2.map FreeBlock.blockId ↔
      b ∈ s.free ∧ b ∉ s.victims tree protect count := by
  have rest : (selectBlocks protect s.reused (s.freeBlocks tree) count).2 =
      (s.freeBlocks tree).filter fun b => !(s.victims tree protect count).contains b.blockId := rfl
  rw [rest]
  simp only [List.mem_map, List.mem_filter, Pool.freeBlocks, Bool.not_eq_true',
    List.contains_eq_mem, decide_eq_false_iff_not]
  constructor
  · rintro ⟨block, ⟨⟨c, queued, rfl⟩, kept⟩, rfl⟩
    exact ⟨queued, kept⟩
  · rintro ⟨queued, kept⟩
    exact ⟨_, ⟨⟨b, queued, rfl⟩, kept⟩, rfl⟩

omit [DecidableEq H] in
/-- Evicting a parent evicts every queued child that is not better protected. -/
theorem victims_downward (c p : Fin numBlocks) (child above : H)
    (victim : p ∈ s.victims tree protect count) (queued : c ∈ s.free)
    (value : s.hash c = some child) (parent : s.hash p = some above)
    (link : tree.parent child = some above)
    (band : s.reused c = true → s.reused p = true) : c ∈ s.victims tree protect count := by
  obtain ⟨block, chosen, same⟩ := List.mem_map.mp victim
  obtain ⟨q, _, shown⟩ := List.mem_map.mp (selected_from_queue _ _ _ _ block chosen)
  subst shown
  have named : q = p := same
  subst named
  refine List.mem_map.mpr ⟨_, selected_downward _ _ _ _
    ⟨c, s.hash c, (s.hash c).map fun h => (tree.numTokens h : Int)⟩ _ chosen
    (List.mem_map_of_mem queued) ?_, rfl⟩
  have deeper := tree.deeper child above link
  apply ranks_before_deeper
  · simp [value]
  · simp [parent]
  · simp only [value, parent, Option.map_some, Option.getD_some]
    omega
  · intro marked
    rw [Bool.and_eq_true] at marked ⊢
    exact ⟨marked.1, band marked.2⟩
end Allocate

def Pool.evicted (s : Pool numBlocks H) (protect : Bool) (request : Nat) (r : Running numBlocks H)
    (victims free : List (Fin numBlocks)) : Pool numBlocks H where
  hash b := if victims.contains b then none else s.hash b
  reused b := if protect && victims.contains b && (s.hash b).isSome then false else s.reused b
  free := free
  running := s.running.set request { r with blocks := r.blocks ++ victims }

section Evicted
variable {protect : Bool} {s : Pool numBlocks H} (inv : PoolInv tree protect s) {request : Nat}
  {r : Running numBlocks H} (own : s.running.get request = some r)
  {victims free : List (Fin numBlocks)}

omit [DecidableEq H] in
theorem evicted_hash_iff (c : Fin numBlocks) (h : H) :
    (s.evicted protect request r victims free).hash c = some h ↔
      c ∉ victims ∧ s.hash c = some h := by
  simp only [Pool.evicted, List.contains_eq_mem, decide_eq_true_eq]
  split <;> simp_all

include inv in
omit [DecidableEq H] in
theorem evicted_reused_iff (c : Fin numBlocks) :
    (s.evicted protect request r victims free).reused c = true ↔
      c ∉ victims ∧ s.reused c = true := by
  by_cases victim : c ∈ victims
  · simp only [Pool.evicted, List.contains_eq_mem, victim, decide_true, Bool.and_true,
      not_true_eq_false, false_and, iff_false]
    split
    · simp
    · rename_i spared
      intro marked
      have hashed := Option.isSome_iff_ne_none.mpr (inv.mark_hashed c marked)
      cases protect with
      | true => simp [hashed] at spared
      | false =>
        rw [inv.unprotected rfl c] at marked
        cases marked
  · simp [Pool.evicted, victim]

include own in
omit [DecidableEq H] in
theorem evicted_holder (q : Nat) (x : Running numBlocks H)
    (found : (s.evicted protect request r victims free).running.get q = some x) :
    ∃ y, s.running.get q = some y ∧ x.path = y.path ∧ (∀ c ∈ y.blocks, c ∈ x.blocks) ∧
      ∀ c ∈ x.blocks, c ∈ y.blocks ∨ (q = request ∧ c ∈ victims) := by
  rcases get_entered s.running request _ q x found with ⟨rfl, rfl⟩ | ⟨_, before⟩
  · refine ⟨r, own, rfl, fun c held => List.mem_append_left _ held, ?_⟩
    intro c held
    rcases List.mem_append.mp held with old | new
    · exact Or.inl old
    · exact Or.inr ⟨rfl, new⟩
  · exact ⟨x, before, rfl, fun c held => held, fun c held => Or.inl held⟩

include own in
omit [DecidableEq H] in
theorem evicted_still_holds (q : Nat) (y : Running numBlocks H)
    (found : s.running.get q = some y) :
    ∃ x, (s.evicted protect request r victims free).running.get q = some x ∧
      ∀ c ∈ y.blocks, c ∈ x.blocks := by
  by_cases mine : q = request
  · rw [mine, own] at found
    have same := Option.some.inj found
    subst mine same
    exact ⟨_, PyDict.get_set_same _ _ _, fun c held => List.mem_append_left _ held⟩
  · exact ⟨y, (PyDict.get_set_other _ _ mine).trans found, fun c held => held⟩

variable (queued : ∀ b ∈ victims, b ∈ s.free)
  (remaining : ∀ b, b ∈ free ↔ b ∈ s.free ∧ b ∉ victims)
  (downward : ∀ c p child above, p ∈ victims → c ∈ s.free → s.hash c = some child →
    s.hash p = some above → tree.parent child = some above →
    (s.reused c = true → s.reused p = true) → c ∈ victims)

include inv queued in
omit [DecidableEq H] in
theorem held_not_victim (q : Nat) (y : Running numBlocks H) (found : s.running.get q = some y)
    (c : Fin numBlocks) (held : c ∈ y.blocks) : c ∉ victims := by
  intro victim
  exact inv.queue_unheld c (queued c victim) q y found held

include inv queued downward in
omit [DecidableEq H] in
/-- A surviving child has a surviving parent: its holder's own copy, or one that ranks later. -/
theorem surviving_parent (c : Fin numBlocks) (child above : H) (spared : c ∉ victims)
    (value : s.hash c = some child) (link : tree.parent child = some above) :
    ∃ p, p ∉ victims ∧ s.hash p = some above ∧ (s.reused c = true → s.reused p = true) := by
  have hashed : s.hash c ≠ none := by simp [value]
  rcases inv.hashed_kept c hashed with free_child | ⟨q, y, found, held⟩
  · have candidate : ∃ p, s.hash p = some above ∧ (s.reused c = true → s.reused p = true) := by
      by_cases marked : s.reused c = true
      · obtain ⟨p, parent, mark⟩ := inv.parents_marked c child above marked value link
        exact ⟨p, parent, fun _ => mark⟩
      · obtain ⟨p, parent⟩ := inv.parents_cached c child above value link
        exact ⟨p, parent, fun now => absurd now marked⟩
    obtain ⟨p, parent, band⟩ := candidate
    refine ⟨p, ?_, parent, band⟩
    intro victim
    exact spared (downward c p child above victim free_child value parent link band)
  · by_cases marked : s.reused c = true
    · obtain ⟨p, listed, parent, mark⟩ := inv.own_mark c child above marked value link q y found held
      exact ⟨p, held_not_victim tree inv queued q y found p listed, parent, fun _ => mark⟩
    · obtain ⟨p, listed, parent⟩ := inv.own_parent q y found c held child above value link
      exact ⟨p, held_not_victim tree inv queued q y found p listed, parent,
        fun now => absurd now marked⟩

include inv own queued in
omit [DecidableEq H] in
theorem evicted_unhashed_once (b : Fin numBlocks)
    (empty : (s.evicted protect request r victims free).hash b = none) (q : Nat)
    (x : Running numBlocks H) (q' : Nat) (x' : Running numBlocks H)
    (first : (s.evicted protect request r victims free).running.get q = some x)
    (second : (s.evicted protect request r victims free).running.get q' = some x')
    (held : b ∈ x.blocks) (also : b ∈ x'.blocks) : q = q' := by
  obtain ⟨y, before, _, _, from_old⟩ := evicted_holder own q x first
  obtain ⟨y', before', _, _, from_old'⟩ := evicted_holder own q' x' second
  rcases from_old b held with earlier | ⟨mine, victim⟩
  · have spared := held_not_victim tree inv queued q y before b earlier
    rcases from_old' b also with earlier' | ⟨_, victim⟩
    · refine inv.unhashed_once b ?_ q y q' y' before before' earlier earlier'
      by_contra hashed
      obtain ⟨h, value⟩ := Option.ne_none_iff_exists'.mp hashed
      cases ((evicted_hash_iff b h).mpr ⟨spared, value⟩).symm.trans empty
    · exact absurd victim spared
  · rcases from_old' b also with earlier' | ⟨mine', _⟩
    · exact absurd victim (held_not_victim tree inv queued q' y' before' b earlier')
    · rw [mine, mine']

include inv own queued remaining downward in
omit [DecidableEq H] in
theorem evicted_inv : PoolInv tree protect (s.evicted protect request r victims free) where
  queue_unheld := by
    intro b waiting q x found held
    obtain ⟨old, spared⟩ := (remaining b).mp waiting
    obtain ⟨y, before, _, _, from_old⟩ := evicted_holder own q x found
    rcases from_old b held with earlier | ⟨_, victim⟩
    · exact inv.queue_unheld b old q y before earlier
    · exact spared victim
  hashed_kept := by
    intro b hashed
    obtain ⟨h, value⟩ := Option.ne_none_iff_exists'.mp hashed
    obtain ⟨spared, old⟩ := (evicted_hash_iff b h).mp value
    rcases inv.hashed_kept b (by simp [old]) with waiting | ⟨q, y, found, held⟩
    · exact Or.inl ((remaining b).mpr ⟨waiting, spared⟩)
    · obtain ⟨x, now, more⟩ := evicted_still_holds own q y found
      exact Or.inr ⟨q, x, now, more b held⟩
  path_held := by
    intro q x found h listed
    obtain ⟨y, before, path, more, _⟩ := evicted_holder own q x found
    obtain ⟨b, held, value⟩ := inv.path_held q y before h (path ▸ listed)
    have safe := held_not_victim tree inv queued q y before b held
    exact ⟨b, more b held, (evicted_hash_iff b h).mpr ⟨safe, value⟩⟩
  unhashed_once := evicted_unhashed_once tree inv own queued
  own_parent := by
    intro q x found c held child above value link
    obtain ⟨spared, old⟩ := (evicted_hash_iff c child).mp value
    obtain ⟨y, before, _, more, from_old⟩ := evicted_holder own q x found
    rcases from_old c held with earlier | ⟨_, victim⟩
    · obtain ⟨p, listed, parent⟩ := inv.own_parent q y before c earlier child above old link
      have safe := held_not_victim tree inv queued q y before p listed
      exact ⟨p, more p listed, (evicted_hash_iff p above).mpr ⟨safe, parent⟩⟩
    · exact absurd victim spared
  mark_hashed := by
    intro b marked
    obtain ⟨spared, old⟩ := (evicted_reused_iff tree inv b).mp marked
    obtain ⟨h, value⟩ := Option.ne_none_iff_exists'.mp (inv.mark_hashed b old)
    intro empty
    cases ((evicted_hash_iff b h).mpr ⟨spared, value⟩).symm.trans empty
  unprotected := by
    intro off b
    by_contra marked
    have old := ((evicted_reused_iff tree inv b).mp (by simpa using marked)).2
    rw [inv.unprotected off b] at old
    cases old
  own_mark := by
    intro c child above marked value link q x found held
    obtain ⟨spared, old⟩ := (evicted_hash_iff c child).mp value
    obtain ⟨_, mark⟩ := (evicted_reused_iff tree inv c).mp marked
    obtain ⟨y, before, _, more, from_old⟩ := evicted_holder own q x found
    rcases from_old c held with earlier | ⟨_, victim⟩
    · obtain ⟨p, listed, parent, kept⟩ := inv.own_mark c child above mark old link q y before earlier
      have safe := held_not_victim tree inv queued q y before p listed
      exact ⟨p, more p listed, (evicted_hash_iff p above).mpr ⟨safe, parent⟩,
        (evicted_reused_iff tree inv p).mpr ⟨safe, kept⟩⟩
    · exact absurd victim spared
  parents_cached := by
    intro c child above value link
    obtain ⟨spared, old⟩ := (evicted_hash_iff c child).mp value
    obtain ⟨p, safe, parent, _⟩ := surviving_parent tree inv queued downward c child above spared old
      link
    exact ⟨p, (evicted_hash_iff p above).mpr ⟨safe, parent⟩⟩
  parents_marked := by
    intro c child above marked value link
    obtain ⟨spared, old⟩ := (evicted_hash_iff c child).mp value
    obtain ⟨_, mark⟩ := (evicted_reused_iff tree inv c).mp marked
    obtain ⟨p, safe, parent, band⟩ := surviving_parent tree inv queued downward c child above spared
      old link
    exact ⟨p, (evicted_hash_iff p above).mpr ⟨safe, parent⟩,
      (evicted_reused_iff tree inv p).mpr ⟨safe, band mark⟩⟩
end Evicted

omit [DecidableEq H] in
theorem allocate_inv (protect : Bool) (s : Pool numBlocks H) (request count : Nat)
    (inv : PoolInv tree protect s) :
    PoolInv tree protect (s.allocate tree protect request count) := by
  unfold Pool.allocate
  split
  · exact inv
  · rename_i r own
    split
    · exact evicted_inv tree inv own (victims_queued tree protect s count)
        (remaining_queue tree protect s count)
        (fun c p child above => victims_downward tree protect s count c p child above)
    · exact inv

theorem step_inv (protect : Bool) (s : Pool numBlocks H) (op : Op numBlocks H)
    (covered : protect = true → Covered tree s op) (inv : PoolInv tree protect s) :
    PoolInv tree protect (step tree protect s op).1 := by
  cases op with
  | hit request blocks => exact hit_inv tree protect s request blocks covered inv
  | allocate request count => exact allocate_inv tree protect s request count inv
  | cache request hash => exact cache_inv tree protect s request hash inv
  | free request => exact release_inv tree protect s request inv

/-- Tail-first eviction leaves no hole in a cached prefix after any operation of a run
    without protection, or of a protected run whose hits are all covered. -/
theorem tail_evict_keeps_parents (protect : Bool) (ops : List (Op numBlocks H))
    (covered : Throughout (step tree protect) (fun s op => protect = true → Covered tree s op)
      (Pool.empty numBlocks H) ops) (k : Nat) :
    ParentsCached tree (poolAfter tree protect (ops.take k)) ∧
      (protect = true → ParentsMarked tree (poolAfter tree protect (ops.take k))) := by
  have inv : PoolInv tree protect (poolAfter tree protect (ops.take k)) :=
    final_invariant_throughout (step tree protect) (PoolInv tree protect)
      (fun s op => protect = true → Covered tree s op)
      (fun s op ok now => step_inv tree protect s op ok now)
      (Pool.empty numBlocks H) (ops.take k)
      (throughout_take (step tree protect) _ _ ops k covered) (empty_inv tree protect)
  exact ⟨inv.parents_cached, fun _ => inv.parents_marked⟩

def chainTree : HashTree Nat where
  parent h := if h = 0 then none else some (h - 1)
  numTokens h := 64 * (h + 1)
  deeper := by
    intro child above link
    split at link
    · cases link
    · have same := Option.some.inj link
      omega

/-- Two pages are cached, hit by a second request and given back; a third request then
    takes one block. -/
def returnRun : List (Op 2 Nat) :=
  [.hit 0 [], .allocate 0 2, .cache 0 0, .cache 0 1, .free 0, .hit 1 [0, 1], .free 1, .hit 2 [],
   .allocate 2 1]

theorem tail_evict_keeps_parents_return :
    (poolAfter chainTree true (returnRun.take 9)).hash 0 = some 0 ∧
    (poolAfter chainTree true (returnRun.take 9)).hash 1 = none ∧
    ParentsCached chainTree (poolAfter chainTree true (returnRun.take 9)) ∧
    ParentsMarked chainTree (poolAfter chainTree true (returnRun.take 9)) := by
  have covered : Throughout (step chainTree true) (fun s op => true = true → Covered chainTree s op)
      (Pool.empty 2 Nat) returnRun := by
    refine ⟨fun _ => nofun, fun _ => trivial, fun _ => trivial, fun _ => trivial, fun _ => trivial,
      fun _ => ?_, fun _ => trivial, fun _ => nofun, fun _ => trivial, trivial⟩
    intro c _ child above _ _ r x found
    cases found
  have kept := tail_evict_keeps_parents chainTree true returnRun covered 9
  exact ⟨by decide, by decide, kept.1, kept.2 rfl⟩

/-- Two requests cache the first page in blocks 0 and 1 and the second one its child in
    block 2. A third request hits blocks 0 and 2, so block 1 stays unmarked. -/
def duplicateRun : List (Op 3 Nat) :=
  [.hit 0 [], .hit 1 [], .allocate 0 1, .allocate 1 2, .cache 0 0, .cache 1 0, .cache 1 1,
   .hit 2 [0, 2], .free 0, .free 2, .hit 3 [], .allocate 3 1]

/-- Evicting block 0 leaves the marked child over an unmarked parent; once its holder is
    done, the next allocation takes that parent and keeps the child. -/
theorem duplicate_copy_punches_hole :
    ¬ ParentsMarked chainTree (poolAfter chainTree true duplicateRun) ∧
    ¬ ParentsCached chainTree
      (poolAfter chainTree true (duplicateRun ++ [.free 1, .hit 4 [], .allocate 4 1])) := by
  constructor
  · intro marked
    obtain ⟨p, parent, mark⟩ := marked 2 1 0 (by decide) (by decide) (by decide)
    revert parent mark
    revert p
    decide
  · intro cached
    obtain ⟨p, parent⟩ := cached 2 1 0 (by decide) (by decide)
    revert parent
    revert p
    decide

end PrefixCache
