import Glm53Overlay.MambaBlocks.NullGap

/-!
The remembered index and the full rescan. As long as no call starts above a real block that it
leaves behind the index, everything below the index is null and both retire the same blocks.
-/
namespace MambaBlocks
open ReplayMachine
variable {B : Type}

theorem retireLoop_get (first : Nat) : ∀ (todo : Nat) (blocks freed : List (Block B)) (i : Nat),
    (retireLoop first todo blocks freed).1[i]? =
      if first ≤ i ∧ i < first + todo then blocks[i]?.map fun _ => .null else blocks[i]? := by
  intro todo
  induction todo with
  | zero =>
    intro blocks freed i
    rw [retireLoop, if_neg (by omega)]
  | succ todo ih =>
    intro blocks freed i
    rw [retireLoop]
    split
    · rename_i b here
      rw [ih, List.getElem?_set]
      by_cases same : first + todo = i
      · subst same
        have inside : first + todo < blocks.length := (List.getElem?_eq_some_iff.mp here).1
        rw [if_neg (by omega), if_pos rfl, if_pos inside, if_pos (by omega), here]
        rfl
      · rw [if_neg same]
        by_cases range : first ≤ i ∧ i < first + todo
        · rw [if_pos range, if_pos (by omega)]
        · rw [if_neg range, if_neg (by omega)]
    · rename_i gap
      rw [ih]
      by_cases same : first + todo = i
      · subst same
        rw [if_neg (by omega), if_pos (by omega)]
        cases here : blocks[first + todo]? with
        | none => rfl
        | some block =>
          cases block with
          | null => rfl
          | real b => exact absurd here (gap b)
      · by_cases range : first ≤ i ∧ i < first + todo
        · rw [if_pos range, if_pos (by omega)]
        · rw [if_neg range, if_neg (by omega)]

theorem slice_set (blocks : List (Block B)) (first todo : Nat) (block : Block B) :
    ((blocks.set (first + todo) block).drop first).take todo = (blocks.drop first).take todo := by
  rw [List.drop_set, if_neg (by omega), Nat.add_sub_cancel_left, List.take_set,
    List.set_eq_of_length_le (List.length_take_le _ _)]

theorem retireLoop_freed (first : Nat) : ∀ (todo : Nat) (blocks freed : List (Block B)),
    (retireLoop first todo blocks freed).2 =
      freed ++ ((blocks.drop first).take todo).reverse.filter fun block => !block.isNull := by
  intro todo
  induction todo with
  | zero =>
    intro blocks freed
    simp [retireLoop]
  | succ todo ih =>
    intro blocks freed
    rw [retireLoop, List.take_add_one, List.getElem?_drop]
    split
    · rename_i b here
      rw [ih, slice_set, here]
      simp [Block.isNull]
    · rename_i gap
      rw [ih]
      cases here : blocks[first + todo]? with
      | none => simp
      | some block =>
        cases block with
        | null => simp [Block.isNull]
        | real b => exact absurd here (gap b)

theorem retireLoop_length (first : Nat) : ∀ (todo : Nat) (blocks freed : List (Block B)),
    (retireLoop first todo blocks freed).1.length = blocks.length := by
  intro todo
  induction todo with
  | zero =>
    intro blocks freed
    rfl
  | succ todo ih =>
    intro blocks freed
    rw [retireLoop]
    split
    · rw [ih, List.length_set]
    · rw [ih]

/-- A stretch without real blocks may be left out at the start of the loop. -/
theorem retireLoop_skip {low first last : Nat} (blocks : List (Block B)) (order : low ≤ first)
    (inside : first ≤ last)
    (gap : ∀ i b, low ≤ i → i < first → blocks[i]? ≠ some (.real b)) :
    retireLoop low (last - low) blocks [] = retireLoop first (last - first) blocks [] := by
  have quiet : ∀ i, low ≤ i → i < first → blocks[i]?.map (fun _ => Block.null) = blocks[i]? := by
    intro i above below
    cases here : blocks[i]? with
    | none => rfl
    | some block =>
      cases block with
      | null => rfl
      | real b => exact absurd here (gap i b above below)
  refine Prod.ext (List.ext_getElem? fun i => ?_) ?_
  · rw [retireLoop_get, retireLoop_get]
    by_cases range : first ≤ i ∧ i < last
    · rw [if_pos (by omega), if_pos (by omega)]
    · rw [if_neg (c := first ≤ i ∧ _) (by omega)]
      by_cases skipped : low ≤ i ∧ i < first
      · rw [if_pos (by omega), quiet i skipped.1 skipped.2]
      · rw [if_neg (by omega)]
  · have split : (blocks.drop low).take (last - low) =
        (blocks.drop low).take (first - low) ++ (blocks.drop first).take (last - first) := by
      have parts := List.take_add (l := blocks.drop low) (i := first - low) (j := last - first)
      rw [List.drop_drop, show first - low + (last - first) = last - low by omega,
        show low + (first - low) = first by omega] at parts
      exact parts
    have none : ((blocks.drop low).take (first - low)).filter (fun block => !block.isNull) = [] := by
      rw [List.filter_eq_nil_iff]
      intro block member
      obtain ⟨i, below, here⟩ := List.mem_take_iff_getElem.mp member
      rw [List.getElem_drop] at here
      cases block with
      | null => simp [Block.isNull]
      | real b =>
        refine absurd ?_ (gap (low + i) b (by omega) (by omega))
        rw [List.getElem?_eq_some_iff]
        exact ⟨_, here⟩
    rw [retireLoop_freed, retireLoop_freed, split, List.reverse_append, List.filter_append,
      List.filter_reverse (l := (blocks.drop low).take (first - low)), none]
    simp

theorem retireLoop_count [DecidableEq B] (first : Nat) (b : B) :
    ∀ (todo : Nat) (blocks freed : List (Block B)),
      (retireLoop first todo blocks freed).1.count (.real b) +
          (retireLoop first todo blocks freed).2.count (.real b) =
        blocks.count (.real b) + freed.count (.real b) := by
  intro todo
  induction todo with
  | zero =>
    intro blocks freed
    rfl
  | succ todo ih =>
    intro blocks freed
    rw [retireLoop]
    split
    · rename_i c here
      obtain ⟨inside, there⟩ := List.getElem?_eq_some_iff.mp here
      rw [ih, List.count_set inside, there, List.count_append]
      by_cases same : c = b
      · subst same
        have positive : 0 < blocks.count (.real c) :=
          List.count_pos_iff.mpr (there ▸ List.getElem_mem inside)
        simp
        omega
      · have differ : (Block.real c == Block.real b) = false := by simp [same]
        simp [same]
    · exact ih blocks freed

section States
variable {generic : Manager B → String → Int → Int → Manager B} {s : Manager B}

structure Settled (s : Manager B) : Prop where
  align : s.mambaCacheMode = "align"
  below : ∀ request i b, i < s.retired request → (s.blocks request)[i]? ≠ some (.real b)
  inside : ∀ request, s.retired request ≤ (s.blocks request).length

theorem fresh_settled : Settled (.fresh "align" : Manager B) where
  align := rfl
  below := fun _ _ _ none => absurd none (Nat.not_lt_zero _)
  inside := fun _ => Nat.zero_le _

theorem rescan_blocks (s : Manager B) (request : String) (firstBlock lastBlock : Int)
    (r : String) (i : Nat) :
    ((s.rescanInRange request firstBlock lastBlock).blocks r)[i]? =
      if r = request ∧ firstBlock ≤ i ∧ (i : Int) < lastBlock then
        (s.blocks r)[i]?.map fun _ => .null
      else (s.blocks r)[i]? := by
  have beyond : (s.blocks request).length ≤ i → (s.blocks request)[i]? = none :=
    List.getElem?_eq_none
  unfold Manager.rescanInRange
  simp only
  split
  · rename_i empty
    split
    · rename_i range
      obtain ⟨rfl, low, high⟩ := range
      rw [beyond (by omega)]
      rfl
    · rfl
  · rw [blocks_sweep]
    by_cases same : r = request
    · subst same
      rw [if_pos rfl, retireLoop_get]
      by_cases range : firstBlock ≤ i ∧ (i : Int) < lastBlock
      · by_cases listed : i < (s.blocks r).length
        · rw [if_pos (by omega), if_pos ⟨rfl, range⟩]
        · rw [beyond (by omega), Option.map_none, ite_self, ite_self]
      · rw [if_neg (by omega), if_neg (by tauto)]
    · rw [if_neg same, if_neg (by tauto)]

def Alike (s t : Manager B) : Prop := t.reqToBlocks = s.reqToBlocks ∧ t.freeCalls = s.freeCalls

theorem alike_blocks {s t : Manager B} (alike : Alike s t) (request : String) :
    t.blocks request = s.blocks request := by
  rw [Manager.blocks, alike.1, Manager.blocks]

theorem rescan_alike {s t : Manager B} (alike : Alike s t) (request : String)
    (firstBlock lastBlock : Int) :
    Alike (s.rescanInRange request firstBlock lastBlock)
      (t.rescanInRange request firstBlock lastBlock) := by
  have same := alike_blocks alike request
  unfold Manager.rescanInRange
  rw [same]
  simp only
  split
  · exact alike
  · constructor
    · simp only [Manager.sweep, Manager.setBlocks, same, alike.1]
    · simp only [Manager.sweep, same, alike.2]

theorem remove_alike (generic : Manager B → String → Int → Int → Manager B)
    (settled : Settled s) (request : String) (firstBlock lastBlock : Int) :
    Alike (s.removeBlocksInRange generic request firstBlock lastBlock)
      (s.rescanInRange request firstBlock lastBlock) := by
  unfold Manager.removeBlocksInRange Manager.rescanInRange
  rw [if_neg (not_not.mpr settled.align)]
  simp only
  have gap : ∀ i b, (max firstBlock 0).toNat ≤ i →
      i < (max firstBlock (s.retired request)).toNat → (s.blocks request)[i]? ≠ some (.real b) :=
    fun i b low high => settled.below request i b (by omega)
  by_cases all : max firstBlock (s.retired request) ≥ min lastBlock (s.blocks request).length
  · rw [if_pos all]
    split
    · exact ⟨rfl, rfl⟩
    · rename_i some'
      have covered : min lastBlock (s.blocks request).length ≤ s.retired request := by omega
      have quiet := retireLoop_skip (s.blocks request)
        (show (max firstBlock 0).toNat ≤ (min lastBlock (s.blocks request).length).toNat by omega)
        (Nat.le_refl _) fun i b low high => settled.below request i b (by omega)
      rw [Nat.sub_self, retireLoop] at quiet
      have listed : s.reqToBlocks.get request = some (s.blocks request) := by
        cases found : s.reqToBlocks.get request with
        | some blocks => rw [Manager.blocks, found, Option.getD_some]
        | none =>
          have empty : s.blocks request = [] := by rw [Manager.blocks, found, Option.getD_none]
          rw [empty, List.length_nil] at some'
          omega
      constructor
      · simp only [Manager.sweep, Manager.setBlocks, quiet, PyDict.set_get listed]
      · simp only [Manager.sweep, quiet, List.isEmpty_nil, ↓reduceIte]
  · rw [if_neg all, if_neg (by omega)]
    have same := retireLoop_skip (s.blocks request)
      (show (max firstBlock 0).toNat ≤ (max firstBlock (s.retired request)).toNat by omega)
      (show (max firstBlock (s.retired request)).toNat ≤
        (min lastBlock (s.blocks request).length).toNat by omega) gap
    constructor
    · simp only [Manager.setRetired, Manager.sweep, Manager.setBlocks, same]
    · simp only [Manager.setRetired, Manager.sweep, same]

theorem remove_retires (settled : Settled s) (request : String) (firstBlock lastBlock : Int) :
    Retires s (s.removeBlocksInRange generic request firstBlock lastBlock) request firstBlock
      lastBlock := by
  have alike : Alike _ _ := remove_alike generic settled request firstBlock lastBlock
  have after := fun r i => rescan_blocks s request firstBlock lastBlock r i
  simp only [alike_blocks alike] at after
  constructor
  · intro i low high
    rw [after, if_pos ⟨rfl, low, by omega⟩, List.getElem?_eq_getElem (by omega)]
    rfl
  · intro i outside
    rw [after, if_neg (by tauto)]
  · intro r other
    refine List.ext_getElem? fun i => ?_
    rw [after, if_neg (by tauto)]
  · exact alike.1.symm
  · exact alike.2.symm

end States

end MambaBlocks
