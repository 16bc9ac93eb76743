import Glm53Overlay.MambaBlocks.Retirement

/-!
Whole runs of the manager: appends, replacements, calls, frees and new admissions under an old
id, in any order.
-/
namespace MambaBlocks
open ReplayMachine
variable {B : Type} {generic : Manager B → String → Int → Int → Manager B} {s : Manager B}

theorem append_settled (settled : Settled s) (request : String) (block : Block B) :
    Settled (s.append request block) := by
  unfold Manager.append
  constructor
  · exact settled.align
  · intro r i b low
    rw [retired_setBlocks] at low
    have inside := settled.inside r
    rw [blocks_setBlocks]
    split
    · rename_i same
      subst same
      rw [List.getElem?_append_left (by omega)]
      exact settled.below r i b low
    · exact settled.below r i b low
  · intro r
    have inside := settled.inside r
    rw [retired_setBlocks, blocks_setBlocks]
    split
    · rename_i same
      rw [← same, List.length_append]
      omega
    · exact inside

theorem replace_settled (settled : Settled s) {request : String} {index : Nat} {block : Block B}
    (respects : block = .null ∨ s.retired request ≤ index) :
    Settled (s.replace request index block) := by
  unfold Manager.replace
  split
  · rename_i listed
    constructor
    · exact settled.align
    · intro r i b low
      rw [retired_setBlocks] at low
      rw [blocks_setBlocks]
      split
      · rename_i same
        subst same
        by_cases here : index = i
        · subst here
          rcases respects with gap | high
          · rw [List.getElem?_set_self listed, gap]
            intro wrong
            cases wrong
          · omega
        · rw [List.getElem?_set_ne here]
          exact settled.below r i b low
      · exact settled.below r i b low
    · intro r
      rw [retired_setBlocks, blocks_setBlocks]
      split
      · rename_i same
        rw [List.length_set, ← same]
        exact settled.inside r
      · exact settled.inside r
  · exact settled

theorem remove_settled (settled : Settled s) {request : String} {firstBlock lastBlock : Int}
    (covers : Covers s (.remove request firstBlock lastBlock)) :
    Settled (s.removeBlocksInRange generic request firstBlock lastBlock) := by
  have retires : Retires s (s.removeBlocksInRange generic request firstBlock lastBlock) request
    firstBlock lastBlock := remove_retires settled request firstBlock lastBlock
  revert retires
  unfold Manager.removeBlocksInRange
  rw [if_neg (not_not.mpr settled.align)]
  simp only
  split
  · intro _
    exact settled
  rename_i some'
  intro retires
  have gap := covers (Int.lt_of_not_ge some')
  constructor
  · exact settled.align
  · intro r i b low
    rw [retired_setRetired, retired_sweep] at low
    by_cases same : r = request
    · subst same
      rw [if_pos rfl] at low
      by_cases range : firstBlock ≤ i
      · rw [retires.nulled i range (by omega)]
        intro wrong
        cases wrong
      · rw [retires.untouched i (by tauto)]
        by_cases known : i < s.retired r
        · exact settled.below r i b known
        · exact gap i b (by omega) (by omega)
    · rw [if_neg same] at low
      rw [retires.others r same]
      exact settled.below r i b low
  · intro r
    rw [retired_setRetired]
    split
    · rename_i same
      rw [same, blocks_setRetired, blocks_sweep, if_pos rfl, retireLoop_length]
      omega
    · rename_i other
      rw [retires.others r other]
      exact settled.inside r

theorem pop_settled (settled : Settled s) (request : String) :
    Settled (s.popBlocksForFree request).1 := by
  have mark : ∀ r, (s.popBlocksForFree request).1.retired r =
      if r = request then 0 else s.retired r := by
    intro r
    simp only [Manager.popBlocksForFree, Manager.retired, settled.align, ↓reduceIte,
      PyDict.get_pop]
    split <;> rfl
  have table : ∀ r, (s.popBlocksForFree request).1.blocks r =
      if r = request then [] else s.blocks r := by
    intro r
    simp only [Manager.popBlocksForFree, Manager.blocks, PyDict.get_pop]
    split <;> rfl
  constructor
  · exact settled.align
  · intro r i b low
    rw [mark] at low
    rw [table]
    split at low
    · exact absurd low (Nat.not_lt_zero i)
    · rename_i other
      rw [if_neg other]
      exact settled.below r i b low
  · intro r
    rw [mark, table]
    split
    · exact Nat.le_refl _
    · exact settled.inside r

theorem step_settled (settled : Settled s) {op : Op B} (respects : Respects s op)
    (covers : Covers s op) : Settled (step generic s op).1 := by
  cases op with
  | append request block => exact append_settled settled request block
  | replace request index block => exact replace_settled settled respects
  | remove request firstBlock lastBlock => exact remove_settled settled covers
  | free request => exact pop_settled settled request

/-- A block entered into the manager's tables is counted once: in a table or among the blocks
    handed over. -/
def Accounted [DecidableEq B] (s t : Manager B) (ops : List (Op B)) : Prop :=
  ∀ b, t.handed b + t.live b ≤ s.handed b + s.live b + entered b ops

section Counting
variable [DecidableEq B]

theorem live_set (d : PyDict String (List (Block B))) (request : String) (xs : List (Block B))
    (x : Block B) :
    ((d.set request xs).entries.flatMap Prod.snd).count x + ((d.get request).getD []).count x =
      (d.entries.flatMap Prod.snd).count x + xs.count x := by
  have after := ((PyDict.entries_perm_set d request xs).flatMap_right Prod.snd).count_eq x
  rw [List.flatMap_cons, List.count_append] at after
  dsimp only at after
  cases found : d.get request with
  | none =>
    rw [PyDict.pop_absent found] at after
    simp only [Option.getD_none, List.count_nil]
    omega
  | some old =>
    have before := ((PyDict.entries_perm_pop found).flatMap_right Prod.snd).count_eq x
    rw [List.flatMap_cons, List.count_append] at before
    dsimp only at before
    simp only [Option.getD_some]
    omega

theorem rescan_counted (s : Manager B) (request : String) (firstBlock lastBlock : Int) (b : B) :
    (s.rescanInRange request firstBlock lastBlock).handed b +
        (s.rescanInRange request firstBlock lastBlock).live b = s.handed b + s.live b := by
  unfold Manager.rescanInRange
  simp only
  split
  · rfl
  · have loop := retireLoop_count (max firstBlock 0).toNat b
      ((min lastBlock (s.blocks request).length).toNat - (max firstBlock 0).toNat)
      (s.blocks request) []
    have table := live_set s.reqToBlocks request (retireLoop (max firstBlock 0).toNat
      ((min lastBlock (s.blocks request).length).toNat - (max firstBlock 0).toNat)
      (s.blocks request) []).1 (.real b)
    rw [← Manager.blocks] at table
    rw [List.count_nil] at loop
    simp only [Manager.sweep, Manager.setBlocks, Manager.handed, Manager.live]
    split
    · rename_i none
      rw [List.isEmpty_iff.mp none, List.count_nil] at loop
      omega
    · rw [List.flatten_append, List.count_append, List.flatten_singleton]
      omega

theorem step_accounted (generic : Manager B → String → Int → Int → Manager B)
    (settled : Settled s) (op : Op B) :
    Accounted s (step generic s op).1 [op] := by
  intro b
  cases op with
  | append request block =>
    have table := live_set s.reqToBlocks request (s.blocks request ++ [block]) (.real b)
    rw [← Manager.blocks, List.count_append, List.count_singleton] at table
    simp only [step, Manager.append, Manager.setBlocks, Manager.handed, Manager.live, entered,
      List.countP_singleton]
    simp only [beq_iff_eq, decide_eq_true_eq] at table ⊢
    omega
  | replace request index block =>
    simp only [step, Manager.replace]
    split
    · rename_i listed
      have table := live_set s.reqToBlocks request ((s.blocks request).set index block) (.real b)
      rw [← Manager.blocks, List.count_set listed] at table
      simp only [Manager.setBlocks, Manager.handed, Manager.live, entered, List.countP_singleton]
      simp only [beq_iff_eq, decide_eq_true_eq] at table ⊢
      split at table <;> split at table <;> simp_all <;> omega
    · exact Nat.le_add_right _ _
  | remove request firstBlock lastBlock =>
    have alike : Alike _ _ := remove_alike generic settled request firstBlock lastBlock
    have counted := rescan_counted s request firstBlock lastBlock b
    simp only [Manager.handed, Manager.live, alike.1, alike.2] at counted
    simp only [step, Manager.handed, Manager.live]
    omega
  | free request =>
    simp only [step, Manager.popBlocksForFree, Manager.handed, Manager.live]
    cases found : s.reqToBlocks.get request with
    | none =>
      rw [PyDict.pop_absent found]
      omega
    | some old =>
      have before :=
        ((PyDict.entries_perm_pop found).flatMap_right Prod.snd).count_eq (Block.real b)
      rw [List.flatMap_cons, List.count_append] at before
      omega

end Counting

theorem accounted_run [DecidableEq B] (generic : Manager B → String → Int → Int → Manager B)
    {ops : List (Op B)} :
    ∀ {s : Manager B}, Settled s → Throughout (step generic) Respects s ops →
      Throughout (step generic) Covers s ops → Accounted s (final (step generic) s ops) ops := by
  induction ops with
  | nil =>
    intro s _ _ _ b
    exact Nat.le_refl _
  | cons op rest ih =>
    intro s settled respects covers b
    have later := ih (step_settled settled respects.1 covers.1) respects.2 covers.2 b
    have now := step_accounted generic settled op b
    have parts : entered b (op :: rest) = entered b [op] + entered b rest :=
      (congrArg _ (List.singleton_append (x := op) (l := rest)).symm).trans List.countP_append
    rw [final_cons]
    omega

def HandsReal (s : Manager B) : Prop := ∀ batch ∈ s.freeCalls, Block.null ∉ batch

theorem rescan_handsReal (hands : HandsReal s) (request : String) (firstBlock lastBlock : Int) :
    HandsReal (s.rescanInRange request firstBlock lastBlock) := by
  unfold Manager.rescanInRange
  simp only
  split
  · exact hands
  · unfold Manager.sweep HandsReal
    simp only
    split
    · exact hands
    · intro batch member
      rcases List.mem_append.mp member with old | new
      · exact hands batch old
      · rw [List.mem_singleton.mp new, retireLoop_freed]
        simp [Block.isNull]

theorem step_handsReal (settled : Settled s) (hands : HandsReal s) (op : Op B) :
    HandsReal (step generic s op).1 := by
  cases op with
  | append request block => exact hands
  | replace request index block =>
    simp only [step, Manager.replace]
    split
    · exact hands
    · exact hands
  | remove request firstBlock lastBlock =>
    have alike : Alike _ _ := remove_alike generic settled request firstBlock lastBlock
    have rescanned := rescan_handsReal hands request firstBlock lastBlock
    rw [HandsReal, alike.2] at rescanned
    exact rescanned
  | free request => exact hands

theorem step_alike {t : Manager B} (settled : Settled s) (alike : Alike s t) (op : Op B) :
    Alike (step generic s op).1 (rescanStep t op).1 := by
  have same := alike_blocks alike
  cases op with
  | append request block =>
    constructor
    · simp only [step, rescanStep, Manager.append, Manager.setBlocks, same, alike.1]
    · exact alike.2
  | replace request index block =>
    simp only [step, rescanStep, Manager.replace, same]
    split
    · constructor
      · simp only [Manager.setBlocks, alike.1]
      · exact alike.2
    · exact alike
  | remove request firstBlock lastBlock =>
    have own : Alike _ _ := remove_alike generic settled request firstBlock lastBlock
    have both := rescan_alike alike request firstBlock lastBlock
    exact ⟨both.1.trans own.1, both.2.trans own.2⟩
  | free request =>
    constructor
    · simp only [step, rescanStep, Manager.popBlocksForFree, alike.1]
    · exact alike.2

theorem run_alike {ops : List (Op B)} : ∀ {s t : Manager B}, Settled s → Alike s t →
    Throughout (step generic) Respects s ops → Throughout (step generic) Covers s ops →
      Alike (final (step generic) s ops) (final rescanStep t ops) := by
  induction ops with
  | nil =>
    intro s t _ alike _ _
    exact alike
  | cons op rest ih =>
    intro s t settled alike respects covers
    exact ih (step_settled settled respects.1 covers.1) (step_alike settled alike op) respects.2
      covers.2

theorem run_settled {ops : List (Op B)} : ∀ {s : Manager B}, Settled s →
    Throughout (step generic) Respects s ops → Throughout (step generic) Covers s ops →
      Settled (final (step generic) s ops) := by
  induction ops with
  | nil =>
    intro s settled _ _
    exact settled
  | cons op rest ih =>
    intro s settled respects covers
    exact ih (step_settled settled respects.1 covers.1) respects.2 covers.2

theorem run_handsReal {ops : List (Op B)} : ∀ {s : Manager B}, Settled s → HandsReal s →
    Throughout (step generic) Respects s ops → Throughout (step generic) Covers s ops →
      HandsReal (final (step generic) s ops) := by
  induction ops with
  | nil =>
    intro s _ hands _ _
    exact hands
  | cons op rest ih =>
    intro s settled hands respects covers
    exact ih (step_settled settled respects.1 covers.1) (step_handsReal settled hands op) respects.2
      covers.2

/-- In a run whose calls all cover what lies behind them, every call retires its whole range,
    null is never handed over, a block is handed over at most as often as it was put into a
    table, and tables and handed blocks are those of the rescan. -/
theorem retirement_equals_rescan [DecidableEq B]
    (generic : Manager B → String → Int → Int → Manager B) (ops : List (Op B))
    (respects : Throughout (step generic) Respects (.fresh "align") ops)
    (covers : Throughout (step generic) Covers (.fresh "align") ops) :
    RetiresThroughout generic ops ∧
    Alike (final (step generic) (.fresh "align") ops) (final rescanStep (.fresh "align") ops) ∧
    (∀ batch ∈ (final (step generic) (.fresh "align") ops).freeCalls, Block.null ∉ batch) ∧
    ∀ b, (final (step generic) (.fresh "align") ops).handed b +
      (final (step generic) (.fresh "align") ops).live b ≤ entered b ops := by
  refine ⟨?_, run_alike fresh_settled ⟨rfl, rfl⟩ respects covers,
    run_handsReal fresh_settled (fun _ none => absurd none List.not_mem_nil) respects covers, ?_⟩
  · intro k request firstBlock lastBlock _
    exact remove_retires (run_settled fresh_settled (throughout_take _ _ _ _ k respects)
      (throughout_take _ _ _ _ k covers)) request firstBlock lastBlock
  · intro b
    have counted := accounted_run generic fresh_settled respects covers b
    have none : (Manager.fresh "align" : Manager B).handed b +
        (Manager.fresh "align" : Manager B).live b = 0 := rfl
    omega

def untouchedBase (s : Manager Nat) (_ : String) (_ _ : Int) : Manager Nat := s

/-- A call over a null gap, a shorter one, a free and a new admission. -/
theorem retirement_across_gap :
    let ops : List (Op Nat) := [.append "r" (.real 0), .append "r" .null, .append "r" (.real 1),
      .remove "r" 0 2, .remove "r" 0 1, .remove "r" 0 9, .free "r", .append "r" (.real 2),
      .remove "r" 0 1]
    RetiresThroughout untouchedBase ops ∧
      (final (step untouchedBase) (.fresh "align") ops).freeCalls =
        [[.real 0], [.real 1], [.real 2]] := by
  refine ⟨(retirement_equals_rescan untouchedBase _ ?_ ?_).1, rfl⟩
  · simp [Throughout, Respects]
  · simp only [Throughout, Covers, true_and, and_true]
    refine ⟨?_, ?_, ?_, ?_⟩ <;> intro _ i b _ below <;> omega

/-- A call that starts above a live block hides it from every later call. -/
def hidingOps : List (Op Nat) :=
  [.append "r" (.real 0), .append "r" (.real 1), .remove "r" 1 2, .remove "r" 0 2]

theorem late_start_hides_block :
    Throughout (step untouchedBase) Respects (.fresh "align") hidingOps ∧
      ¬ RetiresThroughout untouchedBase hidingOps := by
  constructor
  · simp [hidingOps, Throughout, Respects]
  · intro retires
    have last := (retires 3 "r" 0 2 rfl).nulled 0 (by decide) (by decide)
    revert last
    decide

theorem uncovered_call_leaks {request : String} {firstBlock lastBlock : Int}
    (align : s.mambaCacheMode = "align")
    (uncovered : ¬ Covers s (.remove request firstBlock lastBlock)) :
    ¬ Retires (s.removeBlocksInRange generic request firstBlock lastBlock)
      ((s.removeBlocksInRange generic request firstBlock lastBlock).removeBlocksInRange generic
        request 0 lastBlock) request 0 lastBlock := by
  simp only [Covers, not_forall, not_not] at uncovered
  obtain ⟨retiring, i, b, known, below, here⟩ := uncovered
  intro retires
  have inside : i < (s.blocks request).length := (List.getElem?_eq_some_iff.mp here).1
  have after : s.removeBlocksInRange generic request firstBlock lastBlock =
      (s.sweep request (max firstBlock (s.retired request)).toNat
        (min lastBlock (s.blocks request).length).toNat).setRetired request
          (min lastBlock (s.blocks request).length).toNat := by
    unfold Manager.removeBlocksInRange
    rw [if_neg (not_not.mpr align)]
    simp only
    rw [if_neg (by omega)]
  have size : ((s.removeBlocksInRange generic request firstBlock lastBlock).blocks request).length =
      (s.blocks request).length := by
    rw [after, blocks_setRetired, blocks_sweep, if_pos rfl, retireLoop_length]
  have again : (s.removeBlocksInRange generic request firstBlock lastBlock).removeBlocksInRange
      generic request 0 lastBlock = s.removeBlocksInRange generic request firstBlock lastBlock := by
    rw [Manager.removeBlocksInRange, if_neg (by rw [after]; exact not_not.mpr align)]
    simp only
    rw [size, if_pos]
    rw [after, retired_setRetired, if_pos rfl]
    omega
  have null := retires.nulled i (by omega) (by rw [size]; omega)
  rw [again, after, blocks_setRetired, blocks_sweep, if_pos rfl, retireLoop_get,
    if_neg (by omega), here] at null
  cases null

end MambaBlocks
