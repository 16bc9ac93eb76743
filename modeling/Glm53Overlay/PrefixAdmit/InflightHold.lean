import Mathlib.Data.List.Perm.Basic
import Mathlib.Order.Nat
import Glm53Overlay.Library.PyDict
import Glm53Overlay.Library.ReplayMachine
import Glm53Overlay.Library.TiedMaximum
import Glm53Overlay.PrefixAdmit.AlignedPrefix

/-!
`_glm53_hold_for_inflight_prefix` and the memo it keeps on the waiting request. Token
and request-id types are left open. A missing prompt is the empty list; a partner's
count that is missing or not a number is `none`. Object identity is a number. The memo
is not keyed by the block grid, so one scheduler's grid is fixed over a history.
-/
namespace PrefixAdmit
open ReplayMachine
variable {Token Id : Type*} [DecidableEq Token] [DecidableEq Id]

structure Partner (Token Id : Type*) where
  ident : Nat
  requestId : Option Id
  promptTokenIds : List Token
  numComputedTokens : Option Int

structure Waiter (Token Id : Type*) where
  ident : Nat
  requestId : Option Id
  promptTokenIds : List Token
  acceptsAttributes : Bool

/-- `int(getattr(partner, "num_computed_tokens", 0) or 0)`. -/
def Partner.computed (p : Partner Token Id) : Int := p.numComputedTokens.getD 0

abbrev Shares (Id : Type*) := PyDict Id Nat

/-- The memo lookup of one partner: the share, and the memo afterwards. -/
def sharedWith (mine : List Token) (block : Nat) (shares : Shares Id)
    (p : Partner Token Id) : Nat × Shares Id :=
  match p.requestId with
  | none => (alignedPrefixTokens mine p.promptTokenIds block, shares)
  | some i =>
    match shares.get i with
    | some shared => (shared, shares)
    | none =>
      let shared := alignedPrefixTokens mine p.promptTokenIds block
      (shared, shares.set i shared)

/-- The three `continue` statements before the share is looked up. -/
def passedOver (w : Waiter Token Id) (p : Partner Token Id) : Bool :=
  p.ident = w.ident ∨ (w.requestId ≠ none ∧ p.requestId = w.requestId) ∨ p.promptTokenIds = []

/-- `published >= shared`. -/
def partnerReady (block shared : Nat) (p : Partner Token Id) : Bool :=
  let computed := if p.computed < 0 then 0 else p.computed
  let published := computed / block * block
  (shared : Int) ≤ published

structure Scan (Id : Type*) where
  best : Nat
  bestReady : Bool
  shares : Shares Id

def scanPartner (w : Waiter Token Id) (block : Nat) (s : Scan Id) (p : Partner Token Id) :
    Scan Id :=
  if passedOver w p then s
  else
    let (shared, shares) := sharedWith w.promptTokenIds block s.shares p
    if shared = 0 then { s with shares }
    else
      let ready := partnerReady block shared p
      if s.best < shared then ⟨shared, ready, shares⟩
      else if shared = s.best ∧ ready = true then ⟨s.best, true, shares⟩
      else { s with shares }

/-- The waiter's memo attribute and the answer of one call. -/
def holdForInflightPrefix (w : Waiter Token Id) (blockSize hashBlockSize : Nat)
    (stored : Option (Shares Id)) (running : List (Partner Token Id)) :
    Option (Shares Id) × Nat :=
  let block := max blockSize hashBlockSize
  if block = 0 then (stored, 0)
  else if w.promptTokenIds = [] then (stored, 0)
  else
    let keeps := stored ≠ none ∨ w.acceptsAttributes = true
    let s := running.foldl (scanPartner w block) ⟨0, false, stored.getD PyDict.empty⟩
    let stored := if keeps then some s.shares else none
    if 0 < s.best ∧ s.bestReady = false then (stored, s.best) else (stored, 0)

def sharesAfter (w : Waiter Token Id) (blockSize hashBlockSize : Nat)
    (history : List (List (Partner Token Id))) : Option (Shares Id) :=
  final (holdForInflightPrefix w blockSize hashBlockSize) none history

def holdAfter (w : Waiter Token Id) (blockSize hashBlockSize : Nat)
    (history : List (List (Partner Token Id))) (running : List (Partner Token Id)) : Nat :=
  (holdForInflightPrefix w blockSize hashBlockSize
    (sharesAfter w blockSize hashBlockSize history) running).2

/-- Every running request with an id has the prompt that id names. -/
def Named (prompts : Id → List Token) (running : List (Partner Token Id)) : Prop :=
  ∀ p ∈ running, ∀ i, p.requestId = some i → p.promptTokenIds = prompts i

/-- Another request than the waiter, by identity and by id. -/
def IsPartner (w : Waiter Token Id) (p : Partner Token Id) : Prop :=
  p.ident ≠ w.ident ∧ (w.requestId = none ∨ p.requestId ≠ w.requestId)

def alignedShare (block : Nat) (w : Waiter Token Id) (p : Partner Token Id) : Nat :=
  CommonPrefix.length w.promptTokenIds p.promptTokenIds / block * block

/-- The running requests the loop weighs: partners that share a full block. -/
def weighed (w : Waiter Token Id) (block : Nat) (p : Partner Token Id) : Bool :=
  !passedOver w p && decide (0 < alignedShare block w p)

def weighedItem (w : Waiter Token Id) (block : Nat) (p : Partner Token Id) : Nat × Bool :=
  (alignedShare block w p, partnerReady block (alignedShare block w p) p)

section Memo
variable (prompts : Id → List Token) (w : Waiter Token Id) (block : Nat)

def MemoSound (shares : Shares Id) : Prop :=
  ∀ i shared, shares.get i = some shared →
    shared = CommonPrefix.length w.promptTokenIds (prompts i) / block * block

theorem memo_empty_sound : MemoSound prompts w block PyDict.empty := by
  intro i shared found
  cases found

theorem shared_with_sound (shares : Shares Id) (sound : MemoSound prompts w block shares)
    (p : Partner Token Id)
    (named : ∀ i, p.requestId = some i → p.promptTokenIds = prompts i) :
    (sharedWith w.promptTokenIds block shares p).1 = alignedShare block w p ∧
      MemoSound prompts w block (sharedWith w.promptTokenIds block shares p).2 := by
  unfold sharedWith alignedShare
  split
  · exact ⟨aligned_prefix_tokens_eq _ _ _, sound⟩
  · rename_i i id
    split
    · rename_i shared found
      rw [named i id]
      exact ⟨sound i shared found, sound⟩
    · refine ⟨aligned_prefix_tokens_eq _ _ _, ?_⟩
      intro j shared found
      by_cases same : j = i
      · rw [same, PyDict.get_set_same] at found
        rw [← Option.some.inj found, same, aligned_prefix_tokens_eq, named i id]
      · rw [PyDict.get_set_other _ _ same] at found
        exact sound j shared found

theorem scan_partner_step (s : Scan Id) (sound : MemoSound prompts w block s.shares)
    (p : Partner Token Id)
    (named : ∀ i, p.requestId = some i → p.promptTokenIds = prompts i) :
    MemoSound prompts w block (scanPartner w block s p).shares ∧
      ((scanPartner w block s p).best, (scanPartner w block s p).bestReady) =
        if weighed w block p then TiedMaximum.step (s.best, s.bestReady) (weighedItem w block p)
        else (s.best, s.bestReady) := by
  obtain ⟨share, kept⟩ := shared_with_sound prompts w block s.shares sound p named
  unfold scanPartner
  by_cases skipped : passedOver w p = true
  · simp [skipped, weighed, sound]
  · by_cases none_shared : alignedShare block w p = 0
    · simp [skipped, weighed, share, none_shared, kept]
    · have positive : 0 < alignedShare block w p := Nat.pos_of_ne_zero none_shared
      have counts : weighed w block p = true := by simp [weighed, skipped, positive]
      simp only [skipped, Bool.false_eq_true, ↓reduceIte, share, none_shared, counts,
        TiedMaximum.step, weighedItem]
      by_cases larger : s.best < alignedShare block w p
      · simp [larger, kept]
      · by_cases tied : alignedShare block w p = s.best ∧
            partnerReady block (alignedShare block w p) p = true
        · simp only [if_neg larger, if_pos tied]
          exact ⟨kept, ((if_neg larger).trans (if_pos tied)).symm⟩
        · simp only [if_neg larger, if_neg tied]
          exact ⟨kept, ((if_neg larger).trans (if_neg tied)).symm⟩

theorem scan_running (running : List (Partner Token Id)) (named : Named prompts running)
    (s : Scan Id) (sound : MemoSound prompts w block s.shares) :
    MemoSound prompts w block (running.foldl (scanPartner w block) s).shares ∧
      ((running.foldl (scanPartner w block) s).best,
        (running.foldl (scanPartner w block) s).bestReady) =
        TiedMaximum.scan (s.best, s.bestReady)
          ((running.filter (weighed w block)).map (weighedItem w block)) := by
  induction running generalizing s with
  | nil => exact ⟨sound, rfl⟩
  | cons p rest ih =>
    have here : ∀ i, p.requestId = some i → p.promptTokenIds = prompts i :=
      named p List.mem_cons_self
    have there : Named prompts rest := fun q member => named q (List.mem_cons_of_mem p member)
    obtain ⟨kept, moved⟩ := scan_partner_step prompts w block s sound p here
    obtain ⟨ends, result⟩ := ih there (scanPartner w block s p) kept
    refine ⟨ends, ?_⟩
    rw [List.foldl_cons, result, moved, List.filter_cons]
    split <;> simp
end Memo

/-- `h` is the longest share with a running partner and nobody who has it published it. -/
structure PendingShare (block : Nat) (w : Waiter Token Id) (running : List (Partner Token Id))
    (h : Nat) : Prop where
  attained : ∃ p ∈ running, IsPartner w p ∧ alignedShare block w p = h
  longest : ∀ p ∈ running, IsPartner w p → alignedShare block w p ≤ h
  pending : ∀ p ∈ running, IsPartner w p → alignedShare block w p = h →
    p.computed / block * block < h

omit [DecidableEq Id] in
theorem share_zero_of_no_prompt (block : Nat) (w : Waiter Token Id) (p : Partner Token Id)
    (missing : w.promptTokenIds = [] ∨ p.promptTokenIds = []) : alignedShare block w p = 0 := by
  have bound := CommonPrefix.length_le w.promptTokenIds p.promptTokenIds
  have zero : CommonPrefix.length w.promptTokenIds p.promptTokenIds = 0 := by
    rcases missing with empty | empty <;> simpa [empty] using bound
  simp [alignedShare, zero]

omit [DecidableEq Id] in
theorem share_le_prompt (block : Nat) (w : Waiter Token Id) (p : Partner Token Id) :
    alignedShare block w p ≤ p.promptTokenIds.length := by
  have bound := CommonPrefix.length_le w.promptTokenIds p.promptTokenIds
  have floor := Nat.div_mul_le_self
    (CommonPrefix.length w.promptTokenIds p.promptTokenIds) block
  unfold alignedShare
  omega

theorem weighed_iff (w : Waiter Token Id) (block : Nat) (p : Partner Token Id) :
    weighed w block p = true ↔ IsPartner w p ∧ 0 < alignedShare block w p := by
  constructor
  · intro counts
    simp only [weighed, passedOver, Bool.and_eq_true, Bool.not_eq_true', decide_eq_false_iff_not,
      decide_eq_true_eq, not_or, not_and_or, not_not] at counts
    exact ⟨⟨counts.1.1, counts.1.2.1⟩, counts.2⟩
  · rintro ⟨⟨other, different⟩, positive⟩
    have prompt : p.promptTokenIds ≠ [] := by
      intro empty
      rw [share_zero_of_no_prompt block w p (Or.inr empty)] at positive
      omega
    simp only [weighed, passedOver, Bool.and_eq_true, Bool.not_eq_true', decide_eq_false_iff_not,
      decide_eq_true_eq, not_or, not_and_or, not_not]
    exact ⟨⟨other, different, prompt⟩, positive⟩

omit [DecidableEq Token] [DecidableEq Id] in
theorem partner_ready_iff (block shared : Nat) (positive : 0 < shared) (p : Partner Token Id) :
    partnerReady block shared p = true ↔ (shared : Int) ≤ p.computed / block * block := by
  unfold partnerReady
  dsimp only
  split
  · rename_i negative
    have below : p.computed / (block : Int) * block ≤ p.computed ∨ block = 0 := by
      rcases Nat.eq_zero_or_pos block with zero | grid
      · exact Or.inr zero
      · exact Or.inl (Int.ediv_mul_le _ (by omega))
    simp only [Int.zero_ediv, Int.zero_mul, decide_eq_true_eq]
    constructor
    · intro impossible
      omega
    · rcases below with below | zero
      · omega
      · subst zero
        simp
  · simp

theorem weighed_summary (w : Waiter Token Id) (block : Nat) (running : List (Partner Token Id))
    (r : Nat × Bool)
    (scanned : TiedMaximum.scan (0, false)
      ((running.filter (weighed w block)).map (weighedItem w block)) = r) :
    (∀ p ∈ running, IsPartner w p → alignedShare block w p ≤ r.1) ∧
    (0 < r.1 → ∃ p ∈ running, IsPartner w p ∧ alignedShare block w p = r.1) ∧
    (0 < r.1 → (r.2 = true ↔ ∃ p ∈ running, IsPartner w p ∧ alignedShare block w p = r.1 ∧
      (r.1 : Int) ≤ p.computed / block * block)) := by
  have summary := TiedMaximum.scan_spec (0, false)
    ((running.filter (weighed w block)).map (weighedItem w block))
  rw [scanned] at summary
  have items (P : Nat × Bool → Prop) :
      (∃ item ∈ (running.filter (weighed w block)).map (weighedItem w block), P item) ↔
        ∃ p ∈ running, (IsPartner w p ∧ 0 < alignedShare block w p) ∧
          P (weighedItem w block p) := by
    simp only [List.mem_map, List.mem_filter, weighed_iff]
    constructor
    · rintro ⟨_, ⟨p, ⟨member, counts⟩, rfl⟩, holds⟩
      exact ⟨p, member, counts, holds⟩
    · rintro ⟨p, member, counts, holds⟩
      exact ⟨_, ⟨p, ⟨member, counts⟩, rfl⟩, holds⟩
  refine ⟨?_, ?_, ?_⟩
  · intro p member partner
    by_cases positive : 0 < alignedShare block w p
    · have listed := List.mem_map_of_mem (f := weighedItem w block)
        (List.mem_filter.mpr ⟨member, (weighed_iff w block p).mpr ⟨partner, positive⟩⟩)
      exact summary.above _ (List.mem_cons_of_mem _ listed)
    · omega
  · intro positive
    obtain ⟨item, listed, equal⟩ := summary.reached
    rcases List.mem_cons.mp listed with rfl | later
    · simp only at equal
      omega
    · obtain ⟨p, member, ⟨partner, _⟩, attains⟩ := (items (·.1 = r.1)).mp ⟨item, later, equal⟩
      exact ⟨p, member, partner, attains⟩
  · intro positive
    rw [summary.flagged]
    constructor
    · rintro ⟨item, listed, equal, flag⟩
      rcases List.mem_cons.mp listed with rfl | later
      · cases flag
      · obtain ⟨p, member, ⟨partner, shares⟩, attains, ready⟩ :=
          (items fun i => i.1 = r.1 ∧ i.2 = true).mp ⟨item, later, equal, flag⟩
        have published := (partner_ready_iff block _ shares p).mp ready
        have attained : alignedShare block w p = r.1 := attains
        exact ⟨p, member, partner, attained, attained ▸ published⟩
    · rintro ⟨p, member, partner, attains, published⟩
      have shares : 0 < alignedShare block w p := attains ▸ positive
      have ready := (partner_ready_iff block _ shares p).mpr (by rw [attains]; exact published)
      obtain ⟨item, later, both⟩ := (items fun i => i.1 = r.1 ∧ i.2 = true).mpr
        ⟨p, member, ⟨partner, shares⟩, attains, ready⟩
      exact ⟨item, List.mem_cons_of_mem _ later, both⟩

section Answer
variable (prompts : Id → List Token) (w : Waiter Token Id) (blockSize hashBlockSize : Nat)

theorem hold_answer (stored : Option (Shares Id))
    (sound : MemoSound prompts w (max blockSize hashBlockSize) (stored.getD PyDict.empty))
    (running : List (Partner Token Id)) (named : Named prompts running) :
    MemoSound prompts w (max blockSize hashBlockSize)
      ((holdForInflightPrefix w blockSize hashBlockSize stored running).1.getD PyDict.empty) ∧
    (holdForInflightPrefix w blockSize hashBlockSize stored running).2 =
      let r := TiedMaximum.scan (0, false)
        ((running.filter (weighed w (max blockSize hashBlockSize))).map
          (weighedItem w (max blockSize hashBlockSize)))
      if 0 < r.1 ∧ r.2 = false then r.1 else 0 := by
  unfold holdForInflightPrefix
  generalize max blockSize hashBlockSize = block at *
  have nothing (zero : ∀ p, alignedShare block w p = 0) :
      running.filter (weighed w block) = [] := by
    rw [List.filter_eq_nil_iff]
    intro p _ counts
    have positive := ((weighed_iff w block p).mp counts).2
    rw [zero p] at positive
    omega
  dsimp only
  split
  · rename_i grid
    refine ⟨sound, ?_⟩
    simp [nothing fun p => by simp [alignedShare, grid]]
  · split
    · rename_i prompt
      refine ⟨sound, ?_⟩
      simp [nothing fun p => share_zero_of_no_prompt block w p (Or.inl prompt)]
    · obtain ⟨kept, result⟩ := scan_running prompts w block running named
        ⟨0, false, stored.getD PyDict.empty⟩ sound
      rw [← result]
      have memo : MemoSound prompts w block ((if stored ≠ none ∨ w.acceptsAttributes = true then
          some (running.foldl (scanPartner w block) ⟨0, false, stored.getD PyDict.empty⟩).shares
          else none).getD PyDict.empty) := by
        split
        · exact kept
        · exact memo_empty_sound prompts w block
      split <;> exact ⟨memo, rfl⟩

theorem shares_after_sound (history : List (List (Partner Token Id)))
    (named : ∀ running ∈ history, Named prompts running) :
    MemoSound prompts w (max blockSize hashBlockSize)
      ((sharesAfter w blockSize hashBlockSize history).getD PyDict.empty) :=
  final_invariant (holdForInflightPrefix w blockSize hashBlockSize)
    (fun stored => MemoSound prompts w (max blockSize hashBlockSize) (stored.getD PyDict.empty))
    (Named prompts)
    (fun stored running ok sound =>
      (hold_answer prompts w blockSize hashBlockSize stored sound running ok).1)
    none history named (memo_empty_sound prompts w _)

theorem hold_after_iff (history : List (List (Partner Token Id)))
    (past : ∀ running ∈ history, Named prompts running)
    (running : List (Partner Token Id)) (named : Named prompts running) (h : Nat)
    (positive : 0 < h) :
    holdAfter w blockSize hashBlockSize history running = h ↔
      PendingShare (max blockSize hashBlockSize) w running h := by
  have answer := (hold_answer prompts w blockSize hashBlockSize _
    (shares_after_sound prompts w blockSize hashBlockSize history past) running named).2
  unfold holdAfter
  rw [answer]
  generalize max blockSize hashBlockSize = block
  generalize scanned : TiedMaximum.scan (0, false)
    ((running.filter (weighed w block)).map (weighedItem w block)) = r
  obtain ⟨above, reached, flagged⟩ := weighed_summary w block running r scanned
  dsimp only
  constructor
  · intro held
    have branch : 0 < r.1 ∧ r.2 = false := by
      by_contra otherwise
      rw [if_neg otherwise] at held
      omega
    rw [if_pos branch] at held
    subst held
    refine ⟨reached positive, above, ?_⟩
    intro p member partner equal
    by_contra published
    have ready := (flagged positive).mpr ⟨p, member, partner, equal, Int.not_lt.mp published⟩
    rw [branch.2] at ready
    cases ready
  · rintro ⟨⟨p, member, partner, equal⟩, longest, pending⟩
    have lower : h ≤ r.1 := equal ▸ above p member partner
    obtain ⟨q, there, other, attains⟩ := reached (by omega)
    have upper := longest q there other
    have same : r.1 = h := by omega
    have unpublished : r.2 = false := by
      rw [← Bool.not_eq_true, flagged (by omega)]
      rintro ⟨q, there, other, attains, published⟩
      have late := pending q there other (by omega)
      omega
    rw [if_pos ⟨by omega, unpublished⟩, same]

theorem hold_after_congr (history other : List (List (Partner Token Id)))
    (past : ∀ running ∈ history, Named prompts running)
    (otherPast : ∀ running ∈ other, Named prompts running)
    (running shuffled : List (Partner Token Id)) (order : shuffled.Perm running)
    (named : Named prompts running) :
    holdAfter w blockSize hashBlockSize other shuffled =
      holdAfter w blockSize hashBlockSize history running := by
  have renamed : Named prompts shuffled := fun p member => named p (order.mem_iff.mp member)
  have agree (h : Nat) (positive : 0 < h) :
      holdAfter w blockSize hashBlockSize other shuffled = h ↔
        holdAfter w blockSize hashBlockSize history running = h := by
    rw [hold_after_iff prompts w blockSize hashBlockSize other otherPast _ renamed h positive,
      hold_after_iff prompts w blockSize hashBlockSize history past _ named h positive]
    constructor
    · rintro ⟨⟨p, member, rest⟩, longest, pending⟩
      exact ⟨⟨p, order.mem_iff.mp member, rest⟩,
        fun q there => longest q (order.mem_iff.mpr there),
        fun q there => pending q (order.mem_iff.mpr there)⟩
    · rintro ⟨⟨p, member, rest⟩, longest, pending⟩
      exact ⟨⟨p, order.mem_iff.mpr member, rest⟩,
        fun q there => longest q (order.mem_iff.mp there),
        fun q there => pending q (order.mem_iff.mp there)⟩
  rcases Nat.eq_zero_or_pos (holdAfter w blockSize hashBlockSize history running) with zero | held
  · rcases Nat.eq_zero_or_pos (holdAfter w blockSize hashBlockSize other shuffled) with none | some
    · rw [zero, none]
    · exact ((agree _ some).mp rfl).symm
  · exact (agree _ held).mpr rfl

omit [DecidableEq Id] in
theorem pending_partner_prefilling (block : Nat) (running : List (Partner Token Id)) (h : Nat)
    (held : PendingShare block w running h) (p : Partner Token Id) (member : p ∈ running)
    (partner : IsPartner w p) (attains : alignedShare block w p = h) :
    p.computed < p.promptTokenIds.length := by
  have bound := share_le_prompt block w p
  have late := held.pending p member partner attains
  have grid : 0 < block := by
    rcases Nat.eq_zero_or_pos block with zero | grid
    · subst zero
      simp only [alignedShare, Nat.mul_zero] at attains
      omega
    · exact grid
  by_contra finished
  have reach : (h : Int) ≤ p.computed := by omega
  have floor : (h : Int) / block * block ≤ p.computed / block * block :=
    Int.mul_le_mul_of_nonneg_right (Int.ediv_le_ediv (by omega) reach) (by omega)
  have aligned : (h : Int) / block * block = h := by
    rw [← attains]
    unfold alignedShare
    rw [Int.natCast_mul, Int.mul_ediv_cancel _ (by omega)]
  omega

/-- The hold is exact over every history and order, and only an unfinished prefill holds. -/
theorem inflight_hold_exact (history : List (List (Partner Token Id)))
    (past : ∀ running ∈ history, Named prompts running)
    (running : List (Partner Token Id)) (named : Named prompts running) :
    (∀ h, 0 < h → (holdAfter w blockSize hashBlockSize history running = h ↔
      PendingShare (max blockSize hashBlockSize) w running h)) ∧
    (∀ other shuffled, (∀ running ∈ other, Named prompts running) → shuffled.Perm running →
      holdAfter w blockSize hashBlockSize other shuffled =
        holdAfter w blockSize hashBlockSize history running) ∧
    (∀ h, holdAfter w blockSize hashBlockSize history running = h → 0 < h →
      ∀ p ∈ running, IsPartner w p → alignedShare (max blockSize hashBlockSize) w p = h →
        p.computed < p.promptTokenIds.length) := by
  refine ⟨?_, ?_, ?_⟩
  · intro h positive
    exact hold_after_iff prompts w blockSize hashBlockSize history past running named h positive
  · intro other shuffled otherPast order
    exact hold_after_congr prompts w blockSize hashBlockSize history other past otherPast
      running shuffled order named
  · intro h held positive p member partner attains
    have pending := (hold_after_iff prompts w blockSize hashBlockSize history past running named
      h positive).mp held
    exact pending_partner_prefilling w _ running h pending p member partner attains
end Answer

def sampleWaiter : Waiter Nat Nat := ⟨0, some 0, [1, 2, 3, 4, 9], true⟩

def samplePartner (computed : Int) : Partner Nat Nat :=
  ⟨1, some 1, [1, 2, 3, 4, 5, 6], some computed⟩

/-- Two pages are shared, one is published, and the memo comes from an earlier call. -/
theorem inflight_hold_exact_two_pages :
    holdAfter sampleWaiter 2 1 [[samplePartner 0]] [samplePartner 3] = 4 ∧
      PendingShare 2 sampleWaiter [samplePartner 3] 4 := by
  have held : holdAfter sampleWaiter 2 1 [[samplePartner 0]] [samplePartner 3] = 4 := by decide
  refine ⟨held, ?_⟩
  have exactly := inflight_hold_exact (fun _ => [1, 2, 3, 4, 5, 6]) sampleWaiter 2 1
    [[samplePartner 0]] (by simp [Named, samplePartner]) [samplePartner 3]
    (by simp [Named, samplePartner])
  exact (exactly.1 4 (by decide)).mp held

example : holdAfter sampleWaiter 2 1 [[samplePartner 0]] [samplePartner 4] = 0 := by decide

end PrefixAdmit
