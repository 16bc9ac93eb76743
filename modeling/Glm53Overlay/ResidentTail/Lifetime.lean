import Glm53Overlay.ResidentTail.Defer

/-!
A request's whole life under the resident-tail helpers, and one step over a whole running
list. The stamp always speaks about the latest fresh admission; the counter is the number of
deferrals granted; and a step never defers everyone for a tail that is itself running.
-/
namespace ResidentTail
variable {Hash : Type}

/-- What happens to a request: an admission with a cache hit, a new number of computed tokens
    (a chunk, or 0 at a preemption), a deferral call under some scheduler. -/
inductive Event (Hash : Type) where
  | note (hit : Option Int)
  | computed (tokens : Attr)
  | defer (scheduler : Scheduler Hash)

/-- A request with the hit of its latest fresh admission and the deferrals it was granted. -/
structure Life (Hash : Type) where
  request : Request Hash
  fresh : Option (Option Int)
  granted : Nat

def lifeStep (env : Env) (l : Life Hash) : Event Hash → Life Hash
  | .note hit =>
    { l with
      request := noteResidentTail env l.request hit
      fresh := if l.request.numComputedTokens.readOrZero = some 0 then some hit else l.fresh }
  | .computed tokens => { l with request := { l.request with numComputedTokens := tokens } }
  | .defer s =>
    let call := deferColdForResidentTail env s l.request
    { l with request := call.2, granted := l.granted + if call.1 then 1 else 0 }

def newLife (request : Request Hash) : Life Hash :=
  ⟨{ request with residentTail := none, residentTailDefers := none }, none, 0⟩

def lifeAfter (env : Env) (request : Request Hash) (events : List (Event Hash)) : Life Hash :=
  events.foldl (lifeStep env) (newLife request)

theorem resident_tail_iff (computed prompt : Option Int) (page tail : Int) :
    isResidentTail computed prompt page tail = true ↔ 0 < page ∧ 0 < tail ∧
      ∃ c p, computed = some c ∧ prompt = some p ∧ page ≤ c ∧ 0 < p - c ∧ p - c ≤ tail := by
  cases computed with
  | none => simp [isResidentTail]
  | some c =>
    cases prompt with
    | none => simp [isResidentTail]
    | some p =>
      by_cases off : page ≤ 0 ∨ tail ≤ 0
      · simp only [isResidentTail, off, ↓reduceIte, Bool.false_eq_true, false_iff]
        omega
      · simp only [isResidentTail, off, ↓reduceIte, decide_eq_true_eq]
        constructor
        · intro fits
          exact ⟨by omega, by omega, c, p, rfl, rfl, fits⟩
        · rintro ⟨_, _, _, _, same, also, fits⟩
          rw [← Option.some.inj same, ← Option.some.inj also] at fits
          exact fits

/-- Why a deferral is granted: a cold prefill of more than 64 tokens below its cap, and a tail
    that is running or that waits with a slot free. -/
structure Grounds (env : Env) (s : Scheduler Hash) (request : Request Hash) : Prop where
  closed : tailStillOpen env request request.numComputedTokens.read = false
  long : ∃ prompt computed, request.numPromptTokens.read = some prompt ∧
    request.numComputedTokens.read = some computed ∧ 64 < prompt - computed
  below : request.residentTailDefers.getD 0 < residentTailSteps env
  tail : (∃ other ∈ s.running, other.ref ≠ request.ref ∧
      tailStillOpen env other other.numComputedTokens.read = true) ∨
    ∃ maxRunning, s.maxNumRunningReqs.read = some maxRunning ∧
      (s.running.length : Int) < maxRunning ∧
      hasWaitingResidentTail s (residentTailPage env) (residentTailTokens env) = true

theorem should_defer_cold_tail {left numRunning maxRunning deferCount stepCap : Int}
    {isTail tailWaiting tailRunning : Bool}
    (defers : shouldDeferCold left isTail tailWaiting tailRunning numRunning maxRunning deferCount
      stepCap = true) : tailRunning = true ∨ tailWaiting = true := by
  unfold shouldDeferCold at defers
  split at defers
  · exact absurd defers Bool.false_ne_true
  split at defers
  · rename_i running
    exact Or.inl running
  split at defers
  · rename_i waiting
    exact Or.inr waiting.1
  · exact absurd defers Bool.false_ne_true

theorem defer_cases (env : Env) (s : Scheduler Hash) (request : Request Hash) :
    deferColdForResidentTail env s request = (false, request) ∨
      Grounds env s request ∧ deferColdForResidentTail env s request =
        (true, { request with
          residentTailDefers := some (request.residentTailDefers.getD 0 + 1) }) := by
  unfold deferColdForResidentTail
  cases promptRead : request.numPromptTokens.read with
  | none => exact Or.inl rfl
  | some prompt =>
    cases computedRead : request.numComputedTokens.read with
    | none => exact Or.inl rfl
    | some computed =>
      cases limitRead : s.maxNumRunningReqs.read with
      | none => exact Or.inl rfl
      | some maxRunning =>
        dsimp only
        split
        · exact Or.inl rfl
        rename_i eligible
        split
        case isFalse => exact Or.inl rfl
        rename_i defers
        split
        case isFalse => exact Or.inl rfl
        right
        simp only [not_or, Bool.not_eq_true] at eligible
        refine ⟨⟨?_, ⟨prompt, computed, promptRead, computedRead, by omega⟩, by omega, ?_⟩, rfl⟩
        · rw [computedRead]
          exact eligible.1
        · rcases should_defer_cold_tail defers with running | waiting
          · obtain ⟨other, member, open'⟩ := List.any_eq_true.mp running
            simp only [Bool.and_eq_true, bne_iff_ne, ne_eq] at open'
            exact Or.inl ⟨other, member, open'.1.1, open'.2⟩
          · simp only [Bool.and_eq_true, decide_eq_true_eq] at waiting
            exact Or.inr ⟨maxRunning, limitRead, waiting.1.2, waiting.2⟩

structure LifeInv (env : Env) (prompt : Attr) (l : Life Hash) : Prop where
  same : l.request.numPromptTokens = prompt
  stamp : l.request.residentTail = some 1 → l.request.writable = true ∧ ∃ hit,
    l.fresh = some hit ∧
      isResidentTail hit prompt.read (residentTailPage env) (residentTailTokens env) = true
  counted : l.request.residentTailDefers.getD 0 = l.granted
  capped : (l.granted : Int) ≤ max 0 (residentTailSteps env)

theorem new_life_inv (env : Env) (request : Request Hash) :
    LifeInv env request.numPromptTokens (newLife request) where
  same := rfl
  stamp := by simp [newLife]
  counted := rfl
  capped := by
    simp only [newLife]
    omega

theorem note_inv {env : Env} {prompt : Attr} {l : Life Hash} (inv : LifeInv env prompt l)
    (hit : Option Int) : LifeInv env prompt (lifeStep env l (.note hit)) := by
  have base := inv.same
  dsimp only [lifeStep]
  unfold noteResidentTail
  split
  · rename_i unreadable
    exact ⟨inv.same, by simpa [unreadable] using inv.stamp, inv.counted, inv.capped⟩
  rename_i already read
  by_cases started : already ≠ 0
  · rw [if_pos started]
    exact ⟨inv.same, by simpa [read, started] using inv.stamp, inv.counted, inv.capped⟩
  obtain rfl : already = 0 := not_not.mp started
  rw [if_neg started, read, if_pos rfl]
  cases promptRead : l.request.numPromptTokens.read with
  | none =>
    refine ⟨inv.same, ?_, inv.counted, inv.capped⟩
    intro stamped
    obtain ⟨_, _, _, qualified⟩ := inv.stamp stamped
    obtain ⟨_, _, _, _, _, missing, _⟩ := (resident_tail_iff _ _ _ _).mp qualified
    rw [← base, promptRead] at missing
    exact absurd missing (by simp)
  | some p =>
    by_cases writable : l.request.writable = true
    · dsimp only
      rw [if_pos writable]
      refine ⟨inv.same, ?_, inv.counted, inv.capped⟩
      intro stamped
      refine ⟨writable, hit, rfl, ?_⟩
      by_contra fails
      rw [← base, promptRead, Bool.not_eq_true] at fails
      simp [fails] at stamped
    · dsimp only
      rw [if_neg writable]
      refine ⟨inv.same, ?_, inv.counted, inv.capped⟩
      intro stamped
      exact absurd (inv.stamp stamped).1 writable

theorem life_step_inv {env : Env} {prompt : Attr} {l : Life Hash} (inv : LifeInv env prompt l)
    (e : Event Hash) : LifeInv env prompt (lifeStep env l e) := by
  cases e with
  | note hit => exact note_inv inv hit
  | computed tokens => exact ⟨inv.same, inv.stamp, inv.counted, inv.capped⟩
  | defer s =>
    dsimp only [lifeStep]
    rcases defer_cases env s l.request with refused | ⟨grounds, granted⟩
    · rw [refused]
      exact ⟨inv.same, inv.stamp, inv.counted, inv.capped⟩
    · have counted := inv.counted
      have below := grounds.below
      rw [granted]
      refine ⟨inv.same, inv.stamp, ?_, ?_⟩
      · simp only [Option.getD_some, ↓reduceIte, counted]
        rfl
      · simp only [↓reduceIte]
        rw [counted] at below
        omega

theorem life_inv (env : Env) (request : Request Hash) (events : List (Event Hash)) :
    LifeInv env request.numPromptTokens (lifeAfter env request events) := by
  have run : ∀ l : Life Hash, LifeInv env request.numPromptTokens l →
      LifeInv env request.numPromptTokens (events.foldl (lifeStep env) l) := by
    induction events with
    | nil => exact fun l inv => inv
    | cons e rest ih => exact fun l inv => ih _ (life_step_inv inv e)
  exact run _ (new_life_inv env request)

theorem counter_step (env : Env) (l : Life Hash) (e : Event Hash)
    (moved : (lifeStep env l e).request.residentTailDefers ≠ l.request.residentTailDefers) :
    ∃ s, e = .defer s ∧ (deferColdForResidentTail env s l.request).1 = true := by
  cases e with
  | note hit =>
    exfalso
    apply moved
    dsimp only [lifeStep]
    unfold noteResidentTail
    split
    · rfl
    split
    · rfl
    split
    · rfl
    split <;> rfl
  | computed tokens => exact absurd rfl moved
  | defer s =>
    refine ⟨s, rfl, ?_⟩
    rcases defer_cases env s l.request with refused | ⟨_, granted⟩
    · dsimp only [lifeStep] at moved
      rw [refused] at moved
      exact absurd rfl moved
    · rw [granted]

end ResidentTail
