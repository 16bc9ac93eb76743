import Glm53Overlay.ResidentTail.Lifetime

/-!
When a tail holds the step back. The scan looks at four waiters, and a step that defers every
running request does so for one of them.
-/
namespace ResidentTail
variable {Hash : Type}

/-- A waiter that a deferral may be for: not blocked by the prefix hold, and a resident tail. -/
def WaitingTail (env : Env) (s : Scheduler Hash) (waiter : Request Hash) : Prop :=
  ∃ blockSize hashBlockSize find, s.blockSize.read = some blockSize ∧
    s.hashBlockSize.read = some hashBlockSize ∧ s.findLongestCacheHit = some find ∧
    waiterIsBlocked s blockSize hashBlockSize waiter = false ∧
    isResidentTail (some (waiterCacheHit waiter find)) waiter.numPromptTokens.read
      (residentTailPage env) (residentTailTokens env) = true

section Scan
variable {s : Scheduler Hash} {find : List Hash → Int → Option Int}
  {blockSize hashBlockSize page tail : Int}

theorem scan_found (queue : List (Request Hash)) : ∀ scanned : Nat,
    scanQueue s find blockSize hashBlockSize page tail scanned queue = .inl true →
    ∃ waiter ∈ queue.take (4 - scanned),
      waiterIsBlocked s blockSize hashBlockSize waiter = false ∧
      isResidentTail (some (waiterCacheHit waiter find)) waiter.numPromptTokens.read page tail
        = true := by
  induction queue with
  | nil =>
    intro scanned found
    simp [scanQueue] at found
  | cons waiter rest ih =>
    intro scanned found
    unfold scanQueue at found
    by_cases full : 4 ≤ scanned
    · simp [full] at found
    have room : 4 - scanned = 4 - (scanned + 1) + 1 := by omega
    have later : scanQueue s find blockSize hashBlockSize page tail (scanned + 1) rest = .inl true →
        ∃ w ∈ (waiter :: rest).take (4 - scanned),
          waiterIsBlocked s blockSize hashBlockSize w = false ∧
          isResidentTail (some (waiterCacheHit w find)) w.numPromptTokens.read page tail
            = true := by
      intro goes
      obtain ⟨w, member, fits⟩ := ih _ goes
      refine ⟨w, ?_, fits⟩
      rw [room, List.take_succ_cons]
      exact List.mem_cons_of_mem _ member
    rw [if_neg full] at found
    by_cases blocked : waiterIsBlocked s blockSize hashBlockSize waiter = true
    · rw [if_pos blocked] at found
      exact later found
    rw [if_neg blocked] at found
    by_cases fits : isResidentTail (some (waiterCacheHit waiter find))
        waiter.numPromptTokens.read page tail = true
    · refine ⟨waiter, ?_, by simpa using blocked, fits⟩
      rw [room, List.take_succ_cons]
      exact List.mem_cons_self
    · rw [if_neg fits] at found
      exact later found

theorem scan_counted (queue : List (Request Hash)) : ∀ scanned counted : Nat,
    scanQueue s find blockSize hashBlockSize page tail scanned queue = .inr counted →
    counted = scanned + queue.length := by
  induction queue with
  | nil =>
    intro scanned counted goes
    exact (Sum.inr.inj goes).symm
  | cons waiter rest ih =>
    intro scanned counted goes
    unfold scanQueue at goes
    have later : scanQueue s find blockSize hashBlockSize page tail (scanned + 1) rest =
        .inr counted → counted = scanned + (waiter :: rest).length := by
      intro goes
      rw [ih _ _ goes, List.length_cons]
      omega
    split at goes
    · exact absurd goes (by simp)
    split at goes
    · exact later goes
    split at goes
    · exact absurd goes (by simp)
    · exact later goes

end Scan

theorem waiting_tail_of_scan {env : Env} {s : Scheduler Hash}
    (found : hasWaitingResidentTail s (residentTailPage env) (residentTailTokens env) = true) :
    ∃ waiter ∈ (s.waiting.getD [] ++ s.skippedWaiting.getD []).take 4,
      WaitingTail env s waiter := by
  unfold hasWaitingResidentTail at found
  split at found
  case h_2 => exact absurd found Bool.false_ne_true
  rename_i blockSize hashBlockSize find blockRead hashRead findRead
  rw [List.take_append]
  split at found
  · rename_i verdict first
    rw [found] at first
    obtain ⟨w, member, clear, fits⟩ := scan_found _ _ first
    exact ⟨w, List.mem_append_left _ member, blockSize, hashBlockSize, find, blockRead, hashRead,
      findRead, clear, fits⟩
  · rename_i scanned first
    split at found
    · rename_i verdict second
      rw [found] at second
      obtain ⟨w, member, clear, fits⟩ := scan_found _ _ second
      rw [scan_counted _ _ _ first, Nat.zero_add] at member
      exact ⟨w, List.mem_append_right _ member, blockSize, hashBlockSize, find, blockRead,
        hashRead, findRead, clear, fits⟩
    · exact absurd found Bool.false_ne_true

theorem closed_of_granted {env : Env} {s : Scheduler Hash} {request : Request Hash}
    (granted : (deferColdForResidentTail env s request).1 = true) :
    Grounds env s request := by
  rcases defer_cases env s request with refused | ⟨grounds, _⟩
  · rw [refused] at granted
    exact absurd granted Bool.false_ne_true
  · exact grounds

theorem all_closed {env : Env} {s : Scheduler Hash} (left : List (Request Hash)) :
    ∀ done, (∀ call ∈ deferCalls env s done left, call = true) →
      ∀ request ∈ left, tailStillOpen env request request.numComputedTokens.read = false := by
  induction left with
  | nil =>
    intro done all request member
    exact absurd member (by simp)
  | cons first rest ih =>
    intro done all request member
    unfold deferCalls at all
    rcases List.mem_cons.mp member with rfl | later
    · exact (closed_of_granted (all _ List.mem_cons_self)).closed
    · exact ih _ (fun call inside => all call (List.mem_cons_of_mem _ inside)) request later

theorem all_deferred {env : Env} {s : Scheduler Hash} (busy : s.running ≠ [])
    (all : ∀ call ∈ deferCalls env s [] s.running, call = true) :
    (∃ maxRunning, s.maxNumRunningReqs.read = some maxRunning ∧
      (s.running.length : Int) < maxRunning) ∧
    ∃ waiter ∈ (s.waiting.getD [] ++ s.skippedWaiting.getD []).take 4,
      WaitingTail env s waiter := by
  have closed := all_closed s.running [] all
  obtain ⟨first, rest, shape⟩ := List.exists_cons_of_ne_nil busy
  have granted : (deferColdForResidentTail env s first).1 = true := by
    have call := all
    rw [shape] at call
    unfold deferCalls at call
    have head := call _ List.mem_cons_self
    rw [List.nil_append, ← shape] at head
    exact head
  rcases (closed_of_granted granted).tail with ⟨other, member, _, opens⟩ | waiting
  · rw [closed other member] at opens
    exact absurd opens Bool.false_ne_true
  · obtain ⟨maxRunning, read, free, found⟩ := waiting
    exact ⟨⟨maxRunning, read, free⟩, waiting_tail_of_scan found⟩

theorem limit_bounds (raw : Option String) {default lo hi : Int} (least : lo ≤ default)
    (most : default ≤ hi) :
    lo ≤ residentTailLimit raw default lo hi ∧ residentTailLimit raw default lo hi ≤ hi := by
  unfold residentTailLimit
  split
  · exact ⟨least, most⟩
  split
  · exact ⟨least, most⟩
  split
  · exact ⟨least, most⟩
  · omega

theorem LifeInv.fresh_hit {env : Env} {prompt : Attr} {l : Life Hash} (inv : LifeInv env prompt l)
    {c : Option Int} (opens : tailStillOpen env l.request c = true) :
    ∃ hit p, l.fresh = some (some hit) ∧ prompt.read = some p ∧
      residentTailPage env ≤ hit ∧ 0 < p - hit ∧ p - hit ≤ residentTailTokens env := by
  have stamped : l.request.residentTail = some 1 := by
    unfold tailStillOpen at opens
    split at opens
    · exact absurd opens Bool.false_ne_true
    rename_i one
    cases value : l.request.residentTail with
    | none => simp [value] at one
    | some v => simpa [value] using one
  obtain ⟨_, hit, fresh, qualified⟩ := inv.stamp stamped
  obtain ⟨_, _, h, p, rfl, read, fits⟩ := (resident_tail_iff _ _ _ _).mp qualified
  exact ⟨h, p, fresh, read, fits⟩

/-- Over a request's whole life an open tail speaks about its latest fresh admission, the
    deferrals stay within the cap and alone move the counter, and none is granted to an open
    tail or to the last 64 tokens. A step that defers everyone does so for a waiting tail that
    has a slot. -/
theorem resident_tail_sound (env : Env) (request : Request Hash) (events : List (Event Hash))
    (s : Scheduler Hash) :
    let life := lifeAfter env request events
    (∀ c, tailStillOpen env life.request c = true →
      ∃ hit p, life.fresh = some (some hit) ∧ request.numPromptTokens.read = some p ∧
        residentTailPage env ≤ hit ∧ 0 < p - hit ∧ p - hit ≤ residentTailTokens env) ∧
    (life.granted : Int) ≤ residentTailSteps env ∧
    (∀ e, (lifeStep env life e).request.residentTailDefers ≠ life.request.residentTailDefers →
      ∃ s, e = .defer s ∧ (deferColdForResidentTail env s life.request).1 = true) ∧
    ((deferColdForResidentTail env s life.request).1 = true →
      tailStillOpen env life.request life.request.numComputedTokens.read = false ∧
      ∃ p c, life.request.numPromptTokens.read = some p ∧
        life.request.numComputedTokens.read = some c ∧ 64 < p - c) ∧
    (s.running ≠ [] → (∀ call ∈ deferCalls env s [] s.running, call = true) →
      (∃ maxRunning, s.maxNumRunningReqs.read = some maxRunning ∧
        (s.running.length : Int) < maxRunning) ∧
      ∃ waiter ∈ (s.waiting.getD [] ++ s.skippedWaiting.getD []).take 4,
        WaitingTail env s waiter) := by
  have inv := life_inv env request events
  refine ⟨?stamp, ?cap, ?counter, ?refused, all_deferred⟩
  case stamp =>
    intro c opens
    exact inv.fresh_hit opens
  case cap =>
    have positive : 1 ≤ residentTailSteps env :=
      (limit_bounds env.steps (by omega) (by omega)).1
    have capped := inv.capped
    omega
  case counter =>
    intro e moved
    exact counter_step env _ e moved
  case refused =>
    intro granted
    have grounds := closed_of_granted granted
    exact ⟨grounds.closed, grounds.long⟩

section Sample

/-- Two pages cached of a prompt with a short remainder: the tail that waits. -/
def sampleWaiter : Request Nat :=
  ⟨1, .int 8000, .int 0, .int 8000, [10, 11], none, none, true⟩

def sampleCold : Request Nat :=
  ⟨0, .int 50000, .int 4096, .int 50000, [20], none, none, true⟩

def sampleScheduler : Scheduler Nat where
  running := [sampleCold]
  waiting := some [sampleWaiter]
  skippedWaiting := none
  maxNumRunningReqs := .int 2
  blockSize := .int 3584
  hashBlockSize := .int 64
  findLongestCacheHit := some fun hashes limit => some (min (3584 * hashes.length) limit)
  holdForInflightPrefix := none

theorem resident_tail_sound_sample :
    (∃ waiter ∈ [sampleWaiter].take 4, WaitingTail ⟨none, none, none⟩ sampleScheduler waiter) ∧
    tailStillOpen ⟨none, none, none⟩
      (lifeAfter ⟨none, none, none⟩ sampleWaiter [.note (some 7168)]).request (some 7168) = true ∧
    ∃ hit p, some (some (7168 : Int)) = some (some hit) ∧ some (8000 : Int) = some p ∧
      3584 ≤ hit ∧ 0 < p - hit ∧ p - hit ≤ 3584 := by
  have sound := resident_tail_sound ⟨none, none, none⟩ sampleWaiter [.note (some 7168)]
    sampleScheduler
  have opens : tailStillOpen ⟨none, none, none⟩
      (lifeAfter ⟨none, none, none⟩ sampleWaiter [.note (some 7168)]).request (some 7168)
      = true := by decide
  exact ⟨(sound.2.2.2.2 (by decide) (by decide)).2, opens, sound.1 _ opens⟩

end Sample

end ResidentTail
