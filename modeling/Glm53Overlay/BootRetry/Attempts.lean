import Glm53Overlay.Library.ShellText

/-!
The retry loop of the production start. Each attempt cleans up what it failed to start before it
decides anything, and the bound is a machine integer whatever the setting says.
-/
namespace BootRetry
open ShellText

inductive Call where
  | start
  | stop
  | preflight
  deriving DecidableEq

/-- Exit statuses by attempt; `reported` is the preflight that is run for its output. -/
structure Outcomes where
  start : Nat → UInt8
  stop : Nat → UInt8
  preflight : Nat → UInt8
  reported : Nat → UInt8

structure Run where
  calls : List (Call × UInt8)
  exit : UInt8
  deriving DecidableEq

def defaultAttempts : Nat := 3

/-- `MAX_BOOT_ATTEMPTS` after its validation; `none` is unset. -/
def bootBound (setting : Option String) : Nat :=
  let text := (setting.getD "").toList
  if isNumeral text then
    match operand text with
    | some n => if 1 ≤ n then n else defaultAttempts
    | none => defaultAttempts
  else defaultAttempts

/-- `while :`, with the attempts made so far; `none` when the fuel ends before the loop does. -/
def retryLoop (o : Outcomes) (bound : Nat) : Nat → Nat → Option Run
  | 0, _ => none
  | fuel + 1, before =>
    let attempt := before + 1
    let rc := o.start attempt
    if rc = 0 then some ⟨[(.start, rc)], 0⟩
    else
      let failed := [(.start, rc), (.stop, o.stop attempt)]
      if bound ≤ attempt then some ⟨failed, rc⟩
      else
        let check := o.preflight attempt
        if check ≠ 0 then
          some ⟨failed ++ [(.preflight, check), (.preflight, o.reported attempt)], rc⟩
        else
          (retryLoop o bound fuel attempt).map fun run =>
            ⟨failed ++ (.preflight, check) :: run.calls, run.exit⟩

def startCodes (calls : List (Call × UInt8)) : List UInt8 :=
  (calls.filter fun c => c.1 = .start).map Prod.snd

/-- The attempt the call at position `i` belongs to, `before` attempts being over. -/
def attemptAt (before : Nat) (calls : List (Call × UInt8)) (i : Nat) : Nat :=
  before + (startCodes (calls.take (i + 1))).length

/-- A run of at most `limit` attempts after the first `before`: what is recorded is what the
    commands returned, and it ends on a success, on the bound or on a failing preflight. -/
structure Disciplined (o : Outcomes) (before limit : Nat) (run : Run) : Prop where
  bounded : (startCodes run.calls).length ≤ limit
  started : ∀ (i : Nat) (c : UInt8), run.calls[i]? = some (.start, c) →
    c = o.start (attemptAt before run.calls i)
  stopped : ∀ (i : Nat) (c : UInt8), run.calls[i]? = some (.stop, c) →
    c = o.stop (attemptAt before run.calls i)
  checked : ∀ (i : Nat) (s c : UInt8), run.calls[i]? = some (.stop, s) →
    run.calls[i + 1]? = some (.preflight, c) → c = o.preflight (attemptAt before run.calls i)
  exits : (startCodes run.calls).getLast? = some run.exit
  ends : run.exit = 0 ∨ (startCodes run.calls).length = limit ∨
    o.preflight (before + (startCodes run.calls).length) ≠ 0
  cleaned : ∀ (i : Nat) (c : UInt8), run.calls[i]? = some (.start, c) → c ≠ 0 →
    ∃ s, run.calls[i + 1]? = some (.stop, s)
  guarded : ∀ (i : Nat) (c : UInt8), run.calls[i]? = some (.start, c) → i = 0 ∨
    ∃ j s, i = j + 2 ∧ run.calls[j]? = some (.stop, s) ∧ run.calls[j + 1]? = some (.preflight, 0)
  aborts : ∀ (i : Nat) (c : UInt8), run.calls[i]? = some (.preflight, c) → c ≠ 0 →
    ∀ (j : Nat) (d : UInt8), i < j → run.calls[j]? ≠ some (.start, d)

theorem disciplined_success {o : Outcomes} {before limit : Nat} (room : 1 ≤ limit)
    (success : o.start (before + 1) = 0) : Disciplined o before limit ⟨[(.start, 0)], 0⟩ := by
  have first : ∀ (i : Nat) (call : Call) (c : UInt8),
      [(Call.start, (0 : UInt8))][i]? = some (call, c) → i = 0 ∧ call = .start ∧ c = 0 := by
    intro i call c here
    cases i <;> simp_all
  constructor
  · exact room
  · intro i c here
    obtain ⟨rfl, -, rfl⟩ := first i _ c here
    exact success.symm
  · intro i c here
    obtain ⟨-, impossible, -⟩ := first i _ c here
    cases impossible
  · intro i s c here
    obtain ⟨-, impossible, -⟩ := first i _ s here
    cases impossible
  · rfl
  · exact Or.inl rfl
  · intro i c here failed
    obtain ⟨-, -, rfl⟩ := first i _ c here
    exact absurd rfl failed
  · intro i c here
    exact Or.inl (first i _ c here).1
  · intro i c here
    obtain ⟨-, impossible, -⟩ := first i _ c here
    cases impossible

theorem disciplined_exhausted (o : Outcomes) (before : Nat) :
    Disciplined o before 1 ⟨[(.start, o.start (before + 1)), (.stop, o.stop (before + 1))],
      o.start (before + 1)⟩ := by
  constructor
  · exact Nat.le_refl 1
  · intro i c here
    match i with
    | 0 => exact (congrArg Prod.snd (Option.some.inj here)).symm
    | 1 => simp at here
    | i + 2 => simp at here
  · intro i c here
    match i with
    | 0 => simp at here
    | 1 => exact (congrArg Prod.snd (Option.some.inj here)).symm
    | i + 2 => simp at here
  · intro i s c _ next
    match i with
    | 0 => simp at next
    | i + 1 => simp at next
  · rfl
  · exact Or.inr (Or.inl rfl)
  · intro i c here _
    match i with
    | 0 => exact ⟨_, rfl⟩
    | 1 => simp at here
    | i + 2 => simp at here
  · intro i c here
    match i with
    | 0 => exact Or.inl rfl
    | 1 => simp at here
    | i + 2 => simp at here
  · intro i c here
    match i with
    | 0 => simp at here
    | 1 => simp at here
    | i + 2 => simp at here

theorem disciplined_abort {o : Outcomes} {before limit : Nat} (room : 1 ≤ limit)
    (failing : o.preflight (before + 1) ≠ 0) :
    Disciplined o before limit ⟨[(.start, o.start (before + 1)), (.stop, o.stop (before + 1)),
      (.preflight, o.preflight (before + 1)), (.preflight, o.reported (before + 1))],
      o.start (before + 1)⟩ := by
  have only : ∀ (j : Nat) (d : UInt8), [(Call.start, o.start (before + 1)),
      (.stop, o.stop (before + 1)), (.preflight, o.preflight (before + 1)),
      (.preflight, o.reported (before + 1))][j]? = some (.start, d) →
        j = 0 ∧ d = o.start (before + 1) := by
    intro j d here
    match j with
    | 0 => exact ⟨rfl, (congrArg Prod.snd (Option.some.inj here)).symm⟩
    | 1 => simp at here
    | 2 => simp at here
    | 3 => simp at here
    | j + 4 => simp at here
  have cleanup : ∀ (j : Nat) (d : UInt8), [(Call.start, o.start (before + 1)),
      (.stop, o.stop (before + 1)), (.preflight, o.preflight (before + 1)),
      (.preflight, o.reported (before + 1))][j]? = some (.stop, d) →
        j = 1 ∧ d = o.stop (before + 1) := by
    intro j d here
    match j with
    | 0 => simp at here
    | 1 => exact ⟨rfl, (congrArg Prod.snd (Option.some.inj here)).symm⟩
    | 2 => simp at here
    | 3 => simp at here
    | j + 4 => simp at here
  constructor
  · exact room
  · intro i c here
    obtain ⟨rfl, rfl⟩ := only i c here
    rfl
  · intro i c here
    obtain ⟨rfl, rfl⟩ := cleanup i c here
    rfl
  · intro i s c here next
    obtain ⟨rfl, -⟩ := cleanup i s here
    exact (congrArg Prod.snd (Option.some.inj next)).symm
  · rfl
  · exact Or.inr (Or.inr failing)
  · intro i c here _
    obtain ⟨rfl, -⟩ := only i c here
    exact ⟨_, rfl⟩
  · intro i c here
    exact Or.inl (only i c here).1
  · intro i c _ _ j d later here
    have first := (only j d here).1
    omega

theorem disciplined_retry {o : Outcomes} {before limit : Nat} {run : Run}
    (passes : o.preflight (before + 1) = 0) (later : Disciplined o (before + 1) limit run) :
    Disciplined o before (limit + 1)
      ⟨[(.start, o.start (before + 1)), (.stop, o.stop (before + 1))] ++
        (.preflight, 0) :: run.calls, run.exit⟩ := by
  obtain ⟨bounded, started, stopped, checked, exits, ends, cleaned, guarded, aborts⟩ := later
  have codes : startCodes ([(.start, o.start (before + 1)), (.stop, o.stop (before + 1))] ++
      (.preflight, 0) :: run.calls) = o.start (before + 1) :: startCodes run.calls := rfl
  have shifted : ∀ i : Nat, attemptAt before ([(.start, o.start (before + 1)),
      (.stop, o.stop (before + 1))] ++ (.preflight, 0) :: run.calls) (i + 3) =
        attemptAt (before + 1) run.calls i := by
    intro i
    change before + ((startCodes (run.calls.take (i + 1))).length + 1) = _
    unfold attemptAt
    omega
  constructor
  · rw [codes, List.length_cons]
    omega
  · intro i c here
    match i with
    | 0 => exact (congrArg Prod.snd (Option.some.inj here)).symm
    | 1 => simp at here
    | 2 => simp at here
    | i + 3 =>
      rw [shifted]
      exact started i c here
  · intro i c here
    match i with
    | 0 => simp at here
    | 1 => exact (congrArg Prod.snd (Option.some.inj here)).symm
    | 2 => simp at here
    | i + 3 =>
      rw [shifted]
      exact stopped i c here
  · intro i s c here next
    match i with
    | 0 => simp at here
    | 1 => exact (congrArg Prod.snd (Option.some.inj next)).symm.trans passes.symm
    | 2 => simp at here
    | i + 3 =>
      rw [shifted]
      exact checked i s c here next
  · rw [codes, List.getLast?_cons, exits]
    rfl
  · rw [codes, List.length_cons]
    rcases ends with success | full | failing
    · exact Or.inl success
    · exact Or.inr (Or.inl (congrArg (· + 1) full))
    · refine Or.inr (Or.inr ?_)
      rwa [← Nat.add_assoc, Nat.add_right_comm]
  · intro i c here failed
    match i with
    | 0 => exact ⟨_, rfl⟩
    | 1 => simp at here
    | 2 => simp at here
    | i + 3 => exact cleaned i c here failed
  · intro i c here
    match i with
    | 0 => exact Or.inl rfl
    | 1 => simp at here
    | 2 => simp at here
    | i + 3 =>
      right
      rcases guarded i c here with rfl | ⟨j, t, rfl, cleanup, fine⟩
      · exact ⟨1, _, rfl, rfl, rfl⟩
      · exact ⟨j + 3, t, rfl, cleanup, fine⟩
  · intro i c here failed j d order again
    match i with
    | 0 => simp at here
    | 1 => simp at here
    | 2 =>
      cases here
      exact failed rfl
    | i + 3 =>
      obtain ⟨k, rfl⟩ : ∃ k, j = k + 3 := ⟨j - 3, by omega⟩
      exact aborts i c here failed k d (by omega) again

theorem retryLoop_ends (o : Outcomes) (bound : Nat) (left : Nat) : ∀ before : Nat,
    before + (left + 1) = bound → ∃ run, Disciplined o before (left + 1) run ∧
      ∀ fuel, left + 1 ≤ fuel → retryLoop o bound fuel before = some run := by
  induction left with
  | zero =>
    intro before total
    by_cases success : o.start (before + 1) = 0
    · refine ⟨_, disciplined_success (by omega) success, fun fuel enough => ?_⟩
      obtain ⟨fuel, rfl⟩ : ∃ n, fuel = n + 1 := ⟨fuel - 1, by omega⟩
      simp [retryLoop, success]
    · refine ⟨_, disciplined_exhausted o before, fun fuel enough => ?_⟩
      obtain ⟨fuel, rfl⟩ : ∃ n, fuel = n + 1 := ⟨fuel - 1, by omega⟩
      have last : bound ≤ before + 1 := by omega
      simp [retryLoop, success, last]
  | succ left ih =>
    intro before total
    by_cases success : o.start (before + 1) = 0
    · refine ⟨_, disciplined_success (by omega) success, fun fuel enough => ?_⟩
      obtain ⟨fuel, rfl⟩ : ∃ n, fuel = n + 1 := ⟨fuel - 1, by omega⟩
      simp [retryLoop, success]
    · have more : ¬ bound ≤ before + 1 := by omega
      by_cases passes : o.preflight (before + 1) = 0
      · obtain ⟨run, later, ends⟩ := ih (before + 1) (by omega)
        refine ⟨_, disciplined_retry passes later, fun fuel enough => ?_⟩
        obtain ⟨fuel, rfl⟩ : ∃ n, fuel = n + 1 := ⟨fuel - 1, by omega⟩
        have rest := ends fuel (by omega)
        simp [retryLoop, success, more, passes, rest]
      · refine ⟨_, disciplined_abort (by omega) passes, fun fuel enough => ?_⟩
        obtain ⟨fuel, rfl⟩ : ∃ n, fuel = n + 1 := ⟨fuel - 1, by omega⟩
        simp [retryLoop, success, more, passes]

/-- The setting is a base-ten machine integer of at least one. -/
def States (setting : Option String) (n : Nat) : Prop :=
  ∃ text, setting = some text ∧ isNumeral text.toList = true ∧ value text.toList = n ∧
    1 ≤ n ∧ n ≤ machineMax

theorem bootBound_stated {setting : Option String} {n : Nat} (stated : States setting n) :
    bootBound setting = n := by
  obtain ⟨text, rfl, numeral, rfl, positive, machine⟩ := stated
  simp [bootBound, numeral, operand, machine, positive]

theorem bootBound_default {setting : Option String} (unusable : ∀ n, ¬ States setting n) :
    bootBound setting = 3 := by
  unfold bootBound
  dsimp only
  split
  · rename_i numeral
    unfold operand
    split
    · rename_i n found
      split
      · rename_i positive
        split at found
        · rename_i machine
          cases found
          cases setting with
          | none => cases numeral
          | some text => exact absurd ⟨text, rfl, numeral, rfl, positive, machine⟩ (unusable _)
        · cases found
      · rfl
    · rfl
  · rfl

theorem bootBound_pos (setting : Option String) : 1 ≤ bootBound setting := by
  by_cases stated : ∃ n, States setting n
  · obtain ⟨n, stated⟩ := stated
    rw [bootBound_stated stated]
    obtain ⟨_, _, _, _, positive, _⟩ := stated
    exact positive
  · rw [bootBound_default (not_exists.mp stated)]
    decide

/-- For every setting and all outcomes the loop ends, and its run is disciplined: at most the
    bound's number of starts, the last start's status as exit status, a stop after every failed
    start, and a stop and a passing preflight before every further one. -/
theorem boot_retry_disciplined (setting : Option String) (o : Outcomes) :
    (∀ n, States setting n → bootBound setting = n) ∧
      ((∀ n, ¬ States setting n) → bootBound setting = 3) ∧
      ∃ run, Disciplined o 0 (bootBound setting) run ∧
        ∀ fuel, bootBound setting ≤ fuel → retryLoop o (bootBound setting) fuel 0 = some run := by
  refine ⟨fun n => bootBound_stated, bootBound_default, ?_⟩
  have positive := bootBound_pos setting
  obtain ⟨left, size⟩ : ∃ n, bootBound setting = n + 1 := ⟨bootBound setting - 1, by omega⟩
  rw [size]
  exact retryLoop_ends o (left + 1) left 0 (Nat.zero_add _)

def failingStarts : Outcomes where
  start attempt := if attempt = 1 then 7 else 9
  stop attempt := if attempt = 1 then 1 else 0
  preflight _ := 0
  reported _ := 0

def failingRun : Run :=
  ⟨[(.start, 7), (.stop, 1), (.preflight, 0), (.start, 9), (.stop, 0)], 9⟩

theorem boot_retry_two_failures :
    retryLoop failingStarts 2 2 0 = some failingRun ∧ Disciplined failingStarts 0 2 failingRun := by
  have two : bootBound (some "2") = 2 := by decide
  obtain ⟨-, -, run, disciplined, ends⟩ := boot_retry_disciplined (some "2") failingStarts
  rw [two] at disciplined ends
  have returned : retryLoop failingStarts 2 2 0 = some failingRun := by decide
  have same : failingRun = run := Option.some.inj (returned.symm.trans (ends 2 (Nat.le_refl 2)))
  exact ⟨returned, same ▸ disciplined⟩

end BootRetry
