import Glm53Overlay.Library.ReplayMachine

/-!
The pair watchdog: one tick reads the unit, the head container, `/health`, the worker over ssh
and the metrics, and keeps four files between ticks. The tick's observations are its input;
a restart is an outcome, whether or not systemd then honours it.
-/
namespace Watchdog
open ReplayMachine

/-- The thresholds, and what the two awk programs print for a metrics text. -/
structure Config where
  failThreshold : Nat
  stallThreshold : Nat
  graceSecs : Int
  loadGrace : Int
  minHealInterval : Int
  pending : String → Option Int
  progress : String → String

inductive UnitState where
  | activating
  | active
  | other (name : String)
  deriving DecidableEq

inductive HeadState where
  | absent
  | running
  | exited (shown : String)
  deriving DecidableEq

/-- What a tick sees. `startedEpoch` is what `date` makes of the container's start time, and an
    empty metrics text is one that could not be read. -/
structure Tick where
  now : Int
  state : UnitState
  enterUs : Option Nat
  uptime : Option Nat
  headState : HeadState
  startedEpoch : Option Int
  health : Bool
  sshStatus : Nat
  metrics : String

/-- The state directory; `none` is a file that is not there. -/
structure Store where
  failures : Option Nat
  progress : Option String
  stalls : Option Nat
  lastHeal : Option Int
  deriving DecidableEq

def Store.empty : Store := ⟨none, none, none, none⟩

def Store.failed (s : Store) : Nat := s.failures.getD 0

inductive StandDown where
  | activating
  | notActive
  | unknownAge
  | grace
  | absent
  | unparsable
  | loading
  deriving DecidableEq

inductive Outcome where
  | standDown (why : StandDown)
  | healthy
  | counted
  | backingOff
  | restart
  deriving DecidableEq

def Outcome.unhealthy : Outcome → Bool
  | .standDown _ => false
  | .healthy => false
  | .counted => true
  | .backingOff => true
  | .restart => true

/-- Seconds since the unit became active, when both readings are numbers. -/
def activeFor (t : Tick) : Option Int :=
  match t.enterUs, t.uptime with
  | some enterUs, some uptime =>
    if 0 < enterUs then some (uptime - (enterUs / 1000000 : Nat)) else none
  | _, _ => none

inductive Head where
  | absent
  | unparsable
  | loading
  | bad
  | fine
  deriving DecidableEq

def headCheck (c : Config) (t : Tick) : Head :=
  match t.headState with
  | .absent => .absent
  | .exited _ => .bad
  | .running =>
    if t.health then .fine
    else if t.startedEpoch.getD 0 ≤ 0 then .unparsable
    else if t.now - t.startedEpoch.getD 0 < c.loadGrace then .loading
    else .bad

/-- The worker's container is not running; 255 is ssh itself failing. -/
def workerBad (t : Tick) : Bool := t.sshStatus != 255 && t.sshStatus != 0

/-- Work is pending and the tokens are the recorded ones. -/
def frozen (c : Config) (s : Store) (t : Tick) : Bool :=
  (c.pending t.metrics).any (0 < ·) && s.progress.getD "-1" != "-1" &&
    c.progress t.metrics == s.progress.getD "-1"

/-- The third signal; the flag tells a wedged engine. -/
def forwardProgress (c : Config) (s : Store) (t : Tick) : Store × Bool :=
  if t.metrics = "" then (s, false)
  else
    let recorded := { s with progress := some (c.progress t.metrics) }
    if frozen c s t then
      let stalls := s.stalls.getD 0 + 1
      ({ recorded with stalls := some stalls }, decide (c.stallThreshold ≤ stalls))
    else ({ recorded with stalls := some 0 }, false)

def countFailure (c : Config) (s : Store) (t : Tick) : Store × Outcome :=
  let fails := s.failed + 1
  let counted := { s with failures := some fails }
  if fails < c.failThreshold then (counted, .counted)
  else if t.now - s.lastHeal.getD 0 < c.minHealInterval then (counted, .backingOff)
  else (⟨some 0, none, some 0, some t.now⟩, .restart)

def checks (c : Config) (s : Store) (t : Tick) : Store × Outcome :=
  match headCheck c t with
  | .absent =>
    ({ s with failures := some 0, stalls := some 0, progress := none }, .standDown .absent)
  | .unparsable => (s, .standDown .unparsable)
  | .loading => ({ s with failures := some 0 }, .standDown .loading)
  | .bad => countFailure c s t
  | .fine =>
    if workerBad t then countFailure c s t
    else if (forwardProgress c s t).2 then countFailure c (forwardProgress c s t).1 t
    else ({ (forwardProgress c s t).1 with failures := some 0 }, .healthy)

def tick (c : Config) (s : Store) (t : Tick) : Store × Outcome :=
  match t.state with
  | .activating => (s, .standDown .activating)
  | .other _ => ({ s with failures := some 0 }, .standDown .notActive)
  | .active =>
    match activeFor t with
    | none => (s, .standDown .unknownAge)
    | some age => if age < c.graceSecs then (s, .standDown .grace) else checks c s t

def storeAt (c : Config) (ticks : List Tick) (k : Nat) : Store :=
  final (tick c) Store.empty (ticks.take k)

def outcomes (c : Config) (ticks : List Tick) : List Outcome := outputs (tick c) Store.empty ticks

section
variable {c : Config} {s : Store} {t : Tick}

theorem forwardProgress_files :
    (forwardProgress c s t).1.failures = s.failures ∧
      (forwardProgress c s t).1.lastHeal = s.lastHeal := by
  unfold forwardProgress
  split
  · exact ⟨rfl, rfl⟩
  · dsimp only
    split <;> exact ⟨rfl, rfl⟩

theorem countFailure_cases :
    ((countFailure c s t).2 = .restart ∧ c.failThreshold ≤ s.failed + 1 ∧
      c.minHealInterval ≤ t.now - s.lastHeal.getD 0 ∧
      (countFailure c s t).1 = ⟨some 0, none, some 0, some t.now⟩) ∨
    ((countFailure c s t).2 ≠ .restart ∧ (countFailure c s t).2.unhealthy = true ∧
      (countFailure c s t).1 = { s with failures := some (s.failed + 1) }) := by
  unfold countFailure
  dsimp only
  split
  · exact Or.inr ⟨by simp, rfl, rfl⟩
  · rename_i reached
    split
    · exact Or.inr ⟨by simp, rfl, rfl⟩
    · rename_i due
      exact Or.inl ⟨rfl, Nat.le_of_not_lt reached, Int.not_lt.mp due, rfl⟩

inductive Checked (c : Config) (s : Store) (t : Tick) : Store × Outcome → Prop where
  | down (s' : Store) (why : StandDown) (cleared : why ≠ .unparsable → s'.failures = some 0)
      (silent : why = .unparsable → headCheck c t = .unparsable ∧ s' = s)
      (heal : s'.lastHeal = s.lastHeal) : Checked c s t (s', .standDown why)
  | healthy (s' : Store) (cleared : s'.failures = some 0) (heal : s'.lastHeal = s.lastHeal) :
      Checked c s t (s', .healthy)
  | failed (s' : Store) (failures : s'.failures = s.failures) (heal : s'.lastHeal = s.lastHeal)
      (why : headCheck c t = .bad ∨ headCheck c t = .fine) : Checked c s t (countFailure c s' t)

theorem checks_checked : Checked c s t (checks c s t) := by
  unfold checks
  split
  · exact .down _ _ (fun _ => rfl) (fun wrong => by cases wrong) rfl
  · rename_i head
    exact .down _ _ (fun wrong => absurd rfl wrong) (fun _ => ⟨head, rfl⟩) rfl
  · exact .down _ _ (fun _ => rfl) (fun wrong => by cases wrong) rfl
  · rename_i head
    exact .failed _ rfl rfl (Or.inl head)
  · rename_i head
    obtain ⟨failures, heal⟩ := @forwardProgress_files c s t
    split
    · exact .failed _ rfl rfl (Or.inr head)
    split
    · exact .failed _ failures heal (Or.inr head)
    · exact .healthy _ rfl heal

end
end Watchdog
