import Glm53Overlay.Watchdog.Ticks

/-!
Whole runs of the watchdog. Restarts are spaced and never hit a pair that is down on purpose,
starting, loading or making progress. The failure counter tells consecutive bad ticks only as
long as no tick stands down silently on top of a positive count.
-/
namespace Watchdog
open ReplayMachine

/-- The tick leaves through one of the exits that do not clear the failure counter. -/
def silent (c : Config) (t : Tick) : Bool :=
  match t.state with
  | .activating => true
  | .other _ => false
  | .active =>
    match activeFor t with
    | none => true
    | some age => decide (age < c.graceSecs) || headCheck c t == .unparsable

structure Ripe (c : Config) (t : Tick) : Prop where
  active : t.state = .active
  age : ∃ age, activeFor t = some age ∧ c.graceSecs ≤ age
  head : headCheck c t = .bad ∨ headCheck c t = .fine

section
variable {c : Config} {s : Store} {t : Tick}

theorem tick_cases :
    (silent c t = true ∧ (tick c s t).2.unhealthy = false ∧ (tick c s t).1 = s) ∨
    ((tick c s t).2.unhealthy = false ∧ (tick c s t).1.failures = some 0 ∧
      (tick c s t).1.lastHeal = s.lastHeal) ∨
    (Ripe c t ∧ ∃ s', s'.failures = s.failures ∧ s'.lastHeal = s.lastHeal ∧
      tick c s t = countFailure c s' t) := by
  cases state : t.state with
  | activating =>
    simp only [tick, silent, state]
    exact Or.inl ⟨trivial, rfl, trivial⟩
  | other name =>
    simp only [tick, silent, state]
    exact Or.inr (Or.inl ⟨rfl, trivial, trivial⟩)
  | active =>
    cases known : activeFor t with
    | none =>
      simp only [tick, silent, state, known]
      exact Or.inl ⟨trivial, rfl, trivial⟩
    | some age =>
      by_cases young : age < c.graceSecs
      · simp only [tick, silent, state, known, young, ↓reduceIte, decide_true, Bool.true_or]
        exact Or.inl ⟨trivial, rfl, trivial⟩
      · have result : tick c s t = checks c s t := by
          simp only [tick, state, known, young, ↓reduceIte]
        have checked := @checks_checked c s t
        rw [result]
        generalize checks c s t = after at checked ⊢
        cases checked with
        | down s' why cleared silent' heal =>
          by_cases unparsable : why = .unparsable
          · obtain ⟨head, same⟩ := silent' unparsable
            exact Or.inl ⟨by simp [silent, state, known, head], rfl, same⟩
          · exact Or.inr (Or.inl ⟨rfl, cleared unparsable, heal⟩)
        | healthy s' cleared heal => exact Or.inr (Or.inl ⟨rfl, cleared, heal⟩)
        | failed s' failures heal why =>
          exact Or.inr (Or.inr ⟨⟨state, ⟨age, known, Int.not_lt.mp young⟩, why⟩, s', failures,
            heal, rfl⟩)

theorem not_restart_of_not_unhealthy {o : Outcome} (fine : o.unhealthy = false) : o ≠ .restart := by
  rintro rfl
  cases fine

theorem restart_spec (restarts : (tick c s t).2 = .restart) :
    Ripe c t ∧ c.failThreshold ≤ s.failed + 1 ∧
      c.minHealInterval ≤ t.now - s.lastHeal.getD 0 ∧ (tick c s t).1.lastHeal = some t.now ∧
      (tick c s t).1.failed = 0 := by
  rcases @tick_cases c s t with ⟨_, fine, _⟩ | ⟨fine, _⟩ | ⟨ripe, s', failures, heal, result⟩
  · exact absurd restarts (not_restart_of_not_unhealthy fine)
  · exact absurd restarts (not_restart_of_not_unhealthy fine)
  · rw [result] at restarts ⊢
    rcases @countFailure_cases c s' t with ⟨_, full, due, files⟩ | ⟨other, _⟩
    · rw [files]
      rw [Store.failed, failures] at full
      rw [heal] at due
      exact ⟨ripe, full, due, rfl, rfl⟩
    · exact absurd restarts other

theorem lastHeal_kept (other : (tick c s t).2 ≠ .restart) :
    (tick c s t).1.lastHeal = s.lastHeal := by
  rcases @tick_cases c s t with ⟨_, _, same⟩ | ⟨_, _, heal⟩ | ⟨_, s', _, heal, result⟩
  · rw [same]
  · exact heal
  · rw [result] at other ⊢
    rcases @countFailure_cases c s' t with ⟨restarts, _⟩ | ⟨_, _, files⟩
    · exact absurd restarts other
    · rw [files]
      exact heal

theorem failed_after : ((tick c s t).2.unhealthy = true ∧ (tick c s t).1.failed ≤ s.failed + 1) ∨
    (tick c s t).1.failed = 0 ∨ (silent c t = true ∧ (tick c s t).1 = s) := by
  rcases @tick_cases c s t with ⟨quiet, _, same⟩ | ⟨_, cleared, _⟩ | ⟨_, s', failures, _, result⟩
  · exact Or.inr (Or.inr ⟨quiet, same⟩)
  · exact Or.inr (Or.inl (by rw [Store.failed, cleared]; rfl))
  · rw [result]
    rcases @countFailure_cases c s' t with ⟨_, _, _, files⟩ | ⟨_, bad, files⟩
    · exact Or.inr (Or.inl (by rw [files]; rfl))
    · refine Or.inl ⟨bad, ?_⟩
      rw [files, Store.failed, Option.getD_some, Store.failed, failures]
      exact Nat.le_refl _

end

section
variable {c : Config} {ticks : List Tick} {k : Nat}

theorem storeAt_succ {t : Tick} (here : ticks[k]? = some t) :
    storeAt c ticks (k + 1) = (tick c (storeAt c ticks k) t).1 := by
  rw [storeAt, List.take_add_one, here, final_append]
  rfl

theorem outcome_at {o : Outcome} (shown : (outcomes c ticks)[k]? = some o) :
    ∃ t, ticks[k]? = some t ∧ (tick c (storeAt c ticks k) t).2 = o := by
  rw [outcomes, outputs_at, Option.map_eq_some_iff] at shown
  exact shown

theorem outcome_of {t : Tick} (here : ticks[k]? = some t) :
    (outcomes c ticks)[k]? = some (tick c (storeAt c ticks k) t).2 := by
  rw [outcomes, outputs_at, here]
  rfl

end

/-- Every restart ends a row of unhealthy ticks as long as the threshold. -/
def ConsecutiveEvidence (c : Config) (ticks : List Tick) : Prop :=
  ∀ k, (outcomes c ticks)[k]? = some .restart → c.failThreshold ≤ k + 1 ∧
    ∀ j ≤ k, k < j + c.failThreshold →
      ∃ o, (outcomes c ticks)[j]? = some o ∧ o.unhealthy = true

def Backed (c : Config) (ticks : List Tick) (k : Nat) : Prop :=
  (storeAt c ticks k).failed ≤ k ∧ ∀ j < k, k ≤ j + (storeAt c ticks k).failed →
    ∃ o, (outcomes c ticks)[j]? = some o ∧ o.unhealthy = true

theorem backed_run {c : Config} {ticks : List Tick}
    (clean : Throughout (tick c) (fun s t => silent c t = true → s.failed = 0) Store.empty ticks) :
    ∀ k ≤ ticks.length, Backed c ticks k := by
  intro k
  induction k with
  | zero =>
    intro _
    exact ⟨Nat.le_refl 0, fun j none => absurd none (Nat.not_lt_zero j)⟩
  | succ k ih =>
    intro inside
    obtain ⟨count, row⟩ := ih (by omega)
    have here : ticks[k]? = some (ticks.get ⟨k, inside⟩) := List.getElem?_eq_getElem inside
    generalize ticks.get ⟨k, inside⟩ = t at here
    have shown := @outcome_of c ticks k t here
    rw [Backed, storeAt_succ here]
    rcases @failed_after c (storeAt c ticks k) t with ⟨bad, grown⟩ | cleared | ⟨quiet, same⟩
    · refine ⟨by omega, ?_⟩
      intro j before within
      by_cases last : j = k
      · exact ⟨_, by rw [last]; exact shown, bad⟩
      · exact row j (by omega) (by omega)
    · rw [cleared]
      exact ⟨Nat.zero_le _, fun j before within => by omega⟩
    · have zero : (storeAt c ticks k).failed = 0 := throughout_at _ _ clean here quiet
      rw [same, zero]
      exact ⟨Nat.zero_le _, fun j before within => by omega⟩

/-- When no silent stand-down meets a positive failure counter, restarts come on consecutive
    evidence only. -/
theorem consecutive_evidence_of_no_carry (c : Config) (ticks : List Tick)
    (clean : Throughout (tick c) (fun s t => silent c t = true → s.failed = 0) Store.empty ticks) :
    ConsecutiveEvidence c ticks := by
  intro k restarts
  obtain ⟨t, here, issued⟩ := outcome_at restarts
  have inside : k < ticks.length := (List.getElem?_eq_some_iff.mp here).1
  obtain ⟨count, row⟩ := backed_run clean k (by omega)
  obtain ⟨_, full, _⟩ := restart_spec issued
  refine ⟨by omega, ?_⟩
  intro j before within
  by_cases last : j = k
  · exact ⟨.restart, by rw [last]; exact restarts, rfl⟩
  · exact row j (by omega) (by omega)

def sampleConfig : Config where
  failThreshold := 3
  stallThreshold := 10
  graceSecs := 300
  loadGrace := 4800
  minHealInterval := 1800
  pending := fun _ => some 0
  progress := fun _ => "0"

def crashedTick (now : Int) : Tick where
  now := now
  state := .active
  enterUs := some 1000000
  uptime := some 1000
  headState := .exited "false"
  startedEpoch := none
  health := false
  sshStatus := 0
  metrics := ""

def activatingTick (now : Int) : Tick := { crashedTick now with state := .activating }

theorem consecutive_evidence_three_ticks :
    Throughout (tick sampleConfig) (fun s t => silent sampleConfig t = true → s.failed = 0)
        Store.empty [crashedTick 10000, crashedTick 10060, crashedTick 10120] ∧
      ConsecutiveEvidence sampleConfig [crashedTick 10000, crashedTick 10060, crashedTick 10120] :=
  have clean : Throughout (tick sampleConfig)
      (fun s t => silent sampleConfig t = true → s.failed = 0) Store.empty
      [crashedTick 10000, crashedTick 10060, crashedTick 10120] := by
    simp only [Throughout]
    decide
  ⟨clean, consecutive_evidence_of_no_carry _ _ clean⟩

/-- Two bad ticks, a manual restart during which the tick stands down, and one bad tick of the
    new pair: the third count bounces it. -/
theorem count_carried_across_restart :
    ¬ ConsecutiveEvidence sampleConfig
      [crashedTick 10000, crashedTick 10060, activatingTick 10120, crashedTick 13000] := by
  intro evidence
  obtain ⟨_, row⟩ := evidence 3 (by decide)
  obtain ⟨o, shown, bad⟩ := row 2 (by decide) (by decide)
  have other : (outcomes sampleConfig [crashedTick 10000, crashedTick 10060,
      activatingTick 10120, crashedTick 13000])[2]? = some (.standDown .activating) := by decide
  rw [other] at shown
  cases shown
  cases bad

/-- The pair serves: `/health` answers, the worker runs or cannot be reached, and there is no
    pending request, or the tokens moved, or there are no metrics. -/
structure Serving (c : Config) (s : Store) (t : Tick) : Prop where
  head : t.headState = .running
  health : t.health = true
  worker : t.sshStatus = 0 ∨ t.sshStatus = 255
  moving : t.metrics = "" ∨ (∀ n, c.pending t.metrics = some n → n ≤ 0) ∨
    s.progress ≠ some (c.progress t.metrics)

theorem serving_not_frozen {c : Config} {s : Store} {t : Tick} (serving : Serving c s t)
    (read : t.metrics ≠ "") : frozen c s t = false := by
  unfold frozen
  rcases serving.moving with unread | idle | moved
  · exact absurd unread read
  · have none : (c.pending t.metrics).any (0 < ·) = false := by
      rw [Option.any_eq_false]
      intro n shown
      have := idle n shown
      simpa using this
    rw [none]
    rfl
  · cases recorded : s.progress with
    | none => simp
    | some last =>
      have differ : (c.progress t.metrics == last) = false := by
        rw [beq_eq_false_iff_ne]
        intro same
        exact moved (by rw [recorded, same])
      simp [differ]

theorem serving_not_restarted {c : Config} {s : Store} {t : Tick} (serving : Serving c s t) :
    (tick c s t).2 ≠ .restart := by
  intro restarts
  obtain ⟨ripe, _⟩ := restart_spec restarts
  obtain ⟨age, known, old⟩ := ripe.age
  have fine : headCheck c t = .fine := by
    rw [headCheck, serving.head]
    simp [serving.health]
  have worker : workerBad t = false := by
    rcases serving.worker with zero | transport
    · simp [workerBad, zero]
    · simp [workerBad, transport]
  have unwedged : (forwardProgress c s t).2 = false := by
    unfold forwardProgress
    split
    · rfl
    · rename_i read
      simp only [serving_not_frozen serving read, Bool.false_eq_true, ↓reduceIte]
  have healthy : (tick c s t).2 = .healthy := by
    unfold tick
    simp only [ripe.active, known, Int.not_lt.mpr old, ↓reduceIte, checks, fine, worker, unwedged,
      Bool.false_eq_true]
  rw [healthy] at restarts
  cases restarts

theorem clock_at {ticks : List Tick} (clock : ticks.Pairwise fun a b => a.now ≤ b.now)
    {i j : Nat} {a b : Tick} (before : i < j) (first : ticks[i]? = some a)
    (second : ticks[j]? = some b) : a.now ≤ b.now := by
  obtain ⟨inFirst, rfl⟩ := List.getElem?_eq_some_iff.mp first
  obtain ⟨inSecond, rfl⟩ := List.getElem?_eq_some_iff.mp second
  exact List.pairwise_iff_getElem.mp clock i j inFirst inSecond before

theorem heals_recorded {c : Config} {ticks : List Tick}
    (clock : ticks.Pairwise fun a b => a.now ≤ b.now) :
    ∀ k ≤ ticks.length, ∀ i < k, ∀ a, ticks[i]? = some a →
      (outcomes c ticks)[i]? = some .restart →
      ∃ h, (storeAt c ticks k).lastHeal = some h ∧ a.now ≤ h := by
  intro k
  induction k with
  | zero =>
    intro _ i none
    exact absurd none (Nat.not_lt_zero i)
  | succ k ih =>
    intro inside i before a there restarted
    have here : ticks[k]? = some (ticks.get ⟨k, inside⟩) := List.getElem?_eq_getElem inside
    generalize ticks.get ⟨k, inside⟩ = t at here
    rw [storeAt_succ here]
    by_cases restarts : (tick c (storeAt c ticks k) t).2 = .restart
    · refine ⟨t.now, (restart_spec restarts).2.2.2.1, ?_⟩
      by_cases same : i = k
      · rw [same, here] at there
        obtain rfl := Option.some.inj there
        exact Int.le_refl _
      · exact clock_at clock (by omega) there here
    · rw [lastHeal_kept restarts]
      have earlier : i ≠ k := by
        rintro rfl
        rw [outcome_of here] at restarted
        exact restarts (Option.some.inj restarted)
      exact ih (by omega) i (by omega) a there restarted

/-- Two rows of failures, the second long enough after the first for a second heal. -/
def crashedTicks : List Tick :=
  [10000, 10060, 10120, 10180, 10240, 12000].map crashedTick

def busyConfig : Config := { sampleConfig with pending := fun _ => some 4, progress := id }

def busyTick (now : Int) (tokens : String) : Tick :=
  { crashedTick now with headState := .running, health := true, metrics := tokens }

def busyTicks : List Tick := [busyTick 10000 "10", busyTick 10060 "25", busyTick 10120 "31"]

end Watchdog
