import Mathlib.Data.Rat.Floor
import Glm53Overlay.Library.ReplayMachine

/-!
The acceptance part of the metrics canary over a server that restarts. The state file keeps the
counters of the last scrape and not the lifetime they belong to, so an interval is that of one
server only when a restart since then shows in the drafted counter.
-/
namespace MetricsAlert
open ReplayMachine

structure Counters where
  drafted : Nat
  accepted : Nat
  deriving DecidableEq

def Counters.zero : Counters := ⟨0, 0⟩

/-- MIN_DRAFT, and what the two awk calls say of an interval's accepted and drafted tokens: the
    printed ratio is below ACCEPT_WARN. -/
structure Config where
  minDraft : Int
  belowWarn : Int → Int → Bool

inductive Verdict where
  | standDown
  | skipped
  | reseeded
  | tooThin
  | ok
  | collapse
  deriving DecidableEq

structure Tick where
  running : Bool
  health : Bool
  scraped : Bool
  deriving DecidableEq

def Tick.scrapes (t : Tick) : Bool := t.running && t.health && t.scraped

/-- A missing state file leaves `prev_d=0; prev_a=0`. -/
def previous (saved : Option Counters) : Counters := saved.getD Counters.zero

def acceptance (c : Config) (saved : Option Counters) (now : Counters) : Verdict :=
  let d : Int := now.drafted - (previous saved).drafted
  let a : Int := now.accepted - (previous saved).accepted
  if d < 0 then .reseeded
  else if c.minDraft ≤ d then
    if c.belowWarn a d then .collapse else .ok
  else .tooThin

/-- One run of the script: the verdict and the state file it leaves. -/
def tick (c : Config) (t : Tick) (saved : Option Counters) (now : Counters) :
    Verdict × Option Counters :=
  if t.running = false then (.standDown, saved)
  else if t.health = false then (.standDown, saved)
  else if t.scraped = false then (.skipped, saved)
  else (acceptance c saved now, some now)

/-- The server and the state file. `since` and `restarted` are what the script cannot see: the
    running server's counters at the later of its start and the last scrape, and whether it
    started after that scrape. -/
structure World where
  server : Counters
  saved : Option Counters
  since : Counters
  restarted : Bool
  deriving DecidableEq

def World.start : World := ⟨Counters.zero, none, Counters.zero, false⟩

inductive Event where
  | work (drafted accepted : Nat)
  | restart
  | tick (t : Tick)
  deriving DecidableEq

def step (c : Config) (w : World) : Event → World × Option Verdict
  | .work drafted accepted =>
    ({ w with server := ⟨w.server.drafted + drafted, w.server.accepted + accepted⟩ }, none)
  | .restart =>
    ({ w with server := Counters.zero, since := Counters.zero, restarted := true }, none)
  | .tick t =>
    let (verdict, saved) := tick c t w.saved w.server
    if t.scrapes then (⟨w.server, saved, w.server, false⟩, some verdict)
    else ({ w with saved := saved }, some verdict)

def World.ownDrafted (w : World) : Int := w.server.drafted - w.since.drafted

def World.ownAccepted (w : World) : Int := w.server.accepted - w.since.accepted

/-- At the first scrape after a restart the drafted counter is not MIN_DRAFT above the saved one,
    or nothing was counted before it. -/
def RestartShows (c : Config) (w : World) : Event → Prop
  | .tick t => t.scrapes = true → w.restarted = true →
      ((w.server.drafted : Int) - (previous w.saved).drafted < max 0 c.minDraft) ∨
        previous w.saved = Counters.zero
  | _ => True

structure Kept (w : World) : Prop where
  same : w.restarted = false → previous w.saved = w.since
  fresh : w.restarted = true → w.since = Counters.zero

theorem start_kept : Kept World.start := ⟨fun _ => rfl, fun _ => rfl⟩

theorem tick_saved (c : Config) (t : Tick) (saved : Option Counters) (now : Counters) :
    (tick c t saved now).2 = if t.scrapes then some now else saved := by
  obtain ⟨running, health, scraped⟩ := t
  unfold tick Tick.scrapes
  cases running <;> cases health <;> cases scraped <;> rfl

theorem step_kept (c : Config) (w : World) (e : Event) (kept : Kept w) : Kept (step c w e).1 := by
  cases e with
  | work drafted accepted => exact ⟨kept.same, kept.fresh⟩
  | restart =>
    constructor
    · intro none'
      cases none'
    · intro _
      rfl
  | tick t =>
    have saved := tick_saved c t w.saved w.server
    unfold step
    dsimp only
    cases scrapes : t.scrapes with
    | false =>
      rw [scrapes] at saved
      simp only [Bool.false_eq_true, ↓reduceIte] at saved ⊢
      rw [saved]
      exact kept
    | true =>
      rw [scrapes] at saved
      simp only [↓reduceIte] at saved ⊢
      rw [saved]
      constructor
      · intro _
        rfl
      · intro none'
        cases none'

theorem run_kept (c : Config) (events : List Event) : Kept (final (step c) World.start events) :=
  final_invariant (step c) Kept (fun _ => True) (fun w e _ kept => step_kept c w e kept)
    World.start events (fun _ _ => trivial) start_kept

theorem collapse_scrapes {c : Config} {t : Tick} {saved : Option Counters} {now : Counters}
    (alarm : (tick c t saved now).1 = .collapse) :
    t.scrapes = true ∧ acceptance c saved now = .collapse := by
  obtain ⟨running, health, scraped⟩ := t
  unfold tick at alarm
  cases running
  · cases alarm
  · cases health
    · cases alarm
    · cases scraped
      · cases alarm
      · exact ⟨rfl, alarm⟩

theorem acceptance_collapse {c : Config} {saved : Option Counters} {now : Counters}
    (alarm : acceptance c saved now = .collapse) :
    max 0 c.minDraft ≤ (now.drafted : Int) - (previous saved).drafted ∧
      c.belowWarn ((now.accepted : Int) - (previous saved).accepted)
        ((now.drafted : Int) - (previous saved).drafted) = true := by
  unfold acceptance at alarm
  dsimp only at alarm
  split at alarm
  · cases alarm
  · rename_i forward
    split at alarm
    · rename_i enough
      split at alarm
      · rename_i below
        exact ⟨by omega, below⟩
      · cases alarm
    · cases alarm

/-- In a run whose restarts show at the next scrape, a reported collapse is one of the tokens the
    running server drafted since the later of its start and the last scrape. -/
theorem collapse_is_own (c : Config) (events : List Event)
    (shows : Throughout (step c) (RestartShows c) World.start events) (n : Nat) (t : Tick)
    (here : events[n]? = some (.tick t))
    (alarm : (outputs (step c) World.start events)[n]? = some (some .collapse)) :
    let w := final (step c) World.start (events.take n)
    c.minDraft ≤ w.ownDrafted ∧ c.belowWarn w.ownAccepted w.ownDrafted = true := by
  have visible := throughout_at (step c) (RestartShows c) shows here
  have kept := run_kept c (events.take n)
  rw [outputs_at, here] at alarm
  generalize final (step c) World.start (events.take n) = w at visible kept alarm
  simp only [Option.map_some, Option.some.injEq] at alarm
  have verdict : (tick c t w.saved w.server).1 = .collapse := by
    unfold step at alarm
    dsimp only at alarm
    split at alarm <;> exact Option.some.inj alarm
  obtain ⟨scrapes, judged⟩ := collapse_scrapes verdict
  obtain ⟨enough, below⟩ := acceptance_collapse judged
  have own : previous w.saved = w.since := by
    cases restarted : w.restarted with
    | false => exact kept.same restarted
    | true =>
      rw [kept.fresh restarted]
      rcases visible scrapes restarted with hidden | nothing
      · omega
      · exact nothing
  rw [own] at enough below
  exact ⟨by unfold World.ownDrafted; omega, below⟩

/-- `printf "%.4f"` of a ratio, compared with a threshold. -/
def printedBelow (warn : ℚ) (a d : Int) : Bool :=
  (⌊(a : ℚ) / d * 10000 + 1 / 2⌋ : ℚ) / 10000 < warn

def deployed : Config := ⟨50, printedBelow (22 / 100)⟩

def answering : Tick := ⟨true, true, true⟩

/-- A restart that the next scrape shows, and then a collapse of the new server's own. -/
def restartedEvents : List Event :=
  [.work 100 90, .tick answering, .restart, .work 40 1, .tick answering, .work 100 3,
    .tick answering]

theorem collapse_is_own_across_restart :
    let w := final (step deployed) World.start (restartedEvents.take 6)
    deployed.minDraft ≤ w.ownDrafted ∧ deployed.belowWarn w.ownAccepted w.ownDrafted = true :=
  have shows : Throughout (step deployed) (RestartShows deployed) World.start restartedEvents := by
    refine ⟨trivial, ?_, trivial, trivial, ?_, trivial, ?_, trivial⟩
    · exact fun _ restarted => absurd restarted (by decide)
    · exact fun _ _ => Or.inl (by decide)
    · exact fun _ restarted => absurd restarted (by decide)
  collapse_is_own deployed restartedEvents shows 6 answering rfl (by decide +kernel)

def Truthful (w : World) (_ : Event) : Prop := w.server.accepted ≤ w.server.drafted

/-- The old server accepted everything, the new one more than half of a longer interval. -/
def overtakenEvents : List Event :=
  [.work 100 100, .tick answering, .restart, .work 200 110, .tick answering]

/-- The second scrape reports a collapse, and the running server's own fraction is not low. -/
theorem overtaken_counters_alarm :
    Throughout (step deployed) Truthful World.start overtakenEvents ∧
      (outputs (step deployed) World.start overtakenEvents)[4]? = some (some .collapse) ∧
      let w := final (step deployed) World.start (overtakenEvents.take 4)
      w.ownDrafted = 200 ∧ w.ownAccepted = 110 ∧
        deployed.belowWarn w.ownAccepted w.ownDrafted = false := by
  refine ⟨?_, by decide +kernel, by decide, by decide, by decide +kernel⟩
  simp [Throughout, Truthful, overtakenEvents, step, World.start, Counters.zero, tick, answering,
    Tick.scrapes]

end MetricsAlert
