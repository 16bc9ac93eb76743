import Glm53Overlay.Installers.HybridPrefixHit
import Glm53Overlay.Installers.GroupRetention
import Glm53Overlay.Library.TextSteps
import Glm53Overlay.Library.PackedText

/-!
The two patchers of the coordinator in either order. Each is a list of guarded replacements; their
snippets do not touch each other's edits as long as the helpers are put before a line.
-/
namespace Installers.OverlaySteps
open TextFile TextSearch TextEdit TextSteps PackedText CommutingRuns
open TextPatch hiding needle importOld importNew
open HybridPrefixHit (helper eagleOld eagleNew minOld minNew logOld logNew needle innerDef)
open GroupRetention (importOld importNew importLine baseHelper retentionHelper initOld initNew
  baseCacheOld baseCacheNew hybridLoopOld hybridLoopNew hybridCacheOld hybridCacheNew)

def base : Step Char := ⟨some innerDef, needle, helper ++ needle⟩

def retain : Step Char := ⟨none, needle, retentionHelper ++ needle⟩

def imports : Step Char := ⟨some importLine, importOld, importNew⟩

def rewrites : List (Step Char) :=
  [⟨none, eagleOld, eagleNew⟩, ⟨none, minOld, minNew⟩, ⟨none, logOld, logNew⟩]

def reroutes : List (Step Char) :=
  [⟨none, initOld, initNew⟩, ⟨none, baseCacheOld, baseCacheNew⟩,
    ⟨none, hybridLoopOld, hybridLoopNew⟩, ⟨none, hybridCacheOld, hybridCacheNew⟩]

def inPlace : List (Step Char) := rewrites ++ imports :: reroutes

/-- The two patchers' helpers are the same, as are the lines before which they go. -/
theorem shared : baseHelper = helper ∧ GroupRetention.needle = needle ∧
    GroupRetention.innerDef = innerDef := ⟨rfl, rfl, rfl⟩

def Headed : List Char → Prop := HeadsLine '\n' needle

def apartAll (ps ms : List (List Char)) : Bool :=
  ps.all fun p => ms.all fun m => charsApart 32 false p [] m []

def apartHead (ps : List (List Char)) (m b : List Char) : Bool :=
  ps.all fun p => charsApart 32 false p ['\n'] m b

def edits (steps : List (Step Char)) : List (List Char) := steps.flatMap fun s => [s.old, s.new]

def lines (s : Step Char) : Window Char := Window.of s.old s.new 0 1

def verified : List (List Char) :=
  [['\r'], HybridPrefixHit.mark, HybridPrefixHit.swaFallback, eagleNew, minNew, logNew, eagleOld,
    minOld]

def noted : List (List Char) := [['\r'], GroupRetention.mark]

theorem needle_checked : apartAll [needle] (edits inPlace) = true ∧
    apartAll (inPlace.map Step.old) [needle] = true ∧ clear true needle [] needle [] = true ∧
    charsApart 32 false needle ['\n'] helper needle = true ∧
    charsApart 32 false needle ['\n'] retentionHelper needle = true := by
  simp only [apartAll, charsApart_quick]
  decide +kernel

theorem steps_checked :
    apartAll ((imports :: reroutes).map Step.old) (edits rewrites) = true ∧
    apartAll (rewrites.map Step.old) (edits (imports :: reroutes)) = true ∧
    ((imports :: reroutes).all fun s => clear true s.old [] s.old []) = true ∧
    (rewrites.all fun s => charsApart 32 false importLine [] (lines s).middle ['\n'] &&
      charsApart 32 false importLine [] (lines s).middle' ['\n']) = true := by
  simp only [apartAll, charsApart_quick]
  decide +kernel

example : clear false importLine [] importNew [] = false := by decide +kernel

theorem inPlace_checked : (inPlace.all fun s => decide (s.old.getLast? = some '\n' ∧
    s.new.getLast? = some '\n' ∧ (lines s).behind = ['\n'])) = true ∧
    ([helper, retentionHelper].all fun new => decide (new.getLast? = some '\n')) = true := by
  decide +kernel

theorem heads_checked : apartHead (rewrites.map Step.old) (retentionHelper ++ needle) [] = true ∧
    apartHead [importOld] (helper ++ needle) [] = true ∧
    apartHead [importLine] [] needle = true ∧ apartHead [importLine] helper needle = true := by
  simp only [apartHead, charsApart_quick]
  decide +kernel

theorem steady_checked : apartAll (innerDef :: noted) (edits rewrites) = true ∧
    apartAll (innerDef :: HybridPrefixHit.draftDef :: verified) (edits (imports :: reroutes)) =
      true ∧
    apartHead (innerDef :: HybridPrefixHit.draftDef :: GroupRetention.mark :: verified) [] needle =
      true ∧
    apartHead (innerDef :: HybridPrefixHit.draftDef :: verified) retentionHelper needle = true ∧
    apartHead (GroupRetention.mark :: verified) helper needle = true := by
  simp only [apartAll, apartHead, charsApart_quick]
  decide +kernel

/-- The hybrid helper does define what the others leave alone. -/
example : clear false innerDef [] helper [] = false := by decide +kernel

theorem apart_of_all {ps ms : List (List Char)} (checked : apartAll ps ms = true) {p m : List Char}
    (inPatterns : p ∈ ps) (inEdits : m ∈ ms) : clear false p [] m [] = true :=
  clear_of_charsApart (List.all_eq_true.mp (List.all_eq_true.mp checked p inPatterns) m inEdits)

theorem apart_of_head {ps : List (List Char)} {m b : List Char} (checked : apartHead ps m b = true)
    {p : List Char} (inPatterns : p ∈ ps) : clear false p ['\n'] m b = true :=
  clear_of_charsApart (List.all_eq_true.mp checked p inPatterns)

theorem edits_of {steps : List (Step Char)} {s : Step Char} (member : s ∈ steps) :
    s.old ∈ edits steps ∧ s.new ∈ edits steps := by
  constructor
  · exact List.mem_flatMap.mpr ⟨s, member, List.mem_cons_self⟩
  · exact List.mem_flatMap.mpr ⟨s, member, List.mem_cons_of_mem _ List.mem_cons_self⟩

theorem needle_nonempty : needle ≠ [] := by decide

theorem old_nonempty : ∀ s ∈ inPlace, s.old ≠ [] := by
  intro s member empty
  obtain ⟨checked, -⟩ := inPlace_checked
  have ends := (of_decide_eq_true (List.all_eq_true.mp checked s member)).1
  rw [empty] at ends
  cases ends

theorem suffix_of_getLast? {t : List Char} (ends : t.getLast? = some '\n') : ['\n'] <:+ t :=
  ⟨t.dropLast, List.dropLast_append_getLast? '\n' ends⟩

/-- No step moves the place of the helpers off the beginning of its line. -/
theorem inPlace_keeps : ∀ s ∈ inPlace, Keeps Headed s.run := by
  intro s member
  obtain ⟨taken, apart, -⟩ := needle_checked
  obtain ⟨checked, -⟩ := inPlace_checked
  have ends := of_decide_eq_true (List.all_eq_true.mp checked s member)
  exact keeps_beside needle_nonempty (old_nonempty s member)
    (apart_of_all taken List.mem_cons_self (edits_of member).1)
    (apart_of_all taken List.mem_cons_self (edits_of member).2)
    (apart_of_all apart (List.mem_map_of_mem member) List.mem_cons_self)
    (suffix_of_getLast? ends.2.1)

theorem base_keeps : Keeps Headed base.run := by
  obtain ⟨-, -, -, apart, -⟩ := needle_checked
  obtain ⟨-, lines⟩ := inPlace_checked
  have ends := of_decide_eq_true (List.all_eq_true.mp lines helper List.mem_cons_self)
  exact keeps_before needle_nonempty rfl rfl (clear_of_charsApart apart) (suffix_of_getLast? ends)

theorem retain_keeps : Keeps Headed retain.run := by
  obtain ⟨-, -, -, -, apart⟩ := needle_checked
  obtain ⟨-, lines⟩ := inPlace_checked
  have ends := of_decide_eq_true
    (List.all_eq_true.mp lines retentionHelper (List.mem_cons_of_mem _ List.mem_cons_self))
  exact keeps_before needle_nonempty rfl rfl (clear_of_charsApart apart) (suffix_of_getLast? ends)

theorem beside_window {p P m Q : List Char} (apart : clear false p [] m [] = true) :
    Beside p P m Q := by
  have beside := beside_of_clear (u := P) (v := Q) (clear_spec apart)
  rwa [List.append_nil, List.nil_append] at beside

/-- The import's guard makes no difference to a rewrite, nor a rewrite to it. -/
theorem rewrite_ignored {y : Step Char} (member : y ∈ rewrites) : Ignores Headed importLine y := by
  obtain ⟨-, -, -, windows⟩ := steps_checked
  obtain ⟨inLines, -⟩ := inPlace_checked
  have checked := List.all_eq_true.mp windows y member
  rw [Bool.and_eq_true] at checked
  obtain ⟨oldEnds, newEnds, behind⟩ := of_decide_eq_true
    (List.all_eq_true.mp inLines y (List.mem_append_left _ member))
  have long : ∀ {t : List Char}, t.getLast? = some '\n' → 0 + 1 ≤ t.length := by
    intro t ends
    cases t with
    | nil => cases ends
    | cons c t => simp
  have last : ∀ {t : List Char}, t.getLast? = some '\n' → t.drop (t.length - 1) = ['\n'] := by
    intro t ends
    obtain ⟨u, rfl⟩ := suffix_of_getLast? ends
    rw [List.length_append, List.length_singleton, Nat.add_sub_cancel, List.drop_left]
  refine ignores_of_window (w := lines y) (by decide) (Window.old_of _ _ (long oldEnds))
    (Window.new_of (long newEnds) rfl ((last newEnds).trans (last oldEnds).symm)) ?_ ?_
  · rw [behind]
    exact clear_of_charsApart checked.1
  · rw [behind]
    exact clear_of_charsApart checked.2

theorem rewrites_pass {x y : Step Char} (inRewrites : y ∈ rewrites)
    (inReroutes : x ∈ imports :: reroutes) : Passes Headed y.run x.run := by
  obtain ⟨taken, beside, own, -⟩ := steps_checked
  have memberX : x ∈ inPlace := List.mem_append_right _ inReroutes
  have memberY : y ∈ inPlace := List.mem_append_left _ inRewrites
  have oldX := List.mem_map_of_mem (f := Step.old) inReroutes
  have oldY := List.mem_map_of_mem (f := Step.old) inRewrites
  have unguarded : ∀ p ∈ y.guard, Ignores Headed p x := by
    intro p listed
    have none : y.guard = none := by
      simp only [rewrites, List.mem_cons, List.not_mem_nil, or_false] at inRewrites
      rcases inRewrites with rfl | rfl | rfl <;> rfl
    rw [none] at listed
    cases listed
  have guarded : ∀ p ∈ x.guard, Ignores Headed p y := by
    intro p listed
    have only : p = importLine := by
      simp only [reroutes, List.mem_cons, List.not_mem_nil, or_false] at inReroutes
      rcases inReroutes with rfl | rfl | rfl | rfl | rfl <;> cases listed
      rfl
    rw [only]
    exact rewrite_ignored inRewrites
  refine (passes_steps ⟨old_nonempty x memberX, old_nonempty y memberY⟩
    (List.all_eq_true.mp own x inReroutes)
    ⟨apart_of_all taken oldX (edits_of inRewrites).1, apart_of_all taken oldX
      (edits_of inRewrites).2, guarded⟩ unguarded ?_).2
  intro P Q _
  exact ⟨beside_window (apart_of_all beside oldY (edits_of inReroutes).1),
    beside_window (apart_of_all beside oldY (edits_of inReroutes).2)⟩

theorem beside_put {p m P Q : List Char} (nonempty : p ≠ []) (here : Headed (P ++ needle ++ Q))
    (checked : clear false p ['\n'] m [] = true) : Beside p P m Q := by
  have beside := beside_head (Q := Q) (clear_spec checked) nonempty (here.starts P Q rfl)
  rwa [List.nil_append] at beside

theorem retain_passes {y : Step Char} (member : y ∈ rewrites) : Passes Headed y.run retain.run := by
  obtain ⟨taken, apart, own, -⟩ := needle_checked
  obtain ⟨put, -⟩ := heads_checked
  have inPlaceY : y ∈ inPlace := List.mem_append_left _ member
  have nonempty := old_nonempty y inPlaceY
  have unguarded : ∀ p ∈ y.guard, Ignores Headed p retain := by
    intro p listed
    have none : y.guard = none := by
      simp only [rewrites, List.mem_cons, List.not_mem_nil, or_false] at member
      rcases member with rfl | rfl | rfl <;> rfl
    rw [none] at listed
    cases listed
  refine (passes_steps ⟨needle_nonempty, nonempty⟩ own
    ⟨apart_of_all taken List.mem_cons_self (edits_of inPlaceY).1,
      apart_of_all taken List.mem_cons_self (edits_of inPlaceY).2, fun p listed => by cases listed⟩
    unguarded ?_).2
  intro P Q here
  exact ⟨beside_window (apart_of_all apart (List.mem_map_of_mem inPlaceY) List.mem_cons_self),
    beside_put nonempty here (apart_of_head put (List.mem_map_of_mem member))⟩

theorem base_passes : Passes Headed base.run imports.run := by
  obtain ⟨taken, apart, own, -⟩ := needle_checked
  obtain ⟨-, put, gap, guard⟩ := heads_checked
  obtain ⟨-, steady, -⟩ := steady_checked
  have member : imports ∈ inPlace := List.mem_of_getElem? (i := 3) rfl
  have inReroutes : imports ∈ imports :: reroutes := List.mem_cons_self
  have nonempty := old_nonempty imports member
  have noticed : ∀ p ∈ base.guard, Ignores Headed p imports := by
    rintro p ⟨rfl⟩ u v _
    have clear' : ∀ {m}, m ∈ edits (imports :: reroutes) → Beside innerDef u m v :=
      fun within => beside_window (apart_of_all steady List.mem_cons_self within)
    exact infix_exchange (by decide) (clear' (edits_of inReroutes).1)
      (clear' (edits_of inReroutes).2)
  have guarded : ∀ p ∈ imports.guard, Ignores Headed p base := by
    rintro p ⟨rfl⟩
    exact ignores_before (by decide) rfl rfl (apart_of_head gap List.mem_cons_self)
      (apart_of_head guard List.mem_cons_self)
  refine (passes_steps ⟨needle_nonempty, nonempty⟩ own
    ⟨apart_of_all taken List.mem_cons_self (edits_of member).1,
      apart_of_all taken List.mem_cons_self (edits_of member).2, noticed⟩ guarded ?_).1
  intro P Q here
  exact ⟨beside_window (apart_of_all apart (List.mem_map_of_mem member) List.mem_cons_self),
    beside_put nonempty here (apart_of_head put List.mem_cons_self)⟩

end Installers.OverlaySteps
