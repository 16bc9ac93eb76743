import Glm53Overlay.Installers.OverlaySteps
import Glm53Overlay.Installers.SchedulerChain

/-!
The hybrid patcher and the retention patcher of the coordinator, one behind the other and the other
way round: where the helpers go before a line and the final text compiles, both orders leave the
same file.
-/
namespace Installers.OverlayOrder
open TextFile TextSearch TextEdit TextSteps PackedText CommutingRuns OverlaySteps
open TextPatch hiding needle importOld importNew
open HybridPrefixHit (helper eagleOld eagleNew minOld minNew logOld logNew needle innerDef)
open GroupRetention (importLine baseHelper retentionHelper)

def hybridRuns : List (List Char → Except Nat (List Char)) :=
  base.run :: rewrites.map Step.run

def lateRuns : List (List Char → Except Nat (List Char)) :=
  retain.run :: reroutes.map Step.run

def retentionRuns : List (List Char → Except Nat (List Char)) :=
  imports.run :: base.run :: lateRuns

theorem mapped_keeps {steps : List (Step Char)} (within : ∀ s ∈ steps, s ∈ inPlace) :
    ∀ f ∈ steps.map Step.run, Keeps Headed f := by
  intro f member
  obtain ⟨s, inSteps, rfl⟩ := List.mem_map.mp member
  exact inPlace_keeps s (within s inSteps)

theorem reroutes_inPlace : ∀ s ∈ imports :: reroutes, s ∈ inPlace :=
  fun _ member => List.mem_append_right _ member

theorem rewrites_keep : ∀ f ∈ rewrites.map Step.run, Keeps Headed f :=
  mapped_keeps fun _ member => List.mem_append_left _ member

theorem reroutes_keep : ∀ f ∈ reroutes.map Step.run, Keeps Headed f :=
  mapped_keeps fun s member => reroutes_inPlace s (List.mem_cons_of_mem _ member)

theorem imports_keep : Keeps Headed imports.run :=
  inPlace_keeps imports (reroutes_inPlace imports List.mem_cons_self)

theorem hybrid_keeps : ∀ f ∈ hybridRuns, Keeps Headed f := by
  intro f member
  rcases List.mem_cons.mp member with rfl | member
  · exact base_keeps
  · exact rewrites_keep f member

theorem late_keeps : ∀ f ∈ lateRuns, Keeps Headed f := by
  intro f member
  rcases List.mem_cons.mp member with rfl | member
  · exact retain_keeps
  · exact reroutes_keep f member

theorem retention_keeps : ∀ f ∈ retentionRuns, Keeps Headed f := by
  intro f member
  rcases List.mem_cons.mp member with rfl | member
  · exact imports_keep
  · rcases List.mem_cons.mp member with rfl | member
    · exact base_keeps
    · exact late_keeps f member

section Counts

def watched : List (List Char) := innerDef :: HybridPrefixHit.draftDef :: verified

theorem watched_nonempty : ∀ p ∈ GroupRetention.mark :: watched, p ≠ [] := by
  decide

theorem reroutes_steady {p : List Char} (member : p ∈ watched) {s : Step Char}
    (inSteps : s ∈ imports :: reroutes) : Steady Headed p s.run := by
  obtain ⟨-, apart, -⟩ := steady_checked
  exact steady_of_clear (watched_nonempty p (List.mem_cons_of_mem _ member))
    (apart_of_all apart member (edits_of inSteps).1)
    (apart_of_all apart member (edits_of inSteps).2)

theorem rewrites_steady {p : List Char} (member : p ∈ innerDef :: noted) {s : Step Char}
    (inSteps : s ∈ rewrites) : Steady Headed p s.run := by
  obtain ⟨apart, -⟩ := steady_checked
  have nonempty : ∀ p ∈ innerDef :: noted, p ≠ [] := by decide
  exact steady_of_clear (nonempty p member)
    (apart_of_all apart member (edits_of inSteps).1)
    (apart_of_all apart member (edits_of inSteps).2)

theorem gap_of_watched {p : List Char} (member : p ∈ GroupRetention.mark :: watched) :
    clear false p ['\n'] [] needle = true := by
  have within : p ∈ innerDef :: HybridPrefixHit.draftDef :: GroupRetention.mark :: verified := by
    simp only [watched, List.mem_cons] at member ⊢
    tauto
  obtain ⟨-, -, apart, -⟩ := steady_checked
  exact apart_of_head apart within

theorem retain_steady {p : List Char} (member : p ∈ watched) : Steady Headed p retain.run := by
  obtain ⟨-, -, -, apart, -⟩ := steady_checked
  exact steady_before (watched_nonempty p (List.mem_cons_of_mem _ member)) rfl rfl
    (gap_of_watched (List.mem_cons_of_mem _ member)) (apart_of_head apart member)

theorem base_steady {p : List Char} (member : p ∈ GroupRetention.mark :: verified) :
    Steady Headed p base.run := by
  have within : p ∈ GroupRetention.mark :: watched := by
    rcases List.mem_cons.mp member with rfl | member
    · exact List.mem_cons_self
    · exact List.mem_cons_of_mem _ (List.mem_cons_of_mem _ (List.mem_cons_of_mem _ member))
  obtain ⟨-, -, -, -, apart⟩ := steady_checked
  exact steady_before (watched_nonempty p within) rfl rfl (gap_of_watched within)
    (apart_of_head apart member)

theorem late_steady {p : List Char} (within : p ∈ watched) : Steady Headed p (runAll lateRuns) := by
  refine steady_runAll (fun f inRuns => ?_) late_keeps
  rcases List.mem_cons.mp inRuns with rfl | inRuns
  · exact retain_steady within
  · obtain ⟨s, inSteps, rfl⟩ := List.mem_map.mp inRuns
    exact reroutes_steady within (List.mem_cons_of_mem _ inSteps)

theorem own_steady {p : List Char} (within : p ∈ watched) :
    Steady Headed p (runAll (imports.run :: lateRuns)) := by
  intro t out headed done
  obtain ⟨middle, first, late⟩ := runAll_cons.mp done
  have headed' := imports_keep t middle headed first
  rw [late_steady within middle out headed' late,
    reroutes_steady within List.mem_cons_self t middle headed first]

theorem retention_steady {p : List Char} (member : p ∈ verified) :
    Steady Headed p (runAll retentionRuns) := by
  have within : p ∈ watched := List.mem_cons_of_mem _ (List.mem_cons_of_mem _ member)
  intro t out headed done
  obtain ⟨imported, first, rest⟩ := runAll_cons.mp done
  obtain ⟨based, second, late⟩ := runAll_cons.mp rest
  have headed' := imports_keep t imported headed first
  have headed'' := base_keeps imported based headed' second
  rw [late_steady within based out headed'' late,
    base_steady (List.mem_cons_of_mem _ member) imported based headed' second,
    reroutes_steady within List.mem_cons_self t imported headed first]

theorem hybrid_steady {p : List Char} (member : p ∈ noted) :
    Steady Headed p (runAll hybridRuns) := by
  refine steady_runAll (fun f inRuns => ?_) hybrid_keeps
  rcases List.mem_cons.mp inRuns with rfl | inRuns
  · simp only [noted, List.mem_cons, List.not_mem_nil, or_false] at member
    rcases member with rfl | rfl
    · exact base_steady (List.mem_cons_of_mem _ List.mem_cons_self)
    · exact base_steady List.mem_cons_self
  · obtain ⟨s, inSteps, rfl⟩ := List.mem_map.mp inRuns
    exact rewrites_steady (List.mem_cons_of_mem _ member) inSteps

end Counts

section Patchers
variable {t out : List Char}

theorem bind_iff {α β : Type} {x : Except PatchError α} {f : α → Except PatchError β} {r : β} :
    x >>= f = .ok r ↔ ∃ a, x = .ok a ∧ f a = .ok r :=
  ⟨bind_ok, fun ⟨a, first, rest⟩ => by rw [first, ok_bind]; exact rest⟩

theorem replaceOnce_iff {label : String} {old new : List Char} :
    replaceOnce label old new t = .ok out ↔ (Step.mk none old new).run t = .ok out := by
  constructor
  · intro done
    obtain ⟨_, once, _⟩ := bind_ok done
    rw [replaceOnce_ok done]
    exact run_edits rfl (expectOne_ok once)
  · intro done
    rcases run_cases done with ⟨skipped, _⟩ | ⟨_, counted, rfl⟩
    · cases skipped
    · rw [replaceOnce, expectOne_of_count counted]
      rfl

theorem headed_count (headed : Headed t) : count needle t = 1 :=
  count_of_once needle_nonempty headed.once

theorem base_run (counted : count needle t = 1) : base.run t =
    .ok (if holds innerDef t then t else replaceFirst needle (helper ++ needle) t) := by
  by_cases present : holds innerDef t = true
  · rw [if_pos present]
    exact run_skips present
  · rw [if_neg present]
    exact run_edits (Bool.eq_false_iff.mpr present) counted

theorem hybrid_installs (headed : Headed t) :
    HybridPrefixHit.install t = .ok out ↔ runAll hybridRuns t = .ok out := by
  have counted := headed_count headed
  rw [HybridPrefixHit.install, ensure_of _ (decide_eq_true counted), ok_bind, hybridRuns,
    runAll_cons, base_run counted]
  simp only [bind_iff, replaceOnce_iff, rewrites, List.map_cons, List.map_nil, runAll_cons,
    runAll_nil, Except.ok.injEq, exists_eq_left', exists_eq_right]

theorem imports_skips (t : List Char) : imports.skips t = holds importLine t := rfl

theorem imports_iff {middle : List Char} :
    GroupRetention.addImport t = .ok middle ↔ imports.run t = .ok middle := by
  rw [GroupRetention.addImport]
  by_cases present : holds importLine t = true
  · rw [if_pos present, run_skips ((imports_skips t).trans present), Except.ok.injEq,
      Except.ok.injEq]
  · have fresh := (imports_skips t).trans (Bool.eq_false_iff.mpr present)
    rw [if_neg present, replaceOnce_iff, Step.run, Step.run, fresh]
    rfl

theorem retention_installs (headed : Headed t) :
    GroupRetention.install t = .ok out ↔ runAll retentionRuns t = .ok out := by
  have later : ∀ {middle}, imports.run t = .ok middle → ∃ based, base.run middle = .ok based ∧
      based = (if holds innerDef middle then middle
        else replaceFirst needle (helper ++ needle) middle) ∧
      retain.run based = .ok (replaceFirst needle (retentionHelper ++ needle) based) := by
    intro middle done
    have here := imports_keep t middle headed done
    have based := base_run (headed_count here)
    exact ⟨_, based, rfl, run_edits rfl (headed_count (base_keeps _ _ here based))⟩
  have counted : count GroupRetention.needle t = 1 := headed_count headed
  rw [GroupRetention.install, ensure_of _ (decide_eq_true counted), ok_bind, bind_iff,
    retentionRuns, runAll_cons]
  constructor
  · rintro ⟨middle, first, rest⟩
    obtain ⟨based, second, rfl, third⟩ := later (imports_iff.mp first)
    refine ⟨middle, imports_iff.mp first, ?_⟩
    rw [runAll_cons]
    refine ⟨_, second, ?_⟩
    rw [lateRuns, runAll_cons]
    refine ⟨_, third, ?_⟩
    simp only [bind_iff, replaceOnce_iff] at rest
    simp only [reroutes, List.map_cons, List.map_nil, runAll_cons, runAll_nil, exists_eq_right]
    exact rest
  · rintro ⟨middle, first, rest⟩
    obtain ⟨based, second, rfl, third⟩ := later first
    refine ⟨middle, imports_iff.mpr first, ?_⟩
    simp only [lateRuns, runAll_cons, second, Except.ok.injEq, exists_eq_left', third] at rest
    simp only [reroutes, List.map_cons, List.map_nil, runAll_cons, runAll_nil,
      exists_eq_right] at rest
    simp only [bind_iff, replaceOnce_iff]
    exact rest

end Patchers

section Helper
variable {t out : List Char}

theorem helper_checked : innerDef <:+: helper ∧ ['\n'] ++ innerDef <+: helper ∧
    charsApart 32 false innerDef ['\n']
      (['\n', '\n'] ++ helper.drop (['\n'] ++ innerDef).length) needle = true ∧
    clear true innerDef [] innerDef [] = true := by
  decide +kernel

theorem base_defines (done : base.run t = .ok out) : innerDef <:+: out := by
  rcases run_cases done with ⟨skipped, rfl⟩ | ⟨_, counted, rfl⟩
  · exact holds_iff.mp skipped
  · obtain ⟨defines, -⟩ := helper_checked
    obtain ⟨u, v, _, edited⟩ := replaceFirst_of_count base.new counted
    rw [edited]
    refine defines.trans ⟨u, needle ++ v, ?_⟩
    simp only [base, List.append_assoc]

theorem base_skips (present : innerDef <:+: t) : base.run t = .ok t :=
  run_skips (holds_iff.mpr present)

theorem base_once (headed : Headed t) (absent : ¬ innerDef <:+: t) (done : base.run t = .ok out) :
    count innerDef out = 1 := by
  obtain ⟨-, opens, gapped, own⟩ := helper_checked
  have nonempty : innerDef ≠ [] := by decide
  rcases run_cases done with ⟨skipped, _⟩ | ⟨_, counted, rfl⟩
  · exact absurd (holds_iff.mp skipped) absent
  · obtain ⟨P, Q, split, edited⟩ := replaceFirst_of_count base.new counted
    have starts := headed.starts P Q split
    have member : innerDef ∈ GroupRetention.mark :: watched :=
      List.mem_cons_of_mem _ List.mem_cons_self
    have beside := beside_head (Q := Q) (clear_spec (gap_of_watched member)) nonempty starts
    have beside' := beside_head (Q := Q) (clear_spec (clear_of_charsApart gapped)) nonempty starts
    have shape : t = P ++ [] ++ (needle ++ Q) := by
      rw [List.append_nil, ← List.append_assoc]
      exact split
    rw [shape, infix_exchange nonempty beside beside'] at absent
    have whole := (List.prefix_iff_eq_append.mp opens).symm
    have once : Once ([] ++ innerDef ++ []) ((P ++ ['\n']) ++ ([] ++ innerDef ++ []) ++
        (helper.drop (['\n'] ++ innerDef).length ++ (needle ++ Q))) := by
      refine once_insert (m := ['\n']) (clear_spec own) ?_
      simpa [List.append_assoc] using absent
    have result : replaceFirst base.old base.new t = (P ++ ['\n']) ++ ([] ++ innerDef ++ []) ++
        (helper.drop (['\n'] ++ innerDef).length ++ (needle ++ Q)) := by
      rw [edited]
      change P ++ (helper ++ needle) ++ Q = _
      conv_lhs => rw [whole]
      simp only [List.append_assoc, List.nil_append]
    rw [result]
    exact count_of_once nonempty once

end Helper

section Orders
variable {py : Python} {t middle out : List Char}

theorem infix_iff_of_steady {p : List Char} {f : List Char → Except Nat (List Char)}
    (nonempty : p ≠ []) (steady : Steady Headed p f) (headed : Headed t) (done : f t = .ok out) :
    p <:+: out ↔ p <:+: t := by
  rw [← count_pos_iff nonempty, ← count_pos_iff nonempty, steady t out headed done]

theorem own_keeps : ∀ f ∈ imports.run :: lateRuns, Keeps Headed f := by
  intro f member
  rcases List.mem_cons.mp member with rfl | member
  · exact imports_keep
  · exact late_keeps f member

theorem lists_pass : ∀ f ∈ rewrites.map Step.run, ∀ g ∈ imports.run :: lateRuns,
    Passes Headed f g := by
  intro f inRewrites g inOwn
  obtain ⟨y, inSteps, rfl⟩ := List.mem_map.mp inRewrites
  rcases List.mem_cons.mp inOwn with rfl | inOwn
  · exact rewrites_pass inSteps List.mem_cons_self
  · rcases List.mem_cons.mp inOwn with rfl | inOwn
    · exact retain_passes inSteps
    · obtain ⟨x, inReroutes, rfl⟩ := List.mem_map.mp inOwn
      exact rewrites_pass inSteps (List.mem_cons_of_mem _ inReroutes)

theorem innerDef_watched : innerDef ∈ watched := List.mem_cons_self

theorem rewrites_steady_list {p : List Char} (member : p ∈ innerDef :: noted) :
    Steady Headed p (runAll (rewrites.map Step.run)) := by
  refine steady_runAll (fun f inRuns => ?_) rewrites_keep
  obtain ⟨s, inSteps, rfl⟩ := List.mem_map.mp inRuns
  exact rewrites_steady member inSteps

theorem runs_swap (headed : Headed t) (first : runAll hybridRuns t = .ok middle)
    (second : runAll retentionRuns middle = .ok out) :
    ∃ other, runAll retentionRuns t = .ok other ∧ runAll hybridRuns other = .ok out := by
  have nonempty : innerDef ≠ [] := by decide
  obtain ⟨based, one, rewritten⟩ := runAll_cons.mp first
  have headedBased := base_keeps t based headed one
  have headedMiddle := keeps_runAll rewrites_keep based middle headedBased rewritten
  obtain ⟨imported, two, rest⟩ := runAll_cons.mp second
  obtain ⟨same, three, late⟩ := runAll_cons.mp rest
  have defined : innerDef <:+: imported := by
    rw [infix_iff_of_steady nonempty (reroutes_steady innerDef_watched List.mem_cons_self)
      headedMiddle two, infix_iff_of_steady nonempty (rewrites_steady_list List.mem_cons_self)
      headedBased rewritten]
    exact base_defines one
  obtain rfl := Except.ok.inj ((base_skips defined).symm.trans three)
  have own : runAll (imports.run :: lateRuns) middle = .ok out :=
    runAll_cons.mpr ⟨imported, two, late⟩
  obtain ⟨other, early, rewrittenLate⟩ := passes_lists lists_pass rewrites_keep own_keeps based
    middle out headedBased rewritten own
  obtain ⟨imported', four, late'⟩ := runAll_cons.mp early
  obtain ⟨start, five, six⟩ := base_passes t based imported' headed one four
  have defined' : innerDef <:+: other := by
    rw [infix_iff_of_steady nonempty (own_steady innerDef_watched) headedBased early]
    exact base_defines one
  exact ⟨other, runAll_cons.mpr ⟨start, five, runAll_cons.mpr ⟨imported', six, late'⟩⟩,
    runAll_cons.mpr ⟨other, base_skips defined', rewrittenLate⟩⟩

theorem verified_retention (headed : Headed t) (done : runAll retentionRuns t = .ok out)
    (before : HybridPrefixHit.verifiedState t = true) :
    HybridPrefixHit.verifiedState out = true := by
  have same : ∀ p ∈ verified, count p out = count p t :=
    fun p member => retention_steady member t out headed done
  have draft : HybridPrefixHit.draftDef ∈ watched := List.mem_cons_of_mem _ List.mem_cons_self
  have nonempty : HybridPrefixHit.draftDef ≠ [] := by decide
  have drafted : HybridPrefixHit.draftDef <:+: t → HybridPrefixHit.draftDef <:+: out := by
    intro present
    obtain ⟨imported, one, rest⟩ := runAll_cons.mp done
    obtain ⟨based, two, late⟩ := runAll_cons.mp rest
    have headed₁ := imports_keep t imported headed one
    have headed₂ := base_keeps imported based headed₁ two
    rw [infix_iff_of_steady nonempty (late_steady draft) headed₂ late]
    rw [← infix_iff_of_steady nonempty (reroutes_steady draft List.mem_cons_self) headed one]
      at present
    rcases run_cases two with ⟨_, rfl⟩ | ⟨_, counted, rfl⟩
    · exact present
    · obtain ⟨P, Q, split, edited⟩ := replaceFirst_of_count base.new counted
      have gap := clear_spec (gap_of_watched (List.mem_cons_of_mem GroupRetention.mark draft))
      have beside := beside_head (Q := Q) gap nonempty (headed₁.starts P Q split)
      have shape : imported = P ++ [] ++ (needle ++ Q) := by
        rw [List.append_nil, ← List.append_assoc]
        exact split
      rw [shape, infix_beside nonempty beside] at present
      have result : replaceFirst base.old base.new imported = P ++ (helper ++ (needle ++ Q)) := by
        rw [edited]
        simp only [base, List.append_assoc]
      rw [result]
      rcases present with left | right
      · exact left.trans (List.prefix_append _ _).isInfix
      · exact right.trans ((List.suffix_append helper _).trans (List.suffix_append P _)).isInfix
  have member : ∀ (i : Nat) {p}, verified[i]? = some p → count p out = count p t :=
    fun i p listed => same p (List.mem_of_getElem? listed)
  have present : ∀ (i : Nat) {p}, verified[i]? = some p → p ≠ [] →
      (p <:+: out ↔ p <:+: t) := by
    intro i p listed some
    rw [← count_pos_iff some, ← count_pos_iff some, member i listed]
  simp only [HybridPrefixHit.verifiedState, Bool.and_eq_true, holds_iff,
    decide_eq_true_eq] at before ⊢
  rw [present 1 rfl (by decide), present 2 rfl (by decide), member 3 rfl, member 4 rfl,
    member 5 rfl, member 6 rfl, member 7 rfl]
  obtain ⟨⟨⟨⟨⟨⟨⟨mark, def'⟩, rest⟩, e⟩, m⟩, l⟩, eo⟩, mo⟩ := before
  exact ⟨⟨⟨⟨⟨⟨⟨mark, drafted def'⟩, rest⟩, e⟩, m⟩, l⟩, eo⟩, mo⟩

end Orders

section Files
variable {py : Python} {f : File} {t middle out : List Char} {final next : Option File}

theorem no_return_of_steady {runs : List Char → Except Nat (List Char)}
    (steady : Steady Headed ['\r'] runs) (headed : Headed t) (done : runs t = .ok out)
    (clean : '\r' ∉ t) : (File.text out).read = some out := by
  have absent : ¬ ['\r'] <:+: out := by
    rw [infix_iff_of_steady (by decide) steady headed done, List.singleton_infix_iff]
    exact clean
  rw [List.singleton_infix_iff] at absent
  rw [File.read, translate_of_no_return _ absent]

theorem hybrid_cases {written : Option (List Char)}
    (done : HybridPrefixHit.patch py t = .ok written) :
    (HybridPrefixHit.mark <:+: t ∧ HybridPrefixHit.verifiedState t = true ∧ written = none) ∨
      ∃ out, ¬ HybridPrefixHit.mark <:+: t ∧ HybridPrefixHit.install t = .ok out ∧
        HybridPrefixHit.verifiedState out = true ∧ py.compiles out = true ∧ written = some out := by
  rw [HybridPrefixHit.patch] at done
  split at done
  · rename_i marked
    obtain ⟨_, checked, rest⟩ := bind_ok done
    cases rest
    exact Or.inl ⟨holds_iff.mp marked, ensure_ok checked, rfl⟩
  · rename_i unmarked
    obtain ⟨out, installed, rest⟩ := bind_ok done
    obtain ⟨_, checked, rest⟩ := bind_ok rest
    obtain ⟨_, compiled, rest⟩ := bind_ok rest
    cases rest
    exact Or.inr ⟨out, by rwa [holds_iff] at unmarked, installed, ensure_ok checked,
      ensure_ok compiled, rfl⟩

theorem hybrid_skips (marked : HybridPrefixHit.mark <:+: t)
    (verified : HybridPrefixHit.verifiedState t = true) :
    HybridPrefixHit.patch py t = .ok none := by
  rw [HybridPrefixHit.patch, if_pos (holds_iff.mpr marked), ensure_of _ verified]
  rfl

theorem hybrid_writes (unmarked : ¬ HybridPrefixHit.mark <:+: t)
    (installed : HybridPrefixHit.install t = .ok out)
    (verified : HybridPrefixHit.verifiedState out = true) (compiled : py.compiles out = true) :
    HybridPrefixHit.patch py t = .ok (some out) := by
  rw [HybridPrefixHit.patch, if_neg (by rwa [holds_iff]), installed, ok_bind,
    ensure_of _ verified, ok_bind, ensure_of _ compiled]
  rfl

theorem retention_cases {written : Option (List Char)}
    (done : GroupRetention.patch t = .ok written) :
    (GroupRetention.mark <:+: t ∧ written = none) ∨
      ∃ out, ¬ GroupRetention.mark <:+: t ∧ GroupRetention.install t = .ok out ∧
        written = some out := by
  rw [GroupRetention.patch] at done
  split at done
  · rename_i marked
    cases done
    exact Or.inl ⟨holds_iff.mp marked, rfl⟩
  · rename_i unmarked
    obtain ⟨out, installed, rest⟩ := bind_ok done
    cases rest
    exact Or.inr ⟨out, by rwa [holds_iff] at unmarked, installed, rfl⟩

theorem retention_skips (marked : GroupRetention.mark <:+: t) :
    GroupRetention.patch t = .ok none := by
  rw [GroupRetention.patch, if_pos (holds_iff.mpr marked)]

theorem retention_writes (unmarked : ¬ GroupRetention.mark <:+: t)
    (installed : GroupRetention.install t = .ok out) : GroupRetention.patch t = .ok (some out) := by
  rw [GroupRetention.patch, if_neg (by rwa [holds_iff]), installed]
  rfl

def StartsLine (t : List Char) : Prop := ∀ P Q, t = P ++ needle ++ Q → P = [] ∨ ['\n'] <:+ P

theorem headed_of (starts : StartsLine t) (counted : count needle t = 1) : Headed t := by
  obtain ⟨-, -, own, -⟩ := needle_checked
  exact ⟨once_of_count (clear_spec own) needle_nonempty counted, starts⟩

theorem hybrid_counts (installed : HybridPrefixHit.install t = .ok out) : count needle t = 1 := by
  obtain ⟨_, checked, _⟩ := bind_ok installed
  exact of_decide_eq_true (ensure_ok checked)

theorem retention_counts (installed : GroupRetention.install t = .ok out) : count needle t = 1 := by
  obtain ⟨_, checked, _⟩ := bind_ok installed
  exact of_decide_eq_true (ensure_ok checked)

theorem hybrid_defines (headed : Headed t) (done : runAll hybridRuns t = .ok out) :
    (¬ innerDef <:+: t → count innerDef out = 1) ∧
      (innerDef <:+: t → count innerDef out = count innerDef t) := by
  obtain ⟨based, first, rest⟩ := runAll_cons.mp done
  have headed' := base_keeps t based headed first
  rw [rewrites_steady_list List.mem_cons_self based out headed' rest]
  refine ⟨fun absent => base_once headed absent first, fun present => ?_⟩
  obtain rfl := Except.ok.inj ((base_skips present).symm.trans first)
  rfl

theorem retention_defines (headed : Headed t) (done : runAll retentionRuns t = .ok out)
    (absent : ¬ innerDef <:+: t) : count innerDef out = 1 := by
  obtain ⟨imported, first, rest⟩ := runAll_cons.mp done
  obtain ⟨based, second, late⟩ := runAll_cons.mp rest
  have headed' := imports_keep t imported headed first
  have headed'' := base_keeps imported based headed' second
  rw [late_steady innerDef_watched based out headed'' late]
  refine base_once headed' ?_ second
  rwa [infix_iff_of_steady (by decide) (reroutes_steady innerDef_watched List.mem_cons_self)
    headed first]

/-- Where both patchers write, the retention patcher also writes when it goes first; the hybrid
    patcher then makes the same text of it, which it still has to compile. -/
theorem writes_swap (headed : Headed t) (clean : '\r' ∉ t)
    (unmarked : ¬ HybridPrefixHit.mark <:+: t) (installed : HybridPrefixHit.install t = .ok middle)
    (verified : HybridPrefixHit.verifiedState middle = true)
    (unmarked' : ¬ GroupRetention.mark <:+: middle)
    (installed' : GroupRetention.install middle = .ok out) :
    ∃ other, GroupRetention.patch t = .ok (some other) ∧
      (File.text other).read = some other ∧ ¬ HybridPrefixHit.mark <:+: other ∧
      HybridPrefixHit.install other = .ok out ∧ HybridPrefixHit.verifiedState out = true ∧
      (File.text out).read = some out ∧ (¬ innerDef <:+: t → count innerDef out = 1) := by
  have runs := (hybrid_installs headed).mp installed
  have headedMiddle := keeps_runAll hybrid_keeps t middle headed runs
  have runs' := (retention_installs headedMiddle).mp installed'
  have readMiddle := no_return_of_steady (hybrid_steady List.mem_cons_self) headed runs clean
  have noticed : GroupRetention.mark <:+: middle ↔ GroupRetention.mark <:+: t :=
    infix_iff_of_steady (by decide) (hybrid_steady (List.mem_of_getElem? (i := 1) rfl)) headed runs
  obtain ⟨other, early, late⟩ := runs_swap headed runs runs'
  have headedOther := keeps_runAll retention_keeps t other headed early
  refine ⟨other, retention_writes (fun marked => unmarked' (noticed.mpr marked))
    ((retention_installs headed).mpr early), no_return_of_steady
    (retention_steady List.mem_cons_self) headed early clean, ?_, (hybrid_installs headedOther).mpr
    late, verified_retention headedMiddle runs' verified, no_return_of_steady
    (retention_steady List.mem_cons_self) headedMiddle runs' (File.no_return_of_read readMiddle),
    ?_⟩
  · rwa [infix_iff_of_steady (by decide)
      (retention_steady (List.mem_of_getElem? (i := 1) rfl)) headed early]
  · intro absent
    have once := retention_defines headed early absent
    have present : innerDef <:+: other := (count_pos_iff (by decide) _).mp (by omega)
    exact ((hybrid_defines headedOther late).2 present).trans once

/-- The patchers commute on a text in which the helpers' anchor begins its line, when the host
    compiles what they leave; the helper they share goes in once. -/
theorem overlays_commute (py : Python) (f : File) (text : List Char) (middle final : Option File)
    (read : f.read = some text) (starts : StartsLine text)
    (first : HybridPrefixHit.main py (some f) = (.ok (), middle))
    (second : GroupRetention.main middle = (.ok (), final))
    (compiles : ∀ g out, final = some g → g.read = some out → py.compiles out = true) :
    (∃ other, GroupRetention.main (some f) = (.ok (), other) ∧
      HybridPrefixHit.main py other = (.ok (), final)) ∧
    (¬ innerDef <:+: text → ¬ (HybridPrefixHit.mark <:+: text ∧ GroupRetention.mark <:+: text) →
      ∃ out, final = some (.text out) ∧ count innerDef out = 1) := by
  have clean := File.no_return_of_read read
  obtain ⟨f', text', same, read', outcome⟩ := rewrite_cases first
  obtain rfl := Option.some.inj same
  obtain rfl := Option.some.inj (read.symm.trans read')
  rcases outcome with ⟨skipped, rfl⟩ | ⟨middle, wrote, rfl⟩
  · rcases hybrid_cases skipped with ⟨marked, verified, _⟩ | ⟨_, _, _, _, _, wrong⟩
    · obtain ⟨f'', text'', same, read'', outcome⟩ := rewrite_cases second
      obtain rfl := Option.some.inj same
      obtain rfl := Option.some.inj (read.symm.trans read'')
      rcases outcome with ⟨skipped', rfl⟩ | ⟨out, wrote, rfl⟩
      · -- both are there already
        refine ⟨⟨some f, rewrite_skips read skipped', rewrite_skips read skipped⟩, ?_⟩
        intro _ unmarked
        rcases retention_cases skipped' with ⟨marked', _⟩ | ⟨_, _, _, wrong⟩
        · exact absurd ⟨marked, marked'⟩ unmarked
        · cases wrong
      · rcases retention_cases wrote with ⟨_, wrong⟩ | ⟨out, unmarked, installed, same⟩
        · cases wrong
        cases same
        have headed := headed_of starts (retention_counts installed)
        have runs := (retention_installs headed).mp installed
        have readOut := no_return_of_steady (retention_steady List.mem_cons_self) headed runs clean
        have markedOut : HybridPrefixHit.mark <:+: out := by
          rwa [infix_iff_of_steady (by decide)
            (retention_steady (List.mem_of_getElem? (i := 1) rfl)) headed runs]
        exact ⟨⟨_, rewrite_writes read wrote, rewrite_skips readOut
          (hybrid_skips markedOut (verified_retention headed runs verified))⟩,
          fun absent _ => ⟨out, rfl, retention_defines headed runs absent⟩⟩
    · cases wrong
  · rcases hybrid_cases wrote with ⟨_, _, wrong⟩ | ⟨middle, unmarked, installed, verified, compiled,
      same⟩
    · cases wrong
    cases same
    have headed := headed_of starts (hybrid_counts installed)
    have runs := (hybrid_installs headed).mp installed
    have readMiddle := no_return_of_steady (hybrid_steady List.mem_cons_self) headed runs clean
    have noticed : GroupRetention.mark <:+: middle ↔ GroupRetention.mark <:+: text :=
      infix_iff_of_steady (by decide) (hybrid_steady (List.mem_of_getElem? (i := 1) rfl)) headed
        runs
    obtain ⟨f'', text'', same, read'', outcome⟩ := rewrite_cases second
    obtain rfl := Option.some.inj same
    obtain rfl := Option.some.inj (readMiddle.symm.trans read'')
    rcases outcome with ⟨skipped, rfl⟩ | ⟨out, wrote', rfl⟩
    · rcases retention_cases skipped with ⟨marked, _⟩ | ⟨_, _, _, wrong⟩
      · exact ⟨⟨_, rewrite_skips read (retention_skips (noticed.mp marked)),
          rewrite_writes read wrote⟩,
          fun absent _ => ⟨middle, rfl, (hybrid_defines headed runs).1 absent⟩⟩
      · cases wrong
    · rcases retention_cases wrote' with ⟨_, wrong⟩ | ⟨out, unmarked', installed', same⟩
      · cases wrong
      cases same
      obtain ⟨other, wroteOther, readOther, fresh, late, verifiedOut, readOut, once⟩ :=
        writes_swap headed clean unmarked installed verified unmarked' installed'
      have wroteOut := hybrid_writes fresh late verifiedOut (compiles _ out rfl readOut)
      exact ⟨⟨_, rewrite_writes read wroteOther, rewrite_writes readOther wroteOut⟩,
        fun absent _ => ⟨out, rfl, once absent⟩⟩

end Files

section Sample
open SchedulerChain (accepting counted lacks read_lines replaced_lines)
open GroupRetention (importOld importNew initOld initNew baseCacheOld baseCacheNew hybridLoopOld
  hybridLoopNew hybridCacheOld hybridCacheNew)

structure Places where
  retentionInit : List Char
  eagleFallback : List Char
  groupLog : List Char
  hybridMin : List Char
  baseCache : List Char
  hybridLoop : List Char
  hybridCache : List Char

def constructing : List (List Char) := [
  verbatim "\n" _ rfl,
  verbatim "\n" _ rfl,
  verbatim "class KVCacheCoordinator:\n" _ rfl,
  verbatim "    def __init__(self, kv_cache_config, use_eagle):\n" _ rfl]

def searching : List (List Char) := [
  verbatim "\n" _ rfl,
  verbatim "    def find_longest_cache_hit(self, curr_hit_length):\n" _ rfl,
  verbatim "        while curr_hit_length:\n" _ rfl,
  verbatim "            for idx, spec in enumerate(self.specs):\n" _ rfl]

def caching : List (List Char) := [
  verbatim "\n" _ rfl,
  verbatim "    def cache_blocks(self, request, num_computed_tokens):\n" _ rfl]

def aligning : List (List Char) := [
  verbatim "\n" _ rfl,
  verbatim "    def cache_aligned(self, request, aligned_num_computed_tokens):\n" _ rfl]

@[simp]
def coordinator (head own : List (List Char)) (p : Places) : List (List Char) :=
  head ++ own ++ constructing ++ [p.retentionInit, p.eagleFallback, p.groupLog] ++ searching ++
    [p.hybridMin] ++ caching ++ [p.baseCache] ++ aligning ++ [p.hybridLoop, p.hybridCache]

@[simp]
def stock : Places :=
  ⟨initOld, eagleOld, logOld, minOld, baseCacheOld, hybridLoopOld, hybridCacheOld⟩

def onceAt (before behind : List (List Char)) (old : List Char) : Bool :=
  found (before ++ [old] ++ behind) [old] 0 200 [PackedText.size before]

theorem count_at {before behind text : List (List Char)} {old : List Char}
    (checked : onceAt before behind old = true) (shape : text = before ++ [old] ++ behind) :
    count old text.flatten = 1 := by
  rw [shape]
  exact counted checked

theorem replaceFirst_at {before behind text after : List (List Char)} {old new : List Char}
    (lines : List (List Char)) (checked : onceAt before behind old = true)
    (shape : text = before ++ [old] ++ behind) (added : lines.flatten = new)
    (edited : after = before ++ lines ++ behind) :
    replaceFirst old new text.flatten = after.flatten := by
  rw [shape]
  exact replaced_lines before lines behind checked rfl added edited

theorem replaceOnce_at {before behind text after : List (List Char)} {old new : List Char}
    (label : String) (checked : onceAt before behind old = true)
    (shape : text = before ++ [old] ++ behind) (edited : after = before ++ [new] ++ behind) :
    replaceOnce label old new text.flatten = .ok after.flatten := by
  rw [replaceOnce, expectOne_of_count (count_at checked shape)]
  exact congrArg Except.ok (replaceFirst_at [new] checked shape (by simp) edited)

@[simp]
def tillInit (own : List (List Char)) : List (List Char) := own ++ constructing

@[simp]
def behindLog (p : Places) : List (List Char) :=
  searching ++ [p.hybridMin] ++ caching ++ [p.baseCache] ++ aligning ++
    [p.hybridLoop, p.hybridCache]

@[simp]
def hybridPlaces : Places :=
  { stock with eagleFallback := eagleNew, groupLog := logNew, hybridMin := minNew }

@[simp]
def bothPlaces : Places :=
  { hybridPlaces with
    retentionInit := initNew, baseCache := baseCacheNew, hybridLoop := hybridLoopNew,
    hybridCache := hybridCacheNew }

def hybridSearched (head own : List (List Char)) : Bool :=
  let helped := head ++ [helper, needle] ++ tillInit own
  let first := { stock with eagleFallback := eagleNew }
  let second := { first with hybridMin := minNew }
  let left := coordinator (head ++ [helper, needle]) own hybridPlaces
  (found (coordinator (head ++ [needle]) own stock) [['\r']] 0 1 [] &&
    found (coordinator (head ++ [needle]) own stock) [HybridPrefixHit.mark] 0 20 [] &&
    found (coordinator (head ++ [needle]) own stock) [innerDef] 0 25 []) &&
  (onceAt head (own ++ constructing ++ [initOld, eagleOld, logOld] ++ behindLog stock) needle &&
    onceAt (helped ++ [initOld]) ([logOld] ++ behindLog stock) eagleOld &&
    onceAt (helped ++ [initOld, eagleNew, logOld] ++ searching) (caching ++ [baseCacheOld] ++
      aligning ++ [hybridLoopOld, hybridCacheOld]) minOld &&
    onceAt (helped ++ [initOld, eagleNew]) (behindLog second) logOld) &&
  (onceAt (helped ++ [initOld]) ([logNew] ++ behindLog hybridPlaces) eagleNew &&
    onceAt (helped ++ [initOld, eagleNew, logNew] ++ searching) (caching ++ [baseCacheOld] ++
      aligning ++ [hybridLoopOld, hybridCacheOld]) minNew &&
    onceAt (helped ++ [initOld, eagleNew]) (behindLog hybridPlaces) logNew &&
    found left [eagleOld] 0 300 [] && found left [minOld] 0 900 [] &&
    found left [['\r']] 0 1 [] && found left [GroupRetention.mark] 0 23 [])

def retentionSearched (opening rest own : List (List Char)) : Bool :=
  let marked := opening ++ [importNew] ++ rest
  let helped := marked ++ [retentionHelper, needle] ++ tillInit own
  (found (coordinator (opening ++ [importOld] ++ rest ++ [needle]) own hybridPlaces) [importLine]
      0 11 [] &&
    onceAt (opening ++ [importOld] ++ rest) (tillInit own ++ [initOld, eagleNew, logNew] ++
      behindLog hybridPlaces) needle) &&
  (onceAt opening (rest ++ [needle] ++ tillInit own ++ [initOld, eagleNew, logNew] ++
      behindLog hybridPlaces) importOld &&
    onceAt marked (tillInit own ++ [initOld, eagleNew, logNew] ++ behindLog hybridPlaces) needle &&
    onceAt helped ([eagleNew, logNew] ++ behindLog hybridPlaces) initOld &&
    onceAt (helped ++ [initNew, eagleNew, logNew] ++ searching ++ [minNew] ++ caching)
      (aligning ++ [hybridLoopOld, hybridCacheOld]) baseCacheOld &&
    onceAt (helped ++ [initNew, eagleNew, logNew] ++ searching ++ [minNew] ++ caching ++
      [baseCacheNew] ++ aligning) [hybridCacheOld] hybridLoopOld &&
    onceAt (helped ++ [initNew, eagleNew, logNew] ++ searching ++ [minNew] ++ caching ++
      [baseCacheNew] ++ aligning ++ [hybridLoopNew]) [] hybridCacheOld)

def anchored : List (List Char) := [
  verbatim "    interval, scheduler_block_size, kv_cache_config\n" _ rfl,
  verbatim "):\n" _ rfl,
  verbatim "    return None\n" _ rfl]

/-- A quoted import with the anchor in its last line. -/
def quote : List (List Char) := [verbatim "\'\'\'\n" _ rfl]

section Hybrid
variable {head own : List (List Char)} (checked : hybridSearched head own = true)
include checked

theorem hybrid_installed :
    HybridPrefixHit.install (coordinator (head ++ [needle]) own stock).flatten =
      .ok (coordinator (head ++ [helper, needle]) own hybridPlaces).flatten := by
  simp only [hybridSearched, Bool.and_eq_true] at checked
  obtain ⟨⟨⟨-, undefined⟩, ⟨⟨⟨anchor, eagle⟩, min⟩, log⟩⟩, -⟩ := checked
  have absent : ¬ holds innerDef (coordinator (head ++ [needle]) own stock).flatten = true := by
    rw [Bool.not_eq_true, ← Bool.not_eq_true']
    exact lacks undefined
  have single : count needle (coordinator (head ++ [needle]) own stock).flatten = 1 :=
    count_at anchor (by simp)
  have helped : replaceFirst needle (helper ++ needle)
      (coordinator (head ++ [needle]) own stock).flatten =
      (coordinator (head ++ [helper, needle]) own stock).flatten :=
    replaceFirst_at [helper, needle] anchor (by simp) (by simp) (by simp)
  have first : replaceOnce "eagle-fallback" eagleOld eagleNew
      (coordinator (head ++ [helper, needle]) own stock).flatten =
      .ok (coordinator (head ++ [helper, needle]) own
        { stock with eagleFallback := eagleNew }).flatten :=
    replaceOnce_at _ eagle (by simp) (by simp)
  have second : replaceOnce "hybrid-min" minOld minNew (coordinator (head ++ [helper, needle]) own
      { stock with eagleFallback := eagleNew }).flatten =
      .ok (coordinator (head ++ [helper, needle]) own
        { stock with eagleFallback := eagleNew, hybridMin := minNew }).flatten :=
    replaceOnce_at _ min (by simp) (by simp)
  have third : replaceOnce "group-log" logOld logNew (coordinator (head ++ [helper, needle]) own
      { stock with eagleFallback := eagleNew, hybridMin := minNew }).flatten =
      .ok (coordinator (head ++ [helper, needle]) own hybridPlaces).flatten :=
    replaceOnce_at _ log (by simp) (by simp)
  rw [HybridPrefixHit.install, ensure_of _ (decide_eq_true single), ok_bind]
  simp only [if_neg absent, helped, first, second, third, ok_bind]

theorem hybrid_verified : HybridPrefixHit.verifiedState
    (coordinator (head ++ [helper, needle]) own hybridPlaces).flatten = true := by
  simp only [hybridSearched, Bool.and_eq_true] at checked
  obtain ⟨-, ⟨⟨⟨⟨⟨⟨eagle, min⟩, log⟩, eagleGone⟩, minGone⟩, -⟩, -⟩⟩ := checked
  have inside : ∀ {p l}, holds p l = true →
      l ∈ coordinator (head ++ [helper, needle]) own hybridPlaces →
      holds p (coordinator (head ++ [helper, needle]) own hybridPlaces).flatten = true :=
    fun marked member => SchedulerChain.inside _ member marked
  have snippets : holds HybridPrefixHit.mark logNew = true ∧
      holds HybridPrefixHit.draftDef helper = true ∧
      holds HybridPrefixHit.swaFallback eagleNew = true := by decide +kernel
  have counts :
      count eagleNew (coordinator (head ++ [helper, needle]) own hybridPlaces).flatten = 1 ∧
      count minNew (coordinator (head ++ [helper, needle]) own hybridPlaces).flatten = 1 ∧
      count logNew (coordinator (head ++ [helper, needle]) own hybridPlaces).flatten = 1 ∧
      count eagleOld (coordinator (head ++ [helper, needle]) own hybridPlaces).flatten = 0 ∧
      count minOld (coordinator (head ++ [helper, needle]) own hybridPlaces).flatten = 0 :=
    ⟨count_at eagle (by simp), count_at min (by simp), count_at log (by simp), counted eagleGone,
      counted minGone⟩
  rw [HybridPrefixHit.verifiedState, inside snippets.1 (by simp), inside snippets.2.1 (by simp),
    inside snippets.2.2 (by simp), counts.1, counts.2.1, counts.2.2.1, counts.2.2.2.1,
    counts.2.2.2.2]
  rfl

theorem stock_read : (File.text (coordinator (head ++ [needle]) own stock).flatten).read =
    some (coordinator (head ++ [needle]) own stock).flatten := by
  simp only [hybridSearched, Bool.and_eq_true] at checked
  exact read_lines checked.1.1.1.1

theorem stock_unmarked :
    ¬ HybridPrefixHit.mark <:+: (coordinator (head ++ [needle]) own stock).flatten := by
  simp only [hybridSearched, Bool.and_eq_true] at checked
  have unmarked := lacks checked.1.1.1.2
  rwa [Bool.not_eq_true', holds_eq_false_iff] at unmarked

theorem hybrid_unmarked : ¬ GroupRetention.mark <:+:
    (coordinator (head ++ [helper, needle]) own hybridPlaces).flatten := by
  simp only [hybridSearched, Bool.and_eq_true] at checked
  have unmarked := lacks checked.2.2
  rwa [Bool.not_eq_true', holds_eq_false_iff] at unmarked

/-- The hybrid patcher on the stock coordinator. -/
theorem hybrid_run {py : Python} (compiled : py.compiles
      (coordinator (head ++ [helper, needle]) own hybridPlaces).flatten = true) :
    HybridPrefixHit.main py
      (some (.text (coordinator (head ++ [needle]) own stock).flatten)) =
      (.ok (), some (.text (coordinator (head ++ [helper, needle]) own hybridPlaces).flatten)) := by
  have wrote := hybrid_writes (stock_unmarked checked) (hybrid_installed checked)
    (hybrid_verified checked) compiled
  rw [HybridPrefixHit.main, rewrite_writes (stock_read checked) wrote]

/-- The anchor of a stock coordinator behind whole lines. -/
theorem stock_starts (lines : ['\n'] <:+ head.flatten) :
    StartsLine (coordinator (head ++ [needle]) own stock).flatten := by
  simp only [hybridSearched, Bool.and_eq_true] at checked
  have counted : count needle (coordinator (head ++ [needle]) own stock).flatten = 1 :=
    count_at checked.1.2.1.1.1 (by simp)
  obtain ⟨-, -, overlaps, -⟩ := needle_checked
  have once := once_of_count (clear_spec overlaps) needle_nonempty counted
  have shape : (coordinator (head ++ [needle]) own stock).flatten = head.flatten ++ needle ++
      (coordinator [] own stock).flatten := by
    simp
  rw [shape] at once ⊢
  exact (headsLine_of once (Or.inr lines)).starts

end Hybrid

@[simp]
def rerouted (opening rest own : List (List Char)) (p : Places) : List (List Char) :=
  coordinator (opening ++ [importNew] ++ rest ++ [retentionHelper, needle]) own p

section Retention
variable {opening rest own : List (List Char)} (checked : retentionSearched opening rest own = true)
include checked

theorem retention_helped (defined : holds innerDef rest.flatten = true) :
    ∃ imported, GroupRetention.addImport
      (coordinator (opening ++ [importOld] ++ rest ++ [needle]) own hybridPlaces).flatten =
        .ok imported ∧ holds GroupRetention.innerDef imported = true ∧
      replaceFirst GroupRetention.needle (retentionHelper ++ GroupRetention.needle) imported =
        (rerouted opening rest own hybridPlaces).flatten := by
  simp only [retentionSearched, Bool.and_eq_true] at checked
  obtain ⟨⟨fresh, -⟩, ⟨⟨⟨⟨⟨imported, anchor⟩, -⟩, -⟩, -⟩, -⟩⟩ := checked
  have absent : ¬ holds importLine (coordinator (opening ++ [importOld] ++ rest ++ [needle]) own
      hybridPlaces).flatten = true := by
    rw [Bool.not_eq_true, ← Bool.not_eq_true']
    exact lacks fresh
  refine ⟨(coordinator (opening ++ [importNew] ++ rest ++ [needle]) own hybridPlaces).flatten,
    ?_, ?_, ?_⟩
  · rw [GroupRetention.addImport, if_neg absent]
    exact replaceOnce_at _ imported (by simp) (by simp)
  · rw [holds_iff] at defined ⊢
    refine defined.trans ?_
    simp only [coordinator, List.flatten_append, List.append_assoc]
    exact (List.prefix_append _ _).isInfix.trans ((List.suffix_append _ _).trans
      (List.suffix_append _ _)).isInfix
  · rw [shared.2.1]
    exact replaceFirst_at [retentionHelper, needle] anchor (by simp) (by simp) (by simp)

theorem retention_installed (defined : holds innerDef rest.flatten = true) :
    GroupRetention.install
      (coordinator (opening ++ [importOld] ++ rest ++ [needle]) own hybridPlaces).flatten =
      .ok (rerouted opening rest own bothPlaces).flatten := by
  obtain ⟨imported, opened, there, helped⟩ := retention_helped checked defined
  simp only [retentionSearched, Bool.and_eq_true] at checked
  obtain ⟨⟨-, once⟩, ⟨⟨⟨⟨⟨-, -⟩, init⟩, cache⟩, loop⟩, hybrid⟩⟩ := checked
  have single : count GroupRetention.needle
      (coordinator (opening ++ [importOld] ++ rest ++ [needle]) own hybridPlaces).flatten = 1 := by
    rw [shared.2.1]
    exact count_at once (by simp)
  have first : replaceOnce "retention-init" initOld initNew
      (rerouted opening rest own hybridPlaces).flatten =
      .ok (rerouted opening rest own { hybridPlaces with retentionInit := initNew }).flatten :=
    replaceOnce_at _ init (by simp) (by simp)
  have second : replaceOnce "base-cache_blocks" baseCacheOld baseCacheNew
      (rerouted opening rest own { hybridPlaces with retentionInit := initNew }).flatten =
      .ok (rerouted opening rest own
        { hybridPlaces with retentionInit := initNew, baseCache := baseCacheNew }).flatten :=
    replaceOnce_at _ cache (by simp) (by simp)
  have third : replaceOnce "hybrid-loop" hybridLoopOld hybridLoopNew
      (rerouted opening rest own
        { hybridPlaces with retentionInit := initNew, baseCache := baseCacheNew }).flatten =
      .ok (rerouted opening rest own { bothPlaces with hybridCache := hybridCacheOld }).flatten :=
    replaceOnce_at _ loop (by simp) (by simp)
  have fourth : replaceOnce "hybrid-cache_blocks" hybridCacheOld hybridCacheNew
      (rerouted opening rest own { bothPlaces with hybridCache := hybridCacheOld }).flatten =
      .ok (rerouted opening rest own bothPlaces).flatten :=
    replaceOnce_at _ hybrid (by simp) (by simp)
  rw [GroupRetention.install, ensure_of _ (decide_eq_true single), ok_bind, opened, ok_bind]
  simp only [if_pos there, helped, first, second, third, fourth, ok_bind]

theorem retention_behind {head : List (List Char)}
    (same : (head ++ [helper, needle]).flatten =
      (opening ++ [importOld] ++ rest ++ [needle]).flatten)
    (defined : holds innerDef rest.flatten = true) : GroupRetention.install
      (coordinator (head ++ [helper, needle]) own hybridPlaces).flatten =
      .ok (rerouted opening rest own bothPlaces).flatten := by
  have whole : (coordinator (head ++ [helper, needle]) own hybridPlaces).flatten =
      (coordinator (opening ++ [importOld] ++ rest ++ [needle]) own hybridPlaces).flatten := by
    simp only [coordinator, List.flatten_append, List.append_assoc] at same ⊢
    simp only [← List.append_assoc] at same ⊢
    rw [same]
  rw [whole]
  exact retention_installed checked defined

theorem retention_run {head : List (List Char)} (before : hybridSearched head own = true)
    (same : (head ++ [helper, needle]).flatten =
      (opening ++ [importOld] ++ rest ++ [needle]).flatten)
    (defined : holds innerDef rest.flatten = true) : GroupRetention.main
      (some (.text (coordinator (head ++ [helper, needle]) own hybridPlaces).flatten)) =
      (.ok (), some (.text (rerouted opening rest own bothPlaces).flatten)) := by
  have unmarked := hybrid_unmarked before
  simp only [hybridSearched, Bool.and_eq_true] at before
  rw [GroupRetention.main, rewrite_writes (read_lines before.2.1.2)
    (retention_writes unmarked (retention_behind checked same defined))]

end Retention

def sample : List (List Char) := coordinator ([importOld] ++ [needle]) anchored stock

theorem sample_searched : hybridSearched [importOld] anchored = true ∧
    retentionSearched [] [helper] anchored = true := by
  simp only [hybridSearched, retentionSearched, onceAt, found, located, confined, lines_quick,
    size_quick]
  decide +kernel

example : sample.length = 24 := by decide +kernel

theorem imports_end : ['\n'] <:+ importOld := suffix_of_getLast? (by decide +kernel)

theorem sample_starts : StartsLine sample.flatten := by
  obtain ⟨searched, -⟩ := sample_searched
  exact stock_starts searched (by simpa using imports_end)

/-- On the sample both orders leave the same file, with the helper in it once. -/
theorem overlays_commute_sample :
    (∃ other, GroupRetention.main (some (.text sample.flatten)) = (.ok (), other) ∧
      HybridPrefixHit.main accepting other =
        (.ok (), some (.text (rerouted [] [helper] anchored bothPlaces).flatten))) ∧
    (¬ innerDef <:+: sample.flatten →
      ¬ (HybridPrefixHit.mark <:+: sample.flatten ∧ GroupRetention.mark <:+: sample.flatten) →
      ∃ out, some (File.text (rerouted [] [helper] anchored bothPlaces).flatten) =
        some (.text out) ∧ count innerDef out = 1) := by
  obtain ⟨searched, searchedLater⟩ := sample_searched
  have first := hybrid_run searched (rfl : accepting.compiles _ = true)
  have second := retention_run searchedLater searched (by simp) (by decide +kernel)
  exact overlays_commute accepting _ _ _ _ (stock_read searched) sample_starts first
    second fun _ _ _ _ => rfl

/-- The same coordinator with its imports quoted, the anchor glued to the last of them. -/
def glued : List (List Char) :=
  coordinator (quote ++ [importOld.dropLast] ++ [needle]) quote stock

theorem glued_searched : hybridSearched (quote ++ [importOld.dropLast]) quote = true ∧
    retentionSearched quote [helper.tail] quote = true ∧
    found glued [GroupRetention.mark] 0 23 [] = true ∧ found glued [importLine] 0 11 [] = true ∧
    found glued [importOld] 0 80 [] = true := by
  simp only [hybridSearched, retentionSearched, onceAt, found, located, confined, lines_quick,
    size_quick]
  decide +kernel

example : glued.length = 23 := by decide +kernel

theorem glued_one_order : ∃ middle final,
    HybridPrefixHit.main accepting (some (.text glued.flatten)) = (.ok (), middle) ∧
    GroupRetention.main middle = (.ok (), final) ∧
    ¬ ∃ other, GroupRetention.main (some (.text glued.flatten)) = (.ok (), other) := by
  obtain ⟨hybrid, retention, unmarked, noImport, noAnchor⟩ := glued_searched
  have same : (quote ++ [importOld.dropLast] ++ [helper, needle]).flatten =
      (quote ++ [importOld] ++ [helper.tail] ++ [needle]).flatten := by
    decide +kernel
  have first := hybrid_run hybrid (rfl : accepting.compiles _ = true)
  have second := retention_run retention hybrid same (by decide +kernel)
  refine ⟨_, _, first, second, ?_⟩
  rintro ⟨other, done⟩
  obtain ⟨f, text, here, read, outcome⟩ := rewrite_cases done
  obtain rfl := Option.some.inj here
  obtain rfl := Option.some.inj ((stock_read hybrid).symm.trans read)
  have installed : ∃ out, GroupRetention.install glued.flatten = .ok out := by
    have fresh := lacks unmarked
    rw [Bool.not_eq_true', holds_eq_false_iff] at fresh
    rcases outcome with ⟨skipped, _⟩ | ⟨out, wrote, _⟩
    · rcases retention_cases skipped with ⟨marked, _⟩ | ⟨_, _, _, wrong⟩
      · exact absurd marked fresh
      · cases wrong
    · rcases retention_cases wrote with ⟨_, wrong⟩ | ⟨out, _, made, _⟩
      · cases wrong
      · exact ⟨out, made⟩
  obtain ⟨out, made⟩ := installed
  obtain ⟨_, _, rest⟩ := bind_ok made
  obtain ⟨imported, first, _⟩ := bind_ok rest
  rcases run_cases (imports_iff.mp first) with ⟨skipped, _⟩ | ⟨_, once, _⟩
  · have absent := lacks noImport
    rw [Bool.not_eq_true'] at absent
    rw [imports_skips, absent] at skipped
    cases skipped
  · have none : count importOld glued.flatten = 0 := counted noAnchor
    exact absurd (once.symm.trans none) (by decide)

/-- A name of the retention patcher, declared global behind the anchor's lines. -/
def declared : List Char := verbatim "global _glm53_swa_retention_env\n" _ rfl

def defining : List Char :=
  verbatim "def _glm53_swa_retention_env(  # [glm53-apc-per-group]\n" _ rfl

/-- The host refuses a name defined and then declared global. -/
def refusing : Python :=
  { accepting with compiles := fun text => !(holds defining text && holds declared text) }

theorem refusing_compiles (text : List Char) : refusing.compiles text =
    !(holds defining text && holds declared text) :=
  rfl

/-- The sample with that line. -/
def redeclared : List (List Char) :=
  coordinator ([importOld] ++ [needle]) (anchored ++ [declared]) stock

theorem redeclared_searched : hybridSearched [importOld] (anchored ++ [declared]) = true ∧
    retentionSearched [] [helper] (anchored ++ [declared]) = true := by
  simp only [hybridSearched, retentionSearched, onceAt, found, located, confined, lines_quick,
    size_quick]
  decide +kernel

theorem refused : refusing.compiles
    (rerouted [] [helper] (anchored ++ [declared]) bothPlaces).flatten = false := by
  have inside : ∀ {p l}, holds p l = true →
      l ∈ rerouted [] [helper] (anchored ++ [declared]) bothPlaces →
      holds p (rerouted [] [helper] (anchored ++ [declared]) bothPlaces).flatten = true :=
    fun marked member => SchedulerChain.inside _ member marked
  have snippets : holds defining retentionHelper = true ∧ holds declared declared = true := by
    decide +kernel
  rw [refusing_compiles, inside snippets.1 (by simp), inside snippets.2 (by simp), Bool.and_self,
    Bool.not_true]

theorem hybrid_compiled : refusing.compiles (coordinator ([importOld] ++ [helper, needle])
    (anchored ++ [declared]) hybridPlaces).flatten = true := by
  obtain ⟨searched, -⟩ := redeclared_searched
  have unmarked := hybrid_unmarked searched
  have within : GroupRetention.mark <:+: defining := holds_iff.mp (by decide +kernel)
  have absent : holds defining (coordinator ([importOld] ++ [helper, needle])
      (anchored ++ [declared]) hybridPlaces).flatten = false := by
    rw [holds_eq_false_iff]
    exact fun present => unmarked (within.trans present)
  rw [refusing_compiles, absent, Bool.false_and, Bool.not_false]

/-- There the text between the two compiles and the final one does not: the retention patcher,
    which compiles nothing, may only come last. -/
theorem refused_one_order : StartsLine redeclared.flatten ∧ ∃ middle final,
    HybridPrefixHit.main refusing (some (.text redeclared.flatten)) = (.ok (), middle) ∧
    GroupRetention.main middle = (.ok (), final) ∧
    ¬ ∃ other next, GroupRetention.main (some (.text redeclared.flatten)) = (.ok (), other) ∧
      HybridPrefixHit.main refusing other = (.ok (), next) := by
  obtain ⟨hybrid, retention⟩ := redeclared_searched
  have starts := stock_starts hybrid (by simpa using imports_end)
  have first := hybrid_run hybrid hybrid_compiled
  have second := retention_run retention hybrid (by simp) (by decide +kernel)
  refine ⟨starts, _, _, first, second, ?_⟩
  rintro ⟨other', next, early, late⟩
  have read := stock_read hybrid
  have installed := hybrid_installed hybrid
  obtain ⟨other, wrote, readOther, fresh, made, -, -, -⟩ :=
    writes_swap (headed_of starts (hybrid_counts installed)) (File.no_return_of_read read)
      (stock_unmarked hybrid) installed (hybrid_verified hybrid) (hybrid_unmarked hybrid)
      (retention_behind retention (by simp) (by decide +kernel))
  have there := rewrite_writes read wrote
  obtain rfl : some (File.text other) = other' :=
    congrArg Prod.snd (there.symm.trans early)
  obtain ⟨f, text, here, read', outcome⟩ := rewrite_cases late
  obtain rfl := Option.some.inj here
  obtain rfl := Option.some.inj (readOther.symm.trans read')
  rcases outcome with ⟨skipped, _⟩ | ⟨out, wrote', _⟩
  · rcases hybrid_cases skipped with ⟨marked, _⟩ | ⟨_, _, _, _, _, wrong⟩
    · exact fresh marked
    · cases wrong
  · rcases hybrid_cases wrote' with ⟨_, _, wrong⟩ | ⟨out', _, made', _, compiled, _⟩
    · cases wrong
    · obtain rfl := Except.ok.inj (made.symm.trans made')
      rw [refused] at compiled
      cases compiled

/-- Only one of the orders works on an anchor glued to another line, and only one where the host
    refuses the final text. -/
theorem one_order_only :
    (∃ middle final, HybridPrefixHit.main accepting (some (.text glued.flatten)) = (.ok (), middle) ∧
      GroupRetention.main middle = (.ok (), final) ∧
      ¬ ∃ other, GroupRetention.main (some (.text glued.flatten)) = (.ok (), other)) ∧
    (StartsLine redeclared.flatten ∧ ∃ middle final,
      HybridPrefixHit.main refusing (some (.text redeclared.flatten)) = (.ok (), middle) ∧
      GroupRetention.main middle = (.ok (), final) ∧
      ¬ ∃ other next, GroupRetention.main (some (.text redeclared.flatten)) = (.ok (), other) ∧
        HybridPrefixHit.main refusing other = (.ok (), next)) :=
  ⟨glued_one_order, refused_one_order⟩

end Sample

end Installers.OverlayOrder
