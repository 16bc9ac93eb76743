import Glm53Overlay.Installers.FloorVersions
import Glm53Overlay.Installers.SchedulerChain

/-!
Every road to the decode floor ends in one file: the install, the upgrades of what older installs
left, and the run on its own output. A marked text without its form's snippets is refused.
-/
namespace Installers.FloorConfluence
open TextFile TextSearch TextEdit TextPatch PackedText DecodeFloor FloorVersions

/-- The run on this text, and on what the install leaves with either older helper, ends with this
    text. -/
def Confluent (py : Python) (text out : List Char) : Prop :=
  main py (some (.text out)) = (.ok (), some (.text out)) ∧
    ∀ h ∈ olderHelpers, ∃ left, installWith h text = .ok left ∧
      main py (some (.text left)) = (.ok (), some (.text out))

/-- An older helper stands once where the v3.1 helper stood, unless it stood beside it. -/
theorem older_once {old u Q : List Char} (member : old ∈ olderHelpers)
    (absent : ¬ old <:+: u ++ helperV31Only ++ Q) : Once old (u ++ old ++ Q) := by
  obtain ⟨-, checked⟩ := older_checked
  have apart := clear_spec (clear_of_charsApart (List.all_eq_true.mp checked old member))
  have window := helper_ends (List.mem_cons_of_mem helperV31Only member)
  have window' := helper_ends (h := helperV31Only) List.mem_cons_self
  rw [← window'] at absent
  have once : Once (['\n'] ++ old.tail.dropLast ++ ['\n'])
      (u ++ (['\n'] ++ old.tail.dropLast ++ ['\n']) ++ Q) := by
    refine once_insert (m := helperV31Only.tail.dropLast) ?_ ?_
    · rwa [window]
    · rwa [window]
  rwa [window] at once

theorem upgradeToV31_of {label failed : String} {old u Q : List Char} (member : old ∈ olderHelpers)
    (absent : ¬ old <:+: u ++ helperV31Only ++ Q)
    (gate : count gateDef (u ++ helperV31Only ++ Q) = 1) :
    upgradeToV31 label old failed (u ++ old ++ Q) = .ok (u ++ helperV31Only ++ Q) := by
  have nonempty : ∀ h ∈ olderHelpers, h ≠ [] := by decide
  have once := older_once member absent
  have marked : markV31 <:+: u ++ helperV31Only ++ Q :=
    List.IsInfix.trans markV31_in_helper ⟨u, Q, rfl⟩
  have post : (holds markV31 (u ++ helperV31Only ++ Q) && !holds old (u ++ helperV31Only ++ Q) &&
      count gateDef (u ++ helperV31Only ++ Q) = 1) = true := by
    rw [holds_iff.mpr marked, holds_eq_false_iff.mpr absent, decide_eq_true gate]
    rfl
  rw [upgradeToV31, replaceOnce, expectOne_of_count (count_of_once (nonempty old member) once),
    replaceFirst_of_once _ once, ok_bind]
  change (ensure _ _ >>= _) = _
  rw [ensure_of _ post]
  rfl

theorem markV3_in_helper : markV3 <:+: helperV3Only := by
  have marked : (find markV3 helperV3Only).isSome = true := by decide +kernel
  exact (find_isSome_iff _ _).mp marked

theorem markV2_in_helper : markV2 <:+: helperV2Only := by
  have marked : (find markV2 helperV2Only).isSome = true := by decide +kernel
  exact (find_isSome_iff _ _).mp marked

structure Valid (py : Python) (text : List Char) : Prop where
  helper : count helperV31Only text = 1
  policy : count helperPolicy text = 1
  running : count runningNew text = 1
  waiting : count waitingNew text = 1
  noV2 : ¬ helperV2Only <:+: text
  noV3 : ¬ helperV3Only <:+: text

theorem valid_of {py : Python} {text : List Char} {u : Unit}
    (checked : validateV31 py text = .ok u) : Valid py text := by
  obtain ⟨_, helper, rest⟩ := bind_ok checked
  obtain ⟨_, policy, rest⟩ := bind_ok rest
  obtain ⟨_, running, rest⟩ := bind_ok rest
  obtain ⟨_, waiting, rest⟩ := bind_ok rest
  obtain ⟨_, older, rest⟩ := bind_ok rest
  have gone := ensure_ok older
  rw [Bool.and_eq_true, Bool.not_eq_true', Bool.not_eq_true', holds_eq_false_iff,
    holds_eq_false_iff] at gone
  exact ⟨expectOne_ok helper, expectOne_ok policy, expectOne_ok running, expectOne_ok waiting,
    gone.1, gone.2⟩

theorem verified_of {py : Python} {out : List Char} (valid : validateV31 py out = .ok ())
    (compiles : py.compiles out = true) : verified py out = .ok (some out) := by
  rw [verified, valid, ok_bind, ensure_of _ compiles]
  rfl

theorem patch_upgrades {py : Python} {text out : List Char}
    (valid : validateV31 py out = .ok ()) (compiles : py.compiles out = true)
    (unmarked : ¬ markV31 <:+: text)
    (upgrade : (markV3 <:+: text ∧ upgradeV3ToV31 text = .ok out) ∨
      ¬ markV3 <:+: text ∧ markV2 <:+: text ∧ upgradeV2ToV31 text = .ok out) :
    patch py text = .ok (some out) := by
  have checked := verified_of valid compiles
  rw [patch, if_neg (by rw [holds_iff]; exact unmarked)]
  rcases upgrade with ⟨third, upgraded⟩ | ⟨notThird, second, upgraded⟩
  · rw [if_pos (holds_iff.mpr third), upgraded]
    exact checked
  · rw [if_neg (by rw [holds_iff]; exact notThird), if_pos (holds_iff.mpr second), upgraded]
    exact checked

theorem patch_skips {py : Python} {out : List Char} (valid : validateV31 py out = .ok ()) :
    patch py out = .ok none := by
  have marked : markV31 <:+: out :=
    List.IsInfix.trans markV31_in_helper ((count_pos_iff (by decide) out).mp (by
      rw [(valid_of valid).helper]
      exact Nat.one_pos))
  rw [patch, if_pos (holds_iff.mpr marked), valid]
  rfl

theorem patch_pristine (py : Python) {text : List Char} (pristine : Pristine text) :
    patch py text = installPristine text >>= verified py := by
  obtain ⟨noV31, noV3, noV2, noMark⟩ := pristine
  rw [patch, if_neg (by rw [holds_iff]; exact noV31), if_neg (by rw [holds_iff]; exact noV3),
    if_neg (by rw [holds_iff]; exact noV2), if_neg (by rw [holds_iff]; exact noMark)]

theorem pristine_run {py : Python} {f : File} {text out : List Char} (read : f.read = some text)
    (pristine : Pristine text) (done : main py (some f) = (.ok (), some (.text out))) :
    installWith helperV31Only text = .ok out ∧ validateV31 py out = .ok () ∧
      py.compiles out = true := by
  obtain ⟨g, text', same, read', outcome⟩ := rewrite_cases done
  obtain rfl := Option.some.inj same
  obtain rfl := Option.some.inj (read.symm.trans read')
  rw [patch_pristine py pristine] at outcome
  rcases outcome with ⟨nothing, _⟩ | ⟨out', wrote, final⟩
  · obtain ⟨_, _, last⟩ := bind_ok nothing
    cases (verified_ok last).2
  · obtain ⟨made, installed, last⟩ := bind_ok wrote
    obtain ⟨valid, written⟩ := verified_ok last
    cases written
    cases final
    obtain ⟨_, _, rest⟩ := bind_ok last
    obtain ⟨_, compiled, _⟩ := bind_ok rest
    exact ⟨installed, valid, ensure_ok compiled⟩

theorem installWith_mem {h text out : List Char} {c : Char} (done : installWith h text = .ok out)
    (member : c ∈ out) :
    c ∈ text ∨ c ∈ importNew ++ (h ++ helperPolicy ++ needle) ++ runningNew ++ waitingNew := by
  obtain ⟨t₁, imported, done⟩ := bind_ok done
  obtain ⟨t₂, helped, done⟩ := bind_ok done
  obtain ⟨t₃, running, waiting⟩ := bind_ok done
  rw [List.mem_append, List.mem_append, List.mem_append]
  rw [replaceOnce_ok waiting] at member
  rcases mem_replaceFirst member with member | added
  · rw [replaceOnce_ok running] at member
    rcases mem_replaceFirst member with member | added
    · have opened : ∀ {d}, d ∈ t₁ → d ∈ text ∨ d ∈ importNew := by
        intro d inside
        rw [addImport] at imported
        split at imported
        · cases imported
          exact Or.inl inside
        · rw [replaceOnce_ok imported] at inside
          exact mem_replaceFirst inside
      rw [addHelper] at helped
      split at helped
      · cases helped
        rcases opened member with inside | added
        · exact Or.inl inside
        · exact Or.inr (Or.inl (Or.inl (Or.inl added)))
      · obtain ⟨_, _, replaced⟩ := bind_ok helped
        cases replaced
        rcases mem_replaceFirst member with member | added
        · rcases opened member with inside | added
          · exact Or.inl inside
          · exact Or.inr (Or.inl (Or.inl (Or.inl added)))
        · exact Or.inr (Or.inl (Or.inl (Or.inr added)))
    · exact Or.inr (Or.inl (Or.inr added))
  · exact Or.inr (Or.inr added)

theorem parts_no_return : ((helpers ++ [importNew, helperPolicy, needle, runningNew,
    waitingNew]).all fun part => part.all (· != '\r')) = true := by
  decide +kernel

theorem installWith_no_return {h text out : List Char} (member : h ∈ helpers)
    (clean : '\r' ∉ text) (done : installWith h text = .ok out) : '\r' ∉ out := by
  intro inside
  have free : ∀ part ∈ helpers ++ [importNew, helperPolicy, needle, runningNew, waitingNew],
      '\r' ∉ part := by
    intro part listed within
    have differ := List.all_eq_true.mp (List.all_eq_true.mp parts_no_return part listed) '\r' within
    cases differ
  rcases installWith_mem done inside with early | added
  · exact clean early
  · simp only [List.mem_append] at added
    rcases added with ((imported | (helper | policy) | anchor) | running) | waiting
    · exact free importNew (by simp) imported
    · exact free h (List.mem_append_left _ member) helper
    · exact free helperPolicy (by simp) policy
    · exact free needle (by simp) anchor
    · exact free runningNew (by simp) running
    · exact free waitingNew (by simp) waiting

/-- The gate is not defined in the text; then all the runs agree, and otherwise the upgrades
    refuse what the install takes. -/
theorem confluent_iff {py : Python} {f : File} {text out : List Char} (read : f.read = some text)
    (pristine : Pristine text) (done : main py (some f) = (.ok (), some (.text out))) :
    Confluent py text out ↔ ¬ gateDef <:+: text := by
  obtain ⟨installed, valid, compiles⟩ := pristine_run read pristine done
  have clean := File.no_return_of_read read
  have first : helperV31Only ∈ helpers := List.mem_cons_self
  obtain ⟨imported, ready, _⟩ := bind_ok installed
  have fresh : holds policyDef imported = false := by
    rw [Bool.eq_false_iff]
    intro taken
    refine absent_without_helper ready taken pristine.1 installed
      (List.IsInfix.trans markV31_in_helper ?_)
    refine (count_pos_iff (by decide) out).mp ?_
    rw [(valid_of valid).helper]
    exact Nat.one_pos
  obtain ⟨u, Q, installs⟩ := installWith_any first ready fresh installed
  obtain rfl := Except.ok.inj ((installs _ first).symm.trans installed)
  have gate := gate_counted ready fresh installed
  have inside : ∀ {h}, h <:+: u ++ h ++ Q := fun {h} => ⟨u, Q, rfl⟩
  have readBack : ∀ h ∈ helpers, (File.text (u ++ h ++ Q)).read = some (u ++ h ++ Q) := by
    intro h member
    rw [File.read,
      translate_of_no_return _ (installWith_no_return member clean (installs h member))]
  have third : helperV3Only ∈ helpers := List.mem_cons_of_mem _ List.mem_cons_self
  have second : helperV2Only ∈ helpers :=
    List.mem_cons_of_mem _ (List.mem_cons_of_mem _ List.mem_cons_self)
  have unmarked₃ : ¬ markV31 <:+: u ++ helperV3Only ++ Q :=
    absent_installWith List.mem_cons_self pristine.1 (installs _ third)
  constructor
  · rintro ⟨-, upgraded⟩
    rw [← gate]
    obtain ⟨left, made, ran⟩ := upgraded helperV3Only List.mem_cons_self
    obtain rfl := Except.ok.inj ((installs _ third).symm.trans made)
    obtain ⟨g, text', same, read', outcome⟩ := rewrite_cases ran
    obtain rfl := Option.some.inj same
    obtain rfl := Option.some.inj ((readBack _ third).symm.trans read')
    have taken : patch py (u ++ helperV3Only ++ Q) =
        upgradeV3ToV31 (u ++ helperV3Only ++ Q) >>= verified py := by
      rw [patch, if_neg (by rw [holds_iff]; exact unmarked₃),
        if_pos (holds_iff.mpr (List.IsInfix.trans markV3_in_helper inside))]
    rw [taken] at outcome
    have upgraded : ∃ made, upgradeV3ToV31 (u ++ helperV3Only ++ Q) = .ok made := by
      rcases outcome with ⟨nothing, _⟩ | ⟨out', wrote, _⟩
      · obtain ⟨made, upgraded, _⟩ := bind_ok nothing
        exact ⟨made, upgraded⟩
      · obtain ⟨made, upgraded, _⟩ := bind_ok wrote
        exact ⟨made, upgraded⟩
    obtain ⟨made, upgraded⟩ := upgraded
    obtain ⟨replaced, once, post⟩ := bind_ok upgraded
    obtain ⟨_, checked, _⟩ := bind_ok post
    have counted := ensure_ok checked
    rw [replaceOnce_ok once, replaceFirst_of_once _
      (older_once List.mem_cons_self (valid_of valid).noV3)] at counted
    exact of_decide_eq_true (Bool.and_eq_true_iff.mp counted).2
  · intro ungated
    have one := gate.mpr ungated
    have upgrades : ∀ old ∈ olderHelpers, ∀ label failed,
        ¬ old <:+: u ++ helperV31Only ++ Q → upgradeToV31 label old failed (u ++ old ++ Q) =
          .ok (u ++ helperV31Only ++ Q) :=
      fun old member label failed absent => upgradeToV31_of member absent one
    refine ⟨rewrite_skips (readBack _ first) (patch_skips valid), fun h member => ?_⟩
    refine ⟨u ++ h ++ Q, installs h (List.mem_cons_of_mem _ member), ?_⟩
    simp only [olderHelpers, List.mem_cons, List.not_mem_nil, or_false] at member
    rcases member with rfl | rfl
    · exact rewrite_writes (readBack _ third) (patch_upgrades valid compiles unmarked₃
        (Or.inl ⟨List.IsInfix.trans markV3_in_helper inside,
          upgrades _ List.mem_cons_self _ _ (valid_of valid).noV3⟩))
    · have unmarked : ∀ m, (m, helperV2Only) ∈ lacking → ¬ m <:+: text →
          ¬ m <:+: u ++ helperV2Only ++ Q :=
        fun m lacks absent => absent_installWith lacks absent (installs _ second)
      refine rewrite_writes (readBack _ second) (patch_upgrades valid compiles
        (unmarked markV31 (List.mem_cons_of_mem _ List.mem_cons_self) pristine.1)
        (Or.inr ⟨unmarked markV3 (List.mem_cons_of_mem _ (List.mem_cons_of_mem _
          List.mem_cons_self)) pristine.2.1, List.IsInfix.trans markV2_in_helper inside, ?_⟩))
      exact upgrades _ (List.mem_cons_of_mem _ List.mem_cons_self) _ _ (valid_of valid).noV2

/-- What a text of each form holds, under the marker by which a run knows the form. -/
def forms : List (List Char × List (List Char)) := [
  (markV31, [helperV31Only, helperPolicy, runningNew, waitingNew]),
  (markV3, [helperV3Only, helperPolicy, runningNew, waitingNew]),
  (markV2, [helperV2Only, helperPolicy, runningNew, waitingNew]),
  (mark, [v1Running, v1Waiting, helperPolicy])]

theorem upgrade_counts {label failed : String} {old text out : List Char}
    (member : old ∈ olderHelpers) (done : upgradeToV31 label old failed text = .ok out) :
    count old text = 1 ∧ ∀ s ∈ snippets, count s text = count s out := by
  obtain ⟨made, replaced, post⟩ := bind_ok done
  obtain ⟨_, _, kept⟩ := bind_ok post
  cases kept
  obtain ⟨_, once, _⟩ := bind_ok replaced
  have counted := expectOne_ok once
  refine ⟨counted, fun s listed => ?_⟩
  obtain ⟨u, v, split, edited⟩ := replaceFirst_of_count helperV31Only counted
  have window : ∀ h ∈ helpers, u ++ h ++ v = u ++ (['\n'] ++ h.tail ++ []) ++ v := by
    intro h inHelpers
    rw [List.append_nil, List.singleton_append, ← helpers_open h inHelpers]
  have older : old ∈ helpers := List.mem_cons_of_mem _ member
  have newest : helperV31Only ∈ helpers := List.mem_cons_self
  rw [replaceOnce_ok replaced, edited, split, window old older, window _ newest]
  exact count_edit (snippets_nonempty s listed) (apart_of_helper older listed)
    (apart_of_helper newest listed)

theorem v1_checked : ([v1Running, v2Running].all fun m => clear false v1Waiting [] m []) = true ∧
    ([v1Running, v2Running, v1Waiting, v2Waiting].all fun m =>
      clear false policyHead [] m [] && clear false helperPolicy [] m []) = true ∧
    clear true policyHead [] policyHead [] = true ∧
    clear false policyHead [] [] policyHead = true ∧
    charsApart 32 false policyHead [] helperV2Only policyHead = true ∧
    policyHead <+: helperPolicy := by
  simp only [charsApart_quick]
  decide +kernel

/-- The policy itself begins with its head. -/
example : clear false policyHead [] helperPolicy [] = false := by decide +kernel

/-- Behind the inserted helper the policy stands where it stood. -/
theorem policy_once {text : List Char} (heads : count policyHead text = 1)
    (present : helperPolicy <:+: replaceFirst policyHead (helperV2Only ++ policyHead) text) :
    count helperPolicy text = 1 := by
  obtain ⟨-, -, own, gap, helper, opens⟩ := v1_checked
  have headed : policyHead ≠ [] := by decide
  have here := once_of_count (clear_spec own) headed heads
  obtain ⟨u, v, split, edited⟩ := replaceFirst_of_count (helperV2Only ++ policyHead) heads
  have before : u ++ policyHead ++ v = u ++ ([] ++ [] ++ policyHead) ++ v := by
    simp
  have behind : u ++ (helperV2Only ++ policyHead) ++ v =
      u ++ ([] ++ helperV2Only ++ policyHead) ++ v := by
    simp
  have there : Once policyHead (u ++ ([] ++ helperV2Only ++ policyHead) ++ v) := by
    rw [split, before] at here
    exact once_edit (clear_spec gap) (clear_spec (clear_of_charsApart helper)) headed here
  rw [edited, behind, infix_iff_at] at present
  obtain ⟨k, policy⟩ := present
  obtain ⟨i, _, only⟩ := there
  have place : At policyHead (u ++ ([] ++ helperV2Only ++ policyHead) ++ v)
      (u ++ helperV2Only).length := by
    have middle := at_middle (u ++ helperV2Only) policyHead v
    simpa [List.append_assoc] using middle
  have same : k = (u ++ helperV2Only).length :=
    (only k (opens.trans policy)).trans (only _ place).symm
  -- from the definition on, the text is the same before the helper and behind it
  have moved : At helperPolicy text u.length := by
    subst same
    have shape : u ++ ([] ++ helperV2Only ++ policyHead) ++ v =
        (u ++ helperV2Only) ++ (policyHead ++ v) := by
      simp [List.append_assoc]
    rw [At, shape, List.drop_left] at policy
    rw [At, split, List.append_assoc, List.drop_left]
    exact policy
  obtain ⟨j, _, lone⟩ := here
  refine count_of_once (by decide) ⟨u.length, moved, fun other found => ?_⟩
  exact (lone other (opens.trans found)).trans (lone _ (opens.trans moved)).symm

theorem upgradeV1_counts {text made : List Char} (first : upgradeV1ToV2 text = .ok made)
    (policy : count helperPolicy made = 1) : ∀ s ∈ [v1Running, v1Waiting, helperPolicy],
      count s text = 1 := by
  obtain ⟨waits, others, -⟩ := v1_checked
  have apart : ∀ m ∈ [v1Running, v2Running, v1Waiting, v2Waiting],
      clear false policyHead [] m [] = true ∧ clear false helperPolicy [] m [] = true :=
    fun m member => Bool.and_eq_true_iff.mp (List.all_eq_true.mp others m member)
  obtain ⟨t₁, running, rest⟩ := bind_ok first
  obtain ⟨t₂, waiting, rest⟩ := bind_ok rest
  obtain ⟨_, headed, rest⟩ := bind_ok rest
  cases rest
  have heads := expectOne_ok headed
  obtain ⟨_, runs, _⟩ := bind_ok running
  obtain ⟨_, awaits, _⟩ := bind_ok waiting
  have single := policy_once heads ((count_pos_iff (by decide) _).mp (by omega))
  rw [replaceOnce_ok waiting, replaceOnce_ok running] at single
  have counted := expectOne_ok awaits
  rw [replaceOnce_ok running, count_replaceFirst (List.all_eq_true.mp waits _ List.mem_cons_self)
    (List.all_eq_true.mp waits _ (List.mem_cons_of_mem _ List.mem_cons_self))
    (by decide)] at counted
  rw [count_replaceFirst (apart v1Waiting (List.mem_of_getElem? (i := 2) rfl)).2
    (apart v2Waiting (List.mem_of_getElem? (i := 3) rfl)).2 (by decide),
    count_replaceFirst (apart v1Running (List.mem_of_getElem? (i := 0) rfl)).2
    (apart v2Running (List.mem_of_getElem? (i := 1) rfl)).2 (by decide)] at single
  intro s listed
  simp only [List.mem_cons, List.not_mem_nil, or_false] at listed
  rcases listed with rfl | rfl | rfl
  · exact expectOne_ok runs
  · exact counted
  · exact single

theorem patch_exact {py : Python} {text : List Char} {written : Option (List Char)}
    {form : List Char × List (List Char)}
    (known : forms.find? (fun form => holds form.1 text) = some form)
    (done : patch py text = .ok written) : ∀ s ∈ form.2, count s text = 1 := by
  have policies : ∀ {s}, s ∈ [helperPolicy, runningNew, waitingNew] → s ∈ snippets := by
    intro s listed
    simp only [List.mem_cons, List.not_mem_nil, or_false] at listed
    rcases listed with rfl | rfl | rfl
    · exact List.mem_of_getElem? (i := 4) rfl
    · exact List.mem_of_getElem? (i := 2) rfl
    · exact List.mem_of_getElem? (i := 3) rfl
  have counts : ∀ {out s}, Valid py out → s ∈ [helperPolicy, runningNew, waitingNew] →
      count s out = 1 := by
    intro out s valid listed
    simp only [List.mem_cons, List.not_mem_nil, or_false] at listed
    rcases listed with rfl | rfl | rfl
    · exact valid.policy
    · exact valid.running
    · exact valid.waiting
  have upgraded : ∀ {label failed old}, old ∈ olderHelpers →
      upgradeToV31 label old failed text >>= verified py = .ok written →
      ∀ s ∈ [old, helperPolicy, runningNew, waitingNew], count s text = 1 := by
    intro label failed old member ran s listed
    obtain ⟨out, upgrade, last⟩ := bind_ok ran
    obtain ⟨once, same⟩ := upgrade_counts member upgrade
    rcases List.mem_cons.mp listed with rfl | listed
    · exact once
    · rw [same s (policies listed)]
      exact counts (valid_of (verified_ok last).1) listed
  simp only [forms, List.find?_cons, List.find?_nil] at known
  rw [patch] at done
  split at known
  · rename_i marked
    cases known
    rw [if_pos marked] at done
    obtain ⟨_, valid, _⟩ := bind_ok done
    intro s listed
    rcases List.mem_cons.mp listed with rfl | listed
    · exact (valid_of valid).helper
    · exact counts (valid_of valid) listed
  · rename_i unmarked
    rw [if_neg (by rw [unmarked]; exact Bool.false_ne_true)] at done
    split at known
    · rename_i marked
      cases known
      rw [if_pos marked] at done
      exact upgraded List.mem_cons_self done
    · rename_i unmarked
      rw [if_neg (by rw [unmarked]; exact Bool.false_ne_true)] at done
      split at known
      · rename_i marked
        cases known
        rw [if_pos marked] at done
        exact upgraded (List.mem_cons_of_mem _ List.mem_cons_self) done
      · rename_i unmarked
        rw [if_neg (by rw [unmarked]; exact Bool.false_ne_true)] at done
        split at known
        · rename_i marked
          cases known
          rw [if_pos marked] at done
          obtain ⟨made, first, rest⟩ := bind_ok done
          obtain ⟨out, second, last⟩ := bind_ok rest
          have same := (upgrade_counts (List.mem_cons_of_mem _ List.mem_cons_self) second).2
            helperPolicy (policies List.mem_cons_self)
          rw [(valid_of (verified_ok last).1).policy] at same
          exact upgradeV1_counts first same
        · cases known

/-- The install is confluent on the texts that do not define the gate, and no marked text passes
    without the snippets of its form. -/
theorem floor_confluent (py : Python) :
    (∀ (f : File) (text out : List Char), f.read = some text → Pristine text →
      ¬ gateDef <:+: text → main py (some f) = (.ok (), some (.text out)) →
      Confluent py text out) ∧
    ∀ (f : File) (text : List Char) (form : List Char × List (List Char)), f.read = some text →
      forms.find? (fun form => holds form.1 text) = some form → (∃ s ∈ form.2, count s text ≠ 1) →
      ∃ e, main py (some f) = (.error e, some f) := by
  constructor
  · intro f text out read pristine ungated done
    exact (confluent_iff read pristine done).mpr ungated
  · rintro f text form read known ⟨s, listed, wrong⟩
    cases patched : patch py text with
    | error e => exact ⟨e, rewrite_fails read patched⟩
    | ok written => exact absurd (patch_exact known patched s listed) wrong

section Sample
open SchedulerChain (accepting counted lacks read_lines replaced_lines)

def opening : List (List Char) := [
  verbatim "\n" _ rfl,
  verbatim "\n" _ rfl,
  verbatim "class Scheduler:\n" _ rfl,
  verbatim "    def schedule(self):\n" _ rfl,
  verbatim "        while req_index < len(self.running):\n" _ rfl]

def between : List (List Char) := [
  verbatim "\n" _ rfl,
  verbatim "        while self.waiting:\n" _ rfl,
  verbatim "            for request in self.waiting:\n" _ rfl,
  verbatim "                if request:\n" _ rfl]

def scheduler (helper own : List (List Char)) (running waiting : List Char) : List (List Char) :=
  [importNew] ++ helper ++ [needle] ++ own ++ opening ++ [running] ++ between ++ [waiting]

def plain (own : List (List Char)) : List (List Char) := scheduler [] own runningOld waitingOld

def newHelper : List (List Char) := helperV31Lines ++ [helperPolicy]

def installed (own : List (List Char)) : List (List Char) :=
  scheduler newHelper own runningNew waitingNew

def searched (own : List (List Char)) : Bool :=
  let before := PackedText.size ([importNew] ++ newHelper ++ [needle] ++ own) + 88
  (found (plain own) [['\r']] 0 1 [] && found (plain own) [policyDef] 4 28 [] &&
      found (plain own) [mark] 2 20 [] && found (plain own) [markV2] 0 23 [] &&
      found (plain own) [markV3] 0 23 [] && found (plain own) [markV31] 0 25 [] &&
      found (plain own) [needle] 0 54 [39]) &&
    (found (scheduler newHelper own runningOld waitingOld) [runningOld] 238 20 [before] &&
      found (scheduler newHelper own runningNew waitingOld) [waitingOld] 212 20
        [before + runningNew.length + PackedText.size between]) &&
    (foundLines (installed own) helperV31Lines 21 12 39 &&
      found (installed own) [helperPolicy] 55 4 [39 + helperV31Only.length] &&
      found (installed own) [runningNew] 236 4 [before] &&
      found (installed own) [waitingNew] 27 4
        [before + runningNew.length + PackedText.size between] &&
      found (installed own) [helperV2Only] 172 4 [] &&
      found (installed own) [helperV3Only] 304 4 [])

def ownGate : List (List Char) := [
  verbatim "\n" _ rfl,
  verbatim "\n" _ rfl,
  verbatim "def _glm53_mixed_prefill_gate(running, request):\n" _ rfl,
  verbatim "    return None\n" _ rfl]

theorem samples_searched : searched [] = true ∧ searched ownGate = true := by
  simp only [searched, found, foundLines, located, confined, lines_quick, size_quick]
  decide +kernel

example : (plain ownGate).length = 17 := by decide +kernel

theorem plain_osImported (rest : List Char) : osImported (importNew ++ rest) = true := by
  have here : find importTime (importNew ++ rest) = some 27 := rfl
  rw [osImported, beforeFirst, here]
  rfl

section Run
variable {own : List (List Char)} (all : searched own = true)
include all

theorem plain_read : (File.text (plain own).flatten).read = some (plain own).flatten := by
  simp only [searched, Bool.and_eq_true] at all
  exact read_lines all.1.1.1.1.1.1.1.1

theorem plain_pristine : Pristine (plain own).flatten := by
  simp only [searched, Bool.and_eq_true] at all
  obtain ⟨⟨⟨⟨⟨⟨⟨⟨-, -⟩, v1⟩, v2⟩, v3⟩, v31⟩, -⟩, -⟩, -⟩ := all
  have free : ∀ {p d r}, found (plain own) [p] d r [] = true → ¬ p <:+: (plain own).flatten := by
    intro p d r checked
    rw [← holds_eq_false_iff, ← Bool.not_eq_true']
    exact lacks checked
  exact ⟨free v31, free v3, free v2, free v1⟩

theorem plain_installs :
    installWith helperV31Only (plain own).flatten = .ok (installed own).flatten := by
  simp only [searched, Bool.and_eq_true] at all
  obtain ⟨⟨⟨⟨⟨⟨⟨⟨-, fresh⟩, -⟩, -⟩, -⟩, -⟩, anchor⟩, ⟨running, waiting⟩⟩, -⟩ := all
  have opened : addImport (plain own).flatten = .ok (plain own).flatten := by
    have split : (plain own).flatten = importNew ++ (plain own).tail.flatten := rfl
    rw [addImport, split, if_pos (plain_osImported (plain own).tail.flatten)]
  have helped : addHelper policyDef (helperV31Only ++ helperPolicy) (plain own).flatten =
      .ok (scheduler newHelper own runningOld waitingOld).flatten := by
    have absent : ¬ holds policyDef (plain own).flatten = true := by
      rw [Bool.not_eq_true, ← Bool.not_eq_true']
      exact lacks fresh
    have single : count needle (plain own).flatten = 1 := counted anchor
    rw [addHelper, if_neg absent, ensure_of _ (decide_eq_true single)]
    refine congrArg Except.ok (replaced_lines [importNew] (newHelper ++ [needle])
      (own ++ opening ++ [runningOld] ++ between ++ [waitingOld]) anchor ?_ ?_ ?_)
    · simp only [plain, scheduler, List.append_nil, List.append_assoc]
    · simp [newHelper, helperV31Only]
    · simp only [scheduler, List.append_assoc]
  have ran : replaceOnce "running-prefill" runningOld runningNew
      (scheduler newHelper own runningOld waitingOld).flatten =
      .ok (scheduler newHelper own runningNew waitingOld).flatten := by
    rw [replaceOnce, expectOne_of_count (counted running)]
    refine congrArg Except.ok (replaced_lines
      ([importNew] ++ newHelper ++ [needle] ++ own ++ opening) [runningNew]
      (between ++ [waitingOld]) running ?_ (by simp) ?_)
    · simp only [scheduler, List.append_assoc]
    · simp only [scheduler, List.append_assoc]
  have waited : replaceOnce "waiting-prefill" waitingOld waitingNew
      (scheduler newHelper own runningNew waitingOld).flatten = .ok (installed own).flatten := by
    rw [replaceOnce, expectOne_of_count (counted waiting)]
    refine congrArg Except.ok (replaced_lines
      ([importNew] ++ newHelper ++ [needle] ++ own ++ opening ++ [runningNew] ++ between)
      [waitingNew] [] waiting ?_ (by simp) ?_)
    · simp only [scheduler, List.append_nil]
    · simp only [installed, scheduler, List.append_nil]
  exact installWith_of opened helped ran waited

theorem installed_valid : validateV31 accepting (installed own).flatten = .ok () := by
  simp only [searched, Bool.and_eq_true] at all
  obtain ⟨-, ⟨⟨⟨⟨helper, policy⟩, running⟩, waiting⟩, v2⟩, v3⟩ := all
  have once : count helperV31Only (installed own).flatten = 1 :=
    count_of_foundLines helper [importNew] ([helperPolicy] ++ [needle] ++ own ++ opening ++
      [runningNew] ++ between ++ [waitingNew])
      (by simp only [installed, scheduler, newHelper, List.append_assoc])
  rw [validateV31, expectOne_of_count once, expectOne_of_count (counted policy),
    expectOne_of_count (counted running), expectOne_of_count (counted waiting),
    ensure_of _ (Bool.and_eq_true_iff.mpr ⟨lacks v2, lacks v3⟩)]
  rfl

theorem plain_run : main accepting (some (.text (plain own).flatten)) =
    (.ok (), some (.text (installed own).flatten)) := by
  have patched : patch accepting (plain own).flatten = .ok (some (installed own).flatten) := by
    have made : installPristine (plain own).flatten = .ok (installed own).flatten :=
      plain_installs all
    rw [patch_pristine accepting (plain_pristine all), made, ok_bind]
    exact verified_of (installed_valid all) rfl
  rw [main, rewrite_writes (plain_read all) patched]

end Run

/-- On a plain scheduler all the runs agree, and a text with no more than the newest marker is
    refused. -/
theorem floor_confluent_sample : Confluent accepting (plain []).flatten (installed []).flatten ∧
    ∃ e, main accepting (some (.text markV31)) = (.error e, some (.text markV31)) := by
  have ungated : ¬ gateDef <:+: (plain []).flatten := by
    have checked : found (plain []) [gateDef] 0 30 [] = true := by decide +kernel
    rw [← holds_eq_false_iff, ← Bool.not_eq_true']
    exact lacks checked
  obtain ⟨searched, -⟩ := samples_searched
  refine ⟨(floor_confluent accepting).1 _ _ _ (plain_read searched) (plain_pristine searched)
      ungated (plain_run searched),
    (floor_confluent accepting).2 _ markV31 _ (by decide)
      (List.find?_cons_of_pos (by decide)) ⟨helperPolicy, ?_, by decide +kernel⟩⟩
  exact List.mem_cons_of_mem _ List.mem_cons_self

/-- A scheduler that defines a function by the gate's name takes the install, not the upgrades. -/
theorem gated_not_confluent :
    (File.text (plain ownGate).flatten).read = some (plain ownGate).flatten ∧
    Pristine (plain ownGate).flatten ∧
    main accepting (some (.text (plain ownGate).flatten)) =
      (.ok (), some (.text (installed ownGate).flatten)) ∧
    ¬ Confluent accepting (plain ownGate).flatten (installed ownGate).flatten := by
  obtain ⟨-, checked⟩ := samples_searched
  refine ⟨plain_read checked, plain_pristine checked, plain_run checked, fun confluent => ?_⟩
  refine (confluent_iff (plain_read checked) (plain_pristine checked)
    (plain_run checked)).mp confluent ?_
  have line : gateDef <:+: verbatim "def _glm53_mixed_prefill_gate(running, request):\n" _ rfl := by
    decide +kernel
  refine line.trans (List.infix_of_mem_flatten ?_)
  simp only [plain, scheduler, List.mem_append]
  exact Or.inl (Or.inl (Or.inl (Or.inl (Or.inr (List.mem_of_getElem? (i := 2) rfl)))))
end Sample

end Installers.FloorConfluence
