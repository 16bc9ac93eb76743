import Glm53Overlay.Installers.DecodeFloor
import Glm53Overlay.Library.PackedText

/-!
The decode floor over its own history: the same install with an older helper, and the upgrade of
what it leaves. The helpers share their first line end, and no snippet of the install touches
the rest of a helper, so the edits fall at the same places whichever helper stands there.
-/
namespace Installers.FloorVersions
open TextFile TextSearch TextEdit TextPatch PackedText DecodeFloor

def installWith (helper text : List Char) : Except PatchError (List Char) := do
  let text ← addImport text
  let text ← addHelper policyDef (helper ++ helperPolicy) text
  let text ← replaceOnce "running-prefill" runningOld runningNew text
  replaceOnce "waiting-prefill" waitingOld waitingNew text

theorem installWith_of {helper text t₁ t₂ t₃ out : List Char} (imported : addImport text = .ok t₁)
    (helped : addHelper policyDef (helper ++ helperPolicy) t₁ = .ok t₂)
    (running : replaceOnce "running-prefill" runningOld runningNew t₂ = .ok t₃)
    (waiting : replaceOnce "waiting-prefill" waitingOld waitingNew t₃ = .ok out) :
    installWith helper text = .ok out := by
  rw [installWith, imported, ok_bind, helped, ok_bind, running, ok_bind]
  exact waiting

def Pristine (text : List Char) : Prop :=
  ¬ markV31 <:+: text ∧ ¬ markV3 <:+: text ∧ ¬ markV2 <:+: text ∧ ¬ mark <:+: text

def helpers : List (List Char) := [helperV31Only, helperV3Only, helperV2Only]

def snippets : List (List Char) := [runningOld, waitingOld, runningNew, waitingNew, helperPolicy]

theorem helpers_open : ∀ h ∈ helpers, h = '\n' :: h.tail := by
  simp only [helpers, List.forall_mem_cons, List.not_mem_nil, false_implies, implies_true,
    and_true]
  exact ⟨rfl, rfl, rfl⟩

theorem helpers_checked : (helpers.all fun h =>
    snippets.all fun s => charsApart 32 false s ['\n'] h.tail []) = true := by
  simp only [helpers, List.all_cons, List.all_nil, Bool.and_true, Bool.and_eq_true,
    charsApart_quick]
  and_intros <;> decide +kernel

theorem snippets_nonempty : ∀ s ∈ snippets, s ≠ [] := by
  decide

theorem old_in_snippets : runningOld ∈ snippets ∧ waitingOld ∈ snippets :=
  ⟨List.mem_cons_self, List.mem_cons_of_mem _ List.mem_cons_self⟩

theorem new_ends : ['\n'] <:+ runningNew ∧ ['\n'] <:+ waitingNew := by
  decide +kernel

example : helperPolicy.getLast? = some '\n' := by decide +kernel

theorem apart_of_helper {h s : List Char} (inHelpers : h ∈ helpers) (inSnippets : s ∈ snippets) :
    Clear false s ['\n'] h.tail [] := by
  have checked := List.all_eq_true.mp (List.all_eq_true.mp helpers_checked h inHelpers) s inSnippets
  exact clear_spec (clear_of_charsApart checked)

theorem beside_helper {h s P Q : List Char} (inHelpers : h ∈ helpers) (inSnippets : s ∈ snippets)
    (ends : ['\n'] <:+ P) : Beside s P h.tail Q := by
  obtain ⟨u, rfl⟩ := ends
  have beside := beside_of_clear (u := u) (v := Q) (apart_of_helper inHelpers inSnippets)
  rwa [List.nil_append] at beside

theorem replaceOnce_any {label : String} {old new out P Q h₀ : List Char}
    (inSnippets : old ∈ snippets) (ends : ['\n'] <:+ P) (opens : ['\n'] <:+ new)
    (inHelpers : h₀ ∈ helpers)
    (done : replaceOnce label old new (P ++ h₀.tail ++ Q) = .ok out) :
    ∃ P' Q', ['\n'] <:+ P' ∧
      ∀ h ∈ helpers, replaceOnce label old new (P ++ h.tail ++ Q) = .ok (P' ++ h.tail ++ Q') := by
  have nonempty := snippets_nonempty old inSnippets
  obtain ⟨_, once, _⟩ := bind_ok done
  have counted := expectOne_ok once
  rw [count_beside nonempty (beside_helper inHelpers inSnippets ends)] at counted
  refine ⟨(editSides old new P Q).1, (editSides old new P Q).2, ?_, ?_⟩
  · unfold editSides
    split
    · exact ends_replaceFirst ends opens
    · exact ends
  · intro h member
    have beside := beside_helper (Q := Q) member inSnippets ends
    have same : count old (P ++ h.tail ++ Q) = 1 := by
      rw [count_beside nonempty beside]
      exact counted
    rw [replaceOnce, expectOne_of_count same, replaceFirst_beside new nonempty beside]
    rfl

theorem addHelper_any {definition helper t out : List Char} (fresh : holds definition t = false)
    (done : addHelper definition helper t = .ok out) :
    ∃ u v, t = u ++ needle ++ v ∧
      ∀ helper', addHelper definition helper' t = .ok (u ++ (helper' ++ needle) ++ v) := by
  have single : count needle t = 1 := by
    rw [addHelper, if_neg (by simp [fresh])] at done
    obtain ⟨_, checked, _⟩ := bind_ok done
    exact of_decide_eq_true (ensure_ok checked)
  obtain ⟨k, found⟩ := Option.isSome_iff_exists.mp ((find_isSome_iff needle t).mpr
    ((count_pos_iff (by decide) t).mp (by omega)))
  refine ⟨t.take k, t.drop (k + needle.length), at_split (find_some_at found), ?_⟩
  intro helper'
  rw [addHelper, if_neg (by simp [fresh]), ensure_of _ (decide_eq_true single), replaceFirst, found]
  rfl

/-- Where the install succeeds with one helper it succeeds with each of them, and the results
    differ in the helper alone. -/
theorem installWith_any {text imported out h₀ : List Char} (inHelpers : h₀ ∈ helpers)
    (ready : addImport text = .ok imported) (fresh : holds policyDef imported = false)
    (done : installWith h₀ text = .ok out) :
    ∃ u Q, ∀ h ∈ helpers, installWith h text = .ok (u ++ h ++ Q) := by
  obtain ⟨t₁, import₁, done⟩ := bind_ok done
  obtain rfl := Except.ok.inj (ready.symm.trans import₁)
  obtain ⟨t₂, helped, done⟩ := bind_ok done
  obtain ⟨u, v, -, inserts⟩ := addHelper_any fresh helped
  have shape : ∀ h ∈ helpers, u ++ (h ++ helperPolicy ++ needle) ++ v =
      (u ++ ['\n']) ++ h.tail ++ (helperPolicy ++ needle ++ v) := by
    intro h member
    rw [helpers_open h member]
    simp [List.append_assoc]
  obtain rfl := Except.ok.inj ((inserts (h₀ ++ helperPolicy)).symm.trans helped)
  rw [shape h₀ inHelpers] at done
  obtain ⟨t₃, running, waiting⟩ := bind_ok done
  obtain ⟨runningOld, waitingOld⟩ := old_in_snippets
  obtain ⟨runningEnds, waitingEnds⟩ := new_ends
  obtain ⟨P₁, Q₁, ends₁, runs⟩ := replaceOnce_any runningOld (List.suffix_append u ['\n'])
    runningEnds inHelpers running
  obtain rfl := Except.ok.inj ((runs h₀ inHelpers).symm.trans running)
  obtain ⟨P₂, Q₂, ends₂, waits⟩ := replaceOnce_any waitingOld ends₁ waitingEnds inHelpers
    waiting
  obtain ⟨u', rfl⟩ := ends₂
  refine ⟨u', Q₂, fun h member => ?_⟩
  have steps : installWith h text = .ok ((u' ++ ['\n']) ++ h.tail ++ Q₂) :=
    installWith_of ready ((inserts (h ++ helperPolicy)).trans (congrArg Except.ok (shape h member)))
      (runs h member) (waits h member)
  rw [steps, helpers_open h member]
  simp [List.append_assoc]

def additions : List (List Char) := [importNew, runningNew, waitingNew]

def block (helper : List Char) : List Char := helper ++ (helperPolicy ++ needle)

def lacking : List (List Char × List Char) :=
  [(markV31, helperV3Only), (markV31, helperV2Only), (markV3, helperV2Only)]

theorem additions_unmarked : ([markV31, markV3].all fun m =>
    additions.all fun new => charsApart 24 false m [] new []) = true := by
  simp only [charsApart_quick]
  decide +kernel

theorem blocks_unmarked : (lacking.all fun pair =>
    charsApart 24 false pair.1 [] (block pair.2) []) = true := by
  simp only [lacking, List.all_cons, List.all_nil, Bool.and_true, Bool.and_eq_true,
    charsApart_quick]
  and_intros <;> decide +kernel

/-- Their own helpers do have the markers. -/
example : clear false markV31 [] helperV31Only [] = false ∧
    clear false markV3 [] helperV3Only [] = false := by decide +kernel

section Marks
variable {m h text out : List Char}

theorem apart_of_addition {new : List Char} (mark : m ∈ [markV31, markV3])
    (added : new ∈ additions) : clear false m [] new [] = true :=
  clear_of_charsApart
    (List.all_eq_true.mp (List.all_eq_true.mp additions_unmarked m mark) new added)

theorem absent_edits (mark : m ∈ [markV31, markV3]) {t₂ : List Char} (absent : ¬ m <:+: t₂)
    (done : (replaceOnce "running-prefill" runningOld runningNew t₂ >>=
      replaceOnce "waiting-prefill" waitingOld waitingNew) = .ok out) : ¬ m <:+: out := by
  obtain ⟨t₃, running, waiting⟩ := bind_ok done
  rw [replaceOnce_ok waiting]
  refine absent_replaceFirst (apart_of_addition mark ?_) ?_
  · exact List.mem_cons_of_mem _ (List.mem_cons_of_mem _ List.mem_cons_self)
  · rw [replaceOnce_ok running]
    exact absent_replaceFirst
      (apart_of_addition mark (List.mem_cons_of_mem _ List.mem_cons_self)) absent

/-- An install without the marker leaves none. -/
theorem absent_installWith (lacks : (m, h) ∈ lacking) (absent : ¬ m <:+: text)
    (done : installWith h text = .ok out) : ¬ m <:+: out := by
  have mark : m ∈ [markV31, markV3] := by
    simp only [lacking, List.mem_cons, Prod.mk.injEq, List.not_mem_nil, or_false] at lacks ⊢
    tauto
  have apart : clear false m [] (h ++ helperPolicy ++ needle) [] = true := by
    rw [List.append_assoc]
    exact clear_of_charsApart (List.all_eq_true.mp blocks_unmarked (m, h) lacks)
  obtain ⟨t₁, imported, done⟩ := bind_ok done
  obtain ⟨t₂, helped, done⟩ := bind_ok done
  have absent₁ := absent_addImport (apart_of_addition mark List.mem_cons_self) absent imported
  refine absent_edits mark ?_ done
  rw [addHelper] at helped
  split at helped
  · cases helped
    exact absent₁
  · obtain ⟨_, _, replaced⟩ := bind_ok helped
    cases replaced
    exact absent_replaceFirst apart absent₁

theorem absent_without_helper {imported : List Char} (ready : addImport text = .ok imported)
    (taken : holds policyDef imported = true) (absent : ¬ markV31 <:+: text)
    (done : installWith h text = .ok out) : ¬ markV31 <:+: out := by
  obtain ⟨t₁, imported', done⟩ := bind_ok done
  obtain rfl := Except.ok.inj (ready.symm.trans imported')
  obtain ⟨t₂, helped, done⟩ := bind_ok done
  rw [addHelper, if_pos taken] at helped
  cases helped
  exact absent_edits List.mem_cons_self
    (absent_addImport (apart_of_addition List.mem_cons_self List.mem_cons_self) absent ready) done

end Marks

def beforeGate : List Char := (helperV31Lines.take 117).flatten

def behindGate : List Char :=
  (helperV31Lines.getD 117 []).drop gateDef.length ++ (helperV31Lines.drop 118).flatten

theorem helper_around_gate : helperV31Only = beforeGate ++ gateDef ++ behindGate := by
  have line : gateDef ++ (helperV31Lines.getD 117 []).drop gateDef.length =
      helperV31Lines.getD 117 [] := by
    decide +kernel
  have rest : helperV31Lines.drop 117 =
      helperV31Lines.getD 117 [] :: helperV31Lines.drop 118 := by
    rw [List.drop_eq_getElem_cons (by decide +kernel)]
    rfl
  rw [beforeGate, behindGate, List.append_assoc, ← List.append_assoc gateDef, line,
    ← List.flatten_cons, ← rest, ← List.flatten_append, List.take_append_drop, helperV31Only]

def gateless : List Char :=
  beforeGate ++ (['\n'] ++ (behindGate ++ (helperPolicy ++ needle)))

theorem gate_apart : ([gateless, importOld, importNew, needle, runningOld, runningNew, waitingOld,
    waitingNew, ['\n']].all fun m => charsApart 30 false gateDef [] m []) = true := by
  simp only [charsApart_quick]
  decide +kernel

theorem gate_own : clear true gateDef [] gateDef [] = true := by
  decide +kernel

example : clear false gateDef [] helperV31Only [] = false := by decide +kernel

section Gate
variable {text imported out : List Char}

theorem gate_clear {m : List Char} (member : m ∈ [gateless, importOld, importNew, needle,
    runningOld, runningNew, waitingOld, waitingNew, ['\n']]) : clear false gateDef [] m [] = true :=
  clear_of_charsApart (List.all_eq_true.mp gate_apart m member)

theorem gate_imported (ready : addImport text = .ok imported) :
    gateDef <:+: imported ↔ gateDef <:+: text := by
  constructor
  · intro present
    by_contra absent
    exact absent_addImport (gate_clear (List.mem_of_getElem? (i := 2) rfl)) absent ready present
  · intro present
    exact present_addImport present (gate_clear (List.mem_of_getElem? (i := 1) rfl)) ready

theorem gate_inserted (u v : List Char) :
    (¬ gateDef <:+: u ++ needle ++ v →
        Once gateDef (u ++ (helperV31Only ++ helperPolicy ++ needle) ++ v)) ∧
      (gateDef <:+: u ++ needle ++ v →
        Twice gateDef (u ++ (helperV31Only ++ helperPolicy ++ needle) ++ v)) := by
  have nonempty : gateDef ≠ [] := by decide
  have shape : u ++ (helperV31Only ++ helperPolicy ++ needle) ++ v =
      (u ++ beforeGate) ++ gateDef ++ (behindGate ++ (helperPolicy ++ needle) ++ v) := by
    rw [helper_around_gate]
    simp only [List.append_assoc]
  have gap : u ++ ([] ++ gateless ++ []) ++ v =
      (u ++ beforeGate) ++ (['\n']) ++ (behindGate ++ (helperPolicy ++ needle) ++ v) := by
    simp only [gateless, List.append_assoc, List.nil_append, List.append_nil]
  have window : u ++ needle ++ v = u ++ ([] ++ needle ++ []) ++ v := by
    rw [List.nil_append, List.append_nil]
  have block := clear_spec (gate_clear (m := gateless) List.mem_cons_self)
  have needled := clear_spec (gate_clear (m := needle) (List.mem_of_getElem? (i := 3) rfl))
  have feed := clear_spec (gate_clear (m := ['\n']) (List.mem_of_getElem? (i := 8) rfl))
  rw [shape, window]
  constructor
  · intro absent
    have without := absent_edit block absent
    rw [gap] at without
    have once : ∀ u' v', ¬ ([] ++ gateDef ++ []) <:+: u' ++ ([] ++ ['\n'] ++ []) ++ v' →
        Once ([] ++ gateDef ++ []) (u' ++ ([] ++ gateDef ++ []) ++ v') :=
      fun u' v' => once_insert (clear_spec gate_own)
    simp only [List.nil_append, List.append_nil] at once
    exact once _ _ without
  · intro present
    have still : gateDef <:+: u ++ ([] ++ gateless ++ []) ++ v := present_edit needled present
    rw [gap] at still
    exact twice_insert feed nonempty still

theorem gate_counted (ready : addImport text = .ok imported)
    (fresh : holds policyDef imported = false) (done : installWith helperV31Only text = .ok out) :
    count gateDef out = 1 ↔ ¬ gateDef <:+: text := by
  have nonempty : gateDef ≠ [] := by decide
  obtain ⟨t₁, again, done⟩ := bind_ok done
  obtain rfl := Except.ok.inj (ready.symm.trans again)
  obtain ⟨t₂, helped, done⟩ := bind_ok done
  obtain ⟨u, v, split, inserts⟩ := addHelper_any fresh helped
  obtain rfl := Except.ok.inj ((inserts (helperV31Only ++ helperPolicy)).symm.trans helped)
  obtain ⟨t₃, running, waiting⟩ := bind_ok done
  rw [← gate_imported ready, split, replaceOnce_ok waiting, replaceOnce_ok running]
  have runs := gate_clear (m := runningOld) (List.mem_of_getElem? (i := 4) rfl)
  have waits := gate_clear (m := waitingOld) (List.mem_of_getElem? (i := 6) rfl)
  constructor
  · intro counted present
    have twice := twice_replaceFirst waitingNew waits nonempty
      (twice_replaceFirst runningNew runs nonempty ((gate_inserted u v).2 present))
    have two := two_le_count_of_twice nonempty twice
    omega
  · intro absent
    exact count_of_once nonempty (once_replaceFirst waits
      (gate_clear (List.mem_of_getElem? (i := 7) rfl)) nonempty (once_replaceFirst runs
        (gate_clear (List.mem_of_getElem? (i := 5) rfl)) nonempty ((gate_inserted u v).1 absent)))

end Gate

def olderHelpers : List (List Char) := [helperV3Only, helperV2Only]

theorem older_checked : (helpers.all fun h => decide (h.tail.getLast? = some '\n')) = true ∧
    (olderHelpers.all fun h => charsApart 12 true h ['\n'] h.tail.dropLast ['\n']) = true := by
  simp only [olderHelpers, List.all_cons, List.all_nil, Bool.and_true, Bool.and_eq_true,
    charsApart_quick]
  and_intros <;> decide +kernel

theorem helper_ends {h : List Char} (member : h ∈ helpers) :
    ['\n'] ++ h.tail.dropLast ++ ['\n'] = h := by
  obtain ⟨ends, -⟩ := older_checked
  have last := of_decide_eq_true (List.all_eq_true.mp ends h member)
  rw [List.append_assoc, List.dropLast_append_getLast? '\n' last, List.singleton_append,
    ← helpers_open h member]

end Installers.FloorVersions
