import Glm53Overlay.Library.TextEdit
import Glm53Overlay.Library.TextFile

/-!
What the patchers of one source file share: they read it, look for snippets, replace some of
them once and write the result, or find that there is nothing to write.
-/
namespace Installers.TextPatch
open TextFile TextSearch TextEdit

/-- What the host says of a source text: it parses, it compiles, a plain `import os` stands at
    its top level. -/
structure Python where
  parses : List Char → Bool
  compiles : List Char → Bool
  importsOs : List Char → Bool

inductive PatchError where
  | missing
  | undecodable
  | syntaxError
  | expectedOne (what : String) (found : Nat)
  | notUnique (what : String) (found : Nat)
  | incomplete (what : String) (found : Nat)
  | anchorDrift (found : List (String × Nat))
  | refused (reason : String)
  deriving DecidableEq, Repr

/-- `pattern in text`. -/
def holds (p t : List Char) : Bool := (find p t).isSome

/-- `text.split(separator, 1)[0]`. -/
def beforeFirst (separator t : List Char) : List Char :=
  match find separator t with
  | none => t
  | some i => t.take i

def importOs : List Char := verbatim "import os\n" _ rfl

def importTime : List Char := verbatim "import time\n" _ rfl

/-- `"import os\n" in text.split("import time\n", 1)[0]`. -/
def osImported (t : List Char) : Bool := holds importOs (beforeFirst importTime t)

def ensure (good : Bool) (e : PatchError) : Except PatchError Unit :=
  if good then .ok () else .error e

def expectOne (what : String) (p t : List Char) : Except PatchError Unit :=
  ensure (count p t = 1) (.expectedOne what (count p t))

def replaceOnce (label : String) (old new t : List Char) : Except PatchError (List Char) := do
  expectOne (label ++ " target") old t
  return replaceFirst old new t

def importOld : List Char := verbatim "import itertools\nimport time\n" _ rfl

def importNew : List Char := verbatim "import itertools\nimport os\nimport time\n" _ rfl

def addImport (t : List Char) : Except PatchError (List Char) :=
  if osImported t then .ok t else replaceOnce "import os" importOld importNew t

def needle : List Char :=
  verbatim "from vllm.compilation.cuda_graph import CUDAGraphStat\n" _ rfl

/-- A helper goes before the needle, unless its definition is there. -/
def addHelper (definition helper t : List Char) : Except PatchError (List Char) :=
  if holds definition t then .ok t
  else do
    ensure (count needle t = 1) (.refused "helper insert point not unique")
    return replaceFirst needle (helper ++ needle) t

/-- One file through a patcher; `none` is nothing to write. -/
def rewrite (patch : List Char → Except PatchError (Option (List Char))) (file : Option File) :
    Except PatchError Unit × Option File :=
  match file with
  | none => (.error .missing, none)
  | some f =>
    match f.read with
    | none => (.error .undecodable, some f)
    | some text =>
      match patch text with
      | .error e => (.error e, some f)
      | .ok none => (.ok (), some f)
      | .ok (some out) => (.ok (), some (.text out))

theorem holds_iff {p t : List Char} : holds p t = true ↔ p <:+: t :=
  find_isSome_iff p t

theorem holds_eq_false_iff {p t : List Char} : holds p t = false ↔ ¬ p <:+: t := by
  rw [← holds_iff, Bool.not_eq_true]

theorem bind_ok {α β : Type} {x : Except PatchError α} {f : α → Except PatchError β} {r : β}
    (done : x >>= f = .ok r) : ∃ a, x = .ok a ∧ f a = .ok r := by
  cases x with
  | error e => cases done
  | ok a => exact ⟨a, rfl, done⟩

theorem ok_bind {α β : Type} (a : α) (f : α → Except PatchError β) : (.ok a >>= f) = f a := rfl

theorem ensure_of {good : Bool} (e : PatchError) (holding : good = true) :
    ensure good e = .ok () := by
  rw [ensure, if_pos holding]

theorem ensure_ok {good : Bool} {e : PatchError} {u : Unit} (done : ensure good e = .ok u) :
    good = true := by
  cases good with
  | true => rfl
  | false => cases done

theorem expectOne_ok {what : String} {p t : List Char} {u : Unit}
    (done : expectOne what p t = .ok u) : count p t = 1 :=
  of_decide_eq_true (ensure_ok done)

theorem expectOne_of_count {what : String} {p t : List Char} (counted : count p t = 1) :
    expectOne what p t = .ok () :=
  ensure_of _ (decide_eq_true counted)

theorem replaceOnce_ok {label : String} {old new t out : List Char}
    (done : replaceOnce label old new t = .ok out) : out = replaceFirst old new t := by
  obtain ⟨_, _, replaced⟩ := bind_ok done
  exact (Except.ok.inj replaced).symm

theorem present_replaceFirst {p old : List Char} (new : List Char) {t : List Char}
    (apart : clear false p [] old [] = true) (present : p <:+: t) :
    p <:+: replaceFirst old new t := by
  rw [replaceFirst]
  cases found : find old t with
  | none => exact present
  | some i =>
    have edited : p <:+: t.take i ++ ([] ++ new ++ []) ++ t.drop (i + old.length) := by
      refine present_edit (clear_spec apart) ?_
      rw [List.nil_append, List.append_nil, ← at_split (find_some_at found)]
      exact present
    rw [List.nil_append, List.append_nil] at edited
    exact edited

section Kept
variable {p t out : List Char} (present : p <:+: t)
include present

theorem present_replaceOnce {label : String} {old new : List Char}
    (apart : clear false p [] old [] = true) (done : replaceOnce label old new t = .ok out) :
    p <:+: out := by
  rw [replaceOnce_ok done]
  exact present_replaceFirst new apart present

theorem present_addImport (apart : clear false p [] importOld [] = true)
    (done : addImport t = .ok out) : p <:+: out := by
  rw [addImport] at done
  split at done
  · cases done
    exact present
  · exact present_replaceOnce present apart done

theorem present_addHelper {definition helper : List Char}
    (apart : clear false p [] needle [] = true) (done : addHelper definition helper t = .ok out) :
    p <:+: out := by
  rw [addHelper] at done
  split at done
  · cases done
    exact present
  · obtain ⟨_, _, replaced⟩ := bind_ok done
    cases replaced
    exact present_replaceFirst _ apart present

end Kept

theorem absent_addImport {p t out : List Char} (apart : clear false p [] importNew [] = true)
    (absent : ¬ p <:+: t) (done : addImport t = .ok out) : ¬ p <:+: out := by
  rw [addImport] at done
  split at done
  · cases done
    exact absent
  · rw [replaceOnce_ok done]
    exact absent_replaceFirst apart absent

theorem mem_replaceFirst {old new t : List Char} {c : Char} (member : c ∈ replaceFirst old new t) :
    c ∈ t ∨ c ∈ new := by
  rw [replaceFirst] at member
  split at member
  · exact Or.inl member
  · simp only [List.mem_append] at member
    rcases member with (first | middle) | last
    · exact Or.inl (List.mem_of_mem_take first)
    · exact Or.inr middle
    · exact Or.inl (List.mem_of_mem_drop last)

theorem present_translate {p t : List Char} (plain : ∀ c ∈ p, c ≠ '\r' ∧ c ≠ '\n')
    (nonempty : p ≠ []) (present : p <:+: t) : p <:+: translate t := by
  obtain ⟨u, v, split⟩ := present
  subst split
  have kept : ∀ (q : List Char) (flag : Bool), (∀ c ∈ q, c ≠ '\r' ∧ c ≠ '\n') → q ≠ [] →
      translateFrom flag (q ++ v) = q ++ translateFrom false v := by
    intro q
    induction q with
    | nil => exact fun _ _ some => absurd rfl some
    | cons c q ih =>
      intro flag clean _
      obtain ⟨noReturn, noFeed⟩ := clean c List.mem_cons_self
      rw [List.cons_append, translateFrom, if_neg noReturn, if_neg (by simp [noFeed])]
      cases q with
      | nil => rfl
      | cons d q =>
        rw [ih false (fun e member => clean e (List.mem_cons_of_mem _ member)) (by simp)]
        rfl
  have read : ∀ flag, p <:+: translateFrom flag (u ++ p ++ v) := by
    induction u with
    | nil =>
      intro flag
      rw [List.nil_append, kept p flag plain nonempty]
      exact (List.prefix_append _ _).isInfix
    | cons c u ih =>
      intro flag
      rw [List.cons_append, List.cons_append, translateFrom]
      split
      · exact (ih true).trans (List.suffix_cons _ _).isInfix
      · split
        · exact ih false
        · exact (ih false).trans (List.suffix_cons _ _).isInfix
  exact read false

def Carries (p : List Char) (file : Option File) : Prop :=
  ∃ f text, file = some f ∧ f.read = some text ∧ p <:+: text

theorem rewrite_cases {patch : List Char → Except PatchError (Option (List Char))}
    {file next : Option File} (done : rewrite patch file = (.ok (), next)) :
    ∃ f text, file = some f ∧ f.read = some text ∧
      ((patch text = .ok none ∧ next = some f) ∨
        ∃ out, patch text = .ok (some out) ∧ next = some (.text out)) := by
  cases file with
  | none => cases done
  | some f =>
    cases read : f.read with
    | none =>
      simp only [rewrite, read] at done
      cases done
    | some text =>
      refine ⟨f, text, rfl, read, ?_⟩
      cases patched : patch text with
      | error e =>
        simp only [rewrite, read, patched] at done
        cases done
      | ok written =>
        cases written with
        | none =>
          simp only [rewrite, read, patched] at done
          exact Or.inl ⟨rfl, (Prod.mk.inj done).2.symm⟩
        | some out =>
          simp only [rewrite, read, patched] at done
          exact Or.inr ⟨out, rfl, (Prod.mk.inj done).2.symm⟩

theorem rewrite_skips {patch : List Char → Except PatchError (Option (List Char))} {f : File}
    {text : List Char} (read : f.read = some text) (nothing : patch text = .ok none) :
    rewrite patch (some f) = (.ok (), some f) := by
  simp only [rewrite, read, nothing]

theorem rewrite_writes {patch : List Char → Except PatchError (Option (List Char))} {f : File}
    {text out : List Char} (read : f.read = some text) (patched : patch text = .ok (some out)) :
    rewrite patch (some f) = (.ok (), some (.text out)) := by
  simp only [rewrite, read, patched]

theorem rewrite_fails {patch : List Char → Except PatchError (Option (List Char))} {f : File}
    {text : List Char} {e : PatchError} (read : f.read = some text)
    (failed : patch text = .error e) : rewrite patch (some f) = (.error e, some f) := by
  simp only [rewrite, read, failed]

theorem carries_rewrite {p : List Char} {patch : List Char → Except PatchError (Option (List Char))}
    {file next : Option File} (plain : ∀ c ∈ p, c ≠ '\r' ∧ c ≠ '\n') (nonempty : p ≠ [])
    (keeps : ∀ text out, patch text = .ok (some out) → p <:+: text → p <:+: out)
    (done : rewrite patch file = (.ok (), next)) (carried : Carries p file) : Carries p next := by
  obtain ⟨f, text, here, read, same | ⟨out, patched, written⟩⟩ := rewrite_cases done
  · rw [same.2, ← here]
    exact carried
  · obtain ⟨g, text', there, read', present⟩ := carried
    obtain rfl := Option.some.inj (here.symm.trans there)
    obtain rfl := Option.some.inj (read.symm.trans read')
    exact ⟨.text out, translate out, written, rfl,
      present_translate plain nonempty (keeps text out patched present)⟩

end Installers.TextPatch
