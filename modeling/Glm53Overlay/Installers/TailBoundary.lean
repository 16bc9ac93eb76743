import Glm53Overlay.Library.TextFile
import Glm53Overlay.Library.TextSearch

/-!
The installer of the tail floor: one edit in the scheduler, two in the cache manager, each file
patched and written before the next is looked at. Whether Python accepts a text is the
parameter `parses`; no write fails.
-/
namespace Installers.TailBoundary
open TextFile TextSearch

def marker : List Char := verbatim "[glm53-apc-tail-floor]" _ rfl

def schedOld : List Char := List.flatten [
  verbatim "        tail_boundary = (\n" _ rfl,
  verbatim "            request.num_prompt_tokens // self.hash_block_size * " _ rfl,
  verbatim "self.hash_block_size\n" _ rfl,
  verbatim "            if self.mamba_partial_cache_hit\n" _ rfl,
  verbatim "            else 0\n" _ rfl,
  verbatim "        )\n" _ rfl]

def schedNew : List Char := List.flatten [
  verbatim "        tail_boundary = (\n" _ rfl,
  verbatim "            # [glm53-apc-tail-floor] Floor from (n - 1): the finder is capped " _ rfl,
  verbatim "at\n" _ rfl,
  verbatim "            # `num_tokens - 1` (the last token is recomputed for logits), so " _ rfl,
  verbatim "a\n" _ rfl,
  verbatim "            # boundary registered at `n` is one unit above anything a lookup " _ rfl,
  verbatim "can\n" _ rfl,
  verbatim "            # request and never serves a hit.\n" _ rfl,
  verbatim "            (request.num_prompt_tokens - 1) // self.hash_block_size\n" _ rfl,
  verbatim "            * self.hash_block_size\n" _ rfl,
  verbatim "            if self.mamba_partial_cache_hit\n" _ rfl,
  verbatim "            else 0\n" _ rfl,
  verbatim "        )\n" _ rfl]

def faOld : List Char := List.flatten [
  verbatim "        hash_block_size = self.block_pool.hash_block_size\n" _ rfl,
  verbatim "        boundary_tokens = request.num_prompt_tokens // hash_block_size * " _ rfl,
  verbatim "hash_block_size\n" _ rfl,
  verbatim "        if boundary_tokens == 0 or boundary_tokens > num_tokens:\n" _ rfl]

def faNew : List Char := List.flatten [
  verbatim "        hash_block_size = self.block_pool.hash_block_size\n" _ rfl,
  verbatim "        # [glm53-apc-tail-floor] Same (n - 1) floor as the mamba tail: with\n" _ rfl,
  verbatim "        # fine-grained hashing this is the deepest tail a replay can reach, " _ rfl,
  verbatim "and\n" _ rfl,
  verbatim "        # it is the position the hybrid intersection needs to meet.\n" _ rfl,
  verbatim "        boundary_tokens = (\n" _ rfl,
  verbatim "            (request.num_prompt_tokens - 1) // hash_block_size * " _ rfl,
  verbatim "hash_block_size\n" _ rfl,
  verbatim "        )\n" _ rfl,
  verbatim "        if boundary_tokens == 0 or boundary_tokens > num_tokens:\n" _ rfl]

def mambaOld : List Char := List.flatten [
  verbatim "        latest_prompt_hash_boundary = (\n" _ rfl,
  verbatim "            request.num_prompt_tokens // hash_block_size\n" _ rfl,
  verbatim "        ) * hash_block_size\n" _ rfl]

def mambaNew : List Char := List.flatten [
  verbatim "        latest_prompt_hash_boundary = (  # [glm53-apc-tail-floor]\n" _ rfl,
  verbatim "            (request.num_prompt_tokens - 1) // hash_block_size\n" _ rfl,
  verbatim "        ) * hash_block_size\n" _ rfl]

inductive Target where
  | scheduler
  | manager
  deriving DecidableEq

abbrev Edit := List Char × List Char

def edits : Target → List Edit
  | .scheduler => [(schedOld, schedNew)]
  | .manager => [(faOld, faNew), (mambaOld, mambaNew)]

inductive PatchError where
  | undecodable (target : Target)
  | anchor (target : Target) (found : Nat) (old : List Char)
  | incomplete (target : Target)
  | unparsable (target : Target)
  deriving DecidableEq

/-- `patch_text`: every anchor exactly once, in turn. -/
def patchText (target : Target) : List Edit → List Char → Except PatchError (List Char)
  | [], text => .ok text
  | (old, new) :: rest, text =>
    if count old text ≠ 1 then .error (.anchor target (count old text) old)
    else patchText target rest (replaceFirst old new text)

/-- `patch_file`: the text to write, or `none` when the file is already patched. -/
def patchFile (parses : List Char → Bool) (target : Target) (file : File) :
    Except PatchError (Option (List Char)) :=
  match file.read with
  | none => .error (.undecodable target)
  | some text =>
    if (find marker text).isSome then
      if (edits target).all fun edit => (find edit.2 text).isSome then
        if parses text then .ok none else .error (.unparsable target)
      else .error (.incomplete target)
    else
      match patchText target (edits target) text with
      | .error e => .error e
      | .ok patched => if parses patched then .ok (some patched) else .error (.unparsable target)

inductive Outcome where
  | exit (code : Nat)
  | raised (e : PatchError)
  deriving DecidableEq

/-- The two files; `none` is a path that is no regular file. -/
abbrev Files := Target → Option File

def patchTargets (parses : List Char → Bool) : List Target → Files → Outcome × Files
  | [], files => (.exit 0, files)
  | target :: rest, files =>
    match files target with
    | none => (.exit 1, files)
    | some file =>
      match patchFile parses target file with
      | .error e => (.raised e, files)
      | .ok none => patchTargets parses rest files
      | .ok (some text) =>
        patchTargets parses rest (Function.update files target (some (.text text)))

def main (parses : List Char → Bool) (armed : Bool) (files : Files) : Outcome × Files :=
  if armed then patchTargets parses [.scheduler, .manager] files else (.exit 0, files)

/-- The file has no marker, and its edits go through and parse. -/
def pending (parses : List Char → Bool) (target : Target) (file : Option File) : Bool :=
  match file.bind File.read with
  | none => false
  | some text => (find marker text).isNone &&
    match patchText target (edits target) text with
    | .error _ => false
    | .ok patched => parses patched

/-- The file has the marker and every patched form, and parses. -/
def complete (parses : List Char → Bool) (target : Target) (file : Option File) : Bool :=
  match file.bind File.read with
  | none => false
  | some text => (find marker text).isSome &&
    (edits target).all (fun edit => (find edit.2 text).isSome) && parses text

theorem marker_in_schedNew : marker <:+: schedNew := by
  rw [← find_isSome_iff]
  decide +kernel

theorem patchFile_skips_iff (parses : List Char → Bool) (target : Target) (file : File) :
    patchFile parses target file = .ok none ↔ complete parses target (some file) = true := by
  unfold patchFile complete
  simp only [Option.bind_some]
  cases file.read with
  | none => simp
  | some text =>
    dsimp only
    cases (find marker text).isSome with
    | false =>
      cases patchText target (edits target) text with
      | error e => simp
      | ok patched =>
        by_cases accepted : parses patched = true
        · simp [accepted]
        · simp [accepted]
    | true =>
      cases (edits target).all fun edit => (find edit.2 text).isSome with
      | false => simp
      | true =>
        by_cases accepted : parses text = true
        · simp [accepted]
        · simp [accepted]

theorem patchFile_writes_iff (parses : List Char → Bool) (target : Target) (file : File) :
    (∃ text, patchFile parses target file = .ok (some text)) ↔
      pending parses target (some file) = true := by
  unfold patchFile pending
  simp only [Option.bind_some]
  cases file.read with
  | none => simp
  | some text =>
    dsimp only
    cases found : find marker text with
    | none =>
      cases patchText target (edits target) text with
      | error e => simp
      | ok patched =>
        by_cases accepted : parses patched = true
        · simp [accepted]
        · simp [accepted]
    | some i =>
      cases (edits target).all fun edit => (find edit.2 text).isSome with
      | false => simp
      | true =>
        by_cases accepted : parses text = true
        · simp [accepted]
        · simp [accepted]

/-- A scheduler that is written is changed: the written text carries the marker, the text read
    did not. -/
theorem written_differs {parses : List Char → Bool} {file : File} {text : List Char}
    (writes : patchFile parses .scheduler file = .ok (some text)) : File.text text ≠ file := by
  rintro rfl
  unfold patchFile at writes
  split at writes
  · cases writes
  rename_i source read
  split at writes
  · split at writes
    · split at writes <;> cases writes
    · cases writes
  rename_i unmarked
  split at writes
  · cases writes
  rename_i patched edited
  split at writes
  · cases writes
    simp only [edits, patchText] at edited
    split at edited
    · cases edited
    rename_i counted
    cases edited
    obtain ⟨u, v, split, replaced⟩ := replaceFirst_of_count schedNew (not_not.mp counted)
    rw [replaced] at read
    have clean : '\r' ∉ u ++ schedNew ++ v := by
      have whole := File.no_return_of_read read
      rw [split] at whole
      have plain : '\r' ∉ schedNew := by decide +kernel
      simp_all
    have same : u ++ schedNew ++ v = source := by
      have translated := Option.some.inj read
      rw [translate_of_no_return _ clean] at translated
      exact translated
    refine unmarked ((find_isSome_iff marker source).mpr ?_)
    rw [← same]
    exact List.IsInfix.trans marker_in_schedNew ⟨u, v, rfl⟩
  · cases writes

theorem patchFile_fails {parses : List Char → Bool} {target : Target} {file : File}
    (unpatched : complete parses target (some file) = false)
    (blocked : pending parses target (some file) = false) :
    ∃ e, patchFile parses target file = .error e := by
  cases result : patchFile parses target file with
  | error e => exact ⟨e, rfl⟩
  | ok written =>
    cases written with
    | none =>
      rw [(patchFile_skips_iff parses target file).mp result] at unpatched
      cases unpatched
    | some text =>
      rw [(patchFile_writes_iff parses target file).mp ⟨text, result⟩] at blocked
      cases blocked

theorem manager_fails {parses : List Char → Bool} {files : Files}
    (unpatched : complete parses .manager (files .manager) = false)
    (blocked : pending parses .manager (files .manager) = false) :
    (patchTargets parses [.manager] files).1 ≠ .exit 0 ∧
      (patchTargets parses [.manager] files).2 = files := by
  unfold patchTargets
  cases present : files .manager with
  | none => exact ⟨fun wrong => (by cases wrong), rfl⟩
  | some file =>
    rw [present] at unpatched blocked
    obtain ⟨e, failed⟩ := patchFile_fails unpatched blocked
    simp [failed]

theorem manager_succeeds {parses : List Char → Bool} {files : Files}
    (ready : complete parses .manager (files .manager) = true ∨
      pending parses .manager (files .manager) = true) :
    (patchTargets parses [.manager] files).1 = .exit 0 := by
  unfold patchTargets
  cases present : files .manager with
  | none =>
    rw [present] at ready
    rcases ready with wrong | wrong <;> cases wrong
  | some file =>
    rw [present] at ready
    rcases ready with patched | unpatched
    · simp [(patchFile_skips_iff parses .manager file).mpr patched, patchTargets]
    · obtain ⟨text, writes⟩ := (patchFile_writes_iff parses .manager file).mpr unpatched
      simp [writes, patchTargets]

/-- Where no write fails, a run that ends in an error leaves both files alone exactly when it is
    not the case that the scheduler is still to be patched and the manager neither complete nor
    patchable. -/
theorem error_leaves_files_iff (parses : List Char → Bool) (files : Files) :
    ((main parses true files).1 ≠ .exit 0 → (main parses true files).2 = files) ↔
      ¬ (pending parses .scheduler (files .scheduler) = true ∧
        complete parses .manager (files .manager) = false ∧
        pending parses .manager (files .manager) = false) := by
  simp only [main, ↓reduceIte]
  rw [patchTargets]
  cases present : files .scheduler with
  | none => simp [pending]
  | some file =>
    dsimp only
    cases result : patchFile parses .scheduler file with
    | error e =>
      have blocked : pending parses .scheduler (some file) ≠ true := by
        rw [ne_eq, ← patchFile_writes_iff, result]
        simp
      simp [blocked]
    | ok written =>
      cases written with
      | none =>
        have blocked : pending parses .scheduler (some file) ≠ true := by
          rw [ne_eq, ← patchFile_writes_iff, result]
          simp
        refine iff_of_true ?_ (fun both => blocked both.1)
        intro failed
        by_cases ready : complete parses .manager (files .manager) = true ∨
            pending parses .manager (files .manager) = true
        · exact absurd (manager_succeeds ready) failed
        · rw [not_or, Bool.not_eq_true, Bool.not_eq_true] at ready
          exact (manager_fails ready.1 ready.2).2
      | some text =>
        have open' := (patchFile_writes_iff parses .scheduler file).mp ⟨text, result⟩
        have other : Function.update files .scheduler (some (.text text)) .manager =
            files .manager := Function.update_of_ne (by decide) _ _
        simp only [open', true_and]
        constructor
        · rintro kept ⟨unpatched, blocked⟩
          rw [← other] at unpatched blocked
          obtain ⟨failed, left⟩ := manager_fails unpatched blocked
          have same := congrFun (left.symm.trans (kept failed)) .scheduler
          rw [Function.update_self, present] at same
          exact written_differs result (Option.some.inj same)
        · intro allowed failed
          refine absurd (manager_succeeds ?_) failed
          rw [other]
          by_contra none
          rw [not_or, Bool.not_eq_true, Bool.not_eq_true] at none
          exact allowed none

def sampleFiles : Files
  | .scheduler => some (.text (verbatim "class Scheduler:\n" _ rfl ++
      (verbatim "    def tail(self, request):\n" _ rfl ++ schedOld)))
  | .manager => some (.text [])

theorem scheduler_written_before_manager_fails :
    (main (fun _ => true) true sampleFiles).1 = .raised (.anchor .manager 0 faOld) ∧
      (main (fun _ => true) true sampleFiles).2 .scheduler ≠ sampleFiles .scheduler := by
  decide +kernel

end Installers.TailBoundary
