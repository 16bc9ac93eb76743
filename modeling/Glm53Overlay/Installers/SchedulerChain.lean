import Glm53Overlay.Installers.DecodeFloor
import Glm53Overlay.Installers.AlignFloor
import Glm53Overlay.Installers.AdaptiveK
import Glm53Overlay.Installers.PrefixAdmit
import Glm53Overlay.Installers.ResidentTail
import Glm53Overlay.Library.PackedText

/-!
The five patchers of the scheduler source in the launcher's order. The resident tail rewrites
the threshold lines that open the decode floor's running gate, so where the whole chain succeeds
the decode floor refuses the result.
-/
namespace Installers.SchedulerChain
open TextFile TextSearch TextEdit TextPatch PackedText

structure Files where
  scheduler : Option File
  cudagraph : Option File

structure Flags where
  prefixAdmit : Option String
  residentTail : Option String

def Flags.On (flags : Flags) : Prop :=
  PyText.strip (flags.prefixAdmit.getD "0") = "1" ∧
    PyText.strip (flags.residentTail.getD "0") = "1"

def onScheduler (run : Option File → Except PatchError Unit × Option File) (files : Files) :
    Except PatchError Unit × Files :=
  ((run files.scheduler).1, { files with scheduler := (run files.scheduler).2 })

def onCudagraph (run : Option File → Except PatchError Unit × Option File) (files : Files) :
    Except PatchError Unit × Files :=
  ((run files.cudagraph).1, { files with cudagraph := (run files.cudagraph).2 })

def runAll : List (Files → Except PatchError Unit × Files) → Files →
    Except PatchError Unit × Files
  | [], files => (.ok (), files)
  | run :: rest, files =>
    match run files with
    | (.ok (), next) => runAll rest next
    | (.error e, next) => (.error e, next)

def adaptiveK (py : Python) : Files → Except PatchError Unit × Files :=
  runAll [onScheduler (rewrite (AdaptiveK.patchScheduler py)),
    onCudagraph (rewrite (AdaptiveK.patchCudagraphUtils py))]

def chain (py : Python) (flags : Flags) : Files → Except PatchError Unit × Files :=
  runAll [onScheduler (DecodeFloor.main py), onScheduler (AlignFloor.main py), adaptiveK py,
    onScheduler (PrefixAdmit.main py flags.prefixAdmit),
    onScheduler (ResidentTail.main py flags.residentTail)]

theorem runAll_ok {run : Files → Except PatchError Unit × Files}
    {rest : List (Files → Except PatchError Unit × Files)} {files final : Files}
    (done : runAll (run :: rest) files = (.ok (), final)) :
    ∃ next, run files = (.ok (), next) ∧ runAll rest next = (.ok (), final) := by
  rw [runAll] at done
  split at done
  · rename_i next ran
    exact ⟨next, ran, done⟩
  · cases done

theorem runAll_step {run : Files → Except PatchError Unit × Files}
    {rest : List (Files → Except PatchError Unit × Files)} {files next : Files}
    (ran : run files = (.ok (), next)) : runAll (run :: rest) files = runAll rest next := by
  rw [runAll, ran]

theorem onScheduler_ok {run : Option File → Except PatchError Unit × Option File}
    {files next : Files} (done : onScheduler run files = (.ok (), next)) :
    run files.scheduler = (.ok (), next.scheduler) := by
  obtain ⟨first, second⟩ := Prod.mk.inj done
  rw [← second]
  exact Prod.ext first rfl

theorem onCudagraph_scheduler {run : Option File → Except PatchError Unit × Option File}
    {files next : Files} (done : onCudagraph run files = (.ok (), next)) :
    next.scheduler = files.scheduler := by
  rw [← (Prod.mk.inj done).2]

section Marker
open DecodeFloor (markV31)

theorem markV31_nonempty : markV31 ≠ [] := by decide

theorem markV31_checked : (markV31.all fun c => c != '\r' && c != '\n') = true ∧
    ∀ old ∈ AlignFloor.replaced ++ AdaptiveK.replaced ++ PrefixAdmit.replaced ++
      ResidentTail.replaced, clear false markV31 [] old [] = true := by
  decide +kernel

example : clear false markV31 [] DecodeFloor.helperV31Only [] = false := by decide +kernel

theorem markV31_plain : ∀ c ∈ markV31, c ≠ '\r' ∧ c ≠ '\n' := by
  intro c member
  obtain ⟨plain, -⟩ := markV31_checked
  simpa using List.all_eq_true.mp plain c member

/-- None of the later patchers replaces a snippet that could overlap the marker. -/
theorem markV31_apart : ∀ old ∈ AlignFloor.replaced ++ AdaptiveK.replaced ++
    PrefixAdmit.replaced ++ ResidentTail.replaced, clear false markV31 [] old [] = true := by
  obtain ⟨-, apart⟩ := markV31_checked
  exact apart

theorem decodeFloor_carries {py : Python} {file next : Option File}
    (done : DecodeFloor.main py file = (.ok (), next)) : Carries markV31 next := by
  have marked : ∀ {text}, DecodeFloor.validateV31 py text = .ok () → markV31 <:+: text := by
    intro text valid
    have counted := DecodeFloor.validateV31_helper valid
    have inside := (count_pos_iff (by decide) text).mp (Nat.lt_of_lt_of_eq Nat.one_pos counted.symm)
    exact List.IsInfix.trans DecodeFloor.markV31_in_helper inside
  obtain ⟨f, text, _, read, ⟨patched, rfl⟩ | ⟨out, patched, rfl⟩⟩ := rewrite_cases done
  · exact ⟨f, text, rfl, read, marked (DecodeFloor.patch_ok patched)⟩
  · exact ⟨.text out, translate out, rfl, rfl, present_translate markV31_plain markV31_nonempty
      (marked (DecodeFloor.patch_ok patched))⟩

theorem alignFloor_carries {py : Python} {file next : Option File}
    (done : AlignFloor.main py file = (.ok (), next)) (carried : Carries markV31 file) :
    Carries markV31 next := by
  have apart : ∀ old ∈ AlignFloor.replaced, clear false markV31 [] old [] = true :=
    fun old member => markV31_apart old (by simp [member])
  exact carries_rewrite markV31_plain markV31_nonempty
    (fun _ _ patched => AlignFloor.patch_keeps apart patched) done carried

theorem adaptiveK_carries {py : Python} {files final : Files}
    (done : adaptiveK py files = (.ok (), final)) (carried : Carries markV31 files.scheduler) :
    Carries markV31 final.scheduler := by
  have apart : ∀ old ∈ AdaptiveK.replaced, clear false markV31 [] old [] = true :=
    fun old member => markV31_apart old (by simp [member])
  obtain ⟨next, first, done⟩ := runAll_ok done
  obtain ⟨last, second, done⟩ := runAll_ok done
  cases done
  rw [onCudagraph_scheduler second]
  exact carries_rewrite markV31_plain markV31_nonempty
    (fun _ _ patched => AdaptiveK.patchScheduler_keeps apart patched) (onScheduler_ok first) carried

theorem prefixAdmit_carries {py : Python} {flag : Option String} {file next : Option File}
    (on : PyText.strip (flag.getD "0") = "1") (done : PrefixAdmit.main py flag file = (.ok (), next))
    (carried : Carries markV31 file) : Carries markV31 next := by
  have apart : ∀ old ∈ PrefixAdmit.replaced, clear false markV31 [] old [] = true :=
    fun old member => markV31_apart old (by simp [member])
  simp only [PrefixAdmit.main, on] at done
  exact carries_rewrite markV31_plain markV31_nonempty
    (fun _ _ patched => PrefixAdmit.patch_keeps apart patched) done carried

theorem residentTail_leaves {py : Python} {flag : Option String} {file next : Option File}
    (on : PyText.strip (flag.getD "0") = "1")
    (done : ResidentTail.main py flag file = (.ok (), next)) (carried : Carries markV31 file) :
    ∃ f text, next = some f ∧ f.read = some text ∧ markV31 <:+: text ∧
      ¬ ResidentTail.runLptt <:+: text := by
  have apart : ∀ old ∈ ResidentTail.replaced, clear false markV31 [] old [] = true :=
    fun old member => markV31_apart old (by simp [member])
  simp only [ResidentTail.main, on] at done
  obtain ⟨g, text, here, read', present⟩ := carried
  obtain ⟨f, text', there, read, outcome⟩ := rewrite_cases done
  obtain rfl := Option.some.inj (here.symm.trans there)
  obtain rfl := Option.some.inj (read'.symm.trans read)
  rcases outcome with ⟨patched, rfl⟩ | ⟨out, patched, rfl⟩
  · exact ⟨g, text, rfl, read, present,
      ResidentTail.complete_no_runLptt (ResidentTail.patch_ok patched).1⟩
  · obtain ⟨complete, unwritten | written⟩ := ResidentTail.patch_ok patched
    · cases unwritten
    · cases written
      have clean := ResidentTail.edited_no_return (File.no_return_of_read read)
      refine ⟨.text (ResidentTail.edited text), ResidentTail.edited text, rfl, ?_,
        ResidentTail.edited_keeps apart present, ResidentTail.complete_no_runLptt complete⟩
      rw [File.read, translate_of_no_return _ clean]

theorem decodeFloor_refuses (py : Python) {f : File} {text : List Char} (read : f.read = some text)
    (marked : markV31 <:+: text) (lacking : ¬ ResidentTail.runLptt <:+: text) :
    ∃ e, DecodeFloor.main py (some f) = (.error e, some f) := by
  have opens : ResidentTail.runLptt <+: DecodeFloor.runningNew := by decide +kernel
  have absent : count DecodeFloor.runningNew text ≠ 1 := by
    intro counted
    have inside := (count_pos_iff (by decide) text).mp (Nat.lt_of_lt_of_eq Nat.one_pos counted.symm)
    exact lacking (opens.isInfix.trans inside)
  obtain ⟨e, failed⟩ := DecodeFloor.validateV31_fails py absent
  refine ⟨e, rewrite_fails read ?_⟩
  rw [DecodeFloor.patch, if_pos (holds_iff.mpr marked), failed]
  rfl

end Marker

theorem second_run_fails {py : Python} {flags : Flags} (on : flags.On) {files final : Files}
    (done : chain py flags files = (.ok (), final)) :
    ∃ e, chain py flags final = (.error e, final) := by
  obtain ⟨first, ran, done⟩ := runAll_ok done
  have carried := decodeFloor_carries (onScheduler_ok ran)
  obtain ⟨second, ran, done⟩ := runAll_ok done
  have carried := alignFloor_carries (onScheduler_ok ran) carried
  obtain ⟨third, ran, done⟩ := runAll_ok done
  have carried := adaptiveK_carries ran carried
  obtain ⟨fourth, ran, done⟩ := runAll_ok done
  have carried := prefixAdmit_carries on.1 (onScheduler_ok ran) carried
  obtain ⟨fifth, ran, done⟩ := runAll_ok done
  cases done
  obtain ⟨f, text, here, read, marked, lacking⟩ :=
    residentTail_leaves on.2 (onScheduler_ok ran) carried
  obtain ⟨e, refused⟩ := decodeFloor_refuses py read marked lacking
  refine ⟨e, ?_⟩
  rw [← here] at refused
  rw [chain, runAll, onScheduler, refused]

def Idempotent (py : Python) (flags : Flags) (files : Files) : Prop :=
  ∀ final, chain py flags files = (.ok (), final) → chain py flags final = (.ok (), final)

/-- The chain is idempotent on no files on which it succeeds: its second run fails, and writes
    nothing. -/
theorem chain_never_idempotent (py : Python) (flags : Flags) (on : flags.On) (files final : Files)
    (done : chain py flags files = (.ok (), final)) :
    (∃ e, chain py flags final = (.error e, final)) ∧ ¬ Idempotent py flags files := by
  obtain ⟨e, failed⟩ := second_run_fails on done
  refine ⟨⟨e, failed⟩, fun again => ?_⟩
  cases failed.symm.trans (again final done)

section Sample

def opening : List (List Char) :=
  [importNew] ++ DecodeFloor.helperV31Lines ++ [DecodeFloor.helperPolicy, AlignFloor.helper] ++
    AdaptiveK.schedHelperLines ++ [needle, PrefixAdmit.loggerLine] ++ PrefixAdmit.helperLines

def splitting : List (List Char) := [
  verbatim "    def _mamba_block_aligned_split(self, start, end, block_size, " _ rfl,
  verbatim "max_prefill_tokens):\n" _ rfl,
  verbatim "        if end > start:\n" _ rfl,
  AlignFloor.splitNew,
  verbatim "        return end - start\n" _ rfl,
  verbatim "\n" _ rfl,
  verbatim "    def schedule(self):\n" _ rfl,
  verbatim "        while req_index < len(self.running):\n" _ rfl]

def between : List (List Char) := [
  DecodeFloor.runningNew.drop ResidentTail.runLptt.length,
  verbatim "        while self.waiting:\n" _ rfl,
  verbatim "            for request in self.waiting:\n" _ rfl,
  PrefixAdmit.call,
  PrefixAdmit.anchor]

def closing : List (List Char) := [
  DecodeFloor.waitingNew.drop ResidentTail.waitLptt.length,
  AdaptiveK.schedKOld,
  verbatim "\n" _ rfl,
  verbatim "    def update_from_output(self, output):\n" _ rfl,
  verbatim "        for req_id in output:\n" _ rfl,
  verbatim "            if scheduled_spec_token_ids:\n" _ rfl,
  AdaptiveK.obsNew,
  verbatim "\n" _ rfl,
  AdaptiveK.updNew]

def source (helper call running waiting : List (List Char)) : List (List Char) :=
  opening ++ helper ++ [ResidentTail.classLine] ++ splitting ++ [ResidentTail.runAnchor] ++ call ++
    running ++ between ++ waiting ++ closing

def installed : List (List Char) :=
  source [] [] [ResidentTail.runLptt] [ResidentTail.waitLptt]

def afterPolicy : List (List Char) :=
  [needle, PrefixAdmit.loggerLine] ++ PrefixAdmit.helperLines ++ [ResidentTail.classLine] ++
    splitting ++ [ResidentTail.runAnchor] ++ [ResidentTail.runLptt] ++ between ++
    [ResidentTail.waitLptt] ++ closing

def tailInstalled : List (List Char) :=
  source ResidentTail.helperLines [ResidentTail.runCall] [ResidentTail.runLpttNew]
    [ResidentTail.waitLpttNew]

def graphs : List (List Char) := [
  AdaptiveK.cgHelper,
  AdaptiveK.cgAnchor,
  verbatim "    def query_lens(self):\n" _ rfl,
  verbatim "        if self.uniform:\n" _ rfl,
  verbatim "            decode_query_lens = []\n" _ rfl,
  AdaptiveK.cgNew]

def bothOn : Flags := ⟨some "1", some "1"⟩

theorem bothOn_on : bothOn.On := by
  constructor <;> rfl

theorem snippets_marked :
    (holds AlignFloor.mark AlignFloor.helper = true ∧
      holds AdaptiveK.mark AdaptiveK.obsNew = true ∧
      holds AdaptiveK.observeCall AdaptiveK.obsNew = true ∧
      holds AdaptiveK.applyCall AdaptiveK.updNew = true ∧
      holds AdaptiveK.mark AdaptiveK.cgNew = true ∧
      holds AdaptiveK.queryLensCall AdaptiveK.cgNew = true) ∧
    found graphs [['\r']] 0 1 [] ∧
      found graphs [AdaptiveK.mark] 0 4 [60, 1233] ∧
      found graphs [AdaptiveK.cgHelper] 0 4 [0] := by
  decide +kernel

theorem installed_found :
    (found installed [['\r']] 0 1 [] ∧
      foundLines installed DecodeFloor.helperV31Lines 21 4 39 ∧
      found installed [DecodeFloor.helperPolicy] 55 4 [7940] ∧
      found installed [DecodeFloor.runningNew] 236 4 [24115] ∧
      found installed [DecodeFloor.waitingNew] 27 4 [26210] ∧
      found installed [DecodeFloor.helperV2Only] 172 4 [] ∧
      found installed [DecodeFloor.helperV3Only] 304 4 []) ∧
    (found installed [AlignFloor.splitNew] 9 4 [23089] ∧
      found installed [AlignFloor.splitOld] 92 4 [] ∧
      found installed [AlignFloor.helper] 50 4 [8723]) ∧
    (found installed [AdaptiveK.mark] 1 10 [9272, 19710, 27677, 27800, 28514, 28851, 28953] ∧
      foundLines installed AdaptiveK.schedHelperLines 4 4 9247 ∧
      found installed [AdaptiveK.draftHook] 15 4 [] ∧
      found installed [AdaptiveK.schedKOld] 7 4 [26954]) ∧
    (found installed [PrefixAdmit.mark] 4 4 [24826, 25659] ∧
      found installed [PrefixAdmit.prefixDef] 1 16 [19820] ∧
      found installed [PrefixAdmit.holdDef] 2 10 [20874] ∧
      found installed [PrefixAdmit.call] 36 4 [24808] ∧
      found installed [PrefixAdmit.anchor] 15 4 [26112]) ∧
    (found installed [ResidentTail.mark] 4 4 [] ∧
      found installed [ResidentTail.deferDef] 8 4 [] ∧
      found installed [ResidentTail.runAnchor] 31 4 [24003] ∧
      found installed [ResidentTail.runLptt] 236 4 [24115] ∧
      found installed [ResidentTail.waitLptt] 27 4 [26210] ∧
      found installed [ResidentTail.classLine] 3 4 [22942]) := by
  simp only [found, foundLines, located, confined, lines_quick, size_quick]
  decide +kernel

theorem tailInstalled_found :
    (found (source ResidentTail.helperLines [] [ResidentTail.runLptt] [ResidentTail.waitLptt])
        [ResidentTail.runAnchor] 31 4 [33232] ∧
      found (source ResidentTail.helperLines [ResidentTail.runCall] [ResidentTail.runLptt]
        [ResidentTail.waitLptt]) [ResidentTail.runLptt] 236 4 [33676] ∧
      found (source ResidentTail.helperLines [ResidentTail.runCall] [ResidentTail.runLpttNew]
        [ResidentTail.waitLptt]) [ResidentTail.waitLptt] 103 4 [35958]) ∧
    found tailInstalled [ResidentTail.mark] 4 4 [31974, 33358] ∧
      found tailInstalled [ResidentTail.isTailDef] 0 12 [24226] ∧
      found tailInstalled [ResidentTail.shouldDeferDef] 1 12 [24709] ∧
      found tailInstalled [ResidentTail.noteTailDef] 2 10 [25652] ∧
      found tailInstalled [ResidentTail.stillOpenDef] 0 12 [26652] ∧
      found tailInstalled [ResidentTail.deferDef] 0 12 [30015] ∧
      found tailInstalled [ResidentTail.hasWaitingDef] 1 12 [28692] ∧
      found tailInstalled [ResidentTail.runCall] 33 4 [33344] ∧
      found tailInstalled [ResidentTail.runAnchor] 31 4 [33232] ∧
      found tailInstalled [ResidentTail.runLpttNew] 31 4 [33676] ∧
      found tailInstalled [ResidentTail.runLptt] 12 4 [] ∧
      found tailInstalled [ResidentTail.waitLpttNew] 209 4 [35958] ∧
      found tailInstalled [ResidentTail.waitLptt] 103 4 [] ∧
      found tailInstalled [ResidentTail.classLine] 3 4 [32171] := by
  simp only [found, located, confined, lines_quick, size_quick]
  decide +kernel

example : installed.length = 623 ∧ tailInstalled.length = 925 := by decide +kernel

/-- A host that takes every text; the sources below are well formed. -/
def accepting : Python := ⟨fun _ => true, fun _ => true, fun _ => true⟩

theorem counted {text : List (List Char)} {p : List Char} {d r : Nat} {ps : List Nat}
    (checked : found text [p] d r ps = true) : count p text.flatten = ps.length := by
  simpa using count_of_found checked

theorem lacks {text : List (List Char)} {p : List Char} {d r : Nat}
    (checked : found text [p] d r [] = true) : (!holds p text.flatten) = true := by
  have places := (places_of_found checked).2
  rw [List.flatten_singleton] at places
  rw [Bool.not_eq_true', holds_eq_false_iff, infix_iff_at]
  rintro ⟨k, here⟩
  cases (places.exactly k).mp here

theorem read_lines {text : List (List Char)} (checked : found text [['\r']] 0 1 [] = true) :
    (File.text text.flatten).read = some text.flatten := by
  have absent := lacks checked
  rw [Bool.not_eq_true', holds_eq_false_iff, List.singleton_infix_iff] at absent
  rw [File.read, translate_of_no_return _ absent]

theorem inside {text : List (List Char)} {l : List Char} (p : List Char) (member : l ∈ text)
    (marked : holds p l = true) : holds p text.flatten = true :=
  holds_iff.mpr ((holds_iff.mp marked).trans (List.infix_of_mem_flatten member))

theorem decodeFloor_skips : DecodeFloor.patch accepting installed.flatten = .ok none := by
  obtain ⟨⟨-, helper, policy, running, waiting, v2, v3⟩, -⟩ := installed_found
  have once : count DecodeFloor.helperV31Only installed.flatten = 1 :=
    count_of_foundLines helper [importNew] ([DecodeFloor.helperPolicy, AlignFloor.helper] ++
      AdaptiveK.schedHelperLines ++ afterPolicy) (by simp [installed, source, opening, afterPolicy])
  have marked : DecodeFloor.markV31 <:+: installed.flatten :=
    List.IsInfix.trans DecodeFloor.markV31_in_helper ((count_pos_iff (by decide) _).mp (by omega))
  have valid : DecodeFloor.validateV31 accepting installed.flatten = .ok () := by
    rw [DecodeFloor.validateV31, expectOne_of_count once, expectOne_of_count (counted policy),
      expectOne_of_count (counted running), expectOne_of_count (counted waiting),
      ensure_of _ (Bool.and_eq_true_iff.mpr ⟨lacks v2, lacks v3⟩)]
    rfl
  rw [DecodeFloor.patch, if_pos (holds_iff.mpr marked), valid]
  rfl

theorem alignFloor_skips : AlignFloor.patch accepting installed.flatten = .ok none := by
  obtain ⟨-, ⟨split, old, helper⟩, -⟩ := installed_found
  obtain ⟨⟨snippet, -⟩, -⟩ := snippets_marked
  have marked : holds AlignFloor.mark installed.flatten = true :=
    inside AlignFloor.mark (l := AlignFloor.helper) (by simp [installed, source, opening])
      snippet
  have splitOnce : count AlignFloor.splitNew installed.flatten = 1 := counted split
  have oldGone : count AlignFloor.splitOld installed.flatten = 0 := counted old
  have helperOnce : count AlignFloor.helper installed.flatten = 1 := counted helper
  have valid : AlignFloor.validateInstalled accepting installed.flatten = .ok () := by
    rw [AlignFloor.validateInstalled, splitOnce, oldGone, helperOnce]
    rfl
  rw [AlignFloor.patch, if_pos marked, valid]
  rfl

theorem installed_osImported : osImported installed.flatten = true := by
  have split : installed.flatten = importNew ++ installed.tail.flatten := rfl
  have here : find importTime (importNew ++ installed.tail.flatten) = some 27 := rfl
  rw [split, osImported, beforeFirst, here]
  rfl

theorem adaptiveK_skips : AdaptiveK.patchScheduler accepting installed.flatten = .ok none := by
  obtain ⟨-, -, ⟨marks, helper, hook, anchor⟩, -⟩ := installed_found
  obtain ⟨⟨-, noted, called, updated, -⟩, -⟩ := snippets_marked
  have marked : holds AdaptiveK.mark installed.flatten = true :=
    inside AdaptiveK.mark (l := AdaptiveK.obsNew) (by simp [installed, source, closing])
      noted
  have seven : count AdaptiveK.mark installed.flatten = 7 := counted marks
  have helperOnce : count AdaptiveK.schedHelper installed.flatten = 1 :=
    count_of_foundLines helper ([importNew] ++ DecodeFloor.helperV31Lines ++
      [DecodeFloor.helperPolicy, AlignFloor.helper]) afterPolicy
      (by simp [installed, source, opening, afterPolicy])
  have anchorOnce : count AdaptiveK.schedKOld installed.flatten = 1 := counted anchor
  have observes : holds AdaptiveK.observeCall installed.flatten = true :=
    inside AdaptiveK.observeCall (l := AdaptiveK.obsNew) (by simp [installed, source, closing])
      called
  have applies : holds AdaptiveK.applyCall installed.flatten = true :=
    inside AdaptiveK.applyCall (l := AdaptiveK.updNew) (by simp [installed, source, closing])
      updated
  have valid : AdaptiveK.validateScheduler accepting installed.flatten = .ok () := by
    rw [AdaptiveK.validateScheduler, AdaptiveK.assertNoDraftHook, seven, helperOnce, observes,
      applies, lacks hook, anchorOnce, installed_osImported]
    rfl
  rw [AdaptiveK.patchScheduler, if_pos marked, valid]
  rfl

theorem adaptiveK_skips_graphs :
    AdaptiveK.patchCudagraphUtils accepting graphs.flatten = .ok none := by
  obtain ⟨⟨-, -, -, -, noted, called⟩, -, marks, helper⟩ := snippets_marked
  have marked : holds AdaptiveK.mark graphs.flatten = true :=
    inside AdaptiveK.mark (l := AdaptiveK.cgNew) (by simp [graphs]) noted
  have two : count AdaptiveK.mark graphs.flatten = 2 := counted marks
  have helperOnce : count AdaptiveK.cgHelper graphs.flatten = 1 := counted helper
  have hooked : holds AdaptiveK.queryLensCall graphs.flatten = true :=
    inside AdaptiveK.queryLensCall (l := AdaptiveK.cgNew) (by simp [graphs]) called
  have valid : AdaptiveK.validateCudagraph accepting graphs.flatten = .ok () := by
    rw [AdaptiveK.validateCudagraph, two, helperOnce, hooked]
    rfl
  rw [AdaptiveK.patchCudagraphUtils, if_pos marked, valid]
  rfl

theorem prefixAdmit_skips : PrefixAdmit.patch accepting installed.flatten = .ok none := by
  obtain ⟨-, -, -, ⟨marks, shared, hold, call, anchor⟩, -⟩ := installed_found
  have done : PrefixAdmit.complete installed.flatten = true :=
    decide_eq_true ⟨counted marks, counted shared, counted hold, counted call, counted anchor⟩
  rw [PrefixAdmit.patch, if_pos done]

theorem replaced_lines (before lines behind : List (List Char)) {text after : List (List Char)}
    {old new : List Char} {d r k : Nat} (checked : found text [old] d r [k] = true)
    (shape : text = before ++ [old] ++ behind) (added : lines.flatten = new)
    (edited : after = before ++ lines ++ behind) :
    replaceFirst old new text.flatten = after.flatten := by
  have places := (places_of_found checked).2
  rw [List.flatten_singleton, shape, List.flatten_append, List.flatten_append,
    List.flatten_singleton] at places
  rw [shape, edited, ← added, List.flatten_append, List.flatten_append, List.flatten_singleton,
    replaceFirst_of_place _ places, List.flatten_append, List.flatten_append]

open ResidentTail (helperLines helperSource classLine runAnchor runCall runLptt runLpttNew waitLptt
  waitLpttNew)

theorem residentTail_edits : ResidentTail.edited installed.flatten = tailInstalled.flatten := by
  obtain ⟨-, -, -, -, -, -, -, -, -, line⟩ := installed_found
  obtain ⟨⟨anchor, running, waiting⟩, -⟩ := tailInstalled_found
  have helped : replaceFirst classLine (helperSource ++ classLine) installed.flatten =
      (source helperLines [] [runLptt] [waitLptt]).flatten :=
    replaced_lines opening (helperLines ++ [classLine])
      (splitting ++ [runAnchor] ++ [runLptt] ++ between ++ [waitLptt] ++ closing) line
      (by simp [installed, source]) (by simp [helperSource]) (by simp [source])
  have called : replaceFirst runAnchor (runAnchor ++ runCall)
      (source helperLines [] [runLptt] [waitLptt]).flatten =
      (source helperLines [runCall] [runLptt] [waitLptt]).flatten :=
    replaced_lines (opening ++ helperLines ++ [classLine] ++ splitting) [runAnchor, runCall]
      ([runLptt] ++ between ++ [waitLptt] ++ closing) anchor
      (by simp [source]) (by simp) (by simp [source])
  have opened : replaceFirst runLptt runLpttNew
      (source helperLines [runCall] [runLptt] [waitLptt]).flatten =
      (source helperLines [runCall] [runLpttNew] [waitLptt]).flatten :=
    replaced_lines (opening ++ helperLines ++ [classLine] ++ splitting ++ [runAnchor, runCall])
      [runLpttNew] (between ++ [waitLptt] ++ closing) running
      (by simp [source]) (by simp) (by simp [source])
  have noted : replaceFirst waitLptt waitLpttNew
      (source helperLines [runCall] [runLpttNew] [waitLptt]).flatten = tailInstalled.flatten :=
    replaced_lines (opening ++ helperLines ++ [classLine] ++ splitting ++
      [runAnchor, runCall, runLpttNew] ++ between) [waitLpttNew] closing waiting
      (by simp [source]) (by simp) (by simp [tailInstalled, source])
  rw [ResidentTail.edited, helped, called, opened, noted]

theorem tailInstalled_complete : ResidentTail.complete tailInstalled.flatten = true := by
  obtain ⟨-, marks, isTail, defers, note, stillOpen, holds', waits, call, anchor, running,
    runningGone, waiting, waitingGone, line⟩ := tailInstalled_found
  exact decide_eq_true ⟨counted marks, counted isTail, counted defers, counted note,
    counted stillOpen, counted holds', counted waits, counted call, counted anchor,
    counted running, counted runningGone, counted waiting, counted waitingGone, counted line⟩

theorem residentTail_installs :
    ResidentTail.patch accepting installed.flatten = .ok (some tailInstalled.flatten) := by
  obtain ⟨-, -, -, -, unmarked, undefined, anchor, running, waiting, line⟩ := installed_found
  have unmarkedCount : count ResidentTail.mark installed.flatten = 0 := counted unmarked
  have fresh : ¬ ResidentTail.complete installed.flatten = true := by
    intro done
    have marks := (of_decide_eq_true done).1
    omega
  have anchors : count runAnchor installed.flatten = 1 ∧ count runLptt installed.flatten = 1 ∧
      count waitLptt installed.flatten = 1 ∧ count classLine installed.flatten = 1 :=
    ⟨counted anchor, counted running, counted waiting, counted line⟩
  rw [ResidentTail.patch, if_neg fresh,
    ensure_of _ (Bool.and_eq_true_iff.mpr ⟨lacks unmarked, lacks undefined⟩),
    ensure_of _ (decide_eq_true anchors), residentTail_edits,
    ensure_of _ tailInstalled_complete]
  rfl

def sampleFiles : Files := ⟨some (.text installed.flatten), some (.text graphs.flatten)⟩

theorem sample_run : chain accepting bothOn sampleFiles =
    (.ok (), ⟨some (.text tailInstalled.flatten), some (.text graphs.flatten)⟩) := by
  obtain ⟨⟨returns, -⟩, -⟩ := installed_found
  obtain ⟨-, returnsGraphs, -⟩ := snippets_marked
  have read := read_lines returns
  have readGraphs := read_lines returnsGraphs
  have first : onScheduler (DecodeFloor.main accepting) sampleFiles = (.ok (), sampleFiles) := by
    rw [onScheduler, sampleFiles, DecodeFloor.main, rewrite_skips read decodeFloor_skips]
  have second : onScheduler (AlignFloor.main accepting) sampleFiles = (.ok (), sampleFiles) := by
    rw [onScheduler, sampleFiles, AlignFloor.main, rewrite_skips read alignFloor_skips]
  have schedules : onScheduler (rewrite (AdaptiveK.patchScheduler accepting)) sampleFiles =
      (.ok (), sampleFiles) := by
    rw [onScheduler, sampleFiles, rewrite_skips read adaptiveK_skips]
  have captures : onCudagraph (rewrite (AdaptiveK.patchCudagraphUtils accepting)) sampleFiles =
      (.ok (), sampleFiles) := by
    rw [onCudagraph, sampleFiles, rewrite_skips readGraphs adaptiveK_skips_graphs]
  have third : adaptiveK accepting sampleFiles = (.ok (), sampleFiles) := by
    rw [adaptiveK, runAll_step schedules, runAll_step captures, runAll]
  have fourth : onScheduler (PrefixAdmit.main accepting bothOn.prefixAdmit) sampleFiles =
      (.ok (), sampleFiles) := by
    simp only [onScheduler, PrefixAdmit.main, bothOn_on.1, sampleFiles]
    simp [rewrite_skips read prefixAdmit_skips]
  have fifth : onScheduler (ResidentTail.main accepting bothOn.residentTail) sampleFiles =
      (.ok (), ⟨some (.text tailInstalled.flatten), some (.text graphs.flatten)⟩) := by
    simp only [onScheduler, ResidentTail.main, bothOn_on.2, sampleFiles]
    simp [rewrite_writes read residentTail_installs]
  rw [chain, runAll_step first, runAll_step second, runAll_step third, runAll_step fourth,
    runAll_step fifth, runAll]

theorem sample_runs_once : ∃ final e, chain accepting bothOn sampleFiles = (.ok (), final) ∧
    chain accepting bothOn final = (.error e, final) := by
  obtain ⟨⟨e, failed⟩, -⟩ :=
    chain_never_idempotent accepting bothOn bothOn_on sampleFiles _ sample_run
  exact ⟨_, e, sample_run, failed⟩

/-- The chain succeeds on the sample, and does not succeed again. -/
theorem sample_not_idempotent : (∃ final, chain accepting bothOn sampleFiles = (.ok (), final)) ∧
    ¬ Idempotent accepting bothOn sampleFiles := by
  refine ⟨⟨_, sample_run⟩, fun again => ?_⟩
  obtain ⟨e, failed⟩ := second_run_fails bothOn_on sample_run
  cases failed.symm.trans (again _ sample_run)

end Sample

end Installers.SchedulerChain
