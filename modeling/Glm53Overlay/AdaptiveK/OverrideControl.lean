import Glm53Overlay.AdaptiveK.CapturedWidths

/-!
Who controls the `enabled` flag over a run of scheduler hooks. The override file is
re-read inside `apply` every fifty steps, and the draft hook calls `apply` only while
the flag is set. Versions of the file are told apart by their modification time.
-/
namespace AdaptiveK
open ReplayMachine
variable {F Token : Type} (host : Host F)

structure DraftCall (F Token : Type) where
  requests : Requests Token
  validate : String → List Token → List Token
  drafts : List (String × List Token)
  disk : Option (OverrideFile F)

inductive HookEvent (F Token : Type) where
  | observe (reqId : String) (numDraft numAccepted : Int)
  | update (call : DraftCall F Token)

def hookStep (k : Policy F) : HookEvent F Token → Policy F × Bool
  | .observe reqId numDraft numAccepted => (observe host k reqId numDraft numAccepted, false)
  | .update call =>
    let updated := updateDraftTokenIds host k call.requests call.validate call.drafts call.disk
    (updated.policy, updated.raised)

def DraftCall.carriesDraft (call : DraftCall F Token) : Bool :=
  call.drafts.any fun draft =>
    match call.requests.get draft.1 with
    | none => false
    | some r => !r.finished && !r.isPrefillChunk &&
        !(if r.structured then call.validate draft.1 draft.2 else draft.2).isEmpty

def HookEvent.carriesDraft : HookEvent F Token → Bool
  | .observe .. => false
  | .update call => call.carriesDraft

/-- The file on disk is one of the versions, told apart by mtime, and a JSON object. -/
def Published (versions : Int → List (String × Json F)) (disk : Option (OverrideFile F)) : Prop :=
  ∀ file, disk = some file → file.content = some (.dict (versions file.mtime))

def HookEvent.Sees (seen : Option (OverrideFile F) → Prop) : HookEvent F Token → Prop
  | .observe .. => True
  | .update call => seen call.disk

theorem read_override_flag (k : Policy F) (members : List (String × Json F))
    (result : Policy F × Bool) (read : readOverride host k (.dict members) = result) :
    result.1.enabled = overrideMode host members ∧ result.1.fileMtime = k.fileMtime := by
  unfold readOverride at read
  dsimp only at read
  generalize overrideMode host members = mode at read ⊢
  split at read
  · rw [← read]
    exact ⟨rfl, rfl⟩
  · split at read
    · rw [← read]
      exact ⟨rfl, rfl⟩
    · split at read
      · rw [← read]
        exact ⟨rfl, rfl⟩
      · split at read <;> rw [← read] <;> exact ⟨rfl, rfl⟩

/-- A policy that was on at boot, whose flag is the mode of the version last loaded. -/
structure Tracks (versions : Int → List (String × Json F)) (k : Policy F) : Prop where
  boot_enabled : k.bootEnabled = true
  loaded : ∀ m, k.fileMtime = some m → k.enabled = overrideMode host (versions m)

theorem reload_tracks (versions : Int → List (String × Json F)) (k : Policy F)
    (disk : Option (OverrideFile F)) (published : Published versions disk)
    (start : Tracks host versions k) :
    Tracks host versions (reload host k disk) ∧
      (reload host k disk).fileMtime = disk.map OverrideFile.mtime := by
  have boot := (reload_narrows host k disk).boot_enabled.trans start.boot_enabled
  generalize reloaded : reload host k disk = after at boot ⊢
  unfold reload at reloaded
  rw [if_neg (by simp [start.boot_enabled])] at reloaded
  dsimp only at reloaded
  split at reloaded
  · rename_i unchanged
    rw [← reloaded]
    exact ⟨start, unchanged.symm⟩
  · cases disk with
    | none =>
      simp only [Option.bind_none, Option.map_none] at reloaded
      rw [← reloaded] at boot ⊢
      exact ⟨⟨boot, nofun⟩, rfl⟩
    | some file =>
      simp only [Option.bind_some, published file rfl, Option.map_some] at reloaded
      obtain ⟨mode, mtime⟩ := read_override_flag host _ (versions file.mtime) _ rfl
      rw [reloaded] at mode mtime
      refine ⟨⟨boot, ?_⟩, mtime⟩
      intro m same
      rw [mtime] at same
      rw [mode, Option.some.inj same]

theorem observe_flags (k : Policy F) (reqId : String) (numDraft numAccepted : Int) :
    (observe host k reqId numDraft numAccepted).enabled = k.enabled ∧
    (observe host k reqId numDraft numAccepted).bootEnabled = k.bootEnabled ∧
    (observe host k reqId numDraft numAccepted).fileMtime = k.fileMtime ∧
    (observe host k reqId numDraft numAccepted).steps = k.steps := by
  unfold observe
  split
  · exact ⟨rfl, rfl, rfl, rfl⟩
  · dsimp only
    split <;> exact ⟨rfl, rfl, rfl, rfl⟩

theorem count_flags (k : Policy F) (n : Int) (live : String → Bool) :
    (count k n live).enabled = k.enabled ∧ (count k n live).bootEnabled = k.bootEnabled ∧
    (count k n live).fileMtime = k.fileMtime ∧ (count k n live).steps = k.steps + 1 := by
  unfold count
  dsimp only
  split <;> exact ⟨rfl, rfl, rfl, rfl⟩

theorem apply_flags (k : Policy F) (rows : List (Row Token)) (live : String → Bool)
    (disk : Option (OverrideFile F)) :
    (apply host k rows live disk).policy.enabled = (refreshed host k disk).enabled ∧
    (apply host k rows live disk).policy.bootEnabled = (refreshed host k disk).bootEnabled ∧
    (apply host k rows live disk).policy.fileMtime = (refreshed host k disk).fileMtime ∧
    ((apply host k rows live disk).raised = false →
      (apply host k rows live disk).policy.steps = (refreshed host k disk).steps + 1) := by
  rcases apply_cases host k rows live disk with ⟨_, result⟩ | ⟨_, _, result⟩ | ⟨_, _, _, _, result⟩
  · rw [result]
    exact ⟨rfl, rfl, rfl, fun _ => rfl⟩
  · rw [result]
    exact ⟨rfl, rfl, rfl, nofun⟩
  · rw [result]
    obtain ⟨enabled, boot, mtime, steps⟩ := count_flags (refreshed host k disk)
      (batchWidth (refreshed host k disk) rows _) live
    exact ⟨enabled, boot, mtime, fun _ => steps⟩

def Request.phase (r : Request Token) : Bool × Bool × Bool :=
  (r.finished, r.isPrefillChunk, r.structured)

def SamePhases (before after : Requests Token) : Prop :=
  ∀ id, (after.get id).map Request.phase = (before.get id).map Request.phase

theorem set_draft_same_phases (before after : Requests Token) (same : SamePhases before after)
    (id : String) (r : Request Token) (found : after.get id = some r) (tokens : List Token) :
    SamePhases before (after.set id { r with specTokenIds := tokens }) := by
  intro other
  by_cases here : other = id
  · rw [here, PyDict.get_set_same, ← same id, found]
    rfl
  · rw [PyDict.get_set_other _ _ here]
    exact same other

theorem take_draft_same_phases (enabled : Bool) (validate : String → List Token → List Token)
    (before : Requests Token) (acc : Requests Token × List (String × Bool))
    (draft : String × List Token) (same : SamePhases before acc.1) :
    SamePhases before (takeDraft enabled validate acc draft).1 := by
  unfold takeDraft
  split
  · exact same
  · rename_i r found
    split
    · exact same
    · split
      · split
        · exact same
        · exact set_draft_same_phases before acc.1 same draft.1 r found []
      · generalize (if r.structured = true then validate draft.1 draft.2 else draft.2) = tokens
        dsimp only
        split <;> exact set_draft_same_phases before acc.1 same draft.1 r found tokens

theorem take_draft_extends (enabled : Bool) (validate : String → List Token → List Token)
    (acc : Requests Token × List (String × Bool)) (draft : String × List Token) :
    ∃ more, (takeDraft enabled validate acc draft).2 = acc.2 ++ more ∧
      (enabled = false → more = []) := by
  unfold takeDraft
  split
  · exact ⟨[], by simp, fun _ => rfl⟩
  · rename_i r _
    split
    · exact ⟨[], by simp, fun _ => rfl⟩
    · split
      · split <;> exact ⟨[], by simp, fun _ => rfl⟩
      · generalize (if r.structured = true then validate draft.1 draft.2 else draft.2) = tokens
        dsimp only
        split
        · rename_i taken
          exact ⟨_, rfl, fun off => by simp [off] at taken⟩
        · exact ⟨[], by simp, fun _ => rfl⟩

theorem take_drafts_extend (enabled : Bool) (validate : String → List Token → List Token)
    (drafts : List (String × List Token)) (acc : Requests Token × List (String × Bool)) :
    ∃ more, (drafts.foldl (takeDraft enabled validate) acc).2 = acc.2 ++ more ∧
      (enabled = false → more = []) := by
  induction drafts generalizing acc with
  | nil => exact ⟨[], by simp, fun _ => rfl⟩
  | cons draft rest ih =>
    obtain ⟨first, step, idle⟩ := take_draft_extends enabled validate acc draft
    obtain ⟨later, run, quiet⟩ := ih (takeDraft enabled validate acc draft)
    refine ⟨first ++ later, ?_, fun off => by simp [idle off, quiet off]⟩
    rw [List.foldl_cons, run, step, List.append_assoc]

theorem take_draft_collects (validate : String → List Token → List Token)
    (before : Requests Token) (acc : Requests Token × List (String × Bool))
    (draft : String × List Token) (same : SamePhases before acc.1) (r : Request Token)
    (found : before.get draft.1 = some r) (live : r.finished = false)
    (decoding : r.isPrefillChunk = false)
    (tokens : (if r.structured then validate draft.1 draft.2 else draft.2).isEmpty = false) :
    (takeDraft true validate acc draft).2 ≠ [] := by
  have phases := same draft.1
  rw [found, Option.map_some, Option.map_eq_some_iff] at phases
  obtain ⟨now, present, equal⟩ := phases
  simp only [Request.phase, Prod.mk.injEq] at equal
  obtain ⟨finished, prefill, structured⟩ := equal
  rw [← structured] at tokens
  simp [takeDraft, present, finished, live, prefill, decoding, tokens]

theorem take_drafts_collect (call : DraftCall F Token) (carries : call.carriesDraft = true) :
    (call.drafts.foldl (takeDraft true call.validate) (call.requests, [])).2 ≠ [] := by
  obtain ⟨draft, listed, taken⟩ := List.any_eq_true.mp carries
  obtain ⟨front, back, parts⟩ := List.append_of_mem listed
  rw [parts, List.foldl_append, List.foldl_cons]
  have same : SamePhases call.requests
      (front.foldl (takeDraft true call.validate) (call.requests, [])).1 :=
    List.foldlRecOn front (takeDraft true call.validate)
      (motive := fun acc => SamePhases call.requests acc.1) (fun _ => rfl)
      (fun acc same draft _ => take_draft_same_phases true call.validate _ acc draft same)
  split at taken
  · cases taken
  · rename_i r found
    simp only [Bool.and_eq_true, Bool.not_eq_true'] at taken
    obtain ⟨⟨live, decoding⟩, tokens⟩ := taken
    have here := take_draft_collects call.validate call.requests _ draft same r found live decoding
      tokens
    obtain ⟨more, result, _⟩ := take_drafts_extend true call.validate back
      (takeDraft true call.validate (front.foldl (takeDraft true call.validate) (call.requests, []))
        draft)
    rw [result]
    exact List.append_ne_nil_of_left_ne_nil here more

theorem hook_off (k : Policy F) (off : k.enabled = false) (e : HookEvent F Token) :
    (hookStep host k e).1 = k := by
  cases e with
  | observe reqId numDraft numAccepted => simp [hookStep, observe, off]
  | update call =>
    obtain ⟨more, result, quiet⟩ := take_drafts_extend k.enabled call.validate call.drafts
      (call.requests, [])
    simp [hookStep, updateDraftTokenIds, result, quiet off]

theorem update_cases (k : Policy F) (call : DraftCall F Token) :
    ((hookStep host k (.update call)).1 = k ∧
      (k.enabled = true → call.carriesDraft = false)) ∨
    ∃ (rows : List (Row Token)) (live : String → Bool), hookStep host k (.update call) =
      ((apply host k rows live call.disk).policy, (apply host k rows live call.disk).raised) := by
  by_cases none_taken :
      (call.drafts.foldl (takeDraft k.enabled call.validate) (call.requests, [])).2 = []
  · left
    constructor
    · simp [hookStep, updateDraftTokenIds, none_taken]
    · intro on
      rw [on] at none_taken
      by_contra carries
      exact take_drafts_collect call (by simpa using carries) none_taken
  · right
    let taken := call.drafts.foldl (takeDraft k.enabled call.validate) (call.requests, [])
    refine ⟨collectedRows taken.1 taken.2, (taken.1.keys.contains ·), ?_⟩
    simp only [hookStep, updateDraftTokenIds, none_taken, ↓reduceIte, taken]

section Runs
variable (versions : Int → List (String × Json F))

theorem refreshed_tracks (k : Policy F) (disk : Option (OverrideFile F))
    (published : Published versions disk) (start : Tracks host versions k) :
    Tracks host versions (refreshed host k disk) := by
  unfold refreshed
  split
  · exact (reload_tracks host versions k disk published start).1
  · exact start

theorem hook_tracks (k : Policy F) (e : HookEvent F Token) (sees : e.Sees (Published versions))
    (start : Tracks host versions k) : Tracks host versions (hookStep host k e).1 := by
  cases e with
  | observe reqId numDraft numAccepted =>
    obtain ⟨enabled, boot, mtime, _⟩ := observe_flags host k reqId numDraft numAccepted
    refine ⟨boot.trans start.boot_enabled, ?_⟩
    intro m same
    exact enabled.trans (start.loaded m (mtime.symm.trans same))
  | update call =>
    rcases update_cases host k call with ⟨same, _⟩ | ⟨rows, live, applied⟩
    · rw [same]
      exact start
    · rw [applied]
      obtain ⟨enabled, boot, mtime, _⟩ := apply_flags host k rows live call.disk
      have now := refreshed_tracks host versions k call.disk sees start
      refine ⟨boot.trans now.boot_enabled, ?_⟩
      intro m same
      exact enabled.trans (now.loaded m (mtime.symm.trans same))

theorem init_tracks (env : Env) (disk : Option (OverrideFile F)) (k : Policy F)
    (started : init host env disk = some k) (on : modeOn (env.mode.getD "off") = true)
    (published : Published versions disk) : Tracks host versions k := by
  unfold init at started
  rw [on] at started
  generalize host.parse (env.alpha.getD "0.25") = alpha at started
  generalize host.parse (env.margin.getD "1.0") = margin at started
  generalize PyText.toInt (env.minSteps.getD "4") = minSteps at started
  generalize PyText.toInt (env.hist.getD "200") = histEvery at started
  simp only [Option.bind_eq_bind, Option.bind_eq_some_iff, Option.pure_def,
    Option.some.injEq] at started
  obtain ⟨_, _, _, _, _, _, _, _, _, _, made⟩ := started
  rw [← made]
  apply And.left
  apply reload_tracks host versions _ disk published
  exact ⟨rfl, fun m same => by cases same⟩

/-- The policy is still on and has made at least `c` steps since `s`, none of them a
    reload. -/
def Approaching (s c : Nat) (k : Policy F) : Prop :=
  k.enabled = true ∧ ∃ a, c ≤ a ∧ k.steps = s + a ∧ ∀ i < a, (s + i) % 50 ≠ 0

/-- Inside a window the current version is loaded, or the next reload comes closer. -/
def InWindow (file : OverrideFile F) (s c : Nat) (k : Policy F) : Prop :=
  Tracks host versions k ∧ (k.fileMtime = some file.mtime ∨ Approaching s c k)

variable (file : OverrideFile F) (published : Published versions (some file))
include published

theorem window_step (s c : Nat) (k : Policy F) (e : HookEvent F Token)
    (sees : e.Sees (· = some file)) (returned : (hookStep host k e).2 = false)
    (start : InWindow host versions file s c k) :
    InWindow host versions file s (c + if e.carriesDraft then 1 else 0) (hookStep host k e).1 := by
  obtain ⟨tracks, progress⟩ := start
  cases e with
  | observe reqId numDraft numAccepted =>
    refine ⟨hook_tracks host versions k _ trivial tracks, ?_⟩
    obtain ⟨enabled, _, mtime, steps⟩ := observe_flags host k reqId numDraft numAccepted
    simp only [hookStep, HookEvent.carriesDraft, Bool.false_eq_true, ↓reduceIte, Nat.add_zero,
      Approaching, mtime, enabled, steps]
    exact progress
  | update call =>
    have seen : call.disk = some file := sees
    have sound : Published versions call.disk := seen ▸ published
    have kept := hook_tracks host versions k (.update call) sound tracks
    refine ⟨kept, ?_⟩
    rcases update_cases host k call with ⟨same, idle⟩ | ⟨rows, live, applied⟩
    · rw [same]
      rcases progress with loaded | ⟨on, rest⟩
      · exact Or.inl loaded
      · simp only [HookEvent.carriesDraft, idle on, Bool.false_eq_true, ↓reduceIte, Nat.add_zero]
        exact Or.inr ⟨on, rest⟩
    · rw [applied] at returned ⊢
      rw [seen] at returned ⊢
      obtain ⟨enabled, _, mtime, steps⟩ := apply_flags host k rows live (some file)
      simp only [Approaching, enabled, mtime, steps returned]
      by_cases due : k.steps % 50 = 0
      · have now : refreshed host k (some file) = reload host k (some file) := if_pos due
        rw [now]
        exact Or.inl (reload_tracks host versions k (some file) published tracks).2
      · have same : refreshed host k (some file) = k := if_neg due
        rw [same]
        rcases progress with loaded | ⟨on, a, enough, count, clear⟩
        · exact Or.inl loaded
        · refine Or.inr ⟨on, a + 1, by split <;> omega, by omega, ?_⟩
          intro i before
          rcases Nat.lt_succ_iff_lt_or_eq.mp before with earlier | last
          · exact clear i earlier
          · rw [last, ← count]
            exact due

theorem window_run (s c : Nat) (k : Policy F) (window : List (HookEvent F Token))
    (sees : ∀ e ∈ window, e.Sees (· = some file))
    (returned : ∀ raised ∈ outputs (hookStep host) k window, raised = false)
    (start : InWindow host versions file s c k) :
    InWindow host versions file s (c + window.countP HookEvent.carriesDraft)
      (final (hookStep host) k window) := by
  induction window generalizing c k with
  | nil => exact start
  | cons e rest ih =>
    simp only [outputs_cons, List.mem_cons, forall_eq_or_imp] at returned
    have first := window_step host versions file published s c k e
      (sees e List.mem_cons_self) returned.1 start
    have later := ih _ _ (fun e member => sees e (List.mem_cons_of_mem _ member)) returned.2 first
    rw [List.countP_cons, Nat.add_comm (rest.countP _), ← Nat.add_assoc]
    exact later

theorem window_loads (k : Policy F) (tracks : Tracks host versions k) (on : k.enabled = true)
    (window : List (HookEvent F Token)) (sees : ∀ e ∈ window, e.Sees (· = some file))
    (returned : ∀ raised ∈ outputs (hookStep host) k window, raised = false)
    (enough : 50 ≤ window.countP HookEvent.carriesDraft) :
    (final (hookStep host) k window).enabled = overrideMode host (versions file.mtime) := by
  have start : InWindow host versions file k.steps 0 k :=
    ⟨tracks, Or.inr ⟨on, 0, Nat.le_refl 0, rfl, nofun⟩⟩
  obtain ⟨ends, progress⟩ := window_run host versions file published k.steps 0 k window sees
    returned start
  rcases progress with loaded | ⟨_, a, count, _, clear⟩
  · exact ends.loaded _ loaded
  · have due := clear ((50 - k.steps % 50) % 50) (by omega)
    omega
end Runs

theorem off_run (k : Policy F) (off : k.enabled = false) (window : List (HookEvent F Token)) :
    (final (hookStep host) k window).enabled = false :=
  final_invariant (hookStep host) (fun k => k.enabled = false) (fun _ => True)
    (fun k e _ inv => by rw [hook_off host k inv e]; exact inv) k window (fun _ _ => trivial) off

def sampleVersions (m : Int) : List (String × Json ℚ) :=
  [("mode", .str (if m = 1 then "off" else "ema"))]

def sampleFile (m : Int) : OverrideFile ℚ := ⟨m, some (.dict (sampleVersions m))⟩

def sampleUpdate (m : Int) : HookEvent ℚ Nat :=
  .update
    { requests := PyDict.empty.set "a" ⟨false, false, false, []⟩
      validate := fun _ tokens => tokens
      drafts := [("a", [1, 2, 3, 4, 5, 6, 7])]
      disk := some (sampleFile m) }

theorem sample_published (m : Int) : Published sampleVersions (some (sampleFile m)) := by
  intro file same
  rw [← Option.some.inj same]
  rfl

end AdaptiveK
