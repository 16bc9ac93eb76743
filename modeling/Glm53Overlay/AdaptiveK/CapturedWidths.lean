import Mathlib.Data.List.Forall2
import Mathlib.Data.Rat.Floor
import Glm53Overlay.Library.ReplayMachine
import Glm53Overlay.AdaptiveK.Policy

/-!
Widths over whole runs of the policy object. Float arithmetic stays arbitrary, so no
bound on the averages is used: a width is in the ladder because it was taken from it.
A batch whose picks raise is left as it was.
-/
namespace AdaptiveK
open ReplayMachine
variable {F Token : Type} (host : Host F)

/-- What the override file cannot touch, and the ladder it can only narrow. -/
structure Narrowed (before after : Policy F) : Prop where
  boot_set : after.bootSet = before.bootSet
  boot_enabled : after.bootEnabled = before.bootEnabled
  steps : after.steps = before.steps
  ladder : after.kSet = before.kSet ∨ ∃ want, after.kSet = ladder before.bootSet want

theorem Narrowed.refl (k : Policy F) : Narrowed k k := ⟨rfl, rfl, rfl, Or.inl rfl⟩

theorem read_override_narrows (k : Policy F) (cfg : Json F) :
    Narrowed k (readOverride host k cfg).1 := by
  unfold readOverride
  split
  · rename_i members
    dsimp only
    split
    · exact ⟨rfl, rfl, rfl, Or.inl rfl⟩
    · split
      · exact ⟨rfl, rfl, rfl, Or.inl rfl⟩
      · split
        · exact ⟨rfl, rfl, rfl, Or.inl rfl⟩
        · split
          · exact ⟨rfl, rfl, rfl, Or.inl rfl⟩
          · rename_i kSet chosen
            refine ⟨rfl, rfl, rfl, ?_⟩
            unfold field at chosen
            split at chosen
            · exact Or.inl (Option.some.inj chosen).symm
            · obtain ⟨want, _, result⟩ := Option.map_eq_some_iff.mp chosen
              exact Or.inr ⟨want, result.symm⟩
  · exact Narrowed.refl k

theorem reload_narrows (k : Policy F) (disk : Option (OverrideFile F)) :
    Narrowed k (reload host k disk) := by
  unfold reload
  split
  · exact Narrowed.refl k
  · dsimp only
    split
    · exact Narrowed.refl k
    · split
      · exact ⟨rfl, rfl, rfl, Or.inl rfl⟩
      · rename_i cfg _
        obtain ⟨bootSet, bootEnabled, steps, narrowed⟩ := read_override_narrows host
          { k with fileMtime := disk.map OverrideFile.mtime } cfg
        exact ⟨bootSet, bootEnabled, steps, narrowed⟩

/-- The ladder is a non-empty part of the boot set `boot`, and a policy that was off at
    boot is off. -/
structure InLadder (boot : List Int) (on : Bool) (k : Policy F) : Prop where
  boot_set : k.bootSet = boot
  boot_enabled : k.bootEnabled = on
  dormant : on = false → k.enabled = false
  nonempty : k.kSet ≠ []
  inside : ∀ n ∈ k.kSet, n ∈ boot

theorem mem_sorted_set (values : List Int) (n : Int) : n ∈ sortedSet values ↔ n ∈ values :=
  SortedRuns.mem_distinct values n

theorem ladder_in_boot (boot want : List Int) (some_width : boot ≠ []) :
    ladder boot want ≠ [] ∧ ∀ n ∈ ladder boot want, n ∈ boot := by
  unfold ladder
  dsimp only
  split
  · exact ⟨some_width, fun n member => member⟩
  · rename_i kept
    refine ⟨kept, fun n member => ?_⟩
    rw [mem_sorted_set, List.mem_filter] at member
    simpa using member.2

theorem reload_in_ladder {boot : List Int} {on : Bool} {k : Policy F} (some_width : boot ≠ [])
    (disk : Option (OverrideFile F)) (start : InLadder boot on k) :
    InLadder boot on (reload host k disk) := by
  cases on with
  | false =>
    have untouched : reload host k disk = k := by simp [reload, start.boot_enabled]
    rw [untouched]
    exact start
  | true =>
    have narrowed := reload_narrows host k disk
    have boot_set := narrowed.boot_set.trans start.boot_set
    have boot_enabled := narrowed.boot_enabled.trans start.boot_enabled
    rcases narrowed.ladder with same | ⟨want, chosen⟩
    · exact ⟨boot_set, boot_enabled, nofun, same ▸ start.nonempty, same ▸ start.inside⟩
    · rw [start.boot_set] at chosen
      obtain ⟨nonempty, inside⟩ := ladder_in_boot boot want some_width
      exact ⟨boot_set, boot_enabled, nofun, chosen ▸ nonempty, chosen ▸ inside⟩

/-- A call on the policy object. Each reload sees the file as it then is. -/
inductive Event (F Token : Type) where
  | observe (reqId : String) (numDraft numAccepted : Int)
  | apply (rows : List (Row Token)) (live : String → Bool) (disk : Option (OverrideFile F))
  | reload (disk : Option (OverrideFile F))

def step (k : Policy F) : Event F Token → Policy F × List (Row Token)
  | .observe reqId numDraft numAccepted => (observe host k reqId numDraft numAccepted, [])
  | .apply rows live disk => ((apply host k rows live disk).policy, (apply host k rows live disk).rows)
  | .reload disk => (reload host k disk, [])

theorem observe_keeps_ladder (boot : List Int) (on : Bool) (k : Policy F) (reqId : String)
    (numDraft numAccepted : Int) (start : InLadder boot on k) :
    InLadder boot on (observe host k reqId numDraft numAccepted) := by
  unfold observe
  split
  · exact start
  · dsimp only
    split <;>
      exact ⟨start.boot_set, start.boot_enabled, start.dormant, start.nonempty, start.inside⟩

theorem count_keeps_ladder (boot : List Int) (on : Bool) (k : Policy F) (n : Int)
    (live : String → Bool) (start : InLadder boot on k) : InLadder boot on (count k n live) := by
  unfold count
  dsimp only
  split <;> exact ⟨start.boot_set, start.boot_enabled, start.dormant, start.nonempty, start.inside⟩

def refreshed (k : Policy F) (disk : Option (OverrideFile F)) : Policy F :=
  if k.steps % 50 = 0 then reload host k disk else k

theorem refreshed_in_ladder {boot : List Int} {on : Bool} {k : Policy F} (some_width : boot ≠ [])
    (disk : Option (OverrideFile F)) (start : InLadder boot on k) :
    InLadder boot on (refreshed host k disk) := by
  unfold refreshed
  split
  · exact reload_in_ladder host some_width disk start
  · exact start

theorem apply_cases (k : Policy F) (rows : List (Row Token)) (live : String → Bool)
    (disk : Option (OverrideFile F)) :
    (((refreshed host k disk).enabled = false ∨ rows = []) ∧
      apply host k rows live disk =
        ⟨{ refreshed host k disk with steps := (refreshed host k disk).steps + 1 }, rows, false⟩) ∨
    ((refreshed host k disk).enabled = true ∧ rows ≠ [] ∧
      apply host k rows live disk = ⟨refreshed host k disk, rows, true⟩) ∨
    ((refreshed host k disk).enabled = true ∧ rows ≠ [] ∧ ∃ picks,
      rows.mapM (fun r => choose host (refreshed host k disk) r.requestId r.width r.structured) =
        some picks ∧
      apply host k rows live disk =
        ⟨count (refreshed host k disk) (batchWidth (refreshed host k disk) rows picks) live,
          rows.map (Row.trim (batchWidth (refreshed host k disk) rows picks)), false⟩) := by
  by_cases idle : (refreshed host k disk).enabled = false ∨ rows = []
  · exact Or.inl ⟨idle, if_pos idle⟩
  · have busy := idle
    rw [not_or, Bool.not_eq_false] at busy
    right
    cases picked : rows.mapM fun r =>
        choose host (refreshed host k disk) r.requestId r.width r.structured with
    | none =>
      refine Or.inl ⟨busy.1, busy.2, (if_neg idle).trans ?_⟩
      rw [refreshed] at picked
      rw [picked]
      rfl
    | some picks =>
      refine Or.inr ⟨busy.1, busy.2, picks, rfl, (if_neg idle).trans ?_⟩
      rw [refreshed] at picked
      rw [picked]
      rfl

theorem apply_keeps_ladder (boot : List Int) (on : Bool) (some_width : boot ≠ []) (k : Policy F)
    (rows : List (Row Token)) (live : String → Bool) (disk : Option (OverrideFile F))
    (start : InLadder boot on k) : InLadder boot on (apply host k rows live disk).policy := by
  have now := refreshed_in_ladder host some_width disk start
  rcases apply_cases host k rows live disk with ⟨_, result⟩ | ⟨_, _, result⟩ | ⟨_, _, _, _, result⟩
  · rw [result]
    exact ⟨now.boot_set, now.boot_enabled, now.dormant, now.nonempty, now.inside⟩
  · rw [result]
    exact now
  · rw [result]
    exact count_keeps_ladder boot on _ _ live now

theorem step_keeps_ladder (boot : List Int) (on : Bool) (some_width : boot ≠ []) (k : Policy F)
    (e : Event F Token) (start : InLadder boot on k) : InLadder boot on (step host k e).1 := by
  cases e with
  | observe reqId numDraft numAccepted =>
    exact observe_keeps_ladder host boot on k reqId numDraft numAccepted start
  | apply rows live disk => exact apply_keeps_ladder host boot on some_width k rows live disk start
  | reload disk => exact reload_in_ladder host some_width disk start

theorem run_keeps_ladder (boot : List Int) (on : Bool) (some_width : boot ≠ []) (k : Policy F)
    (events : List (Event F Token)) (start : InLadder boot on k) :
    InLadder boot on (final (step host) k events) :=
  final_invariant (step host) (InLadder boot on) (fun _ => True)
    (fun k e _ inv => step_keeps_ladder host boot on some_width k e inv) k events
    (fun _ _ => trivial) start

theorem init_in_ladder (env : Env) (disk : Option (OverrideFile F)) (k : Policy F)
    (booted : init host env disk = some k) (widths : List Int)
    (parsed : env.widths = some widths) (some_width : widths ≠ []) :
    InLadder (sortedSet widths) (modeOn (env.mode.getD "off")) k := by
  obtain ⟨n, listed⟩ := List.exists_mem_of_ne_nil widths some_width
  have sorted_width : sortedSet widths ≠ [] :=
    List.ne_nil_of_mem ((mem_sorted_set widths n).mpr listed)
  unfold init at booted
  rw [parsed] at booted
  generalize modeOn (env.mode.getD "off") = on at booted ⊢
  generalize host.parse (env.alpha.getD "0.25") = alpha at booted
  generalize host.parse (env.margin.getD "1.0") = margin at booted
  generalize PyText.toInt (env.minSteps.getD "4") = minSteps at booted
  generalize PyText.toInt (env.hist.getD "200") = histEvery at booted
  simp only [Option.bind_eq_bind, Option.bind_eq_some_iff, Option.pure_def,
    Option.some.injEq] at booted
  obtain ⟨_, _, _, _, _, _, _, same, _, _, made⟩ := booted
  rw [← made, ← same]
  apply reload_in_ladder host sorted_width
  exact ⟨rfl, rfl, fun off => off, sorted_width, fun n member => member⟩

theorem choose_spec {boot : List Int} {on : Bool} {k : Policy F} (inv : InLadder boot on k)
    (range : ∀ n ∈ boot, 1 ≤ n ∧ n ≤ 7) (reqId : String) (width : Int) (structured : Bool) (n : Int)
    (picked : choose host k reqId width structured = some (some n)) :
    structured = false ∧ 1 ≤ n ∧ (width = 7 → n ∈ k.kSet) := by
  unfold choose at picked
  split at picked
  · cases picked
  · rename_i open'
    simp only [not_or, Bool.not_eq_true] at open'
    split at picked
    · cases picked
    · split at picked
      · cases picked
      · simp only [Option.bind_eq_some_iff, Option.map_eq_some_iff, Option.some.injEq] at picked
        obtain ⟨target, _, rung, chosen, width_eq⟩ := picked
        have listed : rung ∈ k.kSet := by
          split at chosen
          · exact List.min?_mem chosen
          · exact (List.mem_filter.mp (List.max?_mem chosen)).1
        have bounds := range rung (inv.inside rung listed)
        refine ⟨open'.2.1, by omega, ?_⟩
        intro full
        have same : n = rung := by omega
        exact same ▸ listed

theorem pos_width_cases (k : Policy F) (rows : List (Row Token)) (picks : List (Option Int))
    (n : Int) (some_rung : k.kSet ≠ []) :
    posWidth k rows picks n = none ∨ ∃ floor ∈ k.kSet, posWidth k rows picks n = some floor := by
  obtain ⟨floor, lowest⟩ := Option.isSome_iff_exists.mp (List.isSome_min?_of_ne_nil some_rung)
  unfold posWidth
  split
  · exact Or.inl rfl
  · split
    · exact Or.inl rfl
    · split
      · exact Or.inl rfl
      · split
        · exact Or.inl rfl
        · simp only [lowest, Option.getD_some]
          split
          · rename_i below
            rw [min_eq_right (le_of_lt below)]
            exact Or.inr ⟨floor, List.min?_mem lowest, rfl⟩
          · exact Or.inl rfl

theorem picks_of_rows {α β : Type} (f : α → Option β) (rows : List α) (picks : List β)
    (picked : rows.mapM f = some picks) :
    (∀ r ∈ rows, ∃ p ∈ picks, f r = some p) ∧ (∀ p ∈ picks, ∃ r ∈ rows, f r = some p) := by
  induction rows generalizing picks with
  | nil =>
    simp only [List.mapM_nil, Option.pure_def, Option.some.injEq] at picked
    subst picked
    exact ⟨nofun, nofun⟩
  | cons r rest ih =>
    simp only [List.mapM_cons, Option.bind_eq_bind, Option.bind_eq_some_iff, Option.pure_def,
      Option.some.injEq] at picked
    obtain ⟨p, here, others, there, rfl⟩ := picked
    obtain ⟨forward, backward⟩ := ih others there
    constructor
    · intro q member
      rcases List.mem_cons.mp member with rfl | later
      · exact ⟨p, List.mem_cons_self, here⟩
      · obtain ⟨v, listed, value⟩ := forward q later
        exact ⟨v, List.mem_cons_of_mem p listed, value⟩
    · intro v member
      rcases List.mem_cons.mp member with rfl | later
      · exact ⟨r, List.mem_cons_self, here⟩
      · obtain ⟨q, listed, value⟩ := backward v later
        exact ⟨q, List.mem_cons_of_mem r listed, value⟩

theorem batch_width_spec {boot : List Int} {on : Bool} {k : Policy F} (inv : InLadder boot on k)
    (range : ∀ n ∈ boot, 1 ≤ n ∧ n ≤ 7) (rows : List (Row Token)) (some_row : rows ≠ [])
    (picks : List (Option Int))
    (picked : rows.mapM (fun r => choose host k r.requestId r.width r.structured) = some picks) :
    (rows.map Row.width).max? = some (batchWidth k rows picks) ∨
    ((∀ r ∈ rows, r.structured = false) ∧ 1 ≤ batchWidth k rows picks ∧
      ((∀ r ∈ rows, r.width = 7) → batchWidth k rows picks ∈ k.kSet)) := by
  obtain ⟨forward, backward⟩ := picks_of_rows _ rows picks picked
  have known (n : Int) (listed : n ∈ picks.filterMap id) :
      1 ≤ n ∧ ((∀ r ∈ rows, r.width = 7) → n ∈ k.kSet) := by
    obtain ⟨p, member, value⟩ := List.mem_filterMap.mp listed
    obtain ⟨r, there, given⟩ := backward p member
    rw [id_eq] at value
    obtain ⟨_, positive, rung⟩ := choose_spec host inv range _ _ _ n (value ▸ given)
    exact ⟨positive, fun full => rung (full r there)⟩
  unfold batchWidth
  split
  · rename_i observed
    rw [List.all_eq_true] at observed
    have unstructured : ∀ r ∈ rows, r.structured = false := by
      intro r member
      obtain ⟨p, listed, given⟩ := forward r member
      obtain ⟨n, value⟩ := Option.isSome_iff_exists.mp (observed p listed)
      exact (choose_spec host inv range _ _ _ n (value ▸ given)).1
    obtain ⟨r, member⟩ := List.exists_mem_of_ne_nil rows some_row
    obtain ⟨p, listed, _⟩ := forward r member
    obtain ⟨n, value⟩ := Option.isSome_iff_exists.mp (observed p listed)
    have nonempty : picks.filterMap id ≠ [] :=
      List.ne_nil_of_mem (List.mem_filterMap.mpr ⟨p, listed, value⟩)
    obtain ⟨least, minimum⟩ := Option.isSome_iff_exists.mp (List.isSome_min?_of_ne_nil nonempty)
    right
    refine ⟨unstructured, ?_⟩
    simp only [minimum, Option.getD_some]
    rcases pos_width_cases k rows picks least inv.nonempty with kept | ⟨floor, rung, clamped⟩
    · rw [kept]
      exact known least (List.min?_mem minimum)
    · rw [clamped]
      exact ⟨(range floor (inv.inside floor rung)).1, fun _ => rung⟩
  · cases margin : marginWidth k rows picks with
    | none =>
      left
      obtain ⟨widest, maximum⟩ := Option.isSome_iff_exists.mp
        (List.isSome_max?_of_ne_nil (l := rows.map Row.width) (by simpa using some_row))
      simp [maximum]
    | some n =>
      right
      unfold marginWidth at margin
      split at margin
      · cases margin
      · rename_i open'
        simp only [not_or, List.any_eq_true, not_exists, not_and, Bool.not_eq_true] at open'
        exact ⟨open'.2, known n (List.min?_mem margin)⟩

theorem trim_widest (rows : List (Row Token)) (n : Int)
    (widest : (rows.map Row.width).max? = some n) : rows.map (Row.trim n) = rows := by
  conv_rhs => rw [← List.map_id rows]
  apply List.map_congr_left
  intro r member
  have bound := (List.max?_eq_some_iff.mp widest).2 r.width (List.mem_map_of_mem member)
  simp only [Row.trim, not_lt_of_ge bound, ↓reduceIte, id_eq]

/-- What a call may do to one row: shorten its draft, never to nothing. -/
structure RowKept (before after : Row Token) : Prop where
  request : after.requestId = before.requestId
  grammar : after.structured = before.structured
  draft : after.specTokenIds <+: before.specTokenIds
  nonempty : before.specTokenIds ≠ [] → after.specTokenIds ≠ []

theorem RowKept.refl (r : Row Token) : RowKept r r :=
  ⟨rfl, rfl, List.prefix_rfl, fun nonempty => nonempty⟩

theorem trim_keeps (r : Row Token) (n : Int) (positive : 1 ≤ n) : RowKept r (r.trim n) := by
  unfold Row.trim
  split
  · refine ⟨rfl, rfl, ?_, ?_⟩
    · simp only [upTo, show 0 ≤ n by omega, ↓reduceIte]
      exact List.take_prefix _ _
    · intro nonempty
      simp only [upTo, show 0 ≤ n by omega, ↓reduceIte, ne_eq, List.take_eq_nil_iff, not_or]
      exact ⟨by omega, nonempty⟩
  · exact RowKept.refl r

theorem trim_width (r : Row Token) (n : Int) (positive : 1 ≤ n) (bound : n ≤ r.width) :
    (r.trim n).width = n := by
  unfold Row.trim
  split
  · rename_i below
    unfold Row.width at bound ⊢
    simp only [upTo, show 0 ≤ n by omega, ↓reduceIte, List.length_take]
    omega
  · omega

theorem query_lens_capture (env : Env) (widths lens : List Int) (parsed : env.widths = some widths)
    (n : Int) (native : 8 ∈ lens) (bounds : 1 ≤ n ∧ n ≤ 7)
    (source : n = 7 ∨ (n ∈ widths ∧ modeOn (env.mode.getD "off") = true)) :
    ∃ captured, adaptiveKQueryLens env lens 8 = some captured ∧ n + 1 ∈ captured := by
  unfold adaptiveKQueryLens
  split
  · rename_i off
    rcases source with full | ⟨_, on⟩
    · exact ⟨lens, rfl, by rw [full]; exact native⟩
    · rw [on] at off
      cases off.1
  · rw [parsed]
    refine ⟨_, rfl, ?_⟩
    rw [mem_sorted_set]
    rcases source with full | ⟨listed, _⟩
    · simp [full]
    · simp only [List.mem_append, List.mem_filter, List.mem_map, decide_eq_true_eq]
      exact Or.inl (Or.inr ⟨⟨n, listed, rfl⟩, by omega⟩)

section Apply
variable {boot : List Int} {on : Bool} {k : Policy F} (inv : InLadder boot on k)
  (some_width : boot ≠ []) (range : ∀ n ∈ boot, 1 ≤ n ∧ n ≤ 7)
include inv some_width range

theorem apply_rows (rows : List (Row Token)) (live : String → Bool)
    (disk : Option (OverrideFile F)) :
    (apply host k rows live disk).rows = rows ∨
    ∃ n, (apply host k rows live disk).rows = rows.map (Row.trim n) ∧ 1 ≤ n ∧ on = true ∧
      (∀ r ∈ rows, r.structured = false) ∧ ((∀ r ∈ rows, r.width = 7) → n ∈ boot) := by
  have now := refreshed_in_ladder host some_width disk inv
  rcases apply_cases host k rows live disk with
    ⟨_, result⟩ | ⟨_, _, result⟩ | ⟨enabled, some_row, picks, picked, result⟩
  · rw [result]
    exact Or.inl rfl
  · rw [result]
    exact Or.inl rfl
  · rw [result]
    rcases batch_width_spec host now range rows some_row picks picked with
      widest | ⟨unstructured, positive, rung⟩
    · exact Or.inl (trim_widest rows _ widest)
    · refine Or.inr ⟨_, rfl, positive, ?_, unstructured, fun full => now.inside _ (rung full)⟩
      by_contra off
      have dormant := now.dormant (Bool.not_eq_true _ ▸ off)
      rw [enabled] at dormant
      cases dormant

theorem apply_keeps_rows (rows : List (Row Token)) (live : String → Bool)
    (disk : Option (OverrideFile F)) :
    List.Forall₂ RowKept rows (apply host k rows live disk).rows := by
  rcases apply_rows host inv some_width range rows live disk with same | ⟨n, cut, positive, _⟩
  · rw [same]
    exact List.forall₂_same.mpr fun r _ => RowKept.refl r
  · rw [cut, List.forall₂_map_right_iff]
    exact List.forall₂_same.mpr fun r _ => trim_keeps r n positive

theorem apply_structured (rows : List (Row Token)) (live : String → Bool)
    (disk : Option (OverrideFile F)) (grammar : ∃ r ∈ rows, r.structured = true) :
    (apply host k rows live disk).rows = rows := by
  rcases apply_rows host inv some_width range rows live disk with
    same | ⟨_, _, _, _, unstructured, _⟩
  · exact same
  · obtain ⟨r, member, structured⟩ := grammar
    rw [unstructured r member] at structured
    cases structured

theorem apply_full_drafts (rows : List (Row Token)) (live : String → Bool)
    (disk : Option (OverrideFile F)) (full : ∀ r ∈ rows, r.width = 7) :
    ∃ n, (∀ r ∈ (apply host k rows live disk).rows, r.width = n) ∧
      (n = 7 ∨ (n ∈ boot ∧ on = true)) := by
  rcases apply_rows host inv some_width range rows live disk with
    same | ⟨n, cut, positive, running, _, rung⟩
  · rw [same]
    exact ⟨7, full, Or.inl rfl⟩
  · refine ⟨n, ?_, Or.inr ⟨rung full, running⟩⟩
    rw [cut]
    intro trimmed member
    obtain ⟨r, listed, rfl⟩ := List.mem_map.mp member
    have bound := (range n (rung full)).2
    have width := full r listed
    exact trim_width r n positive (by omega)
end Apply

/-- Trimming stays inside the captured widths in every run of the policy object. -/
theorem trims_within_captured_widths (env : Env) (bootDisk : Option (OverrideFile F))
    (booted : Policy F) (started : init host env bootDisk = some booted)
    (widths : List Int) (parsed : env.widths = some widths)
    (range : ∀ n ∈ widths, 1 ≤ n ∧ n ≤ 7) (seven : 7 ∈ widths)
    (lens : List Int) (native : 8 ∈ lens) (events : List (Event F Token)) :
    let k := final (step host) booted events
    k.bootSet = sortedSet widths ∧ k.kSet ≠ [] ∧ (∀ n ∈ k.kSet, n ∈ k.bootSet) ∧
    ∀ (rows : List (Row Token)) (live : String → Bool) (disk : Option (OverrideFile F)),
      List.Forall₂ RowKept rows (apply host k rows live disk).rows ∧
      ((∃ r ∈ rows, r.structured = true) → (apply host k rows live disk).rows = rows) ∧
      ((∀ r ∈ rows, r.width = 7) →
        ∃ n ∈ k.bootSet, (∀ r ∈ (apply host k rows live disk).rows, r.width = n) ∧
          ∃ captured, adaptiveKQueryLens env lens 8 = some captured ∧ n + 1 ∈ captured) := by
  intro k
  have sorted_seven : 7 ∈ sortedSet widths := (mem_sorted_set widths 7).mpr seven
  have some_width : sortedSet widths ≠ [] := List.ne_nil_of_mem sorted_seven
  have sorted_range : ∀ n ∈ sortedSet widths, 1 ≤ n ∧ n ≤ 7 :=
    fun n member => range n ((mem_sorted_set widths n).mp member)
  have start := init_in_ladder host env bootDisk booted started widths parsed
    (List.ne_nil_of_mem seven)
  have inv : InLadder (sortedSet widths) (modeOn (env.mode.getD "off")) k :=
    run_keeps_ladder host _ _ some_width booted events start
  refine ⟨inv.boot_set, inv.nonempty, inv.boot_set ▸ inv.inside, ?_⟩
  intro rows live disk
  refine ⟨apply_keeps_rows host inv some_width sorted_range rows live disk,
    apply_structured host inv some_width sorted_range rows live disk, ?_⟩
  intro full
  obtain ⟨n, uniform, source⟩ := apply_full_drafts host inv some_width sorted_range rows live disk full
  have listed : n ∈ sortedSet widths := by
    rcases source with native | ⟨rung, _⟩
    · rw [native]
      exact sorted_seven
    · exact rung
  refine ⟨n, inv.boot_set ▸ listed, uniform, ?_⟩
  apply query_lens_capture env widths lens parsed n native (sorted_range n listed)
  rcases source with native | ⟨rung, running⟩
  · exact Or.inl native
  · exact Or.inr ⟨(mem_sorted_set widths n).mp rung, running⟩

def exactHost (parse : String → Option ℚ) (repr : Json ℚ → String) : Host ℚ where
  ofInt i := i
  fromInt i := some i
  parse := parse
  trunc q := some (if 0 ≤ q then ⌊q⌋ else ⌈q⌉)
  ceil q := some ⌈q⌉
  add a b := a + b
  mul a b := a * b
  oneMinus a := 1 - a
  repr := repr

def sampleHost : Host ℚ :=
  exactHost (fun s => if s = "0.25" then some (1 / 4) else if s = "1.0" then some 1 else none)
    (fun _ => "")

def sampleEnv : Env := ⟨some "on", none, none, none, none, none, none, none, none, none⟩

def sampleBooted : Policy ℚ :=
  { enabled := true, alpha := 1 / 4, margin := 1, minSteps := 4, kSet := [2, 4, 7]
    saturate := "max", histEvery := 200, batchMargin := false, posTrim := false
    state := PyDict.empty, hist := PyDict.empty, steps := 0, kMax := 7, bootSet := [2, 4, 7]
    bootEnabled := true, fileMtime := none }

def sampleRejections : List (Event ℚ Nat) := List.replicate 4 (.observe "a" 7 0)

theorem trims_within_captured_widths_rejections :
    ((apply sampleHost (final (step sampleHost) sampleBooted sampleRejections)
        [⟨"a", [1, 2, 3, 4, 5, 6, 7], false⟩] (fun _ => true) none).rows.map
          Row.specTokenIds) = [[1, 2, 3, 4]] ∧
    ∃ n ∈ (final (step sampleHost) sampleBooted sampleRejections).bootSet, n = 4 ∧
      ∃ captured, adaptiveKQueryLens sampleEnv [8] 8 = some captured ∧ n + 1 ∈ captured := by
  have cut : ((apply sampleHost (final (step sampleHost) sampleBooted sampleRejections)
      [⟨"a", [1, 2, 3, 4, 5, 6, 7], false⟩] (fun _ => true) none).rows.map
        Row.specTokenIds) = [[1, 2, 3, 4]] := by decide +kernel
  refine ⟨cut, ?_⟩
  have all := (trims_within_captured_widths sampleHost sampleEnv none sampleBooted (by rfl)
    [2, 4, 7] (by decide +kernel) (by decide) (by decide) [8] (by decide) sampleRejections).2.2.2
    [⟨"a", [1, 2, 3, 4, 5, 6, 7], false⟩] (fun _ => true) none
  obtain ⟨n, boot, uniform, captured⟩ := all.2.2 (by decide)
  refine ⟨n, boot, ?_, captured⟩
  obtain ⟨r, listed, tokens⟩ := List.mem_map.mp (cut ▸ List.mem_singleton_self [1, 2, 3, 4])
  have width := uniform r listed
  simp only [Row.width, tokens] at width
  exact width.symm

end AdaptiveK
