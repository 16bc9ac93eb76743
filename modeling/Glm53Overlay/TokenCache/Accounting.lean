import Glm53Overlay.TokenCache.Exactness

/-!
The budgets of the segment cache. The walk over a text only moves entries to the end, so a call
that declines or raises leaves the entries and the byte count alone; the store loop ends within
both budgets, and its eviction never meets an empty dictionary.
-/
namespace TokenCache

/-- The same entries, in any order, and the same byte count. -/
structure SameStore (c c' : Cache) : Prop where
  entries : c'.entries.entries.Perm c.entries.entries
  bytes : c'.bytes = c.bytes

theorem SameStore.refl (c : Cache) : SameStore c c :=
  ⟨List.Perm.refl _, rfl⟩

theorem SameStore.trans {a b c : Cache} (first : SameStore a b) (second : SameStore b c) :
    SameStore a c :=
  ⟨second.entries.trans first.entries, second.bytes.trans first.bytes⟩

structure Within (settings : Settings) (c : Cache) : Prop where
  bytes : c.bytes ≤ settings.maxBytes
  entries : c.entries.size ≤ settings.maxEntries

theorem Within.of_same {settings : Settings} {c c' : Cache} (within : Within settings c)
    (same : SameStore c c') : Within settings c' := by
  constructor
  · rw [same.bytes]
    exact within.bytes
  · rw [PyDict.size, same.entries.length_eq]
    exact within.entries

section
variable {tok : Tokenizer} {raises : Nat → Bool} {salt : Salt} {text : Text} {c : Cache}

theorem extend_same {w : Walk} (same : SameStore c w.cache) (piece : Text) :
    Ends (w.extend tok raises piece) (fun w' => SameStore c w'.cache) (SameStore c) := by
  unfold Walk.extend
  split
  · exact ends_error same
  · exact ends_ok same

theorem chunk_same {w : Walk} (same : SameStore c w.cache) (chunk : Text) :
    Ends (w.chunk tok raises salt chunk) (fun w' => SameStore c w'.cache) (SameStore c) := by
  unfold Walk.chunk
  split
  · exact ends_ok same
  · split
    · have missed : SameStore c { w.cache with misses := w.cache.misses + 1 } :=
        ⟨same.entries, same.bytes⟩
      refine ends_map (extend_same (w := { w with cache := _ }) missed chunk) ?_
      intro w' kept
      split
      · exact kept
      · exact kept
    · rename_i cached found
      refine ends_ok (same.trans ⟨?_, rfl⟩)
      exact w.cache.entries.entries_perm_moveToEnd (salt, chunk)

theorem span_same {w : Walk} (same : SameStore c w.cache) (m : Nat × Nat) :
    Ends (w.span tok raises salt text m) (fun w' => SameStore c w'.cache) (SameStore c) := by
  refine ends_bind (chunk_same same _) ?_
  intro w₁ chunked
  refine ends_bind (extend_same chunked _) ?_
  intro w₂ extended
  exact ends_ok extended

theorem tail_same {w : Walk} (same : SameStore c w.cache) :
    Ends (w.tail tok raises text) (fun w' => SameStore c w'.cache) (SameStore c) := by
  unfold Walk.tail
  split
  · exact extend_same same _
  · exact ends_ok same

theorem walk_same (matches' : List (Nat × Nat)) : ∀ w : Walk, SameStore c w.cache →
    Ends (do
        let w ← matches'.foldlM (Walk.span tok raises salt text) w
        w.tail tok raises text)
      (fun w' => SameStore c w'.cache) (SameStore c) := by
  induction matches' with
  | nil =>
    intro w same
    exact tail_same same
  | cons m rest ih =>
    intro w same
    rw [List.foldlM_cons, bind_assoc]
    exact ends_bind (span_same same m) ih

end

section
variable {tok : Tokenizer} {settings : Settings}

theorem within_of_not_over {c : Cache} (fits : c.overBudget settings = false) :
    Within settings c := by
  simp only [Cache.overBudget, Bool.or_eq_false_iff, decide_eq_false_iff_not] at fits
  exact ⟨Int.not_lt.mp fits.1, Nat.le_of_not_lt fits.2⟩

theorem evict_within (n : Nat) : ∀ {c c' : Cache}, Cache.evict settings n c = .ok c' →
    Within settings c' := by
  induction n with
  | zero =>
    intro c c' evicted
    rw [Cache.evict] at evicted
    split at evicted
    · cases evicted
    · rename_i fits
      cases evicted
      exact within_of_not_over (Bool.eq_false_iff.mpr fits)
  | succ n ih =>
    intro c c' evicted
    rw [Cache.evict] at evicted
    split at evicted
    · split at evicted
      · cases evicted
      · exact ih evicted
    · rename_i fits
      cases evicted
      exact within_of_not_over (Bool.eq_false_iff.mpr fits)

theorem store_within {salt : Salt} {c c' : Cache} {item : Key × List Nat}
    (within : Within settings c) (stored : Cache.store settings salt c item = .ok c') :
    Within settings c' := by
  unfold Cache.store at stored
  dsimp only at stored
  split at stored
  · cases stored
    exact within
  · exact evict_within _ stored

theorem store_all_within {salt : Salt} (pending : List (Key × List Nat)) :
    ∀ {c c' : Cache}, Within settings c →
      pending.foldlM (Cache.store settings salt) c = .ok c' → Within settings c' := by
  induction pending with
  | nil =>
    intro c c' within stored
    cases stored
    exact within
  | cons item rest ih =>
    intro c c' within stored
    rw [List.foldlM_cons] at stored
    cases first : Cache.store settings salt c item with
    | error left =>
      rw [first] at stored
      cases stored
    | ok middle =>
      rw [first] at stored
      exact ih (store_within within first) stored

structure Accounted (settings : Settings) (c : Cache)
    (result : Except Failure (Option (List Nat)) × Cache) : Prop where
  within : Within settings result.2
  popped : result.1 ≠ .error .keyError
  declined : result.1 = .ok none → SameStore c result.2
  raised : ∀ failure, result.1 = .error failure → SameStore c result.2

theorem accounted_same {c c' : Cache} {outcome : Except Failure (Option (List Nat))}
    (within : Within settings c) (same : SameStore c c') (popped : outcome ≠ .error .keyError) :
    Accounted settings c (outcome, c') :=
  ⟨within.of_same same, popped, fun _ => same, fun _ _ => same⟩

theorem finish_accounted {c : Cache} {salt : Salt} (truncate : Bool) (limit : Option Nat)
    {w : Walk} (within : Within settings c) (same : SameStore c w.cache)
    (good : WalkGood tok salt w) :
    Accounted settings c (finish settings salt truncate limit w) := by
  unfold finish
  split
  · exact accounted_same within same (by simp)
  · obtain ⟨left, stored, _⟩ := store_all_ends settings w.pending w.cache good.sound good.items
    have kept := store_all_within w.pending (within.of_same same) stored
    rw [stored]
    refine ⟨?_, by simp, fun wrong => (by cases wrong), fun _ wrong => (by cases wrong)⟩
    dsimp only
    split
    · exact ⟨kept.bytes, kept.entries⟩
    · exact kept

theorem encode_accounted {c : Cache} (sound : Sound tok c) (within : Within settings c)
    (call : Call) : Accounted settings c (encode tok settings c call) := by
  unfold encode
  split
  · exact accounted_same within (SameStore.refl c) (by simp)
  rename_i alternatives text truncate limit admitted
  split
  · exact accounted_same within (SameStore.refl c) (by simp)
  rename_i m rest found
  have start : WalkGood tok call.salt ⟨c, 0, [], [], 0⟩ := ⟨sound, fun _ none => (by cases none)⟩
  obtain ⟨ended, _⟩ := walk_ends call.raises text (m :: rest) ⟨c, 0, [], [], 0⟩ start
  obtain ⟨kept, left⟩ := @walk_same tok call.raises call.salt text c
    (m :: rest) ⟨c, 0, [], [], 0⟩ (SameStore.refl c)
  dsimp only
  split
  · rename_i cache failed
    exact accounted_same within (left cache failed) (by simp)
  · rename_i w walked
    exact finish_accounted truncate limit within (kept w walked) (ended w walked).1

theorem step_cache (c : Cache) (op : Op) :
    ∃ call, step tok settings c op = (encode tok settings c call).2 := by
  cases op with
  | tokenize call => exact ⟨call, tokenize_cache c call⟩
  | encode call => exact ⟨call, rfl⟩

theorem within_after (tok : Tokenizer) (settings : Settings) (history : List Op) :
    Within settings (after tok settings history) := by
  have run : ∀ (ops : List Op) (c : Cache), Sound tok c → Within settings c →
      Within settings (ops.foldl (step tok settings) c) := by
    intro ops
    induction ops with
    | nil =>
      intro c _ within
      exact within
    | cons op rest ih =>
      intro c sound within
      obtain ⟨call, same⟩ := @step_cache tok settings c op
      rw [List.foldl_cons, same]
      exact ih _ (encode_spec settings sound call).1 (encode_accounted sound within call).within
  refine run history Cache.init (sound_init tok) ⟨?_, Nat.zero_le _⟩
  exact Int.natCast_nonneg _

end

/-- After any history, one more call leaves a byte count that is the sum of the entries' sizes,
    keeps both budgets and never pops from an empty dictionary; a call that declines or raises
    leaves the entries and the byte count as they were. -/
theorem segment_cache_accounting (tok : Tokenizer) (settings : Settings) (history : List Op)
    (call : Call) :
    (encode tok settings (after tok settings history) call).2.bytes =
        ((encode tok settings (after tok settings history) call).2.entries.entries.map
          fun e => (e.2.2 : Int)).sum ∧
      (encode tok settings (after tok settings history) call).2.bytes ≤ settings.maxBytes ∧
      (encode tok settings (after tok settings history) call).2.entries.size ≤
        settings.maxEntries ∧
      (encode tok settings (after tok settings history) call).1 ≠ .error .keyError ∧
      ((encode tok settings (after tok settings history) call).1 = .ok none ∨
          (∃ failure,
            (encode tok settings (after tok settings history) call).1 = .error failure) →
        (encode tok settings (after tok settings history) call).2.entries.entries.Perm
            (after tok settings history).entries.entries ∧
          (encode tok settings (after tok settings history) call).2.bytes =
            (after tok settings history).bytes) := by
  have sound := sound_after tok settings history
  have within := within_after tok settings history
  have accounted := encode_accounted sound within call
  refine ⟨(encode_spec settings sound call).1.balance, accounted.within.bytes,
    accounted.within.entries, accounted.popped, ?_⟩
  intro unfinished
  have same : SameStore (after tok settings history)
      (encode tok settings (after tok settings history) call).2 := by
    rcases unfinished with declined | ⟨failure, raised⟩
    · exact accounted.declined declined
    · exact accounted.raised failure raised
  exact ⟨same.entries, same.bytes⟩

end TokenCache
