import Glm53Overlay.TokenCache.SegmentCache
import Mathlib

/-!
Every entry of the cache is the tokenizer's own encoding of its chunk, through hits, misses,
evictions, oversized entries, declined calls and exceptions. A chunk between two matches holds
no added token, so encoding it alone is what the tokenizer does with it inside the text.
-/
namespace TokenCache
open LongestMatch

theorem qualify_spec {tok : Tokenizer} {alternatives : List Text}
    (qualified : tok.qualify = some alternatives) :
    ∃ config, tok.config = some config ∧ [] ∉ config.contents ∧
      ∀ t, firstAt alternatives t = longestAt config.contents t := by
  unfold Tokenizer.qualify at qualified
  split at qualified
  · cases qualified
  split at qualified
  · cases qualified
  rename_i config found
  split at qualified
  · cases qualified
  split at qualified
  · cases qualified
  split at qualified
  · cases qualified
  split at qualified
  · cases qualified
  rename_i added
  cases qualified
  refine ⟨config, found, ?_, ?_⟩
  · intro empty
    obtain ⟨t, member, content⟩ := List.mem_map.mp empty
    refine added ?_
    rw [Bool.or_eq_true, List.any_eq_true]
    exact Or.inr ⟨t, member, by simp [content]⟩
  · intro t
    have total : Std.Total fun a b : Text => b.length ≤ a.length :=
      ⟨fun a b => Nat.le_total b.length a.length⟩
    have trans : IsTrans Text fun a b => b.length ≤ a.length :=
      ⟨fun a b c first second => Nat.le_trans second first⟩
    exact firstAt_eq_longestAt (List.perm_insertionSort _ _) (List.pairwise_insertionSort _ _) t

theorem plain_eq_encoding {tok : Tokenizer} {config : Config} (found : tok.config = some config)
    (text : Text) : tok.plain text = tok.encoding config text := by
  unfold Tokenizer.plain Tokenizer.stock
  rw [found]
  rfl

/-- The seam: a piece encoded alone is the piece as the tokenizer encodes it in place. -/
theorem plain_piece {tok : Tokenizer} {config : Config} (found : tok.config = some config)
    (nonempty : [] ∉ config.contents) (text : Text) :
    ∀ piece ∈ pieces (longestAt config.contents) [] 0 text,
      tok.plain piece.text = tok.encodePiece piece := by
  intro piece member
  rw [plain_eq_encoding found, Tokenizer.encoding, piece_alone nonempty text piece member,
    List.flatMap_singleton]

theorem encoding_of_cut {tok : Tokenizer} {alternatives : List Text}
    (qualified : tok.qualify = some alternatives) (text : Text) :
    ∃ config, tok.config = some config ∧
      (cut text 0 (spans (firstAt alternatives) 0 0 text)).flatMap (fun p => tok.plain p.text) =
        tok.encoding config text := by
  obtain ⟨config, found, nonempty, agree⟩ := qualify_spec qualified
  have same : firstAt alternatives = longestAt config.contents := funext agree
  refine ⟨config, found, ?_⟩
  rw [same, cut_spans (longestAt_matches nonempty), Tokenizer.encoding]
  refine List.flatMap_congr ?_
  exact plain_piece found nonempty text

theorem truncate_of_le (side : Side) {limit : Nat} {ids : List Nat} (fits : ids.length ≤ limit) :
    side.truncate limit ids = ids := by
  cases side with
  | left => rw [Side.truncate, Nat.sub_eq_zero_of_le fits, List.drop_zero]
  | right => exact List.take_of_length_le fits

section
variable (tok : Tokenizer)

structure Sound (c : Cache) : Prop where
  exact : ∀ key v, c.entries.get key = some v → v.1 = tok.plain key.2
  balance : c.bytes = (c.entries.entries.map fun e => (e.2.2 : Int)).sum
  known : ∀ key v, c.entries.get key = some v → ∃ salt, .stored salt key ∈ c.log
  salted : ∀ salt key, .stored salt key ∈ c.log ∨ .reused salt key ∈ c.log → salt = key.1
  ordered : ∀ before salt key after, c.log = before ++ .reused salt key :: after →
    ∃ by', .stored by' key ∈ before

theorem sound_init : Sound tok Cache.init where
  exact key v found := by cases found
  balance := rfl
  known key v found := by cases found
  salted salt key logged := by rcases logged with none | none <;> cases none
  ordered before salt key after split := by cases before <;> cases split

end

section
variable {tok : Tokenizer} {settings : Settings} {c : Cache} {salt : Salt}

theorem sound_of_same {c' : Cache} (sound : Sound tok c) (entries : c'.entries = c.entries)
    (bytes : c'.bytes = c.bytes) (log : c'.log = c.log) : Sound tok c' where
  exact := by rw [entries]; exact sound.exact
  balance := by rw [entries, bytes]; exact sound.balance
  known := by rw [entries, log]; exact sound.known
  salted := by rw [log]; exact sound.salted
  ordered := by rw [log]; exact sound.ordered

theorem ordered_snoc {log : List Event} {event : Event}
    (ordered : ∀ before salt key after, log = before ++ .reused salt key :: after →
      ∃ by', .stored by' key ∈ before)
    (last : ∀ salt key, event = .reused salt key → ∃ by', .stored by' key ∈ log) :
    ∀ before salt key after, log ++ [event] = before ++ .reused salt key :: after →
      ∃ by', .stored by' key ∈ before := by
  intro before salt key after split
  rcases List.eq_nil_or_concat after with rfl | ⟨rest, e, rfl⟩
  · obtain ⟨same, tail⟩ := List.append_inj' split rfl
    rw [← same]
    exact last salt key (List.singleton_inj.mp tail)
  · have longer : log ++ [event] = (before ++ .reused salt key :: rest) ++ [e] := by
      rw [split]
      simp [List.append_assoc]
    exact ordered before salt key rest (List.append_inj' longer rfl).1

theorem sound_hit {chunk : Text} {cached : List Nat × Nat} (sound : Sound tok c)
    (found : c.entries.get (salt, chunk) = some cached) :
    Sound tok { c with
      hits := c.hits + 1
      entries := c.entries.moveToEnd (salt, chunk)
      log := c.log ++ [.reused salt (salt, chunk)] } where
  exact key v get := by
    rw [PyDict.get_moveToEnd] at get
    exact sound.exact key v get
  balance := by
    rw [((c.entries.entries_perm_moveToEnd (salt, chunk)).map _).sum_eq]
    exact sound.balance
  known key v get := by
    rw [PyDict.get_moveToEnd] at get
    obtain ⟨by', logged⟩ := sound.known key v get
    exact ⟨by', List.mem_append_left _ logged⟩
  salted by' key logged := by
    simp only [List.mem_append, List.mem_singleton, Event.reused.injEq, reduceCtorEq,
      or_false] at logged
    rcases logged with old | old | ⟨rfl, rfl⟩
    · exact sound.salted by' key (Or.inl old)
    · exact sound.salted by' key (Or.inr old)
    · rfl
  ordered := by
    refine ordered_snoc sound.ordered ?_
    intro by' key same
    cases same
    exact sound.known _ _ found

theorem sound_drop {key : Key} {tokens : List Nat} {removed : Nat}
    {rest : List (Key × (List Nat × Nat))} (sound : Sound tok c)
    (oldest : c.entries.entries = (key, (tokens, removed)) :: rest) :
    Sound tok { c with entries := c.entries.dropOldest 1, bytes := c.bytes - removed } where
  exact key v get := sound.exact key v (PyDict.get_dropOldest get)
  balance := by
    simp only [PyDict.dropOldest, oldest, List.drop_succ_cons, List.drop_zero]
    rw [sound.balance, oldest, List.map_cons, List.sum_cons]
    ring
  known key v get := sound.known key v (PyDict.get_dropOldest get)
  salted := sound.salted
  ordered := sound.ordered

theorem evict_ends (n : Nat) : ∀ c : Cache, Sound tok c → c.entries.size = n →
    ∃ c', Cache.evict settings n c = .ok c' ∧ Sound tok c' := by
  induction n with
  | zero =>
    intro c sound size
    have empty : c.entries.entries = [] := List.length_eq_zero_iff.mp size
    have within : c.overBudget settings = false := by
      simp [Cache.overBudget, sound.balance, empty, size]
    exact ⟨c, by rw [Cache.evict, within]; rfl, sound⟩
  | succ n ih =>
    intro c sound size
    rw [Cache.evict]
    split
    · split
      · rename_i empty
        rw [PyDict.size, empty] at size
        cases size
      · rename_i key tokens removed rest oldest
        refine ih _ (sound_drop sound oldest) ?_
        rw [PyDict.size] at size ⊢
        simp only [PyDict.dropOldest, List.length_drop, size, Nat.add_sub_cancel]
    · exact ⟨c, rfl, sound⟩

theorem balance_pop_set (sound : Sound tok c) (key : Key) (entry : List Nat × Nat) :
    c.bytesWithout key + (entry.2 : Int) =
      ((((c.entries.pop key).set key entry).entries).map fun e => (e.2.2 : Int)).sum := by
  rw [PyDict.entries_pop_set, List.map_append, List.sum_append, Cache.bytesWithout,
    sound.balance]
  cases found : c.entries.get key with
  | none =>
    simp [PyDict.pop_absent found]
  | some previous =>
    rw [((PyDict.entries_perm_pop found).map _).sum_eq]
    simp

theorem store_ends (settings : Settings) {item : Key × List Nat} (sound : Sound tok c)
    (own : item.1.1 = salt) (encoded : item.2 = tok.plain item.1.2) :
    ∃ c', Cache.store settings salt c item = .ok c' ∧ Sound tok c' := by
  unfold Cache.store
  dsimp only
  split
  · exact ⟨c, rfl, sound⟩
  · refine evict_ends _ _ ?_ rfl
    exact {
      exact := by
        intro key v get
        simp only [PyDict.get_pop_set] at get
        split at get
        · rename_i same
          cases get
          rw [same]
          exact encoded
        · exact sound.exact key v get
      balance := balance_pop_set sound item.1 (item.2, settings.size item.1 item.2)
      known := by
        intro key v get
        simp only [PyDict.get_pop_set] at get
        split at get
        · rename_i same
          exact ⟨salt, by simp [same]⟩
        · obtain ⟨by', logged⟩ := sound.known key v get
          exact ⟨by', List.mem_append_left _ logged⟩
      salted := by
        intro by' key logged
        simp only [List.mem_append, List.mem_singleton, Event.stored.injEq, reduceCtorEq,
          or_false] at logged
        rcases logged with (old | ⟨rfl, rfl⟩) | old
        · exact sound.salted by' key (Or.inl old)
        · exact own.symm
        · exact sound.salted by' key (Or.inr old)
      ordered := by
        refine ordered_snoc sound.ordered ?_
        intro by' key same
        cases same }

theorem store_all_ends (settings : Settings) (pending : List (Key × List Nat)) :
    ∀ c : Cache, Sound tok c →
      (∀ item ∈ pending, item.1.1 = salt ∧ item.2 = tok.plain item.1.2) →
      ∃ c', pending.foldlM (Cache.store settings salt) c = .ok c' ∧ Sound tok c' := by
  induction pending with
  | nil =>
    intro c sound _
    exact ⟨c, rfl, sound⟩
  | cons item rest ih =>
    intro c sound items
    obtain ⟨own, encoded⟩ := items item List.mem_cons_self
    obtain ⟨c₁, stored, sound₁⟩ := store_ends settings sound own encoded
    obtain ⟨c₂, all, sound₂⟩ := ih c₁ sound₁ fun i later => items i (List.mem_cons_of_mem _ later)
    refine ⟨c₂, ?_, sound₂⟩
    rw [List.foldlM_cons, stored]
    exact all

end

/-- A computation ends well, or badly with the cache it leaves behind. -/
def Ends {α : Type} (x : Except Cache α) (good : α → Prop) (bad : Cache → Prop) : Prop :=
  (∀ a, x = .ok a → good a) ∧ ∀ c, x = .error c → bad c

theorem ends_ok {α : Type} {a : α} {good : α → Prop} {bad : Cache → Prop} (holds : good a) :
    Ends (.ok a) good bad :=
  ⟨fun _ same => Except.ok.inj same ▸ holds, fun _ wrong => by cases wrong⟩

theorem ends_error {α : Type} {c : Cache} {good : α → Prop} {bad : Cache → Prop}
    (holds : bad c) : Ends (.error c) good bad :=
  ⟨fun _ wrong => (by cases wrong), fun _ same => Except.error.inj same ▸ holds⟩

theorem ends_bind {α β : Type} {x : Except Cache α} {f : α → Except Cache β} {good : α → Prop}
    {good' : β → Prop} {bad : Cache → Prop} (first : Ends x good bad)
    (next : ∀ a, good a → Ends (f a) good' bad) : Ends (x >>= f) good' bad := by
  cases x with
  | error c => exact ends_error (first.2 c rfl)
  | ok a => exact next a (first.1 a rfl)

theorem ends_map {α β : Type} {x : Except Cache α} {f : α → β} {good : α → Prop}
    {good' : β → Prop} {bad : Cache → Prop} (first : Ends x good bad)
    (next : ∀ a, good a → good' (f a)) : Ends (x.map f) good' bad := by
  cases x with
  | error c => exact ends_error (first.2 c rfl)
  | ok a => exact ends_ok (next a (first.1 a rfl))

section
variable {tok : Tokenizer} {raises : Nat → Bool} {salt : Salt} {text : Text}

structure WalkGood (tok : Tokenizer) (salt : Salt) (w : Walk) : Prop where
  sound : Sound tok w.cache
  items : ∀ item ∈ w.pending, item.1.1 = salt ∧ item.2 = tok.plain item.1.2

def Raised (tok : Tokenizer) (raises : Nat → Bool) (c : Cache) : Prop :=
  Sound tok c ∧ ∃ n, raises n = true

structure Extended (tok : Tokenizer) (salt : Salt) (w : Walk) (ids : List Nat) (w' : Walk) :
    Prop where
  good : WalkGood tok salt w'
  ids : w'.ids = w.ids ++ ids
  start : w'.start = w.start

def plainIds (tok : Tokenizer) (cutPieces : List (Piece Char)) : List Nat :=
  cutPieces.flatMap fun p => tok.plain p.text

theorem extend_ends {w : Walk} (good : WalkGood tok salt w) (piece : Text) :
    Ends (w.extend tok raises piece) (Extended tok salt w (tok.plain piece))
      (Raised tok raises) := by
  unfold Walk.extend
  split
  · rename_i raised
    exact ends_error ⟨good.sound, _, raised⟩
  · exact ends_ok ⟨⟨good.sound, good.items⟩, rfl, rfl⟩

theorem chunk_ends {w : Walk} (good : WalkGood tok salt w) (chunk : Text) :
    Ends (w.chunk tok raises salt chunk) (Extended tok salt w (plainIds tok (gapPiece chunk)))
      (Raised tok raises) := by
  unfold Walk.chunk
  split
  · rename_i empty
    exact ends_ok ⟨good, by rw [empty]; simp [plainIds, gapPiece], rfl⟩
  · rename_i nonempty
    have ids : plainIds tok (gapPiece chunk) = tok.plain chunk := by
      simp [plainIds, gapPiece, nonempty, Piece.text]
    rw [ids]
    split
    · have missed : WalkGood tok salt
          { w with cache := { w.cache with misses := w.cache.misses + 1 } } :=
        ⟨sound_of_same good.sound rfl rfl rfl, good.items⟩
      refine ends_map (extend_ends missed chunk) ?_
      intro w' extended
      split
      · refine ⟨⟨extended.good.sound, ?_⟩, extended.ids, extended.start⟩
        intro item member
        rcases List.mem_append.mp member with old | new
        · exact extended.good.items item old
        · rw [List.mem_singleton.mp new]
          exact ⟨rfl, rfl⟩
      · exact ⟨extended.good, extended.ids, extended.start⟩
    · rename_i cached found
      refine ends_ok ⟨⟨sound_hit good.sound found, good.items⟩, ?_, rfl⟩
      rw [good.sound.exact _ _ found]

theorem span_ends {w : Walk} (good : WalkGood tok salt w) (m : Nat × Nat) :
    Ends (w.span tok raises salt text m) (fun w' => WalkGood tok salt w' ∧ w'.start = m.2 ∧
        w'.ids = w.ids ++ plainIds tok (gapPiece (slice text w.start m.1) ++
          [.word (slice text m.1 m.2)])) (Raised tok raises) := by
  refine ends_bind (chunk_ends good _) ?_
  intro w₁ chunked
  refine ends_bind (extend_ends chunked.good _) ?_
  intro w₂ extended
  refine ends_ok ⟨⟨extended.good.sound, extended.good.items⟩, rfl, ?_⟩
  rw [show w₂.ids = w₁.ids ++ _ from extended.ids, chunked.ids, List.append_assoc]
  simp [plainIds, Piece.text]

theorem tail_ends (raises : Nat → Bool) (text : Text) {w : Walk} (good : WalkGood tok salt w) :
    Ends (w.tail tok raises text) (Extended tok salt w
      (plainIds tok (gapPiece (text.drop w.start)))) (Raised tok raises) := by
  unfold Walk.tail
  split
  · rename_i inside
    have nonempty : text.drop w.start ≠ [] := by
      rw [ne_eq, List.drop_eq_nil_iff]
      omega
    have ids : plainIds tok (gapPiece (text.drop w.start)) = tok.plain (text.drop w.start) := by
      simp [plainIds, gapPiece, nonempty, Piece.text]
    rw [ids]
    exact extend_ends good _
  · rename_i beyond
    have empty : text.drop w.start = [] := List.drop_eq_nil_of_le (by omega)
    exact ends_ok ⟨good, by simp [empty, plainIds, gapPiece], rfl⟩

theorem walk_ends (raises : Nat → Bool) (text : Text) (matches' : List (Nat × Nat)) :
    ∀ w : Walk, WalkGood tok salt w →
    Ends (do
        let w ← matches'.foldlM (Walk.span tok raises salt text) w
        w.tail tok raises text)
      (fun w' => WalkGood tok salt w' ∧
        w'.ids = w.ids ++ plainIds tok (cut text w.start matches')) (Raised tok raises) := by
  induction matches' with
  | nil =>
    intro w good
    obtain ⟨ended, raised⟩ := tail_ends raises text good
    exact ⟨fun w' same => ⟨(ended w' same).good, (ended w' same).ids⟩, raised⟩
  | cons m rest ih =>
    intro w good
    rw [List.foldlM_cons, bind_assoc]
    refine ends_bind (span_ends good m) ?_
    rintro w₁ ⟨good₁, start, ids⟩
    obtain ⟨ended, raised⟩ := ih w₁ good₁
    refine ⟨?_, raised⟩
    intro w' same
    obtain ⟨good', ids'⟩ := ended w' same
    refine ⟨good', ?_⟩
    rw [ids', ids, start, List.append_assoc]
    simp [cut, plainIds, List.append_assoc]

end

section
variable {tok : Tokenizer} {settings : Settings}

theorem admits_spec {call : Call} {alternatives : List Text} {text : Text} {truncate : Bool}
    {limit : Option Nat} (admitted : admits tok call = some (alternatives, text, truncate, limit)) :
    tok.qualify = some alternatives ∧ call.text = some text ∧
      call.kwargs.addSpecialTokens = some (.bool false) ∧
      call.kwargs.truncate = some truncate ∧ call.kwargs.limit = some limit ∧
      call.kwargs.others = false ∧ call.splitSpecialTokens = false ∧
      call.encodeSpecialTokens = false := by
  unfold admits at admitted
  split at admitted
  · rename_i qualified isText special truncates
    split at admitted
    · cases admitted
    · rename_i checks
      obtain ⟨read, limited, same⟩ := Option.map_eq_some_iff.mp admitted
      cases same
      simp only [Bool.or_eq_true, not_or, Bool.not_eq_true] at checks
      exact ⟨qualified, isText, special, truncates, limited, checks.1.1.1.2, checks.1.1.2,
        checks.1.2⟩
  · cases admitted

theorem stock_of_admitted {call : Call} {alternatives : List Text} {text : Text}
    {truncate : Bool} {limit : Option Nat} {config : Config}
    (admitted : admits tok call = some (alternatives, text, truncate, limit))
    (found : tok.config = some config) (paired : call.kwargs.paired = true) :
    tok.stock call.text call.kwargs call.splitSpecialTokens call.encodeSpecialTokens =
      tok.side.cutTo limit (tok.encoding config text) := by
  obtain ⟨_, isText, special, truncates, limited, others, split, encode⟩ := admits_spec admitted
  unfold Tokenizer.stock
  rw [found, isText, special, truncates, limited, others, split, encode, paired]
  rfl

theorem truncates_of_limit {kw : Kwargs} {n : Nat} (paired : kw.paired = true)
    (limited : kw.limit = some (some n)) : kw.truncate = some true := by
  have given : kw.hasMaxLength = true := by
    unfold Kwargs.limit at limited
    unfold Kwargs.hasMaxLength
    split at limited <;> simp_all
  simpa [Kwargs.paired, given] using paired

theorem finish_spec (settings : Settings) {salt : Salt} (truncate : Bool) (limit : Option Nat)
    {w : Walk}
    (good : WalkGood tok salt w) :
    Sound tok (finish settings salt truncate limit w).2 ∧
      ((finish settings salt truncate limit w).1 = .ok none ∨
        (finish settings salt truncate limit w).1 = .ok (some w.ids) ∧
          ∀ n, truncate = true → limit = some n → w.ids.length ≤ n) := by
  unfold finish
  split
  · exact ⟨good.sound, Or.inl rfl⟩
  · rename_i fits
    obtain ⟨c, stored, sound⟩ := store_all_ends settings w.pending w.cache
      good.sound good.items
    rw [stored]
    refine ⟨?_, Or.inr ⟨rfl, ?_⟩⟩
    · dsimp only
      split
      · exact sound_of_same sound rfl rfl rfl
      · exact sound
    · intro n truncates limited
      simpa [truncates, limited] using fits

theorem encode_spec (settings : Settings) {c : Cache} (sound : Sound tok c) (call : Call) :
    Sound tok (encode tok settings c call).2 ∧
    (∀ ids, (encode tok settings c call).1 = .ok (some ids) → call.kwargs.paired = true →
      ids = tok.stock call.text call.kwargs call.splitSpecialTokens call.encodeSpecialTokens) ∧
    ((∀ n, call.raises n = false) → ∃ result, (encode tok settings c call).1 = .ok result) := by
  unfold encode
  split
  · exact ⟨sound, fun _ wrong => (by cases wrong), fun _ => ⟨none, rfl⟩⟩
  rename_i alternatives text truncate limit admitted
  split
  · exact ⟨sound, fun _ wrong => (by cases wrong), fun _ => ⟨none, rfl⟩⟩
  rename_i m rest found
  have start : WalkGood tok call.salt ⟨c, 0, [], [], 0⟩ := ⟨sound, fun _ none => (by cases none)⟩
  obtain ⟨ended, raised⟩ := walk_ends call.raises text (m :: rest) ⟨c, 0, [], [], 0⟩ start
  dsimp only
  split
  · rename_i left failed
    obtain ⟨leftSound, n, raises⟩ := raised left failed
    refine ⟨leftSound, fun _ wrong => (by cases wrong), ?_⟩
    intro quiet
    rw [quiet n] at raises
    cases raises
  · rename_i w walked
    obtain ⟨good, ids⟩ := ended w walked
    obtain ⟨finalSound, outcome⟩ := finish_spec settings truncate limit good
    refine ⟨finalSound, ?_, ?_⟩
    · intro result returned paired
      rcases outcome with declined | ⟨kept, fits⟩
      · rw [declined] at returned
        cases returned
      · rw [kept] at returned
        cases returned
        obtain ⟨qualified, _, _, truncates, limited, _⟩ := admits_spec admitted
        obtain ⟨config, configured, cutIds⟩ := encoding_of_cut qualified text
        rw [found] at cutIds
        have whole : w.ids = tok.encoding config text := by
          rw [ids, ← cutIds]
          rfl
        rw [stock_of_admitted admitted configured paired]
        cases limit with
        | none => exact whole
        | some n =>
          have truncating := truncates_of_limit paired limited
          rw [truncates] at truncating
          have within := fits n (Option.some.inj truncating) rfl
          rw [whole] at within
          rw [whole, Side.cutTo, truncate_of_le _ within]
    · intro _
      rcases outcome with declined | ⟨kept, _⟩
      · exact ⟨none, declined⟩
      · exact ⟨some w.ids, kept⟩

theorem tokenize_cache (c : Cache) (call : Call) :
    (tokenize tok settings c call).2 = (encode tok settings c call).2 := by
  unfold tokenize
  split
  · rename_i result
    rw [result]
  · rename_i result
    rw [result]
    split <;> rfl
  · rename_i result
    rw [result]

theorem sound_after (tok : Tokenizer) (settings : Settings) (history : List Op) :
    Sound tok (after tok settings history) := by
  have run : ∀ (ops : List Op) (c : Cache), Sound tok c →
      Sound tok (ops.foldl (step tok settings) c) := by
    intro ops
    induction ops with
    | nil =>
      intro c sound
      exact sound
    | cons op rest ih =>
      intro c sound
      refine ih _ ?_
      cases op with
      | tokenize call =>
        change Sound tok (tokenize tok settings c call).2
        rw [tokenize_cache]
        exact (encode_spec settings sound call).1
      | encode call => exact (encode_spec settings sound call).1
  exact run history Cache.init (sound_init tok)

end

theorem segment_cache_exact (tok : Tokenizer) (settings : Settings) (history : List Op)
    (call : Call) (paired : call.kwargs.paired = true) :
    (∀ ids, (tokenize tok settings (after tok settings history) call).1 = .ok ids →
      ids = tok.stock call.text call.kwargs call.splitSpecialTokens call.encodeSpecialTokens) ∧
    ((∀ n, call.raises n = false) → call.stockRaises = false →
      (tokenize tok settings (after tok settings history) call).1 =
        .ok (tok.stock call.text call.kwargs call.splitSpecialTokens call.encodeSpecialTokens)) ∧
    ∀ before salt key later,
      (tokenize tok settings (after tok settings history) call).2.log =
        before ++ .reused salt key :: later →
      (∃ by', .stored by' key ∈ before) ∧
        ∀ by', .stored by' key ∈
          (tokenize tok settings (after tok settings history) call).2.log → by' = salt := by
  have sound := sound_after tok settings history
  obtain ⟨soundNext, exactIds, returns⟩ := encode_spec settings sound call
  have returned : ∀ ids, (tokenize tok settings (after tok settings history) call).1 = .ok ids →
      ids = tok.stock call.text call.kwargs call.splitSpecialTokens
        call.encodeSpecialTokens := by
    intro ids result
    unfold tokenize at result
    split at result
    · rename_i found
      cases result
      exact exactIds _ (by rw [found]) paired
    · split at result
      · cases result
      · cases result
        rfl
    · cases result
  refine ⟨returned, ?_, ?_⟩
  · intro quiet stockQuiet
    obtain ⟨result, encoded⟩ := returns quiet
    have ends : ∃ ids, (tokenize tok settings (after tok settings history) call).1 = .ok ids := by
      unfold tokenize
      split
      · exact ⟨_, rfl⟩
      · rw [if_neg (by simp [stockQuiet])]
        exact ⟨_, rfl⟩
      · rename_i failed
        rw [failed] at encoded
        cases encoded
    obtain ⟨ids, result⟩ := ends
    rw [result, returned ids result]
  · rw [tokenize_cache]
    intro before salt key later split
    refine ⟨soundNext.ordered before salt key later split, ?_⟩
    intro by' stored
    have own := soundNext.salted by' key (Or.inl stored)
    have reuse := soundNext.salted salt key (Or.inr (by rw [split]; simp))
    rw [own, reuse]

def sampleTokenizer : Tokenizer where
  isFast := true
  config := some ⟨false, true, false, .single ⟨.byteLevel, some false⟩, none,
    [⟨['<', 'a'], false, false, false, false⟩, ⟨['<', 'a', 'b'], false, false, false, false⟩]⟩
  segment text := text.map Char.toNat
  special text := [100000 + text.length]
  side := .right
  otherwise _ _ _ _ := []

def sampleSettings : Settings := ⟨32 * 1024 * 1024, 128, fun _ => 64⟩

def sampleCall : Call where
  text := some (List.replicate 1100 'x' ++ ['<', 'a', 'b', 'y', '<', 'a'])
  kwargs := ⟨some (.bool false), some (.bool true), some (.int 2000), false⟩
  salt := .str "tenant"
  splitSpecialTokens := false
  encodeSpecialTokens := false
  raises _ := false
  stockRaises := false

theorem segment_cache_exact_sample :
    sampleCall.kwargs.paired = true ∧
    (tokenize sampleTokenizer sampleSettings
      (after sampleTokenizer sampleSettings [.tokenize sampleCall]) sampleCall).1 =
      .ok (sampleTokenizer.stock sampleCall.text sampleCall.kwargs false false) :=
  ⟨rfl, (segment_cache_exact sampleTokenizer sampleSettings [.tokenize sampleCall] sampleCall
    rfl).2.1 (fun _ => rfl) rfl⟩

end TokenCache
