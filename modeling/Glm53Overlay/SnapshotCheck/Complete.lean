import Mathlib.Data.List.Dedup
import Glm53Overlay.SnapshotCheck.Validate

/-!
What the validator accepts: the snapshots whose every indexed shard is complete. No path of an
unsafe name is touched.
-/
namespace SnapshotCheck
variable {F : Type}

/-- Relative, with a component, and none that leads upward. -/
structure SafeName (name : Text) : Prop where
  relative : name.head? ≠ some '/'
  named : (PurePosixPath.parse name).components ≠ []
  inside : ['.', '.'] ∉ (PurePosixPath.parse name).components

def Offsets (metadata : PyJson F) (start stop : Int) : Prop :=
  ∃ fields first second, metadata = .obj fields ∧
    fields.lookup "data_offsets" = some (.arr [first, second]) ∧
    first.asInt = some start ∧ second.asInt = some stop ∧ 0 ≤ start ∧ start ≤ stop

def tensors (items : List (String × PyJson F)) : List (String × PyJson F) :=
  items.filter fun item => item.1 ≠ "__metadata__"

/-- The content starts with a length of a header that fits, and with that header. -/
structure HasHeader (loads : Bytes → Except LoadError (PyJson F)) (content : Bytes)
    (headerLen : Nat) (items : List (String × PyJson F)) : Prop where
  length : fromBytesLittle (content.take 8) = headerLen
  positive : 1 ≤ headerLen
  fits : headerLen + 8 ≤ content.length
  header : loads ((content.drop 8).take headerLen) = .ok (.obj items)

def payload (content : Bytes) (headerLen : Nat) : Int :=
  ((content.length - 8 - headerLen : Nat) : Int)

def CompleteShard (loads : Bytes → Except LoadError (PyJson F)) (content : Bytes) : Prop :=
  ∃ headerLen items, HasHeader loads content headerLen items ∧ tensors items ≠ [] ∧
    ∀ tensor ∈ tensors items, ∃ start stop, Offsets tensor.2 start stop ∧
      stop ≤ payload content headerLen

def EndsExactly (loads : Bytes → Except LoadError (PyJson F)) (content : Bytes) : Prop :=
  ∃ headerLen items, HasHeader loads content headerLen items ∧
    ∃ tensor ∈ tensors items, ∃ start, Offsets tensor.2 start (payload content headerLen)

def ListsShards (index : PyJson F) (names : List Text) : Prop :=
  ∃ fields weights, index = .obj fields ∧ fields.lookup "weight_map" = some (.obj weights) ∧
    weights ≠ [] ∧ List.Forall₂ (fun weight name => ∃ text, weight.2 = .str text ∧ text ≠ "" ∧
      text.toList = name) weights names

def Listed (names : List Text) (path : List Text) : Prop :=
  ∃ name ∈ names, (PurePosixPath.parse name).asPosix = joinComponents path

def NamedLikeShard (path : List Text) : Prop := ∃ last, path.getLast? = some last ∧ suffix <:+ last

/-- A complete snapshot; `Stray` says which of the walk's paths must be listed when they are named
    like a shard. -/
structure Complete (loadsIndex loadsHeader : Bytes → Except LoadError (PyJson F))
    (Stray : Found → Prop) (snapshot : Directory) (expected : Option Int) (names : List Text) :
    Prop where
  index : ∃ content value, snapshot.follow [indexName] = .file content ∧
    loadsIndex content = .ok value ∧ ListsShards value names
  safe : ∀ name ∈ names, SafeName name
  count : ∀ n, expected = some n → (names.dedup.length : Int) = n
  strays : ∀ path ∈ snapshot.walk, NamedLikeShard path → Stray (snapshot.follow path) →
    Listed names path
  shards : ∀ name ∈ names, ∃ content,
    snapshot.follow (PurePosixPath.parse name).components = .file content ∧
      CompleteShard loadsHeader content

theorem asObject_eq_some (value : PyJson F) (fields : List (String × PyJson F)) :
    value.asObject = some fields ↔ value = .obj fields := by
  cases value <;> simp [PyJson.asObject]

theorem asText_eq_some (value : PyJson F) (text : String) :
    value.asText = some text ↔ value = .str text := by
  cases value <;> simp [PyJson.asText]

theorem rootOf_eq_nil_iff (name : Text) : rootOf name = [] ↔ name.head? ≠ some '/' := by
  unfold rootOf
  split
  · simp
  · simp
  · simp
  · rename_i other
    simp only [true_iff]
    intro leads
    obtain ⟨tail, split⟩ := List.head?_eq_some_iff.mp leads
    exact other tail split

theorem safeSnapshotMember_ok_iff (name : Text) (member : List Text) :
    safeSnapshotMember name = .ok member ↔
      SafeName name ∧ member = (PurePosixPath.parse name).components := by
  have absolute : (PurePosixPath.parse name).isAbsolute = true ↔ name.head? = some '/' := by
    have root := rootOf_eq_nil_iff name
    unfold PurePosixPath.isAbsolute
    rw [decide_eq_true_iff, ne_eq, PurePosixPath.parse, root, not_not]
  unfold safeSnapshotMember
  dsimp only
  by_cases slash : (PurePosixPath.parse name).isAbsolute = true
  · rw [if_pos (Or.inl slash)]
    simp only [reduceCtorEq, false_iff, not_and]
    intro safe
    exact absurd (absolute.mp slash) safe.relative
  · have parts : (PurePosixPath.parse name).parts = (PurePosixPath.parse name).components := by
      rw [PurePosixPath.parts, if_neg slash]
    rw [parts]
    split
    · rename_i risky
      simp only [reduceCtorEq, false_iff, not_and]
      intro safe
      rcases risky with leads | none | upward
      · exact absurd leads slash
      · exact absurd none safe.named
      · exact absurd upward safe.inside
    · rename_i fine
      simp only [not_or] at fine
      constructor
      · intro same
        cases same
        exact ⟨⟨fun leads => slash (absolute.mpr leads), fine.2.1, fine.2.2⟩, rfl⟩
      · rintro ⟨_, rfl⟩
        rfl

theorem validOffsets_iff (value : Option (PyJson F)) (start stop : Int) :
    validOffsets value = some (start, stop) ↔ ∃ first second, value = some (.arr [first, second]) ∧
      first.asInt = some start ∧ second.asInt = some stop ∧ 0 ≤ start ∧ start ≤ stop := by
  constructor
  · intro valid
    unfold validOffsets at valid
    split at valid
    · rename_i first second
      split at valid
      · rename_i a b low high
        split at valid
        · cases valid
        · rename_i ordered
          cases valid
          exact ⟨first, second, rfl, low, high, by omega, by omega⟩
      · cases valid
    · cases valid
  · rintro ⟨first, second, rfl, low, high, positive, ordered⟩
    simp only [validOffsets, low, high]
    rw [if_neg (by omega)]

theorem offsets_iff (fields : List (String × PyJson F)) (start stop : Int) :
    Offsets (.obj fields) start stop ↔
      validOffsets (fields.lookup "data_offsets") = some (start, stop) := by
  rw [validOffsets_iff]
  constructor
  · rintro ⟨_, first, second, same, rest⟩
    cases same
    exact ⟨first, second, rest⟩
  · rintro ⟨first, second, rest⟩
    exact ⟨fields, first, second, rfl, rest⟩

theorem Offsets.unique {metadata : PyJson F} {start stop start' stop' : Int}
    (one : Offsets metadata start stop) (two : Offsets metadata start' stop') :
    start = start' ∧ stop = stop' := by
  obtain ⟨fields, _, _, rfl, _⟩ := id one
  have same := ((offsets_iff _ _ _).mp one).symm.trans ((offsets_iff _ _ _).mp two)
  simpa using same

theorem scanTensors_ok_iff (limit : Int) (items : List (String × PyJson F)) :
    ∀ count top, (∃ total largest, scanTensors items count top = .ok (total, largest) ∧
        largest ≤ limit) ↔
      top ≤ limit ∧ ∀ tensor ∈ tensors items, ∃ start stop,
        Offsets tensor.2 start stop ∧ stop ≤ limit := by
  induction items with
  | nil => simp [scanTensors, tensors]
  | cons item rest ih =>
    obtain ⟨name, metadata⟩ := item
    intro count top
    unfold scanTensors
    by_cases skipped : name = "__metadata__"
    · rw [if_pos skipped, ih]
      simp [tensors, skipped]
    · rw [if_neg skipped]
      have listed : tensors ((name, metadata) :: rest) = (name, metadata) :: tensors rest := by
        simp [tensors, skipped]
      rw [listed, List.forall_mem_cons]
      cases object : metadata.asObject with
      | none =>
        simp only [reduceCtorEq, false_and, exists_const, false_iff, not_and]
        rintro _ ⟨start, stop, ⟨fields, _, _, rfl, _⟩, _⟩
        cases object
      | some fields =>
        obtain rfl := (asObject_eq_some _ _).mp object
        dsimp only
        cases valid : validOffsets (fields.lookup "data_offsets") with
        | none =>
          simp only [reduceCtorEq, false_and, exists_const, false_iff, not_and]
          rintro _ ⟨start, stop, offsets, _⟩
          rw [offsets_iff, valid] at offsets
          cases offsets
        | some pair =>
          obtain ⟨start, stop⟩ := pair
          have here : Offsets (.obj fields) start stop := (offsets_iff _ _ _).mpr valid
          dsimp only
          rw [ih, max_le_iff]
          constructor
          · rintro ⟨⟨old, new⟩, others⟩
            exact ⟨old, ⟨start, stop, here, new⟩, others⟩
          · rintro ⟨old, ⟨start', stop', offsets, new⟩, others⟩
            obtain ⟨rfl, rfl⟩ := here.unique offsets
            exact ⟨⟨old, new⟩, others⟩

theorem scanTensors_count (items : List (String × PyJson F)) :
    ∀ count top total largest, scanTensors items count top = .ok (total, largest) →
      total = count + (tensors items).length := by
  induction items with
  | nil =>
    intro count top total largest done
    cases done
    rfl
  | cons item rest ih =>
    obtain ⟨name, metadata⟩ := item
    intro count top total largest done
    unfold scanTensors at done
    split at done
    · rename_i skipped
      rw [ih _ _ _ _ done]
      simp [tensors, skipped]
    · rename_i counted
      split at done
      · cases done
      · split at done
        · cases done
        · rw [ih _ _ _ _ done]
          simp only [tensors, ne_eq, counted, not_false_eq_true, decide_true,
            List.filter_cons_of_pos, List.length_cons]
          omega

theorem validateContent_ok_iff (loads : Bytes → Except LoadError (PyJson F)) (content : Bytes) :
    (∃ size, validateContent loads content = .ok size) ↔ CompleteShard loads content := by
  constructor
  · rintro ⟨size, valid⟩
    unfold validateContent at valid
    dsimp only at valid
    split at valid
    · cases valid
    · split at valid
      · cases valid
      · rename_i fits
        simp only [not_or, not_lt] at fits
        split at valid
        · cases valid
        · cases valid
        · rename_i header loaded
          split at valid
          · cases valid
          · rename_i items object
            obtain rfl := (asObject_eq_some _ _).mp object
            split at valid
            · cases valid
            · rename_i total largest scanned
              split at valid
              · cases valid
              · rename_i declares
                split at valid
                · cases valid
                · rename_i within
                  have ends := (scanTensors_ok_iff _ items 0 0).mp
                    ⟨total, largest, scanned, not_lt.mp within⟩
                  refine ⟨_, items, ⟨rfl, by omega, by omega, loaded⟩, ?_, ends.2⟩
                  intro empty
                  have counted := scanTensors_count items 0 0 total largest scanned
                  rw [empty] at counted
                  exact declares counted
  · rintro ⟨headerLen, items, ⟨length, positive, fits, loaded⟩, declares, ends⟩
    obtain ⟨total, largest, scanned, within⟩ := (scanTensors_ok_iff (payload content headerLen)
      items 0 0).mpr ⟨Int.natCast_nonneg _, ends⟩
    have counted := scanTensors_count items 0 0 total largest scanned
    have positive' := List.length_pos_iff.mpr declares
    refine ⟨content.length, ?_⟩
    unfold validateContent
    dsimp only
    rw [if_neg (by omega), length, if_neg (by omega), loaded]
    simp only [PyJson.asObject, scanned]
    unfold payload at within
    rw [if_neg (by omega), if_neg (not_lt.mpr within)]

theorem validateShards_ok_iff (loads : Bytes → Except LoadError (PyJson F)) (snapshot : Directory)
    (names : List Text) : (∃ total, (validateShards loads snapshot names).2 = .ok total) ↔
      ∀ name ∈ names, SafeName name ∧ ∃ content,
        snapshot.follow (PurePosixPath.parse name).components = .file content ∧
          CompleteShard loads content := by
  induction names with
  | nil => simp [validateShards]
  | cons name rest ih =>
    rw [List.forall_mem_cons, ← ih]
    conv_lhs => unfold validateShards
    cases member : safeSnapshotMember name with
    | error e =>
      simp only [reduceCtorEq, exists_const, false_iff, not_and]
      rintro ⟨safe, _⟩
      rw [(safeSnapshotMember_ok_iff name _).mpr ⟨safe, rfl⟩] at member
      cases member
    | ok parts =>
      obtain ⟨safe, rfl⟩ := (safeSnapshotMember_ok_iff name parts).mp member
      dsimp only
      cases found : snapshot.follow (PurePosixPath.parse name).components with
      | file content =>
        have shard := validateContent_ok_iff loads content
        simp only [validateSafetensorsFile, Found.file.injEq, exists_eq_left', safe, true_and]
        rw [← shard]
        cases valid : validateContent loads content with
        | error e => simp
        | ok size =>
          cases (validateShards loads snapshot rest).2 <;> simp [Except.map]
      | _ => simp [validateSafetensorsFile]

theorem validateShards_touched (loads : Bytes → Except LoadError (PyJson F))
    (snapshot : Directory) (names : List Text) :
    ∀ name ∈ (validateShards loads snapshot names).1, name ∈ names ∧ SafeName name := by
  induction names with
  | nil =>
    intro name member
    cases member
  | cons first rest ih =>
    intro name touched
    unfold validateShards at touched
    cases member : safeSnapshotMember first with
    | error e =>
      rw [member] at touched
      cases touched
    | ok parts =>
      obtain ⟨safe, rfl⟩ := (safeSnapshotMember_ok_iff first parts).mp member
      rw [member] at touched
      dsimp only at touched
      split at touched
      · obtain rfl := List.mem_singleton.mp touched
        exact ⟨List.mem_cons_self, safe⟩
      · rcases List.mem_cons.mp touched with rfl | later
        · exact ⟨List.mem_cons_self, safe⟩
        · obtain ⟨listed, fine⟩ := ih name later
          exact ⟨List.mem_cons_of_mem first listed, fine⟩

theorem shardNames_some_iff (weights : List (String × PyJson F)) (names : List Text) :
    shardNames weights = some names ↔ List.Forall₂ (fun weight name =>
      ∃ text, weight.2 = .str text ∧ text ≠ "" ∧ text.toList = name) weights names := by
  induction weights generalizing names with
  | nil => simp [shardNames, eq_comm]
  | cons weight rest ih =>
    obtain ⟨key, value⟩ := weight
    unfold shardNames
    cases text : value.asText with
    | none =>
      simp only [reduceCtorEq, false_iff]
      rintro (_ | ⟨⟨name, rfl, _⟩, _⟩)
      cases text
    | some name =>
      obtain rfl := (asText_eq_some _ _).mp text
      dsimp only
      split
      · rename_i empty
        simp only [reduceCtorEq, false_iff]
        rintro (_ | ⟨⟨_, same, filled, _⟩, _⟩)
        cases same
        exact filled empty
      · rename_i filled
        rw [Option.map_eq_some_iff]
        constructor
        · rintro ⟨later, listed, rfl⟩
          exact .cons ⟨name, rfl, filled, rfl⟩ ((ih later).mp listed)
        · rintro (_ | ⟨⟨_, same, _, rfl⟩, others⟩)
          cases same
          exact ⟨_, (ih _).mpr others, rfl⟩

theorem listsShards_iff (index : PyJson F) (names : List Text) :
    ListsShards index names ↔ ∃ weights, weightMap index = some weights ∧ weights ≠ [] ∧
      shardNames weights = some names := by
  constructor
  · rintro ⟨fields, weights, rfl, found, filled, listed⟩
    refine ⟨weights, ?_, filled, (shardNames_some_iff _ _).mpr listed⟩
    simp [weightMap, PyJson.asObject, found]
  · rintro ⟨weights, map, filled, listed⟩
    obtain ⟨fields, object, inner⟩ := Option.bind_eq_some_iff.mp map
    obtain ⟨value, found, weighs⟩ := Option.bind_eq_some_iff.mp inner
    obtain rfl := (asObject_eq_some _ _).mp weighs
    exact ⟨fields, weights, (asObject_eq_some _ _).mp object, found, filled,
      (shardNames_some_iff _ _).mp listed⟩

theorem ListsShards.unique {index : PyJson F} {names names' : List Text}
    (one : ListsShards index names) (two : ListsShards index names') : names = names' := by
  obtain ⟨_, map, _, listed⟩ := (listsShards_iff _ _).mp one
  obtain ⟨_, map', _, listed'⟩ := (listsShards_iff _ _).mp two
  cases map.symm.trans map'
  exact Option.some.inj (listed.symm.trans listed')

theorem mem_sortedSet (names : List Text) (name : Text) :
    name ∈ sortedSet names ↔ name ∈ names := by
  rw [sortedSet, (List.perm_insertionSort _ _).mem_iff, List.mem_dedup]

theorem sortedSet_length (names : List Text) : (sortedSet names).length = names.dedup.length := by
  rw [sortedSet, (List.perm_insertionSort _ _).length_eq]

theorem mem_present (snapshot : Directory) (text : Text) : text ∈ present snapshot ↔
    ∃ path ∈ snapshot.walk, NamedLikeShard path ∧ joinComponents path = text := by
  unfold present NamedLikeShard
  rw [List.mem_map]
  constructor
  · rintro ⟨path, kept, same⟩
    rw [List.mem_filter, Option.any_eq_true] at kept
    obtain ⟨walked, last, ends, like⟩ := kept
    exact ⟨path, walked, ⟨last, ends, List.isSuffixOf_iff_suffix.mp like⟩, same⟩
  · rintro ⟨path, walked, ⟨last, ends, like⟩, same⟩
    refine ⟨path, List.mem_filter.mpr ⟨walked, ?_⟩, same⟩
    rw [Option.any_eq_true]
    exact ⟨last, ends, List.isSuffixOf_iff_suffix.mpr like⟩

theorem unindexed_empty_iff (snapshot : Directory) (names : List Text) :
    sortedSet ((present snapshot).filter fun path =>
        path ∉ (sortedSet names).map fun name => (PurePosixPath.parse name).asPosix) = [] ↔
      ∀ path ∈ snapshot.walk, NamedLikeShard path → Listed names path := by
  rw [List.eq_nil_iff_forall_not_mem]
  constructor
  · intro none path walked like
    by_contra unlisted
    apply none (joinComponents path)
    rw [mem_sortedSet, List.mem_filter, mem_present]
    refine ⟨⟨path, walked, like, rfl⟩, decide_eq_true ?_⟩
    rintro listed
    obtain ⟨name, member, same⟩ := List.mem_map.mp listed
    exact unlisted ⟨name, (mem_sortedSet _ _).mp member, same⟩
  · intro all text stray
    rw [mem_sortedSet, List.mem_filter, mem_present, decide_eq_true_iff] at stray
    obtain ⟨⟨path, walked, like, rfl⟩, unlisted⟩ := stray
    obtain ⟨name, member, same⟩ := all path walked like
    exact unlisted (List.mem_map.mpr ⟨name, (mem_sortedSet _ _).mpr member, same⟩)

variable {loadsIndex loadsHeader : Bytes → Except LoadError (PyJson F)}

theorem readIndex_ok_iff (found : Found) (value : PyJson F) :
    readIndex loadsIndex found = .ok value ↔
      ∃ content, found = .file content ∧ loadsIndex content = .ok value := by
  cases found with
  | file content =>
    simp only [readIndex, Found.file.injEq, exists_eq_left']
    cases loaded : loadsIndex content with
    | error e => cases e <;> simp
    | ok v => simp
  | _ => simp [readIndex]

theorem validateDirectory_ok_iff (revision : Text) (snapshot : Directory)
    (expected : Option Int) :
    (∃ report, (validateDirectory loadsIndex loadsHeader revision snapshot expected).2 =
      .ok report) ↔
      ∃ names, Complete loadsIndex loadsHeader (fun _ => True) snapshot expected names := by
  constructor
  · rintro ⟨report, accepted⟩
    unfold validateDirectory at accepted
    split at accepted
    · cases accepted
    · rename_i index read
      obtain ⟨content, found, loaded⟩ := (readIndex_ok_iff _ _).mp read
      split at accepted
      · cases accepted
      · cases accepted
      · rename_i weights filled map
        split at accepted
        · cases accepted
        · rename_i names listed
          dsimp only at accepted
          split at accepted
          · cases accepted
          · rename_i counted
            split at accepted
            · cases accepted
            · rename_i strays
              rw [ne_eq, not_not, unindexed_empty_iff] at strays
              have shards : ∃ total, (validateShards loadsHeader snapshot
                  (sortedSet names)).2 = .ok total := by
                cases valid : (validateShards loadsHeader snapshot (sortedSet names)).2 with
                | error e =>
                  rw [valid] at accepted
                  cases accepted
                | ok total => exact ⟨total, rfl⟩
              rw [validateShards_ok_iff] at shards
              refine ⟨names, ⟨content, index, found, loaded, ?_⟩, ?_, ?_, ?_, ?_⟩
              · exact (listsShards_iff _ _).mpr ⟨weights, map, filled, listed⟩
              · intro name member
                exact (shards name ((mem_sortedSet _ _).mpr member)).1
              · rintro n rfl
                rw [← sortedSet_length]
                simpa using counted
              · intro path walked like _
                exact strays path walked like
              · intro name member
                exact (shards name ((mem_sortedSet _ _).mpr member)).2
  · rintro ⟨names, complete⟩
    obtain ⟨content, value, found, loaded, lists⟩ := complete.index
    obtain ⟨weights, map, filled, listed⟩ := (listsShards_iff _ _).mp lists
    have shards := (validateShards_ok_iff loadsHeader snapshot (sortedSet names)).mpr (by
      intro name member
      rw [mem_sortedSet] at member
      exact ⟨complete.safe name member, complete.shards name member⟩)
    obtain ⟨total, valid⟩ := shards
    have strays := (unindexed_empty_iff snapshot names).mpr
      fun path walked like => complete.strays path walked like trivial
    have counted : ¬ (expected.any fun n => ((sortedSet names).length : Int) ≠ n) = true := by
      rw [Option.any_eq_true]
      rintro ⟨n, given, differ⟩
      rw [decide_eq_true_iff, sortedSet_length] at differ
      exact differ (complete.count n given)
    unfold validateDirectory
    rw [(readIndex_ok_iff _ _).mpr ⟨content, found, loaded⟩]
    obtain ⟨weight, rest, rfl⟩ := List.exists_cons_of_ne_nil filled
    simp only [map, listed]
    rw [if_neg counted, if_neg (not_not.mpr strays), valid]
    exact ⟨_, rfl⟩

theorem validateSnapshot_ok_iff (repo : Repo) (explicit : Text) (expected : Option Int) :
    (∃ report, (validateSnapshot loadsIndex loadsHeader repo explicit expected).2 = .ok report) ↔
      ∃ revision snapshot, selectRevision repo explicit = .ok revision ∧
        repo.snapshot revision = some snapshot ∧
        ∃ names, Complete loadsIndex loadsHeader (fun _ => True) snapshot expected names := by
  unfold validateSnapshot
  cases selectRevision repo explicit with
  | error e => simp
  | ok revision =>
    simp only [Except.ok.injEq, exists_eq_left', exists_and_left]
    cases repo.snapshot revision with
    | none => simp
    | some snapshot =>
      simp only [Option.some.injEq, exists_eq_left']
      exact validateDirectory_ok_iff revision snapshot expected

theorem validateSnapshot_touched (repo : Repo) (explicit : Text) (expected : Option Int) :
    ∀ name ∈ (validateSnapshot loadsIndex loadsHeader repo explicit expected).1,
      SafeName name := by
  intro name touched
  unfold validateSnapshot at touched
  split at touched
  · cases touched
  · split at touched
    · cases touched
    · unfold validateDirectory at touched
      dsimp only at touched
      split at touched
      · cases touched
      · split at touched
        · cases touched
        · cases touched
        · split at touched
          · cases touched
          · split at touched
            · cases touched
            · split at touched
              · cases touched
              · exact (validateShards_touched _ _ _ name touched).2

end SnapshotCheck
