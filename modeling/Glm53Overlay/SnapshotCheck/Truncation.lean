import Glm53Overlay.SnapshotCheck.Complete

/-!
Of an accepted snapshot with a shard that ends exactly with its last tensor no cut of that shard
is accepted.
-/
namespace SnapshotCheck
variable {F : Type} {loadsIndex loadsHeader : Bytes → Except LoadError (PyJson F)}

/-- The file behind the path is cut to `part`, and so may be every other path to it. -/
structure Truncated (before after : Directory) (path : List Text) (content part : Bytes) :
    Prop where
  whole : before.follow path = .file content
  cut : after.follow path = .file part
  shorter : part <+: content ∧ part ≠ content
  others : ∀ other, after.follow other = before.follow other ∨
    before.follow other = .file content ∧ after.follow other = .file part

theorem truncated_incomplete {loads : Bytes → Except LoadError (PyJson F)} {content part : Bytes}
    (exactly : EndsExactly loads content) (shorter : part <+: content ∧ part ≠ content) :
    ¬ CompleteShard loads part := by
  rintro ⟨headerLen', items', header', _, ends⟩
  obtain ⟨headerLen, items, header, tensor, member, start, offsets⟩ := exactly
  obtain ⟨⟨more, rfl⟩, differ⟩ := shorter
  have fits := header'.fits
  have long : 8 ≤ part.length := by omega
  have length : headerLen = headerLen' := by
    rw [← header.length, ← header'.length, List.take_append_of_le_length long]
  subst length
  have same : items = items' := by
    have loaded := header.header
    rw [List.drop_append_of_le_length long, List.take_append_of_le_length
      (by rw [List.length_drop]; omega), header'.header] at loaded
    cases loaded
    rfl
  subst same
  obtain ⟨start', stop, offsets', within⟩ := ends tensor member
  obtain ⟨_, rfl⟩ := offsets.unique offsets'
  have cut : 0 < more.length := by
    apply List.length_pos_iff.mpr
    rintro rfl
    exact differ (List.append_nil part).symm
  unfold payload at within
  rw [List.length_append] at within
  omega

theorem truncated_not_complete {Stray : Found → Prop} {before after : Directory}
    {expected expected' : Option Int} {names names' : List Text} {name : Text}
    {content part : Bytes}
    (settles : ∀ text cut fields value, loadsIndex text = .ok (.obj fields) → cut <+: text →
      loadsIndex cut = .ok value → value = .obj fields)
    (complete : Complete loadsIndex loadsHeader Stray before expected names)
    (member : name ∈ names)
    (truncated : Truncated before after (PurePosixPath.parse name).components content part)
    (exactly : EndsExactly loadsHeader content) :
    ¬ Complete loadsIndex loadsHeader Stray after expected' names' := by
  intro later
  obtain ⟨text, value, found, loaded, lists⟩ := complete.index
  obtain ⟨text', value', found', loaded', lists'⟩ := later.index
  have same : value' = value := by
    rcases truncated.others [indexName] with kept | ⟨was, is⟩
    · rw [found', found] at kept
      cases kept
      cases loaded.symm.trans loaded'
      rfl
    · cases found.symm.trans was
      cases found'.symm.trans is
      obtain ⟨fields, _, rfl, _⟩ := lists
      exact settles content part fields value' loaded truncated.shorter.1 loaded'
  subst same
  obtain rfl := lists.unique lists'
  obtain ⟨shard, here, whole⟩ := later.shards name member
  cases truncated.cut.symm.trans here
  exact truncated_incomplete exactly truncated.shorter whole

/-- Accepted are the complete snapshots, no path of an unsafe name is touched, and no cut of a
    shard that ends exactly is accepted. -/
theorem accepted_iff_complete
    (settles : ∀ text cut fields value, loadsIndex text = .ok (.obj fields) → cut <+: text →
      loadsIndex cut = .ok value → value = .obj fields) :
    (∀ repo explicit expected,
      (∃ report, (validateSnapshot loadsIndex loadsHeader repo explicit expected).2 =
        .ok report) ↔
      ∃ revision snapshot, selectRevision repo explicit = .ok revision ∧
        repo.snapshot revision = some snapshot ∧
        ∃ names, Complete loadsIndex loadsHeader (fun _ => True) snapshot expected names) ∧
    (∀ repo explicit expected,
      ∀ name ∈ (validateSnapshot loadsIndex loadsHeader repo explicit expected).1,
        SafeName name) ∧
    (∀ before expected names name content part,
      Complete loadsIndex loadsHeader (fun _ => True) before expected names → name ∈ names →
      EndsExactly loadsHeader content →
      ∀ after, Truncated before after (PurePosixPath.parse name).components content part →
      ∀ repo explicit expected' revision, selectRevision repo explicit = .ok revision →
      repo.snapshot revision = some after →
      ¬ ∃ report, (validateSnapshot loadsIndex loadsHeader repo explicit expected').2 =
        .ok report) := by
  refine ⟨validateSnapshot_ok_iff, validateSnapshot_touched, ?_⟩
  intro before expected names name content part complete member exactly after truncated
    repo explicit expected' revision selected here accepted
  obtain ⟨revision', after', selected', here', names', later⟩ :=
    (validateSnapshot_ok_iff repo explicit expected').mp accepted
  cases selected.symm.trans selected'
  cases here.symm.trans here'
  exact truncated_not_complete settles complete member truncated exactly later

def bytesOf (s : String) : Bytes := s.toList.map fun c => UInt8.ofNat c.toNat

def sampleIndex : Bytes := bytesOf "\x7b\"weight_map\":\x7b\"w\":\"a.safetensors\"\x7d\x7d"

def sampleHeader : Bytes := bytesOf "\x7b\"w\":\x7b\"data_offsets\":[0,2]\x7d\x7d"

def sampleShard : Bytes := [28, 0, 0, 0, 0, 0, 0, 0] ++ sampleHeader ++ [7, 7]

def sampleLoads (text : Bytes) : Except LoadError (PyJson Empty) :=
  if text = sampleIndex then
    .ok (.obj [("weight_map", .obj [("w", .str "a.safetensors")])])
  else if text = sampleHeader then
    .ok (.obj [("w", .obj [("data_offsets", .arr [.int 0, .int 2])])])
  else .error .undecodable

def shardPath : List Text := ["a.safetensors".toList]

/-- One shard with this content; `extra` lists further paths, which lead to directories. -/
def sampleSnapshot (content : Bytes) (extra : List (List Text)) : Directory where
  follow path :=
    if path = [indexName] then .file sampleIndex
    else if path = shardPath then .file content
    else if path ∈ extra then .other
    else .missing
  walk := [indexName] :: shardPath :: extra

def sampleRepo (snapshot : Directory) : Repo where
  refsMain := none
  snapshots := some [("rev".toList, 0)]
  snapshot revision := if revision = "rev".toList then some snapshot else none

theorem sampleLoads_settles (text cut : Bytes) (fields : List (String × PyJson Empty))
    (value : PyJson Empty) (loaded : sampleLoads text = .ok (.obj fields)) (inside : cut <+: text)
    (loaded' : sampleLoads cut = .ok value) : value = .obj fields := by
  have apart : sampleHeader.length < sampleIndex.length ∧ ¬ sampleHeader <+: sampleIndex := by
    decide
  have size := inside.length_le
  unfold sampleLoads at loaded loaded'
  split at loaded
  · rename_i isIndex
    split at loaded'
    · cases loaded
      cases loaded'
      rfl
    · split at loaded'
      · rename_i isHeader
        rw [isIndex, isHeader] at inside
        exact absurd inside apart.2
      · cases loaded'
  · split at loaded
    · rename_i isHeader
      split at loaded'
      · rename_i isIndex
        rw [isHeader, isIndex] at size
        omega
      · split at loaded'
        · cases loaded
          cases loaded'
          rfl
        · cases loaded'
    · cases loaded

theorem sample_header : HasHeader sampleLoads sampleShard 28
    [("w", .obj [("data_offsets", .arr [.int 0, .int 2])])] where
  length := by decide
  positive := by decide
  fits := by decide
  header := rfl

theorem sample_offsets :
    Offsets (.obj [("data_offsets", .arr [.int 0, .int 2])] : PyJson Empty) 0 2 :=
  ⟨_, _, _, rfl, rfl, rfl, rfl, by decide, by decide⟩

theorem sample_complete (Stray : Found → Prop) (extra : List (List Text))
    (directories : ∀ path ∈ extra, ¬ Stray ((sampleSnapshot sampleShard extra).follow path)) :
    Complete sampleLoads sampleLoads Stray (sampleSnapshot sampleShard extra) (some 1)
      ["a.safetensors".toList] where
  index := ⟨sampleIndex, _, rfl, rfl, _, _, rfl, rfl, by simp, .cons ⟨_, rfl, by decide, rfl⟩ .nil⟩
  safe := by
    intro name member
    obtain rfl := List.mem_singleton.mp member
    exact ⟨by decide, by decide, by decide⟩
  count := by
    intro n given
    cases given
    decide
  strays := by
    intro path walked like stray
    simp only [sampleSnapshot, List.mem_cons] at walked
    rcases walked with rfl | rfl | more
    · obtain ⟨last, ends, like⟩ := like
      cases ends
      exact absurd like (by decide)
    · exact ⟨_, List.mem_singleton_self _, by decide⟩
    · exact absurd stray (directories path more)
  shards := by
    intro name member
    obtain rfl := List.mem_singleton.mp member
    refine ⟨sampleShard, by rfl, 28, _, sample_header, by decide, ?_⟩
    intro tensor member
    obtain rfl := List.mem_singleton.mp member
    exact ⟨0, 2, sample_offsets, by decide⟩

/-- The snapshot is accepted, and rejected when its shard loses the last byte. -/
theorem accepted_until_cut :
    (∃ report, (validateSnapshot sampleLoads sampleLoads
      (sampleRepo (sampleSnapshot sampleShard [])) [] (some 1)).2 = .ok report) ∧
    ¬ ∃ report, (validateSnapshot sampleLoads sampleLoads
      (sampleRepo (sampleSnapshot sampleShard.dropLast [])) [] (some 1)).2 = .ok report := by
  have all := @accepted_iff_complete Empty sampleLoads sampleLoads sampleLoads_settles
  have complete := sample_complete (fun _ => True) [] (by simp)
  constructor
  · exact (all.1 _ _ _).mpr ⟨"rev".toList, _, rfl, rfl, _, complete⟩
  · refine all.2.2 _ _ _ _ sampleShard sampleShard.dropLast complete (List.mem_singleton_self _)
      ⟨28, _, sample_header, _, List.mem_singleton_self _, 0, sample_offsets⟩ _ ?_ _ _ _
      "rev".toList rfl rfl
    refine ⟨rfl, rfl, ⟨List.dropLast_prefix _, by decide⟩, ?_⟩
    intro other
    by_cases index : other = [indexName]
    · left
      simp [sampleSnapshot, index]
    · by_cases shard : other = shardPath
      · right
        simp [sampleSnapshot, shard]
        decide
      · left
        simp [sampleSnapshot, index, shard]

/-- A directory that is named like a shard makes a snapshot rejected in which no file is
    unlisted. -/
theorem directory_rejected :
    Complete sampleLoads sampleLoads (fun found => ∃ content, found = .file content)
      (sampleSnapshot sampleShard [["b.safetensors".toList]]) (some 1)
      ["a.safetensors".toList] ∧
    ¬ ∃ report, (validateSnapshot sampleLoads sampleLoads
      (sampleRepo (sampleSnapshot sampleShard [["b.safetensors".toList]])) [] (some 1)).2 =
        .ok report := by
  constructor
  · apply sample_complete
    intro path member
    obtain rfl := List.mem_singleton.mp member
    rintro ⟨content, file⟩
    cases file
  · rintro ⟨report, accepted⟩
    cases accepted

end SnapshotCheck
