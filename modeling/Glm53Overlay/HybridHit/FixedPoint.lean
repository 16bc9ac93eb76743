import Glm53Overlay.HybridHit.GroupSpecs
import Glm53Overlay.Library.ReplayMachine

/-!
The coordinator's prefix lookup over its attention groups: passes that shorten the hit until
one of them does not. The drafter's sliding-window group is exempt from the minimum; its
blocks are recorded when its window covers the current length and left alone when not.
-/
namespace HybridHit
open ReplayMachine

/-- A lookup is told whether to drop the EAGLE block and how far it may go; it answers the
    blocks of each member group and the length they cover. -/
structure AttentionGroup (Block : Type) where
  spec : KvCacheSpec
  groupIds : List Nat
  useEagle : Bool
  blockSize : Nat
  lookup : Bool → Nat → List Block × Nat
  bounded : ∀ drop bound, (lookup drop bound).2 ≤ bound
  complete : ∀ drop bound, (lookup drop bound).1.length = groupIds.length

variable {Block : Type}

def AttentionGroup.draft (g : AttentionGroup Block) : Bool := isDraftSwaSpec g.spec

/-- `hit_blocks_by_group` and `hit_length_by_group` under one key. -/
abbrev Hits (Block : Type) := Nat → Option (Block × Nat)

def put (length : Nat) (hits : Hits Block) (entry : Nat × Block) : Hits Block :=
  fun gid => if gid = entry.1 then some (entry.2, length) else hits gid

def record (hits : Hits Block) (groupIds : List Nat) (blocks : List Block) (length : Nat) :
    Hits Block :=
  (groupIds.zip blocks).foldl (put length) hits

structure Scan (Block : Type) where
  currHitLength : Nat
  eagleVerified : List Nat
  hits : Hits Block
  longestHitLength : Nat

/-- Whether this lookup drops the EAGLE block. With the compact drafter page installed, a
    drafter whose manager block is larger than 64 tokens never does. -/
def dropEagleBlock (compact : Bool) (s : Scan Block) (entry : AttentionGroup Block × Nat) : Bool :=
  if compact && entry.1.draft && decide (64 < entry.1.blockSize) then false
  else entry.1.useEagle && !s.eagleVerified.contains entry.2

def newHitLength (compact : Bool) (s : Scan Block) (entry : AttentionGroup Block × Nat) : Nat :=
  (entry.1.lookup (dropEagleBlock compact s entry) s.currHitLength).2

def verifiedAfter (compact : Bool) (s : Scan Block) (entry : AttentionGroup Block × Nat) :
    List Nat :=
  if dropEagleBlock compact s entry then entry.2 :: s.eagleVerified
  else if newHitLength compact s entry < s.currHitLength then []
  else s.eagleVerified

/-- The body of the group loop, from the lookup to the end. -/
def visit (compact : Bool) (s : Scan Block) (entry : AttentionGroup Block × Nat) : Scan Block :=
  let blocks := (entry.1.lookup (dropEagleBlock compact s entry) s.currHitLength).1
  let length := newHitLength compact s entry
  let recorded := record s.hits entry.1.groupIds blocks length
  if entry.1.draft then
    { s with
      eagleVerified := verifiedAfter compact s entry
      hits := if s.currHitLength ≤ length then recorded else s.hits }
  else
    { currHitLength := length
      eagleVerified := verifiedAfter compact s entry
      hits := recorded
      longestHitLength := max s.longestHitLength length }

def visitStep (compact : Bool) (s : Scan Block) (entry : AttentionGroup Block × Nat) :
    Scan Block × Unit :=
  (visit compact s entry, ())

def pass (compact : Bool) (entries : List (AttentionGroup Block × Nat)) (s : Scan Block) :
    Scan Block :=
  final (visitStep compact) s entries

def loop (compact : Bool) (entries : List (AttentionGroup Block × Nat)) :
    Nat → Scan Block → Scan Block
  | 0, s => s
  | fuel + 1, s =>
    let s' := pass compact entries s
    if s'.currHitLength < s.currHitLength then loop compact entries fuel s' else s'

def start (maxLength : Nat) : Scan Block :=
  { currHitLength := maxLength, eagleVerified := [], hits := fun _ => none,
    longestHitLength := 0 }

/-- A continuing pass shortens the hit, so one more pass than the bound is enough. -/
def findLongestCacheHit (compact : Bool) (entries : List (AttentionGroup Block × Nat))
    (maxLength : Nat) : Scan Block :=
  loop compact entries (maxLength + 1) (start maxLength)

/-- The groups that take part in the minimum, under their own indices. -/
def withoutDrafter (entries : List (AttentionGroup Block × Nat)) :
    List (AttentionGroup Block × Nat) :=
  entries.filter fun entry => !entry.1.draft

theorem newHitLength_le (compact : Bool) (s : Scan Block) (entry : AttentionGroup Block × Nat) :
    newHitLength compact s entry ≤ s.currHitLength :=
  entry.1.bounded _ _

theorem visit_length (compact : Bool) (s : Scan Block) (entry : AttentionGroup Block × Nat) :
    (visit compact s entry).currHitLength =
      if entry.1.draft then s.currHitLength else newHitLength compact s entry := by
  unfold visit
  split <;> rfl

theorem visit_verified (compact : Bool) (s : Scan Block) (entry : AttentionGroup Block × Nat) :
    (visit compact s entry).eagleVerified = verifiedAfter compact s entry := by
  unfold visit
  split <;> rfl

theorem visit_length_le (compact : Bool) (s : Scan Block) (entry : AttentionGroup Block × Nat) :
    (visit compact s entry).currHitLength ≤ s.currHitLength := by
  rw [visit_length]
  split
  · exact Nat.le_refl _
  · exact newHitLength_le compact s entry

theorem put_spec (length : Nat) (hits : Hits Block) (entry : Nat × Block) (gid : Nat)
    (hit : Block × Nat) (found : put length hits entry gid = some hit) :
    hit.2 = length ∨ gid ≠ entry.1 ∧ hits gid = some hit := by
  unfold put at found
  split at found
  · cases found
    exact Or.inl rfl
  · rename_i other
    exact Or.inr ⟨other, found⟩

theorem record_spec (hits : Hits Block) (groupIds : List Nat) (blocks : List Block)
    (length gid : Nat) (hit : Block × Nat)
    (found : record hits groupIds blocks length gid = some hit) :
    hit.2 = length ∨ hits gid = some hit ∧ gid ∉ (groupIds.zip blocks).map Prod.fst := by
  unfold record at found
  generalize groupIds.zip blocks = pairs at found ⊢
  induction pairs generalizing hits with
  | nil => exact Or.inr ⟨found, by simp⟩
  | cons pair rest ih =>
    rcases ih _ found with same | ⟨before, absent⟩
    · exact Or.inl same
    · rcases put_spec length hits pair gid hit before with same | ⟨other, kept⟩
      · exact Or.inl same
      · exact Or.inr ⟨kept, by simp [other, absent]⟩

theorem record_member (hits : Hits Block) (groupIds : List Nat) (blocks : List Block)
    (length gid : Nat) (complete : blocks.length = groupIds.length) (member : gid ∈ groupIds)
    (hit : Block × Nat) (found : record hits groupIds blocks length gid = some hit) :
    hit.2 = length := by
  rcases record_spec _ _ _ _ _ _ found with same | ⟨_, absent⟩
  · exact same
  · rw [List.map_fst_zip (by omega)] at absent
    exact absurd member absent

/-- What a visit can leave under a key: what was there, or an entry of the new length, which
    then is the current one. -/
theorem visit_hits (compact : Bool) (s : Scan Block) (entry : AttentionGroup Block × Nat)
    (gid : Nat) (hit : Block × Nat) (found : (visit compact s entry).hits gid = some hit) :
    hit.2 = (visit compact s entry).currHitLength ∨ s.hits gid = some hit := by
  rw [visit_length]
  have bound := newHitLength_le compact s entry
  unfold visit at found
  split at found
  · rename_i draft
    rw [if_pos draft]
    simp only at found
    split at found
    · rename_i covers
      rcases record_spec _ _ _ _ _ _ found with same | before
      · exact Or.inl (by omega)
      · exact Or.inr before.1
    · exact Or.inr found
  · rename_i plain
    rw [if_neg plain]
    exact (record_spec _ _ _ _ _ _ found).imp_right And.left

theorem pass_length_le (compact : Bool) (entries : List (AttentionGroup Block × Nat))
    (s : Scan Block) : (pass compact entries s).currHitLength ≤ s.currHitLength := by
  unfold pass
  induction entries generalizing s with
  | nil => exact Nat.le_refl _
  | cons entry rest ih =>
    exact Nat.le_trans (ih (visit compact s entry)) (visit_length_le compact s entry)

def NoneShorter (s : Scan Block) : Prop :=
  ∀ gid hit, s.hits gid = some hit → s.currHitLength ≤ hit.2

theorem visit_noneShorter (compact : Bool) (s : Scan Block)
    (entry : AttentionGroup Block × Nat) (ok : NoneShorter s) :
    NoneShorter (visit compact s entry) := by
  intro gid hit found
  rcases visit_hits compact s entry gid hit found with same | before
  · exact Nat.le_of_eq same.symm
  · exact Nat.le_trans (visit_length_le compact s entry) (ok gid hit before)

theorem pass_noneShorter (compact : Bool) (entries : List (AttentionGroup Block × Nat))
    (s : Scan Block) (ok : NoneShorter s) : NoneShorter (pass compact entries s) :=
  final_invariant (visitStep compact) NoneShorter (fun _ => True)
    (fun s entry _ => visit_noneShorter compact s entry) s entries (fun _ _ => trivial) ok

/-- A drafter lookup that falls short of the current length meets no entry of its own for a
    longer one, and wipes no verification of a group that takes part in the minimum. -/
def DrafterShortfallHarmless (compact : Bool) (entries : List (AttentionGroup Block × Nat))
    (s : Scan Block) (entry : AttentionGroup Block × Nat) : Prop :=
  entry.1.draft = true → newHitLength compact s entry < s.currHitLength →
    (∀ gid ∈ entry.1.groupIds, ∀ hit, s.hits gid = some hit → hit.2 ≤ s.currHitLength) ∧
    (dropEagleBlock compact s entry = false →
      ∀ other ∈ withoutDrafter entries, other.2 ∉ s.eagleVerified)

def HarmlessThroughout (compact : Bool) (entries : List (AttentionGroup Block × Nat)) :
    Nat → Scan Block → Prop
  | 0, _ => True
  | fuel + 1, s =>
    Throughout (visitStep compact) (DrafterShortfallHarmless compact entries) s entries ∧
    ((pass compact entries s).currHitLength < s.currHitLength →
      HarmlessThroughout compact entries fuel (pass compact entries s))

structure Agree (entries : List (AttentionGroup Block × Nat)) (s r : Scan Block) : Prop where
  length : s.currHitLength = r.currHitLength
  verified : ∀ other ∈ withoutDrafter entries,
    (other.2 ∈ s.eagleVerified ↔ other.2 ∈ r.eagleVerified)

def IndexedApart (entries : List (AttentionGroup Block × Nat)) : Prop :=
  ∀ a ∈ entries, ∀ b ∈ entries, a.2 = b.2 → a.1.draft = b.1.draft

theorem agree_plain {entries : List (AttentionGroup Block × Nat)} (compact : Bool)
    {s r : Scan Block} (agree : Agree entries s r) (entry : AttentionGroup Block × Nat)
    (member : entry ∈ entries) (plain : entry.1.draft = false) :
    Agree entries (visit compact s entry) (visit compact r entry) := by
  have counted : entry ∈ withoutDrafter entries := by
    simp [withoutDrafter, member, plain]
  have drop : dropEagleBlock compact s entry = dropEagleBlock compact r entry := by
    have same := agree.verified entry counted
    simp only [dropEagleBlock, plain, Bool.and_false, Bool.false_and, Bool.false_eq_true,
      if_false]
    simp only [List.contains_eq_mem, same]
  have found : newHitLength compact s entry = newHitLength compact r entry := by
    rw [newHitLength, newHitLength, drop, agree.length]
  refine ⟨?_, ?_⟩
  · rw [visit_length, visit_length, found, agree.length]
  · intro other inMin
    rw [visit_verified, visit_verified, verifiedAfter, verifiedAfter, drop, found, agree.length]
    split
    · simp only [List.mem_cons, agree.verified other inMin]
    · split
      · exact Iff.rfl
      · exact agree.verified other inMin

theorem agree_drafter {entries : List (AttentionGroup Block × Nat)} (compact : Bool)
    {s r : Scan Block} (agree : Agree entries s r) (apart : IndexedApart entries)
    (entry : AttentionGroup Block × Nat) (member : entry ∈ entries)
    (draft : entry.1.draft = true) (harmless : DrafterShortfallHarmless compact entries s entry) :
    Agree entries (visit compact s entry) r := by
  refine ⟨?_, ?_⟩
  · rw [visit_length, if_pos draft, agree.length]
  · intro other inMin
    rw [visit_verified, verifiedAfter]
    split
    · have elsewhere : other.2 ≠ entry.2 := by
        intro same
        simp only [withoutDrafter, List.mem_filter, Bool.not_eq_true'] at inMin
        have kinds := apart other inMin.1 entry member same
        rw [inMin.2, draft] at kinds
        cases kinds
      simp only [List.mem_cons, elsewhere, false_or, agree.verified other inMin]
    · rename_i keeps
      split
      · rename_i short
        -- the wipe removes nothing that the other run holds
        have gone := (harmless draft short).2 (by simpa using keeps) other inMin
        have goneThere : other.2 ∉ r.eagleVerified := by
          rwa [← agree.verified other inMin]
        simp [goneThere]
      · exact agree.verified other inMin

theorem agree_pass {entries : List (AttentionGroup Block × Nat)} (compact : Bool)
    (apart : IndexedApart entries) (visited : List (AttentionGroup Block × Nat))
    (members : ∀ entry ∈ visited, entry ∈ entries) {s r : Scan Block}
    (agree : Agree entries s r)
    (harmless : Throughout (visitStep compact) (DrafterShortfallHarmless compact entries) s
      visited) :
    Agree entries (pass compact visited s) (pass compact (withoutDrafter visited) r) := by
  unfold pass
  induction visited generalizing s r with
  | nil => exact agree
  | cons entry rest ih =>
    have inRest : ∀ e ∈ rest, e ∈ entries := fun e he => members e (List.mem_cons_of_mem _ he)
    have here : entry ∈ entries := members entry List.mem_cons_self
    cases kind : entry.1.draft with
    | true =>
      have skip : withoutDrafter (entry :: rest) = withoutDrafter rest := by
        simp [withoutDrafter, kind]
      rw [skip]
      exact ih inRest (agree_drafter compact agree apart entry here kind harmless.1) harmless.2
    | false =>
      have keep : withoutDrafter (entry :: rest) = entry :: withoutDrafter rest := by
        simp [withoutDrafter, kind]
      rw [keep]
      exact ih inRest (agree_plain compact agree entry here kind) harmless.2

theorem agree_loop {entries : List (AttentionGroup Block × Nat)} (compact : Bool)
    (apart : IndexedApart entries) (fuel : Nat) {s r : Scan Block} (agree : Agree entries s r)
    (harmless : HarmlessThroughout compact entries fuel s) :
    Agree entries (loop compact entries fuel s)
      (loop compact (withoutDrafter entries) fuel r) := by
  induction fuel generalizing s r with
  | zero => exact agree
  | succ fuel ih =>
    have passed := agree_pass compact apart entries (fun _ h => h) agree harmless.1
    rw [loop, loop]
    simp only [← passed.length, ← agree.length]
    split
    · rename_i shorter
      exact ih passed (harmless.2 shorter)
    · exact passed

def Exact (s : Scan Block) (gid : Nat) : Prop :=
  ∀ hit, s.hits gid = some hit → hit.2 = s.currHitLength

theorem visit_exact (compact : Bool) (s : Scan Block) (entry : AttentionGroup Block × Nat)
    (gid : Nat) (same : (visit compact s entry).currHitLength = s.currHitLength)
    (exact : Exact s gid) : Exact (visit compact s entry) gid := by
  intro hit found
  rcases visit_hits compact s entry gid hit found with new | before
  · exact new
  · rw [same]
    exact exact hit before

theorem visit_drafter_exact (compact : Bool) (entries : List (AttentionGroup Block × Nat))
    (s : Scan Block) (entry : AttentionGroup Block × Nat) (draft : entry.1.draft = true)
    (noneShorter : NoneShorter s) (harmless : DrafterShortfallHarmless compact entries s entry)
    (gid : Nat) (member : gid ∈ entry.1.groupIds) : Exact (visit compact s entry) gid := by
  have bound := newHitLength_le compact s entry
  intro hit found
  rw [visit_length, if_pos draft]
  simp only [visit, draft, if_true] at found
  split at found
  · rename_i covers
    have same := record_member _ _ _ _ _ (entry.1.complete _ _) member hit found
    omega
  · rename_i short
    have atMost := (harmless draft (by omega)).1 gid member hit found
    have atLeast := noneShorter gid hit found
    omega

/-- In a pass that keeps the length, what stands under a drafter's key at the end was found
    for that length. -/
theorem pass_exact (compact : Bool) (entries visited : List (AttentionGroup Block × Nat))
    (s : Scan Block) (noneShorter : NoneShorter s)
    (kept : (pass compact visited s).currHitLength = s.currHitLength)
    (harmless : Throughout (visitStep compact) (DrafterShortfallHarmless compact entries) s
      visited) (gid : Nat)
    (drafter : Exact s gid ∨ ∃ entry ∈ visited, entry.1.draft = true ∧ gid ∈ entry.1.groupIds) :
    Exact (pass compact visited s) gid := by
  induction visited generalizing s with
  | nil =>
    rcases drafter with exact | ⟨entry, member, _⟩
    · exact exact
    · cases member
  | cons entry rest ih =>
    have step : pass compact (entry :: rest) s = pass compact rest (visit compact s entry) := rfl
    have first := visit_length_le compact s entry
    have later := pass_length_le compact rest (visit compact s entry)
    rw [step] at kept ⊢
    have same : (visit compact s entry).currHitLength = s.currHitLength := by omega
    refine ih _ (visit_noneShorter compact s entry noneShorter) (by omega) harmless.2 ?_
    rcases drafter with exact | ⟨d, member, draft, holds⟩
    · exact Or.inl (visit_exact compact s entry gid same exact)
    · rcases List.mem_cons.mp member with rfl | inRest
      · exact Or.inl (visit_drafter_exact compact entries s d draft noneShorter harmless.1 gid holds)
      · exact Or.inr ⟨d, inRest, draft, holds⟩

theorem loop_exact (compact : Bool) (entries : List (AttentionGroup Block × Nat)) (fuel : Nat)
    (s : Scan Block) (enough : s.currHitLength < fuel) (noneShorter : NoneShorter s)
    (harmless : HarmlessThroughout compact entries fuel s) (gid : Nat)
    (drafter : ∃ entry ∈ entries, entry.1.draft = true ∧ gid ∈ entry.1.groupIds) :
    Exact (loop compact entries fuel s) gid := by
  induction fuel generalizing s with
  | zero => omega
  | succ fuel ih =>
    have bound := pass_length_le compact entries s
    simp only [loop]
    split
    · rename_i shorter
      exact ih _ (by omega) (pass_noneShorter compact entries s noneShorter)
        (harmless.2 shorter)
    · exact pass_exact compact entries entries s noneShorter (by omega) harmless.1 gid
        (Or.inr drafter)

theorem zipIdx_apart (groups : List (AttentionGroup Block)) : IndexedApart groups.zipIdx := by
  intro a inA b inB same
  rw [List.mem_zipIdx_iff_getElem?] at inA inB
  have entry : some b.1 = some a.1 := inB.symm.trans (same ▸ inA)
  rw [Option.some.inj entry]

/-- Where every short drafter lookup is harmless, the exempt drafter leaves the hit length of
    the other groups alone, and the blocks it leaves are none or those of that length. -/
theorem hybrid_hit_consistent_of_harmless (compact : Bool) (groups : List (AttentionGroup Block))
    (maxLength : Nat)
    (harmless : HarmlessThroughout compact groups.zipIdx (maxLength + 1) (start maxLength)) :
    (findLongestCacheHit compact groups.zipIdx maxLength).currHitLength =
        (findLongestCacheHit compact (withoutDrafter groups.zipIdx) maxLength).currHitLength ∧
    ∀ g ∈ groups, g.draft = true → ∀ gid ∈ g.groupIds,
      Exact (findLongestCacheHit compact groups.zipIdx maxLength) gid := by
  refine ⟨?_, ?_⟩
  · exact (agree_loop compact (zipIdx_apart groups) (maxLength + 1)
      ⟨rfl, fun _ _ => Iff.rfl⟩ harmless).length
  · intro g member draft gid holds
    obtain ⟨i, place⟩ := List.mem_iff_getElem?.mp member
    refine loop_exact compact groups.zipIdx (maxLength + 1) (start maxLength)
      (Nat.lt_succ_self maxLength) ?_ harmless gid ⟨(g, i), ?_, draft, holds⟩
    · intro key hit found
      cases found
    · rw [List.mem_zipIdx_iff_getElem?]
      exact place

def sampleGroup (className : String) (gid : Nat) (useEagle : Bool) (answer : Bool → Nat → Nat) :
    AttentionGroup Nat where
  spec := { own := ⟨className, some 2048, some 64⟩, kvCacheSpecs := none }
  groupIds := [gid]
  useEagle := useEagle
  blockSize := 64
  lookup drop bound := ([bound], min (answer drop bound) bound)
  bounded _ bound := Nat.min_le_right _ bound
  complete _ _ := rfl

def coveringGroups : List (AttentionGroup Nat) :=
  [sampleGroup "SlidingWindowSpec" 0 true fun _ bound => bound,
   sampleGroup "MLAAttentionSpec" 1 false fun _ _ => 4]

theorem coveringGroups_harmless :
    HarmlessThroughout false coveringGroups.zipIdx 9 (start 8) := by
  have covers : ∀ s entry, entry ∈ coveringGroups.zipIdx →
      DrafterShortfallHarmless false coveringGroups.zipIdx s entry := by
    intro s entry member draft short
    simp only [coveringGroups, List.zipIdx_cons, List.zipIdx_nil, List.mem_cons,
      List.not_mem_nil, or_false] at member
    rcases member with rfl | rfl
    · simp [newHitLength, sampleGroup] at short
    · exact absurd draft (by decide)
  have everywhere : ∀ s, Throughout (visitStep false)
      (DrafterShortfallHarmless false coveringGroups.zipIdx) s coveringGroups.zipIdx := by
    intro s
    exact ⟨covers _ _ (by simp [coveringGroups]), covers _ _ (by simp [coveringGroups]), trivial⟩
  have rounds : ∀ fuel s, HarmlessThroughout false coveringGroups.zipIdx fuel s := by
    intro fuel
    induction fuel with
    | zero => exact fun _ => trivial
    | succ fuel ih => exact fun s => ⟨everywhere s, fun _ => ih _⟩
  exact rounds 9 (start 8)

theorem hybrid_hit_consistent_covering :
    (findLongestCacheHit false coveringGroups.zipIdx 8).currHitLength =
        (findLongestCacheHit false (withoutDrafter coveringGroups.zipIdx) 8).currHitLength ∧
    ∀ g ∈ coveringGroups, g.draft = true → ∀ gid ∈ g.groupIds,
      Exact (findLongestCacheHit false coveringGroups.zipIdx 8) gid :=
  hybrid_hit_consistent_of_harmless false coveringGroups 8 coveringGroups_harmless

/-- The drafter's window is cached at 8 tokens and no longer at 4, where the other group ends. -/
def staleGroups : List (AttentionGroup Nat) :=
  [sampleGroup "SlidingWindowSpec" 0 true fun _ bound => if bound = 8 then 8 else 0,
   sampleGroup "MLAAttentionSpec" 1 false fun _ _ => 4]

/-- A non-drafter EAGLE group that drops two tokens until it is verified, before a drafter
    that finds nothing. -/
def wipedGroups : List (AttentionGroup Nat) :=
  [sampleGroup "MLAAttentionSpec" 0 true fun drop bound => if drop then bound - 2 else bound,
   sampleGroup "SlidingWindowSpec" 1 false fun _ _ => 0]

/-- At length 4 the drafter's entry is still the one found for 8; and a drafter that finds
    nothing takes a hit of 8 down to 0 by wiping the other group's verification. -/
theorem drafter_exemption_inconsistent :
    ((findLongestCacheHit false staleGroups.zipIdx 8).currHitLength = 4 ∧
      (findLongestCacheHit false staleGroups.zipIdx 8).hits 0 = some (8, 8)) ∧
    ((findLongestCacheHit false wipedGroups.zipIdx 10).currHitLength = 0 ∧
      (findLongestCacheHit false (withoutDrafter wipedGroups.zipIdx) 10).currHitLength = 8) ∧
    ¬ (∀ (groups : List (AttentionGroup Nat)) (maxLength : Nat),
      (findLongestCacheHit false groups.zipIdx maxLength).currHitLength =
          (findLongestCacheHit false (withoutDrafter groups.zipIdx) maxLength).currHitLength ∧
      ∀ g ∈ groups, g.draft = true → ∀ gid ∈ g.groupIds,
        Exact (findLongestCacheHit false groups.zipIdx maxLength) gid) := by
  have stale : (findLongestCacheHit false staleGroups.zipIdx 8).currHitLength = 4 ∧
      (findLongestCacheHit false staleGroups.zipIdx 8).hits 0 = some (8, 8) := by
    decide +kernel
  refine ⟨stale, by decide +kernel, ?_⟩
  intro promised
  have exact := (promised staleGroups 8).2 _ List.mem_cons_self (by decide) 0
    List.mem_cons_self (8, 8) stale.2
  rw [stale.1] at exact
  cases exact

end HybridHit
