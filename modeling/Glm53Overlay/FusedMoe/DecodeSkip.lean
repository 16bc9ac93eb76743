import Glm53Overlay.FusedMoe.RoutedSlots

/-!
Decode takes one fused launch and has no fallback for the experts it skips. The uniqueness
check of the routed ids bounds every expert's count by the tokens, so nothing is skipped;
the host-side helper reports exactly the other case.
-/
namespace FusedMoe
variable {S D X XH M MH V W : Type}

/-- The inner loop of `unique_per_token_topk_ids` over one row. -/
def uniqueRow : List Int → List Int → Bool
  | [], _ => true
  | expert :: rest, seen =>
    if expert < 0 then uniqueRow rest seen
    else if expert ∈ seen then false
    else uniqueRow rest (expert :: seen)

def uniquePerTokenTopkIds (rows : List (List Int)) : Bool :=
  rows.all fun row => uniqueRow row []

def fusedMoeDecodeSkipsFat (tokens hottestExpertCount cap : Nat) : Bool :=
  if cap < tokens then false else cap < hottestExpertCount

/-- `ids.tolist()`. -/
def Batch.idRows (b : Batch X W) : List (List Int) :=
  (List.range b.tokens).map fun t => (List.range b.topk).map (b.ids t)

section Counts
variable (b : Batch X W) (expertMap : Option (List Int)) (nExp : Nat)

/-- `expert_count` with the sentinel bucket last. -/
def expertCount : List Nat :=
  scatterAddOnes (nExp + 1) (b.slots.map fun s => mapTopkToLocal nExp expertMap (b.idOf s))

def localCounts : List Nat := (expertCount b expertMap nExp).take nExp

def skippedExperts (cap : Nat) : List Nat :=
  (List.range nExp).filter fun e => cap < (localCounts b expertMap nExp).getD e 0

theorem local_count_at (e : Nat) (known : e < nExp) :
    (localCounts b expertMap nExp).getD e 0 =
      b.slots.countP fun s => slotExpert b expertMap nExp s = e := by
  have below : e < nExp + 1 := Nat.lt_succ_of_lt known
  rw [localCounts, expertCount, scatter_add_ones_eq, List.getD_eq_getElem?_getD,
    List.getElem?_take_of_lt known, List.getElem?_map, List.getElem?_range below, Option.map_some,
    Option.getD_some, List.count, List.countP_map]
  congr 1

theorem expert_count_split :
    ∃ sentinel, expertCount b expertMap nExp = localCounts b expertMap nExp ++ [sentinel] := by
  have length : (expertCount b expertMap nExp).length = nExp + 1 := by
    simp [expertCount, scatter_add_ones_eq]
  refine ⟨(expertCount b expertMap nExp)[nExp], ?_⟩
  rw [localCounts, List.take_append_getElem, List.take_of_length_le (by omega)]

theorem local_counts_length : (localCounts b expertMap nExp).length = nExp := by
  simp [localCounts, expertCount, scatter_add_ones_eq]
end Counts

theorem unique_row_iff (row seen : List Int) :
    uniqueRow row seen = true ↔
      (row.filter fun e => 0 ≤ e).Nodup ∧ ∀ e ∈ row, 0 ≤ e → e ∉ seen := by
  induction row generalizing seen with
  | nil => simp [uniqueRow]
  | cons expert rest ih =>
    by_cases negative : expert < 0
    · have masked : ¬ 0 ≤ expert := by omega
      simp [uniqueRow, negative, masked, ih]
    · have shown : 0 ≤ expert := by omega
      by_cases repeated : expert ∈ seen
      · simp [uniqueRow, negative, repeated, shown]
      · simp only [uniqueRow, negative, repeated, ↓reduceIte, ih, List.filter_cons, shown,
          decide_true, List.nodup_cons, List.mem_filter, List.mem_cons, forall_eq_or_imp, not_or,
          not_false_eq_true, forall_const, true_and]
        grind

theorem distinct_of_unique (b : Batch X W) (unique : uniquePerTokenTopkIds b.idRows = true) :
    DistinctIds b := by
  intro t token i column j other low same
  have row := List.all_eq_true.mp unique ((List.range b.topk).map (b.ids t))
    (List.mem_map.mpr ⟨t, List.mem_range.mpr token, rfl⟩)
  obtain ⟨nodup, _⟩ := (unique_row_iff _ _).mp row
  rw [List.filter_map] at nodup
  have positions := List.inj_on_of_nodup_map nodup
  apply positions
  · simp [column, low]
  · simp [other, same ▸ low]
  · exact same

theorem hottest_over_cap (counts : List Nat) (cap : Nat) :
    cap < counts.foldl max 0 ↔ ∃ c ∈ counts, cap < c := by
  have loop : ∀ start, cap < counts.foldl max start ↔ cap < start ∨ ∃ c ∈ counts, cap < c := by
    induction counts with
    | nil => simp
    | cons c rest ih =>
      intro start
      simp only [List.foldl_cons, ih, List.mem_cons, exists_eq_or_imp, lt_max_iff, or_assoc]
  simpa using loop 0

/-- A decode step launches with counts within the cap and skips nothing; the helper is true
    exactly when an expert with tokens would be skipped. -/
theorem decode_skips_nothing (stages : Stages S D X XH M MH V W) [DecidableEq S]
    [AddCommMonoid V] (packs : List (Pack S D XH M MH V)) (b : Batch X W)
    (expertMap : Option (List Int)) (dev : Device X XH MH V W) (sw : Switches)
    (symbols : Symbols) (tier : Tier) :
    (uniquePerTokenTopkIds b.idRows = true → InjectiveMap packs.length expertMap →
      b.tokens ≤ dev.cap →
        (∃ sentinel tokens weights,
          applyExl3FusedMoe stages packs b expertMap dev sw symbols tier =
            some (dev.exl3Moe b.x (fun _ => 0)
              (localCounts b expertMap packs.length ++ [sentinel]) tokens weights)) ∧
        (∀ c ∈ localCounts b expertMap packs.length, c ≤ b.tokens) ∧
        skippedExperts b expertMap packs.length dev.cap = []) ∧
      (fusedMoeDecodeSkipsFat b.tokens ((localCounts b expertMap packs.length).foldl max 0)
          dev.cap = true ↔
        b.tokens ≤ dev.cap ∧ ∃ e ∈ skippedExperts b expertMap packs.length dev.cap,
          0 < (localCounts b expertMap packs.length).getD e 0) := by
  constructor
  · intro unique injective decode
    have load := expert_load_le b expertMap packs.length (distinct_of_unique b unique) injective
    refine ⟨?_, ?_, ?_⟩
    · obtain ⟨sentinel, split⟩ := expert_count_split b expertMap packs.length
      let keys := b.slots.map fun s => mapTopkToLocal packs.length expertMap (b.idOf s)
      refine ⟨sentinel, indexSelect (b.slots.map Prod.fst) (dev.argsort keys),
        indexSelect (b.slots.map b.weightOf) (dev.argsort keys), ?_⟩
      rw [← split, applyExl3FusedMoe, if_pos decode]
      rfl
    · intro c member
      obtain ⟨e, inside, rfl⟩ := List.mem_iff_getElem.mp member
      have known : e < packs.length := by rwa [local_counts_length] at inside
      have count := local_count_at b expertMap packs.length e known
      rw [List.getD_eq_getElem?_getD, List.getElem?_eq_getElem inside, Option.getD_some] at count
      rw [count]
      exact load e known
    · rw [skippedExperts, List.filter_eq_nil_iff]
      intro e member
      have known := List.mem_range.mp member
      have bound := load e known
      rw [local_count_at b expertMap packs.length e known]
      simp only [decide_eq_true_eq]
      omega
  · rw [fusedMoeDecodeSkipsFat]
    by_cases prefill : dev.cap < b.tokens
    · simp only [prefill, ↓reduceIte, Bool.false_eq_true, false_iff]
      omega
    · simp only [prefill, ↓reduceIte, decide_eq_true_eq, hottest_over_cap]
      constructor
      · rintro ⟨c, member, hot⟩
        obtain ⟨e, inside, rfl⟩ := List.mem_iff_getElem.mp member
        have known : e < packs.length := by rwa [local_counts_length] at inside
        refine ⟨by omega, e, ?_, ?_⟩
        · rw [skippedExperts, List.mem_filter, List.mem_range]
          simpa [List.getD_eq_getElem?_getD, inside] using ⟨known, hot⟩
        · simp only [List.getD_eq_getElem?_getD, List.getElem?_eq_getElem inside, Option.getD_some]
          omega
      · rintro ⟨_, e, skipped, _⟩
        obtain ⟨member, hot⟩ := List.mem_filter.mp skipped
        have inside : e < (localCounts b expertMap packs.length).length := by
          rw [local_counts_length]
          exact List.mem_range.mp member
        refine ⟨_, List.getElem_mem inside, ?_⟩
        simpa [List.getD_eq_getElem?_getD, inside] using hot

section Example

def decodeBatch : Batch Unit Unit :=
  ⟨2, 3, fun _ => (), fun t k => ([[3, -1, 0], [0, 1, -1]].getD t []).getD k 0, fun _ _ => ()⟩

def decodePacks : List (Pack Unit Unit Unit Unit Unit Nat) :=
  List.replicate 2 ⟨(), (), (), fun _ => (), fun _ => (), fun _ => 1⟩

theorem decode_skips_nothing_sample :
    (∀ c ∈ localCounts decodeBatch (some [0, -1, -1, 1]) decodePacks.length, c ≤ 2) ∧
      skippedExperts decodeBatch (some [0, -1, -1, 1]) decodePacks.length 2 = [] := by
  have kept := (decode_skips_nothing
    ⟨fun _ _ => (), fun _ _ => (), fun _ _ => (), fun v _ => v⟩ decodePacks decodeBatch
    (some [0, -1, -1, 1])
    ⟨id, fun _ out _ _ _ => out, 2, 64, 64, fun _ => (), fun _ => ()⟩
    ⟨false, false, false, false, false⟩ ⟨true, true, true⟩ .legacy).1
    (by decide) (fun map found => Option.some.inj found ▸ by decide) (by decide)
  exact kept.2
end Example
end FusedMoe
