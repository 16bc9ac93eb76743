import Glm53Overlay.Library.EvenSpread
import Glm53Overlay.Library.OptionTraverse
import Glm53Overlay.Library.TextSearch

/-!
The patched `_construct_video_placeholder`: timestamps resampled to the encoder's temporal
grid, then one run of embed tokens for each. `none` is a raised error. The timestamps of the
three processor families, the formatting and the tokenizer come from elsewhere.
-/
namespace VideoPlaceholders
open EvenSpread
variable {Stamp Token : Type}

/-- `xs[k]`. -/
def pyIndex (xs : List Stamp) (k : ℤ) : Option Stamp :=
  if 0 ≤ k then xs[k.toNat]?
  else if 0 ≤ k + xs.length then xs[(k + xs.length).toNat]?
  else none

/-- `_align_timestamps`; the ratio of the resampled index is exact. -/
def alignTimestamps [Zero Stamp] (timestamps : List Stamp) (tGroups : ℤ) : Option (List Stamp) :=
  let t := if tGroups < 1 then 1 else tGroups
  if timestamps = [] then some (List.replicate t.toNat 0)
  else
    let n : ℤ := timestamps.length
    if n = t then some timestamps
    else if t = 1 then (pyIndex timestamps 0).map fun first => [first]
    else if n < t then
      (pyIndex timestamps (-1)).map fun last => timestamps ++ List.replicate (t - n).toNat last
    else
      let last := n - 1
      (List.range t.toNat).mapM fun (i : Nat) =>
        pyIndex timestamps (PyRound.halfEven ((i : ℚ) * last / ((t : ℚ) - 1)))

structure HfProcessor where
  typeName : String
  /-- The name of the video processor's type, and whether it exposes `max_duration`. -/
  videoProcessor : Option (String × Bool)
  isGlm4v : Bool
  isGlmga : Bool

/-- `needle in text`. -/
def contains (needle text : String) : Bool := (TextSearch.find needle.toList text.toList).isSome

def useGlm4vTimestamps (p : HfProcessor) : Bool :=
  let vpName := (p.videoProcessor.map Prod.fst).getD ""
  if contains "Glm5" p.typeName || contains "Glm5" vpName then false
  else if p.videoProcessor.any fun vp => !vp.2 then false
  else p.isGlm4v

structure TokenIds (Token : Type) where
  videoStart : Token
  videoEnd : Token
  imageStart : Token
  imageEnd : Token
  embed : Token

/-- The timestamps of one video under the three families, and how they become tokens. -/
structure Timeline (Stamp Token : Type) where
  glm4v : List Stamp
  glmga : List Stamp
  glm46v : List Stamp
  plain : Stamp → String
  seconds : Stamp → String
  encode : String → List Token

def constructVideoPlaceholder [Zero Stamp] (p : HfProcessor) (ids : TokenIds Token)
    (line : Timeline Stamp Token) (mergeSize tGroups height width : Nat) : Option (List Token) :=
  let mergeLength := mergeSize ^ 2
  if mergeLength = 0 then none
  else
    let nPer := height * width / mergeLength
    let (timestamps, tsFmt) :=
      if useGlm4vTimestamps p then (line.glm4v, line.plain)
      else if p.isGlmga then (line.glmga, line.seconds)
      else (line.glm46v, line.seconds)
    (alignTimestamps timestamps tGroups).map fun timestamps =>
      ids.videoStart :: timestamps.flatMap (fun ts =>
        ids.imageStart :: List.replicate nPer ids.embed ++ ids.imageEnd :: line.encode (tsFmt ts)) ++
        [ids.videoEnd]

/-- The kept entries of a shorter result: strictly increasing positions from the first
    timestamp to the last. -/
def KeepsSpread (timestamps result : List Stamp) : Prop :=
  ∃ index : Nat → Nat, index 0 = 0 ∧ index (result.length - 1) = timestamps.length - 1 ∧
    (∀ i j, i < j → j < result.length → index i < index j) ∧
    ∀ i < result.length, index i < timestamps.length ∧ result[i]? = timestamps[index i]?

section Align

theorem sampled (timestamps : List Stamp) (t : Nat) (two : 2 ≤ t) (fewer : t < timestamps.length) :
    ∃ result, ((List.range t).mapM fun i =>
        pyIndex timestamps (position (timestamps.length - 1) t i)) = some result ∧
      result.length = t ∧ KeepsSpread timestamps result := by
  have sparse : t ≤ timestamps.length - 1 := by omega
  have found : ∀ i < t, (position (timestamps.length - 1) t i).toNat < timestamps.length := by
    intro i inside
    obtain ⟨low, high⟩ := position_range two sparse inside
    omega
  have some_item : 0 < timestamps.length := by omega
  have item : ∀ i ∈ List.range t, pyIndex timestamps (position (timestamps.length - 1) t i) =
      some ((timestamps[(position (timestamps.length - 1) t i).toNat]?).getD timestamps[0]) := by
    intro i member
    have inside := List.mem_range.mp member
    rw [pyIndex, if_pos (position_range two sparse inside).1,
      List.getElem?_eq_getElem (found i inside), Option.getD_some]
  refine ⟨(List.range t).map fun i =>
    (timestamps[(position (timestamps.length - 1) t i).toNat]?).getD timestamps[0], ?_, by simp, ?_⟩
  · exact OptionTraverse.mapM_of_some item
  · refine ⟨fun i => (position (timestamps.length - 1) t i).toNat, ?_, ?_, ?_, ?_⟩
    · simp [position_first]
    · simp [position_last two]
    · intro i j before inside
      rw [List.length_map, List.length_range] at inside
      have larger := position_lt two sparse before
      have low := (position_range two sparse (Nat.lt_trans before inside)).1
      dsimp only
      omega
    · intro i inside
      rw [List.length_map, List.length_range] at inside
      refine ⟨found i inside, ?_⟩
      rw [List.getElem?_map, List.getElem?_range inside, Option.map_some,
        List.getElem?_eq_getElem (found i inside), Option.getD_some]

theorem align_timestamps_spec [Zero Stamp] (timestamps : List Stamp) (tGroups : ℤ) :
    ∃ result, alignTimestamps timestamps tGroups = some result ∧
      (result.length : ℤ) = max 1 tGroups ∧
      (2 ≤ result.length → result.length < timestamps.length → KeepsSpread timestamps result) ∧
      (timestamps.length < result.length → timestamps <+: result) := by
  have groups : (if tGroups < 1 then 1 else tGroups) = max 1 tGroups := by
    split <;> omega
  obtain ⟨t, count⟩ : ∃ t : Nat, (t : ℤ) = max 1 tGroups := ⟨(max 1 tGroups).toNat, by omega⟩
  have some_group : 1 ≤ t := by omega
  rw [← count]
  simp only [alignTimestamps, groups, ← count, Int.toNat_natCast]
  cases timestamps with
  | nil => exact ⟨List.replicate t 0, by simp⟩
  | cons first rest =>
    rw [if_neg (List.cons_ne_nil first rest)]
    by_cases same : ((first :: rest).length : ℤ) = t
    · rw [if_pos same]
      refine ⟨first :: rest, rfl, same, ?_, ?_⟩ <;> omega
    rw [if_neg same]
    by_cases single : (t : ℤ) = 1
    · rw [if_pos single]
      refine ⟨[first], by simp [pyIndex], by simp [single], ?_, ?_⟩
      · simp
      · simp
    rw [if_neg single]
    by_cases fewer : ((first :: rest).length : ℤ) < t
    · rw [if_pos fewer]
      have short : (first :: rest).length < t := by exact_mod_cast fewer
      have last : pyIndex (first :: rest) (-1) = (first :: rest)[(first :: rest).length - 1]? := by
        have place : (-1 + ((first :: rest).length : ℤ)).toNat = (first :: rest).length - 1 := by
          omega
        rw [pyIndex, if_neg (by decide), if_pos (by simp only [List.length_cons]; omega), place]
      rw [last, List.getElem?_eq_getElem (by simp), Option.map_some]
      refine ⟨_, rfl, ?_, ?_, ?_⟩
      · rw [List.length_append, List.length_replicate]
        omega
      · intro _ shorter
        rw [List.length_append] at shorter
        omega
      · exact fun _ => List.prefix_append _ _
    · rw [if_neg fewer]
      have cast : ∀ i : Nat, PyRound.halfEven
          ((i : ℚ) * (((first :: rest).length : ℤ) - 1 : ℤ) / (((t : ℤ) : ℚ) - 1)) =
            position ((first :: rest).length - 1) t i := by
        intro i
        have last : (((first :: rest).length : ℤ) - 1 : ℤ) = (((first :: rest).length - 1 : Nat) : ℤ) := by
          simp
        rw [position, last]
        simp
      simp only [cast]
      obtain ⟨result, found, length, spread⟩ := sampled (first :: rest) t (by omega) (by omega)
      refine ⟨result, found, by rw [length], fun _ _ => spread, ?_⟩
      intro shorter
      omega
end Align

section Placeholder
variable [Zero Stamp] [DecidableEq Token]

/-- The placeholder has as many embed tokens as the encoder gives for the grid. -/
theorem placeholder_matches_grid (p : HfProcessor) (ids : TokenIds Token)
    (line : Timeline Stamp Token) (mergeSize tGroups height width : Nat) (merge : 0 < mergeSize)
    (some_group : 1 ≤ tGroups)
    (special : ids.embed ∉ [ids.videoStart, ids.videoEnd, ids.imageStart, ids.imageEnd])
    (texts : ∀ ts, ids.embed ∉ line.encode (line.plain ts) ∧
      ids.embed ∉ line.encode (line.seconds ts)) :
    (∀ (timestamps : List Stamp) (groups : ℤ),
      ∃ result, alignTimestamps timestamps groups = some result ∧
        (result.length : ℤ) = max 1 groups ∧
        (2 ≤ result.length → result.length < timestamps.length →
          KeepsSpread timestamps result) ∧
        (timestamps.length < result.length → timestamps <+: result)) ∧
      ∃ placeholder, constructVideoPlaceholder p ids line mergeSize tGroups height width =
          some placeholder ∧
        placeholder.count ids.embed = tGroups * (height * width / mergeSize ^ 2) := by
  refine ⟨align_timestamps_spec, ?_⟩
  have divisor : mergeSize ^ 2 ≠ 0 := pow_ne_zero 2 (Nat.pos_iff_ne_zero.mp merge)
  simp only [List.mem_cons, List.not_mem_nil, or_false, not_or] at special
  obtain ⟨videoStart, videoEnd, imageStart, imageEnd⟩ := special
  have run : ∀ (n : Nat) (fmt : Stamp → String) (result : List Stamp),
      (∀ ts, ids.embed ∉ line.encode (fmt ts)) →
      (result.flatMap fun ts => ids.imageStart :: List.replicate n ids.embed ++
        ids.imageEnd :: line.encode (fmt ts)).count ids.embed = result.length * n := by
    intro n fmt result free
    induction result with
    | nil => simp
    | cons ts rest ih =>
      have silent := List.count_eq_zero.mpr (free ts)
      rw [List.flatMap_cons, List.count_append, ih]
      simp only [List.cons_append, List.count_cons, List.count_append, List.count_replicate_self,
        silent, beq_iff_eq, Ne.symm imageStart, Ne.symm imageEnd, ↓reduceIte, List.length_cons]
      ring
  simp only [constructVideoPlaceholder, divisor, ↓reduceIte]
  obtain ⟨timestamps, fmt, chosen, free⟩ : ∃ timestamps fmt,
      (if useGlm4vTimestamps p = true then (line.glm4v, line.plain)
        else if p.isGlmga = true then (line.glmga, line.seconds)
        else (line.glm46v, line.seconds)) = (timestamps, fmt) ∧
      ∀ ts, ids.embed ∉ line.encode (fmt ts) := by
    split_ifs
    · exact ⟨_, _, rfl, fun ts => (texts ts).1⟩
    · exact ⟨_, _, rfl, fun ts => (texts ts).2⟩
    · exact ⟨_, _, rfl, fun ts => (texts ts).2⟩
  rw [chosen]
  obtain ⟨result, aligned, length, _⟩ := align_timestamps_spec timestamps tGroups
  have groups : result.length = tGroups := by omega
  simp only [aligned, Option.map_some]
  refine ⟨_, rfl, ?_⟩
  rw [List.count_append, List.count_cons, run _ fmt result free, groups]
  simp [Ne.symm videoStart, Ne.symm videoEnd]

/-- Five timestamps on a grid of three groups. -/
theorem placeholder_three_groups :
    (∀ (timestamps : List Nat) (groups : ℤ),
      ∃ result, alignTimestamps timestamps groups = some result ∧
        (result.length : ℤ) = max 1 groups ∧
        (2 ≤ result.length → result.length < timestamps.length →
          KeepsSpread timestamps result) ∧
        (timestamps.length < result.length → timestamps <+: result)) ∧
      ∃ placeholder, constructVideoPlaceholder ⟨"Glm5NextProcessor", none, true, false⟩
          (⟨1, 2, 3, 4, 5⟩ : TokenIds Nat)
          ⟨[], [], [0, 1, 2, 3, 4], toString, toString, fun _ => [9]⟩ 2 3 4 6 = some placeholder ∧
        placeholder.count 5 = 3 * (4 * 6 / 2 ^ 2) :=
  placeholder_matches_grid _ ⟨1, 2, 3, 4, 5⟩ _ 2 3 4 6 (by decide) (by decide) (by decide)
    (fun _ => ⟨show 5 ∉ [9] by decide, show 5 ∉ [9] by decide⟩)
end Placeholder
end VideoPlaceholders
