import Glm53Overlay.Library.CommonPrefix

/-!
`_glm53_aligned_prefix_tokens`: compare 256-token slices, scan the first slice that
differs element by element, and floor the match to the block grid. The loops carry
fuel; the number of tokens both prompts have is enough for either.
-/
namespace PrefixAdmit
variable {Token : Type*} [DecidableEq Token]

/-- `mine[i:j] == theirs[i:j]`. -/
def sameSlice (mine theirs : List Token) (i j : Nat) : Prop :=
  (mine.drop i).take (j - i) = (theirs.drop i).take (j - i)

instance (mine theirs : List Token) (i j : Nat) : Decidable (sameSlice mine theirs i j) :=
  inferInstanceAs (Decidable (_ = _))

def scanSlice (mine theirs : List Token) (nxt : Nat) : Nat → Nat → Nat
  | 0, matched => matched
  | fuel + 1, matched =>
    if matched < nxt then
      if mine[matched]? ≠ theirs[matched]? then matched
      else scanSlice mine theirs nxt fuel (matched + 1)
    else matched

def sliceStep : Nat := 256

def matchLoop (mine theirs : List Token) (limit : Nat) : Nat → Nat → Nat
  | 0, matched => matched
  | fuel + 1, matched =>
    if matched < limit then
      let nxt := min (matched + sliceStep) limit
      if sameSlice mine theirs matched nxt then matchLoop mine theirs limit fuel nxt
      else scanSlice mine theirs nxt (nxt - matched) matched
    else matched

def alignedPrefixTokens (mine theirs : List Token) (block : Nat) : Nat :=
  if block = 0 then 0
  else
    let limit := min mine.length theirs.length
    matchLoop mine theirs limit limit 0 / block * block

omit [DecidableEq Token] in
theorem take_extend {mine theirs : List Token} {i j : Nat} (before : i ≤ j)
    (agree : mine.take i = theirs.take i) (slice : sameSlice mine theirs i j) :
    mine.take j = theirs.take j := by
  obtain ⟨gap, rfl⟩ := Nat.exists_eq_add_of_le before
  unfold sameSlice at slice
  rw [Nat.add_sub_cancel_left] at slice
  rw [List.take_add, List.take_add, agree, slice]

theorem scan_slice_spec (mine theirs : List Token) (nxt : Nat)
    (bound : nxt ≤ min mine.length theirs.length) (differ : mine.take nxt ≠ theirs.take nxt)
    (fuel matched : Nat) (inside : matched ≤ nxt) (enough : nxt - matched ≤ fuel)
    (agree : mine.take matched = theirs.take matched) :
    scanSlice mine theirs nxt fuel matched = CommonPrefix.length mine theirs := by
  induction fuel generalizing matched with
  | zero =>
    have arrived : matched = nxt := by omega
    exact absurd (arrived ▸ agree) differ
  | succ fuel ih =>
    unfold scanSlice
    split
    · rename_i open'
      split
      · rename_i here
        exact (CommonPrefix.length_eq_of mine theirs matched (by omega) agree (Or.inr here)).symm
      · rename_i here
        have same := not_not.mp here
        apply ih (matched + 1) (by omega) (by omega)
        rw [List.take_add_one, List.take_add_one, agree, same]
    · have arrived : matched = nxt := by omega
      exact absurd (arrived ▸ agree) differ

theorem match_loop_spec (mine theirs : List Token) (fuel matched : Nat)
    (inside : matched ≤ min mine.length theirs.length)
    (enough : min mine.length theirs.length - matched ≤ fuel)
    (agree : mine.take matched = theirs.take matched) :
    matchLoop mine theirs (min mine.length theirs.length) fuel matched =
      CommonPrefix.length mine theirs := by
  induction fuel generalizing matched with
  | zero =>
    exact (CommonPrefix.length_eq_of mine theirs matched inside agree (Or.inl (by omega))).symm
  | succ fuel ih =>
    unfold matchLoop
    split
    · rename_i open'
      have forward : matched < min (matched + sliceStep) (min mine.length theirs.length) := by
        simp only [sliceStep]
        omega
      dsimp only
      split
      · rename_i slice
        exact ih _ (Nat.min_le_right _ _) (by omega)
          (take_extend (Nat.le_of_lt forward) agree slice)
      · rename_i slice
        apply scan_slice_spec mine theirs _ (Nat.min_le_right _ _) ?_ _ matched
          (Nat.le_of_lt forward) (Nat.le_refl _) agree
        intro whole
        apply slice
        simp only [sameSlice, ← List.drop_take, whole]
    · exact (CommonPrefix.length_eq_of mine theirs matched inside agree
        (Or.inl (by omega))).symm

theorem aligned_prefix_tokens_eq (mine theirs : List Token) (block : Nat) :
    alignedPrefixTokens mine theirs block =
      CommonPrefix.length mine theirs / block * block := by
  unfold alignedPrefixTokens
  split
  · rename_i zero
    simp [zero]
  · simp only
    rw [match_loop_spec mine theirs _ 0 (Nat.zero_le _) (by omega) (by simp)]

/-- Where the two loops stand: before a slice, inside the differing one, or returned. -/
inductive Cursor where
  | slices (matched : Nat)
  | elements (matched nxt : Nat)
  | returned (tokens : Nat)
  deriving DecidableEq

def scanStart (block : Nat) : Cursor := if block = 0 then .returned 0 else .slices 0

def scanStep (mine theirs : List Token) (block : Nat) : Cursor → Cursor
  | .slices matched =>
    let limit := min mine.length theirs.length
    if matched < limit then
      let nxt := min (matched + sliceStep) limit
      if sameSlice mine theirs matched nxt then .slices nxt else .elements matched nxt
    else .returned (matched / block * block)
  | .elements matched nxt =>
    if matched < nxt then
      if mine[matched]? ≠ theirs[matched]? then .returned (matched / block * block)
      else .elements (matched + 1) nxt
    else .returned (matched / block * block)
  | .returned tokens => .returned tokens

theorem elements_return (mine theirs : List Token) (block nxt : Nat) (left matched : Nat)
    (gap : nxt - matched ≤ left) :
    ∃ steps, (scanStep mine theirs block)^[steps] (.elements matched nxt) =
      .returned (scanSlice mine theirs nxt left matched / block * block) := by
  induction left generalizing matched with
  | zero =>
    have arrived : ¬ matched < nxt := by omega
    exact ⟨1, by simp [scanStep, scanSlice, arrived]⟩
  | succ left ih =>
    by_cases open' : matched < nxt
    · by_cases differ : mine[matched]? ≠ theirs[matched]?
      · exact ⟨1, by simp [scanStep, scanSlice, open', differ]⟩
      · obtain ⟨steps, reached⟩ := ih (matched + 1) (by omega)
        refine ⟨steps + 1, ?_⟩
        have advance : scanStep mine theirs block (.elements matched nxt) =
            .elements (matched + 1) nxt := by
          simp only [scanStep, open', differ, ↓reduceIte]
        rw [Function.iterate_succ_apply, advance, reached]
        simp only [scanSlice, open', differ, ↓reduceIte]
    · exact ⟨1, by simp [scanStep, scanSlice, open']⟩

theorem slices_return (mine theirs : List Token) (block : Nat) (left matched : Nat)
    (gap : min mine.length theirs.length - matched ≤ left) :
    ∃ steps, (scanStep mine theirs block)^[steps] (.slices matched) =
      .returned (matchLoop mine theirs (min mine.length theirs.length) left matched /
        block * block) := by
  induction left generalizing matched with
  | zero =>
    have arrived : ¬ matched < min mine.length theirs.length := by omega
    exact ⟨1, by simp only [Function.iterate_one, scanStep, matchLoop, arrived, ↓reduceIte]⟩
  | succ left ih =>
    by_cases open' : matched < min mine.length theirs.length
    · have forward : matched < min (matched + sliceStep) (min mine.length theirs.length) := by
        simp only [sliceStep]
        omega
      by_cases same : sameSlice mine theirs matched
          (min (matched + sliceStep) (min mine.length theirs.length))
      · obtain ⟨steps, reached⟩ :=
          ih (min (matched + sliceStep) (min mine.length theirs.length)) (by omega)
        refine ⟨steps + 1, ?_⟩
        rw [Function.iterate_succ_apply]
        simp only [scanStep, matchLoop, open', same, ↓reduceIte]
        exact reached
      · obtain ⟨steps, reached⟩ := elements_return mine theirs block
          (min (matched + sliceStep) (min mine.length theirs.length)) _ matched (Nat.le_refl _)
        refine ⟨steps + 1, ?_⟩
        rw [Function.iterate_succ_apply]
        simp only [scanStep, matchLoop, open', same, ↓reduceIte]
        exact reached
    · exact ⟨1, by simp only [Function.iterate_one, scanStep, matchLoop, open', ↓reduceIte]⟩

/-- The scan ends, with the longest common prefix rounded down to the block grid. -/
theorem scan_returns_aligned (mine theirs : List Token) (block : Nat) :
    ∃ longest, IsGreatest {k | ∃ p, p.length = k ∧ p <+: mine ∧ p <+: theirs} longest ∧
      (∃ steps, (scanStep mine theirs block)^[steps] (scanStart block) =
        .returned (longest / block * block)) ∧
      alignedPrefixTokens mine theirs block = longest / block * block := by
  refine ⟨CommonPrefix.length mine theirs, CommonPrefix.isGreatest mine theirs, ?_,
    aligned_prefix_tokens_eq mine theirs block⟩
  by_cases empty : block = 0
  · exact ⟨0, by simp [scanStart, empty]⟩
  · obtain ⟨steps, reached⟩ := slices_return mine theirs block _ 0 (Nat.le_refl _)
    refine ⟨steps, ?_⟩
    rw [scanStart, if_neg empty, reached,
      match_loop_spec mine theirs _ 0 (Nat.zero_le _) (Nat.le_refl _) (by simp)]

/-- 300 tokens agree and the prompts part inside the second slice. -/
example : scanStep (List.replicate 300 1 ++ [2]) (List.replicate 300 1 ++ [3, 4]) 7
    (.elements 300 301) = .returned 294 := by decide

end PrefixAdmit
