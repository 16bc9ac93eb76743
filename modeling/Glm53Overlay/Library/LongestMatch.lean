import Mathlib.Data.List.Infix
import Mathlib.Data.List.MinMax
import Mathlib.Data.List.Sort

/-!
Cutting a text at words of a fixed list. An alternation takes the first word of its list that
stands at a position; over a list ordered by falling length that is the longest one. The spans
of a scan and the pieces between them are two views of the same cut, and a piece cut out and
scanned alone is cut no further.
-/
namespace LongestMatch
variable {α : Type*} [DecidableEq α]

def firstAt (words : List (List α)) (t : List α) : Option (List α) :=
  words.find? fun w => w.isPrefixOf t

def longestAt (words : List (List α)) (t : List α) : Option (List α) :=
  (words.filter fun w => w.isPrefixOf t).argmax List.length

theorem longestAt_some {words : List (List α)} {t w : List α}
    (found : longestAt words t = some w) :
    w ∈ words ∧ w <+: t ∧ ∀ v ∈ words, v <+: t → v.length ≤ w.length := by
  have member := List.mem_filter.mp (List.argmax_mem found)
  refine ⟨member.1, List.isPrefixOf_iff_prefix.mp member.2, ?_⟩
  intro v listed stands
  have kept : v ∈ words.filter fun u => u.isPrefixOf t :=
    List.mem_filter.mpr ⟨listed, List.isPrefixOf_iff_prefix.mpr stands⟩
  exact List.le_of_mem_argmax kept found

theorem longestAt_none_iff {words : List (List α)} {t : List α} :
    longestAt words t = none ↔ ∀ w ∈ words, ¬ w <+: t := by
  rw [longestAt, List.argmax_eq_none, List.filter_eq_nil_iff]
  simp only [List.isPrefixOf_iff_prefix]

theorem longestAt_eq_some {words : List (List α)} {t w : List α} (listed : w ∈ words)
    (stands : w <+: t) (longest : ∀ v ∈ words, v <+: t → v.length ≤ w.length) :
    longestAt words t = some w := by
  cases found : longestAt words t with
  | none => exact absurd stands (longestAt_none_iff.mp found w listed)
  | some v =>
    obtain ⟨vListed, vStands, vLongest⟩ := longestAt_some found
    have size : v.length = w.length :=
      Nat.le_antisymm (longest v vListed vStands) (vLongest w listed stands)
    rw [(List.prefix_of_prefix_length_le vStands stands (Nat.le_of_eq size)).eq_of_length size]

/-- Over a list ordered by falling length the first match is the longest one. -/
theorem firstAt_eq_longestAt {sorted words : List (List α)} (perm : sorted.Perm words)
    (falling : sorted.Pairwise fun a b => b.length ≤ a.length) (t : List α) :
    firstAt sorted t = longestAt words t := by
  cases found : firstAt sorted t with
  | none =>
    have absent := List.find?_eq_none.mp found
    refine (longestAt_none_iff.mpr ?_).symm
    intro w listed stands
    exact absent w (perm.mem_iff.mpr listed) (List.isPrefixOf_iff_prefix.mpr stands)
  | some w =>
    obtain ⟨here, before, after, split, earlier⟩ := List.find?_eq_some_iff_append.mp found
    refine (longestAt_eq_some ?_ (List.isPrefixOf_iff_prefix.mp here) ?_).symm
    · exact perm.mem_iff.mp (by simp [split])
    · intro v listed stands
      have place : v ∈ before ++ w :: after := split ▸ perm.mem_iff.mpr listed
      rcases List.mem_append.mp place with skipped | later
      · have none := earlier v skipped
        rw [List.isPrefixOf_iff_prefix.mpr stands] at none
        cases none
      · rw [split] at falling
        rcases List.mem_cons.mp later with same | rest
        · exact Nat.le_of_eq (congrArg List.length same)
        · exact (List.pairwise_cons.mp (List.pairwise_append.mp falling).2.1).1 v rest

/-- `(start, end)` of the matches of a scan from the left; `skip` characters of the text still
    belong to the last match. -/
def spans (matchAt : List α → Option (List α)) : Nat → Nat → List α → List (Nat × Nat)
  | _, _, [] => []
  | pos, skip + 1, _ :: t => spans matchAt (pos + 1) skip t
  | pos, 0, c :: t =>
    match matchAt (c :: t) with
    | some w => (pos, pos + w.length) :: spans matchAt (pos + 1) (w.length - 1) t
    | none => spans matchAt (pos + 1) 0 t

inductive Piece (α : Type*) where
  | gap (text : List α)
  | word (text : List α)

def Piece.text : Piece α → List α
  | .gap t => t
  | .word t => t

/-- A gap is a piece only when it is not empty. -/
def gapPiece (t : List α) : List (Piece α) := if t = [] then [] else [.gap t]

/-- The pieces of a text, `seg` being the open gap before it. -/
def pieces (matchAt : List α → Option (List α)) : List α → Nat → List α → List (Piece α)
  | seg, _, [] => gapPiece seg
  | seg, skip + 1, _ :: t => pieces matchAt seg skip t
  | seg, 0, c :: t =>
    match matchAt (c :: t) with
    | some w => gapPiece seg ++ .word w :: pieces matchAt [] (w.length - 1) t
    | none => pieces matchAt (seg ++ [c]) 0 t

/-- `text[start:stop]`. -/
def slice (text : List α) (start stop : Nat) : List α := (text.drop start).take (stop - start)

def cut (text : List α) : Nat → List (Nat × Nat) → List (Piece α)
  | start, [] => gapPiece (text.drop start)
  | start, (a, b) :: rest => gapPiece (slice text start a) ++ .word (slice text a b) ::
      cut text b rest

omit [DecidableEq α] in
theorem spans_skip (matchAt : List α → Option (List α)) (t : List α) :
    ∀ pos skip, skip ≤ t.length →
      spans matchAt pos skip t = spans matchAt (pos + skip) 0 (t.drop skip) := by
  induction t with
  | nil =>
    intro pos skip inside
    rw [List.drop_nil, spans, spans]
  | cons c t ih =>
    intro pos skip inside
    cases skip with
    | zero => rfl
    | succ skip =>
      rw [spans, ih (pos + 1) skip (Nat.le_of_succ_le_succ inside), List.drop_succ_cons]
      congr 1
      omega

omit [DecidableEq α] in
theorem pieces_skip (matchAt : List α → Option (List α)) (seg t : List α) :
    ∀ skip, pieces matchAt seg skip t = pieces matchAt seg 0 (t.drop skip) := by
  induction t with
  | nil =>
    intro skip
    rw [List.drop_nil, pieces, pieces]
  | cons c t ih =>
    intro skip
    cases skip with
    | zero => rfl
    | succ skip => rw [pieces, ih skip, List.drop_succ_cons]

def Matches (matchAt : List α → Option (List α)) : Prop :=
  ∀ t w, matchAt t = some w → w ≠ [] ∧ w <+: t

omit [DecidableEq α] in
theorem after_match {c : α} {t w : List α} (nonempty : w ≠ []) (stands : w <+: c :: t) :
    w.length - 1 ≤ t.length ∧ c :: t = w ++ t.drop (w.length - 1) := by
  obtain ⟨rest, split⟩ := stands
  cases w with
  | nil => exact absurd rfl nonempty
  | cons d w =>
    rw [List.cons_append] at split
    obtain ⟨rfl, rfl⟩ := List.cons.inj split
    simp

omit [DecidableEq α] in
theorem cut_spans_from {matchAt : List α → Option (List α)} (valid : Matches matchAt) :
    ∀ (n : Nat) (seg t : List α), t.length = n →
      ∀ before : List α, cut (before ++ seg ++ t) before.length
          (spans matchAt (before.length + seg.length) 0 t) = pieces matchAt seg 0 t := by
  intro n
  induction n using Nat.strongRecOn with
  | ind n ih =>
    intro seg t size before
    cases t with
    | nil => simp [spans, pieces, cut]
    | cons c t =>
      cases found : matchAt (c :: t) with
      | none =>
        have later := ih t.length (by rw [← size]; exact Nat.lt_succ_self _) (seg ++ [c]) t rfl
          before
        simp only [spans, pieces, found]
        rw [← later]
        simp [Nat.add_assoc]
      | some w =>
        obtain ⟨nonempty, stands⟩ := valid _ _ found
        obtain ⟨inside, split⟩ := after_match nonempty stands
        have positive : 0 < w.length := List.length_pos_iff.mpr nonempty
        have shorter : (t.drop (w.length - 1)).length < n := by
          rw [← size, List.length_drop, List.length_cons]
          omega
        have later := ih _ shorter [] (t.drop (w.length - 1)) rfl (before ++ seg ++ w)
        simp only [spans, pieces, found, cut]
        have next : before.length + seg.length + 1 + (w.length - 1) =
            (before ++ seg ++ w).length + ([] : List α).length := by
          simp only [List.length_append, List.length_nil]
          omega
        rw [spans_skip _ _ _ _ inside, pieces_skip, next, ← later, split]
        have place : before.length + seg.length + w.length = (before ++ seg ++ w).length := by
          simp only [List.length_append]
        have gap : slice (before ++ seg ++ (w ++ t.drop (w.length - 1))) before.length
            (before.length + seg.length) = seg := by
          simp [slice, List.append_assoc]
        have word : slice (before ++ seg ++ (w ++ t.drop (w.length - 1)))
            (before.length + seg.length) (before.length + seg.length + w.length) = w := by
          rw [slice, ← List.length_append, List.drop_left, Nat.add_sub_cancel_left,
            List.take_left]
        rw [gap, word, place]
        simp [List.append_assoc]

omit [DecidableEq α] in
/-- The slices at the spans of a scan are the pieces of the text. -/
theorem cut_spans {matchAt : List α → Option (List α)} (valid : Matches matchAt)
    (text : List α) : cut text 0 (spans matchAt 0 0 text) = pieces matchAt [] 0 text :=
  cut_spans_from valid text.length [] text rfl []

theorem longestAt_matches {words : List (List α)} (nonempty : [] ∉ words) :
    Matches (longestAt words) := by
  intro t w found
  obtain ⟨listed, stands, _⟩ := longestAt_some found
  exact ⟨fun empty => nonempty (empty ▸ listed), stands⟩

/-- No word stands at a place of the gap, read with what follows it. -/
def Clean (words : List (List α)) (seg rest : List α) : Prop :=
  ∀ i < seg.length, longestAt words ((seg ++ rest).drop i) = none

theorem clean_alone {words : List (List α)} {seg rest : List α} (clean : Clean words seg rest) :
    Clean words seg [] := by
  intro i inside
  rw [longestAt_none_iff]
  intro w listed stands
  refine longestAt_none_iff.mp (clean i inside) w listed (stands.trans ?_)
  rw [List.append_nil, List.drop_append_of_le_length (Nat.le_of_lt inside)]
  exact List.prefix_append _ _

theorem clean_snoc {words : List (List α)} {seg t : List α} {c : α}
    (clean : Clean words seg (c :: t)) (here : longestAt words (c :: t) = none) :
    Clean words (seg ++ [c]) t := by
  intro i inside
  rw [List.append_assoc, List.singleton_append]
  rw [List.length_append, List.length_singleton] at inside
  rcases Nat.lt_succ_iff_lt_or_eq.mp inside with earlier | rfl
  · exact clean i earlier
  · rw [List.drop_left]
    exact here

theorem pieces_clean {words : List (List α)} (t : List α) :
    ∀ seg, Clean words t [] → pieces (longestAt words) seg 0 t = gapPiece (seg ++ t) := by
  induction t with
  | nil =>
    intro seg _
    rw [pieces, List.append_nil]
  | cons c t ih =>
    intro seg clean
    have here := clean 0 (Nat.succ_pos _)
    rw [List.append_nil, List.drop_zero] at here
    have later : Clean words t [] := by
      intro i inside
      exact clean (i + 1) (Nat.succ_lt_succ inside)
    simp only [pieces, here]
    rw [ih _ later, List.append_assoc, List.singleton_append]

theorem gapPiece_alone {words : List (List α)} {seg rest : List α} {piece : Piece α}
    (clean : Clean words seg rest) (member : piece ∈ gapPiece seg) :
    pieces (longestAt words) [] 0 piece.text = [piece] := by
  unfold gapPiece at member
  split at member
  · cases member
  · rename_i nonempty
    rw [List.mem_singleton.mp member, Piece.text, pieces_clean seg [] (clean_alone clean),
      List.nil_append, gapPiece, if_neg nonempty]

/-- The seams of a cut are independent of the rest of the text: every piece, scanned alone,
    is its own only piece. -/
theorem pieces_alone {words : List (List α)} (nonempty : [] ∉ words) :
    ∀ (t seg : List α) (skip : Nat), (skip = 0 → Clean words seg t) → (skip ≠ 0 → seg = []) →
      ∀ piece ∈ pieces (longestAt words) seg skip t,
        pieces (longestAt words) [] 0 piece.text = [piece] := by
  intro t
  induction t with
  | nil =>
    intro seg skip clean inMatch piece member
    rw [pieces] at member
    by_cases atStart : skip = 0
    · exact gapPiece_alone (clean atStart) member
    · rw [inMatch atStart] at member
      cases member
  | cons c t ih =>
    intro seg skip clean inMatch piece member
    cases skip with
    | succ skip =>
      have empty := inMatch (Nat.succ_ne_zero _)
      subst empty
      exact ih [] skip (fun _ i inside => absurd inside (Nat.not_lt_zero i)) (fun _ => rfl)
        piece member
    | zero =>
      have clean := clean rfl
      cases found : longestAt words (c :: t) with
      | none =>
        simp only [pieces, found] at member
        exact ih (seg ++ [c]) 0 (fun _ => clean_snoc clean found) (fun wrong => absurd rfl wrong)
          piece member
      | some w =>
        simp only [pieces, found, List.mem_append, List.mem_cons] at member
        rcases member with inGap | rfl | later
        · exact gapPiece_alone clean inGap
        · obtain ⟨listed, stands, _⟩ := longestAt_some found
          cases w with
          | nil => exact absurd listed nonempty
          | cons d w =>
            have own : longestAt words (d :: w) = some (d :: w) :=
              longestAt_eq_some listed (List.prefix_refl _)
                (fun v _ shorter => shorter.length_le)
            simp only [Piece.text, pieces, own]
            rw [pieces_skip, List.length_cons, Nat.add_sub_cancel, List.drop_length, pieces]
            rfl
        · exact ih [] _ (fun _ i inside => absurd inside (Nat.not_lt_zero i)) (fun _ => rfl)
            piece later

theorem piece_alone {words : List (List α)} (nonempty : [] ∉ words) (text : List α) :
    ∀ piece ∈ pieces (longestAt words) [] 0 text,
      pieces (longestAt words) [] 0 piece.text = [piece] :=
  pieces_alone nonempty text [] 0 (fun _ i inside => absurd inside (Nat.not_lt_zero i))
    (fun _ => rfl)

end LongestMatch
