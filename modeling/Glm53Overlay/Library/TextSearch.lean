import Mathlib.Data.List.Infix

/-!
Substring search over lists as the host language does it: leftmost occurrence, count of
disjoint occurrences taken from the left, replacement of the leftmost occurrence.
-/
namespace TextSearch
variable {α : Type*} [DecidableEq α]

def At (p t : List α) (i : Nat) : Prop := p <+: t.drop i

instance (p t : List α) (i : Nat) : Decidable (At p t i) :=
  inferInstanceAs (Decidable (p <+: t.drop i))

/-- `text.find(pattern)`, `none` for -1. -/
def find (p : List α) : List α → Option Nat
  | [] => if p.isPrefixOf [] then some 0 else none
  | c :: t => if p.isPrefixOf (c :: t) then some 0 else (find p t).map (· + 1)

/-- `text.find(pattern, start)` for a start inside the text. -/
def findFrom (p t : List α) (start : Nat) : Option Nat :=
  (find p (t.drop start)).map (start + ·)

omit [DecidableEq α] in
theorem at_end_le {p t : List α} {i : Nat} (h : At p t i) (nonempty : p ≠ []) :
    i + p.length ≤ t.length := by
  have size := h.length_le
  have positive : 0 < p.length := List.length_pos_iff.mpr nonempty
  rw [List.length_drop] at size
  omega

omit [DecidableEq α] in
theorem at_append {p t : List α} {i : Nat} (more : List α) (h : At p t i) :
    At p (t ++ more) i := by
  obtain ⟨rest, split⟩ := h
  by_cases inside : i ≤ t.length
  · exact ⟨rest ++ more, by rw [List.drop_append_of_le_length inside, ← split,
      List.append_assoc]⟩
  · have gone : t.drop i = [] := List.drop_eq_nil_of_le (by omega)
    have empty : p = [] := (List.append_eq_nil_iff.mp (split.trans gone)).1
    rw [empty]
    exact List.nil_prefix

omit [DecidableEq α] in
theorem at_of_append {p t more : List α} {i : Nat} (h : At p (t ++ more) i)
    (inside : i + p.length ≤ t.length) : At p t i := by
  have part : t.drop i <+: (t ++ more).drop i := by
    rw [List.drop_append_of_le_length (by omega)]
    exact List.prefix_append _ _
  exact List.prefix_of_prefix_length_le h part (by rw [List.length_drop]; omega)

omit [DecidableEq α] in
theorem infix_iff_at (p t : List α) : p <:+: t ↔ ∃ i, At p t i := by
  constructor
  · rintro ⟨before, after, split⟩
    refine ⟨before.length, after, ?_⟩
    rw [← split, List.append_assoc, List.drop_left]
  · rintro ⟨i, h⟩
    exact h.isInfix.trans (List.drop_suffix i t).isInfix

theorem find_some_at {p t : List α} {i : Nat} (found : find p t = some i) : At p t i := by
  induction t generalizing i with
  | nil =>
    rw [find] at found
    split at found
    · rename_i here
      cases found
      exact List.isPrefixOf_iff_prefix.mp here
    · cases found
  | cons c t ih =>
    rw [find] at found
    split at found
    · rename_i here
      cases found
      exact List.isPrefixOf_iff_prefix.mp here
    · obtain ⟨j, foundTail, rfl⟩ := Option.map_eq_some_iff.mp found
      exact ih foundTail

theorem find_some_least {p t : List α} {i j : Nat} (found : find p t = some i)
    (h : At p t j) : i ≤ j := by
  induction t generalizing i j with
  | nil =>
    rw [find] at found
    split at found
    · cases found
      exact Nat.zero_le j
    · cases found
  | cons c t ih =>
    rw [find] at found
    split at found
    · cases found
      exact Nat.zero_le j
    · rename_i absent
      obtain ⟨k, foundTail, rfl⟩ := Option.map_eq_some_iff.mp found
      cases j with
      | zero => exact absurd (List.isPrefixOf_iff_prefix.mpr h) absent
      | succ j => exact Nat.succ_le_succ (ih foundTail h)

theorem find_none {p t : List α} (missing : find p t = none) (i : Nat) : ¬ At p t i := by
  intro h
  induction t generalizing i with
  | nil =>
    rw [find] at missing
    split at missing
    · cases missing
    · rename_i absent
      exact absent (List.isPrefixOf_iff_prefix.mpr (by simpa [At] using h))
  | cons c t ih =>
    rw [find] at missing
    split at missing
    · cases missing
    · rename_i absent
      cases i with
      | zero => exact absent (List.isPrefixOf_iff_prefix.mpr h)
      | succ i => exact ih (Option.map_eq_none_iff.mp missing) i h

theorem findFrom_some_iff {p t : List α} {start i : Nat} :
    findFrom p t start = some i ↔
      start ≤ i ∧ At p t i ∧ ∀ j, start ≤ j → At p t j → i ≤ j := by
  have shift : ∀ k, At p (t.drop start) k ↔ At p t (start + k) := by
    intro k
    rw [At, At, List.drop_drop]
  constructor
  · intro found
    obtain ⟨k, foundTail, rfl⟩ := Option.map_eq_some_iff.mp found
    refine ⟨Nat.le_add_right _ _, (shift k).mp (find_some_at foundTail), ?_⟩
    intro j later h
    have tail : At p (t.drop start) (j - start) := by
      rw [shift, Nat.add_sub_of_le later]
      exact h
    have least := find_some_least foundTail tail
    omega
  · rintro ⟨later, h, least⟩
    cases found : find p (t.drop start) with
    | none =>
      refine absurd ?_ (find_none found (i - start))
      rw [shift, Nat.add_sub_of_le later]
      exact h
    | some k =>
      have here := (shift k).mp (find_some_at found)
      have lower := least (start + k) (Nat.le_add_right _ _) here
      have tail : At p (t.drop start) (i - start) := by
        rw [shift, Nat.add_sub_of_le later]
        exact h
      have upper := find_some_least found tail
      rw [findFrom, found]
      simp only [Option.map_some, Option.some.injEq]
      omega

theorem findFrom_none_iff {p t : List α} {start : Nat} :
    findFrom p t start = none ↔ ∀ i, start ≤ i → ¬ At p t i := by
  constructor
  · intro missing i later h
    refine find_none (Option.map_eq_none_iff.mp missing) (i - start) ?_
    rw [At, List.drop_drop, Nat.add_sub_of_le later]
    exact h
  · intro absent
    cases found : findFrom p t start with
    | none => rfl
    | some i =>
      obtain ⟨later, h, _⟩ := findFrom_some_iff.mp found
      exact absurd h (absent i later)

theorem find_some_iff {p t : List α} {i : Nat} :
    find p t = some i ↔ At p t i ∧ ∀ j, At p t j → i ≤ j := by
  have whole : findFrom p t 0 = find p t := by
    rw [findFrom, List.drop_zero]
    cases find p t <;> simp
  rw [← whole, findFrom_some_iff]
  constructor
  · rintro ⟨_, here, least⟩
    exact ⟨here, fun j => least j (Nat.zero_le j)⟩
  · rintro ⟨here, least⟩
    exact ⟨Nat.zero_le i, here, fun j _ => least j⟩

theorem find_isSome_iff (p t : List α) : (find p t).isSome = true ↔ p <:+: t := by
  rw [infix_iff_at]
  cases found : find p t with
  | none =>
    simp only [Option.isSome_none, Bool.false_eq_true, false_iff, not_exists]
    exact find_none found
  | some i => exact ⟨fun _ => ⟨i, find_some_at found⟩, fun _ => rfl⟩

theorem find_eq_none_iff (p t : List α) : find p t = none ↔ ¬ p <:+: t := by
  rw [← find_isSome_iff]
  cases find p t <;> simp

omit [DecidableEq α] in
theorem at_split {p t : List α} {i : Nat} (h : At p t i) :
    t = t.take i ++ p ++ t.drop (i + p.length) := by
  obtain ⟨rest, split⟩ := h
  have tail : t.drop (i + p.length) = rest := by
    rw [← List.drop_drop, ← split, List.drop_left]
  rw [tail, List.append_assoc, split, List.take_append_drop]

omit [DecidableEq α] in
theorem at_middle (u p v : List α) : At p (u ++ p ++ v) u.length := by
  rw [At, List.append_assoc, List.drop_left]
  exact List.prefix_append p v

/-- `text.count(pattern)` for a pattern that is not empty; `skip` characters still belong to the
    last occurrence counted. -/
def countFrom (p : List α) : Nat → List α → Nat
  | _, [] => 0
  | skip + 1, _ :: t => countFrom p skip t
  | 0, c :: t => if p.isPrefixOf (c :: t) then countFrom p (p.length - 1) t + 1
    else countFrom p 0 t

def count (p t : List α) : Nat := countFrom p 0 t

theorem countFrom_skip (p t : List α) : ∀ skip, countFrom p skip t = count p (t.drop skip) := by
  induction t with
  | nil =>
    intro skip
    rw [List.drop_nil, count, countFrom, countFrom]
  | cons c t ih =>
    intro skip
    cases skip with
    | zero => rfl
    | succ skip => rw [countFrom, ih skip, List.drop_succ_cons]

theorem count_of_find_some {p t : List α} {i : Nat} (nonempty : p ≠ [])
    (found : find p t = some i) : count p t = count p (t.drop (i + p.length)) + 1 := by
  obtain ⟨n, size⟩ := Nat.exists_eq_succ_of_ne_zero
    (Nat.ne_of_gt (List.length_pos_iff.mpr nonempty))
  induction t generalizing i with
  | nil =>
    have here := (find_some_at found).length_le
    rw [List.drop_nil, size] at here
    cases here
  | cons c t ih =>
    rw [find] at found
    rw [count, countFrom]
    split at found
    · rename_i here
      cases found
      rw [if_pos here, countFrom_skip, Nat.zero_add, size, List.drop_succ_cons, Nat.succ_sub_one]
    · rename_i absent
      obtain ⟨k, foundTail, rfl⟩ := Option.map_eq_some_iff.mp found
      rw [if_neg absent, ← count, ih foundTail, Nat.succ_add, List.drop_succ_cons]

theorem count_of_find_none {p t : List α} (missing : find p t = none) : count p t = 0 := by
  induction t with
  | nil => rfl
  | cons c t ih =>
    rw [find] at missing
    rw [count, countFrom]
    split at missing
    · cases missing
    · rename_i absent
      rw [if_neg absent]
      exact ih (Option.map_eq_none_iff.mp missing)

theorem count_eq_zero_iff {p : List α} (nonempty : p ≠ []) (t : List α) :
    count p t = 0 ↔ ¬ p <:+: t := by
  rw [← find_eq_none_iff]
  cases found : find p t with
  | none => simp [count_of_find_none found]
  | some i => simp [count_of_find_some nonempty found]

theorem count_pos_iff {p : List α} (nonempty : p ≠ []) (t : List α) :
    0 < count p t ↔ p <:+: t := by
  rw [Nat.pos_iff_ne_zero, ne_eq, count_eq_zero_iff nonempty, not_not]

theorem two_le_count {p t : List α} {i j : Nat} (nonempty : p ≠ []) (first : At p t i)
    (second : At p t j) (apart : i + p.length ≤ j) : 2 ≤ count p t := by
  cases found : find p t with
  | none => exact absurd first (find_none found i)
  | some k =>
    rw [count_of_find_some nonempty found]
    have least := find_some_least found first
    have rest : p <:+: t.drop (k + p.length) := by
      rw [infix_iff_at]
      refine ⟨j - (k + p.length), ?_⟩
      rw [At, List.drop_drop, Nat.add_sub_of_le (by omega)]
      exact second
    exact Nat.succ_le_succ ((count_pos_iff nonempty _).mpr rest)

/-- The pattern stands at these places and nowhere else, each behind the end of the last. -/
structure Places (p t : List α) (ps : List Nat) : Prop where
  exactly : ∀ k, At p t k ↔ k ∈ ps
  apart : ps.Pairwise fun i j => i + p.length ≤ j

omit [DecidableEq α] in
theorem at_drop (p t : List α) (start k : Nat) : At p (t.drop start) k ↔ At p t (start + k) := by
  rw [At, At, List.drop_drop]

theorem count_from_places {p t : List α} (nonempty : p ≠ []) :
    ∀ (ps : List Nat) (start : Nat), (∀ k, start ≤ k → (At p t k ↔ k ∈ ps)) →
      (∀ k ∈ ps, start ≤ k) → ps.Pairwise (fun i j => i + p.length ≤ j) →
      count p (t.drop start) = ps.length := by
  have positive : 0 < p.length := List.length_pos_iff.mpr nonempty
  intro ps
  induction ps with
  | nil =>
    intro start exactly _ _
    rw [List.length_nil, count_eq_zero_iff nonempty, infix_iff_at]
    rintro ⟨k, here⟩
    rw [at_drop, exactly _ (Nat.le_add_right start k)] at here
    cases here
  | cons i rest ih =>
    intro start exactly later apart
    obtain ⟨behind, apart⟩ := List.pairwise_cons.mp apart
    have reach := later i List.mem_cons_self
    have first : At p (t.drop start) (i - start) := by
      rw [at_drop, Nat.add_sub_of_le reach, exactly i reach]
      exact List.mem_cons_self
    cases found : find p (t.drop start) with
    | none => exact absurd first (find_none found _)
    | some k =>
      have least := find_some_least found first
      have here := find_some_at found
      rw [at_drop, exactly _ (Nat.le_add_right start k)] at here
      have same : start + k = i := by
        rcases List.mem_cons.mp here with same | member
        · exact same
        · have := behind _ member
          omega
      rw [count_of_find_some nonempty found, List.drop_drop, ← Nat.add_assoc, same,
        List.length_cons]
      refine congrArg (· + 1) (ih (i + p.length) ?_ behind apart)
      intro k after
      rw [exactly k (by omega), List.mem_cons]
      exact ⟨fun member => member.resolve_left (by omega), Or.inr⟩

theorem count_of_places {p t : List α} {ps : List Nat} (nonempty : p ≠ [])
    (places : Places p t ps) : count p t = ps.length :=
  count_from_places nonempty ps 0 (fun k _ => places.exactly k) (fun k _ => Nat.zero_le k)
    places.apart

def Once (p t : List α) : Prop := ∃ i, At p t i ∧ ∀ j, At p t j → j = i

theorem count_of_once {p t : List α} (nonempty : p ≠ []) (once : Once p t) : count p t = 1 := by
  obtain ⟨i, here, only⟩ := once
  have places : Places p t [i] := by
    constructor
    · intro k
      rw [List.mem_singleton]
      exact ⟨only k, fun same => same ▸ here⟩
    · exact List.pairwise_singleton _ _
  exact count_of_places nonempty places

/-- `text.replace(old, new, 1)`. -/
def replaceFirst (old new t : List α) : List α :=
  match find old t with
  | none => t
  | some i => t.take i ++ new ++ t.drop (i + old.length)

theorem replaceFirst_of_count {old : List α} (new : List α) {t : List α}
    (counted : count old t = 1) :
    ∃ u v, t = u ++ old ++ v ∧ replaceFirst old new t = u ++ new ++ v := by
  cases found : find old t with
  | none =>
    rw [count_of_find_none found] at counted
    cases counted
  | some i =>
    refine ⟨t.take i, t.drop (i + old.length), at_split (find_some_at found), ?_⟩
    rw [replaceFirst, found]

theorem replaceFirst_of_place {u old v : List α} (new : List α) {i : Nat}
    (places : Places old (u ++ old ++ v) [i]) :
    replaceFirst old new (u ++ old ++ v) = u ++ new ++ v := by
  have only : ∀ k, At old (u ++ old ++ v) k → k = i :=
    fun k here => List.mem_singleton.mp ((places.exactly k).mp here)
  have mine := only u.length (at_middle u old v)
  cases found : find old (u ++ old ++ v) with
  | none => exact absurd (at_middle u old v) (find_none found _)
  | some k =>
    rw [replaceFirst, found, only k (find_some_at found), ← mine]
    simp

theorem replaceFirst_of_once {u old v : List α} (new : List α) (once : Once old (u ++ old ++ v)) :
    replaceFirst old new (u ++ old ++ v) = u ++ new ++ v := by
  obtain ⟨i, here, only⟩ := once
  have places : Places old (u ++ old ++ v) [i] := by
    refine ⟨fun k => ?_, List.pairwise_singleton _ _⟩
    rw [List.mem_singleton]
    exact ⟨only k, fun same => same ▸ here⟩
  exact replaceFirst_of_place new places

theorem replaceFirst_split {old t : List α} (new : List α) (present : old <:+: t) :
    ∃ u v, t = u ++ old ++ v ∧ replaceFirst old new t = u ++ new ++ v := by
  cases found : find old t with
  | none => exact absurd present ((find_eq_none_iff old t).mp found)
  | some i =>
    refine ⟨t.take i, t.drop (i + old.length), at_split (find_some_at found), ?_⟩
    rw [replaceFirst, found]

theorem replaceFirst_cases (old new t : List α) : replaceFirst old new t = t ∨ old <:+: t := by
  cases found : find old t with
  | none =>
    left
    rw [replaceFirst, found]
  | some i => exact Or.inr ((find_isSome_iff old t).mp (by rw [found]; rfl))

theorem ends_replaceFirst {c : α} {old new t : List α} (kept : [c] <:+ t) (ends : [c] <:+ new) :
    [c] <:+ replaceFirst old new t := by
  rcases replaceFirst_cases old new t with same | present
  · rwa [same]
  · obtain ⟨u, v, split, edited⟩ := replaceFirst_split new present
    rw [edited]
    rcases List.eq_nil_or_concat v with rfl | ⟨w, d, rfl⟩
    · rw [List.append_nil]
      exact ends.trans (List.suffix_append u new)
    · rw [List.concat_eq_append, ← List.append_assoc] at split ⊢
      rw [split] at kept
      obtain ⟨before, whole⟩ := kept
      have last := (List.append_inj' whole rfl).2
      rw [last]
      exact List.suffix_append _ _

end TextSearch
