import Glm53Overlay.Library.TextSearch

/-!
What an edit of a text does to the occurrences of a pattern. A window `a ++ m ++ b` stands in
a text and its middle is exchanged. When no placement of the pattern against the window
touches the middle, every occurrence lies on one side of it and survives the exchange.
-/
namespace TextEdit
open TextSearch
variable {α : Type*} [DecidableEq α]

/-- Every occurrence of the pattern lies before or behind the middle of the window, the
    occurrence at the window's own start apart when `own` is set. -/
def Clear (own : Bool) (p a m b : List α) : Prop :=
  ∀ u v k, At p (u ++ (a ++ m ++ b) ++ v) k →
    k + p.length ≤ u.length + a.length ∨ u.length + a.length + m.length ≤ k ∨
      own = true ∧ k = u.length

def compat : List α → List α → Bool
  | [], _ => true
  | _ :: _, [] => true
  | x :: xs, y :: ys => x == y && compat xs ys

theorem compat_of_prefix {p x v : List α} (h : p <+: x ++ v) : compat p x = true := by
  induction p generalizing x with
  | nil => rfl
  | cons c p ih =>
    cases x with
    | nil => rfl
    | cons d x =>
      obtain ⟨same, rest⟩ := List.cons_prefix_cons.mp h
      rw [compat, same, ih rest, beq_self_eq_true, Bool.true_and]

theorem compat_comm : ∀ p x : List α, compat p x = compat x p
  | [], [] => rfl
  | [], _ :: _ => rfl
  | _ :: _, [] => rfl
  | c :: p, d :: x => by rw [compat, compat, compat_comm p x, Bool.beq_comm]

theorem compat_take {p x : List α} (agrees : compat p x = true) (r : Nat) :
    compat (p.take r) x = true := by
  induction p generalizing x r with
  | nil => rw [List.take_nil]; rfl
  | cons c p ih =>
    cases r with
    | zero => rfl
    | succ r =>
      cases x with
      | nil => rfl
      | cons d x =>
        rw [compat, Bool.and_eq_true] at agrees
        rw [List.take_succ_cons, compat, agrees.1, ih agrees.2 r]
        rfl

/-- No placement of the pattern from offset `k` on, `n` offsets in all, reaches beyond `edge`. -/
def clearRight (p : List α) (size edge : Nat) : Nat → Nat → List α → Bool
  | 0, _, _ => true
  | n + 1, k, w =>
    (!compat p w || decide (k + size ≤ edge)) && clearRight p size edge n (k + 1) w.tail

/-- No placement of the pattern that begins before the window reaches beyond `edge`; `size` is
    what is left of the pattern. -/
def clearLeft (w : List α) (edge : Nat) : Nat → List α → Bool
  | 0, _ => true
  | size + 1, q => (!compat q w || decide (size + 1 ≤ edge)) && clearLeft w edge size q.tail

def clear (own : Bool) (p a m b : List α) : Bool :=
  clearLeft (a ++ (m ++ b)) a.length (p.length - 1) p.tail &&
    if own then clearRight p p.length a.length (a.length + m.length - 1) 1 (a ++ (m ++ b)).tail
    else clearRight p p.length a.length (a.length + m.length) 0 (a ++ (m ++ b))

theorem clearRight_spec {p : List α} {size edge : Nat} :
    ∀ {n k : Nat} {w : List α}, clearRight p size edge n k w = true → ∀ i < n,
      compat p (w.drop i) = false ∨ k + i + size ≤ edge := by
  intro n
  induction n with
  | zero =>
    intro k w _ i none
    exact absurd none (Nat.not_lt_zero i)
  | succ n ih =>
    intro k w checked i inside
    rw [clearRight, Bool.and_eq_true] at checked
    obtain ⟨here, later⟩ := checked
    cases i with
    | zero => simpa using here
    | succ i =>
      have rest := ih later i (Nat.lt_of_succ_lt_succ inside)
      rw [List.drop_tail] at rest
      rcases rest with differ | inEdge
      · exact Or.inl differ
      · exact Or.inr (by omega)

theorem clearLeft_spec {w : List α} {edge : Nat} :
    ∀ {size : Nat} {q : List α}, clearLeft w edge size q = true → ∀ d < size,
      compat (q.drop d) w = false ∨ size - d ≤ edge := by
  intro size
  induction size with
  | zero =>
    intro q _ d none
    exact absurd none (Nat.not_lt_zero d)
  | succ size ih =>
    intro q checked d inside
    rw [clearLeft, Bool.and_eq_true] at checked
    obtain ⟨here, later⟩ := checked
    cases d with
    | zero => simpa using here
    | succ d =>
      have rest := ih later d (Nat.lt_of_succ_lt_succ inside)
      rw [List.drop_tail] at rest
      rcases rest with differ | inEdge
      · exact Or.inl differ
      · exact Or.inr (by omega)

theorem clearRight_of {p : List α} {size edge : Nat} : ∀ {n k : Nat} {w : List α},
    (∀ i < n, compat p (w.drop i) = false) → clearRight p size edge n k w = true := by
  intro n
  induction n with
  | zero =>
    intro k w _
    rfl
  | succ n ih =>
    intro k w differ
    have here := differ 0 (Nat.succ_pos n)
    rw [List.drop_zero] at here
    rw [clearRight, here, ih fun i inside => ?_]
    · rfl
    · rw [List.drop_tail]
      exact differ (i + 1) (Nat.succ_lt_succ inside)

theorem clearLeft_of {w : List α} {edge : Nat} : ∀ {size : Nat} {q : List α},
    (∀ d, d + edge < size → compat (q.drop d) w = false) → clearLeft w edge size q = true := by
  intro size
  induction size with
  | zero =>
    intro q _
    rfl
  | succ size ih =>
    intro q differ
    have later := ih (q := q.tail) fun d inside => by
      rw [List.drop_tail]
      exact differ (d + 1) (by omega)
    rw [clearLeft, later, Bool.and_true, Bool.or_eq_true]
    by_cases short : size + 1 ≤ edge
    · exact Or.inr (decide_eq_true short)
    · have here := differ 0 (by omega)
      rw [List.drop_zero] at here
      exact Or.inl (by rw [here]; rfl)

theorem compat_inside {p u w v : List α} {s : Nat} (h : At p (u ++ w ++ v) (u.length + s))
    (inside : s ≤ w.length) : compat p (w.drop s) = true := by
  refine compat_of_prefix (v := v) ?_
  rw [← List.drop_append_of_le_length inside]
  rwa [At, List.append_assoc, ← List.drop_drop, List.drop_left] at h

theorem compat_before {p u w v : List α} {k : Nat} (h : At p (u ++ w ++ v) k)
    (before : k ≤ u.length) : compat (p.drop (u.length - k)) w = true := by
  obtain ⟨rest, split⟩ := h
  rw [List.append_assoc, List.drop_append_of_le_length before] at split
  have size : (u.drop k).length = u.length - k := List.length_drop
  have shifted := congrArg (List.drop (u.length - k)) split
  rw [← size, List.drop_left, size] at shifted
  by_cases short : p.length ≤ u.length - k
  · rw [List.drop_eq_nil_of_le short]
    rfl
  · rw [List.drop_append_of_le_length (by omega)] at shifted
    exact compat_of_prefix ⟨rest, shifted⟩

theorem clear_spec {own : Bool} {p a m b : List α} (checked : clear own p a m b = true) :
    Clear own p a m b := by
  intro u v k h
  unfold clear at checked
  rw [Bool.and_eq_true] at checked
  obtain ⟨left, right⟩ := checked
  rw [List.append_assoc a m b] at h
  have window : a.length + m.length ≤ (a ++ (m ++ b)).length := by
    simp only [List.length_append]
    omega
  by_cases before : k < u.length
  · by_cases inLeft : k + p.length ≤ u.length + a.length
    · exact Or.inl inLeft
    · have agrees := compat_before h (Nat.le_of_lt before)
      have rest := clearLeft_spec left (u.length - k - 1) (by omega)
      rw [List.drop_tail, show u.length - k - 1 + 1 = u.length - k by omega] at rest
      rcases rest with differ | inEdge
      · rw [agrees] at differ
        cases differ
      · exact Or.inl (by omega)
  · by_cases behind : u.length + a.length + m.length ≤ k
    · exact Or.inr (Or.inl behind)
    · obtain ⟨s, rfl⟩ := Nat.exists_eq_add_of_le (Nat.le_of_not_lt before)
      have agrees := compat_inside h (by omega)
      cases own with
      | false =>
        rcases clearRight_spec right s (by omega) with differ | inEdge
        · rw [agrees] at differ
          cases differ
        · exact Or.inl (by omega)
      | true =>
        cases s with
        | zero => exact Or.inr (Or.inr ⟨rfl, rfl⟩)
        | succ s =>
          have rest := clearRight_spec right s (by omega)
          rw [List.drop_tail] at rest
          rcases rest with differ | inEdge
          · rw [agrees] at differ
            cases differ
          · exact Or.inl (by omega)

section
variable {p a m m' b u v : List α}

omit [DecidableEq α] in
theorem at_left (m' : List α) {k : Nat} (h : At p (u ++ (a ++ m ++ b) ++ v) k)
    (inside : k + p.length ≤ u.length + a.length) : At p (u ++ (a ++ m' ++ b) ++ v) k := by
  have split : At p ((u ++ a) ++ (m ++ (b ++ v))) k := by
    simpa [List.append_assoc] using h
  have part : At p (u ++ a) k :=
    at_of_append split (by rw [List.length_append]; exact inside)
  have whole := at_append (m' ++ (b ++ v)) part
  simpa [List.append_assoc] using whole

omit [DecidableEq α] in
theorem at_right (m' : List α) {k : Nat} (h : At p (u ++ (a ++ m ++ b) ++ v) k)
    (behind : u.length + a.length + m.length ≤ k) :
    At p (u ++ (a ++ m' ++ b) ++ v) (k - m.length + m'.length) := by
  obtain ⟨s, rfl⟩ := Nat.exists_eq_add_of_le behind
  have before : u ++ (a ++ m ++ b) ++ v = (u ++ a ++ m) ++ (b ++ v) := by
    simp [List.append_assoc]
  have after : u ++ (a ++ m' ++ b) ++ v = (u ++ a ++ m') ++ (b ++ v) := by
    simp [List.append_assoc]
  have size : u.length + a.length + m.length = (u ++ a ++ m).length := by
    simp only [List.length_append]
  have size' : u.length + a.length + m.length + s - m.length + m'.length =
      (u ++ a ++ m').length + s := by
    simp only [List.length_append]
    omega
  rw [At, before, size, ← List.drop_drop, List.drop_left] at h
  rw [At, after, size', ← List.drop_drop, List.drop_left]
  exact h

omit [DecidableEq α] in
theorem absent_edit (clear' : Clear false p a m' b) (absent : ¬ p <:+: u ++ (a ++ m ++ b) ++ v) :
    ¬ p <:+: u ++ (a ++ m' ++ b) ++ v := by
  rw [infix_iff_at] at absent ⊢
  rintro ⟨k, h⟩
  rcases clear' u v k h with left | right | ⟨wrong, _⟩
  · exact absent ⟨k, at_left m h left⟩
  · exact absent ⟨_, at_right m h right⟩
  · cases wrong

omit [DecidableEq α] in
theorem present_edit (clear' : Clear false p a m b) (present : p <:+: u ++ (a ++ m ++ b) ++ v) :
    p <:+: u ++ (a ++ m' ++ b) ++ v := by
  rw [infix_iff_at] at present ⊢
  obtain ⟨k, h⟩ := present
  rcases clear' u v k h with left | right | ⟨wrong, _⟩
  · exact ⟨k, at_left m' h left⟩
  · exact ⟨_, at_right m' h right⟩
  · cases wrong

omit [DecidableEq α] in
theorem once_edit (clear' : Clear false p a m b) (clear'' : Clear false p a m' b)
    (nonempty : p ≠ []) (once : Once p (u ++ (a ++ m ++ b) ++ v)) :
    Once p (u ++ (a ++ m' ++ b) ++ v) := by
  have positive : 0 < p.length := List.length_pos_iff.mpr nonempty
  obtain ⟨i, here, only⟩ := once
  rcases clear' u v i here with left | right | ⟨wrong, _⟩
  · refine ⟨i, at_left m' here left, ?_⟩
    intro j h
    rcases clear'' u v j h with left' | right' | ⟨wrong, _⟩
    · exact only j (at_left m h left')
    · have back := only _ (at_right m h right')
      omega
    · cases wrong
  · refine ⟨_, at_right m' here right, ?_⟩
    intro j h
    rcases clear'' u v j h with left' | right' | ⟨wrong, _⟩
    · have back := only j (at_left m h left')
      omega
    · have back := only _ (at_right m h right')
      omega
    · cases wrong
  · cases wrong

omit [DecidableEq α] in
theorem once_insert (clear' : Clear true (a ++ m' ++ b) a m' b)
    (absent : ¬ (a ++ m' ++ b) <:+: u ++ (a ++ m ++ b) ++ v) :
    Once (a ++ m' ++ b) (u ++ (a ++ m' ++ b) ++ v) := by
  rw [infix_iff_at] at absent
  refine ⟨u.length, at_middle _ _ _, ?_⟩
  intro j h
  rcases clear' u v j h with left | right | ⟨_, same⟩
  · exact absurd ⟨j, at_left m h left⟩ absent
  · exact absurd ⟨_, at_right m h right⟩ absent
  · exact same

def Twice (p t : List α) : Prop := ∃ i j, At p t i ∧ At p t j ∧ i + p.length ≤ j

theorem two_le_count_of_twice {p t : List α} (nonempty : p ≠ []) (twice : Twice p t) :
    2 ≤ count p t := by
  obtain ⟨i, j, first, second, apart⟩ := twice
  exact two_le_count nonempty first second apart

omit [DecidableEq α] in
theorem twice_edit (clear' : Clear false p a m b) (nonempty : p ≠ [])
    (twice : Twice p (u ++ (a ++ m ++ b) ++ v)) : Twice p (u ++ (a ++ m' ++ b) ++ v) := by
  have positive : 0 < p.length := List.length_pos_iff.mpr nonempty
  obtain ⟨i, j, first, second, apart⟩ := twice
  rcases clear' u v i first with left | right | ⟨wrong, _⟩
  · rcases clear' u v j second with left' | right' | ⟨wrong, _⟩
    · exact ⟨i, j, at_left m' first left, at_left m' second left', apart⟩
    · exact ⟨i, _, at_left m' first left, at_right m' second right', by omega⟩
    · cases wrong
  · rcases clear' u v j second with left' | right' | ⟨wrong, _⟩
    · omega
    · exact ⟨_, _, at_right m' first right, at_right m' second right', by omega⟩
    · cases wrong
  · cases wrong

omit [DecidableEq α] in
theorem twice_insert {old : List α} (clear' : Clear false p [] old []) (nonempty : p ≠ [])
    (present : p <:+: u ++ old ++ v) : Twice p (u ++ p ++ v) := by
  have positive : 0 < p.length := List.length_pos_iff.mpr nonempty
  obtain ⟨k, h⟩ := (infix_iff_at p _).mp present
  have window : At p (u ++ ([] ++ old ++ []) ++ v) k := by simpa using h
  have here := at_middle u p v
  have kept := clear' u v k window
  rw [List.length_nil, Nat.add_zero] at kept
  rcases kept with left | right | ⟨wrong, _⟩
  · have moved := at_left p window (by simpa using left)
    simp only [List.nil_append, List.append_nil] at moved
    exact ⟨k, u.length, moved, here, left⟩
  · have moved := at_right p window (by simpa using right)
    simp only [List.nil_append, List.append_nil] at moved
    exact ⟨u.length, _, here, moved, by omega⟩
  · cases wrong

end

/-- A replacement with what its two sides have in common. -/
structure Window (α : Type*) where
  before : List α
  middle : List α
  middle' : List α
  behind : List α

def Window.old (w : Window α) : List α := w.before ++ w.middle ++ w.behind

def Window.new (w : Window α) : List α := w.before ++ w.middle' ++ w.behind

def Window.of (old new : List α) (before behind : Nat) : Window α where
  before := old.take before
  middle := (old.drop before).take (old.length - before - behind)
  middle' := (new.drop before).take (new.length - before - behind)
  behind := old.drop (old.length - behind)

omit [DecidableEq α] in
theorem Window.old_of (old new : List α) {before behind : Nat}
    (fits : before + behind ≤ old.length) : (Window.of old new before behind).old = old := by
  have rest : (old.drop before).drop (old.length - before - behind) =
      old.drop (old.length - behind) := by
    rw [List.drop_drop]
    congr 1
    omega
  rw [Window.old, Window.of, ← rest, List.append_assoc, List.take_append_drop,
    List.take_append_drop]

omit [DecidableEq α] in
theorem Window.new_of {old new : List α} {before behind : Nat}
    (fits : before + behind ≤ new.length) (start : new.take before = old.take before)
    (stop : new.drop (new.length - behind) = old.drop (old.length - behind)) :
    (Window.of old new before behind).new = new := by
  have rest : (new.drop before).drop (new.length - before - behind) =
      new.drop (new.length - behind) := by
    rw [List.drop_drop]
    congr 1
    omega
  rw [Window.new, Window.of, ← start, ← stop, ← rest, List.append_assoc, List.take_append_drop,
    List.take_append_drop]

/-- One replacement after the other: those done keep their new text at one place, and none of
    the texts still to come appears early. -/
def settled (done : List (Window α)) : List (Window α) → Bool
  | [] => true
  | w :: rest =>
    done.all (fun d => clear false d.new w.before w.middle w.behind &&
      clear false d.new w.before w.middle' w.behind) &&
    rest.all (fun r => clear false r.new w.before w.middle' w.behind) &&
    clear true w.new w.before w.middle' w.behind &&
    settled (done ++ [w]) rest

def settledBy (check : Bool → List α → List α → List α → List α → Bool)
    (done : List (Window α)) : List (Window α) → Bool
  | [] => true
  | w :: rest =>
    done.all (fun d => check false d.new w.before w.middle w.behind &&
      check false d.new w.before w.middle' w.behind) &&
    rest.all (fun r => check false r.new w.before w.middle' w.behind) &&
    check true w.new w.before w.middle' w.behind &&
    settledBy check (done ++ [w]) rest

theorem settled_of_by {check : Bool → List α → List α → List α → List α → Bool}
    (sound : ∀ {own p a m b}, check own p a m b = true → clear own p a m b = true)
    {edits : List (Window α)} : ∀ {done : List (Window α)}, settledBy check done edits = true →
      settled done edits = true := by
  induction edits with
  | nil =>
    intro done _
    rfl
  | cons w rest ih =>
    intro done checked
    simp only [settledBy, settled, Bool.and_eq_true, List.all_eq_true] at checked ⊢
    obtain ⟨⟨⟨kept, early⟩, own⟩, later⟩ := checked
    exact ⟨⟨⟨fun d member => ⟨sound (kept d member).1, sound (kept d member).2⟩,
      fun r member => sound (early r member)⟩, sound own⟩, ih later⟩

def replaceAll : List (Window α) → List α → Option (List α)
  | [], t => some t
  | w :: rest, t => if count w.old t = 1 then replaceAll rest (replaceFirst w.old w.new t) else none

theorem once_after {edits : List (Window α)} :
    ∀ {done : List (Window α)} {t final : List α}, settled done edits = true →
      (∀ d ∈ done, d.new ≠ []) → (∀ w ∈ edits, w.new ≠ []) →
      (∀ d ∈ done, Once d.new t) → (∀ w ∈ edits, ¬ w.new <:+: t) →
      replaceAll edits t = some final → ∀ w ∈ done ++ edits, Once w.new final := by
  induction edits with
  | nil =>
    intro done t final _ _ _ onces _ replaced w member
    cases replaced
    rw [List.append_nil] at member
    exact onces w member
  | cons w rest ih =>
    intro done t final checked doneNonempty nonempty onces absents replaced
    simp only [settled, Bool.and_eq_true, List.all_eq_true] at checked
    obtain ⟨⟨⟨kept, early⟩, own⟩, later⟩ := checked
    rw [replaceAll] at replaced
    split at replaced
    · rename_i counted
      obtain ⟨u, v, split, edited⟩ := replaceFirst_of_count w.new counted
      rw [edited] at replaced
      rw [split] at onces absents
      have donePlus : ∀ d ∈ done ++ [w], d.new ≠ [] := by
        intro d member
        rcases List.mem_append.mp member with old | new
        · exact doneNonempty d old
        · rw [List.mem_singleton.mp new]
          exact nonempty w List.mem_cons_self
      have onceNow : ∀ d ∈ done ++ [w], Once d.new (u ++ w.new ++ v) := by
        intro d member
        rcases List.mem_append.mp member with old | new
        · obtain ⟨clearOld, clearNew⟩ := kept d old
          exact once_edit (clear_spec clearOld) (clear_spec clearNew) (doneNonempty d old)
            (onces d old)
        · rw [List.mem_singleton.mp new]
          exact once_insert (clear_spec own) (absents w List.mem_cons_self)
      have absentNow : ∀ r ∈ rest, ¬ r.new <:+: u ++ w.new ++ v := by
        intro r member
        exact absent_edit (clear_spec (early r member)) (absents r (List.mem_cons_of_mem _ member))
      have final := ih later donePlus (fun r member => nonempty r (List.mem_cons_of_mem _ member))
        onceNow absentNow replaced
      rwa [List.append_assoc, List.singleton_append] at final
    · cases replaced

section Beside
variable {p P m Q : List α}

/-- Every occurrence of the pattern lies in one of the two sides. -/
def Beside (p P m Q : List α) : Prop :=
  ∀ k, At p (P ++ m ++ Q) k → k + p.length ≤ P.length ∨ P.length + m.length ≤ k

omit [DecidableEq α] in
theorem beside_of_clear {a b u v : List α} (clear' : Clear false p a m b) :
    Beside p (u ++ a) m (b ++ v) := by
  intro k here
  have window : At p (u ++ (a ++ m ++ b) ++ v) k := by
    simpa [List.append_assoc] using here
  rw [List.length_append]
  rcases clear' u v k window with left | right | ⟨wrong, _⟩
  · exact Or.inl left
  · exact Or.inr right
  · cases wrong

omit [DecidableEq α] in
theorem at_first {k : Nat} (inside : k + p.length ≤ P.length) :
    At p (P ++ m ++ Q) k ↔ At p P k := by
  constructor
  · intro here
    rw [List.append_assoc] at here
    exact at_of_append here inside
  · intro here
    rw [List.append_assoc]
    exact at_append (m ++ Q) here

omit [DecidableEq α] in
theorem at_last (j : Nat) : At p (P ++ m ++ Q) (P.length + m.length + j) ↔ At p Q j := by
  rw [At, At, ← List.length_append, ← List.drop_drop, List.drop_left]

theorem find_beside (beside : Beside p P m Q) (nonempty : p ≠ []) :
    find p (P ++ m ++ Q) =
      (find p P).or ((find p Q).map (P.length + m.length + ·)) := by
  cases first : find p P with
  | some k =>
    have here := find_some_at first
    have inside := at_end_le here nonempty
    rw [Option.some_or, find_some_iff]
    refine ⟨(at_first inside).mpr here, ?_⟩
    intro j other
    rcases beside j other with left | right
    · exact find_some_least first ((at_first left).mp other)
    · omega
  | none =>
    have absent : ∀ k, At p (P ++ m ++ Q) k → P.length + m.length ≤ k := by
      intro k here
      rcases beside k here with left | right
      · exact absurd ((at_first left).mp here) (find_none first k)
      · exact right
    rw [Option.none_or]
    cases second : find p Q with
    | some j =>
      rw [Option.map_some, find_some_iff]
      refine ⟨(at_last j).mpr (find_some_at second), ?_⟩
      intro k here
      obtain ⟨i, rfl⟩ := Nat.exists_eq_add_of_le (absent k here)
      have least := find_some_least second ((at_last i).mp here)
      omega
    | none =>
      rw [Option.map_none, find_eq_none_iff, infix_iff_at]
      rintro ⟨k, here⟩
      obtain ⟨i, rfl⟩ := Nat.exists_eq_add_of_le (absent k here)
      exact find_none second i ((at_last i).mp here)

omit [DecidableEq α] in
theorem Beside.drop (beside : Beside p P m Q) {n : Nat} (inside : n ≤ P.length) :
    Beside p (P.drop n) m Q := by
  intro k here
  have moved : At p (P ++ m ++ Q) (n + k) := by
    rw [At, ← List.drop_drop, List.append_assoc, List.drop_append_of_le_length inside,
      ← List.append_assoc]
    exact here
  rw [List.length_drop]
  rcases beside (n + k) moved with left | right
  · left
    omega
  · right
    omega

theorem count_beside (nonempty : p ≠ []) (beside : Beside p P m Q) :
    count p (P ++ m ++ Q) = count p P + count p Q := by
  induction size : P.length using Nat.strongRecOn generalizing P with
  | ind n ih =>
    have searched := find_beside beside nonempty
    cases first : find p P with
    | some k =>
      rw [first, Option.some_or] at searched
      have inside := at_end_le (find_some_at first) nonempty
      have positive : 0 < p.length := List.length_pos_iff.mpr nonempty
      have rest := ih (P.drop (k + p.length)).length (by rw [List.length_drop]; omega)
        (beside.drop inside) rfl
      rw [count_of_find_some nonempty searched, count_of_find_some nonempty first,
        List.append_assoc, List.drop_append_of_le_length inside, ← List.append_assoc, rest]
      omega
    | none =>
      rw [first, Option.none_or] at searched
      rw [count_of_find_none first, Nat.zero_add]
      cases second : find p Q with
      | some j =>
        rw [second, Option.map_some] at searched
        rw [count_of_find_some nonempty searched, count_of_find_some nonempty second,
          Nat.add_assoc, ← List.length_append, ← List.drop_drop, List.drop_left]
      | none =>
        rw [second, Option.map_none] at searched
        rw [count_of_find_none searched, count_of_find_none second]

theorem count_edit {a b u v m' : List α} (nonempty : p ≠ []) (clear' : Clear false p a m b)
    (clear'' : Clear false p a m' b) :
    count p (u ++ (a ++ m ++ b) ++ v) = count p (u ++ (a ++ m' ++ b) ++ v) := by
  have sides : ∀ {m}, Clear false p a m b →
      count p (u ++ (a ++ m ++ b) ++ v) = count p (u ++ a) + count p (b ++ v) := by
    intro m apart
    rw [← count_beside nonempty (beside_of_clear apart)]
    simp only [List.append_assoc]
  rw [sides clear', sides clear'']

theorem once_of_count (own : Clear true p [] p []) (nonempty : p ≠ []) {t : List α}
    (counted : count p t = 1) : Once p t := by
  obtain ⟨u, v, split, _⟩ := replaceFirst_of_count p counted
  have here : At p t u.length := by
    rw [split]
    exact at_middle u p v
  refine ⟨u.length, here, ?_⟩
  intro j other
  have window : At p (u ++ ([] ++ p ++ []) ++ v) j := by
    simpa [split] using other
  rcases own u v j window with left | right | ⟨_, same⟩
  · have twice := two_le_count nonempty other here left
    omega
  · have twice := two_le_count nonempty here other right
    omega
  · exact same

def editSides (old new P Q : List α) : List α × List α :=
  if (find old P).isSome then (replaceFirst old new P, Q) else (P, replaceFirst old new Q)

theorem replaceFirst_beside {old : List α} (new : List α) (nonempty : old ≠ [])
    (beside : Beside old P m Q) :
    replaceFirst old new (P ++ m ++ Q) =
      (editSides old new P Q).1 ++ m ++ (editSides old new P Q).2 := by
  have searched := find_beside beside nonempty
  unfold editSides
  cases first : find old P with
  | some k =>
    rw [first, Option.some_or] at searched
    have inside := at_end_le (find_some_at first) nonempty
    have reach : k ≤ P.length := by omega
    rw [Option.isSome_some, if_pos rfl, replaceFirst, searched, replaceFirst, first]
    simp only [List.append_assoc]
    rw [List.take_append_of_le_length reach, List.drop_append_of_le_length inside]
  | none =>
    rw [first, Option.none_or] at searched
    rw [Option.isSome_none, if_neg Bool.false_ne_true, replaceFirst, searched, replaceFirst]
    cases second : find old Q with
    | some j =>
      rw [Option.map_some]
      dsimp only
      rw [← List.length_append, Nat.add_assoc, List.take_length_add_append,
        List.drop_length_add_append]
      simp only [List.append_assoc]
    | none => rfl

end Beside

section Through
variable {p old new t : List α}

theorem window_split (new : List α) (present : old <:+: t) :
    ∃ u v, t = u ++ ([] ++ old ++ []) ++ v ∧
      replaceFirst old new t = u ++ ([] ++ new ++ []) ++ v := by
  obtain ⟨u, v, split, edited⟩ := replaceFirst_split new present
  refine ⟨u, v, ?_, ?_⟩
  · rwa [List.nil_append, List.append_nil]
  · rwa [List.nil_append, List.append_nil]

theorem absent_replaceFirst (apart : clear false p [] new [] = true) (absent : ¬ p <:+: t) :
    ¬ p <:+: replaceFirst old new t := by
  rcases replaceFirst_cases old new t with same | present
  · rwa [same]
  · obtain ⟨u, v, split, edited⟩ := window_split new present
    rw [edited]
    rw [split] at absent
    exact absent_edit (clear_spec apart) absent

theorem once_replaceFirst (apart : clear false p [] old [] = true)
    (apart' : clear false p [] new [] = true) (nonempty : p ≠ []) (once : Once p t) :
    Once p (replaceFirst old new t) := by
  rcases replaceFirst_cases old new t with same | present
  · rwa [same]
  · obtain ⟨u, v, split, edited⟩ := window_split new present
    rw [edited]
    rw [split] at once
    exact once_edit (clear_spec apart) (clear_spec apart') nonempty once

theorem twice_replaceFirst (new : List α) (apart : clear false p [] old [] = true)
    (nonempty : p ≠ []) (twice : Twice p t) : Twice p (replaceFirst old new t) := by
  rcases replaceFirst_cases old new t with same | present
  · rwa [same]
  · obtain ⟨u, v, split, edited⟩ := window_split new present
    rw [edited]
    rw [split] at twice
    exact twice_edit (clear_spec apart) nonempty twice

theorem count_replaceFirst (apart : clear false p [] old [] = true)
    (apart' : clear false p [] new [] = true) (nonempty : p ≠ []) :
    count p (replaceFirst old new t) = count p t := by
  rcases replaceFirst_cases old new t with same | present
  · rw [same]
  · obtain ⟨u, v, split, edited⟩ := window_split new present
    rw [edited, split]
    exact count_edit nonempty (clear_spec apart') (clear_spec apart)

end Through

end TextEdit
