import Mathlib.Data.List.Chain
import Mathlib.Data.List.Nodup
import Mathlib.Logic.Function.Basic

/-!
Doubly linked lists on a heap of cells. A heap represents a list of cells when neighbours
point at each other and no cell comes twice; walking the forward links lists the cells, and
unlinking an inner cell represents the list without it.
-/
namespace LinkedList
variable {A : Type*}

structure Links (A : Type*) where
  prev : Option A
  next : Option A

def Adjacent (heap : A → Links A) (a b : A) : Prop :=
  (heap a).next = some b ∧ (heap b).prev = some a

structure Linked (heap : A → Links A) (cells : List A) : Prop where
  nodup : cells.Nodup
  chain : cells.IsChain (Adjacent heap)

variable [DecidableEq A]

/-- The cells from a link on up to `tail`; `none` when a link is missing or fuel runs out. -/
def walk (heap : A → Links A) (tail : A) : Nat → Option A → Option (List A)
  | 0, _ => none
  | _ + 1, none => none
  | fuel + 1, some a =>
    if a = tail then some [] else (walk heap tail fuel (heap a).next).map (a :: ·)

/-- Takes a cell out and clears its own links; `none` when a link is missing. -/
def unlink (heap : A → Links A) (a : A) : Option (A → Links A) :=
  match (heap a).prev, (heap a).next with
  | some p, some n =>
    let first := Function.update heap p { heap p with next := some n }
    let second := Function.update first n { first n with prev := some p }
    some (Function.update second a ⟨none, none⟩)
  | _, _ => none

def unlinkAll (heap : A → Links A) (cells : List A) : Option (A → Links A) :=
  cells.foldlM unlink heap

omit [DecidableEq A] in
theorem head_link {heap : A → Links A} {head tail : A} {cells : List A}
    (linked : Linked heap (head :: (cells ++ [tail]))) :
    (heap head).next = (cells ++ [tail]).head? := by
  have chain := linked.chain
  cases cells with
  | nil => exact (List.isChain_cons_cons.mp chain).1.1
  | cons a rest => exact (List.isChain_cons_cons.mp chain).1.1

theorem walk_cells {heap : A → Links A} {tail : A} {cells : List A}
    (linked : Linked heap (cells ++ [tail])) {fuel : Nat} (enough : cells.length < fuel) :
    walk heap tail fuel (cells ++ [tail]).head? = some cells := by
  induction cells generalizing fuel with
  | nil =>
    obtain ⟨fuel, rfl⟩ := Nat.exists_eq_add_of_lt enough
    simp [walk]
  | cons a rest ih =>
    obtain ⟨spare, rfl⟩ := Nat.exists_eq_add_of_lt enough
    have nodup := linked.nodup
    rw [List.cons_append, List.nodup_cons] at nodup
    have different : a ≠ tail := by
      intro same
      exact nodup.1 (by simp [same])
    have later : Linked heap (rest ++ [tail]) := ⟨nodup.2, List.IsChain.tail linked.chain⟩
    have next := head_link linked
    rw [List.cons_append, List.head?_cons, walk, if_neg different, next,
      ih later (by simp only [List.length_cons]; omega)]
    rfl

omit [DecidableEq A] in
theorem chain_of_same {heap heap' : A → Links A} {cells : List A}
    (chain : cells.IsChain (Adjacent heap))
    (next : ∀ a ∈ cells.dropLast, (heap' a).next = (heap a).next)
    (prev : ∀ b ∈ cells.tail, (heap' b).prev = (heap b).prev) :
    cells.IsChain (Adjacent heap') := by
  induction cells with
  | nil => exact List.isChain_nil
  | cons a rest ih =>
    cases rest with
    | nil => exact List.isChain_singleton a
    | cons b later =>
      obtain ⟨pair, tail⟩ := List.isChain_cons_cons.mp chain
      refine List.isChain_cons_cons.mpr ⟨⟨?_, ?_⟩, ?_⟩
      · rw [next a (by simp)]
        exact pair.1
      · rw [prev b (by simp)]
        exact pair.2
      · apply ih tail
        · intro c member
          exact next c (List.mem_cons_of_mem a member)
        · intro c member
          exact prev c (List.mem_cons_of_mem b member)

theorem unlink_inner {heap : A → Links A} {before after : List A} {p a n : A}
    (linked : Linked heap (before ++ p :: a :: n :: after)) :
    ∃ heap', unlink heap a = some heap' ∧ Linked heap' (before ++ p :: n :: after) ∧
      ∀ c, c ∉ before ++ p :: a :: n :: after → heap' c = heap c := by
  have nodup := linked.nodup
  have chain := linked.chain
  rw [← List.singleton_append, ← List.append_assoc, List.isChain_append] at chain
  obtain ⟨front, back, joint⟩ := chain
  obtain ⟨own, rest⟩ := List.isChain_cons_cons.mp back
  have left : Adjacent heap p a := joint p (by simp) a (by simp)
  simp only [List.nodup_append, List.nodup_cons, List.mem_cons, not_or, ne_eq] at nodup
  obtain ⟨_, ⟨⟨pa, pn, pAfter⟩, ⟨an, aAfter⟩, nAfter, _⟩, apart⟩ := nodup
  have fresh : ∀ c ∈ before, c ≠ p ∧ c ≠ a ∧ c ≠ n := by
    intro c member
    refine ⟨fun same => ?_, fun same => ?_, fun same => ?_⟩
    · exact apart c member p (Or.inl rfl) same
    · exact apart c member a (Or.inr (Or.inl rfl)) same
    · exact apart c member n (Or.inr (Or.inr (Or.inl rfl))) same
  have beyond : ∀ c ∈ after, c ≠ p ∧ c ≠ a ∧ c ≠ n := by
    intro c member
    refine ⟨?_, ?_, ?_⟩
    · rintro rfl
      exact pAfter member
    · rintro rfl
      exact aAfter member
    · rintro rfl
      exact nAfter member
  have result : unlink heap a = some (Function.update (Function.update
      (Function.update heap p { heap p with next := some n }) n
        { Function.update heap p { heap p with next := some n } n with prev := some p }) a
          ⟨none, none⟩) := by
    rw [unlink, left.2, own.1]
  refine ⟨_, result, ⟨?_, ?_⟩, ?_⟩
  · have kept : (before ++ p :: n :: after).Sublist (before ++ p :: a :: n :: after) :=
      List.Sublist.append_left ((List.sublist_cons_self a _).cons_cons p) before
    exact linked.nodup.sublist kept
  · rw [← List.singleton_append, ← List.append_assoc, List.isChain_append]
    refine ⟨?_, ?_, ?_⟩
    · apply chain_of_same front
      · intro c member
        rw [List.dropLast_concat] at member
        obtain ⟨cp, ca, cn⟩ := fresh c member
        simp [cp, ca, cn]
      · intro c member
        rcases List.mem_append.mp (List.mem_of_mem_tail member) with early | last
        · obtain ⟨cp, ca, cn⟩ := fresh c early
          simp [cp, ca, cn]
        · obtain rfl := List.mem_singleton.mp last
          simp [pa, pn]
    · apply chain_of_same rest
      · intro c member
        rcases List.mem_cons.mp ((List.dropLast_subset _) member) with rfl | late
        · simp [Ne.symm an, Ne.symm pn]
        · obtain ⟨cp, ca, cn⟩ := beyond c late
          simp [cp, ca, cn]
      · intro c member
        obtain ⟨cp, ca, cn⟩ := beyond c member
        simp [cp, ca, cn]
    · intro x last y first
      simp only [List.getLast?_append, List.getLast?_singleton, Option.some_or,
        Option.mem_def, Option.some.injEq, List.head?_cons] at last first
      subst last first
      simp [Adjacent, pa, pn, Ne.symm an]
  · intro c outside
    simp only [List.mem_append, List.mem_cons, not_or] at outside
    obtain ⟨_, cp, ca, cn, _⟩ := outside
    simp [cp, ca, cn]

theorem unlink_cell {heap : A → Links A} {head tail a : A} {cells : List A}
    (linked : Linked heap (head :: (cells ++ [tail]))) (member : a ∈ cells) :
    ∃ heap', unlink heap a = some heap' ∧
      Linked heap' (head :: (cells.filter (· ≠ a) ++ [tail])) ∧
      ∀ c, c ∉ head :: (cells ++ [tail]) → heap' c = heap c := by
  obtain ⟨xs, ys, rfl⟩ := List.append_of_mem member
  have nodup := linked.nodup
  simp only [List.nodup_cons, List.nodup_append, List.mem_append, List.mem_cons, not_or] at nodup
  obtain ⟨_, ⟨_, ⟨aAfter, _⟩, apart⟩, _⟩ := nodup
  have without : (xs ++ a :: ys).filter (· ≠ a) = xs ++ ys := by
    have early : xs.filter (· ≠ a) = xs := by
      rw [List.filter_eq_self]
      intro c inside
      simpa using apart c inside a (Or.inl rfl)
    have late : ys.filter (· ≠ a) = ys := by
      rw [List.filter_eq_self]
      intro c inside
      have different : c ≠ a := by
        rintro rfl
        exact aAfter inside
      simpa using different
    rw [List.filter_append, early, List.filter_cons_of_neg (by simp), late]
  -- the cell has a neighbour on either side, an end of the list if need be
  obtain ⟨before, p, front⟩ : ∃ before p, head :: xs = before ++ [p] :=
    ⟨_, _, (List.dropLast_append_getLast (List.cons_ne_nil head xs)).symm⟩
  obtain ⟨n, after, back⟩ : ∃ n after, ys ++ [tail] = n :: after :=
    List.exists_cons_of_ne_nil (by simp)
  have shape : ∀ mid : List A, head :: (xs ++ (mid ++ ys) ++ [tail]) =
      before ++ p :: (mid ++ n :: after) := by
    intro mid
    calc
      _ = (head :: xs) ++ (mid ++ (ys ++ [tail])) := by simp
      _ = _ := by rw [front, back]; simp
  have whole := shape [a]
  have short := shape []
  simp only [List.singleton_append, List.nil_append] at whole short
  rw [without, short]
  rw [whole] at linked ⊢
  exact unlink_inner linked

theorem unlinkAll_cells {heap : A → Links A} {head tail : A} {cells gone : List A}
    (linked : Linked heap (head :: (cells ++ [tail]))) (distinct : gone.Nodup)
    (inside : ∀ a ∈ gone, a ∈ cells) :
    ∃ heap', unlinkAll heap gone = some heap' ∧
      Linked heap' (head :: (cells.filter (· ∉ gone) ++ [tail])) ∧
      ∀ c, c ∉ head :: (cells ++ [tail]) → heap' c = heap c := by
  induction gone generalizing heap cells with
  | nil =>
    refine ⟨heap, rfl, ?_, fun c _ => rfl⟩
    simpa using linked
  | cons a rest ih =>
    obtain ⟨fresh, tail⟩ := List.nodup_cons.mp distinct
    obtain ⟨middle, first, shorter, still⟩ := unlink_cell linked (inside a List.mem_cons_self)
    have remain : ∀ b ∈ rest, b ∈ cells.filter (· ≠ a) := by
      intro b member
      have different : b ≠ a := by
        rintro rfl
        exact fresh member
      exact List.mem_filter.mpr ⟨inside b (List.mem_cons_of_mem a member), by simpa using different⟩
    obtain ⟨last, run, represented, frame⟩ := ih shorter tail remain
    refine ⟨last, ?_, ?_, ?_⟩
    · have step : unlinkAll heap (a :: rest) = (unlink heap a).bind (unlinkAll · rest) := rfl
      rw [step, first, Option.bind_some, run]
    · have both : (cells.filter (· ≠ a)).filter (· ∉ rest) = cells.filter (· ∉ a :: rest) := by
        rw [List.filter_filter]
        apply List.filter_congr
        intro c _
        by_cases same : c = a <;> simp [same]
      rwa [both] at represented
    · intro c outside
      rw [frame c ?_, still c outside]
      intro member
      apply outside
      rcases List.mem_cons.mp member with rfl | later
      · exact List.mem_cons_self
      · rcases List.mem_append.mp later with kept | last
        · exact List.mem_cons_of_mem _ (List.mem_append_left _ (List.mem_filter.mp kept).1)
        · exact List.mem_cons_of_mem _ (List.mem_append_right _ last)

end LinkedList
