import Mathlib.Logic.Equiv.Basic
import Mathlib.Order.Lattice
import Mathlib.Data.List.Nodup

/-!
A binary heap in a list. An item sinks to a leaf along the smaller children and rises again, an
added item rises from the end; only the heap order and the contents are promised, not the list.
-/
namespace HeapQueue
variable {α : Type*}

def parent (i : Nat) : Nat := (i - 1) / 2

/-- Two items exchanged; nothing happens when one of the places is not there. -/
def exchange (h : List α) (i j : Nat) : List α :=
  match h[i]?, h[j]? with
  | some a, some b => (h.set i b).set j a
  | _, _ => h

theorem exchange_perm (h : List α) (i j : Nat) : (exchange h i j).Perm h := by
  unfold exchange
  split
  · rename_i a b atI atJ
    obtain ⟨inI, rfl⟩ := List.getElem?_eq_some_iff.mp atI
    obtain ⟨inJ, rfl⟩ := List.getElem?_eq_some_iff.mp atJ
    exact List.set_set_perm inI inJ
  · exact List.Perm.refl h

@[simp] theorem length_exchange (h : List α) (i j : Nat) :
    (exchange h i j).length = h.length := (exchange_perm h i j).length_eq

theorem getElem?_exchange {h : List α} {i j : Nat} (inI : i < h.length) (inJ : j < h.length)
    (k : Nat) : (exchange h i j)[k]? = h[Equiv.swap i j k]? := by
  unfold exchange
  rw [List.getElem?_eq_getElem inI, List.getElem?_eq_getElem inJ]
  simp only [List.getElem?_set, List.length_set, Equiv.swap_apply_def]
  by_cases atJ : k = j
  · subst atJ
    by_cases same : k = i
    · subst same
      simp [inI]
    · simp [inI, inJ, same]
  · by_cases atI : k = i
    · subst atI
      simp [Ne.symm atJ, inI, inJ]
    · simp [Ne.symm atJ, Ne.symm atI, atJ, atI]

section Operations
variable [LT α] [DecidableLT α]

def less (h : List α) (i j : Nat) : Bool :=
  match h[i]?, h[j]? with
  | some a, some b => a < b
  | _, _ => false

def siftDown : Nat → List α → Nat → List α
  | 0, h, _ => h
  | fuel + 1, h, pos =>
    if 0 < pos ∧ less h pos (parent pos) then
      siftDown fuel (exchange h pos (parent pos)) (parent pos)
    else h

/-- The child `_siftup` follows: the right one unless the left one is smaller. -/
def smallerChild (h : List α) (pos : Nat) : Nat :=
  if 2 * pos + 2 < h.length ∧ ¬ less h (2 * pos + 1) (2 * pos + 2) then 2 * pos + 2
  else 2 * pos + 1

/-- `_siftup`: down to a leaf, then back towards the root. -/
def siftUp : Nat → List α → Nat → List α
  | 0, h, _ => h
  | fuel + 1, h, pos =>
    if 2 * pos + 1 < h.length then
      siftUp fuel (exchange h pos (smallerChild h pos)) (smallerChild h pos)
    else siftDown h.length h pos

def heappush (h : List α) (item : α) : List α :=
  siftDown h.length (h ++ [item]) h.length

/-- `heappop`: the last item takes the root's place and sinks. -/
def heappop (h : List α) : List α :=
  match h.dropLast, h.getLast? with
  | _ :: rest, some last => siftUp (rest.length + 1) (last :: rest) 0
  | _, _ => []

end Operations

variable [LinearOrder α]

def Below (h : List α) (i j : Nat) : Prop := ∀ a ∈ h[i]?, ∀ b ∈ h[j]?, a ≤ b

def Ordered (h : List α) : Prop := ∀ i, 0 < i → Below h (parent i) i

/-- Only the edge into `pos` may be wrong. -/
structure Rising (h : List α) (pos : Nat) : Prop where
  others : ∀ i, 0 < i → i ≠ pos → Below h (parent i) i
  across : 0 < pos → ∀ i, 0 < i → parent i = pos → Below h (parent pos) i

/-- Only the edges out of `pos` may be wrong. -/
structure Sinking (h : List α) (pos : Nat) : Prop where
  others : ∀ i, 0 < i → parent i ≠ pos → i ≠ pos → Below h (parent i) i
  across : 0 < pos → ∀ i, 0 < i → parent i = pos → Below h (parent pos) i

theorem parent_lt {i : Nat} (positive : 0 < i) : parent i < i := by
  unfold parent
  omega

theorem child_iff {i pos : Nat} (positive : 0 < i) :
    parent i = pos ↔ i = 2 * pos + 1 ∨ i = 2 * pos + 2 := by
  unfold parent
  omega

theorem below_exchange {h : List α} {i j : Nat} (inI : i < h.length) (inJ : j < h.length)
    (p q : Nat) : Below (exchange h i j) p q ↔ Below h (Equiv.swap i j p) (Equiv.swap i j q) := by
  unfold Below
  rw [getElem?_exchange inI inJ, getElem?_exchange inI inJ]

theorem Below.trans {h : List α} {i j k : Nat} (inJ : j < h.length) (first : Below h i j)
    (second : Below h j k) : Below h i k := by
  intro a atI c atK
  have atJ := List.getElem?_eq_getElem inJ
  exact le_trans (first a atI h[j] atJ) (second h[j] atJ c atK)

theorem below_of_not_less {h : List α} {i j : Nat} (not : ¬ less h j i) : Below h i j := by
  intro a atI b atJ
  unfold less at not
  rw [Option.mem_def.mp atI, Option.mem_def.mp atJ] at not
  simpa using not

theorem below_of_less {h : List α} {i j : Nat} (smaller : less h i j) : Below h i j := by
  intro a atI b atJ
  unfold less at smaller
  rw [Option.mem_def.mp atI, Option.mem_def.mp atJ] at smaller
  exact le_of_lt (by simpa using smaller)

theorem below_outside {h : List α} {i j : Nat} (outside : h.length ≤ j) : Below h i j := by
  intro a _ b atJ
  rw [List.getElem?_eq_none outside] at atJ
  cases atJ

theorem siftDown_perm (fuel : Nat) : ∀ (h : List α) (pos : Nat),
    (siftDown fuel h pos).Perm h := by
  induction fuel with
  | zero =>
    intro h pos
    exact List.Perm.refl h
  | succ fuel ih =>
    intro h pos
    unfold siftDown
    split
    · exact (ih _ _).trans (exchange_perm h pos (parent pos))
    · exact List.Perm.refl h

theorem siftUp_perm (fuel : Nat) : ∀ (h : List α) (pos : Nat), (siftUp fuel h pos).Perm h := by
  induction fuel with
  | zero =>
    intro h pos
    exact List.Perm.refl h
  | succ fuel ih =>
    intro h pos
    unfold siftUp
    split
    · exact (ih _ _).trans (exchange_perm h pos _)
    · exact siftDown_perm _ h pos

/-- One exchange towards the root moves the only wrong edge up. -/
theorem Rising.step {h : List α} {pos : Nat} (positive : 0 < pos) (inside : pos < h.length)
    (smaller : less h pos (parent pos)) (rising : Rising h pos) :
    Rising (exchange h pos (parent pos)) (parent pos) := by
  have up := parent_lt positive
  have upInside : parent pos < h.length := by omega
  have light := below_of_less smaller
  constructor
  · intro i iPositive notUp
    rw [below_exchange inside upInside, Equiv.swap_apply_def pos _ i]
    by_cases here : i = pos
    · rw [if_pos here, here, Equiv.swap_apply_right]
      exact light
    · rw [if_neg here, if_neg notUp]
      by_cases child : parent i = pos
      · rw [child, Equiv.swap_apply_left]
        exact rising.across positive i iPositive child
      · by_cases sibling : parent i = parent pos
        · rw [sibling, Equiv.swap_apply_right]
          have beside := rising.others i iPositive here
          rw [sibling] at beside
          exact light.trans upInside beside
        · rw [Equiv.swap_apply_of_ne_of_ne child sibling]
          exact rising.others i iPositive here
  · intro upPositive i iPositive child
    have top := parent_lt upPositive
    have above := rising.others (parent pos) upPositive (Nat.ne_of_lt up)
    rw [below_exchange inside upInside, Equiv.swap_apply_of_ne_of_ne (by omega) (by omega)]
    by_cases here : i = pos
    · rw [here, Equiv.swap_apply_left]
      exact above
    · have notUp : i ≠ parent pos := by
        intro same
        have less' := parent_lt iPositive
        omega
      rw [Equiv.swap_apply_of_ne_of_ne here notUp]
      have beside := rising.others i iPositive here
      rw [child] at beside
      exact above.trans upInside beside

theorem siftDown_ordered (fuel : Nat) : ∀ (h : List α) (pos : Nat), pos ≤ fuel →
    pos < h.length → Rising h pos → Ordered (siftDown fuel h pos) := by
  have stop : ∀ (h : List α) (pos : Nat), ¬ (0 < pos ∧ less h pos (parent pos) = true) →
      Rising h pos → Ordered h := by
    intro h pos done rising i positive
    by_cases here : i = pos
    · subst here
      have light : ¬ less h i (parent i) := fun smaller => done ⟨positive, smaller⟩
      exact below_of_not_less light
    · exact rising.others i positive here
  induction fuel with
  | zero =>
    intro h pos bound _ rising
    exact stop h pos (by omega) rising
  | succ fuel ih =>
    intro h pos bound inside rising
    unfold siftDown
    split
    · rename_i moves
      have up := parent_lt moves.1
      apply ih
      · omega
      · rw [length_exchange]
        omega
      · exact rising.step moves.1 inside moves.2
    · rename_i done
      exact stop h pos done rising

structure ChosenChild (h : List α) (pos c : Nat) : Prop where
  inside : c < h.length
  after : pos < c
  childOf : parent c = pos
  least : ∀ i, 0 < i → parent i = pos → Below h c i

theorem smallerChild_spec {h : List α} {pos : Nat} (inside : 2 * pos + 1 < h.length) :
    ChosenChild h pos (smallerChild h pos) := by
  have self (i : Nat) : Below h i i := by
    intro a first b second
    rw [Option.mem_def.mp first] at second
    cases second
    exact le_refl a
  unfold smallerChild
  split
  · rename_i right
    constructor
    · exact right.1
    · omega
    · exact (child_iff (by omega)).mpr (Or.inr rfl)
    · intro i positive child
      rcases (child_iff positive).mp child with rfl | rfl
      · exact below_of_not_less right.2
      · exact self _
  · rename_i left
    constructor
    · exact inside
    · omega
    · exact (child_iff (by omega)).mpr (Or.inl rfl)
    · intro i positive child
      rcases (child_iff positive).mp child with rfl | rfl
      · exact self _
      · by_cases there : 2 * pos + 2 < h.length
        · exact below_of_less (by simpa [there] using left)
        · exact below_outside (Nat.le_of_not_lt there)

/-- One exchange with the smaller child moves the wrong edges down. -/
theorem Sinking.step {h : List α} {pos c : Nat} (chosen : ChosenChild h pos c)
    (sinking : Sinking h pos) : Sinking (exchange h pos c) c := by
  obtain ⟨inside, after, childOf, least⟩ := chosen
  have posInside : pos < h.length := by omega
  constructor
  · intro i positive notBelow notHere
    rw [below_exchange posInside inside]
    by_cases moved : i = pos
    · subst moved
      have up := parent_lt positive
      rw [Equiv.swap_apply_left, Equiv.swap_apply_of_ne_of_ne (by omega) (by omega)]
      exact sinking.across positive c (by omega) childOf
    · rw [Equiv.swap_apply_of_ne_of_ne moved notHere]
      by_cases sibling : parent i = pos
      · rw [sibling, Equiv.swap_apply_left]
        exact least i positive sibling
      · rw [Equiv.swap_apply_of_ne_of_ne sibling notBelow]
        exact sinking.others i positive sibling moved
  · intro _ i positive child
    have up := parent_lt positive
    rw [below_exchange posInside inside, childOf, Equiv.swap_apply_left,
      Equiv.swap_apply_of_ne_of_ne (by omega) (by omega), ← child]
    exact sinking.others i positive (by omega) (by omega)

theorem siftUp_ordered (fuel : Nat) : ∀ (h : List α) (pos : Nat), h.length ≤ pos + fuel →
    pos < h.length → Sinking h pos → Ordered (siftUp fuel h pos) := by
  induction fuel with
  | zero =>
    intro h pos bound inside _
    omega
  | succ fuel ih =>
    intro h pos bound inside sinking
    unfold siftUp
    split
    · rename_i more
      have chosen := smallerChild_spec more
      have after := chosen.after
      apply ih
      · rw [length_exchange]
        omega
      · rw [length_exchange]
        exact chosen.inside
      · exact sinking.step chosen
    · rename_i leaf
      -- without children the edges out of `pos` hold vacuously
      have childless : ∀ i, 0 < i → parent i = pos → h.length ≤ i := by
        intro i positive child
        rcases (child_iff positive).mp child with rfl | rfl <;> omega
      apply siftDown_ordered _ _ _ (Nat.le_of_lt inside) inside
      constructor
      · intro i positive notHere
        by_cases child : parent i = pos
        · exact below_outside (childless i positive child)
        · exact sinking.others i positive child notHere
      · intro _ i positive child
        exact below_outside (childless i positive child)

theorem heappush_perm (h : List α) (item : α) : (heappush h item).Perm (item :: h) :=
  (siftDown_perm _ _ _).trans (List.perm_append_singleton item h)

theorem heappush_ordered {h : List α} (ordered : Ordered h) (item : α) :
    Ordered (heappush h item) := by
  have old (i j : Nat) (inside : j < h.length) (below : i ≤ j) :
      Below (h ++ [item]) i j ↔ Below h i j := by
    unfold Below
    rw [List.getElem?_append_left inside, List.getElem?_append_left (by omega)]
  apply siftDown_ordered
  · exact Nat.le_refl _
  · simp
  · constructor
    · intro i positive notLast
      have up := parent_lt positive
      by_cases inside : i < h.length
      · exact (old _ _ inside (by omega)).mpr (ordered i positive)
      · exact below_outside (by simp; omega)
    · intro positive i iPositive child
      have up := parent_lt iPositive
      exact below_outside (by simp; omega)

theorem heappop_perm (root : α) (h : List α) : (heappop (root :: h)).Perm h := by
  unfold heappop
  cases h with
  | nil => exact List.Perm.refl []
  | cons second rest =>
    have split : (second :: rest).getLast? = some ((second :: rest).getLast (by simp)) :=
      List.getLast?_eq_some_getLast (by simp)
    rw [List.dropLast_cons_of_ne_nil (by simp), List.getLast?_cons_cons, split]
    refine (siftUp_perm _ _ _).trans ?_
    refine (List.perm_append_singleton _ _).symm.trans ?_
    rw [List.dropLast_append_getLast]

theorem heappop_ordered {root : α} {h : List α} (ordered : Ordered (root :: h)) :
    Ordered (heappop (root :: h)) := by
  unfold heappop
  cases h with
  | nil =>
    intro i _
    exact below_outside (Nat.zero_le i)
  | cons second rest =>
    have split : (second :: rest).getLast? = some ((second :: rest).getLast (by simp)) :=
      List.getLast?_eq_some_getLast (by simp)
    rw [List.dropLast_cons_of_ne_nil (by simp), List.getLast?_cons_cons, split]
    apply siftUp_ordered
    · simp
    · simp
    · constructor
      · intro i positive notRoot _
        have up := parent_lt positive
        obtain ⟨p, here⟩ : ∃ p, parent i = p + 1 := ⟨parent i - 1, by omega⟩
        obtain ⟨k, there⟩ : ∃ k, i = k + 1 := ⟨i - 1, by omega⟩
        have kept := ordered i positive
        unfold Below at kept ⊢
        rw [here, there, List.getElem?_cons_succ, List.getElem?_cons_succ] at kept ⊢
        intro a atP b atK
        rw [Option.mem_def, List.getElem?_dropLast] at atP atK
        split at atP
        · split at atK
          · exact kept a atP b atK
          · cases atK
        · cases atP
      · intro positive
        exact absurd positive (Nat.lt_irrefl 0)

theorem root_below {h : List α} (ordered : Ordered h) : ∀ i, Below h 0 i := by
  intro i
  induction i using Nat.strongRecOn with
  | ind i ih =>
    by_cases positive : 0 < i
    · have up := parent_lt positive
      by_cases inside : i < h.length
      · exact (ih (parent i) up).trans (by omega) (ordered i positive)
      · exact below_outside (Nat.le_of_not_lt inside)
    · obtain rfl : i = 0 := by omega
      intro a first b second
      rw [Option.mem_def.mp first] at second
      cases second
      exact le_refl a

theorem root_least {root : α} {h : List α} (ordered : Ordered (root :: h)) {x : α}
    (member : x ∈ root :: h) : root ≤ x := by
  obtain ⟨i, atI⟩ := List.mem_iff_getElem?.mp member
  exact root_below ordered i root rfl x atI

theorem ordered_nil : Ordered ([] : List α) := by
  intro i _
  exact below_outside (Nat.zero_le i)

end HeapQueue
