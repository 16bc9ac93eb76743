import Glm53Overlay.Library.TextEdit
import Glm53Overlay.Library.CommutingRuns

/-!
Guarded replacements. A step replaces a pattern that it counts once, unless its guard is in the
text. Two steps whose patterns do not touch each other's edits pass each other.
-/
namespace TextSteps
open TextSearch TextEdit CommutingRuns
variable {α : Type*} [DecidableEq α]

structure Step (α : Type*) where
  guard : Option (List α)
  old : List α
  new : List α

def Step.skips (s : Step α) (t : List α) : Bool := s.guard.any fun p => (find p t).isSome

/-- The step's text, or how often it found its pattern. -/
def Step.run (s : Step α) (t : List α) : Except Nat (List α) :=
  if s.skips t then .ok t
  else if count s.old t = 1 then .ok (replaceFirst s.old s.new t)
  else .error (count s.old t)

def Step.sides (s : Step α) (skipped : Bool) (P Q : List α) : Except Nat (List α × List α) :=
  if skipped then .ok (P, Q)
  else if count s.old P + count s.old Q = 1 then .ok (editSides s.old s.new P Q)
  else .error (count s.old P + count s.old Q)

section Run
variable {s : Step α} {t out : List α}

theorem run_skips (skipped : s.skips t = true) : s.run t = .ok t := by
  rw [Step.run, if_pos skipped]

theorem run_edits (fresh : s.skips t = false) (counted : count s.old t = 1) :
    s.run t = .ok (replaceFirst s.old s.new t) := by
  rw [Step.run, if_neg (by simp [fresh]), if_pos counted]

theorem run_cases (done : s.run t = .ok out) :
    (s.skips t = true ∧ out = t) ∨
      (s.skips t = false ∧ count s.old t = 1 ∧ out = replaceFirst s.old s.new t) := by
  rw [Step.run] at done
  split at done
  · rename_i skipped
    cases done
    exact Or.inl ⟨skipped, rfl⟩
  · rename_i fresh
    split at done
    · rename_i counted
      cases done
      exact Or.inr ⟨by simpa using fresh, counted, rfl⟩
    · cases done

theorem skips_congr {t' : List α} (same : ∀ p ∈ s.guard, (p <:+: t ↔ p <:+: t')) :
    s.skips t = s.skips t' := by
  rw [Step.skips, Step.skips]
  cases listed : s.guard with
  | none => rfl
  | some p =>
    have one := same p listed
    rw [← find_isSome_iff, ← find_isSome_iff, ← Bool.eq_iff_iff] at one
    exact one

theorem run_beside {P m Q : List α} (nonempty : s.old ≠ []) (beside : Beside s.old P m Q) :
    s.run (P ++ m ++ Q) =
      (s.sides (s.skips (P ++ m ++ Q)) P Q).map fun sides => sides.1 ++ m ++ sides.2 := by
  rw [Step.run, Step.sides, count_beside nonempty beside, replaceFirst_beside s.new nonempty beside]
  split
  · rfl
  · split
    · rfl
    · rfl

end Run

theorem infix_beside {p P m Q : List α} (nonempty : p ≠ []) (beside : Beside p P m Q) :
    p <:+: P ++ m ++ Q ↔ p <:+: P ∨ p <:+: Q := by
  rw [← count_pos_iff nonempty, count_beside nonempty beside, ← count_pos_iff nonempty,
    ← count_pos_iff nonempty]
  omega

theorem infix_exchange {p P m m' Q : List α} (nonempty : p ≠ []) (beside : Beside p P m Q)
    (beside' : Beside p P m' Q) : p <:+: P ++ m ++ Q ↔ p <:+: P ++ m' ++ Q := by
  rw [infix_beside nonempty beside, infix_beside nonempty beside']

/-- A step's edit makes no difference to a pattern's being there. -/
def Ignores (J : List α → Prop) (p : List α) (s : Step α) : Prop :=
  ∀ u v, J (u ++ s.old ++ v) → (p <:+: u ++ s.old ++ v ↔ p <:+: u ++ s.new ++ v)

/-- The first step's pattern is not touched by what the second takes away or puts in. -/
structure Untouched (J : List α → Prop) (x y : Step α) : Prop where
  taken : clear false x.old [] y.old [] = true
  put : clear false x.old [] y.new [] = true
  guarded : ∀ p ∈ x.guard, Ignores J p y

section Passing
variable {J : List α → Prop} {x y : Step α} {t out : List α}

theorem once_run {p : List α} (nonempty : p ≠ []) (taken : clear false p [] y.old [] = true)
    (put : clear false p [] y.new [] = true) (done : y.run t = .ok out) (once : Once p t) :
    Once p out := by
  rcases run_cases done with ⟨_, rfl⟩ | ⟨_, counted, rfl⟩
  · exact once
  · exact once_replaceFirst taken put nonempty once

theorem count_run {p : List α} (nonempty : p ≠ []) (taken : clear false p [] y.old [] = true)
    (put : clear false p [] y.new [] = true) (done : y.run t = .ok out) :
    count p out = count p t := by
  rcases run_cases done with ⟨_, rfl⟩ | ⟨_, counted, rfl⟩
  · rfl
  · exact count_replaceFirst taken put nonempty

def Steady (J : List α → Prop) (p : List α) (f : List α → Except Nat (List α)) : Prop :=
  ∀ t out, J t → f t = .ok out → count p out = count p t

theorem steady_of_clear {p : List α} (nonempty : p ≠ []) (taken : clear false p [] y.old [] = true)
    (put : clear false p [] y.new [] = true) : Steady J p y.run :=
  fun _ _ _ done => count_run nonempty taken put done

theorem steady_runAll {p : List α} {fs : List (List α → Except Nat (List α))}
    (steady : ∀ f ∈ fs, Steady J p f) (kept : ∀ f ∈ fs, Keeps J f) : Steady J p (runAll fs) := by
  induction fs with
  | nil =>
    intro t out _ done
    cases done
    rfl
  | cons f fs ih =>
    intro t out here done
    obtain ⟨middle, first, rest⟩ := runAll_cons.mp done
    have next := kept f List.mem_cons_self t middle here first
    have later := ih (fun g member => steady g (List.mem_cons_of_mem _ member))
      (fun g member => kept g (List.mem_cons_of_mem _ member)) middle out next rest
    rw [later, steady f List.mem_cons_self t middle here first]

theorem ignores_of_window {p : List α} {w : Window α} (nonempty : p ≠ []) (old : w.old = y.old)
    (new : w.new = y.new) (taken : clear false p w.before w.middle w.behind = true)
    (put : clear false p w.before w.middle' w.behind = true) : Ignores J p y := by
  intro u v _
  rw [← old, ← new, ← count_pos_iff nonempty, ← count_pos_iff nonempty, Window.old, Window.new,
    count_edit nonempty (clear_spec taken) (clear_spec put)]

theorem infix_run {p : List α} (ignores : Ignores J p y) (here : J t) (done : y.run t = .ok out) :
    p <:+: out ↔ p <:+: t := by
  rcases run_cases done with ⟨_, rfl⟩ | ⟨_, counted, rfl⟩
  · rfl
  · obtain ⟨u, v, split, edited⟩ := replaceFirst_of_count y.new counted
    subst split
    rw [edited]
    exact (ignores u v here).symm

theorem skips_run (apart : ∀ p ∈ x.guard, Ignores J p y) (here : J t) (done : y.run t = .ok out) :
    x.skips out = x.skips t :=
  skips_congr fun p listed => infix_run (apart p listed) here done

/-- Two steps pass each other: the first one's pattern is not touched, its own edit leaves the
    other's pattern beside it, and neither edit makes a difference to the other's guard. -/
theorem passes_steps (nonempty : x.old ≠ [] ∧ y.old ≠ [])
    (own : clear true x.old [] x.old [] = true) (apart : Untouched J x y)
    (guarded : ∀ p ∈ y.guard, Ignores J p x)
    (beside : ∀ P Q, J (P ++ x.old ++ Q) → Beside y.old P x.old Q ∧ Beside y.old P x.new Q) :
    Passes J x.run y.run ∧ Passes J y.run x.run := by
  have sided : ∀ {P Q}, J (P ++ x.old ++ Q) → ∃ sides,
      y.run (P ++ x.old ++ Q) =
        (sides : Except Nat (List α × List α)).map (fun s => s.1 ++ x.old ++ s.2) ∧
      y.run (P ++ x.new ++ Q) = sides.map fun s => s.1 ++ x.new ++ s.2 := by
    intro P Q here
    obtain ⟨before, behind⟩ := beside P Q here
    refine ⟨_, run_beside nonempty.2 before, ?_⟩
    rw [run_beside nonempty.2 behind,
      skips_congr fun p listed => (guarded p listed P Q here).symm]
  constructor
  · intro a b c here first second
    rcases run_cases first with ⟨skipped, rfl⟩ | ⟨fresh, counted, rfl⟩
    · refine ⟨c, second, run_skips ?_⟩
      rw [skips_run apart.guarded here second, skipped]
    · have once := once_of_count (clear_spec own) nonempty.1 counted
      obtain ⟨P, Q, split, edited⟩ := replaceFirst_of_count x.new counted
      subst split
      obtain ⟨sides, before, behind⟩ := sided here
      rw [edited, behind] at second
      cases sides with
      | error e => cases second
      | ok pair =>
        cases second
        have kept := once_run nonempty.1 apart.taken apart.put before once
        refine ⟨_, before, ?_⟩
        rw [run_edits (by rw [skips_run apart.guarded here before, fresh])
          (count_of_once nonempty.1 kept), replaceFirst_of_once _ kept]
  · intro a b c here first second
    rcases run_cases second with ⟨skipped, rfl⟩ | ⟨fresh, counted, rfl⟩
    · refine ⟨a, run_skips ?_, first⟩
      rw [← skips_run apart.guarded here first, skipped]
    · rw [count_run nonempty.1 apart.taken apart.put first] at counted
      have once := once_of_count (clear_spec own) nonempty.1 counted
      obtain ⟨P, Q, split, edited⟩ := replaceFirst_of_count x.new counted
      subst split
      obtain ⟨sides, before, behind⟩ := sided here
      have kept := once_run nonempty.1 apart.taken apart.put first once
      have same := skips_run apart.guarded here first
      rw [before] at first
      cases sides with
      | error e => cases first
      | ok pair =>
        cases first
        refine ⟨P ++ x.new ++ Q, ?_, ?_⟩
        · rw [run_edits (same.symm.trans fresh) counted, edited]
        · rw [behind, replaceFirst_of_once _ kept]
          rfl

end Passing

/-- The pattern stands once, and `c` stands before it unless the text begins with it. -/
structure HeadsLine (c : α) (p t : List α) : Prop where
  once : Once p t
  starts : ∀ P Q, t = P ++ p ++ Q → P = [] ∨ [c] <:+ P

section Heads
variable {c : α} {p t P Q : List α}

omit [DecidableEq α] in
theorem headsLine_of (once : Once p (P ++ p ++ Q)) (starts : P = [] ∨ [c] <:+ P) :
    HeadsLine c p (P ++ p ++ Q) := by
  refine ⟨once, fun P' Q' split => ?_⟩
  obtain ⟨i, _, only⟩ := once
  have here := only _ (at_middle P p Q)
  have there : P'.length = i := by
    refine only _ ?_
    rw [split]
    exact at_middle P' p Q'
  simp only [List.append_assoc] at split
  have same := (List.append_inj split (here.trans there.symm)).1
  rwa [← same]

omit [DecidableEq α] in
theorem beside_head {q m b : List α} (apart : Clear false q [c] m b) (nonempty : q ≠ [])
    (starts : P = [] ∨ [c] <:+ P) : Beside q P m (b ++ Q) := by
  rcases starts with rfl | ⟨u, rfl⟩
  · intro k here
    have window : At q ([] ++ ([c] ++ m ++ b) ++ Q) (k + 1) := by
      simpa [At] using here
    have positive : 0 < q.length := List.length_pos_iff.mpr nonempty
    rcases apart [] Q (k + 1) window with left | right | ⟨wrong, _⟩
    · rw [List.length_nil, List.length_singleton] at left
      omega
    · rw [List.length_nil, List.length_singleton] at right
      right
      rw [List.length_nil]
      omega
    · cases wrong
  · exact beside_of_clear apart

theorem keeps_beside {y : Step α} (nonempty : p ≠ []) (oldNonempty : y.old ≠ [])
    (taken : clear false p [] y.old [] = true) (put : clear false p [] y.new [] = true)
    (apart : clear false y.old [] p [] = true) (ends : [c] <:+ y.new) :
    Keeps (HeadsLine c p) y.run := by
  intro a b here done
  have once := once_run nonempty taken put done here.once
  rcases run_cases done with ⟨_, rfl⟩ | ⟨_, counted, rfl⟩
  · exact here
  · obtain ⟨i, place, _⟩ := here.once
    have split := at_split place
    have starts := here.starts _ _ split
    have beside : Beside y.old (a.take i) p (a.drop (i + p.length)) := by
      have sides := beside_of_clear (u := a.take i) (v := a.drop (i + p.length)) (clear_spec apart)
      rwa [List.append_nil, List.nil_append] at sides
    rw [split, replaceFirst_beside y.new oldNonempty beside] at once ⊢
    refine headsLine_of once ?_
    unfold editSides
    split
    · rename_i inside
      rcases starts with none | ended
      · rw [none, find_isSome_iff] at inside
        exact absurd (List.infix_nil.mp inside) oldNonempty
      · exact Or.inr (ends_replaceFirst ended ends)
    · exact starts

theorem keeps_before {x : Step α} {H : List α} (nonempty : p ≠ []) (old : x.old = p)
    (new : x.new = H ++ p) (put : clear false p [c] H p = true) (ends : [c] <:+ H) :
    Keeps (HeadsLine c p) x.run := by
  intro a b here done
  rcases run_cases done with ⟨_, rfl⟩ | ⟨_, counted, rfl⟩
  · exact here
  · rw [old] at counted
    obtain ⟨P, Q, split, edited⟩ := replaceFirst_of_count x.new counted
    have beside := beside_head (Q := Q) (clear_spec put) nonempty (here.starts P Q split)
    obtain ⟨i, _, only⟩ := here.once
    rw [split] at only
    have first := only _ (at_middle P p Q)
    have once : Once p (P ++ H ++ (p ++ Q)) := by
      refine ⟨P.length + H.length, ?_, fun k found => ?_⟩
      · have middle := at_middle (P ++ H) p Q
        rwa [List.length_append, List.append_assoc (P ++ H)] at middle
      · rcases beside k found with left | right
        · -- an occurrence before the place would have stood there already
          have early : At p (P ++ p ++ Q) k := (at_first left).mpr ((at_first left).mp found)
          have same := only k early
          have positive : 0 < p.length := List.length_pos_iff.mpr nonempty
          omega
        · obtain ⟨j, rfl⟩ := Nat.exists_eq_add_of_le right
          have tail := (at_last j).mp found
          have late : At p (P ++ p ++ Q) (P.length + j) := by
            rw [At, ← List.drop_drop, List.append_assoc, List.drop_left]
            exact tail
          have same := only _ late
          omega
    have shape : P ++ H ++ (p ++ Q) = (P ++ H) ++ p ++ Q := by
      simp only [List.append_assoc]
    rw [old, edited, new, ← List.append_assoc P, List.append_assoc (P ++ H)]
    rw [shape] at once ⊢
    exact headsLine_of once (Or.inr (ends.trans (List.suffix_append P H)))

section Before
variable {x : Step α} {H q : List α} (nonempty : q ≠ []) (old : x.old = p) (new : x.new = H ++ p)
  (gap : clear false q [c] [] p = true) (put : clear false q [c] H p = true)
include nonempty old new gap put

theorem count_before (u v : List α) (here : HeadsLine c p (u ++ x.old ++ v)) :
    count q (u ++ x.old ++ v) = count q (u ++ x.new ++ v) := by
  rw [old] at here
  have starts := here.starts u v rfl
  have before := count_beside nonempty (beside_head (Q := v) (clear_spec gap) nonempty starts)
  have behind := count_beside nonempty (beside_head (Q := v) (clear_spec put) nonempty starts)
  rw [List.append_nil] at before
  rw [old, new, List.append_assoc, before, List.append_assoc, List.append_assoc,
    ← List.append_assoc u, behind]

theorem ignores_before : Ignores (HeadsLine c p) q x := by
  intro u v here
  rw [← count_pos_iff nonempty, ← count_pos_iff nonempty,
    count_before nonempty old new gap put u v here]

theorem steady_before : Steady (HeadsLine c p) q x.run := by
  intro t out here done
  rcases run_cases done with ⟨_, rfl⟩ | ⟨_, counted, rfl⟩
  · rfl
  · obtain ⟨u, v, split, edited⟩ := replaceFirst_of_count x.new counted
    subst split
    rw [edited]
    exact (count_before nonempty old new gap put u v here).symm

end Before
end Heads
end TextSteps
