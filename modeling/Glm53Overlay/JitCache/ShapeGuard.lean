import Glm53Overlay.Library.ReplayMachine
import Mathlib.Data.Finset.Basic

/-!
The JIT-cache guard of the production start script. A stamp file holds the shape hash of the
last complete wipe; a start whose hash differs wipes the kernel caches of both nodes and boots
whatever the wipes did. A node's cache is the set of shapes its entries were compiled for.
-/
namespace JitCache
open ReplayMachine
variable {Hash : Type} [DecidableEq Hash]

/-- One start: its shape hash, and how the image lookups, the wipes and the stamp write go. -/
structure Start (Hash : Type) where
  shapeHash : Hash
  image : Bool
  headImage : Bool
  workerImage : Bool
  headWipe : Bool
  workerWipe : Bool
  stampWrite : Bool

def Start.headWiped (r : Start Hash) : Bool := r.image && r.headImage && r.headWipe

def Start.workerWiped (r : Start Hash) : Bool := r.image && r.workerImage && r.workerWipe

/-- Both nodes were wiped and the stamp was written. -/
def Start.complete (r : Start Hash) : Bool := r.headWiped && r.workerWiped && r.stampWrite

structure Pair (Hash : Type) where
  stamp : Option Hash
  head : Finset Hash
  worker : Finset Hash

def Pair.empty : Pair Hash := ⟨none, ∅, ∅⟩

/-- The guard: nothing when the stamp is the start's own hash. -/
def guardCaches (p : Pair Hash) (r : Start Hash) : Pair Hash :=
  if p.stamp = some r.shapeHash then p
  else {
    stamp := if r.complete then some r.shapeHash else p.stamp
    head := if r.headWiped then ∅ else p.head
    worker := if r.workerWiped then ∅ else p.worker }

def boot (p : Pair Hash) (r : Start Hash) : Pair Hash :=
  { p with head := insert r.shapeHash p.head, worker := insert r.shapeHash p.worker }

/-- One run of the script; the answer tells that it reuses the caches. -/
def prodStart (p : Pair Hash) (r : Start Hash) : Pair Hash × Bool :=
  (boot (guardCaches p r) r, decide (p.stamp = some r.shapeHash))

def pairAt (starts : List (Start Hash)) (k : Nat) : Pair Hash :=
  final prodStart Pair.empty (starts.take k)

def CleanReuse (starts : List (Start Hash)) : Prop :=
  ∀ (k : Nat) (r : Start Hash), starts[k]? = some r → (pairAt starts k).stamp = some r.shapeHash →
    (pairAt starts k).head ⊆ {r.shapeHash} ∧ (pairAt starts k).worker ⊆ {r.shapeHash}

/-- A start that finds its own hash in the stamp directly follows a start of the same shape. -/
def ReturnsDirectly (starts : List (Start Hash)) : Prop :=
  ∀ (k : Nat) (q r : Start Hash), starts[k]? = some q → starts[k + 1]? = some r →
    (pairAt starts (k + 1)).stamp = some r.shapeHash → q.shapeHash = r.shapeHash

section
variable {starts : List (Start Hash)} {k : Nat}

theorem pairAt_zero : pairAt starts 0 = Pair.empty := by
  rfl

theorem pairAt_succ {r : Start Hash} (here : starts[k]? = some r) :
    pairAt starts (k + 1) = boot (guardCaches (pairAt starts k) r) r := by
  rw [pairAt, List.take_add_one, here, final_append]
  rfl

theorem booted {r : Start Hash} (here : starts[k]? = some r) :
    r.shapeHash ∈ (pairAt starts (k + 1)).head ∧ r.shapeHash ∈ (pairAt starts (k + 1)).worker := by
  rw [pairAt_succ here]
  exact ⟨Finset.mem_insert_self _ _, Finset.mem_insert_self _ _⟩

theorem stamp_own {p : Pair Hash} {r : Start Hash}
    (own : (boot (guardCaches p r) r).stamp = some r.shapeHash) :
    p.stamp = some r.shapeHash ∨ (guardCaches p r).head = ∅ ∧ (guardCaches p r).worker = ∅ := by
  by_cases same : p.stamp = some r.shapeHash
  · exact Or.inl same
  · right
    cases complete : r.complete with
    | false =>
      simp only [boot, guardCaches, same, ↓reduceIte, complete, Bool.false_eq_true] at own
    | true =>
      simp only [Start.complete, Bool.and_eq_true] at complete
      simp only [guardCaches, same, ↓reduceIte, complete.1.1, complete.1.2, and_self]

theorem clean_of_direct (direct : ReturnsDirectly starts) : CleanReuse starts := by
  intro k
  induction k with
  | zero =>
    intro r _ reused
    rw [pairAt_zero] at reused
    cases reused
  | succ k ih =>
    intro r here reused
    have inside := (List.getElem?_eq_some_iff.mp here).1
    have previous : starts[k]? = some (starts.get ⟨k, by omega⟩) :=
      List.getElem?_eq_getElem (by omega)
    generalize starts.get ⟨k, by omega⟩ = q at previous
    have same := direct k q r previous here reused
    rw [pairAt_succ previous] at reused ⊢
    rw [← same] at reused ⊢
    rcases stamp_own reused with stamped | ⟨headEmpty, workerEmpty⟩
    · have kept : guardCaches (pairAt starts k) q = pairAt starts k := by
        rw [guardCaches, if_pos stamped]
      obtain ⟨head, worker⟩ := ih q previous stamped
      rw [kept]
      exact ⟨Finset.insert_subset (Finset.mem_singleton_self _) head,
        Finset.insert_subset (Finset.mem_singleton_self _) worker⟩
    · simp only [boot, headEmpty, workerEmpty]
      exact ⟨Finset.Subset.refl _, Finset.Subset.refl _⟩

theorem direct_of_clean (clean : CleanReuse starts) : ReturnsDirectly starts := by
  intro k q r previous here reused
  obtain ⟨head, _⟩ := clean (k + 1) r here reused
  exact Finset.mem_singleton.mp (head (booted previous).1)

end

/-- The caches a start reuses hold its own shape only, exactly when no start comes back to the
    stamped shape right after a start of another one. -/
theorem clean_reuse_iff (starts : List (Start Hash)) :
    CleanReuse starts ↔ ReturnsDirectly starts := by
  constructor
  · exact direct_of_clean
  · exact clean_of_direct

def sampleStart (shapeHash : Nat) (workerWipe : Bool) : Start Nat where
  shapeHash := shapeHash
  image := true
  headImage := true
  workerImage := true
  headWipe := true
  workerWipe := workerWipe
  stampWrite := true

/-- Seven, five with a failed wipe of the worker, seven again: the stamp still says seven. -/
theorem half_wipe_then_return : ¬ CleanReuse
    [sampleStart 7 true, sampleStart 5 false, sampleStart 7 true] := by
  intro clean
  have reused := clean 2 (sampleStart 7 true) rfl (by decide)
  revert reused
  decide

end JitCache
