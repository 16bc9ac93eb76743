import Mathlib.Data.List.Nodup
import Mathlib.Data.List.Range
import Mathlib.Data.List.FinRange
import Mathlib.Logic.Function.Basic

/-!
Numbers handed out one after the other: the numbers below a bound lie with holders, each with
one of them, every holder's in rising order. The holders together serve the numbers below a
limit once each, whoever got which.
-/
namespace DealtNumbers
variable {G : Type*}

structure Dealt (held : G → List Nat) (bound : Nat) : Prop where
  rising : ∀ g, (held g).Pairwise (· < ·)
  below : ∀ g, ∀ t ∈ held g, t < bound
  owned : ∀ t < bound, ∃ g, t ∈ held g
  apart : ∀ g g' t, t ∈ held g → t ∈ held g' → g = g'

theorem dealt_start (n : Nat) : Dealt (fun g : Fin n => [g.val]) n where
  rising := by simp
  below := by
    intro g t member
    rw [List.mem_singleton] at member
    omega
  owned := fun t inside => ⟨⟨t, inside⟩, by simp⟩
  apart := by
    intro g g' t member member'
    rw [List.mem_singleton] at member member'
    exact Fin.ext (member.symm.trans member')

variable {held : G → List Nat} {bound : Nat}

section Deal
variable [DecidableEq G]

def deal (held : G → List Nat) (g : G) (t : Nat) : G → List Nat :=
  Function.update held g (held g ++ [t])

theorem deal_own (held : G → List Nat) (g : G) (t : Nat) : deal held g t g = held g ++ [t] := by
  simp [deal]

theorem deal_other (held : G → List Nat) {g g' : G} (other : g' ≠ g) (t : Nat) :
    deal held g t g' = held g' := by
  simp [deal, other]

theorem mem_deal (held : G → List Nat) (g g' : G) (t u : Nat) :
    u ∈ deal held g t g' ↔ u ∈ held g' ∨ g' = g ∧ u = t := by
  by_cases same : g' = g
  · subst same
    simp [deal_own]
  · simp [deal_other held same, same]

theorem dealt_next (dealt : Dealt held bound) (g : G) : Dealt (deal held g bound) (bound + 1) where
  rising := by
    intro g'
    by_cases same : g' = g
    · subst same
      rw [deal_own, List.pairwise_append]
      refine ⟨dealt.rising g', List.pairwise_singleton _ _, ?_⟩
      intro t member u last
      rw [List.mem_singleton] at last
      have small := dealt.below g' t member
      omega
    · rw [deal_other held same]
      exact dealt.rising g'
  below := by
    intro g' t member
    rcases (mem_deal held g g' bound t).mp member with old | ⟨_, new⟩
    · have small := dealt.below g' t old
      omega
    · omega
  owned := by
    intro t inside
    rcases Nat.lt_succ_iff_lt_or_eq.mp inside with old | new
    · obtain ⟨g', member⟩ := dealt.owned t old
      exact ⟨g', (mem_deal held g g' bound t).mpr (Or.inl member)⟩
    · exact ⟨g, (mem_deal held g g bound t).mpr (Or.inr ⟨rfl, new⟩)⟩
  apart := by
    intro g₁ g₂ t first second
    rcases (mem_deal held g g₁ bound t).mp first with old₁ | ⟨own₁, new₁⟩
    · rcases (mem_deal held g g₂ bound t).mp second with old₂ | ⟨_, new₂⟩
      · exact dealt.apart g₁ g₂ t old₁ old₂
      · have small := dealt.below g₁ t old₁
        omega
    · rcases (mem_deal held g g₂ bound t).mp second with old₂ | ⟨own₂, _⟩
      · have small := dealt.below g₂ t old₂
        omega
      · exact own₁.trans own₂.symm
end Deal

theorem index_le_of_rising {xs : List Nat} (rising : xs.Pairwise (· < ·)) {r t : Nat}
    (here : xs[r]? = some t) : r ≤ t := by
  induction r generalizing t with
  | zero => exact Nat.zero_le t
  | succ r ih =>
    obtain ⟨inside, found⟩ := List.getElem?_eq_some_iff.mp here
    have before : r < xs.length := by omega
    have earlier := ih (List.getElem?_eq_getElem before)
    have less := List.pairwise_iff_getElem.mp rising r (r + 1) before inside (by omega)
    omega

theorem take_of_rising {xs : List Nat} (rising : xs.Pairwise (· < ·)) {limit r t : Nat}
    (here : xs[r]? = some t) (reached : limit ≤ t) (before : ∀ u ∈ xs.take r, u < limit) :
    xs.take r = xs.filter (· < limit) := by
  conv_rhs => rw [← List.take_append_drop r xs]
  rw [List.filter_append]
  have left : (xs.take r).filter (· < limit) = xs.take r := by
    apply List.filter_eq_self.mpr
    intro u member
    exact decide_eq_true (before u member)
  have right : (xs.drop r).filter (· < limit) = [] := by
    apply List.filter_eq_nil_iff.mpr
    intro u member
    obtain ⟨i, inside, found⟩ := List.mem_iff_getElem.mp member
    obtain ⟨rInside, rAt⟩ := List.getElem?_eq_some_iff.mp here
    rw [List.getElem_drop] at found
    have ordered : t ≤ u := by
      cases i with
      | zero => simpa [rAt] using found.le
      | succ i =>
        have later := List.pairwise_iff_getElem.mp rising r (r + (i + 1)) rInside
          (by rw [List.length_drop] at inside; omega) (by omega)
        omega
    simp only [decide_eq_true_eq]
    omega
  rw [left, right, List.append_nil]

theorem served_once (dealt : Dealt held bound) {limit : Nat} (enough : limit ≤ bound)
    (holders : List G) (once : holders.Nodup) (all : ∀ g, g ∈ holders) :
    (holders.flatMap fun g => (held g).filter (· < limit)).Perm (List.range limit) := by
  rw [List.perm_ext_iff_of_nodup]
  · intro t
    simp only [List.mem_flatMap, List.mem_filter, List.mem_range, decide_eq_true_eq]
    constructor
    · rintro ⟨g, _, _, small⟩
      exact small
    · intro small
      obtain ⟨g, member⟩ := dealt.owned t (by omega)
      exact ⟨g, all g, member, small⟩
  · rw [List.nodup_flatMap]
    constructor
    · intro g _
      have nodup := (dealt.rising g).imp fun less => Nat.ne_of_lt less
      exact List.Nodup.filter _ nodup
    · refine once.imp ?_
      intro g g' different t first second
      rw [List.mem_filter] at first second
      exact different (dealt.apart g g' t first.1 second.1)
  · exact List.nodup_range
end DealtNumbers
