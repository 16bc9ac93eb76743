import Mathlib.Data.List.Pairwise
import Glm53Overlay.DecodeFloor.HoldDeadline

/-!
Whether the running requests can hold one another. A request is held when the policy
skips, some other running request is past its prompt, more than the warm window is left
and its stamp is younger than the deadline. Nothing exempts a request that is itself
decoding, so two such peers can hold each other; the exact condition is proved here.
-/
namespace DecodeFloorGate
open ReplayMachine

def runningVerdict (cfg : GateConfig) (chunk : Option String) (w : World) (now : ℚ)
    (running : List Request) (r : Request) : Option Int :=
  (mixedPrefillGate cfg chunk w ⟨now, running, r, r.numComputedTokens⟩).2.1

def tokensLeft (r : Request) : Int := r.numTokens - r.numComputedTokens

def stampOf (w : World) (r : Request) : Option ℚ := seen (gateState w r).2

def Overdue (cfg : GateConfig) (w : World) (now : ℚ) (r : Request) : Prop :=
  0 < cfg.maxWaitMs ∧ ∃ f, stampOf w r = some f ∧ (cfg.maxWaitMs : ℚ) ≤ (now - f) * 1000

theorem gate_verdict (cfg : GateConfig) (chunk : Option String) (w : World) (c : Call)
    (work : 0 < c.remaining) :
    (mixedPrefillGate cfg chunk w c).2.1 =
      (gateBody cfg c.now (mixedPrefillPolicy chunk c.running c.current) c.remaining c.computed
        (gateState w c.current).2).verdict := by
  have busy : ¬ c.remaining ≤ 0 := by omega
  simp only [mixedPrefillGate, busy, ↓reduceIte]

theorem late_cap_nonzero (cap remaining : Int) : (max (min cap remaining) 1 : Int) ≠ 0 := by
  omega

theorem running_verdict_zero_iff (cfg : GateConfig) (chunk : Option String) (w : World)
    (now : ℚ) (running : List Request) (r : Request) (work : r.numComputedTokens < r.numTokens) :
    runningVerdict cfg chunk w now running r = some 0 ↔
      mixedPrefillPolicy chunk running r = some 0 ∧ cfg.warmTokens < tokensLeft r ∧
        ¬ Overdue cfg w now r := by
  have left : 0 < (Call.mk now running r r.numComputedTokens).remaining := by
    simp only [Call.remaining]
    omega
  unfold runningVerdict
  rw [gate_verdict cfg chunk w _ left]
  change (gateBody cfg now (mixedPrefillPolicy chunk running r) (tokensLeft r)
    r.numComputedTokens (gateState w r).2).verdict = some 0 ↔ _
  by_cases waits : Waiting cfg (mixedPrefillPolicy chunk running r) (tokensLeft r)
  · obtain ⟨_, lateAt, answer⟩ := body_waiting cfg now _ _ r.numComputedTokens
      (gateState w r).2 waits
    obtain ⟨cold, skip, deadline⟩ := waits
    have positive : (0 : ℚ) < cfg.maxWaitMs := by exact_mod_cast deadline
    rw [answer]
    change _ ↔ _ ∧ _ ∧ ¬ (0 < cfg.maxWaitMs ∧ ∃ f, seen (gateState w r).2 = some f ∧ _)
    cases stamp : seen (gateState w r).2 with
    | none => simp [skip, cold, positive]
    | some f =>
      by_cases early : (now - f) * 1000 < cfg.maxWaitMs
      · simp [early, skip, cold, not_le.mpr early]
      · simp [early, skip, cold, deadline, not_lt.mp early, late_cap_nonzero]
  · rw [(body_not_waiting cfg now _ _ _ _ (policy_cases chunk _ _) waits).2]
    split
    · rename_i warm
      have cold : ¬ cfg.warmTokens < tokensLeft r := by omega
      simp [cold]
    · rename_i notWarm
      have cold : cfg.warmTokens < tokensLeft r := by omega
      constructor
      · intro skip
        refine ⟨skip, cold, ?_⟩
        rintro ⟨deadline, _⟩
        exact waits ⟨cold, skip, deadline⟩
      · exact fun held => held.1

/-- Running requests are distinct objects with distinct ids. -/
def DistinctRequests (running : List Request) : Prop :=
  running.Pairwise fun a b => a.ident ≠ b.ident ∧ a.requestId ≠ b.requestId

instance : Std.Symm fun a b : Request => a.ident ≠ b.ident ∧ a.requestId ≠ b.requestId :=
  ⟨fun _ _ h => ⟨Ne.symm h.1, Ne.symm h.2⟩⟩

theorem same_peer_iff {running : List Request} (distinct : DistinctRequests running)
    {a b : Request} (ha : a ∈ running) (hb : b ∈ running) : samePeer a b = false ↔ a ≠ b := by
  constructor
  · intro differ same
    subst same
    simp [samePeer] at differ
  · intro differ
    have separate := List.Pairwise.forall distinct ha hb differ
    simp [samePeer, separate.1, separate.2]

theorem all_have_decoding_peer_iff {running : List Request} (nonempty : running ≠ [])
    (distinct : DistinctRequests running) :
    (∀ r ∈ running, ∃ p ∈ running, samePeer p r = false ∧ decoding p = true) ↔
      2 ≤ running.countP decoding := by
  have nodup : running.Nodup := distinct.imp fun h same => h.1 (by rw [same])
  have nodupD : (running.filter decoding).Nodup := nodup.filter _
  rw [List.countP_eq_length_filter]
  constructor
  · intro everyone
    obtain ⟨first, hfirst⟩ := List.exists_mem_of_ne_nil running nonempty
    obtain ⟨p, hp, _, pd⟩ := everyone first hfirst
    obtain ⟨q, hq, qp, qd⟩ := everyone p hp
    have differ := (same_peer_iff distinct hq hp).mp qp
    have pair : [q, p] ⊆ running.filter decoding := by
      intro x member
      simp only [List.mem_cons, List.not_mem_nil, or_false] at member
      rcases member with rfl | rfl
      · exact List.mem_filter.mpr ⟨hq, qd⟩
      · exact List.mem_filter.mpr ⟨hp, pd⟩
    have two : [q, p].Nodup := by simpa using differ
    exact two.length_le_of_subset pair
  · intro two r hr
    match inside : running.filter decoding with
    | [] => simp [inside] at two
    | [p] => simp [inside] at two
    | p :: q :: rest =>
      rw [inside] at nodupD
      have differ : p ≠ q := by
        intro same
        simp [same] at nodupD
      have hp := List.mem_filter.mp (show p ∈ running.filter decoding by simp [inside])
      have hq := List.mem_filter.mp (show q ∈ running.filter decoding by simp [inside])
      by_cases own : p = r
      · exact ⟨q, hq.1, (same_peer_iff distinct hq.1 hr).mpr (by rw [← own]; exact Ne.symm differ),
          hq.2⟩
      · exact ⟨p, hp.1, (same_peer_iff distinct hp.1 hr).mpr own, hp.2⟩

/-- In every reachable state some running request is scheduled if and only if the policy
    is not skip, at most one request decodes, some request is inside the warm window, or
    some request is overdue. -/
theorem running_progress_iff (cfg : GateConfig) (chunk : Option String) (calls : List Call)
    (now : ℚ) (running : List Request) (nonempty : running ≠ [])
    (distinct : DistinctRequests running)
    (work : ∀ r ∈ running, r.numComputedTokens < r.numTokens) :
    (∃ r ∈ running,
      runningVerdict cfg chunk (worldAfter cfg chunk calls) now running r ≠ some 0) ↔
    (chunkCap chunk ≠ some 0 ∨ running.countP decoding ≤ 1 ∨
      (∃ r ∈ running, tokensLeft r ≤ cfg.warmTokens) ∨
      ∃ r ∈ running, Overdue cfg (worldAfter cfg chunk calls) now r) := by
  have held : ∀ r ∈ running,
      (runningVerdict cfg chunk (worldAfter cfg chunk calls) now running r = some 0 ↔
        (chunkCap chunk = some 0 ∧ ∃ p ∈ running, samePeer p r = false ∧ decoding p = true) ∧
          cfg.warmTokens < tokensLeft r ∧ ¬ Overdue cfg (worldAfter cfg chunk calls) now r) := by
    intro r member
    rw [running_verdict_zero_iff cfg chunk _ now running r (work r member), policy_some_iff]
  constructor
  · rintro ⟨r, member, served⟩
    by_contra none'
    push Not at none'
    obtain ⟨skip, two, cold, young⟩ := none'
    have peers := (all_have_decoding_peer_iff nonempty distinct).mpr (by omega)
    exact served ((held r member).mpr ⟨⟨skip, peers r member⟩, cold r member, young r member⟩)
  · intro escape
    by_contra none'
    push Not at none'
    have all : ∀ r ∈ running, _ := fun r member => (held r member).mp (none' r member)
    obtain ⟨first, hfirst⟩ := List.exists_mem_of_ne_nil running nonempty
    rcases escape with policy | alone | ⟨r, member, warm⟩ | ⟨r, member, overdue⟩
    · exact policy (all first hfirst).1.1
    · have two := (all_have_decoding_peer_iff nonempty distinct).mp fun r hr => (all r hr).1.2
      omega
    · have cold := (all r member).2.1
      omega
    · exact (all r member).2.2 overdue

theorem running_progress_cold_behind_peer :
    (∃ r ∈ [decodingPeer, coldRequest],
      runningVerdict defaultConfig none (worldAfter defaultConfig none coldTrace) 4
        [decodingPeer, coldRequest] r ≠ some 0) ↔
    (chunkCap none ≠ some 0 ∨ [decodingPeer, coldRequest].countP decoding ≤ 1 ∨
      (∃ r ∈ [decodingPeer, coldRequest], tokensLeft r ≤ defaultConfig.warmTokens) ∨
      ∃ r ∈ [decodingPeer, coldRequest],
        Overdue defaultConfig (worldAfter defaultConfig none coldTrace) 4 r) :=
  running_progress_iff defaultConfig none coldTrace 4 [decodingPeer, coldRequest] (by simp)
    (by simp [DistinctRequests, decodingPeer, coldRequest])
    (by simp [decodingPeer, coldRequest])

/-- No warm window: every decoding lane has one token left, which is already too many. -/
def noWarmConfig : GateConfig := gateConfig ⟨some "0", none, none, none, none⟩

def decodingPair : List Request :=
  [⟨1, "a", .plain, 11, 10, 10⟩, ⟨2, "b", .plain, 11, 10, 10⟩]

/-- Two decoding lanes hold each other before any gate call has been made. -/
theorem decoding_pair_holds_itself :
    ¬ ∀ (cfg : GateConfig) (chunk : Option String) (calls : List Call) (now : ℚ)
      (running : List Request), running ≠ [] → DistinctRequests running →
      (∀ r ∈ running, r.numComputedTokens < r.numTokens) →
      ∃ r ∈ running,
        runningVerdict cfg chunk (worldAfter cfg chunk calls) now running r ≠ some 0 := by
  intro always
  obtain ⟨r, member, served⟩ := always noWarmConfig none [] 0 decodingPair (by simp [decodingPair])
    (by simp [DistinctRequests, decodingPair]) (by simp [decodingPair])
  simp only [decodingPair, List.mem_cons, List.not_mem_nil, or_false] at member
  rcases member with rfl | rfl
  · exact served (by decide +kernel)
  · exact served (by decide +kernel)

end DecodeFloorGate
