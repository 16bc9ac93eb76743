import Mathlib.Order.Bounds.Basic
import Glm53Overlay.DrafterLayout.GroupBuilder
import Glm53Overlay.Library.TextSearch

/-!
The compact drafter page: the helper that searches the block, the same search as injected into
the padded branch with the backend asked through `select_common_block_size`, and the validator
that goes with it. The flag-off block is 64.
-/
namespace DrafterLayout

/-- `"language_model" in str(name)`. -/
def inLanguageModel (name : String) : Bool :=
  (TextSearch.find "language_model".toList name.toList).isSome

/-- The injected check: the selector returns the candidate itself; raising counts as no. -/
def backendAccepts (select : Nat → Except String Nat) (cand : Nat) : Bool :=
  match select cand with
  | .error _ => false
  | .ok kernel => kernel = cand

section Search
variable (steps mlaPage draftBytes : Nat)

/-- The loop of `choose_draft_block`, counting `k` down from `steps` to 2. -/
def chooseLoop (accepts : Nat → Bool) : Nat → Nat
  | 0 => 64
  | 1 => 64
  | k + 2 =>
    if steps % (k + 2) ≠ 0 then chooseLoop accepts (k + 1)
    else if mlaPage < 64 * (k + 2) * draftBytes then chooseLoop accepts (k + 1)
    else if accepts (64 * (k + 2)) then 64 * (k + 2)
    else chooseLoop accepts (k + 1)

/-- The injected loop: the block and the logged reason. A selector that raises rejects. -/
def compactLoop (select : Nat → Except String Nat) : Nat → String → Nat × String
  | 0, reason => (64, reason)
  | 1, reason => (64, reason)
  | k + 2, reason =>
    let cand := 64 * (k + 2)
    if steps % (k + 2) ≠ 0 then compactLoop select (k + 1) reason
    else if mlaPage < cand * draftBytes then compactLoop select (k + 1) reason
    else match select cand with
      | .error exc => compactLoop select (k + 1) s!"backend check failed: {exc}"
      | .ok kernel =>
        if kernel = cand then (cand, "unsplit")
        else if reason = "floor" then
          compactLoop select (k + 1) s!"backend would split {cand} into {kernel}"
        else compactLoop select (k + 1) reason

def Fits (accepts : Nat → Bool) (k : Nat) : Prop :=
  steps % k = 0 ∧ 64 * k * draftBytes ≤ mlaPage ∧ accepts (64 * k) = true

variable {steps mlaPage draftBytes}

theorem chooseLoop_spec (accepts : Nat → Bool) (n : Nat) :
    (∃ k, 2 ≤ k ∧ k ≤ n ∧ chooseLoop steps mlaPage draftBytes accepts n = 64 * k ∧
        Fits steps mlaPage draftBytes accepts k ∧
        ∀ j, k < j → j ≤ n → ¬ Fits steps mlaPage draftBytes accepts j) ∨
      (chooseLoop steps mlaPage draftBytes accepts n = 64 ∧
        ∀ j, 2 ≤ j → j ≤ n → ¬ Fits steps mlaPage draftBytes accepts j) := by
  induction n with
  | zero => exact Or.inr ⟨rfl, fun j low high => by omega⟩
  | succ n ih =>
    cases n with
    | zero => exact Or.inr ⟨rfl, fun j low high => by omega⟩
    | succ n =>
      have skip : ¬ Fits steps mlaPage draftBytes accepts (n + 2) →
          chooseLoop steps mlaPage draftBytes accepts (n + 2) =
            chooseLoop steps mlaPage draftBytes accepts (n + 1) := by
        intro misfit
        rw [chooseLoop]
        split
        · rfl
        · rename_i divides
          split
          · rfl
          · rename_i small
            split
            · rename_i accepted
              exact absurd ⟨not_not.mp divides, not_lt.mp small, accepted⟩ misfit
            · rfl
      by_cases fits : Fits steps mlaPage draftBytes accepts (n + 2)
      · left
        refine ⟨n + 2, by omega, by omega, ?_, fits, fun j above within => by omega⟩
        rw [chooseLoop, if_neg (not_not.mpr fits.1), if_neg (not_lt.mpr fits.2.1), if_pos fits.2.2]
      · rw [skip fits]
        -- the last candidate is no fit, so nothing changes against the shorter search
        have last : ∀ j, j ≤ n + 2 → Fits steps mlaPage draftBytes accepts j → j ≤ n + 1 := by
          intro j within fit
          by_contra beyond
          exact fits (by rwa [show n + 2 = j by omega])
        rcases ih with ⟨k, low, high, value, fit, above⟩ | ⟨value, none⟩
        · exact Or.inl ⟨k, low, by omega, value, fit,
            fun j more within fit' => above j more (last j within fit') fit'⟩
        · exact Or.inr ⟨value, fun j low within fit' => none j low (last j within fit') fit'⟩

theorem compactLoop_eq (select : Nat → Except String Nat) (n : Nat) : ∀ reason,
    (compactLoop steps mlaPage draftBytes select n reason).1 =
      chooseLoop steps mlaPage draftBytes (backendAccepts select) n := by
  induction n with
  | zero =>
    intro reason
    rfl
  | succ n ih =>
    intro reason
    cases n with
    | zero => rfl
    | succ n =>
      rw [compactLoop, chooseLoop]
      split
      · exact ih reason
      · split
        · exact ih reason
        · cases answer : select (64 * (n + 2)) with
          | error exc =>
            have refused : ¬ backendAccepts select (64 * (n + 2)) = true := by
              simp [backendAccepts, answer]
            rw [if_neg refused]
            exact ih _
          | ok kernel =>
            by_cases same : kernel = 64 * (n + 2)
            · have accepted : backendAccepts select (64 * (n + 2)) = true := by
                simp [backendAccepts, answer, same]
              rw [if_pos accepted]
              dsimp only
              rw [if_pos same]
            · have refused : ¬ backendAccepts select (64 * (n + 2)) = true := by
                simp [backendAccepts, answer, same]
              rw [if_neg refused]
              dsimp only
              rw [if_neg same]
              split
              · exact ih _
              · exact ih reason

end Search

def chooseDraftBlock (mlaBlock mlaPage draftBytes : Nat) (accepts : Nat → Bool)
    (names : List String) : Nat :=
  if names = [] ∨ names.any inLanguageModel = true ∨ mlaBlock < 64 ∨ mlaBlock % 64 ≠ 0 ∨
      mlaPage ≤ 0 ∨ draftBytes ≤ 0 then 64
  else chooseLoop (mlaBlock / 64) mlaPage draftBytes accepts (mlaBlock / 64)

def compactBlock (mlaBlock mlaPage draftBytes : Nat) (select : Nat → Except String Nat)
    (names : List String) : Nat × String :=
  if names.any inLanguageModel then (64, "non-drafter sliding-window layer")
  else if names ≠ [] ∧ mlaBlock % 64 = 0 ∧ 0 < draftBytes then
    compactLoop (mlaBlock / 64) mlaPage draftBytes select (mlaBlock / 64) "floor"
  else (64, "floor")

/-- The drafter part of the validation with the compact page; `mlaBlock` is the attention
    group's. -/
def draftAcceptedNew {Name : Type} (mlaBlock mlaPage : Nat) (mlaNames : List Name)
    (g : DraftGroup Name) : Bool :=
  g.kvCacheSpecs.all (fun s => s.2.pageSizeBytes = g.page) &&
  (!(g.kvCacheSpecs.any fun s => s.2.pageSizePadded.isSome) ||
    (g.kvCacheSpecs.all fun s => s.2.pageSizePadded = some mlaPage ∧ s.2.blockSize % 64 = 0 ∧
      0 < s.2.blockSize ∧ s.2.realPageSizeBytes ≤ mlaPage) &&
    g.kvCacheSpecs.all fun s => mlaBlock % s.2.blockSize = 0) &&
  !(decide (g.page = mlaPage) && decide (mlaNames.length < g.layerNames.length))

section Optimal
variable (mlaBlock mlaPage draftBytes : Nat) (accepts : Nat → Bool)

/-- A whole page of drafter blocks: a multiple of 64 that divides the MLA block, fits the MLA
    page and that the backend runs unsplit. -/
def Candidate (c : Nat) : Prop :=
  64 ∣ c ∧ c ∣ mlaBlock ∧ c * draftBytes ≤ mlaPage ∧ accepts c = true

def Searches (names : List String) : Prop :=
  names ≠ [] ∧ (∀ name ∈ names, inLanguageModel name = false) ∧ 64 ∣ mlaBlock ∧ 0 < draftBytes

variable {mlaBlock mlaPage draftBytes accepts}

theorem candidate_iff_fits {steps k : Nat} (block : mlaBlock = 64 * steps) :
    Candidate mlaBlock mlaPage draftBytes accepts (64 * k) ↔
      Fits steps mlaPage draftBytes accepts k := by
  have divides : 64 * k ∣ mlaBlock ↔ steps % k = 0 := by
    rw [block, Nat.mul_dvd_mul_iff_left (by decide), Nat.dvd_iff_mod_eq_zero]
  unfold Candidate Fits
  rw [divides]
  constructor
  · rintro ⟨_, fits⟩
    exact fits
  · intro fits
    exact ⟨Nat.dvd_mul_right 64 k, fits⟩

theorem chooseDraftBlock_eq_loop {names : List String} (large : 64 ≤ mlaBlock)
    (searches : Searches mlaBlock draftBytes names) (page : 0 < mlaPage) :
    chooseDraftBlock mlaBlock mlaPage draftBytes accepts names =
      chooseLoop (mlaBlock / 64) mlaPage draftBytes accepts (mlaBlock / 64) := by
  obtain ⟨named, drafter, divides, bytes⟩ := searches
  have outside : ¬ names.any inLanguageModel = true := by
    rw [Bool.not_eq_true, List.any_eq_false]
    intro name member
    rw [drafter name member]
    exact Bool.false_ne_true
  have multiple := Nat.mod_eq_zero_of_dvd divides
  unfold chooseDraftBlock
  rw [if_neg]
  rintro (none | target | small | odd | empty | free)
  · exact named none
  · exact outside target
  · omega
  · exact odd multiple
  · omega
  · omega

theorem chooseDraftBlock_floor {names : List String}
    (stays : ¬ Searches mlaBlock draftBytes names ∨ mlaPage = 0) :
    chooseDraftBlock mlaBlock mlaPage draftBytes accepts names = 64 := by
  unfold chooseDraftBlock
  split
  · rfl
  · rename_i passes
    simp only [not_or, not_lt, not_le, not_not, Bool.not_eq_true, List.any_eq_false] at passes
    obtain ⟨named, drafter, _, multiple, page, bytes⟩ := passes
    rcases stays with fails | zero
    · exact absurd ⟨named, drafter, Nat.dvd_of_mod_eq_zero multiple, bytes⟩ fails
    · omega

theorem candidate_positive_page {c : Nat} (large : 64 ≤ mlaBlock) (bytes : 0 < draftBytes)
    (candidate : Candidate mlaBlock mlaPage draftBytes accepts c) : 0 < c ∧ 0 < mlaPage := by
  obtain ⟨_, divides, fits, _⟩ := candidate
  have positive : 0 < c := Nat.pos_of_dvd_of_pos divides (by omega)
  exact ⟨positive, lt_of_lt_of_le (Nat.mul_pos positive bytes) fits⟩

theorem chooseDraftBlock_optimal (names : List String) (large : 64 ≤ mlaBlock) :
    (Searches mlaBlock draftBytes names →
      IsGreatest {c | Candidate mlaBlock mlaPage draftBytes accepts c}
          (chooseDraftBlock mlaBlock mlaPage draftBytes accepts names) ∨
        chooseDraftBlock mlaBlock mlaPage draftBytes accepts names = 64 ∧
          ∀ c, ¬ Candidate mlaBlock mlaPage draftBytes accepts c) ∧
      (¬ Searches mlaBlock draftBytes names →
        chooseDraftBlock mlaBlock mlaPage draftBytes accepts names = 64) := by
  refine ⟨?_, fun fails => chooseDraftBlock_floor (Or.inl fails)⟩
  intro searches
  have bytes := searches.2.2.2
  obtain ⟨steps, block⟩ := searches.2.2.1
  have count : mlaBlock / 64 = steps := by omega
  rcases Nat.eq_zero_or_pos mlaPage with zero | page
  · right
    refine ⟨chooseDraftBlock_floor (Or.inr zero), ?_⟩
    intro c candidate
    have positive := (candidate_positive_page large bytes candidate).2
    omega
  rw [chooseDraftBlock_eq_loop large searches page, count]
  -- a candidate is 64 times a step the search has tried, or 64 itself
  have multiple : ∀ c, Candidate mlaBlock mlaPage draftBytes accepts c →
      ∃ k, 1 ≤ k ∧ k ≤ steps ∧ c = 64 * k ∧ Fits steps mlaPage draftBytes accepts k := by
    intro c candidate
    have positive := (candidate_positive_page large bytes candidate).1
    obtain ⟨k, rfl⟩ := candidate.1
    have bound := Nat.le_of_dvd (by omega) candidate.2.1
    exact ⟨k, by omega, by omega, rfl, (candidate_iff_fits block).mp candidate⟩
  rcases @chooseLoop_spec steps mlaPage draftBytes accepts steps with
    ⟨k, low, high, value, fits, above⟩ | ⟨value, none⟩
  · left
    rw [value]
    refine ⟨(candidate_iff_fits block).mpr fits, ?_⟩
    intro c candidate
    obtain ⟨j, _, within, rfl, fit⟩ := multiple c candidate
    by_contra more
    exact above j (by omega) within fit
  · rw [value]
    by_cases floor : Candidate mlaBlock mlaPage draftBytes accepts 64
    · left
      refine ⟨floor, ?_⟩
      intro c candidate
      obtain ⟨j, low, within, rfl, fit⟩ := multiple c candidate
      by_contra more
      exact none j (by omega) within fit
    · right
      refine ⟨rfl, ?_⟩
      intro c candidate
      obtain ⟨j, low, within, rfl, fit⟩ := multiple c candidate
      rcases Nat.lt_or_ge 1 j with larger | one
      · exact none j larger within fit
      · rw [show j = 1 by omega] at candidate
        exact floor candidate

end Optimal

theorem compactBlock_eq (mlaBlock mlaPage draftBytes : Nat) (select : Nat → Except String Nat)
    (names : List String) (large : 64 ≤ mlaBlock) :
    (compactBlock mlaBlock mlaPage draftBytes select names).1 =
      chooseDraftBlock mlaBlock mlaPage draftBytes (backendAccepts select) names := by
  by_cases searches : Searches mlaBlock draftBytes names
  · have outside : ¬ names.any inLanguageModel = true := by
      rw [Bool.not_eq_true, List.any_eq_false]
      intro name member
      rw [searches.2.1 name member]
      exact Bool.false_ne_true
    unfold compactBlock
    rw [if_neg outside, if_pos ⟨searches.1, Nat.mod_eq_zero_of_dvd searches.2.2.1,
      searches.2.2.2⟩, compactLoop_eq]
    rcases Nat.eq_zero_or_pos mlaPage with zero | page
    · rw [chooseDraftBlock_floor (Or.inr zero), zero]
      rcases @chooseLoop_spec (mlaBlock / 64) 0 draftBytes (backendAccepts select)
        (mlaBlock / 64) with
        ⟨k, low, _, _, fits, _⟩ | ⟨value, _⟩
      · have bytes := Nat.mul_pos (show 0 < 64 * k by omega) searches.2.2.2
        have none := fits.2.1
        omega
      · exact value
    · rw [chooseDraftBlock_eq_loop large searches page]
  · rw [chooseDraftBlock_floor (Or.inl searches)]
    unfold compactBlock
    split
    · rfl
    · rename_i outside
      split
      · rename_i passes
        refine absurd ⟨passes.1, ?_, Nat.dvd_of_mod_eq_zero passes.2.1, passes.2.2⟩ searches
        intro name member
        rw [Bool.not_eq_true, List.any_eq_false] at outside
        exact Bool.eq_false_iff.mpr (outside name member)
      · rfl

section Kept
variable (mlaBlock mlaPage : Nat) (mlaNames : List String) (s : WindowSpec)
  (first : String) (others : List String)

def paddedGroup (block : Nat) : DraftGroup String :=
  uniformGroup (s.replace block (some mlaPage)) first others

theorem padded_accepted_old : draftAccepted mlaPage mlaNames
    (paddedGroup mlaPage s first others 64) = true ↔ others.length + 1 ≤ mlaNames.length := by
  rw [paddedGroup, uniform_accepted_iff]
  simp [WindowSpec.replace, DraftSpec.pageSizeBytes]

theorem padded_accepted_new (block : Nat) : draftAcceptedNew mlaBlock mlaPage mlaNames
    (paddedGroup mlaPage s first others block) = true ↔
      (64 ∣ block ∧ 0 < block ∧ block * s.bytesPerToken ≤ mlaPage ∧ block ∣ mlaBlock) ∧
        others.length + 1 ≤ mlaNames.length := by
  have page : (paddedGroup mlaPage s first others block).page = mlaPage := rfl
  unfold draftAcceptedNew
  rw [page]
  unfold paddedGroup
  rw [uniform_layers, uniform_all _ first others (fun s' => s'.pageSizeBytes = mlaPage),
    uniform_any _ first others (fun s' => s'.pageSizePadded.isSome),
    uniform_all _ first others (fun s' => s'.pageSizePadded = some mlaPage ∧
      s'.blockSize % 64 = 0 ∧ 0 < s'.blockSize ∧ s'.realPageSizeBytes ≤ mlaPage),
    uniform_all _ first others (fun s' => mlaBlock % s'.blockSize = 0)]
  simp only [Bool.and_eq_true, Bool.or_eq_true, decide_eq_true_eq, Bool.not_eq_true',
    decide_eq_false_iff_not, not_lt, Bool.and_eq_false_iff, Nat.dvd_iff_mod_eq_zero]
  simp [WindowSpec.replace, DraftSpec.pageSizeBytes, and_assoc]

theorem chosen_fits_iff (select : Nat → Except String Nat) (names : List String)
    (large : 64 ≤ mlaBlock) (block : Nat)
    (chosen : block = (compactBlock mlaBlock mlaPage s.bytesPerToken select names).1) :
    (64 ∣ block ∧ 0 < block ∧ block * s.bytesPerToken ≤ mlaPage ∧ block ∣ mlaBlock) ↔
      64 ∣ mlaBlock ∧ 64 * s.bytesPerToken ≤ mlaPage := by
  rw [compactBlock_eq mlaBlock mlaPage s.bytesPerToken select names large] at chosen
  obtain ⟨searched, skipped⟩ := @chooseDraftBlock_optimal mlaBlock mlaPage s.bytesPerToken
    (backendAccepts select) names large
  have cases : block = 64 ∨
      Candidate mlaBlock mlaPage s.bytesPerToken (backendAccepts select) block := by
    by_cases searches : Searches mlaBlock s.bytesPerToken names
    · rcases searched searches with greatest | ⟨floor, _⟩
      · right
        rw [chosen]
        exact greatest.1
      · left
        rw [chosen, floor]
    · left
      rw [chosen, skipped searches]
  rcases cases with rfl | ⟨multiple, divides, fits, _⟩
  · constructor
    · rintro ⟨_, _, fits, divides⟩
      exact ⟨divides, fits⟩
    · rintro ⟨divides, fits⟩
      exact ⟨Nat.dvd_refl 64, by decide, fits, divides⟩
  · have positive : 0 < block := Nat.pos_of_dvd_of_pos divides (by omega)
    have floor : 64 * s.bytesPerToken ≤ block * s.bytesPerToken :=
      Nat.mul_le_mul_right _ (Nat.le_of_dvd positive multiple)
    constructor
    · intro _
      exact ⟨multiple.trans divides, floor.trans fits⟩
    · intro _
      exact ⟨multiple, positive, fits, divides⟩

end Kept

/-- The search is optimal and the injected one agrees with it; the flag-on validator keeps a
    layout the flag-off one accepts just when 64 divides the MLA block and the 64-token page
    fits the MLA page. -/
theorem compact_page_optimal_and_kept_iff (mlaBlock : Nat) (large : 64 ≤ mlaBlock) :
    (∀ (mlaPage draftBytes : Nat) (names : List String) (accepts : Nat → Bool),
      (Searches mlaBlock draftBytes names →
        IsGreatest {c | Candidate mlaBlock mlaPage draftBytes accepts c}
            (chooseDraftBlock mlaBlock mlaPage draftBytes accepts names) ∨
          chooseDraftBlock mlaBlock mlaPage draftBytes accepts names = 64 ∧
            ∀ c, ¬ Candidate mlaBlock mlaPage draftBytes accepts c) ∧
      (¬ Searches mlaBlock draftBytes names →
        chooseDraftBlock mlaBlock mlaPage draftBytes accepts names = 64)) ∧
    (∀ (mlaPage draftBytes : Nat) (names : List String) (select : Nat → Except String Nat),
      (compactBlock mlaBlock mlaPage draftBytes select names).1 =
        chooseDraftBlock mlaBlock mlaPage draftBytes (backendAccepts select) names) ∧
    ∀ (mlaPage : Nat) (mlaNames : List String) (s : WindowSpec) (first : String)
      (others : List String) (select : Nat → Except String Nat),
      ((draftAccepted mlaPage mlaNames (paddedGroup mlaPage s first others 64) = true →
        draftAcceptedNew mlaBlock mlaPage mlaNames (paddedGroup mlaPage s first others
          (compactBlock mlaBlock mlaPage s.bytesPerToken select (first :: others)).1) = true) ↔
      (draftAccepted mlaPage mlaNames (paddedGroup mlaPage s first others 64) = true →
        64 ∣ mlaBlock ∧ 64 * s.bytesPerToken ≤ mlaPage)) := by
  refine ⟨fun _ _ names _ => chooseDraftBlock_optimal names large,
    fun mlaPage draftBytes names select =>
      compactBlock_eq mlaBlock mlaPage draftBytes select names large, ?_⟩
  intro mlaPage mlaNames s first others select
  rw [padded_accepted_new, padded_accepted_old,
    chosen_fits_iff mlaBlock mlaPage s select (first :: others) large _ rfl]
  constructor
  · intro kept rides
    exact (kept rides).1
  · intro fits rides
    exact ⟨fits rides, rides⟩

theorem live_page_kept :
    (compactBlock 3584 (3584 * 656) 4096 (fun c => .ok c) ["model.layers.0"]).1 = 512 ∧
      draftAcceptedNew 3584 (3584 * 656) ["mla.0"]
        (paddedGroup (3584 * 656) flashSpec "model.layers.0" [] 512) = true := by
  have chosen : (compactBlock 3584 (3584 * 656) 4096 (fun c => .ok c) ["model.layers.0"]).1 =
      512 := by decide +kernel
  have kept := (compact_page_optimal_and_kept_iff 3584 (by decide)).2.2 (3584 * 656) ["mla.0"]
    flashSpec "model.layers.0" [] (fun c => .ok c)
  have accepted := kept.mpr (fun _ => ⟨by decide, by decide⟩) (by decide)
  rw [show flashSpec.bytesPerToken = 4096 from rfl, chosen] at accepted
  exact ⟨chosen, accepted⟩

/-- An MLA block of 3600 tokens: the floor is kept and then refused. -/
theorem floor_refused_off_grid :
    buildDraftGroup 64 (3600 * 656) 3600 ["mla.0"] ("model.layers.0", flashSpec) [] =
        some (paddedGroup (3600 * 656) flashSpec "model.layers.0" [] 64) ∧
      (compactBlock 3600 (3600 * 656) 4096 (fun c => .ok c) ["model.layers.0"]).1 = 64 ∧
      draftAccepted (3600 * 656) ["mla.0"]
        (paddedGroup (3600 * 656) flashSpec "model.layers.0" [] 64) = true ∧
      draftAcceptedNew 3600 (3600 * 656) ["mla.0"]
        (paddedGroup (3600 * 656) flashSpec "model.layers.0" [] 64) = false := by
  constructor
  · rfl
  · decide +kernel

end DrafterLayout
