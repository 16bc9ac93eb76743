import Glm53Overlay.Library.Binary64

/-!
The quotient of two positive doubles is the exact one rounded to the nearest double, so it grows
with the dividend and falls with the divisor.
-/
namespace PyRound

theorem halfEven_floor (x : ℚ) : ⌊x⌋ ≤ halfEven x ∧ halfEven x ≤ ⌊x⌋ + 1 := by
  unfold halfEven
  simp only
  split_ifs <;> omega

theorem halfEven_mono {x y : ℚ} (le : x ≤ y) : halfEven x ≤ halfEven y := by
  have floors : ⌊x⌋ ≤ ⌊y⌋ := Int.floor_le_floor le
  rcases lt_or_eq_of_le floors with less | same
  · have below := (halfEven_floor x).2
    have above := (halfEven_floor y).1
    omega
  · unfold halfEven
    simp only
    rw [same]
    have rest : x - ⌊y⌋ ≤ y - ⌊y⌋ := by linarith
    split_ifs <;> first | omega | linarith

end PyRound

namespace Binary64
open Float.Model Float.Model.UnpackedFloat

/-- What an extended mantissa says of a number: its whole part, whether the rest reaches a half,
    and whether it is neither nothing nor a half. -/
structure Shows (em : ExtendedMantissa) (x : ℚ) : Prop where
  low : (em.mantissa : ℚ) ≤ x
  high : x < em.mantissa + 1
  half : em.roundBit = true ↔ 1 / 2 ≤ x - em.mantissa
  rest : em.stickyBit = true ↔ x - em.mantissa ≠ 0 ∧ x - em.mantissa ≠ 1 / 2

theorem Shows.rounded {em : ExtendedMantissa} {x : ℚ} (shows : Shows em x) :
    (em.roundedMantissa : ℤ) = PyRound.halfEven x := by
  obtain ⟨low, high, half, rest⟩ := shows
  obtain ⟨m, round, sticky⟩ := em
  have whole : ⌊x⌋ = (m : ℤ) := Int.floor_eq_iff.mpr ⟨by exact_mod_cast low, by exact_mod_cast high⟩
  unfold PyRound.halfEven
  simp only [whole, Int.cast_natCast] at half rest ⊢
  rcases lt_trichotomy (x - m) (1 / 2) with below | middle | above
  · obtain rfl : round = false := Bool.eq_false_iff.mpr fun on => absurd (half.mp on) (not_le.mpr below)
    rw [if_pos below]
    cases sticky <;> rfl
  · obtain rfl : round = true := half.mpr middle.ge
    obtain rfl : sticky = false := Bool.eq_false_iff.mpr fun on => absurd middle (rest.mp on).2
    rw [if_neg middle.not_lt, if_neg middle.not_gt]
    show ((m + m % 2 : ℕ) : ℤ) = _
    split <;> omega
  · obtain rfl : round = true := half.mpr above.le
    have nonzero : x - m ≠ 0 := by linarith
    obtain rfl : sticky = true := rest.mpr ⟨nonzero, above.ne'⟩
    rw [if_neg above.not_gt, if_pos above]
    rfl

theorem Shows.shiftRightOne {em : ExtendedMantissa} {x : ℚ} (shows : Shows em x) :
    Shows em.shiftRightOne (x / 2) := by
  obtain ⟨low, high, half, rest⟩ := shows
  obtain ⟨m, round, sticky⟩ := em
  simp only at low high half rest
  have exact : (round || sticky) = true ↔ x - m ≠ 0 := by
    rw [Bool.or_eq_true, half, rest]
    constructor
    · rintro (reached | ⟨some', _⟩)
      · linarith
      · exact some'
    · intro some'
      by_cases reached : 1 / 2 ≤ x - m
      · exact Or.inl reached
      · exact Or.inr ⟨some', by linarith⟩
  have parts : (m : ℚ) = 2 * (m / 2 : ℕ) + (m % 2 : ℕ) := by
    exact_mod_cast (Nat.div_add_mod m 2).symm
  -- the bit that is dropped decides on which side of a half the rest lies
  rcases Nat.mod_two_eq_zero_or_one m with even | odd
  · have left : x / 2 - (m / 2 : ℕ) = (x - m) / 2 := by
      rw [parts, even]
      ring
    have below : (x - m) / 2 < 1 / 2 := by linarith
    have above : 0 ≤ (x - m) / 2 := by linarith
    constructor
    · show ((m / 2 : ℕ) : ℚ) ≤ x / 2
      linarith
    · show x / 2 < ((m / 2 : ℕ) : ℚ) + 1
      linarith
    · show (m % 2 != 0) = true ↔ 1 / 2 ≤ x / 2 - ((m / 2 : ℕ) : ℚ)
      rw [left, even]
      simpa using below
    · show (round || sticky) = true ↔ x / 2 - ((m / 2 : ℕ) : ℚ) ≠ 0 ∧ x / 2 - ((m / 2 : ℕ) : ℚ) ≠ 1 / 2
      rw [left, exact]
      constructor
      · exact fun some' => ⟨div_ne_zero some' two_ne_zero, below.ne⟩
      · rintro ⟨some', _⟩ nothing
        rw [nothing, zero_div] at some'
        exact some' rfl
  · have left : x / 2 - (m / 2 : ℕ) = (x - m) / 2 + 1 / 2 := by
      rw [parts, odd]
      push_cast
      ring
    have above : 0 ≤ (x - m) / 2 := by linarith
    constructor
    · show ((m / 2 : ℕ) : ℚ) ≤ x / 2
      linarith
    · show x / 2 < ((m / 2 : ℕ) : ℚ) + 1
      linarith
    · show (m % 2 != 0) = true ↔ 1 / 2 ≤ x / 2 - ((m / 2 : ℕ) : ℚ)
      rw [left, odd]
      simpa using above
    · show (round || sticky) = true ↔ x / 2 - ((m / 2 : ℕ) : ℚ) ≠ 0 ∧ x / 2 - ((m / 2 : ℕ) : ℚ) ≠ 1 / 2
      rw [left, exact]
      constructor
      · exact fun some' => ⟨by linarith, fun same => some' (by linarith)⟩
      · exact fun both nothing => both.2 (by rw [nothing]; norm_num)

theorem Shows.shiftRight {em : ExtendedMantissa} {x : ℚ} (shows : Shows em x) (count : ℕ) :
    Shows (em >>> count) (x / 2 ^ count) := by
  show Shows (count.repeat ExtendedMantissa.shiftRightOne em) _
  induction count with
  | zero => simpa [Nat.repeat] using shows
  | succ count ih =>
    rw [pow_succ, ← div_div]
    exact ih.shiftRightOne

theorem mantissa_of_accuracy (mantissa : ℕ) (accuracy : Accuracy) :
    (ExtendedMantissa.ofMantissaAndAccuracy mantissa accuracy).mantissa = mantissa := by
  cases accuracy with
  | exact => rfl
  | inexact order => cases order <;> rfl

/-- The quotient and remainder of a division of integers show the exact quotient. -/
theorem shows_quotient (dividend : ℕ) {divisor : ℕ} (positive : 0 < divisor) :
    Shows (.ofMantissaAndAccuracy (dividend / divisor)
      (accuracyOfFraction (dividend % divisor) divisor)) (dividend / divisor) := by
  have size : (0 : ℚ) < divisor := by exact_mod_cast positive
  have parts : (dividend : ℚ) = divisor * (dividend / divisor : ℕ) + (dividend % divisor : ℕ) := by
    exact_mod_cast (Nat.div_add_mod dividend divisor).symm
  have left : (dividend : ℚ) / divisor - (dividend / divisor : ℕ) =
      (dividend % divisor : ℕ) / divisor := by
    rw [eq_div_iff size.ne', sub_mul, div_mul_cancel₀ _ size.ne']
    linarith
  have short : ((dividend % divisor : ℕ) : ℚ) < divisor := by
    exact_mod_cast Nat.mod_lt dividend positive
  have low : (0 : ℚ) ≤ (dividend % divisor : ℕ) / divisor := by positivity
  have high : ((dividend % divisor : ℕ) : ℚ) / divisor < 1 := (div_lt_one size).mpr short
  have reaches : (1 : ℚ) / 2 ≤ (dividend % divisor : ℕ) / divisor ↔
      divisor ≤ 2 * (dividend % divisor) := by
    rw [le_div_iff₀ size]
    constructor
    · intro le
      have : (divisor : ℚ) ≤ 2 * (dividend % divisor : ℕ) := by linarith
      exact_mod_cast this
    · intro le
      have : (divisor : ℚ) ≤ 2 * (dividend % divisor : ℕ) := by exact_mod_cast le
      linarith
  have halves : ((dividend % divisor : ℕ) : ℚ) / divisor = 1 / 2 ↔
      2 * (dividend % divisor) = divisor := by
    rw [div_eq_div_iff size.ne' two_ne_zero, one_mul, mul_comm]
    norm_cast
  have nothing : ((dividend % divisor : ℕ) : ℚ) / divisor = 0 ↔ dividend % divisor = 0 := by
    rw [div_eq_zero_iff, or_iff_left size.ne']
    norm_cast
  have shown (round sticky : Bool) (half : round = true ↔ divisor ≤ 2 * (dividend % divisor))
      (rest : sticky = true ↔ dividend % divisor ≠ 0 ∧ 2 * (dividend % divisor) ≠ divisor) :
      Shows ⟨dividend / divisor, round, sticky⟩ (dividend / divisor) := by
    constructor
    · linarith
    · linarith
    · rw [left, reaches, half]
    · rw [left, ne_eq, ne_eq, nothing, halves, rest]
  unfold accuracyOfFraction
  split
  · rename_i zero
    exact shown false false (by simpa using by omega) (by simpa using fun some' => absurd zero some')
  · rename_i some'
    cases order : compare (2 * (dividend % divisor)) divisor with
    | lt =>
      have less := compare_lt_iff_lt.mp order
      exact shown false true (by simpa using less) (by simpa using ⟨some', less.ne⟩)
    | eq =>
      have same := compare_eq_iff_eq.mp order
      exact shown true false (by simpa using same.ge) (by simpa using fun _ => same)
    | gt =>
      have more := compare_gt_iff_gt.mp order
      exact shown true true (by simpa using more.le) (by simpa using ⟨some', more.ne'⟩)

/-- `2 ^ exponent` is the distance of the doubles around a positive number. -/
structure Spaced (x : ℚ) (exponent : ℤ) : Prop where
  least : -1074 ≤ exponent
  above : x < 2 ^ (exponent + 53)
  below : exponent = -1074 ∨ 2 ^ (exponent + 52) ≤ x

theorem Spaced.mono {x y : ℚ} {e f : ℤ} (ofX : Spaced x e) (ofY : Spaced y f) (le : x ≤ y) : e ≤ f := by
  by_contra! less
  have reached : (2 : ℚ) ^ (e + 52) ≤ x := by
    rcases ofX.below with least | reached
    · have := ofY.least
      omega
    · exact reached
  have order : (2 : ℚ) ^ (f + 53) ≤ 2 ^ (e + 52) := zpow_le_zpow_right₀ one_le_two (by omega)
  linarith [ofY.above]

theorem carried_pos : 0 < 2 ^ 52 := Nat.two_pow_pos 52

/-- The double a positive number is rounded to, before its exponent is checked. -/
def carried (sign : Sign) (exponent : ℤ) (mantissa : ℕ) : UnpackedFloat :=
  if positive : 0 < mantissa then
    if mantissa < 2 ^ 53 then .finite sign mantissa exponent positive
    else .finite sign (2 ^ 52) (exponent + 1) carried_pos
  else .zero sign

theorem target_eq (mantissa : ℕ) (exponent : ℤ) :
    Format.binary64.targetExponent (totalExponent mantissa exponent) =
      max (mantissa.log2 + exponent - 52) (-1074) := by
  simp only [Format.targetExponent, totalExponent, Format.mantissaBits, Format.minExponent]
  norm_num
  omega

theorem shift_fitting {mantissa : ℕ} {exponent : ℤ} (fits : mantissa < 2 ^ 53)
    (least : -1074 ≤ exponent) :
    shiftToTargetExponent .binary64 mantissa exponent .exact =
      (⟨mantissa, false, false⟩, exponent) := by
  have bits : mantissa.log2 ≤ 52 := by
    by_cases zero : mantissa = 0
    · rw [zero]
      decide
    · have := (Nat.log2_lt zero).mpr fits
      omega
  have amount : (max ((mantissa.log2 : ℤ) + exponent - 52) (-1074) - exponent).toNat = 0 := by omega
  unfold shiftToTargetExponent shiftToExponent
  simp only [target_eq, amount, Nat.cast_zero, add_zero]
  rfl

theorem shift_carried {exponent : ℤ} (least : -1074 ≤ exponent) :
    shiftToTargetExponent .binary64 (2 ^ 53) exponent .exact =
      (⟨2 ^ 52, false, false⟩, exponent + 1) := by
  have amount : (max (((2 ^ 53 : ℕ).log2 : ℤ) + exponent - 52) (-1074) - exponent).toNat = 1 := by
    rw [Nat.log2_two_pow]
    omega
  unfold shiftToTargetExponent shiftToExponent
  simp only [target_eq, amount]
  rfl

/-- The second shift of a rounding only carries. -/
theorem carried_eq (sign : Sign) {mantissa : ℕ} {exponent : ℤ} (bound : mantissa ≤ 2 ^ 53)
    (least : -1074 ≤ exponent) :
    (match shiftToTargetExponent .binary64 mantissa exponent .exact with
      | (em, final) => if zero : em.mantissa = 0 then .zero sign
        else .finite sign em.mantissa final (Nat.pos_of_ne_zero zero)) =
      carried sign exponent mantissa := by
  unfold carried
  by_cases fits : mantissa < 2 ^ 53
  · rw [shift_fitting fits least]
    by_cases zero : mantissa = 0
    · simp [zero]
    · simp only [zero, ↓reduceDIte, Nat.pos_of_ne_zero zero, fits, ↓reduceIte]
  · obtain rfl : mantissa = 2 ^ 53 := by omega
    rw [shift_carried least]
    simp

theorem Spaced.rounded_le {x : ℚ} {exponent : ℤ} (spaced : Spaced x exponent) :
    PyRound.halfEven (x / 2 ^ exponent) ≤ 2 ^ 53 := by
  have scale : (0 : ℚ) < 2 ^ exponent := zpow_pos two_pos exponent
  have below : x / 2 ^ exponent ≤ ((2 ^ 53 : ℤ) : ℚ) := by
    rw [div_le_iff₀ scale]
    have bound := spaced.above
    rw [zpow_add₀ two_ne_zero] at bound
    push_cast
    norm_num at bound ⊢
    linarith
  calc PyRound.halfEven (x / 2 ^ exponent) ≤ PyRound.halfEven ((2 ^ 53 : ℤ) : ℚ) :=
        PyRound.halfEven_mono below
    _ = 2 ^ 53 := PyRound.halfEven_int _

theorem Spaced.rounded_ge {x : ℚ} {exponent : ℤ} (spaced : Spaced x exponent) :
    exponent = -1074 ∨ 2 ^ 52 ≤ PyRound.halfEven (x / 2 ^ exponent) := by
  refine spaced.below.imp_right fun reached => ?_
  have scale : (0 : ℚ) < 2 ^ exponent := zpow_pos two_pos exponent
  have above : ((2 ^ 52 : ℤ) : ℚ) ≤ x / 2 ^ exponent := by
    rw [le_div_iff₀ scale]
    rw [zpow_add₀ two_ne_zero] at reached
    push_cast
    norm_num at reached ⊢
    linarith
  calc (2 : ℤ) ^ 52 = PyRound.halfEven ((2 ^ 52 : ℤ) : ℚ) := (PyRound.halfEven_int _).symm
    _ ≤ PyRound.halfEven (x / 2 ^ exponent) := PyRound.halfEven_mono above

theorem roundWithAccuracy_eq (sign : Sign) {mantissa : ℕ} {exponent target : ℤ}
    {accuracy : Accuracy} {x : ℚ}
    (shows : Shows (.ofMantissaAndAccuracy mantissa accuracy) (x / 2 ^ exponent))
    (spaced : Spaced x target) (room : exponent ≤ target)
    (aimed : Format.binary64.targetExponent (totalExponent mantissa exponent) = target) :
    ∃ rounded : ℕ, (rounded : ℤ) = PyRound.halfEven (x / 2 ^ target) ∧
      roundWithAccuracy .binary64 sign mantissa exponent accuracy = carried sign target rounded := by
  obtain ⟨count, rfl⟩ : ∃ count : ℕ, target = exponent + count :=
    ⟨(target - exponent).toNat, by omega⟩
  have amount : (exponent + (count : ℤ) - exponent).toNat = count := by omega
  have shifted : shiftToTargetExponent .binary64 mantissa exponent accuracy =
      (ExtendedMantissa.ofMantissaAndAccuracy mantissa accuracy >>> count, exponent + count) := by
    unfold shiftToTargetExponent shiftToExponent
    simp only [aimed, amount]
  have value := shows.shiftRight count
  rw [div_div, ← zpow_natCast, ← zpow_add₀ two_ne_zero] at value
  have whole := value.rounded
  have bound := spaced.rounded_le
  rw [← whole] at bound
  refine ⟨_, whole, ?_⟩
  unfold roundWithAccuracy
  rw [shifted]
  exact carried_eq sign (by exact_mod_cast bound) spaced.least

theorem log_window {m : ℕ} (positive : 0 < m) :
    (2 : ℚ) ^ (m.log2 : ℤ) ≤ m ∧ (m : ℚ) < 2 ^ ((m.log2 : ℤ) + 1) := by
  constructor
  · rw [zpow_natCast]
    exact_mod_cast Nat.log2_self_le positive.ne'
  · rw [← Nat.cast_succ, zpow_natCast]
    exact_mod_cast Nat.lt_log2_self

/-- A fraction lies around the power of two that its logarithms give. -/
theorem quotient_window {m n : ℕ} (e f : ℤ) (left : 0 < m) (right : 0 < n) :
    (2 : ℚ) ^ ((m.log2 : ℤ) + e - n.log2 - f - 1) < (m * 2 ^ e) / (n * 2 ^ f) ∧
      ((m : ℚ) * 2 ^ e) / (n * 2 ^ f) < 2 ^ ((m.log2 : ℤ) + e - n.log2 - f + 1) := by
  obtain ⟨lowM, highM⟩ := log_window left
  obtain ⟨lowN, highN⟩ := log_window right
  have powE : (0 : ℚ) < 2 ^ e := zpow_pos two_pos e
  have powF : (0 : ℚ) < 2 ^ f := zpow_pos two_pos f
  have sizeN : (0 : ℚ) < n := by exact_mod_cast right
  constructor
  · rw [lt_div_iff₀ (mul_pos sizeN powF)]
    calc (2 : ℚ) ^ ((m.log2 : ℤ) + e - n.log2 - f - 1) * (n * 2 ^ f)
        < 2 ^ ((m.log2 : ℤ) + e - n.log2 - f - 1) * (2 ^ ((n.log2 : ℤ) + 1) * 2 ^ f) := by
          gcongr
      _ = 2 ^ (m.log2 : ℤ) * 2 ^ e := by
          rw [← zpow_add₀ two_ne_zero, ← zpow_add₀ two_ne_zero, ← zpow_add₀ two_ne_zero]
          congr 1
          ring
      _ ≤ m * 2 ^ e := by gcongr
  · rw [div_lt_iff₀ (mul_pos sizeN powF)]
    calc (m : ℚ) * 2 ^ e < 2 ^ ((m.log2 : ℤ) + 1) * 2 ^ e := by gcongr
      _ = 2 ^ ((m.log2 : ℤ) + e - n.log2 - f + 1) * (2 ^ (n.log2 : ℤ) * 2 ^ f) := by
          rw [← zpow_add₀ two_ne_zero, ← zpow_add₀ two_ne_zero, ← zpow_add₀ two_ne_zero]
          congr 1
          ring
      _ ≤ 2 ^ ((m.log2 : ℤ) + e - n.log2 - f + 1) * (n * 2 ^ f) := by gcongr

theorem lt_of_zpow_lt {a b : ℤ} (less : (2 : ℚ) ^ a < 2 ^ b) : a < b :=
  (zpow_lt_zpow_iff_right₀ one_lt_two).mp less

theorem spaced_of_bits {x : ℚ} {bits : ℕ} {exponent total : ℤ} (low : bits ≤ x / 2 ^ exponent)
    (high : x / 2 ^ exponent < bits + 1) (above : 2 ^ (total - 1) < x)
    (most : exponent ≤ max (total - 53) (-1074)) :
    Spaced x (max (bits.log2 + exponent - 52) (-1074)) ∧
      exponent ≤ max (bits.log2 + exponent - 52) (-1074) := by
  have scale : (0 : ℚ) < 2 ^ exponent := zpow_pos two_pos exponent
  rw [le_div_iff₀ scale] at low
  rw [div_lt_iff₀ scale] at high
  rcases Nat.eq_zero_or_pos bits with zero | positive
  · subst zero
    have less := lt_of_zpow_lt (above.trans (by simpa using high))
    have least : max (((0 : ℕ).log2 : ℤ) + exponent - 52) (-1074) = -1074 := by
      simp only [Nat.log2_zero]
      omega
    rw [least]
    refine ⟨⟨le_refl _, ?_, Or.inl rfl⟩, by omega⟩
    calc x < 2 ^ exponent := by simpa using high
      _ ≤ 2 ^ (-1074 + 53 : ℤ) := zpow_le_zpow_right₀ one_le_two (by omega)
  · obtain ⟨lower, _⟩ := log_window positive
    have upper : (bits : ℚ) + 1 ≤ 2 ^ ((bits.log2 : ℤ) + 1) := by
      have next : bits + 1 ≤ 2 ^ (bits.log2 + 1) := Nat.lt_log2_self
      rw [← Nat.cast_succ, ← Nat.cast_succ, zpow_natCast]
      exact_mod_cast next
    have from' : (2 : ℚ) ^ ((bits.log2 : ℤ) + exponent) ≤ x := by
      rw [zpow_add₀ two_ne_zero]
      exact le_trans (mul_le_mul_of_nonneg_right lower scale.le) low
    have before : x < 2 ^ ((bits.log2 : ℤ) + 1 + exponent) := by
      rw [zpow_add₀ two_ne_zero]
      exact lt_of_lt_of_le high (mul_le_mul_of_nonneg_right upper scale.le)
    have wide := lt_of_zpow_lt (above.trans before)
    refine ⟨⟨le_max_right _ _, ?_, ?_⟩, by omega⟩
    · exact lt_of_lt_of_le before (zpow_le_zpow_right₀ one_le_two (by omega))
    · rcases le_total ((bits.log2 : ℤ) + exponent - 52) (-1074) with small | large
      · exact Or.inl (max_eq_right small)
      · right
        rw [max_eq_left large]
        simpa using from'

theorem divCore_spec {m n : ℕ} (e f : ℤ) (left : 0 < m) (right : 0 < n) :
    ∃ quotient exponent accuracy target,
      divCore .binary64 m e n f = (quotient, exponent, accuracy) ∧
      Shows (.ofMantissaAndAccuracy quotient accuracy)
        ((m * 2 ^ e) / (n * 2 ^ f) / 2 ^ exponent) ∧
      Spaced ((m * 2 ^ e) / (n * 2 ^ f)) target ∧ exponent ≤ target ∧
      Format.binary64.targetExponent (totalExponent quotient exponent) = target := by
  obtain ⟨above, below⟩ := quotient_window e f left right
  obtain ⟨exponent, chosen⟩ : ∃ exponent, exponent = min (e - f)
      (Format.binary64.targetExponent (totalExponent m e - totalExponent n f)) := ⟨_, rfl⟩
  have most : exponent ≤ max ((m.log2 : ℤ) + e - n.log2 - f - 53) (-1074) := by
    rw [chosen]
    simp only [Format.targetExponent, totalExponent, Format.mantissaBits, Format.minExponent]
    norm_num
    omega
  obtain ⟨amount, shift⟩ : ∃ amount : ℕ, e - f = exponent + amount :=
    ⟨(e - f - exponent).toNat, by omega⟩
  have count : (e - f - exponent).toNat = amount := by omega
  have exact : ((m : ℚ) * 2 ^ e) / (n * 2 ^ f) / 2 ^ exponent =
      ((m <<< amount : ℕ) : ℚ) / n := by
    obtain rfl : e = exponent + amount + f := by omega
    have powF : (2 : ℚ) ^ f ≠ 0 := zpow_ne_zero f two_ne_zero
    have powT : (2 : ℚ) ^ exponent ≠ 0 := zpow_ne_zero exponent two_ne_zero
    rw [Nat.shiftLeft_eq, zpow_add₀ two_ne_zero, zpow_add₀ two_ne_zero, zpow_natCast]
    push_cast
    field_simp
  have core : divCore .binary64 m e n f = ((m <<< amount) / n, exponent,
      accuracyOfFraction ((m <<< amount) % n) n) := by
    unfold divCore
    simp only [← chosen, count]
  have shows := shows_quotient (m <<< amount) right
  rw [← exact] at shows
  have low := shows.low
  have high := shows.high
  rw [mantissa_of_accuracy] at low high
  obtain ⟨spaced, room⟩ := spaced_of_bits low high above most
  exact ⟨_, _, _, _, core, shows, spaced, room, target_eq _ _⟩

theorem div_eq {m n : ℕ} {e f : ℤ} (left : 0 < m) (right : 0 < n) :
    ∃ (target : ℤ) (rounded : ℕ), Spaced ((m * 2 ^ e) / (n * 2 ^ f)) target ∧
      (rounded : ℤ) = PyRound.halfEven ((m * 2 ^ e) / (n * 2 ^ f) / 2 ^ target) ∧
      UnpackedFloat.div .binary64 (.finite .positive m e left) (.finite .positive n f right) =
        carried .positive target rounded := by
  obtain ⟨bits, exponent, accuracy, target, core, shows, spaced, room, aimed⟩ :=
    divCore_spec e f left right
  obtain ⟨rounded, whole, same⟩ := roundWithAccuracy_eq .positive shows spaced room aimed
  refine ⟨target, rounded, spaced, whole, ?_⟩
  rw [← same]
  show (match divCore .binary64 m e n f with
    | (bits, exponent, accuracy) => roundWithAccuracy .binary64 .positive bits exponent accuracy) = _
  rw [core]

structure Canonical (mantissa : ℕ) (exponent : ℤ) : Prop where
  fits : mantissa < 2 ^ 53
  least : -1074 ≤ exponent
  full : exponent = -1074 ∨ 2 ^ 52 ≤ mantissa

theorem implicit_bit (low : BitVec 52) : (1#1 ++ low).toNat = 2 ^ 52 + low.toNat := by
  rw [BitVec.toNat_append, ← Nat.shiftLeft_add_eq_or_of_lt low.isLt]
  rfl

theorem bias_eq : Format.binary64.exponentBias = 1023 := by rfl

theorem canonical_of_unpack {bits : BitVec 64} {sign : Sign} {mantissa : ℕ} {exponent : ℤ}
    {positive : 0 < mantissa}
    (unpacked : UnpackedFloat.unpack .binary64 bits = .finite sign mantissa exponent positive) :
    Canonical mantissa exponent := by
  have bound : (@unpackMantissa .binary64 bits).toNat < 2 ^ 52 :=
    (@unpackMantissa .binary64 bits).isLt
  have whole : (1#1 ++ @unpackMantissa .binary64 bits).toNat =
      2 ^ 52 + (@unpackMantissa .binary64 bits).toNat := implicit_bit _
  unfold UnpackedFloat.unpack at unpacked
  simp only [bias_eq] at unpacked
  split at unpacked
  · split at unpacked <;> cases unpacked
  · split at unpacked
    · split at unpacked
      · cases unpacked
      · rename_i zero _
        rw [zero] at unpacked
        cases unpacked
        exact ⟨bound.trans (by decide), le_refl _, Or.inl rfl⟩
    · rename_i nonzero
      have some' : 0 < (@unpackExponent .binary64 bits).toNat :=
        Nat.pos_of_ne_zero fun zero => nonzero (BitVec.eq_of_toNat_eq zero)
      cases unpacked
      refine ⟨?_, ?_, Or.inr ?_⟩
      · rw [whole]
        omega
      · push_cast
        omega
      · rw [whole]
        omega

theorem unpack_packed {mantissa : ℕ} {exponent : ℤ} (positive : 0 < mantissa)
    (canonical : Canonical mantissa exponent) :
    UnpackedFloat.unpack .binary64 (UnpackedFloat.pack .binary64
        (.finite .positive mantissa exponent positive)) =
      if exponent < 972 then .finite .positive mantissa exponent positive
      else .infinity .positive := by
  obtain ⟨fits, least, full⟩ := canonical
  unfold UnpackedFloat.pack
  simp only [bias_eq]
  by_cases small : exponent < 972
  · rw [if_pos small]
    obtain ⟨field, same⟩ : ∃ field : ℕ, exponent + 1075 = field :=
      ⟨(exponent + 1075).toNat, by omega⟩
    have count : (exponent + (1023 : ℕ) + (52 : ℕ)).toNat = field := by omega
    simp only [count]
    rw [if_neg (by omega)]
    have width : (BitVec.ofNat 11 field).toNat = field := by
      rw [BitVec.toNat_ofNat, Nat.mod_eq_of_lt (by omega)]
    split
    · rename_i normal
      have log : mantissa.log2 = 52 := by
        have : mantissa.log2 + 1 = 53 := normal
        omega
      have reached : 2 ^ 52 ≤ mantissa := (Nat.le_log2 positive.ne').mp log.ge
      have bits : (1#1 ++ BitVec.ofNat 52 mantissa).toNat = mantissa := by
        rw [implicit_bit, BitVec.toNat_ofNat]
        omega
      have inner : BitVec.ofNat 11 field ≠ -1#11 := by
        intro all
        have := congrArg BitVec.toNat all
        rw [width] at this
        simp at this
        omega
      have nonzero : BitVec.ofNat 11 field ≠ 0#11 := by
        intro none
        have := congrArg BitVec.toNat none
        rw [width] at this
        simp at this
        omega
      unfold UnpackedFloat.unpack
      simp only [unpackExponent_packComponents, unpackMantissa_packComponents,
        unpackSign_packComponents, Sign.ofBitVec_toBitVec, inner, nonzero, ↓reduceIte, bits, width,
        bias_eq]
      congr 1
      push_cast
      omega
    · rename_i subnormal
      have short : mantissa < 2 ^ 52 := by
        have log : mantissa.log2 < 53 := (Nat.log2_lt positive.ne').mpr fits
        have other : mantissa.log2 ≠ 52 := fun same => subnormal (by rw [same]; rfl)
        exact (Nat.log2_lt positive.ne').mp (by omega)
      have bits : (BitVec.ofNat 52 mantissa).toNat = mantissa := by
        rw [BitVec.toNat_ofNat, Nat.mod_eq_of_lt short]
      have nonzero : BitVec.ofNat 52 mantissa ≠ 0#52 := by
        intro none
        have := congrArg BitVec.toNat none
        rw [bits] at this
        simp at this
        omega
      have inner : (0#11) ≠ -1#11 := by decide
      unfold UnpackedFloat.unpack
      simp only [unpackExponent_packComponents, unpackMantissa_packComponents,
        unpackSign_packComponents, Sign.ofBitVec_toBitVec, inner, nonzero, ↓reduceIte, ↓reduceDIte,
        bits, bias_eq]
      congr 1
      push_cast
      rcases full with least' | large
      · rw [least']
      · omega
  · rw [if_neg small, if_pos (by omega)]
    unfold packedInfinity UnpackedFloat.unpack
    simp

def landed (exponent : ℤ) (mantissa : ℕ) : Place :=
  if mantissa = 0 then toLex (0, toLex (0, 0))
  else if mantissa < 2 ^ 53 then
    if exponent < 972 then toLex (1, toLex (exponent, mantissa)) else toLex (2, toLex (0, 0))
  else if exponent + 1 < 972 then toLex (1, toLex (exponent + 1, 2 ^ 52))
  else toLex (2, toLex (0, 0))

theorem place_carried {exponent : ℤ} {mantissa : ℕ} (least : -1074 ≤ exponent)
    (full : exponent = -1074 ∨ 2 ^ 52 ≤ mantissa) :
    place (Float.Model.pack (carried .positive exponent mantissa)).unpack =
      some (landed exponent mantissa) := by
  have unpacked (u : UnpackedFloat) : (Float.Model.pack u).unpack =
      UnpackedFloat.unpack .binary64 (UnpackedFloat.pack .binary64 u) := rfl
  rw [unpacked]
  unfold carried landed
  by_cases positive : 0 < mantissa
  · rw [dif_pos positive, if_neg positive.ne']
    by_cases fits : mantissa < 2 ^ 53
    · rw [if_pos fits, if_pos fits, unpack_packed positive ⟨fits, least, full⟩]
      split <;> rfl
    · rw [if_neg fits, if_neg fits, unpack_packed carried_pos
        ⟨by decide, by omega, Or.inr (le_refl _)⟩]
      split <;> rfl
  · obtain rfl : mantissa = 0 := by omega
    rw [dif_neg positive, if_pos rfl]
    rfl

theorem landed_mono {e f : ℤ} {m n : ℕ} (bound : m ≤ 2 ^ 53)
    (order : e < f ∧ 2 ^ 52 ≤ n ∨ e = f ∧ m ≤ n) : landed e m ≤ landed f n := by
  unfold landed
  split_ifs <;> simp [Prod.Lex.le_iff] <;> omega

def Positive (x : Float) : Prop :=
  ∃ mantissa exponent positive, x.toModel.unpack = .finite .positive mantissa exponent positive

theorem positive_of_bounds {x y : Float} (above : 0 < x) (below : x ≤ y) (finite : Positive y) :
    Positive x := by
  obtain ⟨n, f, positive, shape⟩ := finite
  obtain ⟨a, b, zero, rankX, less⟩ := lt_iff.mp above
  obtain ⟨c, d, again, rankY, le⟩ := le_iff.mp below
  obtain rfl : b = c := Option.some_inj.mp (rankX.symm.trans again)
  obtain rfl : toLex (0, toLex (0, 0)) = a := Option.some_inj.mp zero
  rw [rank, shape] at rankY
  obtain rfl : toLex (1, toLex (f, (n : ℤ))) = d := Option.some_inj.mp rankY
  unfold rank at rankX
  cases unpacked : x.toModel.unpack with
  | notANumber => rw [unpacked] at rankX; cases rankX
  | infinity s =>
    rw [unpacked] at rankX
    cases s <;> cases rankX
    · simp [Prod.Lex.lt_iff] at less
    · simp [Prod.Lex.le_iff] at le
  | zero s =>
    rw [unpacked] at rankX
    cases rankX
    exact absurd less (lt_irrefl _)
  | finite s m e h =>
    rw [unpacked] at rankX
    cases s with
    | negative =>
      cases rankX
      simp [Prod.Lex.lt_iff] at less
    | positive => exact ⟨m, e, h, unpacked⟩

theorem value_le {m n : ℕ} {e f : ℤ} (left : Canonical m e) (right : Canonical n f)
    (order : e < f ∨ e = f ∧ m ≤ n) : (m : ℚ) * 2 ^ e ≤ n * 2 ^ f := by
  rcases order with less | ⟨rfl, le⟩
  · have full : 2 ^ 52 ≤ n := by
      have := left.least
      rcases right.full with same | full
      · omega
      · exact full
    have small : (m : ℚ) ≤ 2 ^ (53 : ℤ) := by exact_mod_cast left.fits.le
    have large : (2 : ℚ) ^ (52 : ℤ) ≤ n := by exact_mod_cast full
    calc (m : ℚ) * 2 ^ e ≤ 2 ^ (53 : ℤ) * 2 ^ e := by gcongr
      _ = 2 ^ (53 + e) := by rw [zpow_add₀ two_ne_zero]
      _ ≤ 2 ^ (52 + f) := zpow_le_zpow_right₀ one_le_two (by omega)
      _ = 2 ^ (52 : ℤ) * 2 ^ f := by rw [zpow_add₀ two_ne_zero]
      _ ≤ n * 2 ^ f := by gcongr
  · have : (m : ℚ) ≤ n := by exact_mod_cast le
    gcongr

theorem values_of_le {x y : Float} {m n : ℕ} {e f : ℤ} {left : 0 < m} {right : 0 < n}
    (ofX : x.toModel.unpack = .finite .positive m e left)
    (ofY : y.toModel.unpack = .finite .positive n f right) (le : x ≤ y) :
    (m : ℚ) * 2 ^ e ≤ n * 2 ^ f := by
  obtain ⟨a, b, rankX, rankY, order⟩ := le_iff.mp le
  rw [rank, ofX] at rankX
  rw [rank, ofY] at rankY
  cases rankX
  cases rankY
  refine value_le (canonical_of_unpack ofX) (canonical_of_unpack ofY) ?_
  simpa [Prod.Lex.le_iff] using order

theorem rank_div {x y : Float} {m n : ℕ} {e f : ℤ} {left : 0 < m} {right : 0 < n}
    (ofX : x.toModel.unpack = .finite .positive m e left)
    (ofY : y.toModel.unpack = .finite .positive n f right) :
    ∃ (target : ℤ) (rounded : ℕ), Spaced ((m * 2 ^ e) / (n * 2 ^ f)) target ∧
      (rounded : ℤ) = PyRound.halfEven ((m * 2 ^ e) / (n * 2 ^ f) / 2 ^ target) ∧
      rank (x / y) = some (landed target rounded) := by
  obtain ⟨target, rounded, spaced, whole, quotient⟩ := div_eq left right
  refine ⟨target, rounded, spaced, whole, ?_⟩
  show place (Float.Model.pack (.div .binary64 x.toModel.unpack y.toModel.unpack)).unpack = _
  rw [ofX, ofY, quotient]
  have full := spaced.rounded_ge
  rw [← whole] at full
  exact place_carried spaced.least (by exact_mod_cast full)

theorem quotient_number {x y : Float} (left : Positive x) (right : Positive y) :
    rank (x / y) ≠ none := by
  obtain ⟨m, e, hm, ofX⟩ := left
  obtain ⟨n, f, hn, ofY⟩ := right
  obtain ⟨_, _, _, _, ranked⟩ := rank_div ofX ofY
  rw [ranked]
  exact Option.some_ne_none _

/-- A greater dividend and a smaller divisor give no smaller quotient. -/
theorem div_le_div {x y s t : Float} (positiveX : Positive x) (positiveY : Positive y)
    (positiveS : Positive s) (positiveT : Positive t) (more : x ≤ y) (less : t ≤ s) :
    x / s ≤ y / t := by
  obtain ⟨m, e, hm, ofX⟩ := positiveX
  obtain ⟨n, f, hn, ofY⟩ := positiveY
  obtain ⟨k, g, hk, ofS⟩ := positiveS
  obtain ⟨l, h, hl, ofT⟩ := positiveT
  obtain ⟨target, rounded, spaced, whole, first⟩ := rank_div ofX ofS
  obtain ⟨target', rounded', spaced', whole', second⟩ := rank_div ofY ofT
  have exact : ((m : ℚ) * 2 ^ e) / (k * 2 ^ g) ≤ (n * 2 ^ f) / (l * 2 ^ h) := by
    have dividends := values_of_le ofX ofY more
    have divisors := values_of_le ofT ofS less
    have size : (0 : ℚ) < l := by exact_mod_cast hl
    gcongr
  have bound := spaced.rounded_le
  have full := spaced'.rounded_ge
  rw [← whole] at bound
  rw [← whole'] at full
  refine le_iff.mpr ⟨_, _, first, second, landed_mono (by exact_mod_cast bound) ?_⟩
  rcases (spaced.mono spaced' exact).lt_or_eq with apart | rfl
  · have := spaced.least
    refine Or.inl ⟨apart, ?_⟩
    rcases full with least | reached
    · omega
    · exact_mod_cast reached
  · have halves : PyRound.halfEven ((m * 2 ^ e) / (k * 2 ^ g) / 2 ^ target) ≤
        PyRound.halfEven ((n * 2 ^ f) / (l * 2 ^ h) / 2 ^ target) :=
      PyRound.halfEven_mono (by gcongr)
    rw [← whole, ← whole'] at halves
    exact Or.inr ⟨rfl, by exact_mod_cast halves⟩

end Binary64
