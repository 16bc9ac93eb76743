import Glm53Overlay.AdaptiveK.Policy
import Glm53Overlay.DecodeFloor.GateModel
import Glm53Overlay.Library.Numerals
import Glm53Overlay.NumericConfig.Validate

/-!
What the engine reads of a configuration the launcher accepted: the canonical counts, the gate
knobs, and the width set, whose elements the launcher compares as machine integers.
-/
namespace NumericConfig
open PyText ShellText ShellVars Numerals

/-- A knob that goes through `_glm53_canonical_positive_int`. -/
structure Knob where
  name : String
  default : String
  maximum : String

def Knob.given (k : Knob) (vars : Vars) : String := vars.orEmpty k.name k.default

def checkedKnobs (vars : Vars) : List Knob :=
  [⟨"MAX_MODEL_LEN", "", "1000000"⟩, ⟨"MAX_NUM_SEQS", "", "4096"⟩,
    ⟨"MAX_NUM_BATCHED_TOKENS", "", "8388608"⟩,
    ⟨"GLM53_ADAPTIVE_K_MIN_STEPS", "4", "64"⟩,
    ⟨"GLM53_MIXED_PREFILL_LATE_CAP", "512", "8192"⟩,
    ⟨"GLM53_MIXED_PREFILL_LATE_CAP_MAX", "1792", "8192"⟩] ++
  (if isDflash vars then [⟨"DFLASH_TOKENS", "", "64"⟩] else []) ++
  if vars.text "DEFAULT_MAX_NEW_TOKENS" = "" then []
  else [⟨"DEFAULT_MAX_NEW_TOKENS", "", "1000000"⟩]

/-- A numeral in range, exported as the zero-free numeral of the same value. -/
structure Reexported (given maximum : String) (out : Option String) : Prop where
  numeral : isNumeral given.toList = true
  range : 1 ≤ value given.toList ∧ value given.toList ≤ value maximum.toList
  exported : ∃ text, out = some text ∧ isNumeral text.toList = true ∧
    text.toList.head? ≠ some '0' ∧ text.toList.length ≤ maximum.toList.length ∧
    value text.toList = value given.toList

theorem value_drop_zeros (cs : List Char) : value (cs.dropWhile (· == '0')) = value cs := by
  induction cs with
  | nil => rfl
  | cons c rest ih =>
    by_cases zero : c = '0'
    · subst zero
      rw [List.dropWhile_cons_of_pos (by simp), ih, value_zero_cons]
    · rw [List.dropWhile_cons_of_neg (by simpa using zero)]

theorem value_pos {c : Char} {rest : List Char} (digit : c.isDigit = true) (nonzero : c ≠ '0') :
    1 ≤ value (c :: rest) := by
  have range := digit_le digit
  have more : 49 ≤ c.toNat := by
    rcases Nat.lt_or_eq_of_le range.1 with less | same
    · exact less
    · have zero : c.toNat = '0'.toNat := same.symm
      exact absurd (Char.ext (UInt32.toNat_inj.mp zero)) nonzero
  have power : 1 ≤ 10 ^ rest.length := Nat.one_le_pow _ _ (by omega)
  have first : 1 * 1 ≤ (c.toNat - 48) * 10 ^ rest.length := Nat.mul_le_mul (by omega) power
  rw [value_cons]
  omega

theorem test_gt_iff {a b : List Char} (left : a.all Char.isDigit = true) (short : a.length ≤ 18)
    (right : b.all Char.isDigit = true) (brief : b.length ≤ 18) :
    testGt a b = true ↔ value b < value a := by
  unfold testGt operand
  rw [if_pos (value_le_machineMax left short), if_pos (value_le_machineMax right brief)]
  exact decide_eq_true_iff

theorem canonical_reexported {given maximum out : String}
    (limit : maximum.toList.all Char.isDigit = true) (brief : maximum.toList.length ≤ 18)
    (done : canonicalPositiveInt given maximum = some out) :
    Reexported given maximum (some out) := by
  unfold canonicalPositiveInt at done
  split at done
  case isFalse => exact absurd done (by simp)
  rename_i numeral
  have digits : given.toList.all Char.isDigit = true := by
    unfold isNumeral at numeral
    exact (Bool.and_eq_true _ _ ▸ numeral).2
  have same := value_drop_zeros given.toList
  have left : (given.toList.dropWhile (· == '0')).all Char.isDigit = true := by
    rw [List.all_eq_true] at digits ⊢
    intro c member
    exact digits c ((List.dropWhile_suffix _).subset member)
  have head := List.head?_dropWhile_not (· == '0') given.toList
  cases shape : given.toList.dropWhile (· == '0') with
  | nil =>
    rw [shape] at done
    exact absurd done (by simp)
  | cons c rest =>
    rw [shape] at done same left head
    simp only at done
    split at done
    · exact absurd done (by simp)
    rename_i fits
    rw [not_or, not_or] at fits
    obtain ⟨_, width, below⟩ := fits
    have nonzero : c ≠ '0' := by simpa using head
    have first : c.isDigit = true := (List.all_eq_true.mp left) c List.mem_cons_self
    have most : ¬ value maximum.toList < value (c :: rest) :=
      fun more => below ((test_gt_iff left (by omega) limit brief).mpr more)
    have least : 1 ≤ value (c :: rest) := value_pos first nonzero
    have written := Option.some.inj done
    refine ⟨numeral, ⟨by omega, by omega⟩, out, rfl, ?_, ?_, ?_, ?_⟩
    · rw [← written, String.toList_ofList]
      exact left
    · rw [← written, String.toList_ofList]
      simpa using nonzero
    · rw [← written, String.toList_ofList]
      omega
    · rw [← written, String.toList_ofList, same]

theorem bounded_value {text : String} {width : Nat} {maximum : Int} (short : width ≤ 18)
    (fits : bounded text width maximum = true) :
    isNumeral text.toList = true ∧ text.toList.length ≤ width ∧
      (value text.toList : Int) ≤ maximum := by
  unfold bounded at fits
  simp only [Bool.and_eq_true, decide_eq_true_eq] at fits
  obtain ⟨⟨numeral, length⟩, most⟩ := fits
  have digits : text.toList.all Char.isDigit = true := by
    unfold isNumeral at numeral
    exact (Bool.and_eq_true _ _ ▸ numeral).2
  rw [arithmetic_eq digits (by omega)] at most
  exact ⟨numeral, length, most⟩

/-- The engine's reader takes the text at its value, with no fallback. -/
structure ReadsAs (raw : Option String) (lo hi v : Int) : Prop where
  text : ∃ text, raw = some text ∧ strip text ≠ "" ∧ toInt (strip text) = some v
  range : lo ≤ v ∧ v ≤ hi

theorem reads_numeral {text : String} (numeral : isNumeral text.toList = true)
    (short : text.toList.length ≤ maxStrDigits) {lo hi : Int} (low : lo ≤ value text.toList)
    (high : (value text.toList : Int) ≤ hi) : ReadsAs (some text) lo hi (value text.toList) := by
  have pieces : text.toList ≠ [] ∧ text.toList.all Char.isDigit = true := by
    unfold isNumeral at numeral
    simpa using numeral
  have bare : strip text = text := by
    unfold strip
    rw [strip_digits pieces.2, String.ofList_toList]
  refine ⟨⟨text, rfl, ?_, ?_⟩, low, high⟩
  · rw [bare]
    rintro rfl
    exact pieces.1 rfl
  · rw [bare, to_int_numeral numeral, if_pos short]

theorem ReadsAs.knob {raw : Option String} {lo hi v : Int} (reads : ReadsAs raw lo hi v)
    (default : Int) : DecodeFloorGate.intKnob raw default lo hi = v := by
  obtain ⟨text, rfl, full, number⟩ := reads.text
  have range := reads.range
  unfold DecodeFloorGate.intKnob
  dsimp only
  rw [if_neg full, number]
  dsimp only
  rw [if_neg (by omega)]

structure GateRun (vars vars' : Vars) : Prop where
  warm : vars' "GLM53_MIXED_PREFILL_WARM_TOKENS" =
      some (vars.orEmpty "GLM53_MIXED_PREFILL_WARM_TOKENS" "3584") ∧
    bounded (vars.orEmpty "GLM53_MIXED_PREFILL_WARM_TOKENS" "3584") 7 1000000 = true
  wait : vars' "GLM53_MIXED_PREFILL_MAX_WAIT_MS" =
      some (vars.orEmpty "GLM53_MIXED_PREFILL_MAX_WAIT_MS" "1500") ∧
    bounded (vars.orEmpty "GLM53_MIXED_PREFILL_MAX_WAIT_MS" "1500") 7 600000 = true
  escalate : vars' "GLM53_MIXED_PREFILL_ESCALATE_MS" =
      some (vars.orEmpty "GLM53_MIXED_PREFILL_ESCALATE_MS" "0") ∧
    bounded (vars.orEmpty "GLM53_MIXED_PREFILL_ESCALATE_MS" "0") 7 600000 = true
  caps : ∃ lateCap lateCapMax,
    canonicalPositiveInt (vars.orEmpty "GLM53_MIXED_PREFILL_LATE_CAP" "512") "8192" =
      some lateCap ∧
    canonicalPositiveInt (vars.orEmpty "GLM53_MIXED_PREFILL_LATE_CAP_MAX" "1792") "8192" =
      some lateCapMax ∧
    vars' "GLM53_MIXED_PREFILL_LATE_CAP" = some lateCap ∧
    vars' "GLM53_MIXED_PREFILL_LATE_CAP_MAX" = some lateCapMax ∧
    testLt lateCap.toList "64".toList = false ∧
    testLt lateCapMax.toList lateCap.toList = false

theorem assign_eq {name : String} {value : Vars → Option String} {vars vars' : Vars}
    (ran : (Step.assign name value).run vars = some vars') :
    ∃ text, value vars = some text ∧ vars' = Function.update vars name (some text) := by
  obtain ⟨text, found, rfl⟩ := Option.map_eq_some_iff.mp ran
  exact ⟨text, found, rfl⟩

theorem gate_run {vars vars' : Vars} (ran : runSteps validateGate vars = some vars') :
    GateRun vars vars' := by
  unfold validateGate canonical at ran
  obtain ⟨a, step, ran⟩ := run_cons ran
  obtain ⟨warm, warmRead, rfl⟩ := assign_eq step
  obtain ⟨b, step, ran⟩ := run_cons ran
  obtain ⟨wait, waitRead, rfl⟩ := assign_eq step
  obtain ⟨c, step, ran⟩ := run_cons ran
  obtain ⟨late, lateRead, rfl⟩ := assign_eq step
  obtain ⟨d, step, ran⟩ := run_cons ran
  obtain ⟨warmFits, rfl⟩ := check_run step
  obtain ⟨e, step, ran⟩ := run_cons ran
  obtain ⟨waitFits, rfl⟩ := check_run step
  obtain ⟨f, step, ran⟩ := run_cons ran
  obtain ⟨lateCap, lateCapRead, rfl⟩ := assign_eq step
  obtain ⟨g, step, ran⟩ := run_cons ran
  obtain ⟨lateFits, rfl⟩ := check_run step
  obtain ⟨h, step, ran⟩ := run_cons ran
  obtain ⟨escalate, escalateRead, rfl⟩ := assign_eq step
  obtain ⟨i, step, ran⟩ := run_cons ran
  obtain ⟨top, topRead, rfl⟩ := assign_eq step
  obtain ⟨j, step, ran⟩ := run_cons ran
  obtain ⟨escalateFits, rfl⟩ := check_run step
  obtain ⟨k, step, ran⟩ := run_cons ran
  obtain ⟨lateCapMax, topCapRead, rfl⟩ := assign_eq step
  obtain ⟨l, step, ran⟩ := run_cons ran
  obtain ⟨topFits, rfl⟩ := check_run step
  obtain rfl := Option.some.inj ran
  simp only [ne_eq, String.reduceEq, not_false_eq_true, text_update_self, text_update_of_ne,
    or_empty_update_of_ne, Option.some.injEq, Bool.not_eq_eq_eq_not, Bool.not_true]
    at warmRead waitRead lateRead escalateRead topRead warmFits waitFits lateFits escalateFits
      topFits lateCapRead topCapRead
  rw [← warmRead] at warmFits
  rw [← waitRead] at waitFits
  rw [← escalateRead] at escalateFits
  rw [← lateRead] at lateCapRead
  rw [← topRead] at topCapRead
  refine ⟨⟨?_, warmFits⟩, ⟨?_, waitFits⟩, ⟨?_, escalateFits⟩,
    lateCap, lateCapMax, lateCapRead, topCapRead, ?_, ?_, lateFits, topFits⟩
  · rw [warmRead]
    simp
  · rw [waitRead]
    simp
  · rw [escalateRead]
    simp
  · simp
  · simp

theorem or_empty_congr {vars vars' : Vars} {name : String} (same : vars' name = vars name)
    (default : String) : vars'.orEmpty name default = vars.orEmpty name default := by
  unfold Vars.orEmpty Vars.text
  rw [same]

theorem or_empty_nil (vars : Vars) (name : String) : vars.orEmpty name "" = vars.text name := by
  unfold Vars.orEmpty
  split
  · rename_i empty
    exact empty.symm
  · rfl

section First
variable {awk : Awk} {vars middle vars' : Vars}

theorem first_writes (awk : Awk) : (validateFirst awk).flatMap Step.writes =
    ["MAX_MODEL_LEN", "MAX_NUM_SEQS", "MAX_NUM_BATCHED_TOKENS", "DFLASH_TOKENS",
      "EXL3_TEMP_ROWS_FUSED", "EXL3_TEMP_ROWS_FUSED", "GLM53_ADAPTIVE_K_MIN_STEPS",
      "GLM53_ADAPTIVE_K_HIST", "DEFAULT_MAX_NEW_TOKENS"] := rfl

theorem gate_writes : validateGate.flatMap Step.writes =
    ["GLM53_MIXED_PREFILL_WARM_TOKENS", "GLM53_MIXED_PREFILL_MAX_WAIT_MS",
      "GLM53_MIXED_PREFILL_LATE_CAP", "GLM53_MIXED_PREFILL_LATE_CAP",
      "GLM53_MIXED_PREFILL_ESCALATE_MS", "GLM53_MIXED_PREFILL_LATE_CAP_MAX",
      "GLM53_MIXED_PREFILL_LATE_CAP_MAX"] := rfl

theorem first_reexported (first : runSteps (validateFirst awk) vars = some middle)
    (second : runSteps validateGate middle = some vars') {k : Knob} (step : Step)
    (member : step ∈ validateFirst awk) (writes : k.name ∈ step.writes)
    (once : ((validateFirst awk).flatMap Step.writes).count k.name = 1)
    (outside : k.name ∉ validateGate.flatMap Step.writes)
    (limit : k.maximum.toList.all Char.isDigit = true) (brief : k.maximum.toList.length ≤ 18)
    (exports : ∀ met left, step.run met = some left → met k.name = vars k.name →
      met "SPEC_METHOD" = vars "SPEC_METHOD" →
      ∃ out, canonicalPositiveInt (k.given vars) k.maximum = some out ∧ left k.name = some out) :
    Reexported (k.given vars) k.maximum (vars' k.name) := by
  obtain ⟨met, left, stepped, early, late, others⟩ := run_writer member writes once first
  have method := others "SPEC_METHOD" (by rw [first_writes]; decide)
  obtain ⟨out, done, written⟩ := exports met left stepped early method
  rw [run_frame second k.name outside, late, written]
  exact canonical_reexported limit brief done

theorem canonical_exports {k : Knob} {read : Vars → String} {met left : Vars}
    (stepped : (canonical k.name k.maximum read).run met = some left)
    (reads : read met = k.given vars) :
    ∃ out, canonicalPositiveInt (k.given vars) k.maximum = some out ∧ left k.name = some out := by
  obtain ⟨out, done, written⟩ := assign_run stepped
  rw [reads] at done
  exact ⟨out, done, written⟩

theorem given_of_text {k : Knob} {met : Vars} (bare : k.default = "")
    (early : met k.name = vars k.name) : met.text k.name = k.given vars := by
  unfold Knob.given
  rw [bare, or_empty_nil]
  unfold Vars.text
  rw [early]

end First

end NumericConfig
