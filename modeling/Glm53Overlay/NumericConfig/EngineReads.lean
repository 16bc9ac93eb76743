import Glm53Overlay.NumericConfig.Agreement

/-!
An accepted configuration is the one the engine reads, up to the width set. The loop over its
elements compares machine integers, and an operand that does not fit passes both comparisons.
-/
namespace NumericConfig
open PyText ShellText ShellVars Numerals DecodeFloorGate

def gateEnv (vars : Vars) : GateEnv where
  warmTokens := some (vars.text "GLM53_MIXED_PREFILL_WARM_TOKENS")
  maxWaitMs := some (vars.text "GLM53_MIXED_PREFILL_MAX_WAIT_MS")
  lateCap := some (vars.text "GLM53_MIXED_PREFILL_LATE_CAP")
  escalateMs := some (vars.text "GLM53_MIXED_PREFILL_ESCALATE_MS")
  lateCapMax := some (vars.text "GLM53_MIXED_PREFILL_LATE_CAP_MAX")

def policyEnv (vars : Vars) : AdaptiveK.Env where
  mode := some (vars.text "GLM53_ADAPTIVE_K")
  capture := some (vars.text "GLM53_ADAPTIVE_K_CAPTURE")
  alpha := some (vars.text "GLM53_ADAPTIVE_K_ALPHA")
  margin := some (vars.text "GLM53_ADAPTIVE_K_MARGIN")
  minSteps := some (vars.text "GLM53_ADAPTIVE_K_MIN_STEPS")
  set := some (vars.text "GLM53_ADAPTIVE_K_SET")
  saturate := some (vars.text "GLM53_ADAPTIVE_K_SATURATE")
  hist := some (vars.text "GLM53_ADAPTIVE_K_HIST")
  batchMargin := some (vars.text "GLM53_ADAPTIVE_K_BATCH_MARGIN")
  posTrim := some (vars.text "GLM53_ADAPTIVE_K_POS_TRIM")

def TakenAs (raw : Option String) (lo hi : Int) (given : String) (held : Int) : Prop :=
  ReadsAs raw lo hi (value given.toList) ∧ held = value given.toList

structure GateAgrees (vars vars' : Vars) : Prop where
  warm : TakenAs (gateEnv vars').warmTokens 0 1000000
    (vars.orEmpty "GLM53_MIXED_PREFILL_WARM_TOKENS" "3584") (gateConfig (gateEnv vars')).warmTokens
  wait : TakenAs (gateEnv vars').maxWaitMs 0 600000
    (vars.orEmpty "GLM53_MIXED_PREFILL_MAX_WAIT_MS" "1500") (gateConfig (gateEnv vars')).maxWaitMs
  late : TakenAs (gateEnv vars').lateCap 64 8192
    (vars.orEmpty "GLM53_MIXED_PREFILL_LATE_CAP" "512") (gateConfig (gateEnv vars')).lateCap
  escalate : TakenAs (gateEnv vars').escalateMs 0 600000
    (vars.orEmpty "GLM53_MIXED_PREFILL_ESCALATE_MS" "0") (gateConfig (gateEnv vars')).escalateMs
  top : TakenAs (gateEnv vars').lateCapMax 64 8192
    (vars.orEmpty "GLM53_MIXED_PREFILL_LATE_CAP_MAX" "1792") (gateConfig (gateEnv vars')).lateCapMax
  unclamped : value (vars.orEmpty "GLM53_MIXED_PREFILL_LATE_CAP" "512").toList ≤
    value (vars.orEmpty "GLM53_MIXED_PREFILL_LATE_CAP_MAX" "1792").toList

def SetAgrees (vars' : Vars) : Prop :=
  ∃ ks, (policyEnv vars').widths = some ks ∧ (∀ k ∈ ks, 1 ≤ k ∧ k ≤ 7) ∧ 7 ∈ ks

structure EngineAgrees (vars vars' : Vars) : Prop where
  counts : ∀ k ∈ checkedKnobs vars, Reexported (k.given vars) k.maximum (vars' k.name)
  gate : GateAgrees vars vars'
  widths : SetAgrees vars'

/-- Every element of the set is an operand of `test`, and short enough for `int`. -/
def SetFits (vars : Vars) : Prop :=
  vars.text "GLM53_ADAPTIVE_K_SET" ≠ "" ∧
    ∀ k ∈ (vars.text "GLM53_ADAPTIVE_K_SET").toList.splitOn ',',
      value k ≤ machineMax ∧ k.length ≤ maxStrDigits

section Counts
variable {awk : Awk} {vars middle vars' : Vars}

theorem late_reexported (second : runSteps validateGate middle = some vars')
    (first : runSteps (validateFirst awk) vars = some middle) :
    Reexported (vars.orEmpty "GLM53_MIXED_PREFILL_LATE_CAP" "512") "8192"
        ( vars' "GLM53_MIXED_PREFILL_LATE_CAP") ∧
      Reexported (vars.orEmpty "GLM53_MIXED_PREFILL_LATE_CAP_MAX" "1792") "8192"
        ( vars' "GLM53_MIXED_PREFILL_LATE_CAP_MAX") := by
  obtain ⟨lateCap, lateCapMax, lateDone, topDone, late, top, _, _⟩ := (gate_run second).caps
  have kept : ∀ name ∈ ["GLM53_MIXED_PREFILL_LATE_CAP", "GLM53_MIXED_PREFILL_LATE_CAP_MAX"],
      middle name = vars name := by
    intro name member
    apply run_frame first
    rw [first_writes]
    revert name
    decide
  rw [or_empty_congr (kept "GLM53_MIXED_PREFILL_LATE_CAP" (by decide))] at lateDone
  rw [or_empty_congr (kept "GLM53_MIXED_PREFILL_LATE_CAP_MAX" (by decide))] at topDone
  rw [late, top]
  exact ⟨canonical_reexported (by decide) (by decide) lateDone,
    canonical_reexported (by decide) (by decide) topDone⟩

theorem text_reexported (first : runSteps (validateFirst awk) vars = some middle)
    (second : runSteps validateGate middle = some vars') {k : Knob} (bare : k.default = "")
    (member : canonical k.name k.maximum (·.text k.name) ∈ validateFirst awk)
    (once : ((validateFirst awk).flatMap Step.writes).count k.name = 1)
    (outside : k.name ∉ validateGate.flatMap Step.writes)
    (limit : k.maximum.toList.all Char.isDigit = true) (brief : k.maximum.toList.length ≤ 18) :
    Reexported (k.given vars) k.maximum (vars' k.name) := by
  apply first_reexported first second _ member (List.mem_singleton_self _) once outside limit brief
  intro met left stepped early _
  exact canonical_exports stepped (given_of_text bare early)

theorem when_reexported (first : runSteps (validateFirst awk) vars = some middle)
    (second : runSteps validateGate middle = some vars') {k : Knob} (bare : k.default = "")
    (condition : Vars → Bool)
    (member : Step.when condition (canonical k.name k.maximum (·.text k.name)) ∈
      validateFirst awk)
    (holds : ∀ met : Vars, met k.name = vars k.name → met "SPEC_METHOD" = vars "SPEC_METHOD" →
      condition met = true)
    (once : ((validateFirst awk).flatMap Step.writes).count k.name = 1)
    (outside : k.name ∉ validateGate.flatMap Step.writes)
    (limit : k.maximum.toList.all Char.isDigit = true) (brief : k.maximum.toList.length ≤ 18) :
    Reexported (k.given vars) k.maximum (vars' k.name) := by
  apply first_reexported first second _ member (List.mem_singleton_self _) once outside limit brief
  intro met left stepped early method
  rcases when_run stepped with ⟨_, inner⟩ | ⟨off, _⟩
  · exact canonical_exports inner (given_of_text bare early)
  · rw [holds met early method] at off
    exact absurd off (by simp)

theorem counts_agree (first : runSteps (validateFirst awk) vars = some middle)
    (second : runSteps validateGate middle = some vars') :
    ∀ k ∈ checkedKnobs vars, Reexported (k.given vars) k.maximum (vars' k.name) := by
  intro k member
  rcases List.mem_append.mp member with always | limit
  · rcases List.mem_append.mp always with plain | drafts
    · obtain ⟨late, top⟩ := late_reexported second first
      simp only [List.mem_cons, List.not_mem_nil, or_false] at plain
      rcases plain with rfl | rfl | rfl | rfl | rfl | rfl
      · exact text_reexported first second rfl (by simp [validateFirst]) (by rw [first_writes]; decide)
          (by rw [gate_writes]; decide) (by decide) (by decide)
      · exact text_reexported first second rfl (by simp [validateFirst]) (by rw [first_writes]; decide)
          (by rw [gate_writes]; decide) (by decide) (by decide)
      · exact text_reexported first second rfl (by simp [validateFirst]) (by rw [first_writes]; decide)
          (by rw [gate_writes]; decide) (by decide) (by decide)
      · apply first_reexported first second (canonical "GLM53_ADAPTIVE_K_MIN_STEPS" "64"
            (·.orEmpty "GLM53_ADAPTIVE_K_MIN_STEPS" "4")) (by simp [validateFirst])
          (List.mem_singleton_self _) (by rw [first_writes]; decide)
          (by rw [gate_writes]; decide) (by decide) (by decide)
        intro met left stepped early _
        exact canonical_exports stepped (or_empty_congr early _)
      · exact late
      · exact top
    · split at drafts
      · rename_i dflash
        rw [List.mem_singleton.mp drafts]
        apply when_reexported first second rfl isDflash (by simp [validateFirst]) ?_
          (by rw [first_writes]; decide) (by rw [gate_writes]; decide) (by decide) (by decide)
        intro met _ method
        unfold isDflash Vars.text at dflash ⊢
        rw [method]
        exact dflash
      · exact absurd drafts (by simp)
  · split at limit
    · exact absurd limit (by simp)
    · rename_i given
      rw [List.mem_singleton.mp limit]
      apply when_reexported first second rfl (fun v => v.text "DEFAULT_MAX_NEW_TOKENS" != "")
        (by simp [validateFirst]) ?_ (by rw [first_writes]; decide)
        (by rw [gate_writes]; decide) (by decide) (by decide)
      intro met early _
      unfold Vars.text at given ⊢
      rw [early]
      simpa using given

end Counts

section Gate
variable {awk : Awk} {vars middle vars' : Vars}

theorem gate_kept (first : runSteps (validateFirst awk) vars = some middle) :
    ∀ name ∈ validateGate.flatMap Step.writes, middle name = vars name := by
  intro name member
  apply run_frame first
  rw [first_writes]
  rw [gate_writes] at member
  revert name
  decide

theorem config_warm (env : GateEnv) :
    (gateConfig env).warmTokens = intKnob env.warmTokens 3584 0 1000000 := by
  unfold gateConfig
  rfl

theorem config_wait (env : GateEnv) :
    (gateConfig env).maxWaitMs = intKnob env.maxWaitMs 1500 0 600000 := by
  unfold gateConfig
  rfl

theorem config_late (env : GateEnv) :
    (gateConfig env).lateCap = intKnob env.lateCap 512 64 8192 := by
  unfold gateConfig
  rfl

theorem config_escalate (env : GateEnv) :
    (gateConfig env).escalateMs = intKnob env.escalateMs 0 0 600000 := by
  unfold gateConfig
  rfl

theorem config_top (env : GateEnv)
    (above : intKnob env.lateCap 512 64 8192 ≤ intKnob env.lateCapMax 1792 64 8192) :
    (gateConfig env).lateCapMax = intKnob env.lateCapMax 1792 64 8192 := by
  unfold gateConfig
  exact if_neg (by omega)

theorem bounded_taken {text : String} {maximum : Int} (fits : bounded text 7 maximum = true)
    (default : Int) : TakenAs (some text) 0 maximum text (intKnob (some text) default 0 maximum) := by
  obtain ⟨numeral, length, most⟩ := bounded_value (by omega) fits
  have reads := reads_numeral numeral (by unfold maxStrDigits; omega) (Int.natCast_nonneg _) most
  exact ⟨reads, reads.knob default⟩

theorem canonical_taken {given out : String}
    (done : canonicalPositiveInt given "8192" = some out)
    (least : 64 ≤ value given.toList) (default : Int) :
    TakenAs (some out) 64 8192 given (intKnob (some out) default 64 8192) := by
  have exported := canonical_reexported (by decide) (by decide) done
  obtain ⟨text, same, numeral, _, short, equal⟩ := exported.exported
  obtain rfl := Option.some.inj same
  have limit : value "8192".toList = 8192 := by decide
  have width : "8192".toList.length = 4 := by decide
  have most := exported.range.2
  rw [limit] at most
  have low : (64 : Int) ≤ value out.toList := by omega
  have high : (value out.toList : Int) ≤ 8192 := by omega
  have reads := reads_numeral numeral (by unfold maxStrDigits; omega) low high
  rw [equal] at reads
  exact ⟨reads, reads.knob default⟩

theorem not_test_lt {a b : String} (left : a.toList.all Char.isDigit = true)
    (short : a.toList.length ≤ 18) (right : b.toList.all Char.isDigit = true)
    (brief : b.toList.length ≤ 18) (fails : testLt a.toList b.toList = false) :
    value b.toList ≤ value a.toList := by
  by_contra less
  have holds := (test_gt_iff right brief left short).mpr (by omega)
  unfold testLt at fails
  rw [holds] at fails
  exact absurd fails (by simp)

theorem numeral_digits {cs : List Char} (numeral : isNumeral cs = true) :
    cs.all Char.isDigit = true := by
  unfold isNumeral at numeral
  exact (Bool.and_eq_true _ _ ▸ numeral).2

theorem gate_agrees (first : runSteps (validateFirst awk) vars = some middle)
    (second : runSteps validateGate middle = some vars') : GateAgrees vars vars' := by
  have run := gate_run second
  have kept := gate_kept first
  have same : ∀ name ∈ validateGate.flatMap Step.writes, ∀ default,
      middle.orEmpty name default = vars.orEmpty name default :=
    fun name member => or_empty_congr (kept name member)
  have text : ∀ {name value : String}, vars' name = some value → vars'.text name = value := by
    intro name value held
    unfold Vars.text
    rw [held, Option.getD_some]
  obtain ⟨warm, warmFits⟩ := run.warm
  obtain ⟨wait, waitFits⟩ := run.wait
  obtain ⟨escalate, escalateFits⟩ := run.escalate
  obtain ⟨lateCap, lateCapMax, lateDone, topDone, late, top, least, order⟩ := run.caps
  rw [same "GLM53_MIXED_PREFILL_WARM_TOKENS" (by rw [gate_writes]; decide)] at warm warmFits
  rw [same "GLM53_MIXED_PREFILL_MAX_WAIT_MS" (by rw [gate_writes]; decide)] at wait waitFits
  rw [same "GLM53_MIXED_PREFILL_ESCALATE_MS" (by rw [gate_writes]; decide)] at escalate
  rw [same "GLM53_MIXED_PREFILL_ESCALATE_MS" (by rw [gate_writes]; decide)] at escalateFits
  rw [same "GLM53_MIXED_PREFILL_LATE_CAP" (by rw [gate_writes]; decide)] at lateDone
  rw [same "GLM53_MIXED_PREFILL_LATE_CAP_MAX" (by rw [gate_writes]; decide)] at topDone
  obtain ⟨lateText, lateSame, lateNumeral, _, lateShort, lateValue⟩ :=
    (canonical_reexported (by decide) (by decide) lateDone).exported
  obtain ⟨topText, topSame, topNumeral, _, topShort, topValue⟩ :=
    (canonical_reexported (by decide) (by decide) topDone).exported
  obtain rfl := Option.some.inj lateSame
  obtain rfl := Option.some.inj topSame
  have width : "8192".toList.length = 4 := by decide
  have floor : value "64".toList = 64 := by decide
  have lateLeast := not_test_lt (numeral_digits lateNumeral) (by omega) (by decide) (by decide)
    least
  have ordered := not_test_lt (numeral_digits topNumeral) (by omega) (numeral_digits lateNumeral)
    (by omega) order
  have lateTaken := canonical_taken lateDone (by omega) 512
  have topTaken := canonical_taken topDone (by omega) 1792
  have warmRaw : (gateEnv vars').warmTokens = _ := congrArg some (text warm)
  have waitRaw : (gateEnv vars').maxWaitMs = _ := congrArg some (text wait)
  have lateRaw : (gateEnv vars').lateCap = _ := congrArg some (text late)
  have escalateRaw : (gateEnv vars').escalateMs = _ := congrArg some (text escalate)
  have topRaw : (gateEnv vars').lateCapMax = _ := congrArg some (text top)
  refine ⟨?_, ?_, ?_, ?_, ?_, by omega⟩
  · rw [config_warm, warmRaw]
    exact bounded_taken warmFits 3584
  · rw [config_wait, waitRaw]
    exact bounded_taken waitFits 1500
  · rw [config_late, lateRaw]
    exact lateTaken
  · rw [config_escalate, escalateRaw]
    exact bounded_taken escalateFits 0
  · rw [config_top _ (by rw [lateRaw, topRaw, lateTaken.2, topTaken.2]; omega), topRaw]
    exact topTaken

end Gate

section Widths
variable {awk : Awk} {vars middle vars' : Vars}

theorem set_loop_iff (ks : List (List Char)) : ∀ hasSeven, setLoop hasSeven ks = true ↔
    (∀ k ∈ ks, testLt k ['1'] = false ∧ testGt k ['7'] = false ∧ k ≠ []) ∧
      (hasSeven = true ∨ ['7'] ∈ ks) := by
  induction ks with
  | nil =>
    intro hasSeven
    simp [setLoop]
  | cons k rest ih =>
    intro hasSeven
    unfold setLoop
    by_cases refused : k = [] ∨ testLt k ['1'] ∨ testGt k ['7']
    · rw [if_pos refused]
      constructor
      · intro impossible
        exact absurd impossible Bool.false_ne_true
      · rintro ⟨passes, _⟩
        obtain ⟨low, high, full⟩ := passes k List.mem_cons_self
        rw [low, high] at refused
        simp [full] at refused
    · rw [if_neg refused, ih]
      simp only [not_or, Bool.not_eq_true] at refused
      constructor
      · rintro ⟨passes, seven⟩
        constructor
        · intro j member
          rcases List.mem_cons.mp member with rfl | later
          · exact ⟨refused.2.1, refused.2.2, refused.1⟩
          · exact passes j later
        · rcases seven with early | later
          · rcases Bool.or_eq_true_iff.mp early with before | here
            · exact Or.inl before
            · right
              rw [eq_of_beq here]
              exact List.mem_cons_self
          · exact Or.inr (List.mem_cons_of_mem _ later)
      · rintro ⟨passes, seven⟩
        refine ⟨fun j member => passes j (List.mem_cons_of_mem _ member), ?_⟩
        rcases seven with before | member
        · left
          rw [before]
          rfl
        · rcases List.mem_cons.mp member with here | later
          · left
            rw [← here]
            simp
          · exact Or.inr later

theorem width_range {k : List Char} (operand' : value k ≤ machineMax)
    (low : testLt k ['1'] = false) (high : testGt k ['7'] = false) : 1 ≤ value k ∧ value k ≤ 7 := by
  have one : operand ['1'] = some 1 := by decide
  have seven : operand ['7'] = some 7 := by decide
  unfold testLt testGt at low
  unfold testGt at high
  have own : operand k = some (value k) := if_pos operand'
  rw [one, own] at low
  rw [seven, own] at high
  simp only [decide_eq_false_iff_not] at low high
  omega

theorem widths_of_numerals (ks : List (List Char)) (numerals : ∀ k ∈ ks, isNumeral k = true) :
    ((ks.map String.ofList).filter fun x => strip x ≠ "").mapM toInt =
      if ∀ k ∈ ks, k.length ≤ maxStrDigits then some (ks.map fun k => (value k : Int))
      else none := by
  induction ks with
  | nil => rfl
  | cons k rest ih =>
    have numeral := numerals k List.mem_cons_self
    have pieces : k ≠ [] ∧ k.all Char.isDigit = true := by
      unfold isNumeral at numeral
      simpa using numeral
    have kept : strip (String.ofList k) ≠ "" := by
      unfold strip
      rw [String.toList_ofList, strip_digits pieces.2]
      intro empty
      have none := congrArg String.toList empty
      rw [String.toList_ofList] at none
      exact pieces.1 none
    have read : toInt (String.ofList k) = _ :=
      to_int_numeral (by rw [String.toList_ofList]; exact numeral)
    rw [String.toList_ofList] at read
    have later := ih fun j member => numerals j (List.mem_cons_of_mem _ member)
    rw [List.map_cons, List.filter_cons_of_pos (by simpa using kept), List.mapM_cons, read, later]
    simp only [List.mem_cons, forall_eq_or_imp]
    by_cases short : k.length ≤ maxStrDigits
    · by_cases others : ∀ j ∈ rest, j.length ≤ maxStrDigits
      · rw [if_pos short, if_pos others, if_pos ⟨short, others⟩]
        rfl
      · have fails : ¬ (k.length ≤ maxStrDigits ∧ ∀ j ∈ rest, j.length ≤ maxStrDigits) :=
          fun both => others both.2
        rw [if_pos short, if_neg others, if_neg fails]
        rfl
    · have fails : ¬ (k.length ≤ maxStrDigits ∧ ∀ j ∈ rest, j.length ≤ maxStrDigits) :=
        fun both => short both.1
      rw [if_neg short, if_neg fails]
      rfl

theorem set_checked (first : runSteps (validateFirst awk) vars = some middle) :
    setAccepted (vars.orEmpty "GLM53_ADAPTIVE_K_SET" "2,4,7") = true := by
  have member : (Step.check fun vars => setAccepted (vars.orEmpty "GLM53_ADAPTIVE_K_SET" "2,4,7")) ∈
      validateFirst awk := by
    simp [validateFirst]
  obtain ⟨met, left, stepped, others⟩ := run_member member first
  have same := others "GLM53_ADAPTIVE_K_SET" (by rw [first_writes]; decide)
  have accepted := (check_run stepped).1
  rw [or_empty_congr same] at accepted
  exact accepted

theorem set_kept (first : runSteps (validateFirst awk) vars = some middle)
    (second : runSteps validateGate middle = some vars') :
    vars'.text "GLM53_ADAPTIVE_K_SET" = vars.text "GLM53_ADAPTIVE_K_SET" := by
  unfold Vars.text
  rw [run_frame second _ (by rw [gate_writes]; decide),
    run_frame first _ (by rw [first_writes]; decide)]

theorem policy_widths (vars' : Vars) : (policyEnv vars').widths =
    ((((vars'.text "GLM53_ADAPTIVE_K_SET").toList.splitOn ',').map String.ofList).filter
      fun x => strip x ≠ "").mapM toInt := rfl

theorem set_agrees_iff (first : runSteps (validateFirst awk) vars = some middle)
    (second : runSteps validateGate middle = some vars') : SetAgrees vars' ↔ SetFits vars := by
  have accepted := set_checked first
  unfold SetAgrees SetFits
  rw [policy_widths, set_kept first second]
  by_cases empty : vars.text "GLM53_ADAPTIVE_K_SET" = ""
  · rw [empty]
    constructor
    · rintro ⟨ks, read, _, seven⟩
      obtain rfl := Option.some.inj read
      exact absurd seven (by simp)
    · rintro ⟨full, _⟩
      exact absurd rfl full
  have text : vars.orEmpty "GLM53_ADAPTIVE_K_SET" "2,4,7" = vars.text "GLM53_ADAPTIVE_K_SET" :=
    if_neg empty
  rw [text] at accepted
  unfold setAccepted at accepted
  generalize (vars.text "GLM53_ADAPTIVE_K_SET").toList.splitOn ',' = ks at accepted ⊢
  obtain ⟨shape, loop⟩ := (Bool.and_eq_true _ _ ▸ accepted)
  have numerals := List.all_eq_true.mp shape
  obtain ⟨passes, seven⟩ := (set_loop_iff ks false).mp loop
  rw [widths_of_numerals ks numerals]
  constructor
  · rintro ⟨widths, read, range, _⟩
    split at read
    case isFalse => exact absurd read (by simp)
    rename_i short
    obtain rfl := Option.some.inj read
    refine ⟨empty, ?_⟩
    intro k member
    have width := range _ (List.mem_map_of_mem member)
    have large : 7 ≤ machineMax := by decide
    exact ⟨by omega, short k member⟩
  · rintro ⟨_, fits⟩
    rw [if_pos fun k member => (fits k member).2]
    refine ⟨_, rfl, ?_, ?_⟩
    · intro width member
      obtain ⟨k, inside, rfl⟩ := List.mem_map.mp member
      obtain ⟨low, high, _⟩ := passes k inside
      have range := width_range (fits k inside).1 low high
      omega
    · have member := seven.resolve_left Bool.false_ne_true
      have number : ((value ['7'] : Nat) : Int) = 7 := by decide
      rw [← number]
      exact List.mem_map_of_mem member

end Widths

/-- Of a configuration that `validate_numeric_config` accepts, the engine takes every count and
    every gate knob at its given value; the width set too exactly when its elements are operands
    of `test`. -/
theorem engine_agrees_iff (awk : Awk) (vars vars' : Vars)
    (accepted : validateNumericConfig awk vars = some vars') :
    EngineAgrees vars vars' ↔ SetFits vars := by
  obtain ⟨middle, first, second⟩ := run_append accepted
  have widths := set_agrees_iff first second
  constructor
  · intro agrees
    exact widths.mp agrees.widths
  · intro fits
    exact ⟨counts_agree first second, gate_agrees first second, widths.mpr fits⟩

section Sample

def sampleAwk : Awk := ⟨fun _ => true, fun _ => true, fun _ => true⟩

def sampleVars (set : String) : Vars := fun name =>
  [("GPU_MEM_UTIL", "0.85"), ("MAX_MODEL_LEN", "1000000"), ("MAX_NUM_SEQS", "04"),
    ("MAX_NUM_BATCHED_TOKENS", "3584"), ("SPEC_METHOD", "dflash"), ("DFLASH_TOKENS", "7"),
    ("GLM53_KV_CAPACITY_LOG", "1"), ("GLM53_PREFIX_CACHE_SPARSE_MISS_METRIC", "1"),
    ("GLM53_ROLE_TOKEN_CACHE", "0"), ("GLM53_APC_NO_STORE", "1"),
    ("GLM53_PROMPT_TOKENS_DETAILS", "1"), ("GLM53_EXL3_MOE_PIPELINE", "0"),
    ("GLM53_EXL3_MOE_REUSE", "0"), ("GLM53_SHARED_EXPERTS_EARLY", "0"),
    ("GLM53_ADAPTIVE_K_SET", set)].lookup name

theorem sample_accepted (set : String) (listed : set = "2,4,7" ∨ set = "7,99999999999999999999") :
    ∃ vars', validateNumericConfig sampleAwk (sampleVars set) = some vars' := by
  apply Option.isSome_iff_exists.mp
  rcases listed with rfl | rfl
  · decide +kernel
  · decide +kernel

theorem engine_agrees_shipped : ∃ vars',
    validateNumericConfig sampleAwk (sampleVars "2,4,7") = some vars' ∧
      EngineAgrees (sampleVars "2,4,7") vars' := by
  obtain ⟨vars', accepted⟩ := sample_accepted "2,4,7" (Or.inl rfl)
  have fits : SetFits (sampleVars "2,4,7") := by
    refine ⟨by decide, ?_⟩
    decide +kernel
  exact ⟨vars', accepted, (engine_agrees_iff sampleAwk _ vars' accepted).mpr fits⟩

/-- `7,99999999999999999999`: both comparisons fail on the second element, so it passes. -/
theorem huge_width_passes : ¬ ∀ (awk : Awk) (vars vars' : Vars),
    validateNumericConfig awk vars = some vars' → EngineAgrees vars vars' := by
  intro holds
  obtain ⟨vars', accepted⟩ := sample_accepted "7,99999999999999999999" (Or.inr rfl)
  obtain ⟨middle, first, second⟩ := run_append accepted
  have fits := (set_agrees_iff first second).mp (holds _ _ _ accepted).widths
  have huge := (fits.2 "99999999999999999999".toList (by decide +kernel)).1
  revert huge
  decide

end Sample

end NumericConfig
