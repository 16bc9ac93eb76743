import Glm53Overlay.Library.ShellText
import Glm53Overlay.Library.ShellVars

/-!
The launcher's numeric validation, check by check in its order. A failed check is the return
code 2; the messages are left out. The three `awk` comparisons are parameters. Numerals are
matched in the C locale.
-/
namespace NumericConfig
open ShellText ShellVars

/-- `[ a -gt b ]`: an operand that does not fit is an error, which is not true. -/
def testGt (a b : List Char) : Bool :=
  match operand a, operand b with
  | some x, some y => y < x
  | _, _ => false

/-- `[ a -lt b ]`. -/
def testLt (a b : List Char) : Bool := testGt b a

/-- The text `_glm53_canonical_positive_int` exports; `none` is its return code 2. -/
def canonicalPositiveInt (value maximum : String) : Option String :=
  if isNumeral value.toList then
    let canonical := match value.toList.dropWhile (· == '0') with
      | [] => ['0']
      | digits => digits
    if canonical = ['0'] ∨ maximum.toList.length < canonical.length ∨
        testGt canonical maximum.toList then none
    else some (String.ofList canonical)
  else none

/-- `_glm53_canonical_positive_int name value maximum || return`. -/
def canonical (name maximum : String) (value : Vars → String) : Step :=
  Step.assign name fun vars => canonicalPositiveInt (value vars) maximum

/-- `case value in a|b) ;; *) return 2 ;; esac`. -/
def oneOf (value : Vars → String) (allowed : List String) : Step :=
  Step.check fun vars => allowed.contains (value vars)

/-- `^[0-9]+$`, at most `width` characters, and at most `maximum` in arithmetic. -/
def bounded (text : String) (width : Nat) (maximum : Int) : Bool :=
  isNumeral text.toList && text.toList.length ≤ width && arithmetic text.toList ≤ maximum

/-- `name="$((10#value))"`. -/
def decimalText (text : String) : String := toString (arithmetic text.toList)

/-- The three programs that compare decimal fractions. -/
structure Awk where
  util : String → Bool
  alpha : String → Bool
  margin : String → Bool

/-- `^(0([.][0-9]+)?|[.][0-9]+|1([.]0+)?)$`. -/
def utilShape : List Char → Bool
  | '0' :: '.' :: digits => isNumeral digits
  | ['0'] => true
  | '.' :: digits => isNumeral digits
  | '1' :: '.' :: digits => !digits.isEmpty && digits.all (· == '0')
  | ['1'] => true
  | _ => false

def hasPart (part : List Char) : List Char → Bool
  | [] => part.isEmpty
  | c :: cs => part.isPrefixOf (c :: cs) || hasPart part cs

/-- `^/root/[.]cache/vllm(/[A-Za-z0-9._-]+)*$`, without `..`, at most 200 characters. -/
def profileDirShape (text : String) : Bool :=
  let root := "/root/.cache/vllm".toList
  let below := text.toList.drop root.length
  let plain := fun c : Char => c.isAlphanum || c == '.' || c == '_' || c == '-'
  root.isPrefixOf text.toList &&
    (below.isEmpty || below.head? == some '/' &&
      ((below.drop 1).splitOn '/').all fun segment => !segment.isEmpty && segment.all plain) &&
    !hasPart "..".toList text.toList && text.toList.length ≤ 200

/-- The loop over the elements of the width set, with its flag for the native width. -/
def setLoop : Bool → List (List Char) → Bool
  | hasSeven, [] => hasSeven
  | hasSeven, k :: rest =>
    if k = [] ∨ testLt k ['1'] ∨ testGt k ['7'] then false
    else setLoop (hasSeven || k == ['7']) rest

/-- `^[0-9]+(,[0-9]+)*$`, then the loop. -/
def setAccepted (text : String) : Bool :=
  let ks := text.toList.splitOn ','
  ks.all isNumeral && setLoop false ks

def isDflash (vars : Vars) : Bool := vars.text "SPEC_METHOD" == "dflash"

/-- `" $EXTRA_ARGS "`. -/
def paddedArgs (vars : Vars) : List Char := (" " ++ vars.text "EXTRA_ARGS" ++ " ").toList

def captureListAccepted (args : List Char) : Bool :=
  hasPart " --cudagraph-capture-sizes 1 2 3 4 5 6 8 9 10 12 15 16 20 24 32 ".toList args ||
    hasPart " --cudagraph-capture-sizes 1 2 4 8 16 24 32 ".toList args ||
    !hasPart " --cudagraph-capture-sizes ".toList args

def validateFirst (awk : Awk) : List Step :=
  [oneOf (·.orUnset "GLM53_ROUTER_ONCE" "0") ["0", "1"],
    oneOf (·.orUnset "GLM53_PREFIX_ADMIT" "0") ["0", "1"],
    oneOf (·.orUnset "GLM53_RESIDENT_TAIL" "0") ["0", "1"],
    oneOf (·.orUnset "GLM53_SHARED_EXPERTS_EARLY" "0") ["0", "1"],
    .check fun vars => utilShape (vars.text "GPU_MEM_UTIL").toList &&
      awk.util (vars.text "GPU_MEM_UTIL"),
    canonical "MAX_MODEL_LEN" "1000000" (·.text "MAX_MODEL_LEN"),
    canonical "MAX_NUM_SEQS" "4096" (·.text "MAX_NUM_SEQS"),
    canonical "MAX_NUM_BATCHED_TOKENS" "8388608" (·.text "MAX_NUM_BATCHED_TOKENS"),
    .when isDflash (canonical "DFLASH_TOKENS" "64" (·.text "DFLASH_TOKENS")),
    .when isDflash (oneOf (·.text "DFLASH_TOKENS") ["7"]),
    oneOf (·.orUnset "VLLM_USE_V2_MODEL_RUNNER" "") ["", "1"],
    .check fun vars => !(vars.text "SPEC_METHOD" == "mtp" &&
      testGt (vars.text "MAX_NUM_SEQS").toList "12".toList),
    oneOf (·.orUnset "GLM53_DEFAULT_REASONING_EFFORT" "") ["", "low", "high", "max"],
    oneOf (·.text "GLM53_KV_CAPACITY_LOG") ["0", "1"],
    oneOf (·.text "GLM53_PREFIX_CACHE_SPARSE_MISS_METRIC") ["0", "1"],
    oneOf (·.text "GLM53_ROLE_TOKEN_CACHE") ["0", "1"],
    oneOf (·.text "GLM53_APC_NO_STORE") ["0", "1"],
    oneOf (·.text "GLM53_PROMPT_TOKENS_DETAILS") ["0", "1"],
    oneOf (·.text "GLM53_EXL3_MOE_PIPELINE") ["0", "1"],
    oneOf (·.text "GLM53_EXL3_MOE_REUSE") ["0", "1"],
    oneOf (·.text "GLM53_SHARED_EXPERTS_EARLY") ["0", "1"],
    .check fun vars => !(vars.text "GLM53_EXL3_MOE_PIPELINE" == "1" &&
      vars.orEmpty "EXL3_FUSED_MOE" "1" == "0"),
    .check fun vars => !(vars.text "GLM53_EXL3_MOE_REUSE" == "1" &&
      vars.text "GLM53_EXL3_MOE_PIPELINE" != "1"),
    .check fun vars => !(vars.text "GLM53_EXL3_MOE_REUSE" == "1" &&
      vars.orEmpty "EXL3_FUSED_MOE" "1" == "0"),
    oneOf (·.orUnset "GLM53_INDEXER_WORKSPACE" "stock") ["stock", "rightsize"],
    .check fun vars => vars.text "GLM53_PROFILE_TORCH_DIR" == "" ||
      profileDirShape (vars.text "GLM53_PROFILE_TORCH_DIR"),
    .check fun vars => isNumeral (vars.orUnset "GLM53_PROFILE_MAX_ITERS" "2000").toList &&
      (vars.orUnset "GLM53_PROFILE_MAX_ITERS" "2000").toList.length ≤ 8,
    oneOf (·.orUnset "EXL3_FAT_GROUPED" "0") ["0", "1"],
    .check fun vars => vars.text "EXL3_FAT_SCRATCH_ROWS" == "" ||
      bounded (vars.text "EXL3_FAT_SCRATCH_ROWS") 7 8388608,
    .assign "EXL3_TEMP_ROWS_FUSED" fun vars => vars.orEmpty "EXL3_TEMP_ROWS_FUSED" "128",
    .check fun vars => bounded (vars.text "EXL3_TEMP_ROWS_FUSED") 7 8388608 &&
      1 ≤ arithmetic (vars.text "EXL3_TEMP_ROWS_FUSED").toList,
    .assign "EXL3_TEMP_ROWS_FUSED" fun vars => decimalText (vars.text "EXL3_TEMP_ROWS_FUSED"),
    .when isDflash (.check fun vars => (arithmetic (vars.text "MAX_NUM_SEQS").toList) *
      (arithmetic (vars.text "DFLASH_TOKENS").toList + 1) ≤
        arithmetic (vars.text "EXL3_TEMP_ROWS_FUSED").toList),
    oneOf (·.orEmpty "GLM53_ADAPTIVE_K" "off") ["off", "ema", "on", "1"],
    oneOf (·.orEmpty "GLM53_ADAPTIVE_K_CAPTURE" "0") ["0", "1"],
    oneOf (·.orEmpty "GLM53_ADAPTIVE_K_SATURATE" "max") ["max", "n"],
    oneOf (·.orEmpty "GLM53_ADAPTIVE_K_BATCH_MARGIN" "0") ["0", "1"],
    oneOf (·.orEmpty "GLM53_ADAPTIVE_K_POS_TRIM" "0") ["0", "1"],
    .check fun vars => !(vars.orEmpty "GLM53_ADAPTIVE_K_POS_TRIM" "0" == "1" &&
      vars.orEmpty "GLM53_ADAPTIVE_K_BATCH_MARGIN" "0" != "1"),
    .check fun vars => setAccepted (vars.orEmpty "GLM53_ADAPTIVE_K_SET" "2,4,7"),
    .check fun vars => awk.alpha (vars.orEmpty "GLM53_ADAPTIVE_K_ALPHA" "0.25"),
    .check fun vars => awk.margin (vars.orEmpty "GLM53_ADAPTIVE_K_MARGIN" "1.0"),
    canonical "GLM53_ADAPTIVE_K_MIN_STEPS" "64" (·.orEmpty "GLM53_ADAPTIVE_K_MIN_STEPS" "4"),
    .check fun vars => bounded (vars.orEmpty "GLM53_ADAPTIVE_K_HIST" "200") 7 1000000,
    .assign "GLM53_ADAPTIVE_K_HIST" fun vars =>
      decimalText (vars.orEmpty "GLM53_ADAPTIVE_K_HIST" "200"),
    oneOf (·.text "GLM53_KDA_REC_WARPS") ["", "1", "2", "4", "8"],
    oneOf (·.text "GLM53_KDA_REC_STAGES") ["", "1", "2", "3", "4", "5"],
    oneOf (·.text "GLM53_KDA_REC_BV_CAP") ["", "8", "16", "32"],
    oneOf (·.text "GLM53_KDA_PREFILL_BACKEND") ["", "triton", "flashkda"],
    .when isDflash (.check fun vars => captureListAccepted (paddedArgs vars)),
    .when (fun vars => vars.text "DEFAULT_MAX_NEW_TOKENS" != "")
      (canonical "DEFAULT_MAX_NEW_TOKENS" "1000000" (·.text "DEFAULT_MAX_NEW_TOKENS"))]

def validateGate : List Step :=
  [.assign "GLM53_MIXED_PREFILL_WARM_TOKENS" (·.orEmpty "GLM53_MIXED_PREFILL_WARM_TOKENS" "3584"),
    .assign "GLM53_MIXED_PREFILL_MAX_WAIT_MS" (·.orEmpty "GLM53_MIXED_PREFILL_MAX_WAIT_MS" "1500"),
    .assign "GLM53_MIXED_PREFILL_LATE_CAP" (·.orEmpty "GLM53_MIXED_PREFILL_LATE_CAP" "512"),
    .check fun vars => bounded (vars.text "GLM53_MIXED_PREFILL_WARM_TOKENS") 7 1000000,
    .check fun vars => bounded (vars.text "GLM53_MIXED_PREFILL_MAX_WAIT_MS") 7 600000,
    canonical "GLM53_MIXED_PREFILL_LATE_CAP" "8192" (·.text "GLM53_MIXED_PREFILL_LATE_CAP"),
    .check fun vars => !testLt (vars.text "GLM53_MIXED_PREFILL_LATE_CAP").toList "64".toList,
    .assign "GLM53_MIXED_PREFILL_ESCALATE_MS" (·.orEmpty "GLM53_MIXED_PREFILL_ESCALATE_MS" "0"),
    .assign "GLM53_MIXED_PREFILL_LATE_CAP_MAX"
      (·.orEmpty "GLM53_MIXED_PREFILL_LATE_CAP_MAX" "1792"),
    .check fun vars => bounded (vars.text "GLM53_MIXED_PREFILL_ESCALATE_MS") 7 600000,
    canonical "GLM53_MIXED_PREFILL_LATE_CAP_MAX" "8192"
      (·.text "GLM53_MIXED_PREFILL_LATE_CAP_MAX"),
    .check fun vars => !testLt (vars.text "GLM53_MIXED_PREFILL_LATE_CAP_MAX").toList
      (vars.text "GLM53_MIXED_PREFILL_LATE_CAP").toList]

/-- The variables after a successful `validate_numeric_config`; `none` is a refusal. -/
def validateNumericConfig (awk : Awk) (vars : Vars) : Option Vars :=
  runSteps (validateFirst awk ++ validateGate) vars

end NumericConfig
