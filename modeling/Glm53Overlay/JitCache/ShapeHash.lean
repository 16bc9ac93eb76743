import Glm53Overlay.Library.LineSort
import Glm53Overlay.NumericConfig.Validate

/-!
The shape hash of the production start script against the configuration the launcher resolves.
The script hashes a sorted bag of raw lines; the launcher lets the last line win, and a caller's
non-empty value over it, puts in its defaults, adds the capture sizes to the extra arguments and
brings the numbers to their canonical form. The hash stands for the text it is taken of. Values
stand on one line. A value with blanks is in quotes in `.env`, always the same ones, and these are
left out; none of the knobs that the script prints has such a value.
-/
namespace JitShape
open NumericConfig

inductive Knob where
  | dflashTokens
  | dflashDraftTp
  | dflashModel
  | dflashRevision
  | mtpTokens
  | specMethod
  | maxNumBatchedTokens
  | maxNumSeqs
  | maxModelLen
  | image
  | extraArgs
  | adaptiveKCapture
  | kdaRecWarps
  | kdaRecStages
  | kdaRecBvCap
  deriving DecidableEq

/-- The names in the pattern of the hash, in its order. -/
def Knob.all : List Knob :=
  [dflashTokens, dflashDraftTp, dflashModel, dflashRevision, mtpTokens, specMethod,
    maxNumBatchedTokens, maxNumSeqs, maxModelLen, image, extraArgs, adaptiveKCapture, kdaRecWarps,
    kdaRecStages, kdaRecBvCap]

def Knob.name : Knob → String
  | dflashTokens => "DFLASH_TOKENS"
  | dflashDraftTp => "DFLASH_DRAFT_TP"
  | dflashModel => "DFLASH_MODEL"
  | dflashRevision => "DFLASH_REVISION"
  | mtpTokens => "MTP_TOKENS"
  | specMethod => "SPEC_METHOD"
  | maxNumBatchedTokens => "MAX_NUM_BATCHED_TOKENS"
  | maxNumSeqs => "MAX_NUM_SEQS"
  | maxModelLen => "MAX_MODEL_LEN"
  | image => "IMAGE"
  | extraArgs => "EXTRA_ARGS"
  | adaptiveKCapture => "GLM53_ADAPTIVE_K_CAPTURE"
  | kdaRecWarps => "GLM53_KDA_REC_WARPS"
  | kdaRecStages => "GLM53_KDA_REC_STAGES"
  | kdaRecBvCap => "GLM53_KDA_REC_BV_CAP"

/-- The knobs the script also prints from its own environment. -/
def Knob.printed : List Knob := [adaptiveKCapture, kdaRecWarps, kdaRecStages, kdaRecBvCap]

/-- What the launcher puts where nothing was set. -/
def Knob.default : Knob → String
  | dflashTokens => "7"
  | dflashDraftTp => "2"
  | dflashModel => "incoai/GLM-5.3-Flash-DFlash2"
  | dflashRevision => "7d74cdd881ed7e32c31175984a67823127b66cfe"
  | mtpTokens => "2"
  | specMethod => "dflash"
  | maxNumBatchedTokens => "2048"
  | maxNumSeqs => "4"
  | maxModelLen => "1000000"
  | image => "ghcr.io/miaai-lab/glm-5.3-flash-2x-dgx-sparks:exl3"
  | extraArgs => ""
  | adaptiveKCapture => "0"
  | kdaRecWarps => ""
  | kdaRecStages => ""
  | kdaRecBvCap => ""

/-- Whether the default is written with `-`, which an empty value escapes, or with `:-`. -/
def Knob.keepsEmpty : Knob → Bool
  | dflashDraftTp => true
  | dflashRevision => true
  | _ => false

abbrev Word := List Char

structure EnvLine where
  name : Word
  value : Word
  plain : '=' ∉ name

def EnvLine.text (l : EnvLine) : Word := l.name ++ '=' :: l.value

def Knob.opening (k : Knob) : Word := k.name.toList ++ ['=']

/-- The variables outside of the hash that decide about the capture sizes. -/
inductive Switch where
  | adaptiveK
  | enforceEager
  deriving DecidableEq

def Switch.name : Switch → String
  | adaptiveK => "GLM53_ADAPTIVE_K"
  | enforceEager => "ENFORCE_EAGER"

def Switch.default : Switch → String
  | adaptiveK => "off"
  | enforceEager => "0"

/-- `.env` and the values the caller exports. -/
structure Config where
  file : List EnvLine
  caller : Knob → Option Word
  switches : Switch → Option Word

/-- `grep -E '^(A|B|..)='`. -/
def grepKnobs (line : Word) : Bool := Knob.all.any fun k => k.opening.isPrefixOf line

/-- The one line of the launcher that its own grep finds. -/
def launcherLine : Word :=
  "DFLASH_REVISION=\"$\x7bDFLASH_REVISION-7d74cdd881ed7e32c31175984a67823127b66cfe\x7d\"".toList

/-- `printf 'NAME=%s\n' "${NAME:-}"`. -/
def Config.printedLine (c : Config) (k : Knob) : Word := k.opening ++ (c.caller k).getD []

def Config.hashedLines (c : Config) : List Word :=
  (c.file.map EnvLine.text).filter grepKnobs ++ launcherLine :: Knob.printed.map c.printedLine

/-- The sorted text under the md5 sum, which is taken to be injective. -/
def Config.shapeHash (c : Config) : List Word := LineSort.sort c.hashedLines

def Config.linesOf (c : Config) (name : String) : List Word :=
  (c.file.filter fun l => l.name = name.toList).map EnvLine.value

def Config.fileValues (c : Config) (k : Knob) : List Word := c.linesOf k.name

/-- A variable after `.env` is sourced and the caller's overrides are put back. -/
def Config.resolved (c : Config) (name : String) (exported : Option Word) : Option Word :=
  match exported with
  | some (first :: rest) => some (first :: rest)
  | _ => (c.linesOf name).getLast?.or exported

def Config.sourced (c : Config) (k : Knob) : Option Word := c.resolved k.name (c.caller k)

def Knob.settle (k : Knob) : Option Word → Word
  | none => k.default.toList
  | some [] => if k.keepsEmpty then [] else k.default.toList
  | some value => value

def Config.defaulted (c : Config) (k : Knob) : Word := k.settle (c.sourced k)

def Config.switch (c : Config) (s : Switch) : Word :=
  match c.resolved s.name (c.switches s) with
  | none => s.default.toList
  | some [] => s.default.toList
  | some value => value

/-- `case " $EXTRA_ARGS " in *" --cudagraph-capture-sizes "*|*" cudagraph-capture-sizes "*)`. -/
def listsSizes (args : Word) : Bool :=
  let padded := ' ' :: args ++ [' ']
  hasPart " --cudagraph-capture-sizes ".toList padded ||
    hasPart " cudagraph-capture-sizes ".toList padded

/-- The sizes the launcher has for a speculation method, with or without the extra graphs. -/
def Config.captureSizes (c : Config) : String :=
  if c.defaulted .specMethod = "dflash".toList then
    if (["ema", "on", "1"].any fun word => c.switch .adaptiveK = word.toList) ∨
        (["1", "on", "true", "yes"].any fun word =>
          c.defaulted .adaptiveKCapture = word.toList) then
      "--cudagraph-capture-sizes 1 2 3 4 5 6 8 9 10 12 15 16 20 24 32"
    else "--cudagraph-capture-sizes 1 2 4 8 16 24 32"
  else "--cudagraph-capture-sizes 1 2 3 4 6 8 12"

/-- `${EXTRA_ARGS:+$EXTRA_ARGS }--cudagraph-capture-sizes ...`. -/
def Config.withSizes (c : Config) (args : Word) : Word :=
  if c.switch .enforceEager = "1".toList then args
  else if listsSizes args then args
  else (if args = [] then [] else args ++ [' ']) ++ c.captureSizes.toList

/-- The largest value of a knob that the validation takes for a number. -/
def Knob.maximum (specMethod : Word) : Knob → Option String
  | maxModelLen => some "1000000"
  | maxNumSeqs => some "4096"
  | maxNumBatchedTokens => some "8388608"
  | dflashTokens => if specMethod = "dflash".toList then some "64" else none
  | _ => none

/-- A number without its leading zeros. What is refused stays, and the start ends there. -/
def canonicalWord (maximum : String) (value : Word) : Word :=
  match canonicalPositiveInt (String.ofList value) maximum with
  | some canonical => canonical.toList
  | none => value

def Config.reads (c : Config) (k : Knob) (value : Word) : Word :=
  if k = .extraArgs then c.withSizes value
  else match k.maximum (c.defaulted .specMethod) with
    | some maximum => canonicalWord maximum value
    | none => value

def Config.effective (c : Config) (k : Knob) : Word := c.reads k (c.defaulted k)

def SameShape (c c' : Config) : Prop := ∀ k, c'.effective k = c.effective k

/-- The caller exports no knob that the script does not print. -/
def Config.Visible (c : Config) : Prop := ∀ k, k ∉ Knob.printed → c.caller k = none

/-- The values that lines and caller hold ready for a knob. One empty value beside the lines of
    a printed knob is the caller's silence. -/
def Config.contenders (c : Config) (k : Knob) : List (Option Word) :=
  if k ∈ Knob.printed then (((c.caller k).getD [] :: c.fileValues k).erase []).map some
  else if c.fileValues k = [] then [none, c.caller k]
  else (c.fileValues k).map some ++ ((c.caller k).filter fun v => v ≠ []).toList.map some

/-- All that is ready for a knob reads as one value, and the lines of the extra arguments leave
    nothing to add. -/
structure Config.Settled (c : Config) : Prop where
  single : ∀ k, ∀ x ∈ c.contenders k, ∀ y ∈ c.contenders k,
    c.reads k (k.settle x) = c.reads k (k.settle y)
  sized : c.fileValues .extraArgs ≠ [] ∧ ∀ args ∈ c.fileValues .extraArgs, listsSizes args = true

end JitShape
