import Glm53Overlay.Library.TextSearch

/-!
The incremental detokenizer with client stop strings held back while the model is still
reasoning: the arming of the guard by the factory and the stop evaluation at the end of
`update()`. The decoding of a token is the caller's; a token enters as its text.
-/
namespace ReasoningStops
open TextSearch

abbrev Text := List Char

structure Detokenizer where
  stop : List Text
  minTokens : Nat
  outputText : Text
  numOutputTokens : Nat
  reasoningStopGuard : Bool
  reasoningClosed : Bool
  reasoningEndStr : Text
  deriving DecidableEq

def defaultStart : Text := "<think>".toList
def defaultEnd : Text := "</think>".toList

def Detokenizer.init (stop : List Text) (minTokens : Nat) : Detokenizer :=
  { stop, minTokens, outputText := [], numOutputTokens := 0, reasoningStopGuard := false,
    reasoningClosed := false, reasoningEndStr := defaultEnd }

/-- `reasoning_start_str` and `reasoning_end_str` of the configuration, when there is one. -/
structure ReasoningConfig where
  reasoningStartStr : Text
  reasoningEndStr : Text

/-- `_reasoning_stop_markers`: an empty configured marker falls back to the default. -/
def reasoningStopMarkers : Option ReasoningConfig → Text × Text
  | none => (defaultStart, defaultEnd)
  | some rc =>
      (if rc.reasoningStartStr = [] then defaultStart else rc.reasoningStartStr,
       if rc.reasoningEndStr = [] then defaultEnd else rc.reasoningEndStr)

/-- `_suppress_stops_enabled` over the two environment variables, in their order. -/
def suppressStopsEnabled (glm53 vllm : Option String) : Bool :=
  match glm53, vllm with
  | some value, _ => value ≠ "0"
  | none, some value => value ≠ "0"
  | none, none => true

inductive Raised where
  | typeError
  | other
  deriving DecidableEq

/-- The two tokenizer methods that are looked up; `encode` is told whether it is passed
    `add_special_tokens=False`, and answers `none` when the result is not a list. -/
structure Tokenizer where
  convertTokensToIds : Option (Text → Except Raised (Option Int))
  encode : Option (Text → Bool → Except Raised (Option (List Int)))

/-- `None` or negative: the vocabulary has no such token. -/
def unknownId : Option Int → Bool
  | none => true
  | some i => i < 0

def encodedThinkId (encode : Text → Bool → Except Raised (Option (List Int))) (start : Text)
    (before : Option Int) : Except Raised (Option Int) := do
  let ids ← match encode start true with
    | .error .typeError => encode start false
    | answer => answer
  match ids with
  | some [i] => return some i
  | _ => return before

def thinkId (tokenizer : Tokenizer) (start : Text) : Except Raised (Option Int) := do
  let converted ← match tokenizer.convertTokensToIds with
    | none => pure none
    | some convert => convert start
  match unknownId converted, tokenizer.encode with
  | true, some encode => encodedThinkId encode start converted
  | _, _ => return converted

/-- `_maybe_enable_reasoning_stop_guard`: a raised error leaves the detokenizer as it was. -/
def maybeEnableReasoningStopGuard (enabled : Bool) (config : Option ReasoningConfig)
    (tokenizer : Tokenizer) (promptTokenIds : List Int) (detok : Detokenizer) : Detokenizer :=
  if enabled = false ∨ detok.stop = [] then detok
  else match promptTokenIds.getLast? with
    | none => detok
    | some last =>
      match thinkId tokenizer (reasoningStopMarkers config).1 with
      | .error _ => detok
      | .ok found =>
        if unknownId found = false ∧ found = some last then
          { detok with reasoningStopGuard := true
                       reasoningEndStr := (reasoningStopMarkers config).2 }
        else detok

def Armed (detok : Detokenizer) : Prop :=
  ∃ stop minTokens enabled config tokenizer promptTokenIds,
    detok = maybeEnableReasoningStopGuard enabled config tokenizer promptTokenIds
      (.init stop minTokens) ∧ detok.reasoningStopGuard = true

/-- What `check_stop_strings` reports: the stop string, where it stands, and the length the
    text is cut to (`none` for -1). -/
structure Report where
  stopString : Text
  start : Nat
  truncateTo : Option Nat
  deriving DecidableEq

/-- `check_stop_strings(output_text, new_char_count, stop)` as far as it is relied on: a
    report names a stop string standing in the text and ending among the new characters. -/
structure StopChecker where
  check : Text → Nat → List Text → Option Report
  stands : ∀ text newChars stop r, check text newChars stop = some r →
    r.stopString ∈ stop ∧ At r.stopString text r.start
  endsNew : ∀ text newChars stop r, check text newChars stop = some r →
    text.length < newChars + (r.start + r.stopString.length)

/-- The token loop of `update()`: append the text, and while the minimum number of tokens is
    not exceeded move `stop_check_offset` to the end. -/
def appendToken (acc : Detokenizer × Nat) (piece : Text) : Detokenizer × Nat :=
  let detok := { acc.1 with
    outputText := acc.1.outputText ++ piece
    numOutputTokens := acc.1.numOutputTokens + 1 }
  (detok, if detok.numOutputTokens ≤ detok.minTokens then detok.outputText.length else acc.2)

def appendTokens (detok : Detokenizer) (tokens : List Text) : Detokenizer × Nat :=
  tokens.foldl appendToken (detok, detok.outputText.length)

/-- The guard's own part of the stop evaluation: look for the end marker, close, and move
    `stop_check_offset` past it. -/
def closeReasoning (detok : Detokenizer) (offset : Nat) : Detokenizer × Nat :=
  if detok.reasoningStopGuard ∧ ¬ detok.reasoningClosed then
    let marker := detok.reasoningEndStr
    match findFrom marker detok.outputText (offset - (marker.length - 1)) with
    | some idx => ({ detok with reasoningClosed := true }, max offset (idx + marker.length))
    | none => (detok, offset)
  else (detok, offset)

def stopsEvaluated (detok : Detokenizer) : Prop :=
  detok.stop ≠ [] ∧ detok.minTokens < detok.numOutputTokens ∧
    (detok.reasoningStopGuard = false ∨ detok.reasoningClosed = true)

instance (detok : Detokenizer) : Decidable (stopsEvaluated detok) :=
  inferInstanceAs (Decidable (_ ∧ _ ∧ _))

def truncate (detok : Detokenizer) : Option Report → Detokenizer
  | some { truncateTo := some n, .. } => { detok with outputText := detok.outputText.take n }
  | _ => detok

def update (checker : StopChecker) (detok : Detokenizer) (tokens : List Text) :
    Detokenizer × Option Report :=
  let appended := appendTokens detok tokens
  let closed := closeReasoning appended.1 appended.2
  let report := if stopsEvaluated closed.1 then
      checker.check closed.1.outputText (closed.1.outputText.length - closed.2) closed.1.stop
    else none
  (truncate closed.1 report, report)

/-- A stream of updates; the request ends with the first report. -/
def advance (checker : StopChecker) (s : Detokenizer × Option Report) (tokens : List Text) :
    Detokenizer × Option Report :=
  match s.2 with
  | some _ => s
  | none => update checker s.1 tokens

def stream (checker : StopChecker) (detok : Detokenizer) (updates : List (List Text)) :
    Detokenizer × Option Report :=
  updates.foldl (advance checker) (detok, none)

theorem markers_nonempty (config : Option ReasoningConfig) :
    (reasoningStopMarkers config).2 ≠ [] := by
  cases config with
  | none => decide
  | some rc =>
    simp only [reasoningStopMarkers]
    split
    · decide
    · assumption

theorem enabled_spec {enabled config tokenizer promptTokenIds} {detok : Detokenizer}
    (before : detok.reasoningStopGuard = false)
    (armed : (maybeEnableReasoningStopGuard enabled config tokenizer promptTokenIds
      detok).reasoningStopGuard = true) :
    maybeEnableReasoningStopGuard enabled config tokenizer promptTokenIds detok =
      { detok with reasoningStopGuard := true
                   reasoningEndStr := (reasoningStopMarkers config).2 } := by
  have off : ¬ detok.reasoningStopGuard = true := by simp [before]
  unfold maybeEnableReasoningStopGuard at armed ⊢
  split at armed
  · exact absurd armed off
  · rename_i on
    rw [if_neg on]
    split at armed
    · exact absurd armed off
    · split at armed
      · exact absurd armed off
      · split at armed
        · rename_i same
          rw [if_pos same]
        · exact absurd armed off

structure Fresh (detok : Detokenizer) : Prop where
  guard : detok.reasoningStopGuard = true
  reasoning : detok.reasoningClosed = false
  text : detok.outputText = []
  count : detok.numOutputTokens = 0
  marker : detok.reasoningEndStr ≠ []

theorem armed_fresh {detok : Detokenizer} (armed : Armed detok) : Fresh detok := by
  obtain ⟨stop, minTokens, enabled, config, tokenizer, promptTokenIds, rfl, guard⟩ := armed
  rw [enabled_spec rfl guard]
  exact ⟨rfl, rfl, rfl, rfl, markers_nonempty config⟩

end ReasoningStops
