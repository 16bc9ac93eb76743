import Glm53Overlay.ReasoningStops.StopGuard

/-!
When the guard closes. Until the end marker is in the accumulated text nothing can fire, and
what fires ends past the first marker; but the search for the marker starts from the offset
that `min_tokens` moves, so a marker completed within the first `min_tokens` tokens is passed
over. The latch holds exactly on the streams whose closing update still shows a marker that
ends past those tokens.
-/
namespace ReasoningStops
open TextSearch

def accumulated (updates : List (List Text)) : Text := updates.flatten.flatten

def heldText (minTokens : Nat) (updates : List (List Text)) : Text :=
  (updates.flatten.take minTokens).flatten

def FirstAt (marker text : Text) (i : Nat) : Prop :=
  At marker text i ∧ ∀ j, At marker text j → i ≤ j

structure HeldBack (checker : StopChecker) (detok : Detokenizer)
    (past : List (List Text)) : Prop where
  silent : ∀ r, (stream checker detok past).2 = some r →
    detok.reasoningEndStr <:+: accumulated past
  endsPast : ∀ r i, (stream checker detok past).2 = some r →
    FirstAt detok.reasoningEndStr (accumulated past) i →
    i + detok.reasoningEndStr.length < r.start + r.stopString.length
  closed : detok.reasoningEndStr <:+: accumulated past →
    (stream checker detok past).1.reasoningClosed = true ∧
    ∀ tokens, (update checker (stream checker detok past).1 tokens).2 =
      (update checker { (stream checker detok past).1 with reasoningStopGuard := false }
        tokens).2

def HeldBackThroughout (checker : StopChecker) (detok : Detokenizer)
    (updates : List (List Text)) : Prop :=
  ∀ past, past <+: updates → HeldBack checker detok past

/-- The update that completes the first marker shows a marker ending past the text of the
    first `min_tokens` tokens. -/
def MarkerPastMinTokens (detok : Detokenizer) (updates : List (List Text)) : Prop :=
  ∀ past tokens, past ++ [tokens] <+: updates →
    ¬ detok.reasoningEndStr <:+: accumulated past →
    detok.reasoningEndStr <:+: accumulated (past ++ [tokens]) →
    ∃ i, At detok.reasoningEndStr (accumulated (past ++ [tokens])) i ∧
      (heldText detok.minTokens (past ++ [tokens])).length <
        i + detok.reasoningEndStr.length

theorem accumulated_concat (past : List (List Text)) (tokens : List Text) :
    accumulated (past ++ [tokens]) = accumulated past ++ tokens.flatten := by
  simp [accumulated]

def grown (detok : Detokenizer) (text : Text) (count : Nat) : Detokenizer :=
  { detok with outputText := text, numOutputTokens := count }

theorem appendTokens_state (detok : Detokenizer) (offset : Nat) (tokens : List Text) :
    (tokens.foldl appendToken (detok, offset)).1 =
      grown detok (detok.outputText ++ tokens.flatten)
        (detok.numOutputTokens + tokens.length) := by
  induction tokens generalizing detok offset with
  | nil => simp [grown]
  | cons piece rest ih =>
    rw [List.foldl_cons, appendToken, ih]
    simp only [grown, List.flatten_cons, List.append_assoc, List.length_cons,
      Detokenizer.mk.injEq, true_and, and_true]
    omega

theorem offset_kept (detok : Detokenizer) (offset : Nat) (tokens : List Text)
    (spent : detok.minTokens ≤ detok.numOutputTokens) :
    (tokens.foldl appendToken (detok, offset)).2 = offset := by
  induction tokens generalizing detok with
  | nil => rfl
  | cons piece rest ih =>
    rw [List.foldl_cons, appendToken]
    have beyond : ¬ detok.numOutputTokens + 1 ≤ detok.minTokens := by omega
    simp only [beyond, if_false]
    exact ih _ (by simp only; omega)

theorem appendTokens_offset (detok : Detokenizer) (tokens : List Text) :
    (appendTokens detok tokens).2 = detok.outputText.length +
      (tokens.take (detok.minTokens - detok.numOutputTokens)).flatten.length := by
  rw [appendTokens]
  induction tokens generalizing detok with
  | nil => simp
  | cons piece rest ih =>
    rw [List.foldl_cons, appendToken]
    by_cases early : detok.numOutputTokens + 1 ≤ detok.minTokens
    · simp only [early, if_true]
      have room : detok.minTokens - detok.numOutputTokens =
          (detok.minTokens - (detok.numOutputTokens + 1)) + 1 := by omega
      rw [ih, room]
      simp only [List.take_succ_cons, List.flatten_cons, List.length_append]
      omega
    · simp only [early, if_false]
      have none : detok.minTokens - detok.numOutputTokens = 0 := by omega
      rw [offset_kept _ _ _ (by simp only; omega), none]
      simp

theorem offset_of_stream (detok : Detokenizer) (past : List (List Text)) (tokens : List Text) :
    (appendTokens (grown detok (accumulated past) past.flatten.length) tokens).2 =
      max (accumulated past).length (heldText detok.minTokens (past ++ [tokens])).length := by
  have whole : (past ++ [tokens]).flatten = past.flatten ++ tokens := by simp
  rw [appendTokens_offset, heldText, whole, List.take_append, List.flatten_append,
    List.length_append]
  simp only [grown]
  by_cases spent : detok.minTokens ≤ past.flatten.length
  · have none : detok.minTokens - past.flatten.length = 0 := by omega
    have part : (past.flatten.take detok.minTokens).flatten.length ≤
        (accumulated past).length :=
      ((List.take_prefix _ _).flatten).length_le
    simp only [none, List.take_zero, List.flatten_nil, List.length_nil]
    omega
  · have front : past.flatten.take detok.minTokens = past.flatten :=
      List.take_of_length_le (by omega)
    rw [front, accumulated]
    omega

theorem offset_le_text (detok : Detokenizer) (past : List (List Text)) (tokens : List Text) :
    max (accumulated past).length (heldText detok.minTokens (past ++ [tokens])).length ≤
      (accumulated (past ++ [tokens])).length := by
  have held : (heldText detok.minTokens (past ++ [tokens])).length ≤
      (accumulated (past ++ [tokens])).length :=
    ((List.take_prefix _ _).flatten).length_le
  rw [accumulated_concat, List.length_append] at *
  omega

theorem closeReasoning_none (detok : Detokenizer) (offset : Nat)
    (absent : ¬ detok.reasoningEndStr <:+: detok.outputText) :
    closeReasoning detok offset = (detok, offset) := by
  rw [closeReasoning]
  split
  · have missing : findFrom detok.reasoningEndStr detok.outputText
        (offset - (detok.reasoningEndStr.length - 1)) = none :=
      findFrom_none_iff.mpr fun i _ h => absent ((infix_iff_at _ _).mpr ⟨i, h⟩)
    simp only [missing]
  · rfl

theorem closeReasoning_closed (detok : Detokenizer) (offset : Nat)
    (closed : detok.reasoningClosed = true) : closeReasoning detok offset = (detok, offset) := by
  simp [closeReasoning, closed]

theorem closeReasoning_open (detok : Detokenizer) (offset : Nat)
    (guard : detok.reasoningStopGuard = true) (reasoning : detok.reasoningClosed = false)
    (marker : detok.reasoningEndStr ≠ []) :
    (closeReasoning detok offset = (detok, offset) ∧
      ∀ i, At detok.reasoningEndStr detok.outputText i →
        i + detok.reasoningEndStr.length ≤ offset) ∨
    ∃ idx, At detok.reasoningEndStr detok.outputText idx ∧
      offset < idx + detok.reasoningEndStr.length ∧
      closeReasoning detok offset = ({ detok with reasoningClosed := true },
        max offset (idx + detok.reasoningEndStr.length)) := by
  have size : 0 < detok.reasoningEndStr.length := List.length_pos_iff.mpr marker
  have onGuard : detok.reasoningStopGuard = true ∧ ¬ detok.reasoningClosed = true := by
    simp [guard, reasoning]
  rw [closeReasoning, if_pos onGuard]
  cases search : findFrom detok.reasoningEndStr detok.outputText
      (offset - (detok.reasoningEndStr.length - 1)) with
  | none =>
    left
    refine ⟨by simp only [search], fun i h => ?_⟩
    by_contra later
    exact findFrom_none_iff.mp search i (by omega) h
  | some idx =>
    right
    obtain ⟨late, h, _⟩ := findFrom_some_iff.mp search
    exact ⟨idx, h, by omega, by simp only [search]⟩

theorem stream_concat (checker : StopChecker) (detok : Detokenizer)
    (past : List (List Text)) (tokens : List Text) :
    stream checker detok (past ++ [tokens]) =
      advance checker (stream checker detok past) tokens := by
  simp [stream]

theorem stream_open (checker : StopChecker) {detok : Detokenizer} (fresh : Fresh detok)
    (past : List (List Text)) (absent : ¬ detok.reasoningEndStr <:+: accumulated past) :
    stream checker detok past =
      (grown detok (accumulated past) past.flatten.length, none) := by
  induction past using List.reverseRecOn with
  | nil =>
    have same : grown detok [] 0 = detok := by
      simp only [grown, ← fresh.text, ← fresh.count]
    simp [stream, accumulated, same]
  | append_singleton past tokens ih =>
    have before : ¬ detok.reasoningEndStr <:+: accumulated past := by
      intro found
      refine absent (found.trans ?_)
      rw [accumulated_concat]
      exact (List.prefix_append _ _).isInfix
    have state : (appendTokens (grown detok (accumulated past) past.flatten.length) tokens).1 =
        grown detok (accumulated (past ++ [tokens])) (past ++ [tokens]).flatten.length := by
      rw [appendTokens, appendTokens_state]
      simp [grown, accumulated]
    have quiet : ¬ stopsEvaluated
        (grown detok (accumulated (past ++ [tokens])) (past ++ [tokens]).flatten.length) := by
      simp [stopsEvaluated, grown, fresh.guard, fresh.reasoning]
    rw [stream_concat, ih before]
    simp only [advance, update, state]
    rw [closeReasoning_none _ _ absent]
    simp only [if_neg quiet, truncate]

theorem appended_open (detok : Detokenizer) (past : List (List Text)) (tokens : List Text) :
    appendTokens (grown detok (accumulated past) past.flatten.length) tokens =
      (grown detok (accumulated (past ++ [tokens])) (past ++ [tokens]).flatten.length,
       max (accumulated past).length (heldText detok.minTokens (past ++ [tokens])).length) := by
  apply Prod.ext
  · rw [appendTokens, appendTokens_state]
    simp [grown, accumulated]
  · exact offset_of_stream detok past tokens

theorem truncate_closed (detok : Detokenizer) (report : Option Report) :
    (truncate detok report).reasoningClosed = detok.reasoningClosed := by
  unfold truncate
  split <;> rfl

theorem report_past_offset (checker : StopChecker) (detok : Detokenizer) (offset : Nat)
    (inside : offset ≤ detok.outputText.length) (r : Report)
    (reported : (if stopsEvaluated detok then
      checker.check detok.outputText (detok.outputText.length - offset) detok.stop
      else none) = some r) : offset < r.start + r.stopString.length := by
  split at reported
  · have late := checker.endsNew _ _ _ _ reported
    omega
  · cases reported

structure Latched (detok : Detokenizer) (past : List (List Text))
    (s : Detokenizer × Option Report) : Prop where
  closed : s.1.reasoningClosed = true
  whole : s.2 = none → s.1.outputText = accumulated past
  endsPast : ∀ r i, s.2 = some r → FirstAt detok.reasoningEndStr (accumulated past) i →
    i + detok.reasoningEndStr.length < r.start + r.stopString.length

theorem latched_completing (checker : StopChecker) {detok : Detokenizer} (fresh : Fresh detok)
    (past : List (List Text)) (tokens : List Text)
    (absent : ¬ detok.reasoningEndStr <:+: accumulated past) (i : Nat)
    (stands : At detok.reasoningEndStr (accumulated (past ++ [tokens])) i)
    (late : (heldText detok.minTokens (past ++ [tokens])).length <
      i + detok.reasoningEndStr.length) :
    Latched detok (past ++ [tokens]) (stream checker detok (past ++ [tokens])) := by
  -- the marker is new, so it also ends after the text the update started from
  have new : (accumulated past).length < i + detok.reasoningEndStr.length := by
    by_contra early
    rw [accumulated_concat] at stands
    exact absent ((infix_iff_at _ _).mpr ⟨i, at_of_append stands (by omega)⟩)
  rcases closeReasoning_open
    (grown detok (accumulated (past ++ [tokens])) (past ++ [tokens]).flatten.length)
    (max (accumulated past).length (heldText detok.minTokens (past ++ [tokens])).length)
    fresh.guard fresh.reasoning fresh.marker with ⟨_, earlier⟩ | ⟨idx, found, _, closes⟩
  · have bound := earlier i stands
    simp only [grown] at bound
    omega
  have inside : max (max (accumulated past).length
      (heldText detok.minTokens (past ++ [tokens])).length)
      (idx + detok.reasoningEndStr.length) ≤ (accumulated (past ++ [tokens])).length :=
    max_le (offset_le_text detok past tokens) (at_end_le found fresh.marker)
  rw [stream_concat, stream_open checker fresh past absent]
  simp only [advance, update, appended_open, closes]
  refine ⟨by rw [truncate_closed], ?_, ?_⟩
  · intro silent
    simp only at silent
    rw [silent]
    rfl
  · intro r j reported first
    have past := report_past_offset checker _ _ inside r reported
    have order := first.2 idx found
    simp only [grown] at past
    omega

theorem latched_later (checker : StopChecker) {detok : Detokenizer}
    (marker : detok.reasoningEndStr ≠ []) (past : List (List Text)) (tokens : List Text)
    (present : detok.reasoningEndStr <:+: accumulated past)
    (s : Detokenizer × Option Report) (latched : Latched detok past s) :
    Latched detok (past ++ [tokens]) (advance checker s tokens) := by
  obtain ⟨k, stands⟩ := (infix_iff_at _ _).mp present
  have same : ∀ i, FirstAt detok.reasoningEndStr (accumulated (past ++ [tokens])) i →
      i + detok.reasoningEndStr.length ≤ (accumulated past).length := by
    intro i first
    rw [accumulated_concat] at first
    have order := first.2 k (at_append _ stands)
    have bound := at_end_le stands marker
    omega
  have firstPast : ∀ i, FirstAt detok.reasoningEndStr (accumulated (past ++ [tokens])) i →
      FirstAt detok.reasoningEndStr (accumulated past) i := by
    intro i first
    have bound := same i first
    rw [accumulated_concat] at first
    exact ⟨at_of_append first.1 bound, fun j h => first.2 j (at_append _ h)⟩
  rcases s with ⟨d, none | r⟩
  · have text : d.outputText = accumulated past := latched.whole rfl
    have closed : (appendTokens d tokens).1.reasoningClosed = true := by
      rw [appendTokens, appendTokens_state]
      exact latched.closed
    have grownText : (appendTokens d tokens).1.outputText = accumulated (past ++ [tokens]) := by
      rw [appendTokens, appendTokens_state, accumulated_concat, ← text]
      rfl
    have from_past : (accumulated past).length ≤ (appendTokens d tokens).2 := by
      rw [appendTokens_offset, text]
      omega
    have inside : (appendTokens d tokens).2 ≤ (appendTokens d tokens).1.outputText.length := by
      have part := ((List.take_prefix (d.minTokens - d.numOutputTokens) tokens).flatten).length_le
      rw [grownText, appendTokens_offset, accumulated_concat, List.length_append, text]
      omega
    simp only [advance, update, closeReasoning_closed _ _ closed]
    refine ⟨by rw [truncate_closed, closed], ?_, ?_⟩
    · intro silent
      simp only at silent
      rw [silent]
      exact grownText
    · intro r i reported first
      have late := report_past_offset checker _ _ inside r reported
      have bound := same i first
      omega
  · refine ⟨latched.closed, ?_, ?_⟩
    · intro silent
      cases silent
    · intro r' i reported first
      exact latched.endsPast r' i reported (firstPast i first)

theorem update_closed (checker : StopChecker) (detok : Detokenizer) (tokens : List Text)
    (closed : detok.reasoningClosed = true) :
    (update checker detok tokens).2 =
      (update checker { detok with reasoningStopGuard := false } tokens).2 := by
  have offsets : (appendTokens { detok with reasoningStopGuard := false } tokens).2 =
      (appendTokens detok tokens).2 := by
    rw [appendTokens_offset, appendTokens_offset]
  have kept : (appendTokens detok tokens).1.reasoningClosed = true := by
    rw [appendTokens, appendTokens_state]
    exact closed
  have keptOff :
      (appendTokens { detok with reasoningStopGuard := false } tokens).1.reasoningClosed =
        true := by
    rw [appendTokens, appendTokens_state]
    exact closed
  simp only [update, closeReasoning_closed _ _ kept, closeReasoning_closed _ _ keptOff, offsets]
  simp only [appendTokens, appendTokens_state, grown, stopsEvaluated, closed, or_true, and_true]

theorem latched_stream (checker : StopChecker) {detok : Detokenizer} (fresh : Fresh detok)
    {updates : List (List Text)} (pastMin : MarkerPastMinTokens detok updates)
    (past : List (List Text)) (run : past <+: updates)
    (present : detok.reasoningEndStr <:+: accumulated past) :
    Latched detok past (stream checker detok past) := by
  induction past using List.reverseRecOn with
  | nil => exact absurd (List.eq_nil_of_infix_nil present) fresh.marker
  | append_singleton past tokens ih =>
    have earlier : past <+: updates := (List.prefix_append _ _).trans run
    by_cases before : detok.reasoningEndStr <:+: accumulated past
    · rw [stream_concat]
      exact latched_later checker fresh.marker past tokens before _ (ih earlier before)
    · obtain ⟨i, stands, late⟩ := pastMin past tokens run before present
      exact latched_completing checker fresh past tokens before i stands late

theorem pastMin_of_closed (checker : StopChecker) {detok : Detokenizer} (fresh : Fresh detok)
    (past : List (List Text)) (tokens : List Text)
    (absent : ¬ detok.reasoningEndStr <:+: accumulated past)
    (closed : (stream checker detok (past ++ [tokens])).1.reasoningClosed = true) :
    ∃ i, At detok.reasoningEndStr (accumulated (past ++ [tokens])) i ∧
      (heldText detok.minTokens (past ++ [tokens])).length <
        i + detok.reasoningEndStr.length := by
  rw [stream_concat, stream_open checker fresh past absent] at closed
  simp only [advance, update, appended_open] at closed
  rcases closeReasoning_open
    (grown detok (accumulated (past ++ [tokens])) (past ++ [tokens]).flatten.length)
    (max (accumulated past).length (heldText detok.minTokens (past ++ [tokens])).length)
    fresh.guard fresh.reasoning fresh.marker with ⟨stays, _⟩ | ⟨idx, found, late, _⟩
  · rw [truncate_closed, stays] at closed
    exact absurd (fresh.reasoning.symm.trans closed) (by decide)
  · refine ⟨idx, found, ?_⟩
    simp only [grown] at late
    omega

/-- `check_stop_strings` without `include_in_output`: the first stop string, in the client's
    order, that is found from the last position at which it could end among the new
    characters. -/
def checkStopStrings (text : Text) (newChars : Nat) : List Text → Option Report
  | [] => none
  | s :: rest =>
    if newChars = 0 then none
    else match findFrom s text (text.length + 1 - newChars - s.length) with
      | some idx => some { stopString := s, start := idx, truncateTo := some idx }
      | none => checkStopStrings text newChars rest

theorem checkStopStrings_spec (text : Text) (newChars : Nat) (stop : List Text) (r : Report)
    (reported : checkStopStrings text newChars stop = some r) :
    r.stopString ∈ stop ∧ At r.stopString text r.start ∧
      text.length < newChars + (r.start + r.stopString.length) := by
  induction stop with
  | nil => cases reported
  | cons s rest ih =>
    rw [checkStopStrings] at reported
    split at reported
    · cases reported
    · split at reported
      · rename_i idx found
        cases reported
        obtain ⟨late, stands, _⟩ := findFrom_some_iff.mp found
        exact ⟨List.mem_cons_self, stands, by simp only; omega⟩
      · obtain ⟨member, stands, late⟩ := ih reported
        exact ⟨List.mem_cons_of_mem s member, stands, late⟩

def plainChecker : StopChecker where
  check := checkStopStrings
  stands text newChars stop r reported :=
    ⟨(checkStopStrings_spec text newChars stop r reported).1,
      (checkStopStrings_spec text newChars stop r reported).2.1⟩
  endsNew text newChars stop r reported :=
    (checkStopStrings_spec text newChars stop r reported).2.2

/-- Token 7 is `<think>` and ends the prompt; one stop string, at least one token. -/
def sampleDetok : Detokenizer :=
  maybeEnableReasoningStopGuard true none
    { convertTokensToIds := some fun _ => .ok (some 7), encode := none } [3, 7]
    (.init ["Question:".toList] 1)

theorem sampleDetok_armed : Armed sampleDetok :=
  ⟨_, _, _, _, _, _, rfl, by decide⟩

end ReasoningStops
