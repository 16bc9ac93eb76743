import Glm53Overlay.KernelShare.TraceReader

/-!
Only the text after the position and the unread pieces matter to the reader: along a document
it yields the elements in order, whatever the pieces are.
-/
namespace KernelShare
variable {V : Type} {IsObject : Text → V → Prop} {rawDecode : Text → Nat → Option (V × Nat)}

theorem prefix_cases {part first rest : Text} {c : Char} (inside : part <+: first ++ c :: rest) :
    (∃ more, first = part ++ more) ∨ ∃ more, part = first ++ c :: more ∧ more <+: rest := by
  by_cases short : part.length ≤ first.length
  · left
    obtain ⟨more, split⟩ := List.prefix_of_prefix_length_le inside (List.prefix_append _ _) short
    exact ⟨more, split.symm⟩
  · right
    obtain ⟨more, rfl⟩ := List.prefix_of_prefix_length_le (List.prefix_append first (c :: rest))
      inside (by omega)
    have after := (List.prefix_append_right_inj first).mp inside
    cases more with
    | nil =>
      rw [List.append_nil] at short
      omega
    | cons d more =>
      obtain ⟨rfl, later⟩ := List.cons_prefix_cons.mp after
      exact ⟨more, rfl, later⟩

theorem takeWhile_gap {gap rest : Text} {c : Char} (gaps : gap.all isSeparator = true)
    (other : isSeparator c = false) : (gap ++ c :: rest).takeWhile isSeparator = gap := by
  rw [List.takeWhile_append_of_pos (List.all_eq_true.mp gaps)]
  simp [other]

theorem takeWhile_all {gap : Text} (gaps : gap.all isSeparator = true) :
    gap.takeWhile isSeparator = gap := by
  induction gap with
  | nil => rfl
  | cons c rest ih =>
    rw [List.all_cons, Bool.and_eq_true] at gaps
    rw [List.takeWhile_cons_of_pos gaps.1, ih gaps.2]

/-- What the event loop returns on a text that goes as far as `read` into the array. -/
def Yields (values : List V) (size read : Nat) (result : Option (List V × Ending)) : Prop :=
  (size < read → result = some (values, .closed)) ∧
    (read ≤ size → ∃ some' why, result = some (some', .truncated why) ∧ some' <+: values)

def pendingWork (buf : Text) (pos : Nat) (reads : List Text) : Nat :=
  (buf.drop pos).length + reads.flatten.length + reads.length

theorem Yields.shift {values : List V} {size read n : Nat} {result : Option (List V × Ending)}
    (later : Yields values size read result) : Yields values (n + size) (n + read) result :=
  ⟨fun past => later.1 (by omega), fun short => later.2 (by omega)⟩

theorem Yields.event {values : List V} {size read n : Nat} {result : Option (List V × Ending)}
    (value : V) (later : Yields values size read result) :
    Yields (value :: values) (n + size) (n + read)
      (result.map fun r => (value :: r.1, r.2)) := by
  constructor
  · intro past
    rw [later.1 (by omega)]
    rfl
  · intro short
    obtain ⟨some', why, rfl, front⟩ := later.2 (by omega)
    exact ⟨value :: some', why, rfl, List.cons_prefix_cons.mpr ⟨rfl, front⟩⟩

theorem yields_cut {values : List V} {size read : Nat} (why : Missing) (short : read ≤ size) :
    Yields values size read (some ([], .truncated why)) := by
  constructor
  · intro past
    omega
  · intro _
    exact ⟨[], why, rfl, List.nil_prefix⟩

structure Remaining (IsObject : Text → V → Prop) (elements : List (Element V)) (gap : Text) :
    Prop where
  gaps : ∀ e ∈ elements, e.gap.all isSeparator = true
  objects : ∀ e ∈ elements, IsObject e.text e.value
  last : gap.all isSeparator = true

theorem getElem?_of_drop {buf : Text} {pos : Nat} {c : Char} {rest : Text}
    (view : buf.drop pos = c :: rest) : buf[pos]? = some c := by
  rw [← List.head?_drop, view]
  rfl

section Steps
variable (rawDecode : Text → Nat → Option (V × Nat)) (compactAt fuel : Nat)
variable {buf : Text} {pos : Nat} {gap more : Text}

theorem step_gap (gaps : (buf.drop pos).all isSeparator = true) (reads : List Text) :
    streamEvents rawDecode compactAt (fuel + 1) buf pos reads =
      match reads with
      | [] => some ([], .truncated .endsBeforeClose)
      | chunk :: reads => streamEvents rawDecode compactAt fuel chunk 0 reads := by
  have past : buf.drop (pos + (buf.drop pos).length) = [] := by
    rw [← List.drop_drop, List.drop_length]
  have nothing : buf[pos + (buf.drop pos).length]? = none := by
    rw [← List.head?_drop, past]
    rfl
  conv_lhs => unfold streamEvents
  cases reads with
  | nil => simp only [takeWhile_all gaps, nothing]
  | cons chunk reads => simp only [takeWhile_all gaps, nothing, past, List.nil_append]

theorem gap_then (gaps : gap.all isSeparator = true) {c : Char} (other : isSeparator c = false)
    (view : buf.drop pos = gap ++ c :: more) :
    ((buf.drop pos).takeWhile isSeparator).length = gap.length ∧
      buf.drop (pos + gap.length) = c :: more ∧ buf[pos + gap.length]? = some c := by
  have after : buf.drop (pos + gap.length) = c :: more := by
    rw [← List.drop_drop, view, List.drop_left]
  refine ⟨?_, after, getElem?_of_drop after⟩
  rw [view, takeWhile_gap gaps other]

theorem step_close (gaps : gap.all isSeparator = true) (view : buf.drop pos = gap ++ ']' :: more)
    (reads : List Text) :
    streamEvents rawDecode compactAt (fuel + 1) buf pos reads = some ([], .closed) := by
  obtain ⟨skip, _, here⟩ := gap_then gaps (by decide) view
  conv_lhs => unfold streamEvents
  simp only [skip, here, ↓reduceIte]

theorem step_event (gaps : gap.all isSeparator = true) (view : buf.drop pos = gap ++ '{' :: more)
    {value : V} {stop : Nat} (decoded : rawDecode buf (pos + gap.length) = some (value, stop))
    (reads : List Text) : ∃ buf' pos', buf'.drop pos' = buf.drop stop ∧
      streamEvents rawDecode compactAt (fuel + 1) buf pos reads =
        (streamEvents rawDecode compactAt fuel buf' pos' reads).map
          fun r => (value :: r.1, r.2) := by
  obtain ⟨skip, _, here⟩ := gap_then gaps (by decide) view
  have open' : ¬ '{' = ']' := by decide
  by_cases far : compactAt < stop
  · refine ⟨buf.drop stop, 0, rfl, ?_⟩
    conv_lhs => unfold streamEvents
    simp only [skip, here, open', ↓reduceIte, decoded, far]
  · refine ⟨buf, stop, rfl, ?_⟩
    conv_lhs => unfold streamEvents
    simp only [skip, here, open', ↓reduceIte, decoded, far]

theorem step_retry (gaps : gap.all isSeparator = true) (view : buf.drop pos = gap ++ '{' :: more)
    (refused : rawDecode buf (pos + gap.length) = none) (reads : List Text) :
    streamEvents rawDecode compactAt (fuel + 1) buf pos reads =
      match reads with
      | [] => some ([], .truncated .midEvent)
      | chunk :: reads =>
        streamEvents rawDecode compactAt fuel ('{' :: more ++ chunk) 0 reads := by
  obtain ⟨skip, after, here⟩ := gap_then gaps (by decide) view
  have open' : ¬ '{' = ']' := by decide
  conv_lhs => unfold streamEvents
  cases reads with
  | nil => simp only [skip, here, open', ↓reduceIte, refused]
  | cons chunk reads => simp only [skip, here, open', ↓reduceIte, refused, after]

end Steps

/-- With this fuel the event loop yields the elements left, from any view of the buffer. -/
def Reads (IsObject : Text → V → Prop) (rawDecode : Text → Nat → Option (V × Nat))
    (compactAt : Nat) (back : Text) (fuel : Nat) : Prop :=
  ∀ (buf : Text) (pos : Nat) (reads : List Text) (elements : List (Element V)) (gap : Text),
    pendingWork buf pos reads < fuel → Remaining IsObject elements gap →
    buf.drop pos ++ reads.flatten <+: arrayText elements gap ++ ']' :: back →
    Yields (elements.map Element.value) (arrayText elements gap).length
      (buf.drop pos ++ reads.flatten).length
      (streamEvents rawDecode compactAt fuel buf pos reads)

section Branches
variable {compactAt fuel pos : Nat} {back buf gap more : Text} {reads : List Text}
  {rest : List (Element V)}

theorem arrayText_cons (e : Element V) : arrayText (e :: rest) gap =
    e.gap ++ (e.text ++ arrayText rest gap) := by
  simp [arrayText]

/-- The view ends among separators. -/
theorem reads_gap (ih : Reads IsObject rawDecode compactAt back fuel)
    (work : pendingWork buf pos reads < fuel + 1)
    (gaps : (buf.drop pos).all isSeparator = true) (remaining : Remaining IsObject rest gap)
    (inside : buf.drop pos ++ reads.flatten <+:
      buf.drop pos ++ (arrayText rest gap ++ ']' :: back)) :
    Yields (rest.map Element.value) ((buf.drop pos).length + (arrayText rest gap).length)
      (buf.drop pos ++ reads.flatten).length
      (streamEvents rawDecode compactAt (fuel + 1) buf pos reads) := by
  rw [step_gap rawDecode compactAt fuel gaps]
  cases reads with
  | nil =>
    apply yields_cut
    rw [List.flatten_nil, List.append_nil]
    omega
  | cons chunk reads =>
    rw [List.prefix_append_right_inj, List.flatten_cons] at inside
    have less : pendingWork chunk 0 reads < fuel := by
      simp only [pendingWork, List.drop_zero, List.flatten_cons, List.length_append,
        List.length_cons] at work ⊢
      omega
    have later := ih chunk 0 reads rest gap less remaining inside
    rw [List.length_append, List.flatten_cons]
    exact later.shift

/-- The view goes past the end of the array. -/
theorem reads_close (gaps : gap.all isSeparator = true)
    (view : buf.drop pos = gap ++ ']' :: more) :
    Yields [] gap.length (buf.drop pos ++ reads.flatten).length
      (streamEvents rawDecode compactAt (fuel + 1) buf pos reads) := by
  rw [step_close rawDecode compactAt fuel gaps view]
  constructor
  · exact fun _ => rfl
  · intro short
    rw [view, List.length_append, List.length_append, List.length_cons] at short
    omega

variable {e : Element V} {inner : Text}

/-- The buffer at the object, and what stands before it. -/
theorem buffer_at_object (view : buf.drop pos = e.gap ++ '{' :: more) :
    buf.take (pos + e.gap.length) ++ '{' :: more = buf ∧
      (buf.take (pos + e.gap.length)).length = pos + e.gap.length := by
  have behind : buf.drop (pos + e.gap.length) = '{' :: more := by
    rw [← List.drop_drop, view, List.drop_left]
  have nonempty := congrArg List.length behind
  rw [List.length_drop, List.length_cons] at nonempty
  refine ⟨by rw [← behind, List.take_append_drop], ?_⟩
  rw [List.length_take]
  omega

/-- The object is complete in the view. -/
theorem reads_object (decodes : Decodes IsObject rawDecode)
    (ih : Reads IsObject rawDecode compactAt back fuel)
    (work : pendingWork buf pos reads < fuel + 1)
    (remaining : Remaining IsObject (e :: rest) gap) (opens : e.text = '{' :: inner)
    (view : buf.drop pos = e.gap ++ '{' :: more) {after : Text}
    (found : e.text ++ after = '{' :: more)
    (inside : buf.drop pos ++ reads.flatten <+:
      arrayText (e :: rest) gap ++ ']' :: back) :
    Yields ((e :: rest).map Element.value) (arrayText (e :: rest) gap).length
      (buf.drop pos ++ reads.flatten).length
      (streamEvents rawDecode compactAt (fuel + 1) buf pos reads) := by
  obtain ⟨gaps, otherGaps⟩ := List.forall_mem_cons.mp remaining.gaps
  obtain ⟨object, otherObjects⟩ := List.forall_mem_cons.mp remaining.objects
  obtain ⟨placed, inBuf⟩ := buffer_at_object view
  have decoded := decodes.complete (buf.take (pos + e.gap.length)) e.text after e.value object
  rw [List.append_assoc, found, placed, inBuf] at decoded
  obtain ⟨buf', pos', kept, stepped⟩ :=
    step_event rawDecode compactAt fuel gaps view decoded reads
  have rests : buf'.drop pos' = after := by
    rw [kept, ← List.drop_drop, ← List.drop_drop, view, List.drop_left, ← found, List.drop_left]
  have viewSize : (buf.drop pos).length = e.gap.length + (e.text.length + after.length) := by
    rw [view, ← found, List.length_append, List.length_append]
  have less : pendingWork buf' pos' reads < fuel := by
    have some' : 0 < e.text.length := by
      rw [opens]
      exact Nat.zero_lt_succ _
    rw [pendingWork] at work ⊢
    rw [rests]
    omega
  have inside' : buf'.drop pos' ++ reads.flatten <+: arrayText rest gap ++ ']' :: back := by
    rw [arrayText_cons, view, ← found] at inside
    simp only [List.append_assoc, List.prefix_append_right_inj] at inside
    rw [rests]
    exact inside
  have next := ih buf' pos' reads rest gap less ⟨otherGaps, otherObjects, remaining.last⟩ inside'
  have size : (arrayText (e :: rest) gap).length =
      e.gap.length + e.text.length + (arrayText rest gap).length := by
    rw [arrayText_cons, List.length_append, List.length_append]
    omega
  have reading : (buf.drop pos ++ reads.flatten).length =
      e.gap.length + e.text.length + (buf'.drop pos' ++ reads.flatten).length := by
    rw [List.length_append, List.length_append, rests, viewSize]
    omega
  rw [stepped, size, reading]
  exact next.event e.value

/-- The rest of the object is still to be read. -/
theorem reads_partial (decodes : Decodes IsObject rawDecode)
    (ih : Reads IsObject rawDecode compactAt back fuel)
    (work : pendingWork buf pos reads < fuel + 1)
    (remaining : Remaining IsObject (e :: rest) gap)
    (view : buf.drop pos = e.gap ++ '{' :: more) (shorter : '{' :: more <+: e.text)
    (differ : '{' :: more ≠ e.text)
    (inside : buf.drop pos ++ reads.flatten <+:
      arrayText (e :: rest) gap ++ ']' :: back) :
    Yields ((e :: rest).map Element.value) (arrayText (e :: rest) gap).length
      (buf.drop pos ++ reads.flatten).length
      (streamEvents rawDecode compactAt (fuel + 1) buf pos reads) := by
  obtain ⟨gaps, otherGaps⟩ := List.forall_mem_cons.mp remaining.gaps
  have object := (List.forall_mem_cons.mp remaining.objects).1
  obtain ⟨placed, inBuf⟩ := buffer_at_object view
  have refused := decodes.cut (buf.take (pos + e.gap.length)) e.text ('{' :: more) e.value object
    shorter differ
  rw [placed, inBuf] at refused
  rw [step_retry rawDecode compactAt fuel gaps view refused]
  have viewSize : (buf.drop pos).length = e.gap.length + ('{' :: more).length := by
    rw [view, List.length_append]
  have whole : arrayText (⟨[], e.text, e.value⟩ :: rest) gap = e.text ++ arrayText rest gap :=
    arrayText_cons _
  have size : (arrayText (e :: rest) gap).length = e.gap.length +
      (arrayText (⟨[], e.text, e.value⟩ :: rest) gap).length := by
    rw [whole, arrayText_cons, List.length_append]
  cases reads with
  | nil =>
    apply yields_cut
    have part := shorter.length_le
    rw [size, whole, List.flatten_nil, List.append_nil, List.length_append, viewSize]
    omega
  | cons chunk reads =>
    have less : pendingWork ('{' :: more ++ chunk) 0 reads < fuel := by
      simp only [pendingWork, List.drop_zero, List.flatten_cons, List.length_append,
        List.length_cons] at work viewSize ⊢
      omega
    have left : Remaining IsObject (⟨[], e.text, e.value⟩ :: rest) gap :=
      ⟨List.forall_mem_cons.mpr ⟨rfl, otherGaps⟩, List.forall_mem_cons.mpr
        (List.forall_mem_cons.mp remaining.objects), remaining.last⟩
    have inside' : ('{' :: more ++ chunk).drop 0 ++ reads.flatten <+:
        arrayText (⟨[], e.text, e.value⟩ :: rest) gap ++ ']' :: back := by
      rw [arrayText_cons, view, List.append_assoc, List.append_assoc,
        List.prefix_append_right_inj, List.flatten_cons, ← List.append_assoc] at inside
      rw [whole]
      exact inside
    have next := ih ('{' :: more ++ chunk) 0 reads (⟨[], e.text, e.value⟩ :: rest) gap less left
      inside'
    have reading : (buf.drop pos ++ (chunk :: reads).flatten).length = e.gap.length +
        (('{' :: more ++ chunk).drop 0 ++ reads.flatten).length := by
      rw [List.length_append, viewSize, List.flatten_cons, List.drop_zero, List.length_append,
        List.length_append, List.length_append]
      omega
    rw [size, reading]
    exact next.shift

end Branches

theorem streamEvents_yields (decodes : Decodes IsObject rawDecode) (compactAt : Nat) (back : Text)
    (fuel : Nat) : Reads IsObject rawDecode compactAt back fuel := by
  induction fuel with
  | zero =>
    intro buf pos reads elements gap work
    omega
  | succ fuel ih =>
    intro buf pos reads elements gap work remaining inside
    have viewed := (List.prefix_append (buf.drop pos) reads.flatten).trans inside
    cases elements with
    | nil =>
      have gaps := remaining.last
      change _ <+: gap ++ ']' :: back at inside viewed
      rcases prefix_cases viewed with ⟨more, split⟩ | ⟨more, view, _⟩
      · rw [split, List.all_append, Bool.and_eq_true] at gaps
        rw [split, List.append_assoc] at inside
        have left : Remaining IsObject [] more := ⟨remaining.gaps, remaining.objects, gaps.2⟩
        have yields := reads_gap ih work gaps.1 left inside
        change Yields [] gap.length _ _
        rw [split, List.length_append]
        exact yields
      · exact reads_close gaps view
    | cons e rest =>
      obtain ⟨gaps, otherGaps⟩ := List.forall_mem_cons.mp remaining.gaps
      obtain ⟨object, otherObjects⟩ := List.forall_mem_cons.mp remaining.objects
      obtain ⟨inner, opens⟩ := decodes.opens e.text e.value object
      have shape : arrayText (e :: rest) gap ++ ']' :: back =
          e.gap ++ '{' :: (inner ++ (arrayText rest gap ++ ']' :: back)) := by
        rw [arrayText_cons, opens]
        simp
      rcases prefix_cases (shape ▸ viewed) with ⟨more, split⟩ | ⟨more, view, later⟩
      · rw [split, List.all_append, Bool.and_eq_true] at gaps
        have left : Remaining IsObject (⟨more, e.text, e.value⟩ :: rest) gap :=
          ⟨List.forall_mem_cons.mpr ⟨gaps.2, otherGaps⟩, List.forall_mem_cons.mpr
            ⟨object, otherObjects⟩, remaining.last⟩
        have cut : arrayText (e :: rest) gap =
            buf.drop pos ++ arrayText (⟨more, e.text, e.value⟩ :: rest) gap := by
          rw [arrayText_cons, arrayText_cons, split, List.append_assoc]
        rw [cut, List.append_assoc] at inside
        have yields := reads_gap ih work gaps.1 left inside
        rw [cut, List.length_append]
        exact yields
      · have partOf : '{' :: more <+: e.text ++ (arrayText rest gap ++ ']' :: back) := by
          rw [opens]
          exact List.cons_prefix_cons.mpr ⟨rfl, later⟩
        by_cases whole : e.text.length ≤ ('{' :: more).length
        · obtain ⟨after, found⟩ :=
            List.prefix_of_prefix_length_le (List.prefix_append _ _) partOf whole
          exact reads_object decodes ih work remaining opens view found inside
        · have shorter : '{' :: more <+: e.text :=
            List.prefix_of_prefix_length_le partOf (List.prefix_append _ _) (by omega)
          have differ : '{' :: more ≠ e.text := by
            intro same
            rw [same] at whole
            exact whole (Nat.le_refl _)
          exact reads_partial decodes ih work remaining view shorter differ inside

theorem fillUntil_some {test : Text → Bool} {buf' : Text} {reads' : List Text}
    (reads : List Text) : ∀ buf : Text, fillUntil test buf reads = some (buf', reads') →
    buf' ++ reads'.flatten = buf ++ reads.flatten ∧ test buf' = true ∧
      reads'.length ≤ reads.length := by
  induction reads with
  | nil =>
    intro buf filled
    unfold fillUntil at filled
    split at filled
    · rename_i found
      cases filled
      exact ⟨rfl, found, Nat.le_refl _⟩
    · cases filled
  | cons chunk reads ih =>
    intro buf filled
    unfold fillUntil at filled
    split at filled
    · rename_i found
      cases filled
      exact ⟨rfl, found, Nat.le_refl _⟩
    · obtain ⟨same, found, fewer⟩ := ih (buf ++ chunk) filled
      refine ⟨?_, found, Nat.le_succ_of_le fewer⟩
      rw [same, List.flatten_cons, List.append_assoc]

theorem fillUntil_none {test : Text → Bool} (reads : List Text) : ∀ buf : Text,
    fillUntil test buf reads = none → test (buf ++ reads.flatten) = false := by
  induction reads with
  | nil =>
    intro buf filled
    unfold fillUntil at filled
    split at filled
    · cases filled
    · rename_i absent
      simpa using absent
  | cons chunk reads ih =>
    intro buf filled
    unfold fillUntil at filled
    split at filled
    · cases filled
    · rw [List.flatten_cons, ← List.append_assoc]
      exact ih (buf ++ chunk) filled

theorem find_in_front {d : Document V} (proper : d.Proper IsObject) {buf : Text}
    (inside : buf <+: d.text) (found : eventsKey <:+: buf) :
    TextSearch.find eventsKey buf = some d.front.length := by
  obtain ⟨more, whole⟩ := inside
  cases place : TextSearch.find eventsKey buf with
  | none => exact absurd found ((TextSearch.find_eq_none_iff _ _).mp place)
  | some i =>
    have here := TextSearch.find_some_at place
    have nonempty : eventsKey ≠ [] := by decide
    have fits := TextSearch.at_end_le here nonempty
    have first := TextSearch.find_some_at proper.first
    have least := TextSearch.find_some_least proper.first (whole ▸ TextSearch.at_append more here)
    rw [← whole] at first
    have early := TextSearch.find_some_least place
      (TextSearch.at_of_append first (by omega))
    rw [Nat.le_antisymm early least]

theorem text_shape (d : Document V) : d.text =
    d.front ++ ((eventsKey ++ d.colon) ++ '[' :: (arrayText d.elements d.gap ++ ']' :: d.back)) := by
  simp [Document.text, Document.opened]

theorem opened_length (d : Document V) : d.opened.length = d.front.length +
    ((eventsKey ++ d.colon).length + 1 + (arrayText d.elements d.gap).length) := by
  simp only [Document.opened, List.length_append, List.length_cons]
  omega

/-- A text without the key ends before the array does. -/
theorem cut_before_key {d : Document V} {part : Text} (inside : part <+: d.text)
    (absent : ¬ eventsKey <:+: part) : part.length ≤ d.opened.length := by
  have size := opened_length d
  by_contra long
  rw [not_le] at long
  have early : d.front ++ eventsKey <+: part := by
    apply List.prefix_of_prefix_length_le _ inside
    · simp only [List.length_append] at size ⊢
      omega
    · rw [text_shape]
      exact ⟨d.colon ++ '[' :: (arrayText d.elements d.gap ++ ']' :: d.back), by simp⟩
  exact absent ((List.suffix_append d.front eventsKey).isInfix.trans early.isInfix)

/-- A buffer with the key in it goes past the front. -/
theorem past_front {d : Document V} (proper : d.Proper IsObject) {buf : Text}
    (inside : buf <+: d.text) (found : eventsKey <:+: buf) :
    TextSearch.find eventsKey buf = some d.front.length ∧
      ∃ after, buf = d.front ++ after := by
  have placed := find_in_front proper inside found
  have fits := TextSearch.at_end_le (TextSearch.find_some_at placed) (by decide)
  obtain ⟨behind, split⟩ := inside
  rw [text_shape] at split
  have inWhole : d.front <+: buf ++ behind := split ▸ List.prefix_append d.front _
  have front := List.prefix_of_prefix_length_le inWhole (List.prefix_append buf behind) (by omega)
  obtain ⟨after, joined⟩ := front
  exact ⟨placed, after, joined.symm⟩

section Bracket
variable {first rest part more : Text}

/-- A text without the bracket ends before it. -/
theorem cut_before_array (inside : part <+: first ++ '[' :: rest) (absent : '[' ∉ part) :
    part.length ≤ first.length := by
  rcases prefix_cases inside with ⟨more, short⟩ | ⟨more, long, _⟩
  · rw [short, List.length_append]
    omega
  · rw [long] at absent
    exact absurd (by simp) absent

/-- A buffer with the bracket in it goes past the first one. -/
theorem past_bracket (plain : '[' ∉ first) (inside : part ++ more <+: first ++ '[' :: rest)
    (found : '[' ∈ part) : ∃ after, part = first ++ '[' :: after ∧
      part.drop (part.idxOf '[' + 1) = after ∧ after ++ more <+: rest := by
  rcases prefix_cases ((List.prefix_append part more).trans inside) with
    ⟨missing, short⟩ | ⟨after, long, _⟩
  · have inFirst : '[' ∈ first := by
      rw [short]
      exact List.mem_append_left missing found
    exact absurd inFirst plain
  · have index : part.idxOf '[' = first.length := by
      rw [long, List.idxOf_append_of_notMem plain, List.idxOf_cons_self, Nat.add_zero]
    refine ⟨after, long, ?_, ?_⟩
    · rw [index, long, ← List.drop_drop, List.drop_left]
      rfl
    · rw [long, List.append_assoc, List.prefix_append_right_inj] at inside
      exact (List.cons_prefix_cons.mp inside).2

end Bracket

theorem reader_yields (decodes : Decodes IsObject rawDecode) (compactAt : Nat) {d : Document V}
    (proper : d.Proper IsObject) {reads : List Text} (inside : reads.flatten <+: d.text)
    {fuel : Nat} (enough : reads.flatten.length + reads.length < fuel) :
    Yields d.values d.opened.length reads.flatten.length
      (iterTraceEvents rawDecode compactAt fuel reads) := by
  have size := opened_length d
  unfold iterTraceEvents
  cases filled : fillUntil (fun buf => decide (eventsKey <:+: buf)) [] reads with
  | none =>
    have absent := fillUntil_none reads [] filled
    rw [List.nil_append, decide_eq_false_iff_not] at absent
    exact yields_cut _ (cut_before_key inside absent)
  | some first =>
    obtain ⟨buf, reads₁⟩ := first
    obtain ⟨same, found, fewer⟩ := fillUntil_some reads [] filled
    rw [List.nil_append] at same
    have bufInside : buf <+: d.text := (List.prefix_append buf reads₁.flatten).trans (same ▸ inside)
    obtain ⟨placed, after, cut⟩ := past_front proper bufInside (of_decide_eq_true found)
    have dropped : buf.drop d.front.length = after := by rw [cut, List.drop_left]
    simp only [placed, Option.getD_some, dropped]
    have afterInside : after ++ reads₁.flatten <+:
        (eventsKey ++ d.colon) ++ '[' :: (arrayText d.elements d.gap ++ ']' :: d.back) := by
      rw [← same, cut, text_shape, List.append_assoc, List.prefix_append_right_inj] at inside
      exact inside
    have total : reads.flatten.length = d.front.length + (after ++ reads₁.flatten).length := by
      rw [← same, cut, List.append_assoc, List.length_append]
    cases opened : fillUntil (fun buf => decide ('[' ∈ buf)) after reads₁ with
    | none =>
      have absent := fillUntil_none reads₁ after opened
      rw [decide_eq_false_iff_not] at absent
      have short := cut_before_array afterInside absent
      exact yields_cut _ (by omega)
    | some second =>
      obtain ⟨buf₂, reads₂⟩ := second
      obtain ⟨same₂, found₂, fewer₂⟩ := fillUntil_some reads₁ after opened
      rw [← same₂] at afterInside total
      have plain : '[' ∉ eventsKey ++ d.colon := by
        rw [List.mem_append, not_or]
        exact ⟨by decide, proper.colon⟩
      obtain ⟨more, long, behind, inArray⟩ :=
        past_bracket plain afterInside (of_decide_eq_true found₂)
      simp only [behind]
      have longer : (buf₂ ++ reads₂.flatten).length =
          (eventsKey ++ d.colon).length + ((more ++ reads₂.flatten).length + 1) := by
        rw [long, List.append_assoc]
        exact List.length_append
      have left : pendingWork more 0 reads₂ < fuel := by
        have both : (more ++ reads₂.flatten).length = more.length + reads₂.flatten.length :=
          List.length_append
        rw [pendingWork, List.drop_zero]
        omega
      have yields := streamEvents_yields decodes compactAt d.back fuel more 0 reads₂ d.elements
        d.gap left ⟨proper.gaps, proper.objects, proper.last⟩ inArray
      rw [List.drop_zero] at yields
      have opening : d.opened.length = d.front.length + (eventsKey ++ d.colon).length + 1 +
          (arrayText d.elements d.gap).length := by
        omega
      have reading : reads.flatten.length = d.front.length + (eventsKey ++ d.colon).length + 1 +
          (more ++ reads₂.flatten).length := by
        omega
      rw [opening, reading]
      exact yields.shift

/-- Every pass takes a piece or a decoded value away. -/
theorem streamEvents_ends (decodes : Decodes IsObject rawDecode) (compactAt : Nat) (fuel : Nat) :
    ∀ (buf : Text) (pos : Nat) (reads : List Text), pendingWork buf pos reads < fuel →
      (streamEvents rawDecode compactAt fuel buf pos reads).isSome = true := by
  induction fuel with
  | zero =>
    intro buf pos reads work
    omega
  | succ fuel ih =>
    intro buf pos reads work
    have skipped (n : Nat) : (buf.drop (pos + n)).length ≤ (buf.drop pos).length := by
      rw [List.length_drop, List.length_drop]
      omega
    have refill (chunk : Text) (rest : List Text) (n : Nat)
        (less : pendingWork buf pos (chunk :: rest) < fuel + 1) :
        pendingWork (buf.drop (pos + n) ++ chunk) 0 rest < fuel := by
      have bound := skipped n
      simp only [pendingWork, List.drop_zero, List.flatten_cons, List.length_append,
        List.length_cons] at less ⊢
      omega
    unfold streamEvents
    dsimp only
    generalize ((buf.drop pos).takeWhile isSeparator).length = n
    split
    · split
      · rfl
      · rename_i chunk rest
        exact ih _ _ _ (refill chunk rest n work)
    · rename_i c here
      split
      · rfl
      · split
        · split
          · rfl
          · rename_i _ chunk rest
            exact ih _ _ _ (refill chunk rest n work)
        · rename_i event stop decoded
          obtain ⟨forward, within⟩ := decodes.advances buf (pos + n) event stop decoded
          have less : (buf.drop stop).length + 1 ≤ (buf.drop pos).length := by
            rw [List.length_drop, List.length_drop]
            omega
          rw [Option.isSome_map]
          split <;> apply ih <;> simp only [pendingWork, List.drop_zero] at work ⊢ <;> omega

theorem iterTraceEvents_ends (decodes : Decodes IsObject rawDecode) (compactAt : Nat)
    {reads : List Text} {fuel : Nat} (enough : reads.flatten.length + reads.length < fuel) :
    (iterTraceEvents rawDecode compactAt fuel reads).isSome = true := by
  unfold iterTraceEvents
  split
  · rfl
  · rename_i buf reads₁ filled
    obtain ⟨same, _, fewer⟩ := fillUntil_some reads [] filled
    dsimp only
    split
    · rfl
    · rename_i buf₂ reads₂ opened
      obtain ⟨same₂, _, fewer₂⟩ := fillUntil_some reads₁ _ opened
      apply streamEvents_ends decodes
      have size := congrArg List.length same
      have size₂ := congrArg List.length same₂
      simp only [List.length_append, List.length_drop, List.length_nil] at size size₂
      rw [pendingWork, List.length_drop, List.length_drop]
      omega

/-- Along a document the reader yields the elements and stops at the bracket; on a text that ends
    earlier it raises after some of them; and it ends on every text. -/
theorem trace_reader_exact (decodes : Decodes IsObject rawDecode) (compactAt : Nat) :
    (∀ d : Document V, d.Proper IsObject → ∀ reads : List Text, (∀ r ∈ reads, r ≠ []) →
      ∀ fuel, reads.flatten.length + reads.length < fuel →
      (reads.flatten = d.text →
        iterTraceEvents rawDecode compactAt fuel reads = some (d.values, .closed)) ∧
      (reads.flatten <+: d.opened → ∃ events why,
        iterTraceEvents rawDecode compactAt fuel reads = some (events, .truncated why) ∧
          events <+: d.values)) ∧
    ∀ reads : List Text, ∀ fuel, reads.flatten.length + reads.length < fuel →
      (iterTraceEvents rawDecode compactAt fuel reads).isSome = true := by
  constructor
  · intro d proper reads _ fuel enough
    constructor
    · intro whole
      have yields := reader_yields decodes compactAt proper
        (whole ▸ List.prefix_refl reads.flatten) enough
      apply yields.1
      rw [whole, Document.text, List.length_append, List.length_cons]
      omega
    · intro early
      have inside := early.trans (List.prefix_append d.opened (']' :: d.back))
      exact (reader_yields decodes compactAt proper inside enough).2 early.length_le
  · intro reads fuel enough
    exact iterTraceEvents_ends decodes compactAt enough

def decodeEmpty (buf : Text) (pos : Nat) : Option (Unit × Nat) :=
  if ['{', '}'] <+: buf.drop pos then some ((), pos + 2) else none

theorem decodeEmpty_decodes : Decodes (fun text _ => text = ['{', '}']) decodeEmpty := by
  constructor
  · rintro text _ rfl
    exact ⟨['}'], rfl⟩
  · rintro before text after _ rfl
    simp [decodeEmpty]
  · rintro before text part _ rfl inside differ
    unfold decodeEmpty
    rw [List.drop_left, if_neg]
    intro whole
    exact differ (inside.eq_of_length_le whole.length_le)
  · intro buf pos _ stop decoded
    unfold decodeEmpty at decoded
    split at decoded
    · rename_i here
      cases decoded
      have fits := here.length_le
      rw [List.length_drop] at fits
      simp only [List.length_cons, List.length_nil] at fits
      omega
    · cases decoded

/-- Two events, read in pieces that cut the key and the first object. -/
def smallDocument : Document Unit :=
  ⟨['{'], [':'], [⟨[], ['{', '}'], ()⟩, ⟨[',', ' '], ['{', '}'], ()⟩], [], ['}']⟩

def smallReads : List Text :=
  ["\x7b\"traceEv".toList, "ents\":[\x7b".toList, "\x7d, \x7b\x7d]\x7d".toList]

theorem smallDocument_proper : smallDocument.Proper (fun text _ => text = ['{', '}']) := by
  constructor
  · decide
  · decide
  · decide
  · intro e member
    simp only [smallDocument, List.mem_cons, List.not_mem_nil, or_false] at member
    rcases member with rfl | rfl <;> rfl
  · decide

/-- The whole document, and the same one cut inside its second object. -/
theorem trace_reader_small :
    iterTraceEvents decodeEmpty 0 100 smallReads = some ([(), ()], .closed) ∧
    ∃ events why, iterTraceEvents decodeEmpty 0 100 (smallReads.dropLast ++ ["\x7d, \x7b".toList]) =
      some (events, .truncated why) ∧ events <+: [(), ()] := by
  have reader := (trace_reader_exact decodeEmpty_decodes 0).1 smallDocument smallDocument_proper
  exact ⟨(reader smallReads (by decide) 100 (by decide)).1 (by decide),
    (reader _ (by decide) 100 (by decide)).2 (by decide)⟩

end KernelShare
