import Mathlib.Data.List.Infix

/-!
The patched grammar backend over a third-party matcher: accepting and validating token batches,
reset, and the manager's advance inside a speculative window. Every call of the matcher's
`accept_token` is kept as a feed, with the state the token met.
-/
namespace StructuredOutput
variable {M Token : Type}

/-- A deterministic matcher. Refusing leaves the state alone, a rollback undoes as many accepts,
    and a reset returns to an initial state that is not terminated. -/
structure Matcher (M Token : Type) where
  initial : M
  acceptToken : M → Token → Bool × M
  isTerminated : M → Bool
  rollback : M → Nat → M
  reset : M → M
  refused : ∀ m t, (acceptToken m t).1 = false → (acceptToken m t).2 = m
  undone : ∀ m (ts : List Token) m',
    ts.foldlM (fun m t => if (acceptToken m t).1 then some (acceptToken m t).2 else none) m =
      some m' → rollback m' ts.length = m
  reset_initial : ∀ m, reset m = initial
  initial_alive : isTerminated initial = false

structure Backend (M : Type) where
  matcher : M
  numProcessedTokens : Nat
  isTerminated : Bool

structure Feed (M Token : Type) where
  before : M
  token : Token
  accepted : Bool

variable (x : Matcher M Token)

def advance (m : M) (ts : List Token) : Option M :=
  ts.foldlM (fun m t => if (x.acceptToken m t).1 then some (x.acceptToken m t).2 else none) m

def acceptLoop : Backend M → List Token → Bool × Backend M × List (Feed M Token)
  | b, [] => (true, b, [])
  | b, t :: rest =>
    let m := (x.acceptToken b.matcher t).2
    if (x.acceptToken b.matcher t).1 then
      let next : Backend M := ⟨m, b.numProcessedTokens + 1, x.isTerminated m⟩
      if x.isTerminated m then (true, next, [⟨b.matcher, t, true⟩])
      else
        let later := acceptLoop next rest
        (later.1, later.2.1, ⟨b.matcher, t, true⟩ :: later.2.2)
    else (false, { b with matcher := m }, [⟨b.matcher, t, false⟩])

def acceptTokens (b : Backend M) (tokens : List Token) :
    Bool × Backend M × List (Feed M Token) :=
  if b.isTerminated then (true, b, []) else acceptLoop x b tokens

def validateLoop : M → List Token → List Token × M × List (Feed M Token)
  | m, [] => ([], m, [])
  | m, t :: rest =>
    let m' := (x.acceptToken m t).2
    if (x.acceptToken m t).1 then
      if x.isTerminated m' then ([t], m', [⟨m, t, true⟩])
      else
        let later := validateLoop m' rest
        (t :: later.1, later.2.1, ⟨m, t, true⟩ :: later.2.2)
    else ([], m', [⟨m, t, false⟩])

def validateTokens (b : Backend M) (tokens : List Token) :
    List Token × Backend M × List (Feed M Token) :=
  if b.isTerminated then ([], b, [])
  else
    let tried := validateLoop x b.matcher tokens
    let matcher := if 0 < tried.1.length then x.rollback tried.2.1 tried.1.length else tried.2.1
    (tried.1, { b with matcher := matcher }, tried.2.2)

def reset (b : Backend M) : Backend M := ⟨x.reset b.matcher, 0, false⟩

def fresh : Backend M := ⟨x.initial, 0, false⟩

/-- What the manager does with one scheduled token; `none` is the failed assertion, and the
    flag tells that the grammar advanced. -/
def advanceGrammar (postReasoningEndInWindow : Bool) (b : Backend M) (token : Token) :
    Option (Backend M × Bool) :=
  if b.isTerminated then some (b, false)
  else if postReasoningEndInWindow then
    let validated := validateTokens x b [token]
    if validated.1.isEmpty then some (validated.2.1, false)
    else
      let accepted := acceptTokens x validated.2.1 [token]
      some (accepted.2.1, accepted.1)
  else
    let accepted := acceptTokens x b [token]
    if accepted.1 then some (accepted.2.1, true) else none

def Legal (m : M) (ts : List Token) : Prop :=
  (∃ m', advance x m ts = some m') ∧
    ∀ r, r <+: ts → r ≠ ts → ∀ m', advance x m r = some m' → x.isTerminated m' = false

/-- The longest prefix accepted in sequence, cut at the first terminating token. -/
structure LongestLegal (m : M) (ts p : List Token) : Prop where
  start : p <+: ts
  legal : Legal x m p
  longest : ∀ q, q <+: ts → Legal x m q → q <+: p

section
variable {x} {m : M}

theorem advance_cons (t : Token) (ts : List Token) : advance x m (t :: ts) =
    if (x.acceptToken m t).1 then advance x (x.acceptToken m t).2 ts else none := by
  unfold advance
  rw [List.foldlM_cons]
  split <;> rfl

theorem legal_nil : Legal x m [] := by
  constructor
  · exact ⟨m, rfl⟩
  · intro r start proper
    exact absurd (List.prefix_nil.mp start) proper

theorem legal_cons_iff (t : Token) (ts : List Token) : Legal x m (t :: ts) ↔
    x.isTerminated m = false ∧ (x.acceptToken m t).1 = true ∧
      Legal x (x.acceptToken m t).2 ts := by
  constructor
  · rintro ⟨⟨m', whole⟩, alive⟩
    rw [advance_cons] at whole
    have accepted : (x.acceptToken m t).1 = true := by
      by_contra refused
      rw [if_neg refused] at whole
      cases whole
    rw [if_pos accepted] at whole
    refine ⟨alive [] List.nil_prefix (by simp) m rfl, accepted, ⟨m', whole⟩, ?_⟩
    intro r start proper m₁ reached
    refine alive (t :: r) (List.cons_prefix_cons.mpr ⟨rfl, start⟩) (by simpa using proper) m₁ ?_
    rw [advance_cons, if_pos accepted, reached]
  · rintro ⟨alive, accepted, ⟨m', whole⟩, later⟩
    refine ⟨⟨m', by rw [advance_cons, if_pos accepted, whole]⟩, ?_⟩
    intro r start proper m₁ reached
    cases r with
    | nil =>
      cases reached
      exact alive
    | cons s r =>
      obtain ⟨rfl, inner⟩ := List.cons_prefix_cons.mp start
      rw [advance_cons, if_pos accepted] at reached
      exact later r inner (by simpa using proper) m₁ reached

theorem longest_unique {ts p q : List Token} (first : LongestLegal x m ts p)
    (second : LongestLegal x m ts q) : p = q :=
  (second.longest p first.start first.legal).eq_of_length_le
    (first.longest q second.start second.legal).length_le

theorem longest_self {ts p : List Token} (longest : LongestLegal x m ts p) :
    LongestLegal x m p p :=
  ⟨List.prefix_refl p, longest.legal, fun _ start _ => start⟩

theorem validateLoop_spec (ts : List Token) : ∀ m, x.isTerminated m = false →
    advance x m (validateLoop x m ts).1 = some (validateLoop x m ts).2.1 ∧
      (∀ f ∈ (validateLoop x m ts).2.2, x.isTerminated f.before = false) ∧
      ((validateLoop x m ts).2.2.filter Feed.accepted).map Feed.token = (validateLoop x m ts).1 ∧
      LongestLegal x m ts (validateLoop x m ts).1 := by
  induction ts with
  | nil =>
    intro m _
    exact ⟨rfl, fun _ none => absurd none List.not_mem_nil, rfl, List.prefix_refl _, legal_nil,
      fun _ start _ => start⟩
  | cons t rest ih =>
    intro m alive
    cases accepted : (x.acceptToken m t).1 with
    | false =>
      simp only [validateLoop, accepted, Bool.false_eq_true, ↓reduceIte]
      refine ⟨by rw [x.refused m t accepted]; rfl, ?_, rfl, List.nil_prefix, legal_nil, ?_⟩
      · intro f member
        rw [List.mem_singleton.mp member]
        exact alive
      · intro q start legal
        cases q with
        | nil => exact List.prefix_refl _
        | cons s q =>
          obtain ⟨rfl, _⟩ := List.cons_prefix_cons.mp start
          have wrong := ((legal_cons_iff s q).mp legal).2.1
          rw [accepted] at wrong
          cases wrong
    | true =>
      cases ended : x.isTerminated (x.acceptToken m t).2 with
      | true =>
        simp only [validateLoop, accepted, ended, ↓reduceIte]
        refine ⟨by rw [advance_cons, if_pos accepted]; rfl, ?_, rfl,
          List.cons_prefix_cons.mpr ⟨rfl, List.nil_prefix⟩,
          (legal_cons_iff t []).mpr ⟨alive, accepted, legal_nil⟩, ?_⟩
        · intro f member
          rw [List.mem_singleton.mp member]
          exact alive
        · intro q start legal
          cases q with
          | nil => exact List.nil_prefix
          | cons s q =>
            obtain ⟨rfl, _⟩ := List.cons_prefix_cons.mp start
            have later := ((legal_cons_iff s q).mp legal).2.2
            cases q with
            | nil => exact List.prefix_refl _
            | cons u q =>
              have wrong := ((legal_cons_iff u q).mp later).1
              rw [ended] at wrong
              cases wrong
      | false =>
        obtain ⟨reached, fed, consumed, longest⟩ := ih (x.acceptToken m t).2 ended
        simp only [validateLoop, accepted, ended, ↓reduceIte, Bool.false_eq_true]
        refine ⟨by rw [advance_cons, if_pos accepted, reached], ?_, ?_,
          List.cons_prefix_cons.mpr ⟨rfl, longest.start⟩,
          (legal_cons_iff t _).mpr ⟨alive, accepted, longest.legal⟩, ?_⟩
        · intro f member
          rcases List.mem_cons.mp member with rfl | later
          · exact alive
          · exact fed f later
        · rw [List.filter_cons_of_pos rfl, List.map_cons, consumed]
        · intro q start legal
          cases q with
          | nil => exact List.nil_prefix
          | cons s q =>
            obtain ⟨rfl, inner⟩ := List.cons_prefix_cons.mp start
            have later := ((legal_cons_iff s q).mp legal).2.2
            exact List.cons_prefix_cons.mpr ⟨rfl, longest.longest q inner later⟩

theorem acceptLoop_eq (ts : List Token) : ∀ b : Backend M,
    b.isTerminated = x.isTerminated b.matcher →
    (acceptLoop x b ts).2.1 = ⟨(validateLoop x b.matcher ts).2.1,
        b.numProcessedTokens + (validateLoop x b.matcher ts).1.length,
        x.isTerminated (validateLoop x b.matcher ts).2.1⟩ ∧
      (acceptLoop x b ts).2.2 = (validateLoop x b.matcher ts).2.2 ∧
      ((acceptLoop x b ts).1 = true ↔ (validateLoop x b.matcher ts).1 = ts ∨
        (validateLoop x b.matcher ts).1 ≠ [] ∧
          x.isTerminated (validateLoop x b.matcher ts).2.1 = true) := by
  induction ts with
  | nil =>
    intro b synced
    refine ⟨?_, rfl, ?_⟩
    · simp only [acceptLoop, validateLoop, List.length_nil, Nat.add_zero, ← synced]
    · simp only [acceptLoop, validateLoop, true_or]
  | cons t rest ih =>
    intro b synced
    cases accepted : (x.acceptToken b.matcher t).1 with
    | false =>
      have same := x.refused b.matcher t accepted
      simp only [acceptLoop, validateLoop, accepted, Bool.false_eq_true, ↓reduceIte,
        List.length_nil, Nat.add_zero, same, ← synced]
      exact ⟨trivial, trivial, by simp⟩
    | true =>
      cases ended : x.isTerminated (x.acceptToken b.matcher t).2 with
      | true =>
        simp only [acceptLoop, validateLoop, accepted, ended, ↓reduceIte, List.length_singleton]
        exact ⟨trivial, trivial, by simp⟩
      | false =>
        obtain ⟨after, fed, returned⟩ :=
          ih ⟨(x.acceptToken b.matcher t).2, b.numProcessedTokens + 1, false⟩ ended.symm
        simp only [acceptLoop, validateLoop, accepted, ended, ↓reduceIte, Bool.false_eq_true,
          List.length_cons]
        refine ⟨?_, by rw [fed], ?_⟩
        · rw [after, Nat.add_assoc, Nat.add_comm 1]
        · rw [returned]
          have empty : (validateLoop x (x.acceptToken b.matcher t).2 rest).1 = [] →
              x.isTerminated (validateLoop x (x.acceptToken b.matcher t).2 rest).2.1 = false := by
            intro nothing
            have reached := (validateLoop_spec rest _ ended).1
            rw [nothing] at reached
            rw [← Option.some.inj reached]
            exact ended
          simp only [List.cons.injEq, true_and, ne_eq, reduceCtorEq, not_false_eq_true]
          constructor
          · rintro (all | ⟨_, terminated⟩)
            · exact Or.inl all
            · exact Or.inr terminated
          · rintro (all | terminated)
            · exact Or.inl all
            · refine Or.inr ⟨?_, terminated⟩
              intro nothing
              rw [empty nothing] at terminated
              cases terminated

end

def Synced (b : Backend M) : Prop := b.isTerminated = x.isTerminated b.matcher

section
variable {x} {b : Backend M}

theorem alive_of_synced (synced : Synced x b) (open' : b.isTerminated = false) :
    x.isTerminated b.matcher = false :=
  synced.symm.trans open'

theorem validateTokens_spec (synced : Synced x b) (ts : List Token) :
    (validateTokens x b ts).2.1 = b ∧ LongestLegal x b.matcher ts (validateTokens x b ts).1 ∧
      ∀ f ∈ (validateTokens x b ts).2.2, x.isTerminated f.before = false := by
  unfold validateTokens
  split
  · rename_i terminated
    have ended : x.isTerminated b.matcher = true := synced.symm.trans terminated
    refine ⟨rfl, ⟨List.nil_prefix, legal_nil, ?_⟩, fun _ none => absurd none List.not_mem_nil⟩
    intro q _ legal
    cases q with
    | nil => exact List.prefix_refl _
    | cons s q =>
      have wrong := ((legal_cons_iff s q).mp legal).1
      rw [ended] at wrong
      cases wrong
  · rename_i running
    have alive := alive_of_synced synced (Bool.eq_false_iff.mpr running)
    obtain ⟨reached, fed, _, longest⟩ := validateLoop_spec ts b.matcher alive
    refine ⟨?_, longest, fed⟩
    dsimp only
    split
    · rw [x.undone b.matcher _ _ reached]
    · rename_i nothing
      have empty : (validateLoop x b.matcher ts).1 = [] :=
        List.length_eq_zero_iff.mp (Nat.eq_zero_of_not_pos nothing)
      rw [empty] at reached
      rw [← Option.some.inj reached]

theorem acceptTokens_spec (synced : Synced x b) (ts : List Token) :
    Synced x (acceptTokens x b ts).2.1 ∧
      advance x b.matcher (validateTokens x b ts).1 =
        some (acceptTokens x b ts).2.1.matcher ∧
      (acceptTokens x b ts).2.1.numProcessedTokens =
        b.numProcessedTokens + (validateTokens x b ts).1.length ∧
      ((acceptTokens x b ts).2.2.filter Feed.accepted).map Feed.token =
        (validateTokens x b ts).1 ∧
      (∀ f ∈ (acceptTokens x b ts).2.2, x.isTerminated f.before = false) ∧
      ((acceptTokens x b ts).1 = true ↔ (validateTokens x b ts).1 = ts ∨
        (∃ m', (validateTokens x b ts).1 ≠ [] ∧
          advance x b.matcher (validateTokens x b ts).1 = some m' ∧ x.isTerminated m' = true) ∨
        x.isTerminated b.matcher = true) := by
  cases terminated : b.isTerminated with
  | true =>
    have ended : x.isTerminated b.matcher = true := synced.symm.trans terminated
    simp only [acceptTokens, validateTokens, terminated, ↓reduceIte]
    refine ⟨synced, rfl, rfl, rfl, fun _ none => absurd none List.not_mem_nil, ?_⟩
    simp [ended]
  | false =>
    have alive := alive_of_synced synced terminated
    obtain ⟨after, fed, returned⟩ := acceptLoop_eq ts b synced
    obtain ⟨reached, unterminated, consumed, _⟩ := validateLoop_spec ts b.matcher alive
    simp only [acceptTokens, validateTokens, terminated, Bool.false_eq_true, ↓reduceIte]
    rw [after, fed]
    refine ⟨rfl, reached, rfl, consumed, unterminated, ?_⟩
    rw [returned, alive, reached]
    simp only [Option.some.injEq, Bool.false_eq_true, or_false]
    constructor
    · rintro (all | ⟨nonempty, ended⟩)
      · exact Or.inl all
      · exact Or.inr ⟨_, nonempty, rfl, ended⟩
    · rintro (all | ⟨m', nonempty, rfl, ended⟩)
      · exact Or.inl all
      · exact Or.inr ⟨nonempty, ended⟩

end

inductive Op (Token : Type) where
  | accept (tokens : List Token)
  | validate (tokens : List Token)
  | reset

def feeds (b : Backend M) : Op Token → List (Feed M Token)
  | .accept tokens => (acceptTokens x b tokens).2.2
  | .validate tokens => (validateTokens x b tokens).2.2
  | .reset => []

/-- One call, with the tokens consumed since the last reset. -/
def step (s : Backend M × List Token) (op : Op Token) : Backend M × List Token :=
  match op with
  | .accept tokens =>
    ((acceptTokens x s.1 tokens).2.1,
      s.2 ++ ((acceptTokens x s.1 tokens).2.2.filter Feed.accepted).map Feed.token)
  | .validate tokens => ((validateTokens x s.1 tokens).2.1, s.2)
  | .reset => (reset x s.1, [])

def run (ops : List (Op Token)) : Backend M × List Token := ops.foldl (step x) (fresh x, [])

structure InStep (s : Backend M × List Token) : Prop where
  synced : Synced x s.1
  consumed : advance x x.initial s.2 = some s.1.matcher
  counted : s.1.numProcessedTokens = s.2.length

theorem fresh_inStep : InStep x (fresh x, []) :=
  ⟨x.initial_alive.symm, rfl, rfl⟩

variable {x} in
theorem step_inStep {s : Backend M × List Token} (inStep : InStep x s) (op : Op Token) :
    InStep x (step x s op) := by
  cases op with
  | accept tokens =>
    obtain ⟨synced, reached, counted, consumed, _⟩ := acceptTokens_spec inStep.synced tokens
    refine ⟨synced, ?_, ?_⟩
    · simp only [step]
      rw [consumed, advance, List.foldlM_append]
      change (advance x x.initial s.2 >>= fun m => advance x m (validateTokens x s.1 tokens).1) = _
      rw [inStep.consumed]
      exact reached
    · simp only [step]
      rw [counted, consumed, inStep.counted, List.length_append]
  | validate tokens =>
    have same := (validateTokens_spec inStep.synced tokens).1
    simp only [step, same]
    exact inStep
  | reset =>
    simp only [step, reset, x.reset_initial]
    exact fresh_inStep x

theorem run_inStep (ops : List (Op Token)) : InStep x (run x ops) := by
  have general : ∀ (ops : List (Op Token)) (s : Backend M × List Token), InStep x s →
      InStep x (ops.foldl (step x) s) := by
    intro ops
    induction ops with
    | nil =>
      intro s inStep
      exact inStep
    | cons op rest ih =>
      intro s inStep
      exact ih _ (step_inStep inStep op)
  exact general ops _ (fresh_inStep x)

/-- After any calls: flag and counter are in step with the matcher, no terminated matcher is
    fed, validation changes nothing and finds the longest legal prefix, and accepting consumes
    exactly that prefix. -/
theorem grammar_state_in_step (ops : List (Op Token)) :
    (run x ops).1.isTerminated = x.isTerminated (run x ops).1.matcher ∧
      (run x ops).1.numProcessedTokens = (run x ops).2.length ∧
      advance x x.initial (run x ops).2 = some (run x ops).1.matcher ∧
      (∀ op, ∀ f ∈ feeds x (run x ops).1 op, x.isTerminated f.before = false) ∧
      ∀ ts, (validateTokens x (run x ops).1 ts).2.1 = (run x ops).1 ∧
        LongestLegal x (run x ops).1.matcher ts (validateTokens x (run x ops).1 ts).1 ∧
        (acceptTokens x (run x ops).1 (validateTokens x (run x ops).1 ts).1).1 = true ∧
        (((acceptTokens x (run x ops).1 (validateTokens x (run x ops).1 ts).1).2.2.filter
          Feed.accepted).map Feed.token = (validateTokens x (run x ops).1 ts).1) ∧
        ((acceptTokens x (run x ops).1 ts).1 = true ↔ (validateTokens x (run x ops).1 ts).1 = ts ∨
          (∃ m', (validateTokens x (run x ops).1 ts).1 ≠ [] ∧
            advance x (run x ops).1.matcher (validateTokens x (run x ops).1 ts).1 = some m' ∧
            x.isTerminated m' = true) ∨ x.isTerminated (run x ops).1.matcher = true) := by
  have inStep := run_inStep x ops
  refine ⟨inStep.synced, inStep.counted, inStep.consumed, ?_, ?_⟩
  · intro op f member
    cases op with
    | accept tokens => exact (acceptTokens_spec inStep.synced tokens).2.2.2.2.1 f member
    | validate tokens => exact (validateTokens_spec inStep.synced tokens).2.2 f member
    | reset => cases member
  · intro ts
    obtain ⟨same, longest, _⟩ := validateTokens_spec inStep.synced ts
    have again := (validateTokens_spec inStep.synced (validateTokens x (run x ops).1 ts).1).2.1
    have fixed := longest_unique again (longest_self longest)
    obtain ⟨_, _, _, consumed, _, returned⟩ :=
      acceptTokens_spec inStep.synced (validateTokens x (run x ops).1 ts).1
    refine ⟨same, longest, returned.mpr (Or.inl fixed), by rw [consumed, fixed], ?_⟩
    exact (acceptTokens_spec inStep.synced ts).2.2.2.2.2

theorem advance_after_reasoning_end (ops : List (Op Token)) (token : Token) :
    ∃ b advanced, advanceGrammar x true (run x ops).1 token = some (b, advanced) ∧
      (advanced = false → b = (run x ops).1) := by
  have inStep := run_inStep x ops
  obtain ⟨same, longest, _⟩ := validateTokens_spec inStep.synced [token]
  unfold advanceGrammar
  split
  · exact ⟨_, _, rfl, fun _ => rfl⟩
  simp only [↓reduceIte]
  split
  · exact ⟨_, _, rfl, fun _ => same⟩
  · rename_i found
    have whole : (validateTokens x (run x ops).1 [token]).1 = [token] := by
      rcases List.prefix_cons_iff.mp longest.start with empty | ⟨rest, split, later⟩
      · rw [empty] at found
        exact absurd rfl found
      · rw [split, List.prefix_nil.mp later]
    rw [same]
    refine ⟨_, _, rfl, ?_⟩
    intro refused
    have accepted := (acceptTokens_spec inStep.synced [token]).2.2.2.2.2.mpr (Or.inl whole)
    rw [refused] at accepted
    cases accepted

/-- The matcher that takes any tokens up to a stop token; its state is the reversed history. -/
def stopMatcher [DecidableEq Token] (stop : Token) : Matcher (List Token) Token where
  initial := []
  acceptToken h t := if h.head? = some stop then (false, h) else (true, t :: h)
  isTerminated h := h.head? = some stop
  rollback h n := h.drop n
  reset _ := []
  refused := by
    intro h t
    split
    · intro _
      rfl
    · intro taken
      cases taken
  undone := by
    intro h ts
    induction ts generalizing h with
    | nil =>
      intro h' reached
      cases reached
      rfl
    | cons t rest ih =>
      intro h' reached
      rw [List.foldlM_cons] at reached
      by_cases ended : h.head? = some stop
      · simp only [if_pos ended, Bool.false_eq_true, ↓reduceIte] at reached
        cases reached
      · simp only [if_neg ended, ↓reduceIte] at reached
        have back : List.drop rest.length h' = t :: h := ih (t :: h) h' reached
        have further := List.drop_drop (l := h') (i := 1) (j := rest.length)
        rw [back, List.drop_one, List.tail_cons] at further
        rw [List.length_cons]
        exact further.symm
  reset_initial _ := rfl
  initial_alive := rfl

example : (run (stopMatcher 0) [.validate [4, 0, 5], .accept [4, 0, 5]]).2 = [4, 0] := by decide

end StructuredOutput
