import Glm53Overlay.ExpertsWindow.Compare

/-!
The verdict adopts exactly on complete evidence, and nothing raises on malformed evidence whose
numbers are of the range of doubles.
-/
namespace ExpertsWindow

/-- The medians of a lane divide to parity at least, and the armed one reaches the floor. -/
def Meets (lane : String) (control armed : Json) : Prop :=
  ∃ c a ratio, control.hostNumber = some c ∧ armed.hostNumber = some a ∧
    a.truediv c = .ok ratio ∧ parity ≤ ratio ∧ a.atLeast (floorOf lane) = true

theorem positiveNumber_some {value : Json} {n : HostNumber}
    (positive : positiveNumber value = .ok (some n)) :
    value.hostNumber = some n ∧ n.isPositive = true := by
  unfold positiveNumber at positive
  split at positive
  · cases positive
  · rename_i m number
    cases tested : m.isFinite with
    | error e =>
      rw [tested] at positive
      cases positive
    | ok finite =>
      rw [tested] at positive
      change (if (finite && m.isPositive) = true then pure (some m) else pure none) =
        Except.ok (some n) at positive
      split at positive
      · rename_i both
        cases positive
        exact ⟨number, (Bool.and_eq_true_iff.mp both).2⟩
      · cases positive

theorem medianLane_in_range {receipt : Json} (fits : receipt.InDoubleRange) (lane : String) :
    (medianLane receipt lane).InDoubleRange := by
  unfold medianLane
  cases found : (laneRows receipt).get lane with
  | some row =>
    obtain ⟨member, _⟩ := laneRows_some found
    exact (laneEntries_in_range fits member).get "tok_s_median"
  | none =>
    intro x n part number
    cases part
    cases number

theorem compareLane_in_range {control armed : Json} (controlFits : control.InDoubleRange)
    (armedFits : armed.InDoubleRange) (lane : String) :
    ∃ row assigned, compareLane control armed lane = .ok (row, assigned) ∧
      assigned ≠ some .adopt ∧
      (assigned = none ↔ FinitePositive (medianLane control lane) ∧
        FinitePositive (medianLane armed lane) ∧
        Meets lane (medianLane control lane) (medianLane armed lane)) := by
  have controlMedian := medianLane_in_range controlFits lane
  have armedMedian := medianLane_in_range armedFits lane
  obtain ⟨cn, cTested, cPositive⟩ := positiveNumber_in_range controlMedian
  obtain ⟨an, aTested, aPositive⟩ := positiveNumber_in_range armedMedian
  unfold compareLane
  dsimp only
  rw [cTested]
  cases cn with
  | none =>
    refine ⟨_, _, rfl, by simp, ?_⟩
    simp [← cPositive]
  | some c =>
    cases an with
    | none =>
      rw [aTested]
      refine ⟨_, _, rfl, by simp, ?_⟩
      simp [← aPositive]
    | some a =>
      obtain ⟨cNumber, cAbove⟩ := positiveNumber_some cTested
      obtain ⟨aNumber, _⟩ := positiveNumber_some aTested
      obtain ⟨ratio, divided⟩ := HostNumber.truediv_in_range
        (armedMedian _ a .self aNumber) (controlMedian _ c .self cNumber) cAbove
      rw [aTested]
      simp only [bind, Except.bind, divided]
      refine ⟨_, _, rfl, ?_, ?_⟩
      · split <;> simp
      · have both : Meets lane (medianLane control lane) (medianLane armed lane) ↔
            (decide (parity ≤ ratio) && a.atLeast (floorOf lane)) = true := by
          rw [Bool.and_eq_true, decide_eq_true_eq]
          constructor
          · rintro ⟨c', a', ratio', cSame, aSame, same, bounds⟩
            cases cNumber.symm.trans cSame
            cases aNumber.symm.trans aSame
            cases divided.symm.trans same
            exact bounds
          · intro bounds
            exact ⟨c, a, ratio, cNumber, aNumber, divided, bounds⟩
        rw [← cPositive, ← aPositive, both]
        simp

theorem compareLanes_in_range {control armed : Json} (controlFits : control.InDoubleRange)
    (armedFits : armed.InDoubleRange) (names : List String) (rows : List Row)
    (verdict : Verdict) :
    ∃ rows' verdict', compareLanes control armed names rows verdict = .ok (rows', verdict') ∧
      (verdict' = .adopt ↔ verdict = .adopt ∧ ∀ lane ∈ names,
        FinitePositive (medianLane control lane) ∧ FinitePositive (medianLane armed lane) ∧
          Meets lane (medianLane control lane) (medianLane armed lane)) := by
  induction names generalizing rows verdict with
  | nil => exact ⟨rows, verdict, rfl, by simp⟩
  | cons lane names ih =>
    obtain ⟨row, assigned, compared, never, silent⟩ :=
      compareLane_in_range controlFits armedFits lane
    obtain ⟨rows', verdict', rest, adopts⟩ := ih (rows ++ [row]) (assigned.getD verdict)
    refine ⟨rows', verdict', ?_, ?_⟩
    · rw [compareLanes, compared]
      exact rest
    · rw [adopts, List.forall_mem_cons, ← silent]
      cases assigned with
      | none => simp
      | some v =>
        have differ : v ≠ .adopt := fun same => never (congrArg some same)
        simp [differ]

theorem compareRows_in_range {control armed : Json} (controlFits : control.InDoubleRange)
    (armedFits : armed.InDoubleRange) :
    ∃ rows verdict, compareRows control armed = .ok (rows, verdict) ∧
      (verdict = .adopt ↔ (∀ lane ∈ lanes,
        FinitePositive (medianLane control lane) ∧ FinitePositive (medianLane armed lane) ∧
          Meets lane (medianLane control lane) (medianLane armed lane)) ∧
        ∀ entry ∈ laneEntries control ++ laneEntries armed, entryNan entry = false) := by
  obtain ⟨rows, verdict, compared, adopts⟩ :=
    compareLanes_in_range controlFits armedFits lanes [] .adopt
  unfold compareRows
  rw [compared]
  refine ⟨rows, if (laneEntries control ++ laneEntries armed).any entryNan = true then .revert
    else verdict, ?_, ?_⟩
  · show (if _ then pure _ else pure _) = _
    split <;> rfl
  · have none : (∀ entry ∈ laneEntries control ++ laneEntries armed, entryNan entry = false) ↔
        ¬ (laneEntries control ++ laneEntries armed).any entryNan = true := by
      simp only [List.any_eq_true, not_exists, not_and, Bool.not_eq_true]
    rw [none]
    split
    · rename_i some
      simp [some]
    · rename_i clean
      rw [adopts]
      simp [clean]

section Gate
variable (reprOf : Json → String) (script : Option SmokeModule)

def ArmedFlag (armed : Members) : Prop :=
  ∃ env, PyJson.get armed "effective_env" = .obj env ∧
    PyJson.get env "GLM53_SHARED_EXPERTS_EARLY" = .str "1"

theorem armedFlag_iff {armed : Members} : armedFlag (.obj armed) = true ↔ ArmedFlag armed := by
  unfold armedFlag ArmedFlag
  dsimp only
  cases PyJson.get armed "effective_env" with
  | obj env =>
    simp only [PyJson.obj.injEq, exists_eq_left']
    cases PyJson.get env "GLM53_SHARED_EXPERTS_EARLY" <;> simp [PyJson.isText]
  | _ => simp

/-- Complete evidence: both sides, the flag, and the smoke over the declared requests. -/
structure CompleteEvidence (control armed smoke : Json) (controlRows armedRows : List Members) :
    Prop where
  control : ∃ members, control = .obj members ∧ ReceiptEvidence 0 members controlRows
  armed : ∃ members, armed = .obj members ∧ ReceiptEvidence 3 members armedRows ∧
    ArmedFlag members
  smoke : ∃ requests members, expectedRequests script = some requests ∧
    smoke = .obj members ∧ SmokeEvidence requests members

theorem gateFailures_in_range {control armed : Json} (controlFits : control.InDoubleRange)
    (armedFits : armed.InDoubleRange) (smoke : Json) :
    ∃ problems, gateFailures reprOf script control armed smoke = .ok problems ∧
      (problems = [] ↔ ∃ controlRows armedRows,
        CompleteEvidence script control armed smoke controlRows armedRows) := by
  obtain ⟨stock, first, stockClean⟩ := receiptFailures_in_range reprOf "control" controlFits 0
  obtain ⟨early, second, earlyClean⟩ := receiptFailures_in_range reprOf "armed" armedFits 3
  unfold gateFailures
  rw [first, second]
  refine ⟨_, rfl, ?_⟩
  have smoked : (if smoke.isNull then ["smoke: no serving-smoke receipt supplied"]
      else smokeFailures reprOf script smoke) = [] ↔ ∃ requests members,
        expectedRequests script = some requests ∧ smoke = .obj members ∧
          SmokeEvidence requests members := by
    split
    · rename_i absent
      rw [PyJson.isNull_iff] at absent
      simp [absent]
    · exact smokeFailures_iff reprOf script smoke
  rw [List.append_eq_nil_iff, List.append_eq_nil_iff, List.append_eq_nil_iff, stockClean,
    earlyClean, flag_eq_nil, Bool.not_eq_false', smoked]
  constructor
  · rintro ⟨⟨⟨⟨members, controlRows, shape, evidence⟩, armedMembers, armedRows, rfl, armedEvidence⟩,
      flagged⟩, smokeEvidence⟩
    exact ⟨controlRows, armedRows, ⟨members, shape, evidence⟩,
      ⟨armedMembers, rfl, armedEvidence, armedFlag_iff.mp flagged⟩, smokeEvidence⟩
  · rintro ⟨controlRows, armedRows, ⟨members, shape, evidence⟩,
      ⟨armedMembers, rfl, armedEvidence, flagged⟩, smokeEvidence⟩
    exact ⟨⟨⟨⟨members, controlRows, shape, evidence⟩, armedMembers, armedRows, rfl,
      armedEvidence⟩, armedFlag_iff.mpr flagged⟩, smokeEvidence⟩

theorem medianLane_of_evidence {markers : Int} {members : Members} {rows : List Members}
    (evidence : ReceiptEvidence markers members rows) {lane : String} {row : Members}
    (member : (lane, row) ∈ lanes.zip rows) :
    medianLane (.obj members) lane = PyJson.get row "tok_s_median" := by
  obtain ⟨entries, listed, same⟩ := evidence.entries
  have held : laneEntries (.obj members) = entries := by
    simp only [laneEntries, listed]
  have found := (laneRows_iff lanes_nodup (held ▸ same) (LaneEvidence.names evidence.clean)).mpr
    member
  simp only [medianLane, found]

theorem entries_of_evidence {markers : Int} {members : Members} {rows : List Members}
    (evidence : ReceiptEvidence markers members rows) :
    ∀ entry ∈ laneEntries (.obj members), entryNan entry = false := by
  intro entry member
  obtain ⟨entries, listed, same⟩ := evidence.entries
  have held : laneEntries (.obj members) = entries := by
    simp only [laneEntries, listed]
  rw [held, same.mem_iff] at member
  obtain ⟨row, inRows, shape⟩ := List.mem_map.mp member
  obtain ⟨lane, _, clean⟩ := PlacedOnce.listed_from evidence.clean inRows
  rw [← shape, entryNan, clean.noNan]
  rfl

/-- Each lane's medians divide to parity at least, and each armed one reaches its floor. -/
def Throughput (controlRows armedRows : List Members) : Prop :=
  ∀ lane control armed, (lane, control) ∈ lanes.zip controlRows →
    (lane, armed) ∈ lanes.zip armedRows →
      Meets lane (PyJson.get control "tok_s_median") (PyJson.get armed "tok_s_median")

theorem row_of_lane {rows : List Members} (clean : List.Forall₂ LaneEvidence lanes rows)
    {lane : String} (known : lane ∈ lanes) :
    ∃ row, (lane, row) ∈ lanes.zip rows ∧ LaneEvidence lane row := by
  have keys : (lanes.zip rows).map Prod.fst = lanes :=
    List.map_fst_zip (Nat.le_of_eq clean.length_eq)
  rw [← keys] at known
  obtain ⟨⟨name, row⟩, member, same⟩ := List.mem_map.mp known
  subst same
  exact ⟨row, member, (List.forall₂_iff_zip.mp clean).2 member⟩

/-- For any JSON values with numbers of the range of doubles the gate and the rows return
    normally, and the comparison adopts exactly when the evidence is complete and every lane
    meets its bounds. -/
theorem adopts_iff_complete {control armed : Json} (controlFits : control.InDoubleRange)
    (armedFits : armed.InDoubleRange) (smoke : SmokeArgument) :
    (∃ problems, gateFailures reprOf script control armed smoke.value = .ok problems) ∧
      (∃ rows verdict, compareRows control armed = .ok (rows, verdict)) ∧
      ∃ result, compare reprOf script control armed smoke = .ok result ∧
        (result.verdict = .adopt ↔ ∃ controlRows armedRows,
          CompleteEvidence script control armed smoke.value controlRows armedRows ∧
            Throughput controlRows armedRows) := by
  obtain ⟨problems, gated, complete⟩ :=
    gateFailures_in_range reprOf script controlFits armedFits smoke.value
  obtain ⟨rows, verdict, compared, adopts⟩ := compareRows_in_range controlFits armedFits
  refine ⟨⟨problems, gated⟩, ⟨rows, verdict, compared⟩, ?_⟩
  unfold compare
  rw [gated]
  simp only [bind, Except.bind, compared]
  refine ⟨_, rfl, ?_⟩
  dsimp only
  cases problems with
  | cons problem more =>
    have incomplete : ¬ ∃ controlRows armedRows,
        CompleteEvidence script control armed smoke.value controlRows armedRows :=
      fun evidence => List.cons_ne_nil _ _ (complete.mpr evidence)
    constructor
    · intro adopted
      cases smoke <;> cases adopted
    · rintro ⟨controlRows, armedRows, evidence, _⟩
      exact absurd ⟨controlRows, armedRows, evidence⟩ incomplete
  | nil =>
    obtain ⟨controlRows, armedRows, evidence⟩ := complete.mp rfl
    rw [List.isEmpty_nil, if_pos rfl, adopts]
    constructor
    · rintro ⟨met, _⟩
      refine ⟨controlRows, armedRows, evidence, ?_⟩
      intro lane c a inControl inArmed
      obtain ⟨members, rfl, control⟩ := evidence.control
      obtain ⟨armedMembers, rfl, armed, _⟩ := evidence.armed
      have meets := (met lane (List.of_mem_zip inControl).1).2.2
      rwa [medianLane_of_evidence control inControl, medianLane_of_evidence armed inArmed] at meets
    · rintro ⟨controlRows, armedRows, evidence, meets⟩
      obtain ⟨members, rfl, control⟩ := evidence.control
      obtain ⟨armedMembers, rfl, armed, _⟩ := evidence.armed
      constructor
      · intro lane known
        obtain ⟨c, inControl, cClean⟩ := row_of_lane control.clean known
        obtain ⟨a, inArmed, aClean⟩ := row_of_lane armed.clean known
        rw [medianLane_of_evidence control inControl, medianLane_of_evidence armed inArmed]
        exact ⟨cClean.median, aClean.median, meets lane c a inControl inArmed⟩
      · intro entry member
        rcases List.mem_append.mp member with inControl | inArmed
        · exact entries_of_evidence control entry inControl
        · exact entries_of_evidence armed entry inArmed

end Gate

section Sample

def sampleRow (lane : String) (median : Float) : Members :=
  [("lane", .str lane), ("returncode", .int 0), ("tok_s_median", .float median),
    ("any_nan", .bool false), ("coherent", .bool true)]

def sampleRows (medians : List (String × Float)) : List Members :=
  medians.map fun m => sampleRow m.1 m.2

def sampleReceipt (markers : Int) (rows : List Members) : Members :=
  [("health_before", .int 200), ("health_after", .int 200), ("lanes", .arr (rows.map .obj)),
    ("memfree", .obj (nodes.map fun node =>
      (node, .obj [("samples", .int 40), ("min_kib", .int 3000000)]))),
    ("marker_counts", .obj (nodes.map fun node => (node, .int markers))),
    ("effective_env", .obj [("GLM53_SHARED_EXPERTS_EARLY", .str "1")])]

def sampleResult (name : String) (want : Option String) : Members :=
  [("name", .str name), ("round", .int 1), ("ok", .bool true), ("nan", .bool false),
    ("expected_function", functionValue want), ("wants_tool", .bool want.isSome),
    ("tool_call_required", .bool want.isSome),
    ("tool_args_ok", if want.isSome then .bool true else .null),
    ("n_tool_calls", .int (if want.isSome then 1 else 0))]

def sampleResults : List Members :=
  [sampleResult "tool-weather" (some "get_weather"), sampleResult "tool-add" (some "add_numbers"),
    sampleResult "plain-1" none, sampleResult "plain-2" none]

def sampleSmoke : Members :=
  [("ok", .bool true), ("failed", .int 0), ("any_nan", .bool false), ("repeat", .int 1),
    ("requests", .int 4), ("results", .arr (sampleResults.map .obj)),
    ("log_errors", .obj (nodes.map fun node => (node, .arr []))),
    ("log_failures", .obj (nodes.map fun node => (node, .str "")))]

def controlMedians : List (String × Float) :=
  [("structured", 71.5), ("prose", 33.0), ("essay", 22.25)]

def armedMedians : List (String × Float) :=
  [("structured", 73.0), ("prose", 32.5), ("essay", 23.0)]

theorem small_in_range {i : Int} (small : i.natAbs ≤ 2 ^ 32) : PyJson.InDoubleRange (.int i) := by
  have wide : 2 ^ 32 ≤ HostNumber.largest := by decide +kernel
  exact PyJson.in_range_int (Nat.le_trans small wide)

theorem sampleRows_in_range (medians : List (String × Float)) :
    PyJson.InDoubleRange (.arr ((sampleRows medians).map .obj)) := by
  apply PyJson.in_range_arr
  intro v member
  obtain ⟨row, inRows, rfl⟩ := List.mem_map.mp member
  obtain ⟨⟨lane, median⟩, _, rfl⟩ := List.mem_map.mp inRows
  apply PyJson.in_range_obj
  simp only [sampleRow, List.forall_mem_cons, List.not_mem_nil, false_implies, implies_true,
    and_true]
  exact ⟨PyJson.in_range_text lane, small_in_range (by decide), PyJson.in_range_float median,
    PyJson.in_range_bool false, PyJson.in_range_bool true⟩

theorem sampleReceipt_in_range (markers : Int) (small : markers.natAbs ≤ 2 ^ 32)
    (medians : List (String × Float)) :
    PyJson.InDoubleRange (.obj (sampleReceipt markers (sampleRows medians))) := by
  apply PyJson.in_range_obj
  simp only [sampleReceipt, List.forall_mem_cons, List.not_mem_nil, false_implies, implies_true,
    and_true]
  have ok : PyJson.InDoubleRange (.int 200) := small_in_range (by decide)
  refine ⟨ok, ok, sampleRows_in_range medians, ?_, ?_, ?_⟩
  · apply PyJson.in_range_obj
    intro m member
    obtain ⟨node, _, rfl⟩ := List.mem_map.mp member
    apply PyJson.in_range_obj
    simp only [List.forall_mem_cons, List.not_mem_nil, false_implies, implies_true, and_true]
    exact ⟨small_in_range (by decide), small_in_range (by decide)⟩
  · apply PyJson.in_range_obj
    intro m member
    obtain ⟨node, _, rfl⟩ := List.mem_map.mp member
    exact small_in_range small
  · apply PyJson.in_range_obj
    simp only [List.forall_mem_cons, List.not_mem_nil, false_implies, implies_true, and_true]
    exact PyJson.in_range_text "1"

theorem sampleRow_evidence {lane : String} {median : Float} (finite : median.isFinite = true)
    (positive : 0 < median) : LaneEvidence lane (sampleRow lane median) where
  named := rfl
  exit := rfl
  median := ⟨.float median, rfl, congrArg Except.ok finite, decide_eq_true positive⟩
  noNan := rfl
  coherent _ := rfl

theorem sampleReceipt_evidence (markers : Int) {rows : List Members}
    (clean : List.Forall₂ LaneEvidence lanes rows) :
    ReceiptEvidence markers (sampleReceipt markers rows) rows where
  healthBefore := rfl
  healthAfter := rfl
  entries := ⟨_, rfl, List.Perm.refl _⟩
  clean := clean
  memory := by
    refine ⟨_, rfl, ?_⟩
    simp only [nodes, List.forall_mem_cons, List.not_mem_nil, false_implies, implies_true,
      and_true]
    exact ⟨⟨_, 40, 3000000, rfl, rfl, by decide, rfl, by decide⟩,
      ⟨_, 40, 3000000, rfl, rfl, by decide, rfl, by decide⟩⟩
  markers := by
    refine ⟨_, rfl, ?_⟩
    simp only [nodes, List.forall_mem_cons, List.not_mem_nil, false_implies, implies_true,
      and_true]
    exact ⟨decide_eq_true rfl, decide_eq_true rfl⟩

theorem controlRows_clean : List.Forall₂ LaneEvidence lanes (sampleRows controlMedians) :=
  .cons (sampleRow_evidence (by decide +kernel) (by decide +kernel))
    (.cons (sampleRow_evidence (by decide +kernel) (by decide +kernel))
      (.cons (sampleRow_evidence (by decide +kernel) (by decide +kernel)) .nil))

theorem armedRows_clean : List.Forall₂ LaneEvidence lanes (sampleRows armedMedians) :=
  .cons (sampleRow_evidence (by decide +kernel) (by decide +kernel))
    (.cons (sampleRow_evidence (by decide +kernel) (by decide +kernel))
      (.cons (sampleRow_evidence (by decide +kernel) (by decide +kernel)) .nil))

def smokeRequests : Requests :=
  ⟨[("tool-weather", some "get_weather"), ("tool-add", some "add_numbers"), ("plain-1", none),
    ("plain-2", none)], by decide⟩

theorem smokeScript_requests : expectedRequests (some smokeScript) = some smokeRequests := by
  rfl

theorem sampleResult_evidence (name : String) (want : Option String) :
    ResultEvidence want (name, 1) (sampleResult name want) := by
  constructor <;> rfl

theorem sampleSmoke_evidence : SmokeEvidence smokeRequests sampleSmoke where
  ok := rfl
  failed := rfl
  noNan := rfl
  results := by
    refine ⟨1, _, sampleResults, rfl, by decide, rfl, rfl, List.Perm.refl _, ?_⟩
    exact .cons ⟨_, rfl, sampleResult_evidence _ _⟩ (.cons ⟨_, rfl, sampleResult_evidence _ _⟩
      (.cons ⟨_, rfl, sampleResult_evidence _ _⟩ (.cons ⟨_, rfl, sampleResult_evidence _ _⟩ .nil)))
  logErrors := by
    refine ⟨_, rfl, ?_⟩
    simp only [nodes, List.forall_mem_cons, List.not_mem_nil, false_implies, implies_true,
      and_true]
    exact ⟨rfl, rfl⟩
  logFailures := by
    refine ⟨_, rfl, ?_⟩
    simp only [nodes, List.forall_mem_cons, List.not_mem_nil, false_implies, implies_true,
      and_true]
    exact ⟨rfl, rfl⟩

theorem meets_of_floats {lane : String} {c a : Float} (divisor : (c == 0) = false)
    (ratio : parity ≤ a / c) (floor : floorOf lane ≤ a) : Meets lane (.float c) (.float a) := by
  refine ⟨.float c, .float a, a / c, rfl, rfl, ?_, ratio, decide_eq_true floor⟩
  have nonzero : (HostNumber.float c).isZero = false := divisor
  simp only [HostNumber.truediv, nonzero]
  rfl

theorem sample_throughput : Throughput (sampleRows controlMedians) (sampleRows armedMedians) := by
  intro lane control armed inControl inArmed
  simp only [lanes, sampleRows, controlMedians, armedMedians, List.map_cons, List.map_nil,
    List.zip_cons_cons, List.zip_nil_right, List.mem_cons, Prod.mk.injEq, List.not_mem_nil,
    or_false] at inControl inArmed
  rcases inControl with ⟨rfl, rfl⟩ | ⟨rfl, rfl⟩ | ⟨rfl, rfl⟩ <;>
    simp only [true_and, String.reduceEq, false_and, false_or, or_false] at inArmed
  · subst inArmed
    exact meets_of_floats (by decide +kernel) (by decide +kernel) (by decide +kernel)
  · subst inArmed
    exact meets_of_floats (by decide +kernel) (by decide +kernel) (by decide +kernel)
  · subst inArmed
    exact meets_of_floats (by decide +kernel) (by decide +kernel) (by decide +kernel)

theorem adopts_iff_complete_sample :
    ∃ result, compare (fun _ => "") (some smokeScript)
      (.obj (sampleReceipt 0 (sampleRows controlMedians)))
      (.obj (sampleReceipt 3 (sampleRows armedMedians))) (some (some (.obj sampleSmoke))) =
        .ok result ∧ result.verdict = .adopt := by
  obtain ⟨_, _, result, compared, adopts⟩ := adopts_iff_complete (fun _ => "") (some smokeScript)
    (sampleReceipt_in_range 0 (by decide) controlMedians)
    (sampleReceipt_in_range 3 (by decide) armedMedians) (some (some (.obj sampleSmoke)))
  refine ⟨result, compared, adopts.mpr ⟨_, _, ⟨?_, ?_, ?_⟩, sample_throughput⟩⟩
  · exact ⟨_, rfl, sampleReceipt_evidence 0 controlRows_clean⟩
  · exact ⟨_, rfl, sampleReceipt_evidence 3 armedRows_clean, _, rfl, rfl⟩
  · exact ⟨smokeRequests, _, smokeScript_requests, rfl, sampleSmoke_evidence⟩

end Sample
end ExpertsWindow
