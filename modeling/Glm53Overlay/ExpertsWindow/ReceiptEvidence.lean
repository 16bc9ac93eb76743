import Glm53Overlay.ExpertsWindow.Receipt
import Glm53Overlay.Library.PlacedOnce

/-!
A receipt has no failures exactly when its evidence is complete: one row per expected lane and no
other entry, each row clean, memory and markers as they must be. With numbers of the range of
doubles the checks raise nothing.
-/
namespace ExpertsWindow

/-- A finite number above zero that is not a boolean. -/
def FinitePositive (value : Json) : Prop :=
  ∃ n, value.hostNumber = some n ∧ n.isFinite = .ok true ∧ n.isPositive = true

structure LaneEvidence (lane : String) (row : Members) : Prop where
  named : PyJson.get row "lane" = .str lane
  exit : (PyJson.get row "returncode").equalsInt 0 = true
  median : FinitePositive (PyJson.get row "tok_s_median")
  noNan : PyJson.get row "any_nan" = .bool false
  coherent : lane = "prose" ∨ lane = "essay" → PyJson.get row "coherent" = .bool true

structure NodeMemory (entry : Json) : Prop where
  enough : ∃ members samples low, entry = .obj members ∧
    PyJson.get members "samples" = .int samples ∧ 0 < samples ∧
    PyJson.get members "min_kib" = .int low ∧ 2621440 ≤ low

/-- Complete evidence of one side, with its rows in the order of the lanes. -/
structure ReceiptEvidence (markers : Int) (receipt : Members) (rows : List Members) : Prop where
  healthBefore : (PyJson.get receipt "health_before").equalsInt 200 = true
  healthAfter : (PyJson.get receipt "health_after").equalsInt 200 = true
  entries : ∃ entries, PyJson.get receipt "lanes" = .arr entries ∧ entries.Perm (rows.map .obj)
  clean : List.Forall₂ LaneEvidence lanes rows
  memory : ∃ mem, PyJson.get receipt "memfree" = .obj mem ∧
    ∀ node ∈ nodes, NodeMemory (PyJson.get mem node)
  markers : ∃ marks, PyJson.get receipt "marker_counts" = .obj marks ∧
    ∀ node ∈ nodes, (PyJson.get marks node).equalsInt markers = true

theorem positiveNumber_in_range {value : Json} (fits : value.InDoubleRange) :
    ∃ n, positiveNumber value = .ok n ∧ (n.isSome = true ↔ FinitePositive value) := by
  unfold positiveNumber FinitePositive
  cases number : value.hostNumber with
  | none => exact ⟨none, rfl, by simp⟩
  | some n =>
    obtain ⟨finite, tested⟩ := HostNumber.isFinite_in_range (fits value n .self number)
    refine ⟨if (finite && n.isPositive) = true then some n else none, ?_, ?_⟩
    · dsimp only
      rw [tested]
      show (if (finite && n.isPositive) = true then pure (some n) else pure none) = _
      split <;> rfl
    · simp only [Option.some.injEq, exists_eq_left', tested, Except.ok.injEq]
      cases finite <;> cases n.isPositive <;> simp

theorem floor_unpacked : memfreeFloorKib.toModel.unpack =
    .finite .positive 5629499534213120 (-31) (by decide) := by
  rfl

theorem minimum_floor (kib : Int) :
    (HostNumber.compareInt kib memfreeFloorKib == some .lt) = decide (kib < 2621440) := by
  have exact : ((5629499534213120 : Nat) : ℚ) * 2 ^ (-31 : Int) = ((2621440 : Int) : ℚ) := by
    norm_num
  unfold HostNumber.compareInt Binary64.compareRat
  rw [floor_unpacked]
  show (some (compare (kib : ℚ) ((5629499534213120 : Nat) * 2 ^ (-31 : Int))) == some .lt) = _
  rw [exact]
  rcases lt_trichotomy kib 2621440 with less | same | more
  · have below : ((kib : Int) : ℚ) < ((2621440 : Int) : ℚ) := Int.cast_lt.mpr less
    rw [compare_lt_iff_lt.mpr below, decide_eq_true less]
    rfl
  · rw [same, compare_eq_iff_eq.mpr rfl]
    rfl
  · have above : ((2621440 : Int) : ℚ) < ((kib : Int) : ℚ) := Int.cast_lt.mpr more
    rw [compare_gt_iff_gt.mpr above, decide_eq_false (not_lt_of_gt more)]
    rfl

section Checks
variable (reprOf : Json → String) (label : String)

theorem rowProblems_in_range {lane : String} {row : Members}
    (fits : (PyJson.get row "tok_s_median").InDoubleRange)
    (named : PyJson.get row "lane" = .str lane) :
    ∃ problems, rowProblems reprOf label lane row = .ok problems ∧
      (problems = [] ↔ LaneEvidence lane row) := by
  obtain ⟨n, tested, positive⟩ := positiveNumber_in_range fits
  unfold rowProblems
  simp only [tested]
  refine ⟨_, rfl, ?_⟩
  simp only [List.append_eq_nil_iff, flag_eq_nil, Bool.not_eq_false', PyJson.isBool_iff,
    Option.isNone_eq_false_iff, positive, Bool.and_eq_false_imp, decide_eq_true_eq,
    List.mem_cons, List.not_mem_nil, or_false]
  constructor
  · rintro ⟨⟨⟨exit, median⟩, noNan⟩, coherent⟩
    exact ⟨named, exit, median, noNan, coherent⟩
  · intro evidence
    exact ⟨⟨⟨evidence.exit, evidence.median⟩, evidence.noNan⟩, evidence.coherent⟩

theorem nodeProblems_iff {node : String} {entry : Json} :
    nodeProblems reprOf label node entry = [] ↔ NodeMemory entry := by
  constructor
  · intro silent
    cases entry with
    | obj members =>
      obtain ⟨sampled, minimum⟩ := List.append_eq_nil_iff.mp silent
      simp only [sampleProblem, flag_eq_nil, Bool.not_eq_false', Option.any_eq_true,
        PyJson.plainInt_eq_some, decide_eq_true_eq] at sampled
      obtain ⟨samples, counted, positive⟩ := sampled
      unfold minimumProblem at minimum
      split at minimum
      · rename_i kib read
        split at minimum
        · exact absurd minimum (List.cons_ne_nil _ _)
        · rw [flag_eq_nil, minimum_floor, decide_eq_false_iff_not, not_lt] at minimum
          exact ⟨members, samples, kib, rfl, counted, positive,
            (PyJson.plainInt_eq_some _ _).mp read, minimum⟩
      · exact absurd minimum (List.cons_ne_nil _ _)
    | _ => exact absurd silent (List.cons_ne_nil _ _)
  · rintro ⟨members, samples, low, rfl, counted, positive, read, enough⟩
    have above : ¬ low ≤ 0 := by omega
    have floor : ¬ low < 2621440 := by omega
    simp [nodeProblems, sampleProblem, minimumProblem, counted, read, PyJson.plainInt, positive,
      above, minimum_floor, floor]

end Checks

section Rows

def laneName (entry : Json) : Option String := (namedRow entry).map Prod.fst

theorem namedRow_iff {entry : Json} {lane : String} {row : Members} :
    namedRow entry = some (lane, row) ↔ entry = .obj row ∧ PyJson.get row "lane" = .str lane := by
  constructor
  · intro named
    cases entry with
    | obj members =>
      unfold namedRow at named
      dsimp only at named
      split at named
      · rename_i found
        cases named
        exact ⟨rfl, found⟩
      · cases named
    | _ => cases named
  · rintro ⟨rfl, found⟩
    simp [namedRow, found]

theorem named_row {names : List String} {ys : List Json} :
    ∀ lane ∈ names, ∀ y ∈ ys, laneName y = some lane →
      ∃ row : Members, y = .obj row ∧ PyJson.get row "lane" = .str lane := by
  intro lane _ y _ own
  obtain ⟨⟨name, row⟩, found, same⟩ := Option.map_eq_some_iff.mp own
  obtain ⟨shape, named⟩ := namedRow_iff.mp found
  exact ⟨row, shape, same ▸ named⟩

theorem seen_names (entries : List Json) :
    (entries.filterMap namedRow).map Prod.fst = entries.filterMap laneName := by
  rw [List.map_filterMap]
  rfl

theorem namedRow_of_rows {names : List String} {rows : List Members}
    (named : List.Forall₂ (fun lane row => PyJson.get row "lane" = .str lane) names rows) :
    (rows.map PyJson.obj).filterMap namedRow = names.zip rows := by
  induction named with
  | nil => rfl
  | cons own _ ih =>
    rw [List.map_cons, List.filterMap_cons_some (namedRow_iff.mpr ⟨rfl, own⟩), ih]
    rfl

theorem laneRows_iff {receipt : Json} {names : List String} (nodup : names.Nodup)
    {rows : List Members} (same : (laneEntries receipt).Perm (rows.map .obj))
    (named : List.Forall₂ (fun lane row => PyJson.get row "lane" = .str lane) names rows)
    {lane : String} {row : Members} :
    (laneRows receipt).get lane = some row ↔ (lane, row) ∈ names.zip rows := by
  have listed : ((laneEntries receipt).filterMap namedRow).Perm (names.zip rows) := by
    rw [← namedRow_of_rows named]
    exact same.filterMap namedRow
  have keys : ((names.zip rows).map Prod.fst) = names :=
    List.map_fst_zip (Nat.le_of_eq named.length_eq)
  have distinct : (((laneEntries receipt).filterMap namedRow).map Prod.fst).Nodup := by
    rw [(listed.map Prod.fst).nodup_iff, keys]
    exact nodup
  rw [laneRows, PyDict.get_firstWins, ← listed.mem_iff]
  exact PyDict.get_eq_some_iff ⟨_, distinct⟩ lane row

theorem lanes_nodup : lanes.Nodup := by
  decide

end Rows

section Receipt
variable (reprOf : Json → String) (label : String)

theorem entryProblem_iff (entry : Json × Nat) :
    entryProblem label entry = [] ↔ ∃ lane, laneName entry.1 = some lane := by
  obtain ⟨entry, index⟩ := entry
  unfold entryProblem laneName
  cases entry with
  | obj row =>
    unfold namedRow
    dsimp only
    split <;> simp
  | _ => simp [namedRow]

theorem entries_named_iff (entries : List Json) :
    entries.zipIdx.flatMap (entryProblem label) = [] ↔
      ∀ entry ∈ entries, ∃ lane, laneName entry = some lane := by
  rw [List.flatMap_eq_nil_iff]
  constructor
  · intro silent entry member
    obtain ⟨index, place⟩ := List.mem_iff_getElem?.mp member
    have numbered : (entry, index) ∈ entries.zipIdx := List.mk_mem_zipIdx_iff_getElem?.mpr place
    exact (entryProblem_iff label (entry, index)).mp (silent _ numbered)
  · intro named entry member
    exact (entryProblem_iff label entry).mpr (named entry.1 (List.fst_mem_of_mem_zipIdx member))

theorem countProblems_iff (entries : List Json) :
    countProblems label (seenLanes entries) = [] ↔
      ∀ lane ∈ lanes, (entries.filterMap laneName).count lane = 1 := by
  simp only [countProblems, seenLanes, seen_names, List.flatMap_eq_nil_iff, flag_eq_nil,
    PyDict.get_tally, ne_eq, decide_eq_false_iff_not, not_not]

theorem extraProblem_iff (entries : List Json) :
    extraProblem reprOf label (seenLanes entries) = [] ↔
      ∀ lane ∈ entries.filterMap laneName, lane ∈ lanes := by
  have sorted : extraLanes (seenLanes entries) = [] ↔
      (seenLanes entries).keys.filter (fun lane => lane ∉ lanes) = [] := by
    have same := List.mergeSort_perm
      ((seenLanes entries).keys.filter fun lane => lane ∉ lanes) fun a b => a ≤ b
    constructor
    · intro empty
      exact (same.symm.trans (.of_eq empty)).eq_nil
    · intro empty
      exact (same.trans (.of_eq empty)).eq_nil
  unfold extraProblem
  rw [flag_eq_nil, decide_eq_false_iff_not, not_not, sorted, List.filter_eq_nil_iff]
  simp only [seenLanes, seen_names, PyDict.mem_keys_tally, decide_eq_true_eq, not_not]

theorem one_per_lane_iff (entries : List Json) :
    (entries.zipIdx.flatMap (entryProblem label) = [] ∧
      countProblems label (seenLanes entries) = [] ∧
      extraProblem reprOf label (seenLanes entries) = []) ↔
      ∃ rows : List Members, entries.Perm (rows.map .obj) ∧
        List.Forall₂ (fun lane row => PyJson.get row "lane" = .str lane) lanes rows := by
  rw [entries_named_iff, countProblems_iff, extraProblem_iff]
  constructor
  · rintro ⟨named, once, only⟩
    have keyed : ∀ entry ∈ entries, ∃ lane ∈ lanes, laneName entry = some lane := by
      intro entry member
      obtain ⟨lane, found⟩ := named entry member
      exact ⟨lane, only lane (List.mem_filterMap.mpr ⟨entry, member, found⟩), found⟩
    obtain ⟨ys, same, placed⟩ := PlacedOnce.listed_of_once lanes_nodup keyed once
    obtain ⟨rows, listed, own⟩ := PlacedOnce.listed_as .obj placed named_row
    exact ⟨rows, listed ▸ same, own⟩
  · rintro ⟨rows, same, own⟩
    have placed : List.Forall₂ (fun lane y => laneName y = some lane) lanes
        (rows.map PyJson.obj) := by
      rw [List.forall₂_map_right_iff]
      refine own.imp ?_
      intro lane row name
      exact Option.map_eq_some_iff.mpr ⟨(lane, row), namedRow_iff.mpr ⟨rfl, name⟩, rfl⟩
    obtain ⟨keyed, once⟩ := PlacedOnce.once_of_listed lanes_nodup same placed
    refine ⟨?_, once, ?_⟩
    · intro entry member
      obtain ⟨lane, _, found⟩ := keyed entry member
      exact ⟨lane, found⟩
    · intro lane member
      obtain ⟨entry, inEntries, found⟩ := List.mem_filterMap.mp member
      obtain ⟨other, known, same⟩ := keyed entry inEntries
      rw [found] at same
      exact Option.some.inj same ▸ known

theorem laneEntries_in_range {receipt : Json} (fits : receipt.InDoubleRange) {entry : Json}
    (member : entry ∈ laneEntries receipt) : entry.InDoubleRange := by
  unfold laneEntries at member
  cases receipt with
  | obj members =>
    dsimp only at member
    split at member
    · rename_i entries found
      have inner : (PyJson.get members "lanes").InDoubleRange := fits.get "lanes"
      rw [found] at inner
      exact inner.item member
    · exact absurd member List.not_mem_nil
  | _ => exact absurd member List.not_mem_nil

theorem laneRows_some {receipt : Json} {lane : String} {row : Members}
    (found : (laneRows receipt).get lane = some row) :
    .obj row ∈ laneEntries receipt ∧ PyJson.get row "lane" = .str lane := by
  rw [laneRows, PyDict.get_firstWins] at found
  obtain ⟨before, after, split, _⟩ := List.lookup_eq_some_iff.mp found
  have listed : (lane, row) ∈ (laneEntries receipt).filterMap namedRow :=
    split ▸ List.mem_append_right _ List.mem_cons_self
  obtain ⟨entry, member, named⟩ := List.mem_filterMap.mp listed
  obtain ⟨shape, name⟩ := namedRow_iff.mp named
  exact ⟨shape ▸ member, name⟩

theorem laneProblems_in_range {receipt : Json} (fits : receipt.InDoubleRange) (lane : String) :
    ∃ problems, laneProblems reprOf label (laneRows receipt) lane = .ok problems ∧
      (problems = [] ↔ ∀ row, (laneRows receipt).get lane = some row →
        LaneEvidence lane row) := by
  unfold laneProblems
  cases found : (laneRows receipt).get lane with
  | none => exact ⟨[], rfl, by simp⟩
  | some row =>
    obtain ⟨member, named⟩ := laneRows_some found
    obtain ⟨problems, tested, clean⟩ := rowProblems_in_range reprOf label
      ((laneEntries_in_range fits member).get "tok_s_median") named
    exact ⟨problems, tested, clean.trans (by simp)⟩

theorem report_of_parts {f : String → Except ArithmeticError (List String)} {P : String → Prop}
    (parts : ∀ lane, ∃ problems, f lane = .ok problems ∧ (problems = [] ↔ P lane))
    (names : List String) :
    ∃ report, names.mapM f = .ok report ∧ (report.flatten = [] ↔ ∀ lane ∈ names, P lane) := by
  induction names with
  | nil => exact ⟨[], rfl, by simp⟩
  | cons lane names ih =>
    obtain ⟨problems, first, clean⟩ := parts lane
    obtain ⟨report, rest, cleaner⟩ := ih
    refine ⟨problems :: report, ?_, ?_⟩
    · rw [List.mapM_cons, first, rest]
      rfl
    · rw [List.flatten_cons, List.append_eq_nil_iff, clean, cleaner, List.forall_mem_cons]

theorem markerProblems_iff {members : Members} {markers : Int} :
    markerProblems reprOf label members markers = [] ↔
      ∃ marks, PyJson.get members "marker_counts" = .obj marks ∧
        ∀ node ∈ nodes, (PyJson.get marks node).equalsInt markers = true := by
  unfold markerProblems
  cases PyJson.get members "marker_counts" with
  | obj marks =>
    simp only [List.flatMap_eq_nil_iff, flag_eq_nil, Bool.not_eq_false', PyJson.obj.injEq,
      exists_eq_left']
  | _ => simp

theorem memoryProblems_iff {members : Members} :
    memoryProblems reprOf label members = [] ↔
      ∃ mem, PyJson.get members "memfree" = .obj mem ∧
        ∀ node ∈ nodes, NodeMemory (PyJson.get mem node) := by
  unfold memoryProblems
  cases PyJson.get members "memfree" with
  | obj mem =>
    simp only [List.flatMap_eq_nil_iff, nodeProblems_iff, PyJson.obj.injEq, exists_eq_left']
  | _ => simp

theorem healthProblems_iff {members : Members} :
    healthProblems reprOf label members = [] ↔
      (PyJson.get members "health_before").equalsInt 200 = true ∧
        (PyJson.get members "health_after").equalsInt 200 = true := by
  simp only [healthProblems, List.flatMap_eq_nil_iff, flag_eq_nil, Bool.not_eq_false',
    List.forall_mem_cons, List.not_mem_nil, false_implies, implies_true, and_true]

theorem lanesProblem_iff {members : Members} :
    lanesProblem reprOf label members = [] ↔
      PyJson.get members "lanes" = .arr (laneEntries (.obj members)) := by
  unfold lanesProblem laneEntries
  dsimp only
  cases PyJson.get members "lanes" <;> simp

theorem clean_rows_iff {receipt : Json} {rows : List Members}
    (same : (laneEntries receipt).Perm (rows.map .obj))
    (named : List.Forall₂ (fun lane row => PyJson.get row "lane" = .str lane) lanes rows) :
    (∀ lane ∈ lanes, ∀ row, (laneRows receipt).get lane = some row → LaneEvidence lane row) ↔
      List.Forall₂ LaneEvidence lanes rows := by
  rw [List.forall₂_iff_zip]
  constructor
  · intro clean
    refine ⟨named.length_eq, ?_⟩
    intro lane row member
    have known : lane ∈ lanes := (List.of_mem_zip member).1
    exact clean lane known row ((laneRows_iff lanes_nodup same named).mpr member)
  · rintro ⟨_, clean⟩ lane _ row found
    exact clean ((laneRows_iff lanes_nodup same named).mp found)

theorem LaneEvidence.names {names : List String} {rows : List Members}
    (clean : List.Forall₂ LaneEvidence names rows) :
    List.Forall₂ (fun lane row => PyJson.get row "lane" = .str lane) names rows :=
  clean.imp fun _ _ evidence => evidence.named

theorem receiptFailures_in_range {receipt : Json} (fits : receipt.InDoubleRange)
    (markers : Int) :
    ∃ problems, receiptFailures reprOf label receipt markers = .ok problems ∧
      (problems = [] ↔ ∃ members rows, receipt = .obj members ∧
        ReceiptEvidence markers members rows) := by
  cases receipt with
  | obj members =>
    obtain ⟨report, tested, clean⟩ := report_of_parts
      (laneProblems_in_range reprOf label fits) lanes
    refine ⟨_, by simp only [receiptFailures, tested]; rfl, ?_⟩
    simp only [List.append_eq_nil_iff]
    rw [healthProblems_iff, lanesProblem_iff, memoryProblems_iff, markerProblems_iff, clean]
    constructor
    · rintro ⟨⟨⟨⟨⟨⟨⟨⟨before, after⟩, listed⟩, named⟩, counted⟩, only⟩, rowsClean⟩, memory⟩, marked⟩
      obtain ⟨rows, same, own⟩ := (one_per_lane_iff reprOf label _).mp ⟨named, counted, only⟩
      exact ⟨members, rows, rfl, before, after, ⟨_, listed, same⟩,
        (clean_rows_iff same own).mp rowsClean, memory, marked⟩
    · rintro ⟨_, rows, shape, evidence⟩
      cases shape
      obtain ⟨entries, listed, same⟩ := evidence.entries
      have held : laneEntries (.obj members) = entries := by
        simp only [laneEntries, listed]
      rw [← held] at same listed
      have own := LaneEvidence.names evidence.clean
      obtain ⟨named, counted, only⟩ := (one_per_lane_iff reprOf label _).mpr ⟨rows, same, own⟩
      exact ⟨⟨⟨⟨⟨⟨⟨⟨evidence.healthBefore, evidence.healthAfter⟩, listed⟩, named⟩, counted⟩, only⟩,
        (clean_rows_iff same own).mpr evidence.clean⟩, evidence.memory⟩, evidence.markers⟩
  | _ =>
    refine ⟨_, rfl, ?_⟩
    simp only [List.cons_ne_nil, false_iff, not_exists]
    rintro members rows ⟨shape, _⟩
    cases shape

end Receipt
end ExpertsWindow
