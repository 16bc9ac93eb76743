import Glm53Overlay.Library.DoubleQuotient
import Glm53Overlay.Library.OptionTraverse
import Glm53Overlay.OccupancyGate.Judge

/-!
What the gate says of single launches. A judged capture is complete; the aggregate keeps the gap
of one launch exactly when the quotients of some launch by every theoretical value stay below the
ratio.
-/
namespace OccupancyGate

theorem value_number (record : Record) (metric : Metric) :
    Binary64.rank (record.value metric) ≠ none := by
  rw [ne_eq, Binary64.rank_none_iff, Bool.not_eq_true]
  unfold Record.value
  cases (record.get metric).getD none with
  | none => rfl
  | some reading => exact reading.number

theorem aggregate_found {launches : PyDict String Record} (nonempty : launches.entries ≠ [])
    (metric : Metric) : Binary64.least? (launches.entries.map fun l => Record.value l.2 metric) =
      some (aggregate launches metric) := by
  unfold aggregate
  cases found : Binary64.least? (launches.entries.map fun l => Record.value l.2 metric) with
  | none =>
    rw [Binary64.least?_none_iff, List.map_eq_nil_iff] at found
    exact absurd found nonempty
  | some least => rfl

theorem aggregate_attained {launches : PyDict String Record} (nonempty : launches.entries ≠ [])
    (metric : Metric) : ∃ l ∈ launches.entries, aggregate launches metric = l.2.value metric := by
  have member := Binary64.least?_mem (aggregate_found nonempty metric)
  obtain ⟨l, inLaunches, same⟩ := List.mem_map.mp member
  exact ⟨l, inLaunches, same.symm⟩

theorem aggregate_le {launches : PyDict String Record} {l : String × Record}
    (member : l ∈ launches.entries) (metric : Metric) :
    aggregate launches metric ≤ l.2.value metric := by
  have nonempty : launches.entries ≠ [] := List.ne_nil_of_mem member
  obtain ⟨least, _, same⟩ := aggregate_attained nonempty metric
  have number : Binary64.rank (aggregate launches metric) ≠ none := by
    rw [same]
    exact value_number least.2 metric
  exact Binary64.least?_le (aggregate_found nonempty metric) number _
    (List.mem_map.mpr ⟨l, member, rfl⟩) (value_number l.2 metric)

section Positive
variable {record : Record} {metric : Metric}

theorem positive_iff : ¬ record.value metric ≤ 0 ↔ 0 < record.value metric :=
  ⟨Binary64.lt_of_not_le Binary64.zero_number (value_number record metric),
    fun less le => Binary64.not_lt_of_le le less⟩

theorem nonnegative_iff : ¬ record.value metric < 0 ↔ 0 ≤ record.value metric :=
  ⟨Binary64.le_of_not_lt Binary64.zero_number (value_number record metric),
    Binary64.not_lt_of_le⟩

end Positive

theorem launchProblem_none_iff (record : Record) : launchProblem record = none ↔ Usable record := by
  have keyed : ∀ metric, metric ∈ record.keys ↔ record.get metric ≠ none := by
    intro metric
    rw [ne_eq, PyDict.get_eq_none_iff, not_not]
  unfold launchProblem
  simp only
  constructor
  · intro passed
    split at passed
    · cases passed
    rename_i present
    split at passed
    · cases passed
    rename_i readable
    split at passed
    · cases passed
    rename_i regs
    split at passed
    · cases passed
    rename_i block
    split at passed
    · cases passed
    rename_i grid
    split at passed
    · cases passed
    rename_i theoretical
    split at passed
    · cases passed
    rename_i achieved
    split at passed
    · cases passed
    rename_i below
    rw [Option.map_eq_none_iff, List.find?_eq_none] at passed
    rw [not_not, List.filter_eq_nil_iff] at present readable
    have stated : ∀ metric, record.get metric ≠ some none := by
      intro metric unread
      have member : metric ∈ record.keys := by
        rw [keyed, unread]
        exact Option.some_ne_none _
      exact readable metric member (decide_eq_true unread)
    constructor
    · intro metric needed
      have member : metric ∈ record.keys := by simpa using present metric needed
      rw [keyed] at member
      cases found : record.get metric with
      | none => exact absurd found member
      | some value =>
        cases value with
        | none => exact absurd found (stated metric)
        | some value => exact ⟨value, rfl⟩
    · exact stated
    · exact positive_iff.mp regs
    · exact positive_iff.mp block
    · exact positive_iff.mp grid
    · exact not_not.mp theoretical
    · exact not_not.mp achieved
    · exact below
    · intro metric checked
      exact nonnegative_iff.mp (by simpa using passed metric checked)
  · intro usable
    have present : (required.filter fun metric => metric ∉ record.keys) = [] := by
      rw [List.filter_eq_nil_iff]
      intro metric needed
      obtain ⟨value, found⟩ := usable.readable metric needed
      have member : metric ∈ record.keys := by
        rw [keyed, found]
        exact Option.some_ne_none _
      simpa using member
    have readable : (record.keys.filter fun metric => record.get metric = some none) = [] := by
      rw [List.filter_eq_nil_iff]
      intro metric _
      simpa using usable.stated metric
    rw [present, readable, if_neg (not_not.mpr rfl), if_neg (not_not.mpr rfl),
      if_neg (positive_iff.mpr usable.registers), if_neg (positive_iff.mpr usable.block),
      if_neg (positive_iff.mpr usable.grid), if_neg (not_not.mpr usable.theoretical),
      if_neg (not_not.mpr usable.achieved), if_neg usable.below,
      Option.map_eq_none_iff, List.find?_eq_none]
    intro metric checked
    simpa using nonnegative_iff.mpr (usable.limits metric checked)

theorem inOrder_spec (launches : PyDict String Record) :
    (inOrder launches = none ∧ ∃ l ∈ launches.entries, launchOrder l.1 = none) ∨
      ∃ sorted, inOrder launches = some sorted ∧ sorted.Perm launches.entries ∧
        ∀ l ∈ launches.entries, launchOrder l.1 ≠ none := by
  unfold inOrder
  by_cases ordered : ∀ l ∈ launches.entries, launchOrder l.1 ≠ none
  · right
    have keyed : (launches.entries.mapM fun l => (launchOrder l.1).map (·, l)) =
        some (launches.entries.map fun l => ((launchOrder l.1).getD (0, ""), l)) := by
      refine OptionTraverse.mapM_of_some fun l member => ?_
      obtain ⟨key, found⟩ := Option.ne_none_iff_exists'.mp (ordered l member)
      rw [found]
      rfl
    rw [keyed]
    refine ⟨_, rfl, ?_, ordered⟩
    refine ((List.perm_insertionSort _ _).map Prod.snd).trans ?_
    rw [List.map_map]
    exact List.Perm.of_eq (List.map_id launches.entries)
  · left
    push Not at ordered
    obtain ⟨l, member, refused⟩ := ordered
    rw [OptionTraverse.mapM_of_none member (by rw [refused]; rfl)]
    exact ⟨rfl, l, member, refused⟩

theorem kernelStop_none_iff (name : Kernel) (launches : PyDict String Record) :
    kernelStop name launches = none ↔ launches.entries ≠ [] ∧
      (∀ a ∈ launches.entries, ∀ b ∈ launches.entries, ∀ metric ∈ a.2.keys, metric ∈ b.2.keys) ∧
      (∀ l ∈ launches.entries, launchOrder l.1 ≠ none) ∧ ∀ l ∈ launches.entries, Usable l.2 := by
  unfold kernelStop
  split
  · rename_i empty
    simp [empty]
  · rename_i nonempty
    split
    · rename_i differ
      constructor
      · intro wrong
        cases wrong
      · intro all
        exact absurd all.2.1 differ
    · rename_i alike
      rcases inOrder_spec launches with ⟨raised, l, member, refused⟩ | ⟨sorted, found, same, ordered⟩
      · rw [raised]
        constructor
        · intro wrong
          cases wrong
        · intro all
          exact absurd refused (all.2.2.1 l member)
      · rw [found]
        simp only [List.findSome?_eq_none_iff, Option.map_eq_none_iff, launchProblem_none_iff,
          same.mem_iff]
        exact ⟨fun usable => ⟨nonempty, not_not.mp alike, ordered, usable⟩, fun all => all.2.2.2⟩

theorem stop_none_iff (capture : Capture) (expectedLaunches : Option Int) :
    stop capture expectedLaunches = none ↔
      Complete capture expectedLaunches ∧ Numbered capture := by
  unfold stop
  simp only
  constructor
  · intro passed
    split at passed
    · cases passed
    rename_i present
    split at passed
    · cases passed
    rename_i total
    rw [List.findSome?_eq_none_iff] at passed
    rw [not_not, List.filter_eq_nil_iff] at present
    have checked := fun name member =>
      (kernelStop_none_iff name (capture.launches name)).mp (passed name member)
    refine ⟨?_, fun name member => (checked name member).2.2.1⟩
    constructor
    · intro name member
      simpa using present name member
    · intro expected asked
      rw [Option.mem_def.mp asked] at total
      simpa using total
    · exact fun name member => (checked name member).1
    · exact fun name member => (checked name member).2.1
    · exact fun name member => (checked name member).2.2.2
  · rintro ⟨complete, numbered⟩
    have present : (kernels.filter fun name => name ∉ capture.keys) = [] := by
      rw [List.filter_eq_nil_iff]
      intro name member
      simpa using complete.present name member
    have total : (expectedLaunches.any fun expected => ((capture.entries.map fun e =>
        e.2.size).sum : Int) ≠ expected) = false := by
      cases asked : expectedLaunches with
      | none => rfl
      | some expected => simpa using complete.total expected asked
    rw [present, if_neg (not_not.mpr rfl), if_neg (by rw [total]; exact Bool.false_ne_true),
      List.findSome?_eq_none_iff]
    intro name member
    exact (kernelStop_none_iff name (capture.launches name)).mpr ⟨complete.launched name member,
      complete.alike name member, numbered name member, complete.usable name member⟩

section Verdicts
variable {regsStop achievedRatio : Float} {capture : Capture} {expectedLaunches : Option Int}

theorem judge_of_complete (complete : Complete capture expectedLaunches)
    (numbered : Numbered capture) : ∃ report,
      judge regsStop achievedRatio expectedLaunches capture = some report ∧
      report.verdicts = (kernels.map fun name =>
        (name, verdict regsStop achievedRatio (capture.launches name))) ∧
      report.decision = .judged
        (if report.verdicts.any fun v => v.2 = .openGap then .openGap
        else if report.verdicts.all fun v => v.2 = .stopRegisterHeadroom then .stopRegisterHeadroom
        else .stopNoGap) := by
  rw [judge, (stop_none_iff capture expectedLaunches).mpr ⟨complete, numbered⟩]
  exact ⟨_, rfl, rfl, rfl⟩

theorem complete_of_judged {report : Report} {v : Verdict}
    (ran : judge regsStop achievedRatio expectedLaunches capture = some report)
    (judged : report.decision = .judged v) :
    Complete capture expectedLaunches ∧ Numbered capture := by
  rw [← stop_none_iff]
  cases stopped : stop capture expectedLaunches with
  | none => rfl
  | some how =>
    rw [judge, stopped] at ran
    cases how with
    | raised => cases ran
    | refused reason =>
      cases ran
      cases judged

theorem verdict_listed {report : Report} {name : Kernel} (member : name ∈ kernels) (v : Verdict)
    (each : report.verdicts = kernels.map fun name =>
      (name, verdict regsStop achievedRatio (capture.launches name))) :
    (name, v) ∈ report.verdicts ↔ verdict regsStop achievedRatio (capture.launches name) = v := by
  rw [each, List.mem_map]
  constructor
  · rintro ⟨other, _, same⟩
    obtain ⟨rfl, value⟩ := Prod.mk.inj same
    exact value
  · intro value
    exact ⟨name, member, by rw [value]⟩

theorem hundred_positive : Binary64.Positive 100 := ⟨_, _, _, rfl⟩

/-- The aggregate of a kernel with a gap shows one exactly when some launch stays below the ratio
    with every theoretical value. -/
theorem gap_kept_iff {launches : PyDict String Record}
    (usable : ∀ l ∈ launches.entries, Usable l.2)
    (gap : ∃ l ∈ launches.entries, ShowsGap regsStop achievedRatio l.2) :
    verdict regsStop achievedRatio launches = .openGap ↔
      ∃ l ∈ launches.entries, ∀ other ∈ launches.entries,
        l.2.value .achievedOccupancyPct / other.2.value .theoreticalOccupancyPct <
          achievedRatio := by
  obtain ⟨l, member, few, below⟩ := gap
  have nonempty : launches.entries ≠ [] := List.ne_nil_of_mem member
  obtain ⟨low, inLow, lowest⟩ := aggregate_attained nonempty .achievedOccupancyPct
  obtain ⟨flat, inFlat, flattest⟩ := aggregate_attained nonempty .theoreticalOccupancyPct
  have achieved : ∀ l ∈ launches.entries, Binary64.Positive (l.2.value .achievedOccupancyPct) :=
    fun l member => Binary64.positive_of_bounds (usable l member).achieved.1
      (usable l member).achieved.2 hundred_positive
  have theoretical : ∀ l ∈ launches.entries,
      Binary64.Positive (l.2.value .theoreticalOccupancyPct) :=
    fun l member => Binary64.positive_of_bounds (usable l member).theoretical.1
      (usable l member).theoretical.2 hundred_positive
  have registers : ¬ aggregate launches .registersPerThread > regsStop :=
    Binary64.not_lt_of_le (Binary64.le_chain (aggregate_le member .registersPerThread) few)
  have decided : verdict regsStop achievedRatio launches = .openGap ↔
      low.2.value .achievedOccupancyPct / flat.2.value .theoreticalOccupancyPct <
        achievedRatio := by
    have number := Binary64.quotient_number (achieved low inLow) (theoretical flat inFlat)
    unfold verdict
    simp only [registers, ↓reduceIte, lowest, flattest]
    split
    · rename_i enough
      constructor
      · intro wrong
        cases wrong
      · exact fun less => absurd less (Binary64.not_lt_of_le enough)
    · rename_i less
      exact ⟨fun _ => Binary64.lt_of_not_le number (Binary64.factor_number below) less,
        fun _ => rfl⟩
  rw [decided]
  constructor
  · intro shown
    refine ⟨low, inLow, fun other inOther => Binary64.lt_chain ?_ shown⟩
    have flatter := aggregate_le inOther .theoreticalOccupancyPct
    rw [flattest] at flatter
    exact Binary64.div_le_div (achieved low inLow) (achieved low inLow)
      (theoretical other inOther) (theoretical flat inFlat)
      (Binary64.le_self (value_number _ _)) flatter
  · rintro ⟨best, inBest, less⟩
    have lower := aggregate_le inBest .achievedOccupancyPct
    rw [lowest] at lower
    refine Binary64.lt_chain ?_ (less flat inFlat)
    exact Binary64.div_le_div (achieved low inLow) (achieved best inBest)
      (theoretical flat inFlat) (theoretical flat inFlat) lower
      (Binary64.le_self (value_number _ _))

/-- A judged capture is complete, and the gap of a single launch opens the gate exactly when
    the capture is judged and some launch stays below the ratio with all theoretical values. -/
theorem launch_gap_opens_iff (regsStop achievedRatio : Float) (expectedLaunches : Option Int)
    (capture : Capture) :
    (∀ report v, judge regsStop achievedRatio expectedLaunches capture = some report →
      report.decision = .judged v → Complete capture expectedLaunches) ∧
    ((∀ name ∈ kernels,
        (∃ l ∈ (capture.launches name).entries, ShowsGap regsStop achievedRatio l.2) →
        ∃ report, judge regsStop achievedRatio expectedLaunches capture = some report ∧
          (name, .openGap) ∈ report.verdicts ∧ report.decision = .judged .openGap) ↔
      ∀ name ∈ kernels,
        (∃ l ∈ (capture.launches name).entries, ShowsGap regsStop achievedRatio l.2) →
        Complete capture expectedLaunches ∧ Numbered capture ∧
        ∃ l ∈ (capture.launches name).entries, ∀ other ∈ (capture.launches name).entries,
          l.2.value .achievedOccupancyPct / other.2.value .theoreticalOccupancyPct <
            achievedRatio) := by
  refine ⟨fun report v ran judged => (complete_of_judged ran judged).1, ?_⟩
  constructor
  · intro opens name member gap
    obtain ⟨report, ran, listed, decided⟩ := opens name member gap
    obtain ⟨complete, numbered⟩ := complete_of_judged ran decided
    obtain ⟨same, again, each, _⟩ := judge_of_complete complete numbered
    obtain rfl : report = same := Option.some_inj.mp (ran.symm.trans again)
    rw [verdict_listed member _ each, gap_kept_iff (complete.usable name member) gap] at listed
    exact ⟨complete, numbered, listed⟩
  · intro condition name member gap
    obtain ⟨complete, numbered, some'⟩ := condition name member gap
    obtain ⟨report, ran, each, decision⟩ := judge_of_complete complete numbered
    have kept := (gap_kept_iff (complete.usable name member) gap).mpr some'
    have listed := (verdict_listed member _ each).mpr kept
    have any : (report.verdicts.any fun v => v.2 = .openGap) = true :=
      List.any_eq_true.mpr ⟨_, listed, decide_eq_true rfl⟩
    rw [if_pos any] at decision
    exact ⟨report, ran, listed, decision⟩

end Verdicts

theorem required_nodup : required.Nodup := by decide

def sampleRecord (theoretical achieved : Float) : Record :=
  ⟨[(.registersPerThread, reading 64), (.blockSize, reading 256), (.gridSize, reading 48),
    (.blockLimitRegisters, reading 4), (.blockLimitSharedMem, reading 4),
    (.blockLimitWarps, reading 6), (.theoreticalOccupancyPct, reading theoretical),
    (.achievedOccupancyPct, reading achieved), (.wavesPerSm, reading 1)], required_nodup⟩

theorem sampleIds_nodup : ["0", "1"].Nodup := by decide

/-- Two launches of the gate/up kernel: the first alone is at 40% of its ceiling, the second has
    a low ceiling. -/
def gateupLaunches : PyDict String Record :=
  ⟨[("0", sampleRecord 100 40), ("1", sampleRecord 45 40)], sampleIds_nodup⟩

def downLaunches : PyDict String Record :=
  ⟨[("2", sampleRecord 50 50)], List.nodup_singleton _⟩

theorem kernels_nodup : kernels.Nodup := by decide

def differingLaunches : Capture :=
  ⟨[(.gateup, gateupLaunches), (.down, downLaunches)], kernels_nodup⟩

/-- The capture is judged, the first launch of the gate/up kernel shows a gap, and the verdict
    is that there is none. -/
theorem low_ceiling_hides_gap :
    (∃ l ∈ (differingLaunches.launches .gateup).entries, ShowsGap 96 0.8 l.2) ∧
      judge 96 0.8 (some 3) differingLaunches = some ⟨.judged .stopNoGap,
        [(.gateup, .stopNoGap), (.down, .stopNoGap)]⟩ := by
  refine ⟨⟨("0", sampleRecord 100 40), List.mem_cons_self, ?_⟩, ?_⟩
  · constructor <;> decide +kernel
  · decide +kernel

end OccupancyGate
