import Glm53Overlay.KernelShare.Task29
import Glm53Overlay.Library.OptionTraverse

/-!
The rows of the audit hold of every fused kernel what its events say, so the occupancies do not
depend on the order of the events; the share is a sum of doubles and may. The cascade asks the
estimate even after a derived value, and this is the only other way it leaves the documented rule.
-/
namespace KernelShare

def named (records : List KernelRecord) (name : String) : List KernelRecord :=
  records.filter fun r => r.name = name

structure RowOf (events : List KernelRecord) (row : KernelRow) : Prop where
  occ : ∀ e, e ∈ row.occPct ↔ ∃ r ∈ events, r.est = some e
  derived : ∀ d, d ∈ row.derivedOccPct ↔ ∃ r ∈ events, r.derived = some d

def Rows (records : List KernelRecord) (perKernel : PyDict String KernelRow) : Prop :=
  ∀ name, match perKernel.get name with
    | none => named records name = []
    | some row => named records name ≠ [] ∧ RowOf (named records name) row

theorem rowOf_nil : RowOf [] emptyKernel := by
  constructor
  · simp [emptyKernel]
  · simp [emptyKernel]

theorem RowOf.add {events : List KernelRecord} {row : KernelRow} (now : RowOf events row)
    (r : KernelRecord) : RowOf (events ++ [r]) (row.add r) := by
  constructor
  · intro e
    simp [KernelRow.add, now.occ, or_and_right, exists_or]
  · intro d
    simp [KernelRow.add, now.derived, or_and_right, exists_or]

theorem addKernel_rows {records : List KernelRecord} {perKernel : PyDict String KernelRow}
    (now : Rows records perKernel) (r : KernelRecord) :
    Rows (records ++ [r]) (addKernel perKernel r) := by
  intro name
  have split : named (records ++ [r]) name =
      named records name ++ if r.name = name then [r] else [] := by
    unfold named
    rw [List.filter_append]
    congr 1
    by_cases own : r.name = name <;> simp [own]
  rw [split]
  unfold addKernel
  by_cases own : r.name = name
  · subst own
    rw [PyDict.get_set_same, if_pos rfl]
    refine ⟨by simp, ?_⟩
    have row := now r.name
    cases found : perKernel.get r.name with
    | none =>
      rw [found] at row
      simp only at row
      rw [row]
      exact rowOf_nil.add r
    | some old =>
      rw [found] at row
      exact row.2.add r
  · rw [PyDict.get_set_other _ _ (Ne.symm own), if_neg own, List.append_nil]
    exact now name

theorem foldl_rows (rest : List KernelRecord) : ∀ (records : List KernelRecord)
    (perKernel : PyDict String KernelRow), Rows records perKernel →
    Rows (records ++ rest) (rest.foldl addKernel perKernel) := by
  induction rest with
  | nil =>
    intro records perKernel now
    rw [List.append_nil]
    exact now
  | cons r rest ih =>
    intro records perKernel now
    have later := ih (records ++ [r]) (addKernel perKernel r) (addKernel_rows now r)
    rwa [List.append_assoc] at later

theorem perKernel_rows (records : List KernelRecord) :
    Rows records (records.foldl addKernel PyDict.empty) :=
  foldl_rows records [] PyDict.empty fun _ => rfl

section Fused
variable {records : List KernelRecord}

theorem mem_fusedRows {e : String × KernelRow} (member : e ∈ fusedRows records) :
    isFusedMoe e.1 = true ∧ ∃ row, RowOf (named records e.1) row ∧ named records e.1 ≠ [] ∧
      e.2 = { row with totalUs := Binary64.round 3 row.totalUs } := by
  unfold fusedRows kernelsOut at member
  rw [List.mem_filter, (List.perm_insertionSort _ _).mem_iff, List.mem_map] at member
  obtain ⟨⟨entry, listed, rfl⟩, fused⟩ := member
  have found := (PyDict.get_eq_some_iff _ entry.1 entry.2).mpr listed
  have row := perKernel_rows records entry.1
  rw [found] at row
  exact ⟨fused, entry.2, row.2, row.1, rfl⟩

theorem fusedRows_of_record {r : KernelRecord} (member : r ∈ records)
    (fused : isFusedMoe r.name = true) : ∃ e ∈ fusedRows records, e.1 = r.name := by
  have row := perKernel_rows records r.name
  cases found : (records.foldl addKernel PyDict.empty).get r.name with
  | none =>
    rw [found] at row
    have inNamed : r ∈ named records r.name :=
      List.mem_filter.mpr ⟨member, decide_eq_true rfl⟩
    simp only at row
    rw [row] at inNamed
    cases inNamed
  | some old =>
    have listed := (PyDict.get_eq_some_iff _ _ _).mp found
    refine ⟨(r.name, { old with totalUs := Binary64.round 3 old.totalUs }), ?_, rfl⟩
    unfold fusedRows kernelsOut
    rw [List.mem_filter, (List.perm_insertionSort _ _).mem_iff, List.mem_map]
    exact ⟨⟨(r.name, old), listed, rfl⟩, fused⟩

theorem mem_estimates (e : Int) :
    e ∈ (fusedRows records).flatMap (fun r => r.2.occPct) ↔ e ∈ estimates records := by
  unfold estimates
  rw [List.mem_flatMap, List.mem_filterMap]
  constructor
  · rintro ⟨entry, member, inRow⟩
    obtain ⟨fused, row, rowOf, _, same⟩ := mem_fusedRows member
    rw [same] at inRow
    obtain ⟨r, inNamed, est⟩ := (rowOf.occ e).mp inRow
    obtain ⟨inRecords, own⟩ := List.mem_filter.mp inNamed
    rw [← of_decide_eq_true own] at fused
    exact ⟨r, List.mem_filter.mpr ⟨inRecords, fused⟩, est⟩
  · rintro ⟨r, kept, est⟩
    obtain ⟨inRecords, fused⟩ := List.mem_filter.mp kept
    obtain ⟨entry, member, own⟩ := fusedRows_of_record inRecords fused
    obtain ⟨_, row, rowOf, _, same⟩ := mem_fusedRows member
    refine ⟨entry, member, ?_⟩
    rw [same]
    exact (rowOf.occ e).mpr ⟨r, List.mem_filter.mpr ⟨inRecords, decide_eq_true own.symm⟩, est⟩

theorem mem_derivedValues (d : Float) :
    d ∈ (fusedRows records).flatMap (fun r => r.2.derivedOccPct) ↔ d ∈ derivedValues records := by
  unfold derivedValues
  rw [List.mem_flatMap, List.mem_filterMap]
  constructor
  · rintro ⟨entry, member, inRow⟩
    obtain ⟨fused, row, rowOf, _, same⟩ := mem_fusedRows member
    rw [same] at inRow
    obtain ⟨r, inNamed, derived⟩ := (rowOf.derived d).mp inRow
    obtain ⟨inRecords, own⟩ := List.mem_filter.mp inNamed
    rw [← of_decide_eq_true own] at fused
    exact ⟨r, List.mem_filter.mpr ⟨inRecords, fused⟩, derived⟩
  · rintro ⟨r, kept, derived⟩
    obtain ⟨inRecords, fused⟩ := List.mem_filter.mp kept
    obtain ⟨entry, member, own⟩ := fusedRows_of_record inRecords fused
    obtain ⟨_, row, rowOf, _, same⟩ := mem_fusedRows member
    refine ⟨entry, member, ?_⟩
    rw [same]
    exact (rowOf.derived d).mpr
      ⟨r, List.mem_filter.mpr ⟨inRecords, decide_eq_true own.symm⟩, derived⟩

end Fused

theorem min?_congr {α : Type*} [LinearOrder α] {xs ys : List α} (same : ∀ x, x ∈ xs ↔ x ∈ ys) :
    xs.min? = ys.min? := by
  cases found : ys.min? with
  | none =>
    rw [List.min?_eq_none_iff] at found ⊢
    subst found
    exact List.eq_nil_iff_forall_not_mem.mpr fun x member => absurd ((same x).mp member) (by simp)
  | some least =>
    rw [List.min?_eq_some_iff] at found ⊢
    exact ⟨(same least).mpr found.1, fun x member => found.2 x ((same x).mp member)⟩

theorem rearranged_self (traces : List (List Event)) : Rearranged traces traces :=
  ⟨traces, List.Perm.refl traces, List.forall₂_same.mpr fun trace _ => List.Perm.refl trace⟩

theorem flatten_perm {traces traces' : List (List Event)} (same : Rearranged traces traces') :
    traces.flatten.Perm traces'.flatten := by
  obtain ⟨moved, order, inside⟩ := same
  refine order.flatten.trans ?_
  clear order
  induction inside with
  | nil => exact List.Perm.refl _
  | cons first _ ih => exact first.append ih

section Rule
variable (host : Host) (moeShareFloor occFloor : Float)

theorem kernelRecords_perm {traces traces' : List (List Event)}
    (same : Rearranged traces traces') :
    (kernelRecords host traces = none ∧ kernelRecords host traces' = none) ∨
      ∃ records records', kernelRecords host traces = some records ∧
        kernelRecords host traces' = some records' ∧ records.Perm records' := by
  have events := flatten_perm same
  unfold kernelRecords
  rw [OptionTraverse.mapM_eq, OptionTraverse.mapM_eq, ← events.all_eq]
  split
  · right
    exact ⟨_, _, rfl, rfl, (events.filterMap _).filterMap _⟩
  · left
    exact ⟨rfl, rfl⟩

def verdictOf (records : List KernelRecord) : Verdict :=
  cascade moeShareFloor occFloor (fusedShare records) (estimates records).min?
    (Binary64.least? ((fusedRows records).flatMap fun r => r.2.derivedOccPct))

theorem task29_eq (traces : List (List Event)) :
    (task29 host moeShareFloor occFloor traces).map (fun r => (r.verdict, r.fusedMoeShare)) =
      (kernelRecords host traces).bind fun records =>
        if records = [] ∨ labelsRead host traces = false then none
        else some (verdictOf moeShareFloor occFloor records, fusedShare records) := by
  unfold task29
  cases kernelRecords host traces with
  | none => rfl
  | some records =>
    simp only [Option.bind_some]
    split
    · rfl
    · rw [min?_congr (@mem_estimates records)]
      rfl

/-- No derived value is a NaN, and none that suffices meets a missing or low estimate. -/
def EstimateAgrees (records : List KernelRecord) : Prop :=
  (∀ d ∈ derivedValues records, d.isNaN = false) ∧
  (derivedValues records = [] ∨ (∃ d ∈ derivedValues records, d < occFloor) ∨
    (estimates records ≠ [] ∧
      ∀ e ∈ estimates records, (HostNumber.int e).below occFloor = false))

section Verdicts
variable {moeShareFloor occFloor} {records : List KernelRecord}

theorem rank_of_numbers (numbers : ∀ d ∈ derivedValues records, d.isNaN = false) {d : Float}
    (member : d ∈ derivedValues records) : Binary64.rank d ≠ none := by
  rw [ne_eq, Binary64.rank_none_iff, numbers d member]
  exact Bool.false_ne_true

theorem least_derived (numbers : ∀ d ∈ derivedValues records, d.isNaN = false)
    (some' : derivedValues records ≠ []) :
    ∃ d, Binary64.least? ((fusedRows records).flatMap fun r => r.2.derivedOccPct) = some d ∧
      d ∈ derivedValues records ∧ ∀ x ∈ derivedValues records, d ≤ x := by
  cases found : Binary64.least? ((fusedRows records).flatMap fun r => r.2.derivedOccPct) with
  | none =>
    rw [Binary64.least?_none_iff] at found
    obtain ⟨d, member⟩ := List.exists_mem_of_ne_nil _ some'
    rw [← mem_derivedValues, found] at member
    cases member
  | some d =>
    have member := (mem_derivedValues d).mp (Binary64.least?_mem found)
    refine ⟨d, rfl, member, fun x inValues => ?_⟩
    exact Binary64.least?_le found (rank_of_numbers numbers member) x
      ((mem_derivedValues x).mpr inValues) (rank_of_numbers numbers inValues)

theorem low_derived_iff (numbers : ∀ d ∈ derivedValues records, d.isNaN = false) :
    ((Binary64.least? ((fusedRows records).flatMap fun r => r.2.derivedOccPct)).any
      fun d => d < occFloor) = true ↔ ∃ d ∈ derivedValues records, d < occFloor := by
  by_cases some' : derivedValues records = []
  · have none : (fusedRows records).flatMap (fun r => r.2.derivedOccPct) = [] := by
      refine List.eq_nil_iff_forall_not_mem.mpr fun d member => ?_
      rw [mem_derivedValues, some'] at member
      cases member
    rw [none, some']
    simp [Binary64.least?]
  · obtain ⟨d, found, member, least⟩ := least_derived numbers some'
    rw [found, Option.any_some, decide_eq_true_eq]
    constructor
    · exact fun low => ⟨d, member, low⟩
    · rintro ⟨x, inValues, low⟩
      exact Binary64.lt_chain (least x inValues) low

/-- Without a NaN the verdict depends on the share's side and on what occurs. -/
theorem verdictOf_eq (numbers : ∀ d ∈ derivedValues records, d.isNaN = false)
    (reached : ¬ fusedShare records < moeShareFloor) :
    ((∃ d ∈ derivedValues records, d < occFloor) →
      verdictOf moeShareFloor occFloor records = .gapCandidateUnmeasured) ∧
    ((¬ ∃ d ∈ derivedValues records, d < occFloor) →
      verdictOf moeShareFloor occFloor records =
        rule occFloor ((estimates records).min?.map .int)) := by
  unfold verdictOf cascade
  rw [if_neg reached]
  constructor
  · intro low
    rw [if_pos ((low_derived_iff numbers).mpr low)]
  · intro high
    rw [if_neg fun low => high ((low_derived_iff numbers).mp low)]
    cases (estimates records).min? <;> rfl

theorem below_of_le {e f : Int} (le : e ≤ f) (low : (HostNumber.int f).below occFloor = true) :
    (HostNumber.int e).below occFloor = true := by
  have values : (e : ℚ) ≤ f := by exact_mod_cast le
  unfold HostNumber.below HostNumber.compareInt at low ⊢
  rw [beq_iff_eq] at low ⊢
  exact Binary64.compareRat_lt values low

theorem rule_iff (reached : ¬ fusedShare records < moeShareFloor) :
    (∃ occ, Occupancy records occ ∧
        verdictOf moeShareFloor occFloor records = rule occFloor occ) ↔
      EstimateAgrees occFloor records := by
  constructor
  · rintro ⟨occ, holds, same⟩
    by_cases empty : derivedValues records = []
    · refine ⟨fun d member => ?_, Or.inl empty⟩
      rw [empty] at member
      cases member
    obtain ⟨d, rfl, least⟩ : ∃ d, occ = some (.float d) ∧ ∀ x ∈ derivedValues records, d ≤ x := by
      match occ, holds with
      | none, both => exact absurd both.1 empty
      | some (.int e), both => exact absurd both.1 empty
      | some (.float d), both => exact ⟨d, rfl, both.2⟩
    have numbers : ∀ x ∈ derivedValues records, x.isNaN = false := by
      intro x member
      have number := (Binary64.rank_of_le (least x member)).2
      rwa [ne_eq, Binary64.rank_none_iff, Bool.not_eq_true] at number
    refine ⟨numbers, Or.inr ?_⟩
    by_cases low : ∃ x ∈ derivedValues records, x < occFloor
    · exact Or.inl low
    right
    have inValues : d ∈ derivedValues records := holds.1
    have stops : rule occFloor (some (.float d)) = .stopNoOccupancyGap := by
      have high : ¬ d < occFloor := fun less => low ⟨d, inValues, less⟩
      simp [rule, HostNumber.below, high]
    rw [(verdictOf_eq numbers reached).2 low, stops] at same
    cases found : (estimates records).min? with
    | none =>
      rw [found] at same
      cases same
    | some e =>
      obtain ⟨inList, smallest⟩ := List.min?_eq_some_iff.mp found
      refine ⟨List.ne_nil_of_mem inList, fun f member => ?_⟩
      by_contra below
      rw [Bool.not_eq_false] at below
      rw [found] at same
      simp [rule, below_of_le (smallest f member) below] at same
  · rintro ⟨numbers, agrees⟩
    by_cases empty : derivedValues records = []
    · have none : ¬ ∃ d ∈ derivedValues records, d < occFloor := by simp [empty]
      refine ⟨(estimates records).min?.map .int, ?_, (verdictOf_eq numbers reached).2 none⟩
      cases found : (estimates records).min? with
      | none => exact ⟨empty, List.min?_eq_none_iff.mp found⟩
      | some e =>
        obtain ⟨inList, smallest⟩ := List.min?_eq_some_iff.mp found
        exact ⟨empty, inList, smallest⟩
    obtain ⟨d, _, inValues, least⟩ := least_derived numbers empty
    refine ⟨some (.float d), ⟨inValues, least⟩, ?_⟩
    by_cases low : ∃ x ∈ derivedValues records, x < occFloor
    · rw [(verdictOf_eq numbers reached).1 low]
      obtain ⟨x, member, less⟩ := low
      have below : d < occFloor := Binary64.lt_chain (least x member) less
      simp [rule, HostNumber.below, below]
    · obtain ⟨some', high⟩ := (agrees.resolve_left empty).resolve_left low
      have notBelow : ¬ d < occFloor := fun less => low ⟨d, inValues, less⟩
      rw [(verdictOf_eq numbers reached).2 low]
      cases found : (estimates records).min? with
      | none => exact absurd (List.min?_eq_none_iff.mp found) some'
      | some e =>
        have inList := (List.min?_eq_some_iff.mp found).1
        have notLow := high e inList
        have estimated : rule occFloor (some (.int e)) = .stopNoOccupancyGap := by
          simp [rule, notLow]
        have derived : rule occFloor (some (.float d)) = .stopNoOccupancyGap := by
          simp [rule, HostNumber.below, notBelow]
        rw [Option.map_some, estimated, derived]

theorem verdictOf_perm {records' : List KernelRecord} (same : records.Perm records')
    (agrees : fusedShare records < moeShareFloor ∨ EstimateAgrees occFloor records)
    (side : fusedShare records' < moeShareFloor ↔ fusedShare records < moeShareFloor) :
    verdictOf moeShareFloor occFloor records' = verdictOf moeShareFloor occFloor records := by
  have values : (derivedValues records).Perm (derivedValues records') :=
    (same.filter _).filterMap _
  by_cases below : fusedShare records < moeShareFloor
  · unfold verdictOf cascade
    rw [if_pos below, if_pos (side.mpr below)]
  · have numbers := (agrees.resolve_left below).1
    have numbers' : ∀ d ∈ derivedValues records', d.isNaN = false :=
      fun d member => numbers d (values.mem_iff.mpr member)
    have reached := mt side.mp below
    have lows : (∃ d ∈ derivedValues records', d < occFloor) ↔
        ∃ d ∈ derivedValues records, d < occFloor := by
      simp only [values.mem_iff]
    have est : (estimates records').min? = (estimates records).min? :=
      min?_congr fun e => (((same.filter _).filterMap _).mem_iff).symm
    by_cases low : ∃ d ∈ derivedValues records, d < occFloor
    · rw [(verdictOf_eq numbers below).1 low, (verdictOf_eq numbers' reached).1 (lows.mpr low)]
    · rw [(verdictOf_eq numbers below).2 low, (verdictOf_eq numbers' reached).2 (mt lows.mp low),
        est]

theorem stop_iff : verdictOf moeShareFloor occFloor records = .stopShareBelowFloor ↔
    fusedShare records < moeShareFloor := by
  unfold verdictOf cascade
  split
  · rename_i below
    simp [below]
  · rename_i reached
    simp only [reached, iff_false]
    split
    · exact Verdict.noConfusion
    · split
      · exact Verdict.noConfusion
      · split <;> exact Verdict.noConfusion

end Verdicts

/-- What is documented of the verdict: the rule on the reported share, in every order. -/
def FollowsRule (traces : List (List Event)) : Prop :=
  ∃ report records, task29 host moeShareFloor occFloor traces = some report ∧
    kernelRecords host traces = some records ∧
    (report.fusedMoeShare < moeShareFloor → report.verdict = .stopShareBelowFloor) ∧
    (¬ report.fusedMoeShare < moeShareFloor →
      ∃ occ, Occupancy records occ ∧ report.verdict = rule occFloor occ) ∧
    ∀ traces', Rearranged traces traces' →
      (task29 host moeShareFloor occFloor traces').map Task29.verdict = some report.verdict

variable {host} in
theorem task29_some {traces : List (List Event)} {records : List KernelRecord}
    (read : kernelRecords host traces = some records) (some' : records ≠ [])
    (labels : labelsRead host traces = true) :
    ∃ report, task29 host moeShareFloor occFloor traces = some report ∧
      report.verdict = verdictOf moeShareFloor occFloor records ∧
      report.fusedMoeShare = fusedShare records := by
  have paired := task29_eq host moeShareFloor occFloor traces
  rw [read, Option.bind_some, if_neg (by simp [some', labels]), Option.map_eq_some_iff] at paired
  obtain ⟨report, audited, both⟩ := paired
  obtain ⟨verdict, share⟩ := Prod.mk.inj both
  exact ⟨report, audited, verdict, share⟩

variable {host} {moeShareFloor occFloor} in
theorem of_task29 {traces : List (List Event)} {records : List KernelRecord} {report : Task29}
    (read : kernelRecords host traces = some records)
    (audited : task29 host moeShareFloor occFloor traces = some report) :
    records ≠ [] ∧ labelsRead host traces = true ∧
      report.verdict = verdictOf moeShareFloor occFloor records ∧
      report.fusedMoeShare = fusedShare records := by
  have paired := task29_eq host moeShareFloor occFloor traces
  rw [audited, read, Option.bind_some, Option.map_some] at paired
  split at paired
  · cases paired
  · rename_i accepted
    obtain ⟨some', labels⟩ := not_or.mp accepted
    obtain ⟨verdict, share⟩ := Prod.mk.inj (Option.some_inj.mp paired)
    exact ⟨some', Bool.not_eq_false _ ▸ labels, verdict, share⟩

end Rule

def timed (name : String) (dur : Float) : KernelRecord := ⟨name, dur, 0, none, none⟩

/-- The order of two kernels moves the share across a floor of 0.820313. -/
example :
    fusedShare [timed "a" 4.4, timed "b" 0.2, timed "exl3_moe" 21] = 0.820312 ∧
      fusedShare [timed "a" 4.4, timed "exl3_moe" 21, timed "b" 0.2] = 0.820313 := by
  decide +kernel

/-- One fused kernel with a derived occupancy of two thirds and the estimate Kineto reports for
    kernels without shared memory. -/
def artefactEvent : Event :=
  .obj [("cat", .str "kernel"), ("name", .str "exl3_moe_kernel"), ("dur", .int 10),
    ("args", .obj [("est. achieved occupancy %", .int 0), ("warps per SM", .int 32),
      ("block", .arr [.int 256, .int 1, .int 1]),
      ("occupancy", .obj [("blockLimitWarps", .int 6), ("blockLimitSharedMem", .int 0)])])]

def plainHost : Host := ⟨fun _ => "", fun _ => none⟩

end KernelShare
