import Glm53Overlay.ExpertsWindow.Smoke
import Glm53Overlay.ExpertsWindow.ReceiptEvidence

/-!
A smoke has no failures exactly when its evidence is complete: for every declared request and
every round one clean result and no other, and a silent scan of both ranks.
-/
namespace ExpertsWindow

abbrev Requests := PyDict String (Option String)

/-- One clean result of a request: `want` is the function it must call, if any. -/
structure ResultEvidence (want : Option String) (key : String × Int) (result : Members) :
    Prop where
  name : PyJson.get result "name" = .str key.1
  round : PyJson.get result "round" = .int key.2
  ok : PyJson.get result "ok" = .bool true
  noNan : PyJson.get result "nan" = .bool false
  function : PyJson.get result "expected_function" = functionValue want
  wantsTool : PyJson.get result "wants_tool" = .bool want.isSome
  required : PyJson.get result "tool_call_required" = .bool want.isSome
  args : PyJson.get result "tool_args_ok" = if want.isSome then .bool true else .null
  calls : PyJson.get result "n_tool_calls" = .int (if want.isSome then 1 else 0)

def grid (requests : Requests) (count : Int) : List (String × Int) :=
  requests.keys.flatMap fun name => (rounds count).map fun round => (name, round)

structure SmokeEvidence (requests : Requests) (smoke : Members) : Prop where
  ok : PyJson.get smoke "ok" = .bool true
  failed : (PyJson.get smoke "failed").equalsInt 0 = true
  noNan : PyJson.get smoke "any_nan" = .bool false
  results : ∃ count entries results, PyJson.get smoke "repeat" = .int count ∧ 0 < count ∧
    PyJson.get smoke "results" = .arr entries ∧
    PyJson.get smoke "requests" = .int entries.length ∧ entries.Perm (results.map .obj) ∧
    List.Forall₂ (fun key result => ∃ want, requests.get key.1 = some want ∧
      ResultEvidence want key result) (grid requests count) results
  logErrors : ∃ errors, PyJson.get smoke "log_errors" = .obj errors ∧
    ∀ node ∈ nodes, PyJson.get errors node = .arr []
  logFailures : ∃ failures, PyJson.get smoke "log_failures" = .obj failures ∧
    ∀ node ∈ nodes, PyJson.get failures node = .str ""

section Contract

theorem declared_first {contracts : List String} {entry : Json} {rest : List Json}
    {out requests : Requests}
    (declared : declareRequests contracts (entry :: rest) out = some requests) :
    ∃ name want, name ≠ "" ∧ declareRequests contracts rest (out.set name want) = some requests := by
  unfold declareRequests at declared
  split at declared
  · rename_i empty
    cases empty
  · rename_i first
    cases first
    split at declared
    · cases declared
    · rename_i given
      have named := fun empty => given (Or.inl empty)
      split at declared
      · split at declared
        · cases declared
        · exact ⟨_, none, named, declared⟩
      · rename_i called
        split at declared
        · cases declared
        · exact ⟨_, some called, named, declared⟩
      · cases declared
  · cases declared

theorem declared_keeps {contracts : List String} {P : Requests → Prop}
    (step : ∀ out name want, name ≠ "" → P out → P (out.set name want))
    {entries : List Json} {out requests : Requests} (start : P out)
    (declared : declareRequests contracts entries out = some requests) : P requests := by
  induction entries generalizing out with
  | nil =>
    unfold declareRequests at declared
    cases declared
    exact start
  | cons entry rest ih =>
    obtain ⟨name, want, named, later⟩ := declared_first declared
    exact ih (step out name want named start) later

theorem expected_named {script : Option SmokeModule} {requests : Requests}
    (expected : expectedRequests script = some requests) :
    requests.keys ≠ [] ∧ ∀ name ∈ requests.keys, name ≠ "" := by
  cases script with
  | none => cases expected
  | some script =>
    unfold expectedRequests at expected
    dsimp only at expected
    split at expected
    · obtain ⟨name, want, named, later⟩ := declared_first expected
      constructor
      · apply declared_keeps (P := fun out : Requests => out.keys ≠ []) ?_ ?_ later
        · intro out other asked _ _
          exact List.ne_nil_of_mem ((PyDict.mem_keys_set out other other asked).mpr (Or.inr rfl))
        · exact List.ne_nil_of_mem ((PyDict.mem_keys_set _ name name want).mpr (Or.inr rfl))
      · apply declared_keeps (P := fun out : Requests => ∀ name ∈ out.keys, name ≠ "") ?_ ?_
          expected
        · intro out other asked fresh kept k member
          rcases (PyDict.mem_keys_set out other k asked).mp member with old | same
          · exact kept k old
          · exact same ▸ fresh
        · intro k member
          cases member
    · cases expected

end Contract

theorem rounds_nodup (count : Int) : (rounds count).Nodup := by
  apply List.nodup_range.map
  intro n m same
  dsimp only at same
  omega

theorem mem_rounds {count round : Int} : round ∈ rounds count ↔ 1 ≤ round ∧ round ≤ count := by
  simp only [rounds, List.mem_map, List.mem_range]
  constructor
  · rintro ⟨n, below, same⟩
    omega
  · intro range
    exact ⟨(round - 1).toNat, by omega, by omega⟩

theorem mem_grid {requests : Requests} {count : Int} {key : String × Int} :
    key ∈ grid requests count ↔ key.1 ∈ requests.keys ∧ 1 ≤ key.2 ∧ key.2 ≤ count := by
  obtain ⟨name, round⟩ := key
  simp only [grid, List.mem_flatMap, List.mem_map, mem_rounds, Prod.mk.injEq]
  constructor
  · rintro ⟨_, known, _, range, rfl, rfl⟩
    exact ⟨known, range⟩
  · rintro ⟨known, range⟩
    exact ⟨name, known, round, range, rfl, rfl⟩

theorem grid_nodup (requests : Requests) (count : Int) : (grid requests count).Nodup := by
  rw [grid, List.nodup_flatMap]
  constructor
  · intro name _
    apply (rounds_nodup count).map
    intro a b same
    exact (Prod.mk.inj same).2
  · apply List.Pairwise.imp ?_ requests.distinct
    intro a b differ key inFirst inSecond
    obtain ⟨_, _, first⟩ := List.mem_map.mp inFirst
    obtain ⟨_, _, second⟩ := List.mem_map.mp inSecond
    exact differ ((congrArg Prod.fst first).trans (congrArg Prod.fst second).symm)

section Results
variable (reprOf : Json → String)

theorem resultKey_iff {entry : Json} {key : String × Int} :
    resultKey entry = some key ↔ ∃ result, entry = .obj result ∧
      PyJson.get result "name" = .str key.1 ∧ PyJson.get result "round" = .int key.2 := by
  constructor
  · intro found
    cases entry with
    | obj result =>
      unfold resultKey at found
      dsimp only at found
      split at found
      · rename_i name round named numbered
        cases found
        exact ⟨result, rfl, named, numbered⟩
      · cases found
    | _ => cases found
  · rintro ⟨result, rfl, named, numbered⟩
    simp [resultKey, named, numbered]

theorem flagProblems_iff {index : Nat} {result : Members} :
    flagProblems reprOf index result = [] ↔
      (∃ name, PyJson.get result "name" = .str name ∧ name ≠ "") ∧
      (∃ round, PyJson.get result "round" = .int round ∧ 1 ≤ round) ∧
      PyJson.get result "ok" = .bool true ∧ PyJson.get result "nan" = .bool false := by
  have text : ∀ v : Json, v.asText.any (· ≠ "") = true ↔ ∃ name, v = .str name ∧ name ≠ "" := by
    intro v
    cases v <;> simp [PyJson.asText]
  simp only [flagProblems, List.append_eq_nil_iff, flag_eq_nil, Bool.not_eq_false',
    PyJson.isBool_iff, text, Option.any_eq_true, PyJson.plainInt_eq_some, decide_eq_true_eq,
    and_assoc]

theorem isFunction_iff {want : Option String} {value : Json} :
    isFunction want value = true ↔ value = functionValue want := by
  cases want <;> cases value <;> simp [isFunction, functionValue, PyJson.isText, PyJson.isNull]

theorem contractProblems_iff {index : Nat} {result : Members} {calls : Int}
    {want : Option String} :
    contractProblems reprOf index result calls want = [] ↔
      PyJson.get result "expected_function" = functionValue want ∧
      PyJson.get result "wants_tool" = .bool want.isSome ∧
      PyJson.get result "tool_call_required" = .bool want.isSome ∧
      PyJson.get result "tool_args_ok" = (if want.isSome then .bool true else .null) ∧
      calls = if want.isSome then 1 else 0 := by
  cases want with
  | none => simp [contractProblems, isFunction_iff]
  | some called => simp [contractProblems, isFunction_iff]

theorem clean_keyed {expected : Option Requests} {index : Nat} {entry : Json}
    (clean : resultFailures reprOf expected index entry = []) :
    ∃ key, resultKey entry = some key := by
  cases entry with
  | obj result =>
    have flags : flagProblems reprOf index result = [] := by
      unfold resultFailures at clean
      dsimp only at clean
      split at clean
      · exact (List.append_eq_nil_iff.mp clean).1
      · exact (List.append_eq_nil_iff.mp clean).1
    obtain ⟨⟨name, named, _⟩, ⟨round, numbered, _⟩, _, _⟩ := (flagProblems_iff reprOf).mp flags
    exact ⟨(name, round), resultKey_iff.mpr ⟨result, rfl, named, numbered⟩⟩
  | _ => exact absurd clean (List.cons_ne_nil _ _)

theorem resultFailures_iff {requests : Requests} {key : String × Int} {want : Option String}
    (known : requests.get key.1 = some want) (named : key.1 ≠ "") (positive : 1 ≤ key.2)
    {index : Nat} {result : Members} :
    (resultKey (.obj result) = some key ∧
      resultFailures reprOf (some requests) index (.obj result) = []) ↔
      ResultEvidence want key result := by
  constructor
  · rintro ⟨keyed, clean⟩
    obtain ⟨_, shape, name, round⟩ := resultKey_iff.mp keyed
    cases shape
    have declared : declaredFor (some requests) result = some want := by
      simp only [declaredFor, name, known]
    unfold resultFailures at clean
    dsimp only at clean
    rw [declared] at clean
    split at clean
    · rename_i calls counted
      obtain ⟨flags, contract⟩ := List.append_eq_nil_iff.mp clean
      obtain ⟨_, _, ok, noNan⟩ := (flagProblems_iff reprOf).mp flags
      obtain ⟨function, wants, required, args, same⟩ := (contractProblems_iff reprOf).mp contract
      have read : PyJson.get result "n_tool_calls" = .int calls := by
        rw [← PyJson.plainInt_eq_some]
        exact (Option.filter_eq_some_iff.mp counted).1
      exact ⟨name, round, ok, noNan, function, wants, required, args, same ▸ read⟩
    · exact absurd (List.append_eq_nil_iff.mp clean).2 (List.cons_ne_nil _ _)
  · intro evidence
    have keyed : resultKey (.obj result) = some key :=
      resultKey_iff.mpr ⟨result, rfl, evidence.name, evidence.round⟩
    have declared : declaredFor (some requests) result = some want := by
      simp only [declaredFor, evidence.name, known]
    have flags : flagProblems reprOf index result = [] :=
      (flagProblems_iff reprOf).mpr ⟨⟨key.1, evidence.name, named⟩, ⟨key.2, evidence.round,
        positive⟩, evidence.ok, evidence.noNan⟩
    have counted : (PyJson.get result "n_tool_calls").plainInt.filter (0 ≤ ·) =
        some (if want.isSome then 1 else 0) := by
      rw [evidence.calls]
      cases want <;> rfl
    have contract : contractProblems reprOf index result (if want.isSome then 1 else 0) want = [] :=
      (contractProblems_iff reprOf).mpr
        ⟨evidence.function, evidence.wantsTool, evidence.required, evidence.args, rfl⟩
    refine ⟨keyed, ?_⟩
    simp only [resultFailures, counted, declared, flags, contract, List.append_nil]

theorem coverageProblems_iff {requests : Requests} {count : Int} {results : List Json} :
    coverageProblems requests count (seenResults results) = [] ↔
      ∀ key ∈ grid requests count, ((seenResults results).get key).getD 0 = 1 := by
  simp only [coverageProblems, List.flatMap_eq_nil_iff, flag_eq_nil, ne_eq,
    decide_eq_false_iff_not, not_not]
  constructor
  · intro covered key member
    obtain ⟨known, low, high⟩ := mem_grid.mp member
    exact covered key.1 known key.2 (mem_rounds.mpr ⟨low, high⟩)
  · intro covered name known round member
    exact covered (name, round) (mem_grid.mpr ⟨known, mem_rounds.mp member⟩)

theorem extraKeyProblem_iff {requests : Requests} {count : Int} {results : List Json} :
    extraKeyProblem reprOf requests count (seenResults results) = [] ↔
      ∀ key ∈ results.filterMap resultKey, key ∈ grid requests count := by
  have sorted : extraKeys requests count (seenResults results) = [] ↔
      ((seenResults results).keys.filter fun key =>
        key.1 ∉ requests.keys || !(1 ≤ key.2 && key.2 ≤ count)) = [] := by
    have same := List.mergeSort_perm ((seenResults results).keys.filter fun key =>
      key.1 ∉ requests.keys || !(1 ≤ key.2 && key.2 ≤ count)) keyLe
    constructor
    · intro empty
      exact (same.symm.trans (.of_eq empty)).eq_nil
    · intro empty
      exact (same.trans (.of_eq empty)).eq_nil
  unfold extraKeyProblem
  rw [flag_eq_nil, decide_eq_false_iff_not, not_not, sorted, List.filter_eq_nil_iff]
  simp only [seenResults, PyDict.mem_keys_tally, mem_grid]
  constructor
  · intro none key member
    simpa [and_assoc] using none key member
  · intro all key member
    simpa [and_assoc] using all key member

theorem one_per_round_iff {requests : Requests} (declared : ∀ name ∈ requests.keys, name ≠ "")
    (count : Int) (entries : List Json) :
    ((entries.zipIdx.flatMap fun entry =>
        resultFailures reprOf (some requests) entry.2 entry.1) = [] ∧
      coverageProblems requests count (seenResults entries) = [] ∧
      extraKeyProblem reprOf requests count (seenResults entries) = []) ↔
      ∃ results : List Members, entries.Perm (results.map .obj) ∧
        List.Forall₂ (fun key result => ∃ want, requests.get key.1 = some want ∧
          ResultEvidence want key result) (grid requests count) results := by
  rw [coverageProblems_iff, extraKeyProblem_iff, List.flatMap_eq_nil_iff]
  constructor
  · rintro ⟨clean, covered, only⟩
    have cleanAt : ∀ entry ∈ entries, ∃ index,
        resultFailures reprOf (some requests) index entry = [] := by
      intro entry member
      obtain ⟨index, place⟩ := List.mem_iff_getElem?.mp member
      exact ⟨index, clean (entry, index) (List.mk_mem_zipIdx_iff_getElem?.mpr place)⟩
    have keyed : ∀ entry ∈ entries, ∃ key ∈ grid requests count, resultKey entry = some key := by
      intro entry member
      obtain ⟨index, silent⟩ := cleanAt entry member
      obtain ⟨key, found⟩ := clean_keyed reprOf silent
      exact ⟨key, only key (List.mem_filterMap.mpr ⟨entry, member, found⟩), found⟩
    obtain ⟨ys, same, placed⟩ := PlacedOnce.listed_of_once (grid_nodup requests count) keyed
      (fun key member => by
        rw [← PyDict.get_tally]
        exact covered key member)
    have evident : ∀ key ∈ grid requests count, ∀ y ∈ ys, resultKey y = some key →
        ∃ result, y = .obj result ∧ ∃ want, requests.get key.1 = some want ∧
          ResultEvidence want key result := by
      intro key inGrid y member found
      obtain ⟨known, positive, _⟩ := mem_grid.mp inGrid
      obtain ⟨index, silent⟩ := cleanAt y (same.mem_iff.mpr member)
      obtain ⟨result, shape, _⟩ := resultKey_iff.mp found
      cases asked : requests.get key.1 with
      | none => exact absurd known ((PyDict.get_eq_none_iff requests key.1).mp asked)
      | some want =>
        subst shape
        exact ⟨result, rfl, want, rfl, (resultFailures_iff reprOf asked (declared _ known)
          positive).mp ⟨found, silent⟩⟩
    obtain ⟨results, listed, own⟩ := PlacedOnce.listed_as .obj placed evident
    exact ⟨results, listed ▸ same, own⟩
  · rintro ⟨results, same, own⟩
    have placed : List.Forall₂ (fun key y => resultKey y = some key) (grid requests count)
        (results.map PyJson.obj) := by
      rw [List.forall₂_map_right_iff]
      apply own.imp
      rintro key result ⟨want, _, evidence⟩
      exact resultKey_iff.mpr ⟨result, rfl, evidence.name, evidence.round⟩
    obtain ⟨keyed, once⟩ := PlacedOnce.once_of_listed (grid_nodup requests count) same placed
    refine ⟨?_, ?_, ?_⟩
    · intro entry member
      have inResults := same.mem_iff.mp (List.fst_mem_of_mem_zipIdx member)
      obtain ⟨result, inList, shape⟩ := List.mem_map.mp inResults
      obtain ⟨key, inGrid, want, known, evidence⟩ := PlacedOnce.listed_from own inList
      obtain ⟨named, positive, _⟩ := mem_grid.mp inGrid
      rw [← shape]
      exact ((resultFailures_iff reprOf known (declared _ named) positive).mpr evidence).2
    · intro key member
      rw [seenResults, PyDict.get_tally]
      exact once key member
    · intro key member
      obtain ⟨entry, inEntries, found⟩ := List.mem_filterMap.mp member
      obtain ⟨other, known, same⟩ := keyed entry inEntries
      rw [found] at same
      exact Option.some.inj same ▸ known

theorem logErrorProblems_iff {value : Json} :
    logErrorProblems reprOf value = [] ↔
      ∃ errors, value = .obj errors ∧ ∀ node ∈ nodes, PyJson.get errors node = .arr [] := by
  cases value with
  | obj errors =>
    simp only [logErrorProblems, List.flatMap_eq_nil_iff, PyJson.obj.injEq, exists_eq_left']
    apply forall₂_congr
    intro node _
    cases PyJson.get errors node with
    | arr found => cases found <;> simp
    | _ => simp
  | _ => simp [logErrorProblems]

theorem logFailureProblems_iff {value : Json} :
    logFailureProblems reprOf value = [] ↔
      ∃ failures, value = .obj failures ∧ ∀ node ∈ nodes, PyJson.get failures node = .str "" := by
  cases value with
  | obj failures =>
    simp only [logFailureProblems, List.flatMap_eq_nil_iff, PyJson.obj.injEq, exists_eq_left']
    apply forall₂_congr
    intro node _
    cases PyJson.get failures node <;> simp
  | _ => simp [logFailureProblems]

theorem grid_ne_nil {requests : Requests} (filled : requests.keys ≠ []) {count : Int}
    (positive : 0 < count) : grid requests count ≠ [] := by
  obtain ⟨name, member⟩ := List.exists_mem_of_ne_nil _ filled
  have first : (name, 1) ∈ grid requests count := mem_grid.mpr ⟨member, le_refl 1, by omega⟩
  exact List.ne_nil_of_mem first

theorem smokeFailures_iff (script : Option SmokeModule) (smoke : Json) :
    smokeFailures reprOf script smoke = [] ↔
      ∃ requests members, expectedRequests script = some requests ∧ smoke = .obj members ∧
        SmokeEvidence requests members := by
  cases smoke with
  | obj members =>
    simp only [smokeFailures, List.append_eq_nil_iff, flag_eq_nil, Bool.not_eq_false',
      PyJson.isBool_iff, Option.isNone_eq_false_iff, Option.any_eq_true, PyJson.plainInt_eq_some,
      decide_eq_true_eq, logErrorProblems_iff, logFailureProblems_iff, PyJson.obj.injEq]
    constructor
    · rintro ⟨⟨⟨⟨⟨⟨⟨⟨ok, failed⟩, noNan⟩, contract⟩, count, rep, positive⟩, total, asked, _⟩,
        results⟩, errors⟩, failures⟩
      obtain ⟨requests, expected⟩ := Option.isSome_iff_exists.mp contract
      have declared := (expected_named expected).2
      refine ⟨requests, members, expected, rfl, ok, failed, noNan, ?_, errors, failures⟩
      unfold resultsProblems at results
      split at results
      · rename_i entries held
        simp only [asked, rep, expected, PyJson.plainInt, List.append_eq_nil_iff, flag_eq_nil,
          ne_eq, decide_eq_false_iff_not, not_not] at results
        obtain ⟨⟨counted, clean⟩, covered, only⟩ := results
        obtain ⟨listed, same, own⟩ := (one_per_round_iff reprOf declared count entries).mp
          ⟨clean, covered, only⟩
        exact ⟨count, entries, listed, rep, positive, held, counted ▸ asked, same, own⟩
      · exact absurd results (List.cons_ne_nil _ _)
    · rintro ⟨requests, _, expected, rfl, evidence⟩
      obtain ⟨filled, declared⟩ := expected_named expected
      obtain ⟨count, entries, results, rep, positive, held, asked, same, own⟩ := evidence.results
      obtain ⟨clean, covered, only⟩ := (one_per_round_iff reprOf declared count entries).mpr
        ⟨results, same, own⟩
      have more : 0 < (entries.length : Int) := by
        have sizes : (grid requests count).length = entries.length := by
          rw [own.length_eq, same.length_eq, List.length_map]
        have one := List.length_pos_iff.mpr (grid_ne_nil filled positive)
        omega
      refine ⟨⟨⟨⟨⟨⟨⟨⟨evidence.ok, evidence.failed⟩, evidence.noNan⟩, by rw [expected]; rfl⟩,
        count, rep, positive⟩, _, asked, more⟩, ?_⟩, evidence.logErrors⟩, evidence.logFailures⟩
      rw [held, asked, rep, expected]
      simp [resultsProblems, PyJson.plainInt, clean, covered, only]
  | _ => simp [smokeFailures]

end Results
end ExpertsWindow
