import Mathlib
import Glm53Overlay.Library.SegmentedRange

/-!
The prefill indexer's gather workspace: how many entries the right-sized one has, and how a
batch is split into request groups that fit it and into query ranges that fit the logits budget.
Lengths and the byte budget are sizes; the workspace is any integer the entries come out as.
-/
namespace IndexerWorkspace
open SegmentedRange

inductive WorkspaceMode where
  | stock
  | rightsize
  deriving DecidableEq, Repr

inductive WorkspaceError where
  | mode (raw : String)
  | kpool (ratio : Int)
  | lengths (maxModelLen maxNumSeqs : Int)
  | notNarrower (entries stock ratio maxNumSeqs : Int)
  deriving DecidableEq, Repr

def WorkspaceError.message : WorkspaceError → String
  | .mode raw =>
    s!"GLM53_INDEXER_WORKSPACE must be exactly one of: stock rightsize (got: '{raw}')"
  | .kpool ratio =>
    s!"[glm53-indexer-workspace] rightsize requires GLM index_kpool > 1 (got {ratio})"
  | .lengths maxModelLen maxNumSeqs =>
    "[glm53-indexer-workspace] rightsize requires positive " ++
      s!"max_model_len/max_num_seqs (got {maxModelLen}/{maxNumSeqs})"
  | .notNarrower entries stock ratio maxNumSeqs =>
    "[glm53-indexer-workspace] rightsize does not narrow the stock " ++
      s!"workspace: computed={entries}, stock={stock}, " ++
      s!"index_kpool={ratio}, max_num_seqs={maxNumSeqs}"

def workspaceMode : Option String → Except WorkspaceError WorkspaceMode
  | none => .ok .stock
  | some raw =>
    if raw = "stock" then .ok .stock
    else if raw = "rightsize" then .ok .rightsize
    else .error (.mode raw)

/-- No speculative config, or none of its tokens set, counts as 0. -/
structure IndexerConfig where
  maxModelLen : Int
  maxNumSeqs : Int
  numSpeculativeTokens : Option Int

def maxPrefillBufferSize (cfg : IndexerConfig) : Int := cfg.maxModelLen * 40

/-- `-(-a // b)` with the source's flooring division. -/
def ceilDiv (a b : Int) : Int := -(Int.fdiv (-a) b)

def numSpec (cfg : IndexerConfig) : Int := cfg.numSpeculativeTokens.getD 0

def rightsizeEntries (cfg : IndexerConfig) (ratio : Int) : Int :=
  ceilDiv (cfg.maxModelLen + max 0 (numSpec cfg)) ratio * cfg.maxNumSeqs

def glm5nextWorkspaceEntries (raw : Option String) (cfg : IndexerConfig) (indexKpool : Int) :
    Except WorkspaceError Int := do
  let stock := maxPrefillBufferSize cfg
  let mode ← workspaceMode raw
  if mode = .stock then return stock
  if indexKpool ≤ 1 then throw (.kpool indexKpool)
  if cfg.maxModelLen ≤ 0 ∨ cfg.maxNumSeqs ≤ 0 then
    throw (.lengths cfg.maxModelLen cfg.maxNumSeqs)
  let entries := rightsizeEntries cfg indexKpool
  if stock ≤ entries then throw (.notNarrower entries stock indexKpool cfg.maxNumSeqs)
  return entries

structure Row where
  queryLen : Nat
  compressedLen : Nat
  queried : 1 ≤ queryLen

inductive SplitError where
  | rowExceeds (row : Nat) (workspace : Int)
  | chunkExceeds (chunk : Nat) (workspace : Int)
  deriving DecidableEq, Repr

def SplitError.message : SplitError → String
  | .rowExceeds row workspace =>
    s!"sparse-indexer row exceeds workspace: row={row}, workspace={workspace}"
  | .chunkExceeds chunk workspace =>
    s!"sparse-indexer chunk exceeds workspace: chunk={chunk}, workspace={workspace}"

structure Group where
  stop : Nat
  chunkM : Nat
  chunkN : Nat
  rest : List Row

variable (workspaceSize : Int) (maxLogitsElems : Nat)

/-- The inner loop: take rows while both budgets hold. -/
def grow (stop chunkM chunkN : Nat) : List Row → Group
  | [] => ⟨stop, chunkM, chunkN, []⟩
  | r :: rest =>
    let newM := chunkM + r.queryLen
    let newN := chunkN + r.compressedLen
    if (newN : Int) ≤ workspaceSize ∧ newM * newN ≤ maxLogitsElems then
      grow (stop + 1) newM newN rest
    else ⟨stop, chunkM, chunkN, r :: rest⟩

/-- One turn of the outer loop; a row that fits no budget is taken alone. -/
def takeGroup (start : Nat) (r : Row) (rest : List Row) : Except SplitError Group :=
  let grown := grow workspaceSize maxLogitsElems start 0 0 (r :: rest)
  let forced : Group := ⟨start + 1, r.queryLen, r.compressedLen, rest⟩
  if grown.stop = start ∧ workspaceSize < r.compressedLen then
    .error (.rowExceeds r.compressedLen workspaceSize)
  else
    let group := if grown.stop = start then forced else grown
    if workspaceSize < group.chunkN then .error (.chunkExceeds group.chunkN workspaceSize)
    else .ok group

def maxQ (chunkM chunkN : Nat) : Nat :=
  if 0 < chunkN then max 1 (maxLogitsElems / chunkN) else max 1 chunkM

def queries (rows : List Row) : Nat := (rows.map Row.queryLen).sum

def compressed (rows : List Row) : Nat := (rows.map Row.compressedLen).sum

theorem grow_spec (rows : List Row) : ∀ stop m n, ∃ k ≤ rows.length,
    grow workspaceSize maxLogitsElems stop m n rows = ⟨stop + k, m + queries (rows.take k),
      n + compressed (rows.take k), rows.drop k⟩ ∧
    (k ≠ 0 → ((n + compressed (rows.take k) : Nat) : Int) ≤ workspaceSize ∧
      (m + queries (rows.take k)) * (n + compressed (rows.take k)) ≤ maxLogitsElems) := by
  induction rows with
  | nil =>
    intro stop m n
    exact ⟨0, Nat.le_refl 0, rfl, fun some => absurd rfl some⟩
  | cons r rest ih =>
    intro stop m n
    unfold grow
    dsimp only
    split
    · rename_i fits
      obtain ⟨k, within, grown, budgets⟩ := ih (stop + 1) (m + r.queryLen) (n + r.compressedLen)
      have sums : m + r.queryLen + queries (rest.take k) =
          m + queries ((r :: rest).take (k + 1)) ∧
          n + r.compressedLen + compressed (rest.take k) =
            n + compressed ((r :: rest).take (k + 1)) := by
        simp only [queries, compressed, List.take_succ_cons, List.map_cons, List.sum_cons]
        omega
      rw [sums.1, sums.2] at grown budgets
      refine ⟨k + 1, Nat.succ_le_succ within, ?_, ?_⟩
      · rw [grown, List.drop_succ_cons, Nat.add_assoc, Nat.add_comm 1]
      · intro _
        cases k with
        | zero => simpa [queries, compressed] using fits
        | succ k => exact budgets (Nat.succ_ne_zero k)
    · exact ⟨0, Nat.zero_le _, rfl, fun some => absurd rfl some⟩

structure Taken (start : Nat) (rows : List Row) (k : Nat) (group : Group) : Prop where
  some : 0 < k
  inside : k ≤ rows.length
  stop : group.stop = start + k
  chunkM : group.chunkM = queries (rows.take k)
  chunkN : group.chunkN = compressed (rows.take k)
  rest : group.rest = rows.drop k
  fits : (compressed (rows.take k) : Int) ≤ workspaceSize
  shared : 1 < k → queries (rows.take k) * compressed (rows.take k) ≤ maxLogitsElems

variable {workspaceSize maxLogitsElems}

theorem takeGroup_ok {start : Nat} {r : Row} {rest : List Row} {group : Group}
    (found : takeGroup workspaceSize maxLogitsElems start r rest = .ok group) :
    ∃ k, Taken workspaceSize maxLogitsElems start (r :: rest) k group := by
  obtain ⟨k, inside, grown, budgets⟩ :=
    grow_spec workspaceSize maxLogitsElems (r :: rest) start 0 0
  unfold takeGroup at found
  rw [grown] at found
  simp only [Nat.zero_add] at found budgets
  split at found
  · cases found
  · by_cases still : start + k = start
    · rw [if_pos still] at found
      split at found
      · cases found
      · rename_i fits
        cases found
        exact ⟨1, Nat.one_pos, by simp, rfl, by simp [queries], by simp [compressed], by simp,
          by simpa [compressed] using fits, fun two => absurd two (Nat.lt_irrefl 1)⟩
    · have some : k ≠ 0 := by omega
      rw [if_neg still] at found
      split at found
      · cases found
      · cases found
        exact ⟨k, Nat.pos_of_ne_zero some, inside, rfl, rfl, rfl, rfl, (budgets some).1,
          fun _ => (budgets some).2⟩

/-- Only the row check raises; the assertion after it never does. -/
theorem takeGroup_error {start : Nat} {r : Row} {rest : List Row} {e : SplitError}
    (raised : takeGroup workspaceSize maxLogitsElems start r rest = .error e) :
    e = .rowExceeds r.compressedLen workspaceSize ∧ workspaceSize < r.compressedLen := by
  obtain ⟨k, _, grown, budgets⟩ := grow_spec workspaceSize maxLogitsElems (r :: rest) start 0 0
  unfold takeGroup at raised
  rw [grown] at raised
  simp only [Nat.zero_add] at raised budgets
  split at raised
  · rename_i exceeds
    cases raised
    exact ⟨rfl, exceeds.2⟩
  · rename_i holds
    by_cases still : start + k = start
    · rw [if_pos still] at raised
      split at raised
      · rename_i exceeds
        exact absurd ⟨still, exceeds⟩ holds
      · cases raised
    · have fits := (budgets (by omega)).1
      rw [if_neg still] at raised
      split at raised
      · rename_i exceeds
        exact absurd fits (not_le.mpr exceeds)
      · cases raised

theorem takeGroup_shorter {start : Nat} {r : Row} {rest : List Row} {group : Group}
    (found : takeGroup workspaceSize maxLogitsElems start r rest = .ok group) :
    group.rest.length < (r :: rest).length := by
  obtain ⟨k, taken⟩ := takeGroup_ok found
  have some := taken.some
  have inside := taken.inside
  rw [taken.rest, List.length_drop]
  omega

abbrev Chunk := (Nat × Nat) × (Nat × Nat)

variable (workspaceSize maxLogitsElems) in
def splitFrom (start : Nat) : List Row → Except SplitError (List Chunk)
  | [] => .ok []
  | r :: rest =>
    match _found : takeGroup workspaceSize maxLogitsElems start r rest with
    | .error e => .error e
    | .ok group =>
      match splitFrom group.stop group.rest with
      | .error e => .error e
      | .ok later =>
        let ranges := pieces group.chunkM (maxQ maxLogitsElems group.chunkM group.chunkN)
        .ok (ranges.map (fun range => ((start, group.stop), range)) ++ later)
termination_by rows => rows.length
decreasing_by exact takeGroup_shorter (by assumption)

def splitPrefillChunks (rows : List Row) (workspaceSize : Int) (maxLogitsBytes : Nat) :
    Except SplitError (List Chunk) :=
  splitFrom workspaceSize (maxLogitsBytes / 4) 0 rows

abbrev SliceRanges := (Nat × Nat) × List (Nat × Nat)

def sliceRows (rows : List Row) (slice : Nat × Nat) : List Row :=
  (rows.drop slice.1).take (slice.2 - slice.1)

/-- A group's ranges cover its queries, and the group and each range are within the budgets. -/
structure GroupFits (workspaceSize : Int) (maxLogitsElems : Nat) (rows : List Row)
    (g : SliceRanges) : Prop where
  emitted : g.2 ≠ []
  covered : Consecutive 0 (queries (sliceRows rows g.1)) g.2
  workspace : (compressed (sliceRows rows g.1) : Int) ≤ workspaceSize
  logits : ∀ range ∈ g.2, (range.2 - range.1) * compressed (sliceRows rows g.1) ≤ maxLogitsElems ∨
    range.2 - range.1 = 1
  shared : 1 < g.1.2 - g.1.1 →
    queries (sliceRows rows g.1) * compressed (sliceRows rows g.1) ≤ maxLogitsElems

def ExactCover (workspaceSize : Int) (maxLogitsElems : Nat) (rows : List Row)
    (chunks : List Chunk) : Prop :=
  ∃ groups : List SliceRanges,
    chunks = groups.flatMap (fun g => g.2.map fun range => (g.1, range)) ∧
    Consecutive 0 rows.length (groups.map Prod.fst) ∧
    ∀ g ∈ groups, GroupFits workspaceSize maxLogitsElems rows g

theorem maxQ_positive (m n : Nat) : 0 < maxQ maxLogitsElems m n := by
  unfold maxQ
  split <;> omega

theorem maxQ_budget (m n : Nat) (range : Nat × Nat)
    (piece : range ∈ pieces m (maxQ maxLogitsElems m n)) :
    (range.2 - range.1) * n ≤ maxLogitsElems ∨ range.2 - range.1 = 1 := by
  have short := pieces_length_le m _ range piece
  have long := consecutive_nonempty (pieces_consecutive m _ (maxQ_positive m n)) piece
  unfold maxQ at short
  rcases Nat.eq_zero_or_pos n with zero | positive
  · left
    rw [zero, Nat.mul_zero]
    exact Nat.zero_le _
  · rw [if_pos positive] at short
    rcases Nat.lt_or_ge (maxLogitsElems / n) 1 with small | large
    · right
      omega
    · left
      rw [Nat.max_eq_right large] at short
      exact (Nat.mul_le_mul_right n short).trans (Nat.div_mul_le_self maxLogitsElems n)

theorem queries_positive {rows : List Row} (some : rows ≠ []) : 0 < queries rows := by
  cases rows with
  | nil => exact absurd rfl some
  | cons r rest =>
    have queried := r.queried
    simp only [queries, List.map_cons, List.sum_cons]
    omega

theorem compressed_mem {rows : List Row} {r : Row} (member : r ∈ rows) :
    r.compressedLen ≤ compressed rows :=
  List.le_sum_of_mem (List.mem_map_of_mem member)

theorem taken_fits {all : List Row} {start k : Nat} {group : Group}
    (taken : Taken workspaceSize maxLogitsElems start (all.drop start) k group) :
    GroupFits workspaceSize maxLogitsElems all ((start, group.stop),
      pieces group.chunkM (maxQ maxLogitsElems group.chunkM group.chunkN)) := by
  have slice : sliceRows all (start, group.stop) = (all.drop start).take k := by
    rw [sliceRows, taken.stop, Nat.add_sub_cancel_left]
  have covered : Consecutive 0 group.chunkM
      (pieces group.chunkM (maxQ maxLogitsElems group.chunkM group.chunkN)) :=
    pieces_consecutive group.chunkM _ (maxQ_positive group.chunkM group.chunkN)
  have some : 0 < group.chunkM := by
    rw [taken.chunkM]
    apply queries_positive
    intro none
    have length := congrArg List.length none
    rw [List.length_take, List.length_nil] at length
    have positive := taken.some
    have inside := taken.inside
    omega
  constructor
  · intro none
    dsimp only at none
    rw [none] at covered
    exact absurd covered (Nat.ne_of_lt some)
  · dsimp only
    rw [slice, ← taken.chunkM]
    exact covered
  · rw [slice]
    exact taken.fits
  · intro range piece
    rw [slice, ← taken.chunkN]
    exact maxQ_budget group.chunkM group.chunkN range piece
  · intro several
    dsimp only at several
    rw [taken.stop, Nat.add_sub_cancel_left] at several
    rw [slice]
    exact taken.shared several

theorem splitFrom_cover (all : List Row) (start : Nat) (rows : List Row)
    (suffix : rows = all.drop start) (inside : start ≤ all.length) (chunks : List Chunk)
    (found : splitFrom workspaceSize maxLogitsElems start rows = .ok chunks) :
    ∃ groups : List SliceRanges,
      chunks = groups.flatMap (fun g => g.2.map fun range => (g.1, range)) ∧
      Consecutive start all.length (groups.map Prod.fst) ∧
      ∀ g ∈ groups, GroupFits workspaceSize maxLogitsElems all g := by
  fun_induction splitFrom workspaceSize maxLogitsElems start rows generalizing chunks with
  | case1 start =>
    cases found
    have ended := congrArg List.length suffix
    rw [List.length_nil, List.length_drop] at ended
    exact ⟨[], rfl, show start = all.length by omega, fun _ none => absurd none List.not_mem_nil⟩
  | case2 => cases found
  | case3 => cases found
  | case4 start r rest group taking later continued ranges ih =>
    obtain ⟨k, taken⟩ := takeGroup_ok taking
    rw [suffix] at taken
    have bound := taken.inside
    rw [List.length_drop] at bound
    have stop := taken.stop
    have next : group.rest = all.drop group.stop := by
      rw [taken.rest, stop, List.drop_drop]
    obtain ⟨groups, parts, follow, fits⟩ := ih next (by omega) later continued
    cases found
    refine ⟨((start, group.stop), ranges) :: groups, by rw [List.flatMap_cons, parts], ?_, ?_⟩
    · refine ⟨rfl, ?_, follow⟩
      have some := taken.some
      dsimp only
      omega
    · intro g member
      rcases List.mem_cons.mp member with rfl | later
      · exact taken_fits taken
      · exact fits g later

theorem splitFrom_error (start : Nat) (rows : List Row) (e : SplitError)
    (raised : splitFrom workspaceSize maxLogitsElems start rows = .error e) :
    ∃ r ∈ rows, e = .rowExceeds r.compressedLen workspaceSize ∧
      workspaceSize < r.compressedLen := by
  fun_induction splitFrom workspaceSize maxLogitsElems start rows with
  | case1 => cases raised
  | case2 start r rest e' failed =>
    cases raised
    exact ⟨r, List.mem_cons_self, takeGroup_error failed⟩
  | case3 start r rest group taking e' failed ih =>
    cases raised
    obtain ⟨r', member, exceeds⟩ := ih failed
    obtain ⟨k, taken⟩ := takeGroup_ok taking
    rw [taken.rest] at member
    exact ⟨r', List.mem_of_mem_drop member, exceeds⟩
  | case4 => cases raised

theorem slices_hold (all : List Row) (r : Row) : ∀ (slices : List (Nat × Nat)) (lo : Nat),
    Consecutive lo all.length slices → r ∈ all.drop lo → ∃ s ∈ slices, r ∈ sliceRows all s := by
  intro slices
  induction slices with
  | nil =>
    intro lo ended member
    rw [show lo = all.length from ended, List.drop_length] at member
    exact absurd member List.not_mem_nil
  | cons s rest ih =>
    intro lo follow member
    obtain ⟨first, nonempty, later⟩ := follow
    rw [← first, ← List.take_append_drop (s.2 - s.1) (all.drop s.1), List.drop_drop,
      Nat.add_sub_cancel' nonempty.le] at member
    rcases List.mem_append.mp member with here | after
    · exact ⟨s, List.mem_cons_self, here⟩
    · obtain ⟨t, member, holds⟩ := ih s.2 later after
      exact ⟨t, List.mem_cons_of_mem s member, holds⟩

theorem cover_rows_fit {rows : List Row} {chunks : List Chunk}
    (cover : ExactCover workspaceSize maxLogitsElems rows chunks) {r : Row} (member : r ∈ rows) :
    (r.compressedLen : Int) ≤ workspaceSize := by
  obtain ⟨groups, _, follow, fits⟩ := cover
  obtain ⟨s, emitted, holds⟩ := slices_hold rows r _ 0 follow member
  obtain ⟨g, group, rfl⟩ := List.mem_map.mp emitted
  have single := compressed_mem holds
  have together := (fits g group).workspace
  omega

theorem split_raises_iff (rows : List Row) (workspaceSize : Int) (maxLogitsBytes : Nat) :
    (∃ e, splitPrefillChunks rows workspaceSize maxLogitsBytes = .error e) ↔
      ∃ r ∈ rows, workspaceSize < r.compressedLen := by
  constructor
  · rintro ⟨e, raised⟩
    obtain ⟨r, member, _, exceeds⟩ := splitFrom_error 0 rows e raised
    exact ⟨r, member, exceeds⟩
  · rintro ⟨r, member, exceeds⟩
    cases outcome : splitPrefillChunks rows workspaceSize maxLogitsBytes with
    | error e => exact ⟨e, rfl⟩
    | ok chunks =>
      have cover := splitFrom_cover rows 0 rows rfl (Nat.zero_le _) chunks outcome
      exact absurd (cover_rows_fit cover member) (not_le.mpr exceeds)

theorem ceilDiv_mono {a b ratio : Int} (positive : 0 < ratio) (less : a ≤ b) :
    ceilDiv a ratio ≤ ceilDiv b ratio := by
  unfold ceilDiv
  rw [Int.fdiv_eq_ediv_of_nonneg _ positive.le, Int.fdiv_eq_ediv_of_nonneg _ positive.le]
  exact Int.neg_le_neg (Int.ediv_le_ediv positive (Int.neg_le_neg less))

theorem ceilDiv_nonneg {a ratio : Int} (positive : 0 < ratio) (nonneg : 0 ≤ a) :
    0 ≤ ceilDiv a ratio := by
  have least := ceilDiv_mono positive nonneg
  simpa [ceilDiv] using least

theorem compressed_le_mul {rows : List Row} {bound : Int}
    (each : ∀ r ∈ rows, (r.compressedLen : Int) ≤ bound) :
    (compressed rows : Int) ≤ rows.length * bound := by
  induction rows with
  | nil => simp [compressed]
  | cons r rest ih =>
    have first := each r List.mem_cons_self
    have others := ih fun s member => each s (List.mem_cons_of_mem r member)
    have total : compressed (r :: rest) = r.compressedLen + compressed rest := rfl
    rw [total, List.length_cons]
    push_cast
    linarith

/-- Any rows out of an admissible batch are within the right-sized workspace. -/
theorem partial_sum_le {cfg : IndexerConfig} {kpool : Int} (ratio : 1 < kpool)
    (length : 0 < cfg.maxModelLen) {rows part : List Row} (sub : part.Sublist rows)
    (batch : (rows.length : Int) ≤ cfg.maxNumSeqs)
    (each : ∀ r ∈ rows, (r.compressedLen : Int) ≤
      ceilDiv (cfg.maxModelLen + numSpec cfg) kpool) :
    (compressed part : Int) ≤ rightsizeEntries cfg kpool := by
  have positive : 0 < kpool := by omega
  have larger := ceilDiv_mono positive
    (show cfg.maxModelLen + numSpec cfg ≤ cfg.maxModelLen + max 0 (numSpec cfg) by omega)
  have nonneg : 0 ≤ ceilDiv (cfg.maxModelLen + max 0 (numSpec cfg)) kpool :=
    ceilDiv_nonneg positive (by omega)
  have fewer : (part.length : Int) ≤ cfg.maxNumSeqs := by
    have less := sub.length_le
    omega
  calc (compressed part : Int)
      ≤ part.length * ceilDiv (cfg.maxModelLen + max 0 (numSpec cfg)) kpool :=
        compressed_le_mul fun r member => (each r (sub.subset member)).trans larger
    _ ≤ cfg.maxNumSeqs * ceilDiv (cfg.maxModelLen + max 0 (numSpec cfg)) kpool :=
        mul_le_mul_of_nonneg_right fewer nonneg
    _ = rightsizeEntries cfg kpool := mul_comm _ _

theorem entries_rightsize {cfg : IndexerConfig} {kpool entries : Int}
    (returned : glm5nextWorkspaceEntries (some "rightsize") cfg kpool = .ok entries) :
    entries = rightsizeEntries cfg kpool ∧ 1 < kpool ∧ 0 < cfg.maxModelLen := by
  unfold glm5nextWorkspaceEntries at returned
  simp only [workspaceMode, bind, Except.bind, pure, Except.pure, throw, throwThe,
    MonadExceptOf.throw, String.reduceEq, ↓reduceIte, reduceCtorEq] at returned
  split at returned
  · cases returned
  · split at returned
    · cases returned
    · split at returned
      · cases returned
      · cases returned
        exact ⟨rfl, by omega, by omega⟩

/-- The splitter raises just for a row beyond the workspace and else covers the batch exactly
    within the budgets; a batch the right-sized workspace is made for never raises and never
    outgrows it. -/
theorem prefill_chunks_exact_cover :
    (∀ (rows : List Row) (workspaceSize : Int) (maxLogitsBytes : Nat),
      ((∃ e, splitPrefillChunks rows workspaceSize maxLogitsBytes = .error e) ↔
        ∃ r ∈ rows, workspaceSize < r.compressedLen) ∧
      ∀ chunks, splitPrefillChunks rows workspaceSize maxLogitsBytes = .ok chunks →
        ExactCover workspaceSize (maxLogitsBytes / 4) rows chunks) ∧
    (∀ (cfg : IndexerConfig) (kpool entries : Int),
      glm5nextWorkspaceEntries (some "rightsize") cfg kpool = .ok entries →
        entries = rightsizeEntries cfg kpool) ∧
    ∀ (cfg : IndexerConfig) (kpool : Int) (rows : List Row) (maxLogitsBytes : Nat),
      1 < kpool → 0 < cfg.maxModelLen → (rows.length : Int) ≤ cfg.maxNumSeqs →
      (∀ r ∈ rows, (r.compressedLen : Int) ≤ ceilDiv (cfg.maxModelLen + numSpec cfg) kpool) →
      (∃ chunks, splitPrefillChunks rows (rightsizeEntries cfg kpool) maxLogitsBytes = .ok chunks) ∧
        ∀ part : List Row, part.Sublist rows →
          (compressed part : Int) ≤ rightsizeEntries cfg kpool := by
  refine ⟨?_, fun cfg kpool entries returned => (entries_rightsize returned).1, ?_⟩
  · intro rows workspaceSize maxLogitsBytes
    refine ⟨split_raises_iff rows workspaceSize maxLogitsBytes, ?_⟩
    intro chunks found
    exact splitFrom_cover rows 0 rows rfl (Nat.zero_le _) chunks found
  · intro cfg kpool rows maxLogitsBytes ratio length batch each
    refine ⟨?_, fun part sub => partial_sum_le ratio length sub batch each⟩
    cases outcome : splitPrefillChunks rows (rightsizeEntries cfg kpool) maxLogitsBytes with
    | ok chunks => exact ⟨chunks, rfl⟩
    | error e =>
      obtain ⟨r, member, exceeds⟩ := (split_raises_iff rows _ maxLogitsBytes).mp ⟨e, outcome⟩
      have alone := partial_sum_le ratio length (List.singleton_sublist.mpr member) batch each
      simp only [compressed, List.map_cons, List.map_nil, List.sum_cons, List.sum_nil,
        Nat.add_zero] at alone
      omega

def liveConfig : IndexerConfig := ⟨1000000, 4, some 7⟩

def longRow : Row := ⟨3584, 250002, by decide⟩

theorem live_batch_covered :
    (∃ chunks, splitPrefillChunks [longRow, longRow] (rightsizeEntries liveConfig 4)
        (512 * 1024 * 1024) = .ok chunks ∧
      ExactCover (rightsizeEntries liveConfig 4) (512 * 1024 * 1024 / 4) [longRow, longRow]
        chunks) ∧
      glm5nextWorkspaceEntries (some "rightsize") liveConfig 4 = .ok 1000008 ∧
      (compressed [longRow, longRow] : Int) ≤ rightsizeEntries liveConfig 4 := by
  obtain ⟨split, returned, rightsized⟩ := prefill_chunks_exact_cover
  have returns : glm5nextWorkspaceEntries (some "rightsize") liveConfig 4 = .ok 1000008 := by
    decide
  have value : (1000008 : Int) = rightsizeEntries liveConfig 4 := returned _ _ _ returns
  have each : ∀ r ∈ [longRow, longRow], (r.compressedLen : Int) ≤
      ceilDiv (liveConfig.maxModelLen + numSpec liveConfig) 4 := by decide
  obtain ⟨⟨chunks, found⟩, sums⟩ := rightsized liveConfig 4 [longRow, longRow]
    (512 * 1024 * 1024) (by decide) (by decide) (by decide) each
  exact ⟨⟨chunks, found, (split _ _ _).2 chunks found⟩, returns, sums _ (List.Sublist.refl _)⟩

end IndexerWorkspace
