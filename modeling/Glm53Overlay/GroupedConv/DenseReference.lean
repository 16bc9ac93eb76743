import Glm53Overlay.GroupedConv.Kernel

/-!
The kernel stores every output element once and with the dense path's value, which depends on the
rows of its own block only.
-/
namespace GroupedConv
variable {R : Type} [Semiring R]

theorem positionOf_eq {blockSize : Nat} (positive : 1 ≤ blockSize) (row : Nat) :
    positionOf blockSize row = row % blockSize := by
  unfold positionOf
  split
  · rename_i masked
    obtain ⟨k, rfl⟩ := (Nat.and_sub_one_eq_zero_iff_isPowerOfTwo (by omega)).mp masked
    exact Nat.and_two_pow_sub_one_eq_mod row k
  · rfl

/-- What one tap adds at a row: the row that lies `tap` above, in the same block. -/
def tapTerm (coefficient : Nat → Nat → Block R) (x : Nat → Block R) (blockSize row : Nat)
    (g l tap : Nat) : R :=
  if tap ≤ row % blockSize then coefficient row tap g l * x (row - tap) g l else 0

theorem addTaps_spec (coefficient : Nat → Nat → Block R) (x : Nat → Block R)
    {numRows blockSize : Nat} (positive : 1 ≤ blockSize) (taps : List Nat)
    (short : ∀ tap ∈ taps, tap ≤ numRows) :
    ∀ output : List (Block R), output.length = numRows →
      ∃ result, addTaps coefficient ((List.range numRows).map x) (positionOf blockSize) taps output =
        some result ∧ result.length = numRows ∧
        ∀ row < numRows, ∀ g l, result.getD row (fun _ _ => 0) g l =
          taps.foldl (fun acc tap => acc + tapTerm coefficient x blockSize row g l tap)
            (output.getD row (fun _ _ => 0) g l) := by
  induction taps with
  | nil =>
    intro output size
    exact ⟨output, rfl, size, fun _ _ _ _ => rfl⟩
  | cons tap rest ih =>
    intro output size
    obtain ⟨here, others⟩ := List.forall_mem_cons.mp short
    have shape : (List.replicate tap (fun _ _ => (0 : R)) ++ ((List.range numRows).map x).take
        (((List.range numRows).map x).length - tap)).length = output.length := by
      simp only [List.length_append, List.length_replicate, List.length_take, List.length_map,
        List.length_range, size]
      omega
    unfold addTaps
    dsimp only
    rw [if_neg (not_not.mpr shape)]
    obtain ⟨result, done, length, value⟩ := ih others _ ((List.length_mapIdx).trans size)
    refine ⟨result, done, length, ?_⟩
    intro row below g l
    rw [value row below g l, List.foldl_cons]
    congr 1
    have inside : row < output.length := size ▸ below
    have before : output.getD row (fun _ _ => 0) = output[row] := by
      rw [List.getD_eq_getElem?_getD, List.getElem?_eq_getElem inside]
      rfl
    rw [before, List.getD_eq_getElem?_getD, List.getElem?_mapIdx, List.getElem?_eq_getElem inside]
    simp only [Option.map_some, Option.getD_some]
    congr 1
    unfold tapTerm
    rw [positionOf_eq positive]
    split
    · rename_i reaches
      have above := Nat.le_trans reaches (Nat.mod_le row blockSize)
      have shifted : (List.replicate tap (fun _ _ => (0 : R)) ++ ((List.range numRows).map x).take
          (((List.range numRows).map x).length - tap)).getD row (fun _ _ => 0) = x (row - tap) := by
        rw [List.getD_eq_getElem?_getD, List.getElem?_append_right (by simpa using above),
          List.length_replicate, List.getElem?_take_of_lt (by simp; omega), List.getElem?_map,
          List.getElem?_range (by omega)]
        rfl
      rw [shifted, mul_one]
    · rw [mul_zero]

section Values
variable (t : Tensors R) (groupSize : Nat)

def coefficientOf (row tap : Nat) : Block R := fun g l =>
  t.base (tap * t.baseStrideTap + (g * groupSize + l)) +
    t.delta (row * t.deltaStrideRow + tap * t.deltaStrideTap + g)

def blockOf (row : Nat) : Block R := fun g l => t.x (row * t.xStrideRow + (g * groupSize + l))

def value (blockSize taps row channel : Nat) : R :=
  (List.range' 1 (taps - 1)).foldl (fun acc tap => acc + tapTerm (coefficientOf t groupSize)
      (blockOf t groupSize) blockSize row (channel / groupSize) (channel % groupSize) tap)
    (coefficientOf t groupSize row 0 (channel / groupSize) (channel % groupSize) *
      blockOf t groupSize row (channel / groupSize) (channel % groupSize))

theorem accumulate_eq {numChannels blockSize taps row channel : Nat}
    (inside : channel < numChannels) :
    accumulate t numChannels blockSize groupSize taps row channel =
      value t groupSize blockSize taps row channel := by
  have whole : channel / groupSize * groupSize + channel % groupSize = channel :=
    Nat.div_add_mod' channel groupSize
  unfold accumulate value
  simp only [decide_eq_true inside, Bool.true_and, load, if_true, coefficientOf, blockOf, whole,
    Nat.zero_mul, Nat.zero_add, Nat.add_zero]
  congr 1
  funext acc tap
  congr 1
  unfold tapTerm
  simp only [coefficientOf, blockOf, whole]
  by_cases reaches : tap ≤ row % blockSize
  · simp [reaches]
  · simp [reaches]

theorem dense_spec {numRows numChannels blockSize taps : Nat} (positive : 1 ≤ blockSize)
    (tapped : 1 ≤ taps) (padded : taps ≤ numRows + 1) (grouped : groupSize ∣ numChannels) :
    ∃ dense, t.dense numRows numChannels blockSize groupSize taps = some dense ∧
      dense.length = numRows ∧ ∀ row < numRows, ∀ channel,
        dense.getD row (fun _ => 0) channel = value t groupSize blockSize taps row channel := by
  have short : ∀ tap ∈ List.range' 1 (taps - 1), tap ≤ numRows := by
    intro tap member
    have bounds := List.mem_range'_1.mp member
    omega
  have blocks : (t.rows numRows).map (fun row g l => row (g * groupSize + l)) =
      (List.range numRows).map (blockOf t groupSize) := by
    rw [Tensors.rows, List.map_map]
    rfl
  obtain ⟨result, done, length, values⟩ := addTaps_spec
    (coefficientOf t groupSize) (blockOf t groupSize) positive _ short
    (((List.range numRows).map (blockOf t groupSize)).mapIdx fun row block g l =>
      coefficientOf t groupSize row 0 g l * block g l)
    (by rw [List.length_mapIdx, List.length_map, List.length_range])
  refine ⟨result.map fun block channel => block (channel / groupSize) (channel % groupSize),
    ?_, ?_, ?_⟩
  · unfold Tensors.dense groupedConvDense
    have fits : ¬ (numChannels / groupSize * groupSize ≠ numChannels ∨ taps = 0) := by
      rintro (uneven | none)
      · exact uneven (Nat.div_mul_cancel grouped)
      · omega
    rw [if_neg fits, blocks]
    exact congrArg (Option.map _) done
  · rw [List.length_map, length]
  · intro row below channel
    have inside : row < result.length := length ▸ below
    have first := values row below (channel / groupSize) (channel % groupSize)
    rw [List.getD_eq_getElem?_getD, List.getElem?_eq_getElem inside, Option.getD_some] at first
    rw [List.getD_eq_getElem?_getD, List.getElem?_map, List.getElem?_eq_getElem inside]
    simp only [Option.map_some, Option.getD_some]
    rw [first, value]
    congr 1
    rw [List.getD_eq_getElem?_getD, List.getElem?_mapIdx, List.getElem?_map,
      List.getElem?_range below]
    rfl

theorem impl_eq {numRows : Nat} (numChannels blockSize taps : Nat) (filled : 1 ≤ numRows) :
    groupedConvImpl t numRows numChannels blockSize groupSize taps =
      (List.range numRows).flatMap fun row => (List.range numChannels).map fun channel =>
        (row * t.outputStrideRow + channel, value t groupSize blockSize taps row channel) := by
  have lanes : 0 < elementBlock numRows numChannels := by
    unfold elementBlock
    split <;> decide
  have enough : numChannels ≤ cdiv numChannels (elementBlock numRows numChannels) *
      elementBlock numRows numChannels := by
    have division := Nat.div_add_mod (numChannels + elementBlock numRows numChannels - 1)
      (elementBlock numRows numChannels)
    have remainder := Nat.mod_lt (numChannels + elementBlock numRows numChannels - 1) lanes
    rw [Nat.mul_comm] at division
    unfold cdiv
    omega
  unfold groupedConvImpl
  rw [if_neg (by omega)]
  have programs := StoreTrace.flatMap_range_mul numRows
    (cdiv numChannels (elementBlock numRows numChannels)) fun row colBlock =>
      ((List.range (elementBlock numRows numChannels)).filter fun lane =>
        colBlock * elementBlock numRows numChannels + lane < numChannels).map fun lane =>
          (row * t.outputStrideRow + (colBlock * elementBlock numRows numChannels + lane),
            accumulate t numChannels blockSize groupSize taps row
              (colBlock * elementBlock numRows numChannels + lane))
  refine Eq.trans programs ?_
  refine List.flatMap_congr fun row _ => ?_
  rw [← StoreTrace.masked_lanes numChannels _ _ enough, List.map_flatMap]
  refine List.flatMap_congr fun colBlock _ => ?_
  rw [List.map_map]
  refine List.map_congr_left fun lane kept => ?_
  have inside := of_decide_eq_true (List.mem_filter.mp kept).2
  rw [accumulate_eq t groupSize inside]
  rfl

end Values

theorem addresses_nodup {numRows numChannels stride : Nat} (apart : numChannels ≤ stride) :
    ((List.range numRows).flatMap fun row => (List.range numChannels).map fun channel =>
      row * stride + channel).Nodup := by
  rw [List.nodup_flatMap]
  constructor
  · intro row _
    exact List.nodup_range.map fun a b same => Nat.add_left_cancel same
  · refine List.Nodup.pairwise_of_forall_ne List.nodup_range ?_
    intro row _ row' _ differ address first second
    obtain ⟨channel, below, rfl⟩ := List.mem_map.mp first
    obtain ⟨channel', below', same⟩ := List.mem_map.mp second
    rw [List.mem_range] at below below'
    rcases Nat.lt_or_gt_of_ne differ with less | more
    · have gap := Nat.mul_le_mul_right stride (Nat.succ_le_of_lt less)
      rw [Nat.succ_mul] at gap
      omega
    · have gap := Nat.mul_le_mul_right stride (Nat.succ_le_of_lt more)
      rw [Nat.succ_mul] at gap
      omega

theorem value_isolated {t t' : Tensors R} {groupSize blockSize taps row channel : Nat}
    (delta : t'.delta = t.delta) (base : t'.base = t.base)
    (strides : t'.deltaStrideRow = t.deltaStrideRow ∧ t'.deltaStrideTap = t.deltaStrideTap ∧
      t'.baseStrideTap = t.baseStrideTap)
    (rows : ∀ r, row / blockSize * blockSize ≤ r → r ≤ row →
      t'.x (r * t'.xStrideRow + channel) = t.x (r * t.xStrideRow + channel)) :
    value t' groupSize blockSize taps row channel = value t groupSize blockSize taps row channel := by
  have whole : channel / groupSize * groupSize + channel % groupSize = channel :=
    Nat.div_add_mod' channel groupSize
  have start := Nat.div_add_mod' row blockSize
  have coefficients : coefficientOf t' groupSize = coefficientOf t groupSize := by
    unfold coefficientOf
    rw [delta, base, strides.1, strides.2.1, strides.2.2]
  have blocks : ∀ r, row / blockSize * blockSize ≤ r → r ≤ row →
      blockOf t' groupSize r (channel / groupSize) (channel % groupSize) =
        blockOf t groupSize r (channel / groupSize) (channel % groupSize) := by
    intro r lower upper
    rw [blockOf, blockOf, whole]
    exact rows r lower upper
  unfold value
  rw [coefficients, blocks row (by omega) (Nat.le_refl row)]
  congr 1
  funext acc tap
  congr 1
  unfold tapTerm
  split
  · rename_i reaches
    rw [blocks (row - tap) (by omega) (Nat.sub_le row tap)]
  · rfl

/-- Every output element is stored once and, in whatever order the programs run, ends with the
    dense path's value; a row of the dense path depends only on its block's rows up to it. -/
theorem fused_conv_is_dense {numRows numChannels blockSize groupSize taps : Nat} (t : Tensors R)
    (filled : 1 ≤ numRows) (tapped : 1 ≤ taps) (padded : taps - 1 ≤ numRows)
    (positive : 1 ≤ blockSize) (grouped : groupSize ∣ numChannels)
    (apart : numChannels ≤ t.outputStrideRow) :
    ∃ dense, t.dense numRows numChannels blockSize groupSize taps = some dense ∧
      dense.length = numRows ∧
      (groupedConvImpl t numRows numChannels blockSize groupSize taps).map Prod.fst =
        ((List.range numRows).flatMap fun row => (List.range numChannels).map fun channel =>
          row * t.outputStrideRow + channel) ∧
      ((groupedConvImpl t numRows numChannels blockSize groupSize taps).map Prod.fst).Nodup ∧
      (∀ stores, stores.Perm (groupedConvImpl t numRows numChannels blockSize groupSize taps) →
        ∀ memory, ∀ row < numRows, ∀ channel < numChannels,
          StoreTrace.applied memory stores (row * t.outputStrideRow + channel) =
            dense.getD row (fun _ => 0) channel) ∧
      ∀ x' : Nat → R, ∃ dense', { t with x := x' }.dense numRows numChannels blockSize groupSize
          taps = some dense' ∧ ∀ row < numRows,
        (∀ r, row / blockSize * blockSize ≤ r → r ≤ row → ∀ channel < numChannels,
          x' (r * t.xStrideRow + channel) = t.x (r * t.xStrideRow + channel)) →
        ∀ channel < numChannels,
          dense'.getD row (fun _ => 0) channel = dense.getD row (fun _ => 0) channel := by
  have short : taps ≤ numRows + 1 := by omega
  obtain ⟨dense, computed, length, values⟩ := dense_spec t groupSize positive tapped short grouped
  have stored := impl_eq t groupSize numChannels blockSize taps filled
  have addresses : (groupedConvImpl t numRows numChannels blockSize groupSize taps).map Prod.fst =
      (List.range numRows).flatMap fun row => (List.range numChannels).map fun channel =>
        row * t.outputStrideRow + channel := by
    rw [stored, List.map_flatMap]
    refine List.flatMap_congr fun row _ => ?_
    rw [List.map_map]
    rfl
  have once : ((groupedConvImpl t numRows numChannels blockSize groupSize taps).map
      Prod.fst).Nodup := by
    rw [addresses]
    exact addresses_nodup apart
  refine ⟨dense, computed, length, addresses, once, ?_, ?_⟩
  · intro stores order memory row below channel inside
    apply StoreTrace.applied_hit ((order.map Prod.fst).nodup_iff.mpr once)
    rw [order.mem_iff, stored, values row below channel]
    exact List.mem_flatMap.mpr ⟨row, List.mem_range.mpr below,
      List.mem_map.mpr ⟨channel, List.mem_range.mpr inside, rfl⟩⟩
  · intro x'
    obtain ⟨dense', computed', _, values'⟩ :=
      dense_spec { t with x := x' } groupSize positive tapped short grouped
    refine ⟨dense', computed', ?_⟩
    intro row below same channel inside
    rw [values row below channel, values' row below channel]
    exact value_isolated rfl rfl ⟨rfl, rfl, rfl⟩ fun r lower upper => same r lower upper channel inside

/-- Two requests of two rows, with rows three apart in the output. -/
def sampleTensors : Tensors Nat where
  x := id
  delta := fun _ => 1
  base := id
  xStrideRow := 2
  deltaStrideRow := 4
  deltaStrideTap := 2
  baseStrideTap := 2
  outputStrideRow := 3

theorem sample_conv : ∃ dense, sampleTensors.dense 4 2 2 1 2 = some dense ∧ dense.length = 4 := by
  obtain ⟨dense, computed, length, _⟩ := @fused_conv_is_dense Nat _ 4 2 2 1 2 sampleTensors
    (by decide) (by decide) (by decide) (by decide) (by decide) (by decide)
  exact ⟨dense, computed, length⟩

end GroupedConv
