import Glm53Overlay.Library.StoreTrace

/-!
The kernel that maps a request's positions to slots of its blocks, before and after the patch
that bounds its column index. With context parallelism each rank keeps the interleaved share of
a block that is its own.
-/
namespace KpoolStorage

/-- The sizes of a group of caches; an interleave run never crosses a block. -/
structure SlotGroup where
  blockSize : Nat
  blockTableStride : Nat
  cpSize : Nat
  cpInterleave : Nat
  padId : Int
  tritonBlockSize : Nat
  blockSize_pos : 0 < blockSize
  cpSize_pos : 0 < cpSize
  cpInterleave_pos : 0 < cpInterleave
  tritonBlockSize_pos : 0 < tritonBlockSize
  interleaved : cpInterleave ∣ blockSize

namespace SlotGroup
variable (g : SlotGroup)

def blockIndex (position : Nat) : Nat := position / (g.blockSize * g.cpSize)

def blockOffset (position : Nat) : Nat := position % (g.blockSize * g.cpSize)

def address (reqStateIdx column : Nat) : Nat := reqStateIdx * g.blockTableStride + column

def isLocal (cpRank offset : Nat) : Bool := offset / g.cpInterleave % g.cpSize = cpRank

def localOffset (offset : Nat) : Nat :=
  let rounds := offset / (g.cpInterleave * g.cpSize)
  let remainder := offset % g.cpInterleave
  rounds * g.cpInterleave + remainder

/-- What one lane loads of the block table's memory and the slot it gets, before the patch. -/
def anchorLane (blockTable : Nat → Int) (reqStateIdx cpRank position : Nat) : List Nat × Int :=
  let column := g.address reqStateIdx (g.blockIndex position)
  let blockNumber := blockTable column
  let slotId :=
    if g.cpSize = 1 then blockNumber * g.blockSize + g.blockOffset position
    else
      let slotId := blockNumber * g.blockSize + g.localOffset (g.blockOffset position)
      if g.isLocal cpRank (g.blockOffset position) then slotId else g.padId
  ([column], slotId)

def patchedLane (blockTable : Nat → Int) (reqStateIdx cpRank position : Nat) : List Nat × Int :=
  let inRange := decide (g.blockIndex position < g.blockTableStride)
  let column := g.address reqStateIdx (g.blockIndex position)
  let blockNumber := if inRange then blockTable column else 0
  let slotId :=
    if g.cpSize = 1 then
      let slotId := blockNumber * g.blockSize + g.blockOffset position
      if inRange then slotId else g.padId
    else
      let slotId := blockNumber * g.blockSize + g.localOffset (g.blockOffset position)
      if g.isLocal cpRank (g.blockOffset position) && inRange then slotId else g.padId
  (if inRange then [column] else [], slotId)

end SlotGroup

/-- The lanes of one program, each with its offset and what it does; the masked ones run on
    position 0. -/
def lanes (g : SlotGroup) (lane : Nat → List Nat × Int) (pos : Nat → Nat) (startIdx endIdx : Nat) :
    List (Nat × List Nat × Int) :=
  (StoreTrace.strideLoop endIdx g.tritonBlockSize startIdx).flatMap fun i =>
    (List.range g.tritonBlockSize).map fun j =>
      (i + j, lane (if i + j < endIdx then pos (i + j) else 0))

def tableLoads (g : SlotGroup) (lane : Nat → List Nat × Int) (pos : Nat → Nat)
    (startIdx endIdx : Nat) : List Nat :=
  (lanes g lane pos startIdx endIdx).flatMap fun l => l.2.1

def slotStores (g : SlotGroup) (lane : Nat → List Nat × Int) (pos : Nat → Nat)
    (startIdx endIdx : Nat) : List (Nat × Int) :=
  ((lanes g lane pos startIdx endIdx).filter fun l => l.1 < endIdx).map fun l => (l.1, l.2.2)

theorem slotStores_eq (g : SlotGroup) (lane : Nat → List Nat × Int) (pos : Nat → Nat)
    (startIdx endIdx : Nat) : slotStores g lane pos startIdx endIdx =
      (List.range' startIdx (endIdx - startIdx)).map fun offset =>
        (offset, (lane (pos offset)).2) := by
  unfold slotStores lanes
  induction startIdx using StoreTrace.strideLoop.induct endIdx g.tritonBlockSize with
  | case1 i more ih =>
    rw [StoreTrace.strideLoop, if_pos more, List.flatMap_cons, List.filter_append,
      List.map_append, ih]
    have block : ((List.range g.tritonBlockSize).map fun j =>
        (i + j, lane (if i + j < endIdx then pos (i + j) else 0))).filter
          (fun l => l.1 < endIdx) =
        (List.range (min (endIdx - i) g.tritonBlockSize)).map fun j =>
          (i + j, lane (pos (i + j))) := by
      rw [List.filter_map, ← StoreTrace.filter_range_lt]
      have masks : (fun j => decide (j < endIdx - i)) = (fun l => decide (l.1 < endIdx)) ∘
          fun j => (i + j, lane (if i + j < endIdx then pos (i + j) else 0)) := by
        funext j
        simp only [Function.comp_apply, decide_eq_decide]
        omega
      rw [← masks]
      refine List.map_congr_left fun j kept => ?_
      have below := of_decide_eq_true (List.mem_filter.mp kept).2
      rw [if_pos (by omega)]
    rw [block, List.map_map]
    have split : List.range' i (endIdx - i) =
        List.range' i (min (endIdx - i) g.tritonBlockSize) ++
          List.range' (i + g.tritonBlockSize) (endIdx - (i + g.tritonBlockSize)) := by
      by_cases last : endIdx - i ≤ g.tritonBlockSize
      · have none : endIdx - (i + g.tritonBlockSize) = 0 := by omega
        rw [Nat.min_eq_left last, none, List.range'_zero, List.append_nil]
      · rw [Nat.min_eq_right (by omega), List.range'_append_1]
        congr 1
        omega
    rw [split, List.map_append, List.range'_eq_map_range (s := i), List.map_map]
    rfl
  | case2 i stop =>
    have none : endIdx - i = 0 := by
      have positive := g.tritonBlockSize_pos
      omega
    rw [StoreTrace.strideLoop, if_neg stop, none]
    rfl

namespace SlotGroup
variable (g : SlotGroup)

def InRange (position : Nat) : Prop := g.blockIndex position < g.blockTableStride

/-- The position belongs to the rank; without context parallelism to the only one. -/
def LocalTo (cpRank position : Nat) : Prop :=
  g.cpSize = 1 ∨ g.isLocal cpRank (g.blockOffset position) = true

theorem blockOffset_lt (position : Nat) : g.blockOffset position < g.blockSize * g.cpSize :=
  Nat.mod_lt _ (Nat.mul_pos g.blockSize_pos g.cpSize_pos)

theorem position_eq (position : Nat) :
    g.blockSize * g.cpSize * g.blockIndex position + g.blockOffset position = position :=
  Nat.div_add_mod position _

theorem localOffset_lt (position : Nat) :
    g.localOffset (g.blockOffset position) < g.blockSize := by
  obtain ⟨runs, size⟩ := g.interleaved
  have inside := g.blockOffset_lt position
  have remainder := Nat.mod_lt (g.blockOffset position) g.cpInterleave_pos
  have round : g.blockOffset position / (g.cpInterleave * g.cpSize) < runs := by
    apply (Nat.div_lt_iff_lt_mul (Nat.mul_pos g.cpInterleave_pos g.cpSize_pos)).mpr
    calc g.blockOffset position
      _ < g.cpInterleave * runs * g.cpSize := size ▸ inside
      _ = runs * (g.cpInterleave * g.cpSize) := by
        rw [Nat.mul_comm g.cpInterleave runs, Nat.mul_assoc]
  have full := Nat.mul_le_mul_right g.cpInterleave (Nat.succ_le_of_lt round)
  rw [Nat.succ_mul] at full
  rw [localOffset, size, Nat.mul_comm g.cpInterleave runs]
  omega

theorem localOffset_injective {cpRank offset offset' : Nat}
    (here : g.isLocal cpRank offset = true) (there : g.isLocal cpRank offset' = true)
    (same : g.localOffset offset = g.localOffset offset') : offset = offset' := by
  have digits : ∀ o, g.localOffset o / g.cpInterleave = o / g.cpInterleave / g.cpSize ∧
      g.localOffset o % g.cpInterleave = o % g.cpInterleave := by
    intro o
    have small := Nat.mod_lt o g.cpInterleave_pos
    rw [localOffset, Nat.mul_comm _ g.cpInterleave]
    rw [Nat.mul_add_div g.cpInterleave_pos, Nat.mul_add_mod, Nat.mod_mod,
      Nat.div_eq_of_lt small, Nat.add_zero, Nat.div_div_eq_div_mul]
    exact ⟨rfl, rfl⟩
  have rank := of_decide_eq_true here
  have rank' := of_decide_eq_true there
  have high : offset / g.cpInterleave = offset' / g.cpInterleave := by
    rw [← Nat.div_add_mod (offset / g.cpInterleave) g.cpSize,
      ← Nat.div_add_mod (offset' / g.cpInterleave) g.cpSize, rank, rank',
      ← (digits offset).1, ← (digits offset').1, same]
  rw [← Nat.div_add_mod offset g.cpInterleave, ← Nat.div_add_mod offset' g.cpInterleave, high,
    ← (digits offset).2, ← (digits offset').2, same]

def keptOffset (position : Nat) : Nat :=
  if g.cpSize = 1 then g.blockOffset position else g.localOffset (g.blockOffset position)

variable (blockTable : Nat → Int) (reqStateIdx : Nat)

theorem patchedLane_slot {cpRank position : Nat} (inRange : g.InRange position)
    (here : g.LocalTo cpRank position) :
    (g.patchedLane blockTable reqStateIdx cpRank position).2 =
      blockTable (g.address reqStateIdx (g.blockIndex position)) * g.blockSize +
        g.keptOffset position := by
  have covered : decide (g.blockIndex position < g.blockTableStride) = true :=
    decide_eq_true inRange
  unfold patchedLane keptOffset
  dsimp only
  rw [covered]
  by_cases single : g.cpSize = 1
  · rw [if_pos single, if_pos single]
    rfl
  · rw [if_neg single, if_neg single, here.resolve_left single]
    rfl

theorem keptOffset_lt (position : Nat) : g.keptOffset position < g.blockSize := by
  unfold keptOffset
  split
  · rename_i single
    have inside := g.blockOffset_lt position
    rw [single, Nat.mul_one] at inside
    exact inside
  · exact g.localOffset_lt position

theorem slot_digits {number number' : Int} {offset offset' size : Nat} (inside : offset < size)
    (inside' : offset' < size) (same : number * size + offset = number' * size + offset') :
    number = number' ∧ offset = offset' := by
  have quotient : ∀ (n : Int) (o : Nat), o < size → (n * size + o) / size = n := by
    intro n o below
    rw [Int.add_comm, Int.add_mul_ediv_right _ _ (by omega),
      Int.ediv_eq_zero_of_lt (by omega) (by omega), Int.zero_add]
  have numbers : number = number' := by
    rw [← quotient number offset inside, same, quotient number' offset' inside']
  subst numbers
  exact ⟨rfl, by omega⟩

theorem patchedLane_injective {cpRank position position' : Nat}
    (distinct : ∀ column < g.blockTableStride, ∀ column' < g.blockTableStride,
      blockTable (g.address reqStateIdx column) = blockTable (g.address reqStateIdx column') →
        column = column')
    (inRange : g.InRange position) (inRange' : g.InRange position')
    (here : g.LocalTo cpRank position) (there : g.LocalTo cpRank position')
    (same : (g.patchedLane blockTable reqStateIdx cpRank position).2 =
      (g.patchedLane blockTable reqStateIdx cpRank position').2) : position = position' := by
  rw [g.patchedLane_slot blockTable reqStateIdx inRange here,
    g.patchedLane_slot blockTable reqStateIdx inRange' there] at same
  obtain ⟨number, kept⟩ := slot_digits (g.keptOffset_lt position) (g.keptOffset_lt position') same
  have block := distinct _ inRange _ inRange' number
  have offset : g.blockOffset position = g.blockOffset position' := by
    unfold keptOffset at kept
    split at kept
    · exact kept
    · rename_i several
      exact g.localOffset_injective (here.resolve_left several) (there.resolve_left several) kept
  rw [← g.position_eq position, ← g.position_eq position', block, offset]

theorem one_rank (position : Nat) :
    ∃ cpRank < g.cpSize, g.LocalTo cpRank position ∧
      ∀ other < g.cpSize, g.LocalTo other position → other = cpRank := by
  refine ⟨g.blockOffset position / g.cpInterleave % g.cpSize, Nat.mod_lt _ g.cpSize_pos,
    Or.inr (decide_eq_true rfl), ?_⟩
  intro other below there
  rcases there with single | there
  · have first : g.blockOffset position / g.cpInterleave % g.cpSize < g.cpSize :=
      Nat.mod_lt _ g.cpSize_pos
    omega
  · exact (of_decide_eq_true there).symm

theorem patchedLane_loads {cpRank position load : Nat}
    (loaded : load ∈ (g.patchedLane blockTable reqStateIdx cpRank position).1) :
    ∃ column < g.blockTableStride, load = g.address reqStateIdx column := by
  unfold patchedLane at loaded
  dsimp only at loaded
  split at loaded
  · rename_i inRange
    exact ⟨_, of_decide_eq_true inRange, List.mem_singleton.mp loaded⟩
  · cases loaded

theorem patchedLane_eq (cpRank position : Nat) :
    (g.patchedLane blockTable reqStateIdx cpRank position).2 =
      if g.blockIndex position < g.blockTableStride then
        (g.anchorLane blockTable reqStateIdx cpRank position).2 else g.padId := by
  unfold patchedLane anchorLane
  by_cases inRange : g.blockIndex position < g.blockTableStride
  · simp [inRange]
  · simp [inRange]

end SlotGroup

theorem sample_pos : 0 < 4 := by decide

theorem sample_interleaved : 2 ∣ 4 := by decide

def sampleGroup : SlotGroup :=
  ⟨4, 4, 2, 2, -1, 4, sample_pos, Nat.two_pos, Nat.two_pos, sample_pos, sample_interleaved⟩

def sampleTable (address : Nat) : Int := 100 + address

end KpoolStorage
