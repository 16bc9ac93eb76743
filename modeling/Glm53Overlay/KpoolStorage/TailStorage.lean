import Mathlib.Data.List.Pairwise
import Mathlib.Data.Nat.Log
import Glm53Overlay.KpoolStorage.SlotKernel
import Glm53Overlay.Library.OptionTraverse

/-!
The tail ring of each request: the mapping of a batch's tokens to tail slots, written into a
buffer of the builder's or into a fresh tensor, and the kernel that seeds the tail cache through
the strides of the padded layout.
-/
namespace KpoolStorage

/-- A batch of requests; the entries from `numActualTokens` on are padding. -/
structure Batch where
  slotMapping : List Int
  blockTable : List (List Int)
  queryStartLoc : List Nat
  positions : List Int
  numActualTokens : Nat
  numReqs : Nat

inductive MappingError where
  | shapeMismatch (given expected : Nat)
  | outOfRange

/-- `torch.searchsorted(starts, token, right=True)` for sorted starts. -/
def searchsortedRight (starts : List Nat) (token : Nat) : Nat :=
  (starts.takeWhile (· ≤ token)).length

namespace Batch
variable (b : Batch)

def requestOf (token : Nat) : Int :=
  min (max ((searchsortedRight b.queryStartLoc token : Int) - 1) 0) ((b.numReqs : Int) - 1)

/-- `block_table[:num_reqs, 0]` at a request. -/
def ownBlock (req : Int) : Option Int :=
  if 0 ≤ req then ((b.blockTable.take b.numReqs)[req.toNat]?).bind List.head? else none

def tailSlot (kpool token : Nat) : Option Int :=
  match b.ownBlock (b.requestOf token), b.positions[token]? with
  | some own, some pos => some (own * kpool + pos % (kpool : Int))
  | _, _ => none

/-- `compute_kpool_tail_slot_mapping`, patched; with `out` the result is that buffer's content. -/
def computeKpoolTailSlotMapping (kpool : Nat) (out : Option (List Int)) :
    Except MappingError (List Int) :=
  match out.filter fun buffer => buffer.length ≠ b.slotMapping.length with
  | some buffer => .error (.shapeMismatch buffer.length b.slotMapping.length)
  | none =>
    let out := b.slotMapping
    if b.numActualTokens = 0 then .ok out
    else
      match (List.range b.numActualTokens).mapM (b.tailSlot kpool) with
      | none => .error .outOfRange
      | some slots =>
        if out.length < b.numActualTokens then .error .outOfRange
        else .ok (slots ++ out.drop b.numActualTokens)

/-- The builder's call with its persistent buffer, viewed to the batch's shape. -/
def buildSlotMapping (kpool : Nat) (tailSlotMapping : List Int) :
    Except MappingError (List Int) :=
  let view := tailSlotMapping.take b.slotMapping.length
  if view.length ≠ b.slotMapping.length then
    .error (.shapeMismatch view.length b.slotMapping.length)
  else b.computeKpoolTailSlotMapping kpool (some view)

def TokenOf (req token : Nat) : Prop :=
  req < b.numReqs ∧ token < b.numActualTokens ∧
    ∃ start stop, b.queryStartLoc[req]? = some start ∧ b.queryStartLoc[req + 1]? = some stop ∧
      start ≤ token ∧ token < stop

/-- Starts are sorted, and the tensors are as long as the counts say. -/
structure WellFormed : Prop where
  starts : b.queryStartLoc.Pairwise (· ≤ ·)
  rows : b.numReqs ≤ b.blockTable.length
  columns : ∀ row ∈ b.blockTable, row ≠ []
  positions : b.numActualTokens ≤ b.positions.length
  mapping : b.numActualTokens ≤ b.slotMapping.length
  requests : 0 < b.numActualTokens → 0 < b.numReqs

end Batch

theorem searchsortedRight_eq {starts : List Nat} (sorted : starts.Pairwise (· ≤ ·))
    {req start stop token : Nat} (first : starts[req]? = some start)
    (next : starts[req + 1]? = some stop) (from' : start ≤ token) (below : token < stop) :
    searchsortedRight starts token = req + 1 := by
  induction starts generalizing req with
  | nil => cases first
  | cons s rest ih =>
    obtain ⟨least, sorted⟩ := List.pairwise_cons.mp sorted
    have head : s ≤ token := by
      cases req with
      | zero =>
        cases first
        exact from'
      | succ req => exact (least start (List.mem_of_getElem? first)).trans from'
    have step : searchsortedRight (s :: rest) token = searchsortedRight rest token + 1 := by
      simp [searchsortedRight, head]
    rw [step]
    congr 1
    cases req with
    | zero =>
      cases rest with
      | nil => cases next
      | cons t rest =>
        cases next
        simp [searchsortedRight, below]
    | succ req => exact ih sorted first next

namespace Batch
variable {b : Batch} (formed : b.WellFormed)
include formed

theorem requestOf_token {req token : Nat} (member : b.TokenOf req token) :
    b.requestOf token = req := by
  obtain ⟨below, _, start, stop, first, next, from', until'⟩ := member
  rw [requestOf, searchsortedRight_eq formed.starts first next from' until']
  omega

theorem requestOf_bounds {token : Nat} (actual : token < b.numActualTokens) :
    0 ≤ b.requestOf token ∧ b.requestOf token < b.numReqs := by
  have positive := formed.requests (by omega)
  unfold requestOf
  omega

theorem ownBlock_isSome {req : Int} (lower : 0 ≤ req) (upper : req < b.numReqs) :
    ∃ own, b.ownBlock req = some own := by
  have rows := formed.rows
  have inside : req.toNat < (b.blockTable.take b.numReqs).length := by
    rw [List.length_take]
    omega
  have filled := formed.columns _ (List.mem_of_mem_take (List.getElem_mem inside))
  refine ⟨List.head _ filled, ?_⟩
  rw [ownBlock, if_pos lower, List.getElem?_eq_getElem inside, Option.bind_some,
    List.head?_eq_some_head filled]

theorem tailSlot_isSome (kpool : Nat) {token : Nat} (actual : token < b.numActualTokens) :
    ∃ own pos, b.ownBlock (b.requestOf token) = some own ∧ b.positions[token]? = some pos ∧
      b.tailSlot kpool token = some (own * kpool + pos % (kpool : Int)) := by
  obtain ⟨lower, upper⟩ := requestOf_bounds formed actual
  obtain ⟨own, block⟩ := ownBlock_isSome formed lower upper
  have inside := Nat.lt_of_lt_of_le actual formed.positions
  have position := List.getElem?_eq_getElem inside
  exact ⟨own, _, block, position, by rw [tailSlot, block, position]⟩

end Batch

namespace Batch
variable {b : Batch} (formed : b.WellFormed)
include formed

theorem compute_spec (kpool : Nat) :
    ∃ slots, b.computeKpoolTailSlotMapping kpool none = .ok slots ∧
      slots.length = b.slotMapping.length ∧
      (∀ token < b.numActualTokens, slots[token]? = b.tailSlot kpool token) ∧
      ∀ token, b.numActualTokens ≤ token → slots[token]? = b.slotMapping[token]? := by
  have fits := formed.mapping
  have computed : (List.range b.numActualTokens).mapM (b.tailSlot kpool) =
      some ((List.range b.numActualTokens).map fun t => (b.tailSlot kpool t).getD 0) := by
    apply OptionTraverse.mapM_of_some
    intro token actual
    obtain ⟨own, pos, _, _, slot⟩ := tailSlot_isSome formed kpool
      (List.mem_range.mp actual)
    rw [slot]
    rfl
  refine ⟨((List.range b.numActualTokens).map fun t => (b.tailSlot kpool t).getD 0) ++
    b.slotMapping.drop b.numActualTokens, ?_, ?_, ?_, ?_⟩
  · unfold computeKpoolTailSlotMapping
    simp only [Option.filter_none]
    split
    · rename_i empty
      simp [empty]
    · rw [computed]
      simp only
      rw [if_neg (by omega)]
  · simp only [List.length_append, List.length_map, List.length_range, List.length_drop]
    omega
  · intro token actual
    obtain ⟨own, pos, _, _, slot⟩ := tailSlot_isSome formed kpool actual
    rw [List.getElem?_append_left (by simpa using actual), List.getElem?_map,
      List.getElem?_range actual, Option.map_some, slot]
    rfl
  · intro token padding
    rw [List.getElem?_append_right (by simpa using padding), List.getElem?_drop, List.length_map,
      List.length_range]
    congr 1
    omega

omit formed in
theorem compute_buffer (kpool : Nat) {buffer : List Int}
    (same : buffer.length = b.slotMapping.length) :
    b.computeKpoolTailSlotMapping kpool (some buffer) =
      b.computeKpoolTailSlotMapping kpool none := by
  unfold computeKpoolTailSlotMapping
  rw [Option.filter_some, if_neg (by simpa using same), Option.filter_none]

omit formed in
theorem build_eq (kpool : Nat) {tailSlotMapping : List Int}
    (enough : b.slotMapping.length ≤ tailSlotMapping.length) :
    b.buildSlotMapping kpool tailSlotMapping = b.computeKpoolTailSlotMapping kpool none := by
  have size : (tailSlotMapping.take b.slotMapping.length).length = b.slotMapping.length := by
    rw [List.length_take, Nat.min_eq_left enough]
  unfold buildSlotMapping
  dsimp only
  rw [if_neg (not_not.mpr size)]
  exact compute_buffer kpool size

theorem tailSlot_token {kpool req token : Nat} {own pos : Int} (member : b.TokenOf req token)
    (block : b.ownBlock req = some own) (position : b.positions[token]? = some pos) :
    b.tailSlot kpool token = some (own * kpool + pos % (kpool : Int)) := by
  rw [tailSlot, requestOf_token formed member, block, position]

theorem tailSlot_eq_iff {kpool : Nat} (positive : 0 < kpool)
    (distinct : ∀ req < b.numReqs, ∀ req' < b.numReqs, b.ownBlock req = b.ownBlock req' →
      req = req')
    {req req' token token' : Nat} {pos pos' : Int} (member : b.TokenOf req token)
    (member' : b.TokenOf req' token') (position : b.positions[token]? = some pos)
    (position' : b.positions[token']? = some pos') :
    b.tailSlot kpool token = b.tailSlot kpool token' ↔
      req = req' ∧ pos % (kpool : Int) = pos' % (kpool : Int) := by
  have some' : ∀ r : Nat, r < b.numReqs → ∃ own, b.ownBlock r = some own := fun r below =>
    ownBlock_isSome formed (Int.natCast_nonneg r) (Int.ofNat_lt.mpr below)
  obtain ⟨own, block⟩ := some' req member.1
  obtain ⟨own', block'⟩ := some' req' member'.1
  rw [tailSlot_token formed member block position,
    tailSlot_token formed member' block' position', Option.some.injEq]
  constructor
  · intro same
    have digit : ∀ p : Int, ∃ d < kpool, p % (kpool : Int) = (d : Nat) := by
      intro p
      have lower := Int.emod_nonneg p (b := kpool) (by omega)
      have upper := Int.emod_lt_of_pos p (b := kpool) (by omega)
      exact ⟨(p % kpool).toNat, by omega, by omega⟩
    obtain ⟨d, small, ring⟩ := digit pos
    obtain ⟨d', small', ring'⟩ := digit pos'
    rw [ring, ring'] at same
    obtain ⟨number, rest⟩ := SlotGroup.slot_digits small small' same
    refine ⟨distinct req member.1 req' member'.1 ?_, ?_⟩
    · rw [block, block', number]
    · rw [ring, ring', rest]
  · rintro ⟨rfl, ring⟩
    cases block.symm.trans block'
    rw [ring]

end Batch

/-- The tail cache's shape and strides; the host requires two planes and dense rows. -/
structure TailCache where
  kpool : Nat
  headDim : Nat
  planes : Nat
  stride0 : Nat
  stride1 : Nat
  stride2 : Nat
  stride3 : Nat

namespace TailCache
variable {V : Type} (tail : TailCache)

/-- The address of `tail[block, plane, row, dim]`. -/
def element (block plane row dim : Nat) : Nat :=
  block * tail.stride0 + plane * tail.stride1 + row * tail.stride2 + dim * tail.stride3

/-- `_kpool_tail_seed_kernel`, patched, at one program: what it stores where. -/
def seedKernel (blockD : Nat) (key score : Nat → V) (i slot : Nat) : List (Nat × V) :=
  let blk := slot / tail.kpool
  let offs := (List.range blockD).filter fun o => o < tail.headDim
  let base := blk * tail.stride0 + slot % tail.kpool * tail.headDim
  offs.map (fun o => (base + o, key (i * tail.headDim + o))) ++
    offs.map (fun o => (base + tail.stride1 + o, score (i * tail.headDim + o)))

/-- `kpool_seed_tail_cache`; `none` when an assertion fails. The lanes are the next power of two. -/
def seedTailCache (key score : Nat → V) (tslot : List Nat) : Option (List (Nat × V)) :=
  if tail.planes = 2 ∧ tail.stride3 = 1 ∧ tail.stride2 = tail.headDim then
    some ((List.range tslot.length).flatMap fun i =>
      tail.seedKernel (2 ^ Nat.clog 2 tail.headDim) key score i (tslot.getD i 0))
  else none

/-- Dense rows, and a block that holds both planes. -/
structure Padded : Prop where
  planes : tail.planes = 2
  dense : tail.stride3 = 1 ∧ tail.stride2 = tail.headDim
  positive : 0 < tail.kpool
  plane : tail.kpool * tail.headDim ≤ tail.stride1
  block : tail.stride1 + tail.kpool * tail.headDim ≤ tail.stride0

def target (slot plane dim : Nat) : Nat :=
  tail.element (slot / tail.kpool) plane (slot % tail.kpool) dim

variable {tail} (padded : tail.Padded)
include padded

theorem target_eq (slot plane dim : Nat) : tail.target slot plane dim =
    slot / tail.kpool * tail.stride0 +
      (plane * tail.stride1 + (slot % tail.kpool * tail.headDim + dim)) := by
  rw [target, element, padded.dense.1, padded.dense.2]
  omega

theorem row_lt (slot : Nat) {dim : Nat} (inside : dim < tail.headDim) :
    slot % tail.kpool * tail.headDim + dim < tail.kpool * tail.headDim := by
  have below := Nat.mod_lt slot padded.positive
  have full := Nat.mul_le_mul_right tail.headDim (Nat.succ_le_of_lt below)
  rw [Nat.succ_mul] at full
  omega

theorem plane_lt (slot : Nat) {plane dim : Nat} (either : plane < 2) (inside : dim < tail.headDim) :
    plane * tail.stride1 + (slot % tail.kpool * tail.headDim + dim) < tail.stride0 := by
  have row := row_lt padded slot inside
  have first := padded.plane
  have second := padded.block
  obtain rfl | rfl : plane = 0 ∨ plane = 1 := by omega
  · omega
  · omega

omit padded in
theorem digits_unique {n a a' d d' : Nat} (below : d < n) (below' : d' < n)
    (same : a * n + d = a' * n + d') : a = a' ∧ d = d' := by
  have cast : (a : Int) * n + d = (a' : Int) * n + d' := by exact_mod_cast same
  obtain ⟨high, low⟩ := SlotGroup.slot_digits below below' cast
  exact ⟨Int.ofNat.inj high, low⟩

theorem target_injective {slot slot' plane plane' dim dim' : Nat} (either : plane < 2)
    (either' : plane' < 2) (inside : dim < tail.headDim) (inside' : dim' < tail.headDim)
    (same : tail.target slot plane dim = tail.target slot' plane' dim') :
    slot = slot' ∧ plane = plane' ∧ dim = dim' := by
  rw [target_eq padded, target_eq padded] at same
  obtain ⟨block, within⟩ := digits_unique (plane_lt padded slot either inside)
    (plane_lt padded slot' either' inside') same
  have row := Nat.lt_of_lt_of_le (row_lt padded slot inside) padded.plane
  have row' := Nat.lt_of_lt_of_le (row_lt padded slot' inside') padded.plane
  obtain ⟨samePlane, inPlane⟩ := digits_unique row row' within
  obtain ⟨sameRow, sameDim⟩ := digits_unique inside inside' inPlane
  refine ⟨?_, samePlane, sameDim⟩
  rw [← Nat.div_add_mod slot tail.kpool, ← Nat.div_add_mod slot' tail.kpool, block, sameRow]

theorem target_inside (slot : Nat) {plane dim : Nat} (either : plane < 2)
    (inside : dim < tail.headDim) :
    slot / tail.kpool * tail.stride0 ≤ tail.target slot plane dim ∧
      tail.target slot plane dim < (slot / tail.kpool + 1) * tail.stride0 := by
  have within := plane_lt padded slot either inside
  rw [target_eq padded, Nat.succ_mul]
  omega

theorem seedKernel_eq {blockD : Nat} (lanes : tail.headDim ≤ blockD) (key score : Nat → V)
    (i slot : Nat) : tail.seedKernel blockD key score i slot =
      (List.range tail.headDim).map (fun d =>
        (tail.target slot 0 d, key (i * tail.headDim + d))) ++
      (List.range tail.headDim).map (fun d =>
        (tail.target slot 1 d, score (i * tail.headDim + d))) := by
  unfold seedKernel
  dsimp only
  rw [StoreTrace.filter_range_lt, Nat.min_eq_left lanes]
  congr 1
  · refine List.map_congr_left fun d _ => ?_
    rw [target_eq padded]
    congr 1
    omega
  · refine List.map_congr_left fun d _ => ?_
    rw [target_eq padded]
    congr 1
    omega

theorem seedTailCache_eq (key score : Nat → V) (tslot : List Nat) :
    tail.seedTailCache key score tslot = some ((List.range tslot.length).flatMap fun i =>
      (List.range tail.headDim).map (fun d =>
        (tail.target (tslot.getD i 0) 0 d, key (i * tail.headDim + d))) ++
      (List.range tail.headDim).map (fun d =>
        (tail.target (tslot.getD i 0) 1 d, score (i * tail.headDim + d)))) := by
  unfold seedTailCache
  rw [if_pos ⟨padded.planes, padded.dense⟩]
  congr 2
  funext i
  exact seedKernel_eq padded (Nat.le_pow_clog (by omega) _) key score i _

theorem target_token (own pos plane dim : Nat) :
    tail.target (own * tail.kpool + pos % tail.kpool) plane dim =
      tail.element own plane (pos % tail.kpool) dim := by
  have small := Nat.mod_lt pos padded.positive
  rw [target, Nat.mul_comm own, Nat.mul_add_div padded.positive, Nat.div_eq_of_lt small,
    Nat.mul_add_mod, Nat.mod_mod, Nat.add_zero]

end TailCache

/-- In every batch the mapping sends each token to its own request's ring, buffer or not, and
    leaves padding alone; in every padded layout the seed kernel's stores stay apart and in
    their block. -/
theorem tail_storage_isolates :
    (∀ (b : Batch) (kpool : Nat) (out : Option (List Int)), b.WellFormed → 0 < kpool →
      (∀ req < b.numReqs, ∀ req' < b.numReqs, b.ownBlock req = b.ownBlock req' → req = req') →
      (∀ buffer ∈ out, buffer.length = b.slotMapping.length) →
      ∃ slots, b.computeKpoolTailSlotMapping kpool out = .ok slots ∧
        slots.length = b.slotMapping.length ∧
        (∀ req token own pos, b.TokenOf req token → b.ownBlock req = some own →
          b.positions[token]? = some pos →
            slots[token]? = some (own * kpool + pos % (kpool : Int))) ∧
        (∀ token, b.numActualTokens ≤ token → slots[token]? = b.slotMapping[token]?) ∧
        ∀ req req' token token' pos pos', b.TokenOf req token → b.TokenOf req' token' →
          b.positions[token]? = some pos → b.positions[token']? = some pos' →
            (slots[token]? = slots[token']? ↔
              req = req' ∧ pos % (kpool : Int) = pos' % (kpool : Int))) ∧
    ∀ (V : Type) (tail : TailCache), tail.Padded →
      (∀ (key score : Nat → V) (tslot : List Nat), tail.seedTailCache key score tslot =
        some ((List.range tslot.length).flatMap fun i =>
          (List.range tail.headDim).map (fun d =>
            (tail.target (tslot.getD i 0) 0 d, key (i * tail.headDim + d))) ++
          (List.range tail.headDim).map (fun d =>
            (tail.target (tslot.getD i 0) 1 d, score (i * tail.headDim + d))))) ∧
      (∀ own pos plane dim, tail.target (own * tail.kpool + pos % tail.kpool) plane dim =
        tail.element own plane (pos % tail.kpool) dim) ∧
      ∀ slot plane dim, plane < 2 → dim < tail.headDim →
        (slot / tail.kpool * tail.stride0 ≤ tail.target slot plane dim ∧
          tail.target slot plane dim < (slot / tail.kpool + 1) * tail.stride0) ∧
        ∀ slot' plane' dim', plane' < 2 → dim' < tail.headDim →
          (slot, plane, dim) ≠ (slot', plane', dim') →
            tail.target slot plane dim ≠ tail.target slot' plane' dim' := by
  constructor
  · intro b kpool out formed positive distinct fits
    have same : b.computeKpoolTailSlotMapping kpool out =
        b.computeKpoolTailSlotMapping kpool none := by
      cases out with
      | none => rfl
      | some buffer => exact Batch.compute_buffer kpool (fits buffer rfl)
    obtain ⟨slots, computed, size, actual, padding⟩ := Batch.compute_spec formed kpool
    refine ⟨slots, same.trans computed, size, ?_, padding, ?_⟩
    · intro req token own pos member block position
      rw [actual token member.2.1, Batch.tailSlot_token formed member block position]
    · intro req req' token token' pos pos' member member' position position'
      rw [actual token member.2.1, actual token' member'.2.1]
      exact Batch.tailSlot_eq_iff formed positive distinct member member' position position'
  · intro V tail padded
    refine ⟨TailCache.seedTailCache_eq padded, TailCache.target_token padded, ?_⟩
    intro slot plane dim either inside
    refine ⟨TailCache.target_inside padded slot either inside, ?_⟩
    intro slot' plane' dim' either' inside' apart same
    obtain ⟨rfl, rfl, rfl⟩ := TailCache.target_injective padded either either' inside inside' same
    exact apart rfl

def sampleBatch : Batch := ⟨[0, 0, 0, 0, 0, -1], [[7], [9]], [0, 3, 5], [30, 31, 32, 4, 5], 5, 2⟩

theorem sampleBatch_formed : sampleBatch.WellFormed :=
  ⟨by decide, by decide, by decide, by decide, by decide, by decide⟩

/-- A tail block of four rows of 128, in the indexer's blocks of 38016 bytes. -/
def paddedTail : TailCache := ⟨4, 128, 2, 19008, 512, 128, 1⟩

theorem paddedTail_padded : paddedTail.Padded :=
  ⟨by decide, by decide, by decide, by decide, by decide⟩

theorem tail_storage_isolates_sample :
    (∃ slots, sampleBatch.computeKpoolTailSlotMapping 4 (some [8, 8, 8, 8, 8, 8]) = .ok slots ∧
      slots[1]? = some 31 ∧ slots[5]? = some (-1) ∧ slots[0]? ≠ slots[3]?) ∧
    (paddedTail.seedTailCache id id [31, 38]).isSome = true ∧
    paddedTail.target 31 1 5 < 8 * 19008 ∧ paddedTail.target 31 1 5 ≠ paddedTail.target 38 1 5 := by
  obtain ⟨mapped, seeded⟩ := tail_storage_isolates
  constructor
  · obtain ⟨slots, computed, _, actual, padding, collide⟩ := mapped sampleBatch 4
      (some [8, 8, 8, 8, 8, 8]) sampleBatch_formed (by decide) (by decide)
      (fun buffer given => by rw [← Option.some.inj given]; rfl)
    have first : sampleBatch.TokenOf 0 0 := ⟨by decide, by decide, 0, 3, rfl, rfl, by decide⟩
    have second : sampleBatch.TokenOf 0 1 := ⟨by decide, by decide, 0, 3, rfl, rfl, by decide⟩
    have fourth : sampleBatch.TokenOf 1 3 := ⟨by decide, by decide, 3, 5, rfl, rfl, by decide⟩
    refine ⟨slots, computed, actual 0 1 7 31 second rfl rfl, padding 5 (by decide), ?_⟩
    rw [Ne, collide 0 1 0 3 30 4 first fourth rfl rfl]
    decide
  · obtain ⟨stores, _, places⟩ := seeded Nat paddedTail paddedTail_padded
    obtain ⟨inside, apart⟩ := places 31 1 5 (by decide) (by decide)
    exact ⟨by rw [stores]; rfl, inside.2, apart 38 1 5 (by decide) (by decide) (by decide)⟩

end KpoolStorage
