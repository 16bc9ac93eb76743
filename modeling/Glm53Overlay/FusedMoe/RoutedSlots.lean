import Mathlib.Algebra.Order.BigOperators.Group.List
import Mathlib.Algebra.Order.Group.Nat
import Glm53Overlay.FusedMoe.ExpertGroups

/-!
From ids to buffers. The id map of the fused path and the lookup of the reference loop
route a slot alike; the sorted buffers are the slots grouped by local expert with the
sentinel last; no expert sees a token twice.
-/
namespace FusedMoe
open SegmentedRange
variable {S D X XH M MH V W : Type}

/-- What the router and the expert map promise: the non-negative ids of a token are distinct,
    and the map covers the local experts and sends no two ids to the same one. -/
structure Routable (b : Batch X W) (expertMap : Option (List Int)) (nLocal : Nat) : Prop where
  distinct : ∀ t < b.tokens, ∀ i < b.topk, ∀ j < b.topk,
    0 ≤ b.ids t i → b.ids t i = b.ids t j → i = j
  covers : ∀ map, expertMap = some map → nLocal ≤ map.length
  injective : ∀ map, expertMap = some map → ∀ i < map.length, ∀ j < map.length,
    0 ≤ map.getD i 0 → map.getD i 0 < nLocal → map.getD i 0 = map.getD j 0 → i = j

section Route
variable (nLocal : Nat) (expertMap : Option (List Int))

theorem loop_expert_eq (covers : ∀ map, expertMap = some map → nLocal ≤ map.length) (id : Int) :
    loopExpert nLocal expertMap id =
      if mapTopkToLocal nLocal expertMap id < nLocal then
        some (mapTopkToLocal nLocal expertMap id) else none := by
  cases expertMap with
  | none =>
    simp only [loopExpert, mapTopkToLocal]
    split_ifs <;> first | rfl | omega
  | some map =>
    have wide := covers map rfl
    simp only [loopExpert, mapTopkToLocal]
    by_cases negative : id < 0
    · simp [negative]
    by_cases known : id < map.length
    · have some_entry : map.length ≠ 0 := by omega
      have safe : (min (max id 0) (max ((map.length : Int) - 1) 0)).toNat = id.toNat := by omega
      have inside : ¬ (map.length : Int) ≤ id := by omega
      simp only [negative, known, some_entry, safe, inside, ↓reduceIte, false_or, not_false_eq_true,
        ne_eq]
      generalize map.getD id.toNat 0 = mapped
      split_ifs <;> first | rfl | omega
    · have outside : (map.length : Int) ≤ id := by omega
      have past : (nLocal : Int) ≤ id := by omega
      simp [negative, known, outside, past]

theorem local_entry (map : List Int) (id : Int)
    (isLocal : mapTopkToLocal nLocal (some map) id < nLocal) :
    0 ≤ id ∧ id < map.length ∧
      map.getD id.toNat 0 = mapTopkToLocal nLocal (some map) id := by
  by_cases negative : id < 0
  · simp [mapTopkToLocal, negative] at isLocal
  by_cases known : id < map.length
  · have some_entry : map.length ≠ 0 := by omega
    have safe : (min (max id 0) (max ((map.length : Int) - 1) 0)).toNat = id.toNat := by omega
    simp only [mapTopkToLocal, some_entry, safe, ↓reduceIte, ne_eq, not_false_eq_true]
      at isLocal ⊢
    generalize map.getD id.toNat 0 = mapped at isLocal ⊢
    split_ifs at isLocal ⊢ <;> omega
  · have outside : (map.length : Int) ≤ id := by omega
    simp [mapTopkToLocal, outside] at isLocal

def InjectiveMap : Prop :=
  ∀ map, expertMap = some map → ∀ i < map.length, ∀ j < map.length,
    0 ≤ map.getD i 0 → map.getD i 0 < nLocal → map.getD i 0 = map.getD j 0 → i = j

theorem local_id_unique (injective : InjectiveMap nLocal expertMap) (id other : Int)
    (isLocal : mapTopkToLocal nLocal expertMap id < nLocal)
    (same : mapTopkToLocal nLocal expertMap id = mapTopkToLocal nLocal expertMap other) :
    0 ≤ id ∧ id = other := by
  cases found : expertMap with
  | none =>
    simp only [found, mapTopkToLocal] at isLocal same
    split_ifs at isLocal same <;> omega
  | some map =>
    rw [found] at isLocal same
    obtain ⟨low, high, entry⟩ := local_entry nLocal map id isLocal
    obtain ⟨otherLow, otherHigh, otherEntry⟩ := local_entry nLocal map other (same ▸ isLocal)
    have equal := injective map found id.toNat (by omega) other.toNat (by omega)
      (by omega) (by omega) (by omega)
    omega
end Route

section Slots
variable (b : Batch X W) (expertMap : Option (List Int)) (nLocal : Nat)

/-- The local expert of a slot, or the sentinel. -/
def slotExpert (s : Nat × Nat) : Nat := mapTopkToLocal nLocal expertMap (b.idOf s)

theorem slot_expert_le (s : Nat × Nat) : slotExpert b expertMap nLocal s ≤ nLocal := by
  rw [slotExpert]
  cases expertMap with
  | none =>
    simp only [mapTopkToLocal]
    split_ifs <;> omega
  | some map =>
    simp only [mapTopkToLocal]
    split_ifs <;> omega

def DistinctIds : Prop :=
  ∀ t < b.tokens, ∀ i < b.topk, ∀ j < b.topk, 0 ≤ b.ids t i → b.ids t i = b.ids t j → i = j

theorem token_load_le_one (distinct : DistinctIds b) (injective : InjectiveMap nLocal expertMap)
    (e : Nat) (isLocal : e < nLocal) (t : Nat) (token : t < b.tokens) :
    ((List.range b.topk).map fun k => (t, k)).countP
      (fun s => slotExpert b expertMap nLocal s = e) ≤ 1 := by
  rw [List.countP_map, List.countP_eq_length_filter]
  have nodup := (List.nodup_range (n := b.topk)).filter
    ((fun s => decide (slotExpert b expertMap nLocal s = e)) ∘ fun k => (t, k))
  rcases chosen : (List.range b.topk).filter
    ((fun s => decide (slotExpert b expertMap nLocal s = e)) ∘ fun k => (t, k)) with
    _ | ⟨i, _ | ⟨j, later⟩⟩
  · simp
  · simp
  · -- two slots of one token would carry the same non-negative id
    have first : i ∈ i :: j :: later := by simp
    have second : j ∈ i :: j :: later := by simp
    rw [← chosen, List.mem_filter] at first second
    have iExpert : slotExpert b expertMap nLocal (t, i) = e := by simpa using first.2
    have jExpert : slotExpert b expertMap nLocal (t, j) = e := by simpa using second.2
    obtain ⟨low, equal⟩ := local_id_unique nLocal expertMap injective (b.ids t i) (b.ids t j)
      (iExpert.trans_lt isLocal) (iExpert.trans jExpert.symm)
    have column := distinct t token i (List.mem_range.mp first.1) j
      (List.mem_range.mp second.1) low equal
    rw [chosen, column] at nodup
    simp at nodup

theorem expert_load_le (distinct : DistinctIds b) (injective : InjectiveMap nLocal expertMap)
    (e : Nat) (isLocal : e < nLocal) :
    (b.slots.countP fun s => slotExpert b expertMap nLocal s = e) ≤ b.tokens := by
  rw [Batch.slots, slots, List.countP_flatMap]
  calc
    _ ≤ ((List.range b.tokens).map fun _ => 1).sum := by
      apply List.sum_le_sum
      intro t member
      exact token_load_le_one b expertMap nLocal distinct injective e isLocal t
        (List.mem_range.mp member)
    _ = b.tokens := by simp

/-- `argsort` returns the positions in an order that sorts the keys. -/
def SortSpec (argsort : List Nat → List Nat) : Prop :=
  ∀ keys, (argsort keys).Perm (List.range keys.length) ∧
    ((argsort keys).map fun i => keys.getD i 0).Pairwise (· ≤ ·)

variable (argsort : List Nat → List Nat)

def sortedSlots : List (Nat × Nat) :=
  indexSelect b.slots (argsort (b.slots.map (slotExpert b expertMap nLocal)))

theorem sorted_slots_perm (sorts : SortSpec argsort) :
    (sortedSlots b expertMap nLocal argsort).Perm b.slots := by
  obtain ⟨positions, _⟩ := sorts (b.slots.map (slotExpert b expertMap nLocal))
  rw [List.length_map] at positions
  have moved : (sortedSlots b expertMap nLocal argsort).Perm
      (indexSelect b.slots (List.range b.slots.length)) := positions.filterMap _
  rwa [index_select_range] at moved

theorem sorted_slots_sorted (sorts : SortSpec argsort) :
    (sortedSlots b expertMap nLocal argsort).Pairwise fun s t =>
      slotExpert b expertMap nLocal s ≤ slotExpert b expertMap nLocal t := by
  obtain ⟨positions, order⟩ := sorts (b.slots.map (slotExpert b expertMap nLocal))
  have keys : (sortedSlots b expertMap nLocal argsort).map (slotExpert b expertMap nLocal) =
      (argsort (b.slots.map (slotExpert b expertMap nLocal))).map fun i =>
        (b.slots.map (slotExpert b expertMap nLocal)).getD i 0 := by
    have inside : ∀ i ∈ argsort (b.slots.map (slotExpert b expertMap nLocal)),
        i < (b.slots.map (slotExpert b expertMap nLocal)).length := by
      intro i member
      exact List.mem_range.mp (positions.mem_iff.mp member)
    rw [sortedSlots, ← index_select_map]
    apply List.ext_getElem?
    intro r
    rw [index_select_at _ _ inside, List.getElem?_map]
    cases found : (argsort (b.slots.map (slotExpert b expertMap nLocal)))[r]? with
    | none => rfl
    | some i =>
      have known := inside i (List.mem_of_getElem? found)
      simp only [Option.bind_some, Option.map_some, List.getD_eq_getElem?_getD,
        List.getElem?_eq_getElem known, Option.getD_some]
  rw [← keys] at order
  exact List.pairwise_map.mp order
def slotData (s : Nat × Nat) : Nat × W := (s.1, b.weightOf s)

def expertSlots (e : Nat) : List (Nat × W) :=
  ((sortedSlots b expertMap nLocal argsort).filter fun s =>
    slotExpert b expertMap nLocal s = e).map (slotData b)

def sentinelSlots : List (Nat × W) :=
  ((sortedSlots b expertMap nLocal argsort).filter fun s =>
    nLocal ≤ slotExpert b expertMap nLocal s).map (slotData b)

theorem buffer_eq (sorts : SortSpec argsort) :
    buffer (expertSlots b expertMap nLocal argsort) nLocal
        (sentinelSlots b expertMap nLocal argsort) =
      (sortedSlots b expertMap nLocal argsort).map (slotData b) := by
  have split := SortedRuns.sorted_runs (slotExpert b expertMap nLocal)
    (sortedSlots b expertMap nLocal argsort)
    (sorted_slots_sorted b expertMap nLocal argsort sorts) nLocal
  conv_rhs => rw [split, List.map_append, List.map_flatMap]
  rfl

theorem tokens_eq (sorts : SortSpec argsort) :
    indexSelect (b.slots.map Prod.fst)
        (argsort (b.slots.map (slotExpert b expertMap nLocal))) =
      (buffer (expertSlots b expertMap nLocal argsort) nLocal
        (sentinelSlots b expertMap nLocal argsort)).map Prod.fst := by
  rw [buffer_eq b expertMap nLocal argsort sorts, index_select_map, List.map_map]
  rfl

theorem weights_eq (sorts : SortSpec argsort) :
    indexSelect (b.slots.map b.weightOf)
        (argsort (b.slots.map (slotExpert b expertMap nLocal))) =
      (buffer (expertSlots b expertMap nLocal argsort) nLocal
        (sentinelSlots b expertMap nLocal argsort)).map Prod.snd := by
  rw [buffer_eq b expertMap nLocal argsort sorts, index_select_map, List.map_map]
  rfl

theorem scatter_add_ones_eq (m : Nat) (index : List Nat) :
    scatterAddOnes m index = (List.range m).map fun e => index.count e := by
  have loop : ∀ start : Nat → Nat,
      index.foldl (fun acc e => acc.modify e (· + 1)) ((List.range m).map start) =
        (List.range m).map fun e => start e + index.count e := by
    induction index with
    | nil => simp
    | cons i later ih =>
      intro start
      have step : ((List.range m).map start).modify i (· + 1) =
          (List.range m).map fun e => start e + if i = e then 1 else 0 := by
        apply List.ext_getElem?
        intro e
        by_cases inside : e < m
        · by_cases here : i = e <;> simp [inside, here]
        · simp [inside]
      rw [List.foldl_cons, step, ih]
      apply List.map_congr_left
      intro e _
      rw [List.count_cons, Nat.add_assoc, Nat.add_comm (List.count e later)]
      simp
  have zeros := loop fun _ => 0
  simpa [scatterAddOnes] using zeros

theorem expert_count_eq (sorts : SortSpec argsort) :
    scatterAddOnes (nLocal + 1) (b.slots.map (slotExpert b expertMap nLocal)) =
      sizes (expertSlots b expertMap nLocal argsort) nLocal ++
        [(sentinelSlots b expertMap nLocal argsort).length] := by
  have moved := sorted_slots_perm b expertMap nLocal argsort sorts
  have count : ∀ e, (b.slots.map (slotExpert b expertMap nLocal)).count e =
      (sortedSlots b expertMap nLocal argsort).countP
        fun s => slotExpert b expertMap nLocal s = e := by
    intro e
    rw [← (moved.map (slotExpert b expertMap nLocal)).count_eq, List.count, List.countP_map]
    congr 1
  have last : (sentinelSlots b expertMap nLocal argsort).length =
      (sortedSlots b expertMap nLocal argsort).countP
        fun s => slotExpert b expertMap nLocal s = nLocal := by
    rw [sentinelSlots, List.length_map, ← List.countP_eq_length_filter]
    apply List.countP_congr
    intro s _
    have bound := slot_expert_le b expertMap nLocal s
    simp only [decide_eq_true_eq]
    omega
  rw [scatter_add_ones_eq, List.range_succ, List.map_append, List.map_singleton, count, last]
  congr 1
  apply List.map_congr_left
  intro e _
  rw [count, expertSlots, List.length_map, List.countP_eq_length_filter]
end Slots
end FusedMoe
