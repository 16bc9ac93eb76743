import Glm53Overlay.Library.AsyncCopy
import Glm53Overlay.FusedMoe.FatKernels

/-!
The copy pipeline of `fm_mainloop`: what every thread issues, in which order, and where each
16-byte chunk of a tile goes in the four stages of shared memory. The arithmetic on the
fragments is left out; a step computes on whatever its stage holds.
-/
namespace FusedMoe
open AsyncCopy SegmentedRange

def fmPackedWords : Nat := 64
def fmBStageWords : Nat := 2 * fmWarps * fmPackedWords

/-- XOR swizzle of the chunk column inside a row. -/
def fmSwz (row chunk : Nat) : Nat := chunk ^^^ ((row >>> 1) &&& 3)

/-- A chunk's place: halves of `sh_a`, words of `sh_b`. -/
inductive Smem where
  | a (half : Nat)
  | b (word : Nat)
  deriving DecidableEq

/-- What a chunk is copied from; a copy of size 0 fills with zeros. -/
inductive Source where
  | a (half : Nat)
  | zero
  | packed (stream word : Nat)
  deriving DecidableEq

structure Mainloop where
  mb : Nat
  ns : Nat
  nbStride : Nat
  sizeK : Nat
  row0 : Nat
  rows : Nat
  tilesN : Nat
  nBlock0 : Nat

namespace Mainloop
variable (g : Mainloop)

def kTiles : Nat := g.sizeK / fmTileK
def aStage : Nat := g.mb * 16 * fmTileK
def aChunks : Nat := g.mb * 16 * 4
def bStage : Nat := g.ns * fmBStageWords
def bChunks : Nat := g.ns * 2 * fmWarps * 8

def copyA (stage kt c : Nat) : Copy Smem Source :=
  let row := c / 4
  let chunk := c % 4
  { dst := .a (stage * g.aStage + row * fmTileK + fmSwz row chunk * 8)
    value := if row < g.rows then .a ((g.row0 + row) * g.sizeK + kt * fmTileK + chunk * 8) else .zero }

def copyB (stage kt c : Nat) : Copy Smem Source :=
  let s := c / (2 * fmWarps * 8)
  let r := c % (2 * fmWarps * 8)
  let j := r / (fmWarps * 8)
  let nb := (r / 8) % fmWarps
  let q := r % 8
  { dst := .b (stage * g.bStage + (s * 2 + j) * (fmWarps * fmPackedWords) + nb * fmPackedWords + q * 8)
    value := .packed s
      (((kt * 2 + j) * g.tilesN + g.nBlock0 + s * g.nbStride + nb) * fmPackedWords + q * 8) }

def threadChunks (chunks thread : Nat) : List Nat :=
  (List.range ((chunks + fmThreads - 1) / fmThreads)).flatMap fun i =>
    let c := i * fmThreads + thread
    if c < chunks then [c] else []

def loadStage (thread stage kt : Nat) : List (Copy Smem Source) :=
  (threadChunks g.aChunks thread).map (g.copyA stage kt) ++
    (threadChunks g.bChunks thread).map (g.copyB stage kt)

/-- The copies behind a guarded `load_stage` of tile `kt`; none when the tile is past the end. -/
def tileCopies (thread : Fin fmThreads) (kt : Nat) : List (Copy Smem Source) :=
  if kt < g.kTiles then g.loadStage thread (kt % fmStages) kt else []

/-- Prologue, steps and drain as one thread runs them. -/
def ops : List Op :=
  ((List.range (fmStages - 1)).flatMap fun s => [.load s, .fence]) ++
    (((List.range g.kTiles).flatMap fun kt =>
      [.wait (fmStages - 2), .barrier, .load (kt + fmStages - 1), .fence, .work kt]) ++
    [.wait 0, .barrier])

section Positions

def opAt (kTiles p : Nat) : Option Op :=
  if p < 6 then if p % 2 = 0 then some (.load (p / 2)) else some .fence
  else if p < 6 + 5 * kTiles then
    if (p - 6) % 5 = 0 then some (.wait 2)
    else if (p - 6) % 5 = 1 then some .barrier
    else if (p - 6) % 5 = 2 then some (.load ((p - 6) / 5 + 3))
    else if (p - 6) % 5 = 3 then some .fence
    else some (.work ((p - 6) / 5))
  else if p = 6 + 5 * kTiles then some (.wait 0)
  else if p = 7 + 5 * kTiles then some .barrier
  else none

theorem steps_at (n kt r : Nat) (known : kt < n) (row : r < 5) (rest : List Op) :
    (((List.range n).flatMap fun kt =>
      [.wait (fmStages - 2), .barrier, .load (kt + fmStages - 1), .fence, .work kt]) ++ rest)[
        5 * kt + r]? =
      ([.wait 2, .barrier, .load (kt + 3), .fence, .work kt] : List Op)[r]? := by
  have item := item_of_group (fun kt : Nat =>
    ([.wait (fmStages - 2), .barrier, .load (kt + fmStages - 1), .fence, .work kt] : List Op))
    n rest kt r known row
  have start : ((sizes (fun kt : Nat =>
      ([.wait (fmStages - 2), .barrier, .load (kt + fmStages - 1), .fence, .work kt] : List Op))
      n).take kt).sum = 5 * kt := by
    have upto : min kt n = kt := Nat.min_eq_left (Nat.le_of_lt known)
    simp [sizes, upto, Nat.mul_comm]
  rw [start] at item
  exact item

theorem ops_length : g.ops.length = 8 + 5 * g.kTiles := by
  simp [ops, fmStages, List.length_flatMap]
  omega

theorem ops_at (p : Nat) : g.ops[p]? = opAt g.kTiles p := by
  have prologue : ((List.range (fmStages - 1)).flatMap fun s => [Op.load s, .fence]) =
      [.load 0, .fence, .load 1, .fence, .load 2, .fence] := rfl
  have stepsLength : ((List.range g.kTiles).flatMap fun kt =>
      ([.wait (fmStages - 2), .barrier, .load (kt + fmStages - 1), .fence, .work kt] : List Op)).length =
        5 * g.kTiles := by
    simp [List.length_flatMap, Nat.mul_comm]
  rw [ops, prologue]
  by_cases first : p < 6
  · rw [List.getElem?_append_left (by simpa using first), opAt, if_pos first]
    interval_cases p <;> rfl
  · obtain ⟨q, rfl⟩ := Nat.exists_eq_add_of_le (Nat.le_of_not_lt first)
    have shift : 6 + q - 6 = q := by omega
    rw [List.getElem?_append_right (by simp), opAt, if_neg first]
    simp only [List.length_cons, List.length_nil, shift, Nat.reduceAdd]
    by_cases body : 6 + q < 6 + 5 * g.kTiles
    · have here := steps_at g.kTiles (q / 5) (q % 5) (by omega) (Nat.mod_lt q (by omega))
        [.wait 0, .barrier]
      rw [Nat.div_add_mod] at here
      rw [here, if_pos body]
      have small := Nat.mod_lt q (show 0 < 5 by omega)
      generalize q % 5 = r at small
      interval_cases r <;> rfl
    · rw [if_neg body, List.getElem?_append_right (by omega), stepsLength]
      obtain ⟨e, rfl⟩ := Nat.exists_eq_add_of_le (show 5 * g.kTiles ≤ q by omega)
      rw [Nat.add_sub_cancel_left]
      match e with
      | 0 => simp
      | 1 =>
        have last : 6 + (5 * g.kTiles + 1) = 7 + 5 * g.kTiles := by omega
        simp [last]
      | e + 2 =>
        have past : ¬ 6 + (5 * g.kTiles + (e + 2)) = 7 + 5 * g.kTiles := by omega
        simp [past]

def loadAt (m : Nat) : Nat := if m < 3 then 2 * m else 5 * m - 7

theorem load_at {p m : Nat} (here : g.ops[p]? = some (.load m)) :
    p = loadAt m ∧ m < g.kTiles + 3 := by
  rw [ops_at, opAt] at here
  unfold loadAt
  split_ifs at here ⊢ <;> simp at here <;> omega

theorem op_load_at (m : Nat) (known : m < g.kTiles + 3) :
    g.ops[loadAt m]? = some (.load m) := by
  rw [ops_at, opAt, loadAt]
  by_cases early : m < 3
  · have even : 2 * m % 2 = 0 := by omega
    have item : 2 * m / 2 = m := by omega
    rw [if_pos early, if_pos (by omega), if_pos even, item]
  · have row : (5 * m - 7 - 6) % 5 = 2 := by omega
    have item : (5 * m - 7 - 6) / 5 + 3 = m := by omega
    rw [if_neg early, if_neg (by omega), if_pos (by omega), if_neg (by omega), if_neg (by omega),
      if_pos row, item]

theorem work_at {p m : Nat} (here : g.ops[p]? = some (.work m)) : p = 5 * m + 10 ∧ m < g.kTiles := by
  rw [ops_at, opAt] at here
  split_ifs at here <;> simp at here
  omega

theorem wait_at (kt : Nat) (known : kt < g.kTiles) : g.ops[5 * kt + 6]? = some (.wait 2) := by
  have row : (5 * kt + 6 - 6) % 5 = 0 := by omega
  rw [ops_at, opAt, if_neg (by omega), if_pos (by omega), if_pos row]

theorem barrier_at (kt : Nat) (known : kt < g.kTiles) : g.ops[5 * kt + 7]? = some .barrier := by
  have row : (5 * kt + 7 - 6) % 5 = 1 := by omega
  rw [ops_at, opAt, if_neg (by omega), if_pos (by omega), if_neg (by omega), if_pos row]

theorem last_wait_at : g.ops[5 * g.kTiles + 6]? = some (.wait 0) := by
  rw [ops_at, opAt, if_neg (by omega), if_neg (by omega), if_pos (by omega)]

theorem last_barrier_at : g.ops[5 * g.kTiles + 7]? = some .barrier := by
  rw [ops_at, opAt, if_neg (by omega), if_neg (by omega), if_neg (by omega), if_pos (by omega)]

def fencesAt (kTiles p : Nat) : Nat :=
  if p < 6 then p / 2 else if p < 6 + 5 * kTiles then 3 + (p - 5) / 5 else 3 + kTiles

theorem fences_at (p : Nat) : fences g.ops p = fencesAt g.kTiles p := by
  induction p with
  | zero => rfl
  | succ p ih =>
    cases here : g.ops[p]? with
    | none =>
      have past : 8 + 5 * g.kTiles ≤ p := by
        rw [← ops_length]
        exact List.getElem?_eq_none_iff.mp here
      have same : fences g.ops (p + 1) = fences g.ops p := by
        rw [fences, fences, List.take_of_length_le (by rw [ops_length]; omega),
          List.take_of_length_le (by rw [ops_length]; omega)]
      rw [same, ih]
      unfold fencesAt
      split_ifs <;> omega
    | some op =>
      rw [fences_succ g.ops here, ih]
      rw [ops_at, opAt] at here
      unfold fencesAt
      split_ifs at here <;> simp at here <;> subst here <;> simp <;> split_ifs <;> omega

theorem fences_load (m : Nat) (known : m < g.kTiles + 3) : fencesAt g.kTiles (loadAt m) = m := by
  unfold fencesAt loadAt
  split_ifs <;> omega
end Positions

section Chunks

theorem offset_unique {n s s' u u' : Nat} (inside : u < n) (inside' : u' < n)
    (same : s * n + u = s' * n + u') : s = s' ∧ u = u' := by
  have quotient := congrArg (· / n) same
  have remainder := congrArg (· % n) same
  simp only [Nat.mul_comm _ n, Nat.mul_add_div (Nat.zero_lt_of_lt inside),
    Nat.div_eq_of_lt inside, Nat.div_eq_of_lt inside', Nat.mul_add_mod, Nat.mod_eq_of_lt inside,
    Nat.mod_eq_of_lt inside', Nat.add_zero] at quotient remainder
  exact ⟨quotient, remainder⟩

theorem swz_lt (row chunk : Nat) (inside : chunk < 4) : fmSwz row chunk < 4 :=
  Nat.xor_lt_two_pow (n := 2) inside (Nat.and_lt_two_pow (n := 2) _ (by decide))

theorem swz_injective (row : Nat) {chunk chunk' : Nat} (same : fmSwz row chunk = fmSwz row chunk') :
    chunk = chunk' := by
  have back := congrArg (· ^^^ ((row >>> 1) &&& 3)) same
  simpa [fmSwz, Nat.xor_assoc] using back

theorem mem_thread_chunks (chunks thread : Nat) (small : thread < fmThreads) (c : Nat) :
    c ∈ threadChunks chunks thread ↔ c < chunks ∧ c % fmThreads = thread := by
  simp only [threadChunks, List.mem_flatMap, List.mem_range]
  constructor
  · rintro ⟨i, _, member⟩
    by_cases inside : i * fmThreads + thread < chunks
    · rw [if_pos inside] at member
      obtain rfl := List.mem_singleton.mp member
      simp only [fmThreads] at small inside ⊢
      omega
    · rw [if_neg inside] at member
      exact absurd member List.not_mem_nil
  · rintro ⟨inside, own⟩
    have place : c / fmThreads * fmThreads + thread = c := by
      rw [← own, Nat.mul_comm]
      exact Nat.div_add_mod c fmThreads
    refine ⟨c / fmThreads, ?_, ?_⟩
    · simp only [fmThreads] at inside ⊢
      omega
    · simp [place, inside]

theorem mem_tile_copies (thread : Fin fmThreads) (kt : Nat) (x : Copy Smem Source) :
    x ∈ g.tileCopies thread kt ↔ kt < g.kTiles ∧
      ((∃ c < g.aChunks, c % fmThreads = thread ∧ g.copyA (kt % fmStages) kt c = x) ∨
        ∃ c < g.bChunks, c % fmThreads = thread ∧ g.copyB (kt % fmStages) kt c = x) := by
  rw [tileCopies]
  split
  · rename_i known
    simp only [loadStage, List.mem_append, List.mem_map, mem_thread_chunks _ _ thread.isLt, known,
      true_and, and_assoc]
  · rename_i past
    simp [past]

theorem copy_a_unique {stage stage' kt kt' c c' : Nat} (inside : c < g.aChunks)
    (inside' : c' < g.aChunks)
    (same : (g.copyA stage kt c).dst = (g.copyA stage' kt' c').dst) : stage = stage' ∧ c = c' := by
  have low := swz_lt (c / 4) (c % 4) (Nat.mod_lt c (by decide))
  have low' := swz_lt (c' / 4) (c' % 4) (Nat.mod_lt c' (by decide))
  simp only [copyA, Smem.a.injEq, aStage, aChunks, fmTileK, Nat.add_assoc] at inside inside' same
  obtain ⟨stages, offsets⟩ := offset_unique (by omega) (by omega) same
  have rows : c / 4 = c' / 4 := by omega
  have chunks : fmSwz (c / 4) (c % 4) = fmSwz (c / 4) (c' % 4) := by
    rw [← rows] at offsets
    omega
  have columns := swz_injective (c / 4) chunks
  exact ⟨stages, by omega⟩

theorem copy_b_unique {stage stage' kt kt' c c' : Nat} (inside : c < g.bChunks)
    (inside' : c' < g.bChunks)
    (same : (g.copyB stage kt c).dst = (g.copyB stage' kt' c').dst) : stage = stage' ∧ c = c' := by
  simp only [copyB, Smem.b.injEq, bStage, bChunks, fmBStageWords, fmWarps, fmThreads, fmPackedWords,
    Nat.add_assoc] at inside inside' same
  obtain ⟨stages, offsets⟩ := offset_unique (by omega) (by omega) same
  exact ⟨stages, by omega⟩

theorem same_address {i j : Fin fmThreads} {m n : Nat} {x y : Copy Smem Source}
    (left : x ∈ g.tileCopies i m) (right : y ∈ g.tileCopies j n) (same : x.dst = y.dst) :
    m % fmStages = n % fmStages ∧ (m = n → x = y) := by
  obtain ⟨_, fromA | fromB⟩ := (g.mem_tile_copies i m x).mp left
  · obtain ⟨c, inside, _, rfl⟩ := fromA
    obtain ⟨_, fromA | fromB⟩ := (g.mem_tile_copies j n y).mp right
    · obtain ⟨c', inside', _, rfl⟩ := fromA
      obtain ⟨stages, rfl⟩ := g.copy_a_unique inside inside' same
      exact ⟨stages, fun tiles => by rw [tiles]⟩
    · obtain ⟨c', _, _, rfl⟩ := fromB
      simp [copyA, copyB] at same
  · obtain ⟨c, inside, _, rfl⟩ := fromB
    obtain ⟨_, fromA | fromB⟩ := (g.mem_tile_copies j n y).mp right
    · obtain ⟨c', _, _, rfl⟩ := fromA
      simp [copyA, copyB] at same
    · obtain ⟨c', inside', _, rfl⟩ := fromB
      obtain ⟨stages, rfl⟩ := g.copy_b_unique inside inside' same
      exact ⟨stages, fun tiles => by rw [tiles]⟩
end Chunks

section Runs
variable {s : State (Fin fmThreads) Smem Source}

theorem retired_after (reached : Reachable g.ops g.tileCopies s) {i : Fin fmThreads} {kt : Nat}
    (known : kt < g.kTiles) (past : 5 * kt + 6 < (s.thread i).pc) :
    kt + 1 ≤ (s.thread i).retired := by
  have books := reachable_accounted g.ops g.tileCopies reached i
  have drained := books.waited (5 * kt + 6) past 2 (g.wait_at kt known)
  have closed : fencesAt g.kTiles (5 * kt + 6) = kt + 3 := by
    unfold fencesAt
    split_ifs <;> omega
  rw [fences_at, closed] at drained
  omega

theorem arrived_after (reached : Reachable g.ops g.tileCopies s) {i : Fin fmThreads} {kt : Nat}
    (known : kt < g.kTiles) (past : 5 * kt + 7 < (s.thread i).pc) (j : Fin fmThreads) :
    5 * kt + 7 ≤ (s.thread j).pc :=
  reachable_aligned g.ops g.tileCopies reached _ (g.barrier_at kt known) i j past

theorem issued_position {i : Fin fmThreads} {m : Nat} (issued : Issued g.ops s i m) :
    loadAt m < (s.thread i).pc ∧ m < g.kTiles + 3 := by
  obtain ⟨q, before, here⟩ := issued
  obtain ⟨rfl, known⟩ := g.load_at here
  exact ⟨before, known⟩

theorem flight_position (reached : Reachable g.ops g.tileCopies s) {i : Fin fmThreads}
    {f : Flight Smem Source} (flying : f ∈ (s.thread i).flights) :
    (s.thread i).retired ≤ f.item ∧ f.copy ∈ g.tileCopies i f.item ∧ Issued g.ops s i f.item := by
  obtain ⟨young, own, q, before, here, group⟩ :=
    (reachable_accounted g.ops g.tileCopies reached i).flight f flying
  obtain ⟨rfl, known⟩ := g.load_at here
  rw [fences_at, fences_load g f.item known] at group
  exact ⟨group ▸ young, own, loadAt f.item, before, here⟩

theorem not_ahead (reached : Reachable g.ops g.tileCopies s) {i j : Fin fmThreads} {kt m : Nat}
    (behind : (s.thread j).pc ≤ 5 * kt + 10) (issued : Issued g.ops s i m) : m < kt + 4 := by
  by_contra ahead
  obtain ⟨past, known⟩ := g.issued_position issued
  have position : loadAt m = 5 * m - 7 := if_neg (by omega)
  have known : m - 3 < g.kTiles := by omega
  have passed : 5 * (m - 3) + 7 < (s.thread i).pc := by omega
  have arrived := g.arrived_after reached known passed j
  omega

/-- Reads of a stage are over before the next tile for it is issued, so the copies of
    different tiles never race for an address. -/
theorem pipeline_separated (s : State (Fin fmThreads) Smem Source)
    (reached : Reachable g.ops g.tileCopies s) : Separated g.ops g.tileCopies s := by
  intro i f flying j m c own same issued
  obtain ⟨young, source, _⟩ := g.flight_position reached flying
  obtain ⟨stages, _⟩ := g.same_address own source same
  obtain ⟨past, known⟩ := g.issued_position issued
  by_contra later
  have apart : f.item + 4 ≤ m := by
    simp only [fmStages] at stages
    omega
  have position : loadAt m = 5 * m - 7 := if_neg (by omega)
  have known : m - 3 < g.kTiles := by omega
  have passed : 5 * (m - 3) + 7 < (s.thread j).pc := by omega
  have arrived := g.arrived_after reached known passed i
  have drained : 5 * (m - 3) + 6 < (s.thread i).pc := by omega
  have retired := g.retired_after reached known drained
  omega

theorem pipeline_settled (reached : Reachable g.ops g.tileCopies s) :
    Settled g.ops g.tileCopies s := by
  apply reachable_settled g.ops g.tileCopies ?_ g.pipeline_separated reached
  intro i j m c own d other same
  rw [(g.same_address own other same).2 rfl]

variable (reached : Reachable g.ops g.tileCopies s) {j : Fin fmThreads} {kt : Nat}
  (working : g.ops[(s.thread j).pc]? = some (.work kt))

include reached working in
theorem stage_quiet (i : Fin fmThreads) (f : Flight Smem Source)
    (flying : f ∈ (s.thread i).flights) : f.item % fmStages ≠ kt % fmStages := by
  obtain ⟨position, known⟩ := g.work_at working
  obtain ⟨young, _, issued⟩ := g.flight_position reached flying
  have arrived := g.arrived_after reached (i := j) known (by omega) i
  have retired := g.retired_after reached known (by omega : 5 * kt + 6 < (s.thread i).pc)
  have bound := g.not_ahead reached (Nat.le_of_eq position) issued
  simp only [fmStages]
  omega

include reached working in
theorem stage_holds (i : Fin fmThreads) (c : Copy Smem Source) (own : c ∈ g.tileCopies i kt) :
    s.memory c.dst = some (kt, c.value) := by
  obtain ⟨position, known⟩ := g.work_at working
  have arrived := g.arrived_after reached (i := j) known (by omega) i
  apply g.pipeline_settled reached i kt c own
  · refine ⟨loadAt kt, ?_, g.op_load_at kt (by omega)⟩
    unfold loadAt
    split <;> omega
  · intro f flying item
    exact absurd (by rw [item]) (g.stage_quiet reached working i f flying)
  · intro k n d other same issued
    obtain ⟨stages, _⟩ := g.same_address other own same
    have bound := g.not_ahead reached (Nat.le_of_eq position) issued
    simp only [fmStages] at stages
    omega
end Runs

section Once

theorem load_once (m : Nat) (known : m < g.kTiles) : g.ops.count (.load m) = 1 := by
  have body : ∀ n, ((List.range n).flatMap fun kt =>
      ([.wait (fmStages - 2), .barrier, .load (kt + fmStages - 1), .fence, .work kt] : List Op)).count
        (.load m) = if 3 ≤ m ∧ m < n + 3 then 1 else 0 := by
    intro n
    induction n with
    | zero =>
      have outside : ¬ (3 ≤ m ∧ m < 0 + 3) := by omega
      simp [outside]
    | succ n ih =>
      rw [List.range_succ, List.flatMap_append, List.count_append, ih, List.flatMap_singleton]
      simp only [fmStages, List.count_cons, List.count_nil, beq_iff_eq, reduceCtorEq, ↓reduceIte,
        Op.load.injEq]
      split_ifs <;> omega
  rw [ops, List.count_append, List.count_append, body]
  simp only [fmStages, List.range_succ, List.range_zero, List.nil_append, List.flatMap_cons,
    List.flatMap_nil, List.append_nil, List.count_cons,
    List.count_nil, beq_iff_eq, reduceCtorEq, ↓reduceIte, Op.load.injEq, Nat.reduceSub,
    List.cons_append]
  split_ifs <;> omega

theorem chunks_once (chunks : Nat) :
    ((List.range fmThreads).flatMap (threadChunks chunks)).Perm (List.range chunks) := by
  have own : ∀ t < fmThreads, (threadChunks chunks t).Nodup := by
    intro t bound
    rw [threadChunks, List.nodup_flatMap]
    constructor
    · intro i _
      dsimp only
      split <;> simp
    · apply List.Pairwise.imp (R := (· ≠ ·)) _ List.nodup_range
      intro i k apart c left right
      simp only [List.mem_ite_nil_right, List.mem_singleton] at left right
      have same := left.2.symm.trans right.2
      simp only [fmThreads] at same
      omega
  have disjoint : (List.range fmThreads).Pairwise
      (Function.onFun List.Disjoint (threadChunks chunks)) := by
    apply List.Pairwise.imp_of_mem (R := (· ≠ ·)) _ List.nodup_range
    intro t u member other apart c left right
    have first := ((mem_thread_chunks chunks t (List.mem_range.mp member) c).mp left).2
    have second := ((mem_thread_chunks chunks u (List.mem_range.mp other) c).mp right).2
    exact apart (first.symm.trans second)
  rw [List.perm_ext_iff_of_nodup ?_ List.nodup_range]
  · intro c
    rw [List.mem_flatMap, List.mem_range]
    constructor
    · rintro ⟨t, thread, member⟩
      exact ((mem_thread_chunks chunks t (List.mem_range.mp thread) c).mp member).1
    · intro inside
      have small : c % fmThreads < fmThreads := Nat.mod_lt c (by decide)
      exact ⟨c % fmThreads, List.mem_range.mpr small,
        (mem_thread_chunks chunks _ small c).mpr ⟨inside, rfl⟩⟩
  · rw [List.nodup_flatMap]
    exact ⟨fun t member => own t (List.mem_range.mp member), disjoint⟩
end Once

/-- What holds in every state of a mainloop, whatever the order of the threads' steps and
    of the landing copies. -/
structure PipelineSafe (s : State (Fin fmThreads) Smem Source) : Prop where
  /-- The stage a thread works on holds tile `kt` of `a`, zeros past the segment's rows. -/
  holdsA : ∀ (j : Fin fmThreads) (kt : Nat), g.ops[(s.thread j).pc]? = some (.work kt) →
    ∀ row < g.mb * 16, ∀ chunk < 4,
      s.memory (.a (kt % fmStages * g.aStage + row * fmTileK + fmSwz row chunk * 8)) =
        some (kt, if row < g.rows then .a ((g.row0 + row) * g.sizeK + kt * fmTileK + chunk * 8)
          else .zero)
  /-- And tile `kt` of every packed stream. -/
  holdsB : ∀ (j : Fin fmThreads) (kt : Nat), g.ops[(s.thread j).pc]? = some (.work kt) →
    ∀ stream < g.ns, ∀ half < 2, ∀ block < fmWarps, ∀ chunk < 8,
      s.memory (.b (kt % fmStages * g.bStage + (stream * 2 + half) * (fmWarps * fmPackedWords) +
          block * fmPackedWords + chunk * 8)) =
        some (kt, .packed stream (((kt * 2 + half) * g.tilesN + g.nBlock0 + stream * g.nbStride +
          block) * fmPackedWords + chunk * 8))
  quiet : ∀ (j : Fin fmThreads) (kt : Nat), g.ops[(s.thread j).pc]? = some (.work kt) →
    ∀ i, ∀ f ∈ (s.thread i).flights, f.item % fmStages ≠ kt % fmStages
  /-- A copy is issued only when every thread is done with the tiles its stage held before. -/
  issue : ∀ (i : Fin fmThreads) (m : Nat), g.ops[(s.thread i).pc]? = some (.load m) →
    ∀ old < m, old % fmStages = m % fmStages → ∀ p, g.ops[p]? = some (.work old) →
      ∀ j, p < (s.thread j).pc
  drained : ∀ i : Fin fmThreads, g.ops.length ≤ (s.thread i).pc → ∀ j,
    (s.thread j).flights = [] ∧ (s.thread j).retired = (s.thread j).closed
  live : (∀ i, g.ops.length ≤ (s.thread i).pc) ∨ ∃ s', Step g.ops g.tileCopies s s'

section Safe
variable {s : State (Fin fmThreads) Smem Source} (reached : Reachable g.ops g.tileCopies s)

include reached in
theorem issue_after_reads {i : Fin fmThreads} {m old : Nat}
    (loading : g.ops[(s.thread i).pc]? = some (.load m)) (earlier : old < m)
    (stage : old % fmStages = m % fmStages) {p : Nat} (work : g.ops[p]? = some (.work old))
    (j : Fin fmThreads) : p < (s.thread j).pc := by
  obtain ⟨position, known⟩ := g.load_at loading
  obtain ⟨rfl, _⟩ := g.work_at work
  have apart : old + 4 ≤ m := by
    simp only [fmStages] at stage
    omega
  have late : loadAt m = 5 * m - 7 := if_neg (by omega)
  have known : m - 3 < g.kTiles := by omega
  have passed : 5 * (m - 3) + 7 < (s.thread i).pc := by omega
  have arrived := g.arrived_after reached known passed j
  omega

include reached in
theorem drained_at_end {i : Fin fmThreads} (ended : g.ops.length ≤ (s.thread i).pc)
    (j : Fin fmThreads) :
    (s.thread j).flights = [] ∧ (s.thread j).retired = (s.thread j).closed := by
  rw [ops_length] at ended
  have arrived := reachable_aligned g.ops g.tileCopies reached _ g.last_barrier_at i j (by omega)
  have books := reachable_accounted g.ops g.tileCopies reached j
  have waited := books.waited _ (by omega) 0 g.last_wait_at
  have closed := books.closed
  have order := books.retired
  have before : fencesAt g.kTiles (5 * g.kTiles + 6) = g.kTiles + 3 := by
    unfold fencesAt
    split_ifs <;> omega
  have after : fencesAt g.kTiles (s.thread j).pc = g.kTiles + 3 := by
    unfold fencesAt
    split_ifs <;> omega
  rw [fences_at, before] at waited
  rw [fences_at, after] at closed
  constructor
  · apply List.eq_nil_iff_forall_not_mem.mpr
    intro f flying
    obtain ⟨young, _, issued⟩ := g.flight_position reached flying
    have known := (g.issued_position issued).2
    omega
  · omega
end Safe

/-- Every thread loads every tile once, the threads together take every chunk once, and
    every state of every run is safe. -/
theorem mainloop_pipeline_correct (s : State (Fin fmThreads) Smem Source)
    (reached : Reachable g.ops g.tileCopies s) :
    (∀ m < g.kTiles, g.ops.count (.load m) = 1) ∧
      (∀ chunks, ((List.range fmThreads).flatMap (threadChunks chunks)).Perm (List.range chunks)) ∧
      g.PipelineSafe s := by
  refine ⟨g.load_once, chunks_once, ?_⟩
  constructor
  case holdsA =>
    intro j kt working row rowInside chunk chunkInside
    have inside : row * 4 + chunk < g.aChunks := by
      simp only [aChunks]
      omega
    have small : (row * 4 + chunk) % fmThreads < fmThreads := Nat.mod_lt _ (by decide)
    have own : g.copyA (kt % fmStages) kt (row * 4 + chunk) ∈
        g.tileCopies ⟨(row * 4 + chunk) % fmThreads, small⟩ kt :=
      (g.mem_tile_copies _ _ _).mpr ⟨(g.work_at working).2, Or.inl ⟨_, inside, rfl, rfl⟩⟩
    have held := g.stage_holds reached working _ _ own
    have rowOf : (row * 4 + chunk) / 4 = row := by omega
    have chunkOf : (row * 4 + chunk) % 4 = chunk := by omega
    simpa only [copyA, rowOf, chunkOf] using held
  case holdsB =>
    intro j kt working stream streamInside half halfInside block blockInside chunk chunkInside
    simp only [fmWarps, fmThreads] at blockInside
    have inside : stream * 128 + half * 64 + block * 8 + chunk < g.bChunks := by
      simp only [bChunks, fmWarps, fmThreads]
      omega
    have small : (stream * 128 + half * 64 + block * 8 + chunk) % fmThreads < fmThreads :=
      Nat.mod_lt _ (by decide)
    have own : g.copyB (kt % fmStages) kt (stream * 128 + half * 64 + block * 8 + chunk) ∈
        g.tileCopies ⟨(stream * 128 + half * 64 + block * 8 + chunk) % fmThreads, small⟩ kt :=
      (g.mem_tile_copies _ _ _).mpr ⟨(g.work_at working).2, Or.inr ⟨_, inside, rfl, rfl⟩⟩
    have held := g.stage_holds reached working _ _ own
    have streamOf : (stream * 128 + half * 64 + block * 8 + chunk) / (2 * fmWarps * 8) = stream := by
      simp only [fmWarps, fmThreads]
      omega
    have halfOf : (stream * 128 + half * 64 + block * 8 + chunk) % (2 * fmWarps * 8) /
        (fmWarps * 8) = half := by
      simp only [fmWarps, fmThreads]
      omega
    have blockOf : (stream * 128 + half * 64 + block * 8 + chunk) % (2 * fmWarps * 8) / 8 % fmWarps =
        block := by
      simp only [fmWarps, fmThreads]
      omega
    have chunkOf : (stream * 128 + half * 64 + block * 8 + chunk) % (2 * fmWarps * 8) % 8 =
        chunk := by
      simp only [fmWarps, fmThreads]
      omega
    simpa only [copyB, streamOf, halfOf, blockOf, chunkOf] using held
  case quiet => exact fun j kt working => g.stage_quiet reached working
  case issue =>
    exact fun i m loading old earlier stage p work =>
      g.issue_after_reads reached loading earlier stage work
  case drained => exact fun i ended => g.drained_at_end reached ended
  case live =>
    have some_thread : Nonempty (Fin fmThreads) := ⟨⟨0, by decide⟩⟩
    exact progress g.ops g.tileCopies s
end Mainloop

/-- Three tiles, so the pipeline runs dry: a state in which every thread works on the second. -/
theorem mainloop_pipeline_three_tiles :
    let g : Mainloop := ⟨4, 2, 8, 96, 0, 50, 16, 0⟩
    ∃ s : State (Fin fmThreads) Smem Source,
      (∀ j, g.ops[(s.thread j).pc]? = some (.work 1)) ∧
      (∀ m < g.kTiles, g.ops.count (.load m) = 1) ∧
      (∀ chunks, ((List.range fmThreads).flatMap (Mainloop.threadChunks chunks)).Perm
        (List.range chunks)) ∧
      g.PipelineSafe s := by
  intro g
  obtain ⟨s, reached, level⟩ := exists_level g.ops g.tileCopies (n := 15) (by decide)
  refine ⟨s, fun j => ?_, Mainloop.mainloop_pipeline_correct g s reached⟩
  rw [level j]
  decide
end FusedMoe
