import Glm53Overlay.FusedMoe.FatKernels
import Glm53Overlay.FusedMoe.GroupedTables

/-!
Over tables whose segments partition the fat rows the three kernels cover every row and column
once, and stay inside the buffers.
-/
namespace FusedMoe
open StoreTrace SegmentedRange
variable {W α : Type}

theorem flatMap_takeWhile {p : Nat → Bool} {f : Nat → List α} (n : Nat)
    (antitone : ∀ i j, i ≤ j → p j = true → p i = true) (nothing : ∀ i, p i = false → f i = []) :
    ((List.range n).takeWhile p).flatMap f = (List.range n).flatMap f := by
  have behind : ∀ l : List Nat, l.Pairwise (· ≤ ·) → (l.takeWhile p).flatMap f = l.flatMap f := by
    intro l
    induction l with
    | nil => intro _; rfl
    | cons i rest ih =>
      intro sorted
      obtain ⟨least, sorted⟩ := List.pairwise_cons.mp sorted
      cases here : p i with
      | true => rw [List.takeWhile_cons_of_pos here, List.flatMap_cons, List.flatMap_cons, ih sorted]
      | false =>
        have none : ∀ j ∈ i :: rest, f j = [] := by
          intro j member
          apply nothing
          rcases List.mem_cons.mp member with rfl | later
          · exact here
          · by_contra passes
            rw [Bool.not_eq_false] at passes
            rw [antitone i j (least j later) passes] at here
            cases here
        rw [List.takeWhile_cons_of_neg (by simp [here]), List.flatMap_nil]
        exact (List.flatMap_eq_nil_iff.mpr none).symm
  exact behind _ List.pairwise_le_range

theorem flatMap_if_map {p : Nat → Prop} [DecidablePred p] (g : Nat → α) (l : List Nat) :
    (l.flatMap fun r => if p r then [g r] else []) = (l.filter fun r => p r).map g := by
  induction l with
  | nil => rfl
  | cons r rest ih =>
    rw [List.flatMap_cons, ih]
    by_cases passes : p r
    · simp [passes]
    · simp [passes]

theorem epilogue_cover {mb rows : Nat} (fits : rows ≤ mb * 16) :
    ((List.range fmWarps).flatMap (epilogueRows mb rows)).Perm (List.range rows) := by
  have unbroken : ∀ warp, epilogueRows mb rows warp = (List.range mb).flatMap fun b =>
      (List.range 2).flatMap fun rr =>
        if warp + rr * fmWarps < rows - b * 16 then [b * 16 + (warp + rr * fmWarps)] else [] := by
    intro warp
    apply flatMap_takeWhile
    · intro i j below passes
      have inside := of_decide_eq_true passes
      exact decide_eq_true (by omega)
    · intro b stopped
      have past := of_decide_eq_false stopped
      rw [List.flatMap_eq_nil_iff]
      intro rr _
      rw [if_neg (by omega)]
  rw [List.flatMap_congr fun warp _ => unbroken warp]
  refine (flatMap_swap_perm _ _ _).trans ?_
  rw [← masked_lanes rows 16 mb fits]
  refine List.Perm.flatMap_left _ fun b _ => (flatMap_swap_perm _ _ _).trans (List.Perm.of_eq ?_)
  have block := flatMap_digits 2 fmWarps fun r =>
    if r < rows - b * 16 then [b * 16 + r] else []
  have lanes : ((List.range 16).flatMap fun r => if r < rows - b * 16 then [b * 16 + r] else []) =
      ((List.range 16).filter fun r => b * 16 + r < rows).map fun r => b * 16 + r := by
    rw [flatMap_if_map]
    congr 2
    funext r
    rw [decide_eq_decide]
    omega
  rw [← lanes]
  refine Eq.trans ?_ block
  refine List.flatMap_congr fun rr _ => List.flatMap_congr fun warp _ => ?_
  rw [Nat.add_comm]

theorem warp_rows_cover {gridX n : Nat} (positive : 0 < gridX) (f : Nat → Nat → List α) :
    ((List.range gridX).flatMap fun x => (List.range fmThreads).flatMap fun thread =>
      (strideLoop n (gridX * fmWarps) (x * fmWarps + thread / 32)).flatMap fun row =>
        f row (thread % 32)).Perm
    ((List.range n).flatMap fun row => (List.range 32).flatMap (f row)) := by
  have split : ∀ x, ((List.range fmThreads).flatMap fun thread =>
      (strideLoop n (gridX * fmWarps) (x * fmWarps + thread / 32)).flatMap fun row =>
        f row (thread % 32)) = (List.range fmWarps).flatMap fun warp =>
      (List.range 32).flatMap fun lane =>
        (strideLoop n (gridX * fmWarps) (x * fmWarps + warp)).flatMap fun row => f row lane :=
    fun x => flatMap_range_mul fmWarps 32 fun warp lane =>
      (strideLoop n (gridX * fmWarps) (x * fmWarps + warp)).flatMap fun row => f row lane
  rw [List.flatMap_congr fun x _ => split x]
  have lanes : ((List.range gridX).flatMap fun x => (List.range fmWarps).flatMap fun warp =>
      (List.range 32).flatMap fun lane =>
        (strideLoop n (gridX * fmWarps) (x * fmWarps + warp)).flatMap fun row => f row lane).Perm
      ((List.range gridX).flatMap fun x => (List.range fmWarps).flatMap fun warp =>
        (strideLoop n (gridX * fmWarps) (x * fmWarps + warp)).flatMap fun row =>
          (List.range 32).flatMap (f row)) :=
    List.Perm.flatMap_left _ fun x _ => List.Perm.flatMap_left _ fun warp _ =>
      flatMap_swap_perm _ _ _
  refine lanes.trans ?_
  rw [flatMap_digits gridX fmWarps fun p =>
    (strideLoop n (gridX * fmWarps) p).flatMap fun row => (List.range 32).flatMap (f row)]
  exact strideLoops_flatMap (Nat.mul_pos positive (by decide)) _

theorem segments_cover {gridY n : Nat} (positive : 0 < gridY) (rowsOf : Nat → Nat → List Nat)
    (f : Nat → Nat → Nat → List α) :
    ((List.range gridY).flatMap fun y => (List.range fmThreads).flatMap fun thread =>
      (strideLoop n gridY y).flatMap fun seg =>
        (rowsOf seg (thread / 32)).flatMap fun r => f seg r (thread % 32)).Perm
    ((List.range n).flatMap fun seg => ((List.range fmWarps).flatMap (rowsOf seg)).flatMap fun r =>
      (List.range 32).flatMap (f seg r)) := by
  have split : ∀ seg, ((List.range fmThreads).flatMap fun thread =>
      (rowsOf seg (thread / 32)).flatMap fun r => f seg r (thread % 32)) =
      (List.range fmWarps).flatMap fun warp => (List.range 32).flatMap fun lane =>
        (rowsOf seg warp).flatMap fun r => f seg r lane :=
    fun seg => flatMap_range_mul fmWarps 32 fun warp lane =>
      (rowsOf seg warp).flatMap fun r => f seg r lane
  have inner : ∀ seg, ((List.range fmThreads).flatMap fun thread =>
      (rowsOf seg (thread / 32)).flatMap fun r => f seg r (thread % 32)).Perm
      (((List.range fmWarps).flatMap (rowsOf seg)).flatMap fun r =>
        (List.range 32).flatMap (f seg r)) := by
    intro seg
    rw [split, List.flatMap_assoc]
    exact List.Perm.flatMap_left _ fun warp _ => flatMap_swap_perm _ _ _
  have threads : ((List.range gridY).flatMap fun y => (List.range fmThreads).flatMap fun thread =>
      (strideLoop n gridY y).flatMap fun seg =>
        (rowsOf seg (thread / 32)).flatMap fun r => f seg r (thread % 32)).Perm
      ((List.range gridY).flatMap fun y => (strideLoop n gridY y).flatMap fun seg =>
        ((List.range fmWarps).flatMap (rowsOf seg)).flatMap fun r =>
          (List.range 32).flatMap (f seg r)) :=
    List.Perm.flatMap_left _ fun y _ => (flatMap_swap_perm _ _ _).trans
      (List.Perm.flatMap_left _ fun seg _ => inner seg)
  exact threads.trans (strideLoops_flatMap positive _)

/-- The segments' rows, none taller than the tile, are the fat rows, each once. -/
structure FatTables.Partitions (t : FatTables W) (tile : Nat) : Prop where
  listed : t.numSegs ≤ t.segExpert.length
  row0s : t.segRow0.length = t.segExpert.length
  counts : t.segRows.length = t.segExpert.length
  heights : ∀ seg < t.numSegs, t.segRows.getD seg 0 ≤ tile
  rows : ((List.range t.numSegs).flatMap fun seg =>
    (List.range (t.segRows.getD seg 0)).map fun r => t.segRow0.getD seg 0 + r).Perm
      (List.range t.numRows)

section Tables
variable {t : FatTables W}

theorem tile_rows_cover {mb gridY : Nat} (parts : t.Partitions (mb * 16)) (positive : 0 < gridY)
    (f : Nat → Nat → List α) :
    ((List.range gridY).flatMap fun y => (List.range fmThreads).flatMap fun thread =>
      (strideLoop t.numSegs gridY y).flatMap fun seg =>
        (epilogueRows mb (t.segRows.getD seg 0) (thread / 32)).flatMap fun r =>
          f (t.segRow0.getD seg 0 + r) (thread % 32)).Perm
    ((List.range t.numRows).flatMap fun row => (List.range 32).flatMap (f row)) := by
  have loops := segments_cover (n := t.numSegs) positive
    (fun seg warp => epilogueRows mb (t.segRows.getD seg 0) warp)
    fun seg r lane => f (t.segRow0.getD seg 0 + r) lane
  refine loops.trans ?_
  have tiles : ((List.range t.numSegs).flatMap fun seg =>
      ((List.range fmWarps).flatMap (epilogueRows mb (t.segRows.getD seg 0))).flatMap fun r =>
        (List.range 32).flatMap (f (t.segRow0.getD seg 0 + r))).Perm
      ((List.range t.numSegs).flatMap fun seg =>
        (List.range (t.segRows.getD seg 0)).flatMap fun r =>
          (List.range 32).flatMap (f (t.segRow0.getD seg 0 + r))) := by
    refine List.Perm.flatMap_left _ fun seg member => ?_
    exact (epilogue_cover (parts.heights seg (List.mem_range.mp member))).flatMap_right _
  refine tiles.trans ?_
  have rows := parts.rows.flatMap_right fun row => (List.range 32).flatMap (f row)
  rw [List.flatMap_assoc] at rows
  refine List.Perm.trans (List.Perm.of_eq ?_) rows
  refine List.flatMap_congr fun seg _ => ?_
  rw [List.flatMap_map]

def storedIn (buffer : Buffer) : Access → Option Nat
  | .store b i => if b = buffer then some i else none
  | _ => none

def addedFor : Access → Option (Nat × Nat)
  | .atomicAdd row i => some (row, i)
  | _ => none

@[simp] theorem storedIn_load (b a : Buffer) (i : Nat) : storedIn b (.load a i) = none := rfl

@[simp] theorem addedFor_load (a : Buffer) (i : Nat) : addedFor (.load a i) = none := rfl

theorem storedIn_store (b : Buffer) (i : Nat) : storedIn b (.store b i) = some i := if_pos rfl

theorem stored_lanes (b : Buffer) (g : Nat → Nat) (l : List Nat) :
    (l.map fun i => Access.store b (g i)).filterMap (storedIn b) = l.flatMap fun i => [g i] := by
  induction l with
  | nil => rfl
  | cons i rest ih =>
    rw [List.map_cons, List.filterMap_cons_some (storedIn_store b (g i)), ih]
    rfl

theorem added_lanes (row : Nat) (g : Nat → Nat) (l : List Nat) :
    (l.map fun i => Access.atomicAdd row (g i)).filterMap addedFor =
      l.flatMap fun i => [(row, g i)] := by
  induction l with
  | nil => rfl
  | cons i rest ih =>
    have added : addedFor (.atomicAdd row (g i)) = some (row, g i) := rfl
    rw [List.map_cons, List.filterMap_cons_some added, ih]
    rfl

theorem lanes_cover (start : Nat) (g : Nat → List α) :
    ((List.range 32).flatMap fun lane => (List.range 4).flatMap fun i => g (start + lane * 4 + i)) =
      (List.range 128).flatMap fun c => g (start + c) := by
  rw [← flatMap_digits 32 4 fun c => g (start + c)]
  refine List.flatMap_congr fun lane _ => List.flatMap_congr fun i _ => ?_
  rw [Nat.add_assoc]

theorem columns_cover (blocks width start : Nat) (g : Nat → List α) :
    ((List.range blocks).flatMap fun x => (List.range width).flatMap fun c =>
      g (start + x * width + c)) = (List.range (blocks * width)).flatMap fun c => g (start + c) := by
  rw [← flatMap_digits blocks width fun c => g (start + c)]
  refine List.flatMap_congr fun x _ => List.flatMap_congr fun c _ => ?_
  rw [Nat.add_assoc]

theorem rows_cover (rows width : Nat) :
    ((List.range rows).flatMap fun row => (List.range width).flatMap fun c => [row * width + c]) =
      List.range (rows * width) := by
  rw [flatMap_digits rows width fun i => [i]]
  exact List.flatMap_pure_eq_map (fun i => i) _ |>.trans (List.map_id _)

theorem gather_cover {blocks gridX : Nat} (positive : 0 < gridX) :
    ((launch gridX blocks (fmGatherKernel t (blocks * 128) gridX)).filterMap
      (storedIn .h13)).Perm (List.range (t.numRows * (blocks * 128))) := by
  have stores : (launch gridX blocks (fmGatherKernel t (blocks * 128) gridX)).filterMap
      (storedIn .h13) = (List.range gridX).flatMap fun x => (List.range blocks).flatMap fun y =>
        (List.range fmThreads).flatMap fun thread =>
          (strideLoop t.numRows (gridX * fmWarps) (x * fmWarps + thread / 32)).flatMap fun row =>
            (List.range 4).flatMap fun i =>
              [row * (blocks * 128) + y * 128 + thread % 32 * 4 + i] := by
    simp only [launch, fmGatherKernel, List.filterMap_flatMap, List.filterMap_append,
      List.filterMap_cons, storedIn_load, List.filterMap_nil, List.nil_append, stored_lanes]
  rw [stores]
  refine (flatMap_swap_perm _ _ _).trans ?_
  have blockwise : ((List.range blocks).flatMap fun y => (List.range gridX).flatMap fun x =>
        (List.range fmThreads).flatMap fun thread =>
          (strideLoop t.numRows (gridX * fmWarps) (x * fmWarps + thread / 32)).flatMap fun row =>
            (List.range 4).flatMap fun i =>
              [row * (blocks * 128) + y * 128 + thread % 32 * 4 + i]).Perm
      ((List.range blocks).flatMap fun y => (List.range t.numRows).flatMap fun row =>
        (List.range 32).flatMap fun lane => (List.range 4).flatMap fun i =>
          [row * (blocks * 128) + y * 128 + lane * 4 + i]) :=
    List.Perm.flatMap_left _ fun y _ => warp_rows_cover positive fun row lane =>
      (List.range 4).flatMap fun i => [row * (blocks * 128) + y * 128 + lane * 4 + i]
  refine blockwise.trans ((flatMap_swap_perm _ _ _).trans (List.Perm.of_eq ?_))
  rw [← rows_cover]
  refine List.flatMap_congr fun row _ => ?_
  rw [← columns_cover blocks 128 (row * (blocks * 128)) fun c => [c]]
  refine List.flatMap_congr fun y _ => ?_
  exact lanes_cover (row * (blocks * 128) + y * 128) fun c => [c]

theorem mem_fmMainloop {a : Buffer} {mb sizeK row0 rows thread : Nat} {access : Access}
    (member : access ∈ fmMainloop a mb sizeK row0 rows thread) :
    ∃ row column, row < rows ∧ column < sizeK ∧
      access = .load a ((row0 + row) * sizeK + column) := by
  obtain ⟨kt, staged, loaded⟩ := List.mem_flatMap.mp member
  have inside : kt < sizeK / fmTileK := by
    rcases List.mem_append.mp staged with early | later
    · exact of_decide_eq_true (List.mem_filter.mp early).2
    · exact of_decide_eq_true (List.mem_filter.mp later).2
  have room : kt * fmTileK + fmTileK ≤ sizeK := by
    have whole := Nat.mul_le_mul_right fmTileK (Nat.succ_le_of_lt inside)
    rw [Nat.succ_mul] at whole
    exact whole.trans (Nat.div_mul_le_self sizeK fmTileK)
  obtain ⟨i, _, loaded⟩ := List.mem_flatMap.mp loaded
  dsimp only at loaded
  split at loaded
  · split at loaded
    · rename_i used
      obtain ⟨j, lane, rfl⟩ := List.mem_map.mp loaded
      have eight := List.mem_range.mp lane
      have chunk := Nat.mod_lt (i * fmThreads + thread) (show 0 < 4 by decide)
      refine ⟨_, kt * fmTileK + (i * fmThreads + thread) % 4 * 8 + j, used, ?_, ?_⟩
      · unfold fmTileK at room ⊢
        omega
      · rw [Nat.add_assoc, Nat.add_assoc, Nat.add_assoc]
    · cases loaded
  · cases loaded

theorem mainloop_stores (a b : Buffer) (mb sizeK row0 rows thread : Nat) :
    (fmMainloop a mb sizeK row0 rows thread).filterMap (storedIn b) = [] := by
  rw [List.filterMap_eq_nil_iff]
  intro access member
  obtain ⟨_, _, _, _, rfl⟩ := mem_fmMainloop member
  rfl

theorem mainloop_adds (a : Buffer) (mb sizeK row0 rows thread : Nat) :
    (fmMainloop a mb sizeK row0 rows thread).filterMap addedFor = [] := by
  rw [List.filterMap_eq_nil_iff]
  intro access member
  obtain ⟨_, _, _, _, rfl⟩ := mem_fmMainloop member
  rfl

theorem gateup_cover {blocks gridY : Nat} (sizeK : Nat) (parts : t.Partitions (fmMbGateup * 16))
    (positive : 0 < gridY) :
    ((launch blocks gridY (fmGateupKernel t sizeK (blocks * 128) gridY)).filterMap
      (storedIn .h2)).Perm (List.range (t.numRows * (blocks * 128))) := by
  have stores : (launch blocks gridY (fmGateupKernel t sizeK (blocks * 128) gridY)).filterMap
      (storedIn .h2) = (List.range blocks).flatMap fun x => (List.range gridY).flatMap fun y =>
        (List.range fmThreads).flatMap fun thread => (strideLoop t.numSegs gridY y).flatMap fun seg =>
          (epilogueRows fmMbGateup (t.segRows.getD seg 0) (thread / 32)).flatMap fun r =>
            (List.range 4).flatMap fun i =>
              [(t.segRow0.getD seg 0 + r) * (blocks * 128) + x * 128 + thread % 32 * 4 + i] := by
    simp only [launch, fmGateupKernel, segmentLoads, List.filterMap_flatMap, List.filterMap_append,
      List.filterMap_cons, storedIn_load, List.filterMap_nil, List.nil_append, mainloop_stores,
      stored_lanes, fmTileN]
  rw [stores]
  have rows : ((List.range blocks).flatMap fun x => (List.range gridY).flatMap fun y =>
        (List.range fmThreads).flatMap fun thread => (strideLoop t.numSegs gridY y).flatMap fun seg =>
          (epilogueRows fmMbGateup (t.segRows.getD seg 0) (thread / 32)).flatMap fun r =>
            (List.range 4).flatMap fun i =>
              [(t.segRow0.getD seg 0 + r) * (blocks * 128) + x * 128 + thread % 32 * 4 + i]).Perm
      ((List.range blocks).flatMap fun x => (List.range t.numRows).flatMap fun row =>
        (List.range 32).flatMap fun lane => (List.range 4).flatMap fun i =>
          [row * (blocks * 128) + x * 128 + lane * 4 + i]) :=
    List.Perm.flatMap_left _ fun x _ => tile_rows_cover parts positive fun row lane =>
      (List.range 4).flatMap fun i => [row * (blocks * 128) + x * 128 + lane * 4 + i]
  refine rows.trans ((flatMap_swap_perm _ _ _).trans (List.Perm.of_eq ?_))
  rw [← rows_cover]
  refine List.flatMap_congr fun row _ => ?_
  rw [← columns_cover blocks 128 (row * (blocks * 128)) fun c => [c]]
  refine List.flatMap_congr fun x _ => ?_
  exact lanes_cover (row * (blocks * 128) + x * 128) fun c => [c]

theorem down_cover {blocks gridY sizeK : Nat} (parts : t.Partitions (fmMbDown * 16))
    (positive : 0 < gridY) :
    ((launch blocks gridY (fmDownKernel t sizeK (blocks * 256) gridY)).filterMap
      addedFor).Perm ((List.range t.numRows).flatMap fun row =>
        (List.range (blocks * 256)).map fun c =>
          (row, t.rowToken.getD row 0 * (blocks * 256) + c)) := by
  have adds : (launch blocks gridY (fmDownKernel t sizeK (blocks * 256) gridY)).filterMap
      addedFor = (List.range blocks).flatMap fun x => (List.range gridY).flatMap fun y =>
        (List.range fmThreads).flatMap fun thread => (strideLoop t.numSegs gridY y).flatMap fun seg =>
          (epilogueRows fmMbDown (t.segRows.getD seg 0) (thread / 32)).flatMap fun r =>
            (List.range 2).flatMap fun s => (List.range 4).flatMap fun i =>
              [(t.segRow0.getD seg 0 + r, t.rowToken.getD (t.segRow0.getD seg 0 + r) 0 *
                (blocks * 256) + x * 256 + thread % 32 * 4 + s * 128 + i)] := by
    simp only [launch, fmDownKernel, segmentLoads, List.filterMap_flatMap, List.filterMap_append,
      List.filterMap_cons, addedFor_load, List.filterMap_nil, List.nil_append, mainloop_adds,
      added_lanes, fmTileN, Nat.reduceMul]
  rw [adds]
  have rows : ((List.range blocks).flatMap fun x => (List.range gridY).flatMap fun y =>
        (List.range fmThreads).flatMap fun thread => (strideLoop t.numSegs gridY y).flatMap fun seg =>
          (epilogueRows fmMbDown (t.segRows.getD seg 0) (thread / 32)).flatMap fun r =>
            (List.range 2).flatMap fun s => (List.range 4).flatMap fun i =>
              [(t.segRow0.getD seg 0 + r, t.rowToken.getD (t.segRow0.getD seg 0 + r) 0 *
                (blocks * 256) + x * 256 + thread % 32 * 4 + s * 128 + i)]).Perm
      ((List.range blocks).flatMap fun x => (List.range t.numRows).flatMap fun row =>
        (List.range 32).flatMap fun lane => (List.range 2).flatMap fun s =>
          (List.range 4).flatMap fun i =>
            [(row, t.rowToken.getD row 0 * (blocks * 256) + x * 256 + lane * 4 + s * 128 + i)]) :=
    List.Perm.flatMap_left _ fun x _ => tile_rows_cover parts positive fun row lane =>
      (List.range 2).flatMap fun s => (List.range 4).flatMap fun i =>
        [(row, t.rowToken.getD row 0 * (blocks * 256) + x * 256 + lane * 4 + s * 128 + i)]
  refine rows.trans ((flatMap_swap_perm _ _ _).trans ?_)
  refine List.Perm.flatMap_left _ fun row _ => ?_
  -- the two halves of a block, each with its lanes
  have halves : ((List.range blocks).flatMap fun x => (List.range 32).flatMap fun lane =>
        (List.range 2).flatMap fun s => (List.range 4).flatMap fun i =>
          [(row, t.rowToken.getD row 0 * (blocks * 256) + x * 256 + lane * 4 + s * 128 + i)]).Perm
      ((List.range blocks).flatMap fun x => (List.range 2).flatMap fun s =>
        (List.range 32).flatMap fun lane => (List.range 4).flatMap fun i =>
          [(row, t.rowToken.getD row 0 * (blocks * 256) + x * 256 + lane * 4 + s * 128 + i)]) :=
    List.Perm.flatMap_left _ fun x _ => flatMap_swap_perm _ _ _
  refine halves.trans (List.Perm.of_eq ?_)
  have columns := columns_cover blocks 256 (t.rowToken.getD row 0 * (blocks * 256))
    fun c => [(row, c)]
  have singles : ((List.range (blocks * 256)).flatMap fun c =>
      [(row, t.rowToken.getD row 0 * (blocks * 256) + c)]) =
      (List.range (blocks * 256)).map fun c => (row, t.rowToken.getD row 0 * (blocks * 256) + c) :=
    List.flatMap_pure_eq_map _ _
  rw [← singles, ← columns]
  refine List.flatMap_congr fun x _ => ?_
  rw [← columns_cover 2 128 (t.rowToken.getD row 0 * (blocks * 256) + x * 256) fun c => [(row, c)]]
  refine List.flatMap_congr fun s _ => ?_
  rw [← lanes_cover (t.rowToken.getD row 0 * (blocks * 256) + x * 256 + s * 128) fun c => [(row, c)]]
  refine List.flatMap_congr fun lane _ => List.flatMap_congr fun i _ => ?_
  congr 2
  omega

def FatTables.sizeOf (t : FatTables W) (rowsCap hidden inter : Nat) : Buffer → Nat
  | .h13 => rowsCap * hidden
  | .h2 => rowsCap * inter
  | .rowToken => t.rowToken.length
  | .rowExpert => t.rowExpert.length
  | .rowWeight => t.rowWeight.length
  | .segExpert => t.segExpert.length
  | .segRow0 => t.segRow0.length
  | .segRows => t.segRows.length

def FatTables.InBounds (t : FatTables W) (rowsCap hidden inter : Nat) : Access → Prop
  | .load buffer i => i < t.sizeOf rowsCap hidden inter buffer
  | .store buffer i => i < t.sizeOf rowsCap hidden inter buffer
  | .atomicAdd row _ => row < t.numRows

structure FatTables.Covers (t : FatTables W) (rowsCap : Nat) : Prop where
  rows : t.numRows ≤ rowsCap
  tokens : rowsCap ≤ t.rowToken.length
  experts : rowsCap ≤ t.rowExpert.length
  weights : rowsCap ≤ t.rowWeight.length

theorem mem_launch {gridX gridY : Nat} {thread : Nat → Nat → Nat → List Access} {access : Access}
    (member : access ∈ launch gridX gridY thread) : ∃ x y i, access ∈ thread x y i := by
  obtain ⟨x, _, inX⟩ := List.mem_flatMap.mp member
  obtain ⟨y, _, inY⟩ := List.mem_flatMap.mp inX
  obtain ⟨i, _, here⟩ := List.mem_flatMap.mp inY
  exact ⟨x, y, i, here⟩

theorem mem_epilogueRows {mb rows warp r : Nat} (member : r ∈ epilogueRows mb rows warp) :
    r < rows := by
  obtain ⟨b, _, inBlock⟩ := List.mem_flatMap.mp member
  obtain ⟨rr, _, here⟩ := List.mem_flatMap.mp inBlock
  dsimp only at here
  split at here
  · obtain rfl := List.mem_singleton.mp here
    omega
  · cases here

theorem segment_row_lt {tile seg r : Nat} (parts : t.Partitions tile) (listed : seg < t.numSegs)
    (inside : r < t.segRows.getD seg 0) : t.segRow0.getD seg 0 + r < t.numRows := by
  refine List.mem_range.mp (parts.rows.mem_iff.mp (List.mem_flatMap.mpr ⟨seg, ?_, ?_⟩))
  · exact List.mem_range.mpr listed
  · exact List.mem_map.mpr ⟨r, List.mem_range.mpr inside, rfl⟩

theorem row_major_lt {row rows width column : Nat} (inside : row < rows) (below : column < width) :
    row * width + column < rows * width := by
  have full := Nat.mul_le_mul_right width (Nat.succ_le_of_lt inside)
  rw [Nat.succ_mul] at full
  omega

theorem segmentLoads_bounds {tile seg rowsCap hidden inter : Nat} (parts : t.Partitions tile)
    (listed : seg < t.numSegs) : ∀ access ∈ segmentLoads seg,
      t.InBounds rowsCap hidden inter access := by
  have room := Nat.lt_of_lt_of_le listed parts.listed
  intro access member
  simp only [segmentLoads, List.mem_cons, List.not_mem_nil, or_false] at member
  rcases member with rfl | rfl | rfl
  · exact room
  · exact Nat.lt_of_lt_of_eq room parts.row0s.symm
  · exact Nat.lt_of_lt_of_eq room parts.counts.symm

theorem gather_bounds {rowsCap blocks inter gridX : Nat} (covers : t.Covers rowsCap)
    (positive : 0 < gridX) :
    ∀ access ∈ launch gridX blocks (fmGatherKernel t (blocks * 128) gridX),
      t.InBounds rowsCap (blocks * 128) inter access := by
  intro access member
  obtain ⟨x, y, thread, ran⟩ := mem_launch member
  obtain ⟨row, visited, touched⟩ := List.mem_flatMap.mp ran
  have strides : 0 < gridX * fmWarps := Nat.mul_pos positive (by decide)
  have below := Nat.lt_of_lt_of_le ((mem_strideLoop strides).mp visited).2.1 covers.rows
  simp only [List.mem_append, List.mem_cons, List.not_mem_nil, or_false, List.mem_map] at touched
  rcases touched with (rfl | rfl) | ⟨i, _, rfl⟩
  · exact Nat.lt_of_lt_of_le below covers.tokens
  · exact Nat.lt_of_lt_of_le below covers.experts
  · have stored := (gather_cover (t := t) positive).mem_iff.mp
      (List.mem_filterMap.mpr ⟨_, member, storedIn_store _ _⟩)
    exact Nat.lt_of_lt_of_le (List.mem_range.mp stored) (Nat.mul_le_mul_right _ covers.rows)

theorem gateup_bounds {rowsCap hidden blocks gridY : Nat} (parts : t.Partitions (fmMbGateup * 16))
    (covers : t.Covers rowsCap) (positive : 0 < gridY) :
    ∀ access ∈ launch blocks gridY (fmGateupKernel t hidden (blocks * 128) gridY),
      t.InBounds rowsCap hidden (blocks * 128) access := by
  intro access member
  obtain ⟨x, y, thread, ran⟩ := mem_launch member
  obtain ⟨seg, visited, touched⟩ := List.mem_flatMap.mp ran
  have listed := ((mem_strideLoop positive).mp visited).2.1
  dsimp only at touched
  rcases List.mem_append.mp touched with loads | stores
  · rcases List.mem_append.mp loads with tables | mainloop
    · exact segmentLoads_bounds parts listed access tables
    · obtain ⟨row, column, inside, below, rfl⟩ := mem_fmMainloop mainloop
      have fat := Nat.lt_of_lt_of_le (segment_row_lt parts listed inside) covers.rows
      exact row_major_lt fat below
  · obtain ⟨r, _, here⟩ := List.mem_flatMap.mp stores
    obtain ⟨i, _, rfl⟩ := List.mem_map.mp here
    have stored := (gateup_cover hidden parts positive).mem_iff.mp
      (List.mem_filterMap.mpr ⟨_, member, storedIn_store _ _⟩)
    exact Nat.lt_of_lt_of_le (List.mem_range.mp stored) (Nat.mul_le_mul_right _ covers.rows)

theorem down_bounds {rowsCap hidden inter blocks gridY : Nat} (parts : t.Partitions (fmMbDown * 16))
    (covers : t.Covers rowsCap) (positive : 0 < gridY) :
    ∀ access ∈ launch blocks gridY (fmDownKernel t inter hidden gridY),
      t.InBounds rowsCap hidden inter access := by
  intro access member
  obtain ⟨x, y, thread, ran⟩ := mem_launch member
  obtain ⟨seg, visited, touched⟩ := List.mem_flatMap.mp ran
  have listed := ((mem_strideLoop positive).mp visited).2.1
  dsimp only at touched
  rcases List.mem_append.mp touched with loads | epilogue
  · rcases List.mem_append.mp loads with tables | mainloop
    · exact segmentLoads_bounds parts listed access tables
    · obtain ⟨row, column, inside, below, rfl⟩ := mem_fmMainloop mainloop
      have fat := Nat.lt_of_lt_of_le (segment_row_lt parts listed inside) covers.rows
      exact row_major_lt fat below
  · obtain ⟨r, own, here⟩ := List.mem_flatMap.mp epilogue
    have fat := segment_row_lt parts listed (mem_epilogueRows own)
    have capped := Nat.lt_of_lt_of_le fat covers.rows
    rcases List.mem_append.mp here with tables | adds
    · simp only [List.mem_cons, List.not_mem_nil, or_false] at tables
      rcases tables with rfl | rfl
      · exact Nat.lt_of_lt_of_le capped covers.weights
      · exact Nat.lt_of_lt_of_le capped covers.tokens
    · obtain ⟨s, _, inHalf⟩ := List.mem_flatMap.mp adds
      obtain ⟨i, _, rfl⟩ := List.mem_map.mp inHalf
      exact fat

theorem fmGridY_pos (maxSegs : Nat) : 0 < fmGridY maxSegs := by
  unfold fmGridY
  dsimp only
  split <;> split <;> omega

theorem gatherGridX_pos (rowsCap : Nat) : 0 < gatherGridX rowsCap := by
  unfold gatherGridX
  dsimp only
  split <;> split <;> omega

theorem launches_cover {rowsCap hidden inter : Nat} (parts : t.Partitions 64)
    (covers : t.Covers rowsCap) (hiddenBlocks : 256 ∣ hidden) (interBlocks : 128 ∣ inter)
    (filled : 0 < hidden ∧ 0 < inter) :
    (∃ trace, exl3FatMoeGather t rowsCap hidden = some trace ∧
      (trace.filterMap (storedIn .h13)).Perm (List.range (t.numRows * hidden)) ∧
      ∀ access ∈ trace, t.InBounds rowsCap hidden inter access) ∧
    (∃ trace, exl3FatMoeGateup t hidden inter = some trace ∧
      (trace.filterMap (storedIn .h2)).Perm (List.range (t.numRows * inter)) ∧
      ∀ access ∈ trace, t.InBounds rowsCap hidden inter access) ∧
    ∃ trace, exl3FatMoeDown t rowsCap inter hidden = some trace ∧
      (trace.filterMap addedFor).Perm ((List.range t.numRows).flatMap fun row =>
        (List.range hidden).map fun c => (row, t.rowToken.getD row 0 * hidden + c)) ∧
      ∀ access ∈ trace, t.InBounds rowsCap hidden inter access := by
  obtain ⟨halves, rfl⟩ := hiddenBlocks
  obtain ⟨blocks, rfl⟩ := interBlocks
  have segments : segmentsChecked t := ⟨parts.row0s, parts.counts⟩
  have deep : (256 * halves % fmTileK = 0 ∧ fmTileK ≤ 256 * halves) ∧
      128 * blocks % fmTileK = 0 ∧ fmTileK ≤ 128 * blocks := by
    unfold fmTileK
    omega
  have wide : 128 * blocks % fmTileN = 0 ∧ 256 * halves % fmTileN = 0 ∧
      256 * halves % (2 * fmTileN) = 0 := by
    unfold fmTileN
    omega
  have counts : 128 * blocks / fmTileN = blocks ∧ 256 * halves / (2 * fmTileN) = halves := by
    unfold fmTileN
    omega
  refine ⟨?_, ?_, ?_⟩
  · have width : 256 * halves = halves * 2 * 128 := by omega
    have count : 256 * halves / 128 = halves * 2 := by omega
    refine ⟨_, if_pos ⟨by omega, covers.tokens, covers.experts⟩, ?_⟩
    rw [count, width]
    exact ⟨gather_cover (gatherGridX_pos rowsCap),
      gather_bounds covers (gatherGridX_pos rowsCap)⟩
  · have width : 128 * blocks = blocks * 128 := by omega
    refine ⟨_, if_pos ⟨deep.1, wide.1, segments⟩, ?_⟩
    rw [counts.1, width]
    exact ⟨gateup_cover _ parts (fmGridY_pos _), gateup_bounds parts covers (fmGridY_pos _)⟩
  · have width : 256 * halves = halves * 256 := by omega
    refine ⟨_, if_pos ⟨deep.2, wide.2.1, covers.tokens, covers.weights, segments, wide.2.2⟩, ?_⟩
    rw [counts.2, width]
    exact ⟨down_cover parts (fmGridY_pos _), down_bounds parts covers (fmGridY_pos _)⟩

end Tables

section Built
variable (groups : Nat → List (Nat × W)) (cap n : Nat) (rest : List (Nat × W)) {tile : Nat}

theorem built_partitions (positive : 0 < tile) :
    (tablesOf groups cap n rest tile).Partitions tile where
  listed := by
    have fits := segments_fit groups cap n rest tile positive
    rw [← num_segs_eq groups cap n rest] at fits
    simpa [tablesOf, buildGroupedFatTables, sizes_length] using fits
  row0s := by simp [tablesOf, buildGroupedFatTables]
  counts := by simp [tablesOf, buildGroupedFatTables]
  heights := by
    intro seg listed
    rw [num_segs_eq] at listed
    rw [(segment_at groups cap n rest tile positive seg listed).2.2]
    exact Nat.min_le_right _ _
  rows := by
    have visited := congrArg (List.map Prod.snd) (visited_eq groups cap n rest tile positive)
    rw [FatTables.visited, List.map_flatMap, List.map_map] at visited
    rw [num_rows_eq]
    refine List.Perm.of_eq (Eq.trans ?_ (visited.trans (List.map_id _)))
    refine List.flatMap_congr fun seg _ => ?_
    rw [List.map_map]
    rfl

theorem select_length {α : Type} (values : List α) (index : List Nat)
    (inside : ∀ i ∈ index, i < values.length) :
    (indexSelect values index).length = index.length := by
  induction index with
  | nil => rfl
  | cons i later ih =>
    obtain ⟨here, others⟩ := List.forall_mem_cons.mp inside
    rw [indexSelect, List.filterMap_cons_some (List.getElem?_eq_getElem here), List.length_cons,
      List.length_cons]
    exact congrArg (· + 1) (ih others)

theorem built_covers : (tablesOf groups cap n rest tile).Covers (buffer groups n rest).length := by
  have selected : ∀ {α : Type} (field : Nat × W → α) (src : Nat → Nat),
      (indexSelect ((buffer groups n rest).map field)
        ((List.range (buffer groups n rest).length).map fun r =>
          min (src r) ((buffer groups n rest).length - 1))).length =
        (buffer groups n rest).length := by
    intro α field src
    rw [select_length, List.length_map, List.length_range]
    intro i member
    obtain ⟨r, inside, rfl⟩ := List.mem_map.mp member
    rw [List.length_map]
    have below := List.mem_range.mp inside
    omega
  constructor
  · rw [num_rows_eq]
    exact fat_rows_fit groups cap n rest
  · exact Nat.le_of_eq (selected Prod.fst _).symm
  · simp [tablesOf, buildGroupedFatTables]
  · exact Nat.le_of_eq (selected Prod.snd _).symm

end Built

/-- The builder's tables partition the fat rows into the kernels' tiles; and over such tables
    each launch writes or adds every fat row and column once, within the buffers. -/
theorem fat_kernels_visit_once :
    (∀ (W : Type) (groups : Nat → List (Nat × W)) (cap n : Nat) (rest : List (Nat × W)),
      (tablesOf groups cap n rest (fmMbGateup * 16)).Partitions 64 ∧
      (tablesOf groups cap n rest (fmMbGateup * 16)).Covers (buffer groups n rest).length) ∧
    ∀ (W : Type) (t : FatTables W) (rowsCap hidden inter : Nat), t.Partitions 64 →
      t.Covers rowsCap → 256 ∣ hidden → 128 ∣ inter → 0 < hidden ∧ 0 < inter →
      (∃ trace, exl3FatMoeGather t rowsCap hidden = some trace ∧
        (trace.filterMap (storedIn .h13)).Perm (List.range (t.numRows * hidden)) ∧
        ∀ access ∈ trace, t.InBounds rowsCap hidden inter access) ∧
      (∃ trace, exl3FatMoeGateup t hidden inter = some trace ∧
        (trace.filterMap (storedIn .h2)).Perm (List.range (t.numRows * inter)) ∧
        ∀ access ∈ trace, t.InBounds rowsCap hidden inter access) ∧
      ∃ trace, exl3FatMoeDown t rowsCap inter hidden = some trace ∧
        (trace.filterMap addedFor).Perm ((List.range t.numRows).flatMap fun row =>
          (List.range hidden).map fun c => (row, t.rowToken.getD row 0 * hidden + c)) ∧
        ∀ access ∈ trace, t.InBounds rowsCap hidden inter access := by
  constructor
  · intro W groups cap n rest
    exact ⟨built_partitions groups cap n rest (by decide), built_covers groups cap n rest⟩
  · intro W t rowsCap hidden inter parts covers hiddenBlocks interBlocks filled
    exact launches_cover parts covers hiddenBlocks interBlocks filled

end FusedMoe
