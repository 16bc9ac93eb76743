import Glm53Overlay.FusedMoe.ExpertGroups

/-!
Row tiles. Each launch takes the next `cap` slots of every expert, so that none is over
the cap; together the tiles hold every slot of every expert once.
-/
namespace FusedMoe
open SegmentedRange
variable {S D X XH M MH V W : Type}

section Tile
variable (groups : Nat → List (Nat × W)) (n : Nat) (rest : List (Nat × W)) (tile t : Nat)

def tileGroup (e : Nat) : List (Nat × W) := ((groups e).drop (t * tile)).take tile

theorem tile_counts_eq :
    ((sizes groups n).map fun c => min (c - t * tile) tile) = sizes (tileGroup groups tile t) n := by
  simp [sizes, tileGroup, Nat.min_comm, Function.comp_def]

theorem tile_gather :
    indexSelect (buffer groups n rest)
        ((List.range (sizes (tileGroup groups tile t) n).sum).map fun i =>
          (0 :: cumsum (sizes groups n).dropLast).getD
              (locate (sizes (tileGroup groups tile t) n) i).1 0 +
            t * tile + (locate (sizes (tileGroup groups tile t) n) i).2) =
      buffer (tileGroup groups tile t) n [] := by
  have visit := range_locate (sizes (tileGroup groups tile t) n)
  have positions : ((List.range (sizes (tileGroup groups tile t) n).sum).map fun i =>
      (0 :: cumsum (sizes groups n).dropLast).getD
          (locate (sizes (tileGroup groups tile t) n) i).1 0 +
        t * tile + (locate (sizes (tileGroup groups tile t) n) i).2) =
      (rows (sizes (tileGroup groups tile t) n)).map fun r =>
        (0 :: cumsum (sizes groups n).dropLast).getD r.1 0 + t * tile + r.2 := by
    rw [← visit, List.map_map]
    rfl
  have target : buffer (tileGroup groups tile t) n [] =
      (List.range n).flatMap (tileGroup groups tile t) := List.append_nil _
  rw [positions, target, rows, sizes_length, indexSelect, List.map_flatMap, List.filterMap_flatMap]
  apply List.flatMap_congr
  intro e member
  have below := List.mem_range.mp member
  have start := shifted_cumsum_at (sizes groups n) e (by rwa [sizes_length])
  rw [sizes_at _ n e below, List.map_map, List.filterMap_map]
  simp only [Function.comp_def, start]
  have read : ∀ j ∈ List.range (tileGroup groups tile t e).length,
      (buffer groups n rest)[((sizes groups n).take e).sum + t * tile + j]? =
        (groups e)[t * tile + j]? := by
    intro j inside
    have short := List.mem_range.mp inside
    simp only [tileGroup, List.length_take, List.length_drop] at short
    rw [Nat.add_assoc]
    exact item_of_group groups n rest e _ below (by omega)
  rw [List.filterMap_congr read, read_range, tileGroup, take_tile_length]

theorem tile_group_within (e : Nat) : (tileGroup groups tile t e).length ≤ tile := by
  simp [tileGroup]
end Tile

section Tiles
variable (stages : Stages S D X XH M MH V W) (packs : List (Pack S D XH M MH V))
  (dev : Device X XH MH V W) [AddCommMonoid V] (kernel : MoeKernelSpec stages packs dev)
  (x : Nat → X) (groups : Nat → List (Nat × W)) (rest : List (Nat × W)) (out : Rows V)

include kernel in
theorem tile_launch (t : Nat) :
    (let tileCounts := (sizes groups packs.length).map fun c => min (c - t * dev.cap) dev.cap
     if tileCounts.sum = 0 then out
     else
      let src := (List.range tileCounts.sum).map fun i =>
        (0 :: cumsum (sizes groups packs.length).dropLast).getD (locate tileCounts i).1 0 +
          t * dev.cap + (locate tileCounts i).2
      dev.exl3Moe x out (tileCounts ++ [0])
        (indexSelect ((buffer groups packs.length rest).map Prod.fst) src)
        (indexSelect ((buffer groups packs.length rest).map Prod.snd) src)) =
      indexAdd out ((List.range packs.length).flatMap
        (groupAdditions stages packs x (tileGroup groups dev.cap t))) := by
  simp only [tile_counts_eq, index_select_map, tile_gather]
  by_cases empty : (sizes (tileGroup groups dev.cap t) packs.length).sum = 0
  · have nothing : (List.range packs.length).flatMap
        (groupAdditions stages packs x (tileGroup groups dev.cap t)) = [] := by
      rw [sizes_sum, List.length_eq_zero_iff, List.flatMap_eq_nil_iff] at empty
      rw [List.flatMap_eq_nil_iff]
      intro e member
      rw [groupAdditions, empty e member, List.flatMap_nil]
    rw [if_pos empty, nothing]
    rfl
  · have launched := launch_groups stages packs dev kernel x (tileGroup groups dev.cap t) [] out
    rw [all_thin _ _ _ fun e _ => tile_group_within groups dev.cap t e, List.length_nil] at launched
    rw [if_neg empty, launched]

include kernel in
theorem row_tiles_groups (positive : 1 ≤ dev.cap) (maxRows : Nat)
    (most : ∀ e < packs.length, (groups e).length ≤ maxRows) :
    exl3MoeRowTiles x dev (sizes groups packs.length)
        ((buffer groups packs.length rest).map Prod.fst)
        ((buffer groups packs.length rest).map Prod.snd) maxRows out =
      indexAdd out ((List.range packs.length).flatMap (groupAdditions stages packs x groups)) := by
  have loop : ∀ out, exl3MoeRowTiles x dev (sizes groups packs.length)
      ((buffer groups packs.length rest).map Prod.fst)
      ((buffer groups packs.length rest).map Prod.snd) maxRows out =
        (List.range ((maxRows + dev.cap - 1) / dev.cap)).foldl (fun out t =>
          indexAdd out ((List.range packs.length).flatMap
            (groupAdditions stages packs x (tileGroup groups dev.cap t)))) out := by
    intro out
    rw [exl3MoeRowTiles]
    congr 1
    funext out t
    exact tile_launch stages packs dev kernel x groups rest out t
  rw [loop, foldl_index_add]
  apply index_add_perm
  apply (flatMap_swap_perm _ _ _).trans
  apply List.Perm.of_eq
  apply List.flatMap_congr
  intro e member
  have enough : (groups e).length ≤ (maxRows + dev.cap - 1) / dev.cap * dev.cap := by
    have bound := most e (List.mem_range.mp member)
    have division := Nat.div_add_mod (maxRows + dev.cap - 1) dev.cap
    have remainder := Nat.mod_lt (maxRows + dev.cap - 1) positive
    rw [Nat.mul_comm] at division
    omega
  have covered := tiles_of_list (groups e) dev.cap _ enough
  conv_rhs => rw [groupAdditions, ← covered, List.flatMap_assoc]
  rfl
end Tiles
end FusedMoe
