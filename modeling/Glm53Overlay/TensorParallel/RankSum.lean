import Glm53Overlay.TensorParallel.ExpertLinear
import Mathlib.Data.List.Nodup
import Mathlib.Tactic.IntervalCases

/-!
Loading a whole checkpoint on every rank, in any order. Each call writes its own place and
leaves the others alone, so afterwards every place holds the shard of its tensor; with the
slices of the linear layers the ranks' results add up to the unsharded expert.
-/
namespace TensorParallel
open Finset
variable {V : Type}

theorem nameTail_of_dot (module base : List Char) (plain : '.' ∉ base) :
    nameTail (module ++ '.' :: base) = base := by
  have stop : (base.reverse ++ '.' :: module.reverse).takeWhile (· ≠ '.') = base.reverse := by
    rw [List.takeWhile_append_of_pos]
    · simp
    · intro ch member
      have differ : ch ≠ '.' := by
        rintro rfl
        exact plain (List.mem_reverse.mp member)
      simpa using differ
  unfold nameTail
  rw [List.reverse_append, List.reverse_cons, List.append_assoc, List.singleton_append, stop,
    List.reverse_reverse]

theorem suffix_of_mapped (module : List Char) (stack : Stack) (s : Suffix) :
    suffixFromMappedName (module ++ '.' :: (stack.word ++ '_' :: s.word)) = .ok s := by
  have plain : '.' ∉ stack.word ++ '_' :: s.word := by
    cases stack <;> cases s <;> decide
  unfold suffixFromMappedName
  rw [nameTail_of_dot module _ plain]
  cases stack <;> cases s <;> rfl

def Proj.shardDim : Proj → Suffix → Option Nat
  | .down, .trellis => some 0
  | .down, .suh => some 0
  | .down, _ => none
  | _, .trellis => some 1
  | _, .svh => some 0
  | _, _ => none

def shardOf (p : Proj) (s : Suffix) (t : Tensor V) (tpRank tpSize : Nat) :
    Except LoadError (Tensor V) :=
  match p.shardDim s with
  | some dim => narrowTp t dim tpRank tpSize
  | none => .ok t

theorem shardFor_loadOf (checkpoint : Source → Tensor V) (module : List Char)
    (returnSuccess : Bool) (source : Source) (expert tpRank tpSize : Nat) :
    shardFor (loadOf checkpoint module returnSuccess source) expert tpRank tpSize =
      (shardOf source.2.1 source.2.2 (checkpoint source) tpRank tpSize).map
        (·, source.2.1.path expert) := by
  obtain ⟨e, p, s⟩ := source
  unfold shardFor
  rw [show (loadOf checkpoint module returnSuccess (e, p, s)).weightName =
    module ++ '.' :: (p.stack.word ++ '_' :: s.word) from rfl, suffix_of_mapped]
  cases p <;> cases s <;> rfl

theorem narrowTp_ok {t : Tensor V} {dim chunk tpRank tpSize : Nat} (positive : 1 ≤ tpSize)
    (rank : tpRank < tpSize) (size : t.shape[dim]? = some (tpSize * chunk)) :
    ∃ shard, narrowTp t dim tpRank tpSize = .ok shard ∧
      shard.shape = t.shape.set dim chunk ∧
      ∀ index, shard.get index = t.get (index.modify dim (chunk * tpRank + ·)) := by
  unfold narrowTp
  by_cases single : tpSize ≤ 1
  · have one : tpSize = 1 := Nat.le_antisymm single positive
    have zero : tpRank = 0 := by omega
    subst one zero
    rw [Nat.one_mul] at size
    refine ⟨t, by rw [if_pos single], ?_, ?_⟩
    · obtain ⟨bound, same⟩ := List.getElem?_eq_some_iff.mp size
      rw [← same, List.set_getElem_self]
    · intro index
      have unmoved : (fun i => chunk * 0 + i) = id := by
        funext i
        simp
      rw [unmoved, List.modify_id]
  · rw [if_neg single, size]
    have divides : tpSize * chunk % tpSize = 0 := Nat.mul_mod_right _ _
    have quotient : tpSize * chunk / tpSize = chunk := Nat.mul_div_cancel_left _ (by omega)
    simp only [divides, quotient, ne_eq, not_true_eq_false, ↓reduceIte]
    exact ⟨_, rfl, rfl, fun _ => rfl⟩

/-- A deployment: sizes in whole blocks, an expert map that is injective on the local experts
    and stays inside the allocated ones, and a checkpoint of the matching shapes. -/
structure Deployment (V : Type) where
  hiddenSize : Nat
  intermediateLocal : Nat
  bits : Nat
  tpSize : Nat
  numExperts : Nat
  numGlobal : Nat
  positive : 1 ≤ tpSize
  hiddenWhole : 128 ∣ hiddenSize
  localWhole : 128 ∣ intermediateLocal
  expertMap : Nat → Option Nat
  inside : ∀ e < numGlobal, ∀ l, expertMap e = some l → l < numExperts
  injective : ∀ e < numGlobal, ∀ f < numGlobal, ∀ l, expertMap e = some l →
    expertMap f = some l → e = f
  checkpoint : Source → Tensor V
  shapes : ∀ e < numGlobal, ∀ p s, (checkpoint (e, p, s)).shape =
    checkpointShape hiddenSize (tpSize * intermediateLocal) bits p s

variable (d : Deployment V)

def Deployment.intermediateSize : Nat := d.tpSize * d.intermediateLocal

def Deployment.paramShape (name : ParamName) : List Nat :=
  TensorParallel.paramShape d.numExperts d.hiddenSize d.intermediateLocal d.bits name

/-- How many entries of the sharded dimension one rank holds. -/
def Deployment.chunk : Suffix → Nat
  | .trellis => d.intermediateLocal / 16
  | _ => d.intermediateLocal

def Deployment.place (r : Nat) (p : Proj) (s : Suffix) (index : List Nat) : List Nat :=
  match p.shardDim s with
  | some dim => index.modify dim (d.chunk s * r + ·)
  | none => index

theorem shard_of_checkpoint {r e : Nat} (rank : r < d.tpSize) (known : e < d.numGlobal)
    (p : Proj) (s : Suffix) (l : Nat) :
    ∃ shard, shardOf p s (d.checkpoint (e, p, s)) r d.tpSize = .ok shard ∧
      shard.shape = (d.paramShape (p.stack, s)).drop (p.path l).length ∧
      ∀ index, shard.get index = (d.checkpoint (e, p, s)).get (d.place r p s index) := by
  have shape := d.shapes e known p s
  have tiles : d.tpSize * d.intermediateLocal / 16 = d.tpSize * (d.intermediateLocal / 16) :=
    Nat.mul_div_assoc _ (Nat.dvd_trans (by decide) d.localWhole)
  unfold shardOf Deployment.place
  cases dim : p.shardDim s with
  | none =>
    refine ⟨_, rfl, ?_, fun _ => rfl⟩
    rw [shape]
    cases p <;> cases s <;> first | rfl | cases dim
  | some i =>
    have sized : (d.checkpoint (e, p, s)).shape[i]? = some (d.tpSize * d.chunk s) := by
      rw [shape]
      cases p <;> cases s <;> cases dim <;> simp [checkpointShape, Deployment.chunk, tiles]
    obtain ⟨shard, narrowed, narrowShape, entries⟩ := narrowTp_ok d.positive rank sized
    refine ⟨shard, narrowed, ?_, entries⟩
    rw [narrowShape, shape]
    cases p <;> cases s <;> cases dim <;> rfl

def Deployment.writeOf (source : Source) : Option (Write Source) :=
  (d.expertMap source.1).map fun l =>
    ⟨(source.2.1.stack, source.2.2), source.2.1.path l, source⟩

structure Loaded (r : Nat) (done : List Source) (layer : Layer V Source) : Prop where
  shapes : ∀ name, (layer.params name).shape = d.paramShape name
  data : ∀ source ∈ done, ∀ l, d.expertMap source.1 = some l → ∀ index,
    (layer.params (source.2.1.stack, source.2.2)).get (source.2.1.path l ++ index) =
      (d.checkpoint source).get (d.place r source.2.1 source.2.2 index)
  written : layer.written = done.filterMap d.writeOf

theorem path_inj {p q : Proj} {l m : Nat} (stack : p.stack = q.stack)
    (same : p.path l = q.path m) : p = q ∧ l = m := by
  cases p <;> cases q <;> cases stack <;> simp_all [Proj.path]

theorem path_length {p q : Proj} (stack : p.stack = q.stack) (l m : Nat) :
    (p.path l).length = (q.path m).length := by
  cases p <;> cases q <;> cases stack <;> rfl

theorem paramShape_path (p : Proj) (s : Suffix) {l : Nat} (bound : l < d.numExperts) (t : Tensor V)
    (shape : t.shape = d.paramShape (p.stack, s)) : t.hasPath (p.path l) = true := by
  unfold Tensor.hasPath
  rw [shape]
  cases p <;> cases s <;>
    simp [Deployment.paramShape, paramShape, Proj.path, Proj.stack, bound]

theorem get_copyAt_own (t source : Tensor V) (path index : List Nat) :
    (t.copyAt path source).get (path ++ index) = source.get index := by
  simp [Tensor.copyAt]

theorem get_copyAt_other (t source : Tensor V) {path other : List Nat} (index : List Nat)
    (size : other.length = path.length) (differ : other ≠ path) :
    (t.copyAt path source).get (other ++ index) = t.get (other ++ index) := by
  simp only [Tensor.copyAt]
  rw [← size, List.take_left, if_neg differ]

section
variable {d} {r : Nat} {done : List Source} {layer : Layer V Source} (module : List Char)
  (returnSuccess : Bool)

theorem load_step (rank : r < d.tpSize) (loaded : Loaded d r done layer) {source : Source}
    (known : source.1 < d.numGlobal)
    (earlier : ∀ old ∈ done, old.1 < d.numGlobal) :
    ∃ value next, loadExl3 d.expertMap r d.tpSize layer
        (loadOf d.checkpoint module returnSuccess source) = (.ok value, next) ∧
      Loaded d r (done ++ [source]) next := by
  obtain ⟨e, p, s⟩ := source
  unfold loadExl3
  rw [show (loadOf d.checkpoint module returnSuccess (e, p, s)).expertId = e from rfl]
  cases mapped : d.expertMap e with
  | none =>
    refine ⟨_, layer, rfl, loaded.shapes, ?_, ?_⟩
    · intro old member l local'
      rcases List.mem_append.mp member with before | new
      · exact loaded.data old before l local'
      · rw [List.mem_singleton.mp new, mapped] at local'
        cases local'
    · rw [loaded.written, List.filterMap_append]
      simp [Deployment.writeOf, mapped]
  | some l =>
    have bound := d.inside e known l mapped
    obtain ⟨shard, sharded, shape, entries⟩ := shard_of_checkpoint d rank known p s l
    have path := paramShape_path d p s bound (layer.params (p.stack, s)) (loaded.shapes _)
    simp only [shardFor_loadOf, sharded, Except.map]
    rw [show (loadOf d.checkpoint module returnSuccess (e, p, s)).param = (p.stack, s) from rfl,
      path, if_neg (by simp), if_neg (by simp [Tensor.view, shape, loaded.shapes])]
    refine ⟨_, _, rfl, ?_, ?_, ?_⟩
    · intro name
      dsimp only
      split
      · rename_i same
        rw [same]
        exact loaded.shapes _
      · exact loaded.shapes name
    · intro old member k local' index
      obtain ⟨f, q, u⟩ := old
      dsimp only at local' ⊢
      by_cases same : (q.stack, u) = (p.stack, s)
      · rw [if_pos same]
        obtain ⟨stack, rfl⟩ := Prod.mk.inj same
        by_cases here : q.path k = p.path l
        · obtain ⟨rfl, rfl⟩ := path_inj stack here
          have fKnown : f < d.numGlobal := by
            rcases List.mem_append.mp member with before | new
            · exact earlier _ before
            · cases List.mem_singleton.mp new
              exact known
          have expert := d.injective f fKnown e known k local' mapped
          subst expert
          rw [get_copyAt_own]
          exact entries index
        · have before : (f, q, u) ∈ done := by
            refine (List.mem_append.mp member).resolve_right ?_
            intro new
            cases List.mem_singleton.mp new
            rw [mapped] at local'
            cases local'
            exact here rfl
          rw [get_copyAt_other _ _ _ (path_length stack k l) here, ← stack]
          exact loaded.data _ before k local' index
      · rw [if_neg same]
        have before : (f, q, u) ∈ done := by
          refine (List.mem_append.mp member).resolve_right ?_
          intro new
          cases List.mem_singleton.mp new
          exact same rfl
        exact loaded.data _ before k local' index
    · rw [loaded.written, List.filterMap_append]
      simp [Deployment.writeOf, mapped, loadOf]

theorem load_run (rank : r < d.tpSize) (rest : List Source) :
    ∀ (done : List Source) (layer : Layer V Source), Loaded d r done layer →
      (∀ source ∈ done ++ rest, source.1 < d.numGlobal) →
      (∀ result ∈ (loadAll d.expertMap r d.tpSize layer
        (rest.map (loadOf d.checkpoint module returnSuccess))).1, ∃ value, result = .ok value) ∧
      Loaded d r (done ++ rest) (loadAll d.expertMap r d.tpSize layer
        (rest.map (loadOf d.checkpoint module returnSuccess))).2 := by
  induction rest with
  | nil =>
    intro done layer loaded _
    rw [List.append_nil]
    exact ⟨fun _ none => (by cases none), loaded⟩
  | cons source rest ih =>
    intro done layer loaded known
    obtain ⟨value, next, step, loadedNext⟩ := load_step module returnSuccess rank loaded
      (known source (by simp)) (fun old before => known old (by simp [before]))
    rw [List.append_cons] at known
    obtain ⟨results, final⟩ := ih (done ++ [source]) next loadedNext known
    rw [List.map_cons, loadAll, step, List.append_cons]
    refine ⟨?_, final⟩
    intro result member
    rcases List.mem_cons.mp member with rfl | later
    · exact ⟨value, rfl⟩
    · exact results result later

end

theorem mem_allSources (numGlobal : Nat) (source : Source) :
    source ∈ allSources numGlobal ↔ source.1 < numGlobal := by
  obtain ⟨e, p, s⟩ := source
  unfold allSources
  rw [List.mem_flatMap]
  constructor
  · rintro ⟨f, inside, member⟩
    obtain ⟨q, _, suffixes⟩ := List.mem_flatMap.mp member
    obtain ⟨u, _, same⟩ := List.mem_map.mp suffixes
    cases same
    exact List.mem_range.mp inside
  · intro inside
    refine ⟨e, List.mem_range.mpr inside, List.mem_flatMap.mpr ⟨p, ?_, List.mem_map.mpr
      ⟨s, ?_, rfl⟩⟩⟩
    · cases p <;> decide
    · cases s <;> decide

theorem allSources_nodup (numGlobal : Nat) : (allSources numGlobal).Nodup := by
  unfold allSources
  rw [List.nodup_flatMap]
  constructor
  · intro e _
    simp [exl3Suffixes]
  · refine List.nodup_range.imp ?_
    intro e f differ
    simp only [Function.onFun, List.disjoint_left]
    intro source first second
    obtain ⟨p, _, suffixes⟩ := List.mem_flatMap.mp first
    obtain ⟨s, _, rfl⟩ := List.mem_map.mp suffixes
    obtain ⟨q, _, others⟩ := List.mem_flatMap.mp second
    obtain ⟨u, _, same⟩ := List.mem_map.mp others
    exact differ (congrArg Prod.fst same).symm

theorem filter_filterMap_single {order : List Source} {f : Source → Option (Write Source)}
    {q : Write Source → Bool} (source : Source) {write : Write Source} (nodup : order.Nodup)
    (member : source ∈ order) (here : f source = some write) (passes : q write = true)
    (only : ∀ other ∈ order, ∀ w, f other = some w → q w = true → other = source) :
    (order.filterMap f).filter q = [write] := by
  obtain ⟨before, after, rfl⟩ := List.append_of_mem member
  have apart := List.nodup_append.mp nodup
  have none : ∀ part : List Source, (∀ other ∈ part, other ∈ before ++ source :: after) →
      source ∉ part → (part.filterMap f).filter q = [] := by
    intro part inside absent
    refine List.filter_eq_nil_iff.mpr ?_
    intro w mapped pass
    obtain ⟨other, listed, value⟩ := List.mem_filterMap.mp mapped
    exact absent (only other (inside other listed) w value pass ▸ listed)
  have first := none before (fun _ listed => by simp [listed])
    (fun again => apart.2.2 source again source List.mem_cons_self rfl)
  have last := none after (fun _ listed => by simp [listed])
    (List.nodup_cons.mp apart.2.1).1
  rw [List.filterMap_append, List.filter_append, first, List.nil_append,
    List.filterMap_cons_some here, List.filter_cons_of_pos passes, last]

def Layer.tensors {S : Type} (layer : Layer V S) (l : Nat) (p : Proj) : Packed V where
  trellis := (layer.params (p.stack, .trellis)).view (p.path l)
  suh := (layer.params (p.stack, .suh)).view (p.path l)
  svh := (layer.params (p.stack, .svh)).view (p.path l)
  mcg := (layer.params (p.stack, .mcg)).view (p.path l)

def Deployment.tensors (e : Nat) (p : Proj) : Packed V where
  trellis := d.checkpoint (e, p, .trellis)
  suh := d.checkpoint (e, p, .suh)
  svh := d.checkpoint (e, p, .svh)
  mcg := d.checkpoint (e, p, .mcg)

section
variable {d} {r : Nat} {done : List Source} {layer : Layer V Source} {e l : Nat} {p : Proj}

theorem view_shape (loaded : Loaded d r done layer) (s : Suffix) :
    ((layer.params (p.stack, s)).view (p.path l)).shape =
      (d.paramShape (p.stack, s)).drop (p.path l).length := by
  rw [Tensor.view, loaded.shapes]

theorem view_get (loaded : Loaded d r done layer) (mapped : d.expertMap e = some l)
    (all : ∀ s, (e, p, s) ∈ done) (s : Suffix) (index : List Nat) :
    ((layer.params (p.stack, s)).view (p.path l)).get index =
      (d.checkpoint (e, p, s)).get (d.place r p s index) :=
  loaded.data (e, p, s) (all s) l mapped index

theorem tile_start (d : Deployment V) (r : Nat) :
    d.intermediateLocal * r / 16 = d.intermediateLocal / 16 * r :=
  Nat.mul_div_right_comm (Nat.dvd_trans (by decide) d.localWhole) r

theorem columnSlice_of_loaded (loaded : Loaded d r done layer) (known : e < d.numGlobal)
    (mapped : d.expertMap e = some l) (all : ∀ s, (e, p, s) ∈ done) (column : p ≠ .down) :
    ColumnSlice (d.tensors e p) (layer.tensors l p) (d.intermediateLocal * r) where
  suh := by
    have shape := (view_shape (l := l) (p := p) loaded .suh).trans
      (show _ = (d.checkpoint (e, p, .suh)).shape by
        rw [d.shapes e known]
        cases p <;> first | rfl | exact absurd rfl column)
    have entries := view_get loaded mapped all .suh
    have unsharded : ∀ index, d.place r p .suh index = index := by
      intro index
      cases p <;> first | rfl | exact absurd rfl column
    simp only [unsharded] at entries
    exact Tensor.ext shape (funext entries)
  mcg := by
    refine (view_get loaded mapped all .mcg [0]).trans ?_
    cases p <;> rfl
  words := by
    simp only [Layer.tensors, Deployment.tensors, view_shape loaded, d.shapes e known]
    cases p <;> rfl
  svh := by
    intro o
    refine (view_get loaded mapped all .svh [o]).trans ?_
    cases p <;> first | rfl | exact absurd rfl column
  trellis := by
    intro a b k
    refine (view_get loaded mapped all .trellis [a, b, k]).trans ?_
    rw [tile_start]
    cases p <;> first | rfl | exact absurd rfl column

theorem rowSlice_of_loaded (loaded : Loaded d r done layer) (known : e < d.numGlobal)
    (mapped : d.expertMap e = some l) (all : ∀ s, (e, .down, s) ∈ done) :
    RowSlice (d.tensors e .down) (layer.tensors l .down) (d.intermediateLocal * r) where
  svh o := view_get loaded mapped all .svh [o]
  mcg := view_get loaded mapped all .mcg [0]
  words := by
    simp only [Layer.tensors, Deployment.tensors, view_shape loaded, d.shapes e known]
    rfl
  suh j := view_get loaded mapped all .suh [j]
  trellis a b k := by
    rw [tile_start]
    exact view_get loaded mapped all .trellis [a, b, k]

theorem inFeatures_down (loaded : Loaded d r done layer) :
    (layer.tensors l .down).inFeatures = d.intermediateLocal := by
  rw [Packed.inFeatures, Layer.tensors, view_shape loaded]
  exact Nat.mul_one _

theorem inFeatures_full (known : e < d.numGlobal) :
    (d.tensors e .down).inFeatures = d.tpSize * d.intermediateLocal := by
  rw [Packed.inFeatures, Deployment.tensors, d.shapes e known]
  exact Nat.mul_one _

theorem covering_proj (name : ParamName) {index : List Nat} (first : index.head? = some l)
    (inside : List.Forall₂ (· < ·) index (d.paramShape name)) :
    ∃ p : Proj, p.stack = name.1 ∧ (p.path l) <+: index ∧
      ∀ (q : Proj) (m : Nat), q.stack = name.1 → q.path m <+: index → q = p ∧ m = l := by
  obtain ⟨stack, s⟩ := name
  cases index with
  | nil => cases first
  | cons i index =>
    cases first
    cases stack with
    | w2 =>
      refine ⟨.down, rfl, by simp [Proj.path], ?_⟩
      intro q m own stands
      cases q <;> cases own
      simpa [Proj.path] using stands
    | w13 =>
      cases index with
      | nil => cases s <;> cases inside <;> rename_i rest <;> cases rest
      | cons j index =>
        have small : j < 2 := by
          cases s <;> cases inside <;> rename_i rest <;> cases rest <;> assumption
        interval_cases j
        · refine ⟨.gate, rfl, by simp [Proj.path], ?_⟩
          intro q m own stands
          cases q <;> cases own <;> simp_all [Proj.path]
        · refine ⟨.up, rfl, by simp [Proj.path], ?_⟩
          intro q m own stands
          cases q <;> cases own <;> simp_all [Proj.path]

/-- Every entry of a local expert was written by exactly one checkpoint tensor. -/
theorem written_once (loaded : Loaded d r done layer) (nodup : done.Nodup)
    (members : ∀ source, source ∈ done ↔ source.1 < d.numGlobal) (known : e < d.numGlobal)
    (mapped : d.expertMap e = some l) (name : ParamName) {index : List Nat}
    (first : index.head? = some l)
    (inside : List.Forall₂ (· < ·) index (d.paramShape name)) :
    ∃ p : Proj, layer.written.filter (fun w => w.param = name ∧ w.path.isPrefixOf index) =
      [⟨name, p.path l, (e, p, name.2)⟩] := by
  obtain ⟨p, stack, stands, only⟩ := covering_proj name first inside
  refine ⟨p, ?_⟩
  rw [loaded.written]
  refine filter_filterMap_single (e, p, name.2) nodup ((members _).mpr known) ?_ ?_ ?_
  · simp [Deployment.writeOf, mapped, stack]
  · simp [stands]
  · rintro ⟨f, q, u⟩ listed w value passes
    obtain ⟨m, fMapped, rfl⟩ := Option.map_eq_some_iff.mp value
    simp only [decide_eq_true_eq, List.isPrefixOf_iff_prefix] at passes
    obtain ⟨own, covers⟩ := passes
    obtain ⟨rfl, rfl⟩ := only q m (congrArg Prod.fst own) covers
    have expert := d.injective f ((members _).mp listed) e known m fMapped mapped
    rw [expert, ← own]

end

/-- A tensor whose sharded dimension does not divide raises before anything is copied. -/
theorem load_refuses_indivisible (expertMap : Nat → Option Nat) {tpSize : Nat}
    (positive : 1 ≤ tpSize) (r : Nat) (layer : Layer V Source) (checkpoint : Source → Tensor V)
    (module : List Char) (returnSuccess : Bool) {source : Source} {l dim size : Nat}
    (mapped : expertMap source.1 = some l) (sharded : source.2.1.shardDim source.2.2 = some dim)
    (sized : (checkpoint source).shape[dim]? = some size) (indivisible : size % tpSize ≠ 0) :
    loadExl3 expertMap r tpSize layer (loadOf checkpoint module returnSuccess source) =
      (.error (.notDivisible dim size tpSize), layer) := by
  have several : ¬ tpSize ≤ 1 := by
    intro single
    rw [Nat.le_antisymm single positive, Nat.mod_one] at indivisible
    exact indivisible rfl
  have refused : narrowTp (checkpoint source) dim r tpSize =
      .error (.notDivisible dim size tpSize) := by
    unfold narrowTp
    rw [if_neg several, sized]
    exact if_pos indivisible
  unfold loadExl3
  rw [show (loadOf checkpoint module returnSuccess source).expertId = source.1 from rfl, mapped]
  simp only [shardFor_loadOf, shardOf, sharded, refused, Except.map]

def Deployment.loaded (r : Nat) (fresh : Layer V Source) (order : List Source)
    (module : List Char) (returnSuccess : Bool) :
    List (Except LoadError (Option Bool)) × Layer V Source :=
  loadAll d.expertMap r d.tpSize fresh (order.map (loadOf d.checkpoint module returnSuccess))

theorem sharded_experts_sum {R : Type} [CommSemiring R] (c : Codec V R) (act : R → R → R)
    (d : Deployment V) (memory : Nat → ParamName → List Nat → V) (module : List Char)
    (returnSuccess : Bool) (order : Nat → List Source)
    (orders : ∀ r < d.tpSize, (order r).Perm (allSources d.numGlobal)) :
    ∃ fresh : Nat → Layer V Source,
      (∀ r, createWeights (memory r) d.numExperts d.hiddenSize d.intermediateLocal d.bits =
        some (fresh r)) ∧
      (∀ r < d.tpSize,
        (∀ result ∈ (d.loaded r (fresh r) (order r) module returnSuccess).1,
          ∃ value, result = .ok value) ∧
        ∀ e < d.numGlobal, ∀ l, d.expertMap e = some l → ∀ name index, index.head? = some l →
          List.Forall₂ (· < ·) index (d.paramShape name) →
          ∃ p : Proj, (d.loaded r (fresh r) (order r) module returnSuccess).2.written.filter
              (fun w => w.param = name ∧ w.path.isPrefixOf index) =
            [⟨name, p.path l, (e, p, name.2)⟩]) ∧
      (∀ e < d.numGlobal, ∀ l, d.expertMap e = some l → ∀ (x : Nat → R) (o : Nat),
        ∑ r ∈ range d.tpSize, expertForward c act
            ((d.loaded r (fresh r) (order r) module returnSuccess).2.tensors l) x o =
          expertForward c act (d.tensors e) x o) ∧
      ∀ (r : Nat) (layer : Layer V Source) (tensors : Source → Tensor V) (source : Source)
        (l dim size : Nat), d.expertMap source.1 = some l →
        source.2.1.shardDim source.2.2 = some dim → (tensors source).shape[dim]? = some size →
        size % d.tpSize ≠ 0 →
        loadExl3 d.expertMap r d.tpSize layer (loadOf tensors module returnSuccess source) =
          (.error (.notDivisible dim size d.tpSize), layer) := by
  have whole : d.hiddenSize % 16 = 0 ∧ d.intermediateLocal % 16 = 0 := by
    have hidden := d.hiddenWhole
    have local' := d.localWhole
    omega
  have start : ∀ r, Loaded d r [] ⟨fun name => ⟨d.paramShape name, memory r name⟩, []⟩ :=
    fun r => ⟨fun _ => rfl, fun _ none => (by cases none), rfl⟩
  have members : ∀ r < d.tpSize, ∀ source, source ∈ order r ↔ source.1 < d.numGlobal := by
    intro r rank source
    rw [(orders r rank).mem_iff, mem_allSources]
  have after := fun r rank => load_run module returnSuccess rank (order r) [] _ (start r)
    (fun source listed => (members r rank source).mp listed)
  refine ⟨fun r => ⟨fun name => ⟨d.paramShape name, memory r name⟩, []⟩, ?_, ?_, ?_, ?_⟩
  · intro r
    rw [createWeights, if_neg (by omega)]
    rfl
  · intro r rank
    obtain ⟨results, final⟩ := after r rank
    refine ⟨results, ?_⟩
    intro e known l mapped name index first inside
    exact written_once final ((orders r rank).nodup_iff.mpr (allSources_nodup _))
      (members r rank) known mapped name first inside
  · intro e known l mapped x o
    have all : ∀ r < d.tpSize, ∀ p s, (e, p, s) ∈ [] ++ order r :=
      fun r rank p s => (members r rank _).mpr known
    exact sum_expertForward d.localWhole
      (fun r rank => columnSlice_of_loaded (after r rank).2 known mapped (all r rank .gate)
        (by decide))
      (fun r rank => columnSlice_of_loaded (after r rank).2 known mapped (all r rank .up)
        (by decide))
      (fun r rank => rowSlice_of_loaded (after r rank).2 known mapped (all r rank .down))
      (fun r rank => inFeatures_down (after r rank).2) (inFeatures_full known) act x o
  · intro r layer tensors source l dim size mapped sharded sized indivisible
    exact load_refuses_indivisible d.expertMap d.positive r layer tensors module returnSuccess
      mapped sharded sized indivisible

/-- Two ranks, two experts of which the second is local, the ranks loading in opposite
    orders. -/
def sampleDeployment : Deployment Int where
  hiddenSize := 128
  intermediateLocal := 128
  bits := 4
  tpSize := 2
  numExperts := 1
  numGlobal := 2
  positive := by decide
  hiddenWhole := Nat.dvd_refl 128
  localWhole := Nat.dvd_refl 128
  expertMap e := if e = 1 then some 0 else none
  inside := by
    intro e _ l mapped
    split at mapped <;> cases mapped
    exact Nat.zero_lt_one
  injective := by
    intro e _ f _ l first second
    split at first <;> cases first
    split at second <;> cases second
    omega
  checkpoint source := ⟨checkpointShape 128 256 4 source.2.1 source.2.2,
    fun index => index.foldr (fun i total => 3 * i + total) source.1⟩
  shapes _ _ _ _ := rfl

def sampleCodec : Codec Int Int :=
  ⟨fun marker words i o => marker + words.foldr (· + ·) 0 + i - o, id, fun i b => i * b + 1⟩

def sampleOrder (r : Nat) : List Source :=
  if r = 0 then allSources 2 else (allSources 2).reverse

theorem sharded_experts_sum_sample :
    (∀ r < 2, (sampleOrder r).Perm (allSources 2)) ∧
    ∃ fresh : Nat → Layer Int Source,
      (∀ r, createWeights (fun _ _ => 0) 1 128 128 4 = some (fresh r)) ∧
      ∀ (x : Nat → Int) (o : Nat),
        ∑ r ∈ range 2, expertForward sampleCodec (· * ·)
            ((sampleDeployment.loaded r (fresh r) (sampleOrder r) [] true).2.tensors 0) x o =
          expertForward sampleCodec (· * ·) (sampleDeployment.tensors 1) x o := by
  have orders : ∀ r < 2, (sampleOrder r).Perm (allSources 2) := by
    intro r _
    unfold sampleOrder
    split
    · exact List.Perm.refl _
    · exact List.reverse_perm _
  obtain ⟨fresh, created, _, sums, _⟩ := sharded_experts_sum sampleCodec (· * ·)
    sampleDeployment (fun _ _ _ => 0) [] true sampleOrder orders
  exact ⟨orders, fresh, created, sums 1 (by decide) 0 rfl⟩

end TensorParallel
