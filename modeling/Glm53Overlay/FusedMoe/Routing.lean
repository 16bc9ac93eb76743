import Mathlib
import Glm53Overlay.Library.SortedRuns

/-!
Routing of token slots to local EXL3 experts and the reference loop over experts.
Arithmetic is exact: rows, activations and outputs are abstract, an output row adds up
in a commutative monoid, and route weights are taken after their rounding to half. The
clamp limit is part of the activation. An output tensor is its rows.
-/
namespace FusedMoe

/-- The stages of an expert shared by all experts of a layer: input Hadamard with its
    sign vector, activation, the down projection's Hadamard, and the route weight. -/
structure Stages (S D X XH M MH V W : Type) where
  had : S → X → XH
  act : M → M → M
  hadDown : D → M → MH
  scale : V → W → V

/-- One expert: gate and up share the input, down closes the block. -/
structure Pack (S D XH M MH V : Type) where
  gateSuh : S
  upSuh : S
  downSuh : D
  gate : XH → M
  up : XH → M
  down : MH → V

variable {S D X XH M MH V W : Type}

section Expert
variable (stages : Stages S D X XH M MH V W) (pack : Pack S D XH M MH V)

def forward (x : X) : V :=
  pack.down (stages.hadDown pack.downSuh
    (stages.act (pack.gate (stages.had pack.gateSuh x)) (pack.up (stages.had pack.upSuh x))))

/-- The same expert when gate and up read one input transform, the gate's. -/
def sharedForward (x : X) : V :=
  let h13 := stages.had pack.gateSuh x
  pack.down (stages.hadDown pack.downSuh (stages.act (pack.gate h13) (pack.up h13)))

theorem shared_forward_eq (same : pack.gateSuh = pack.upSuh) (x : X) :
    sharedForward stages pack x = forward stages pack x := by
  simp only [sharedForward, forward, same]
end Expert

/-- `torch.equal(w13_suh[:, 0], w13_suh[:, 1])`. -/
def sharedW13Suh [DecidableEq S] (packs : List (Pack S D XH M MH V)) : Bool :=
  packs.all fun p => p.gateSuh = p.upSuh

abbrev Rows (V : Type) := Nat → V

section Add
variable [AddCommMonoid V]

/-- `out.index_add_(0, token_idx, values)`. -/
def indexAdd (out : Rows V) (additions : List (Nat × V)) : Rows V :=
  additions.foldl (fun out a => Function.update out a.1 (out a.1 + a.2)) out

theorem index_add_append (out : Rows V) (first second : List (Nat × V)) :
    indexAdd out (first ++ second) = indexAdd (indexAdd out first) second :=
  List.foldl_append

theorem index_add_apply (out : Rows V) (additions : List (Nat × V)) (t : Nat) :
    indexAdd out additions t =
      out t + ((additions.filter fun a => a.1 = t).map Prod.snd).sum := by
  induction additions generalizing out with
  | nil => simp [indexAdd]
  | cons a rest ih =>
    have step : indexAdd out (a :: rest) =
        indexAdd (Function.update out a.1 (out a.1 + a.2)) rest := rfl
    rw [step, ih]
    by_cases here : a.1 = t
    · simp [here, add_assoc]
    · rw [Function.update_of_ne (Ne.symm here)]
      simp [here]

theorem index_add_perm (out : Rows V) {first second : List (Nat × V)}
    (same : first.Perm second) : indexAdd out first = indexAdd out second := by
  funext t
  rw [index_add_apply, index_add_apply]
  congr 1
  exact ((same.filter _).map _).sum_eq

theorem foldl_index_add {α : Type} (items : List α) (additions : α → List (Nat × V))
    (out : Rows V) :
    items.foldl (fun out i => indexAdd out (additions i)) out =
      indexAdd out (items.flatMap additions) := by
  induction items generalizing out with
  | nil => rfl
  | cons i rest ih => rw [List.foldl_cons, ih, List.flatMap_cons, index_add_append]
end Add

/-- The routed slots of a `tokens × topk` id matrix, row by row. -/
def slots (tokens topk : Nat) : List (Nat × Nat) :=
  (List.range tokens).flatMap fun t => (List.range topk).map fun k => (t, k)

/-- The inputs of one layer call. Rows of `ids` and `weights` beyond the shape are unused. -/
structure Batch (X W : Type) where
  tokens : Nat
  topk : Nat
  x : Nat → X
  ids : Nat → Nat → Int
  weights : Nat → Nat → W

def Batch.slots (b : Batch X W) : List (Nat × Nat) := FusedMoe.slots b.tokens b.topk

def Batch.idOf (b : Batch X W) (s : Nat × Nat) : Int := b.ids s.1 s.2

def Batch.weightOf (b : Batch X W) (s : Nat × Nat) : W := b.weights s.1 s.2

/-- One id of `map_topk_to_local`: the local expert, or the sentinel `nLocal`. -/
def mapTopkToLocal (nLocal : Nat) (expertMap : Option (List Int)) (id : Int) : Nat :=
  match expertMap with
  | none => if id < 0 ∨ (nLocal : Int) ≤ id then nLocal else id.toNat
  | some map =>
    let nGlobal : Int := map.length
    let safe := min (max id 0) (max (nGlobal - 1) 0)
    let mapped := if map.length ≠ 0 then map.getD safe.toNat 0 else nLocal
    if id < 0 ∨ nGlobal ≤ id ∨ mapped < 0 ∨ (nLocal : Int) ≤ mapped then nLocal else mapped.toNat

/-- The expert the reference loop runs for a distinct id, if any. -/
def loopExpert (nLocal : Nat) (expertMap : Option (List Int)) (raw : Int) : Option Nat :=
  if raw < 0 then none
  else
    let mapped := match expertMap with
      | none => raw
      | some map => if raw < map.length then map.getD raw.toNat 0 else raw
    if mapped < 0 then none
    else if (nLocal : Int) ≤ mapped then none
    else some mapped.toNat

def addition (run : Pack S D XH M MH V → X → V) (scale : V → W → V)
    (packs : List (Pack S D XH M MH V)) (x : Nat → X) (e : Nat) (s : Nat × W) : List (Nat × V) :=
  match packs[e]? with
  | none => []
  | some pack => [(s.1, scale (run pack (x s.1)) s.2)]

section Loop
variable (stages : Stages S D X XH M MH V W) (packs : List (Pack S D XH M MH V)) (b : Batch X W)

variable [AddCommMonoid V]

/-- `apply_exl3_python_loop`; `only` restricts the local experts. -/
def applyExl3PythonLoop (expertMap : Option (List Int)) (only : Option (List Nat))
    (out : Rows V) : Rows V :=
  let unique := SortedRuns.distinct (b.slots.map b.idOf)
  unique.foldl (fun out raw =>
    match loopExpert packs.length expertMap raw with
    | none => out
    | some e =>
      if only.any (fun experts => !experts.contains e) then out
      else indexAdd out ((b.slots.filter fun s => b.idOf s = raw).flatMap fun s =>
        addition (forward stages) stages.scale packs b.x e (s.1, b.weightOf s))) out
end Loop

end FusedMoe
