import Glm53Overlay.Library.Worklist

/-!
`import_closure` of the mgemm index audit: the modules that a package's files import, from the
serving path's seeds on. A dotted name is the list of its parts. The tree of files is what the
function reads of the disk: whether a file is there, can be read and parses, and the import
nodes of its syntax tree. A set is a list of its members; `sorted` only orders the report.
-/
namespace ImportClosure

abbrev Name := List String

/-- `ast.Import` with its names; `ast.ImportFrom` with its level, module and aliases. -/
inductive Node where
  | imports (names : List Name)
  | importFrom (level : Nat) (module : Option Name) (names : List String)
  deriving DecidableEq

/-- What reading and parsing may raise beside an `OSError` and a `SyntaxError`. -/
inductive Raised where
  | unicodeDecodeError
  | valueError
  | recursionError
  | memoryError
  deriving DecidableEq

/-- What is found in a file: not readable at all, no text or no tree by an exception that is not
    caught (such as bytes that are not UTF-8), no Python, or a tree with its import nodes. -/
inductive Source where
  | unreadable
  | raises (error : Raised)
  | malformed
  | parsed (nodes : List Node)
  deriving DecidableEq

/-- The package directory: the `.py` files and the directories with an `__init__.py`, both by
    their path below the directory. -/
structure Tree where
  root : String
  files : List (Name × Source)
  packages : List (Name × Source)
  stubs : List Name

namespace Tree
variable (tree : Tree)

def place (name : Name) : Name := if name.head? = some tree.root then name.tail else name

def resolveModule (name : Name) : Option (Source × Bool) :=
  match tree.files.lookup (tree.place name) with
  | some source => some (source, false)
  | none => (tree.packages.lookup (tree.place name)).map fun source => (source, true)
end Tree

/-- The references of one import node: a name with whether it has to be a module. -/
def references (packageParts : Name) : Node → List (Name × Bool)
  | .imports names => names.map fun name => (name, true)
  | .importFrom level module names =>
    if level ≠ 0 then
      if packageParts.length < level - 1 then []
      else
        let base := packageParts.take (packageParts.length - (level - 1)) ++ module.getD []
        if base = [] then [] else (base, true) :: names.map fun name => (base ++ [name], false)
    else
      match module with
      | some base => (base, true) :: names.map fun name => (base ++ [name], false)
      | none => []

structure Sets where
  seen : List Name
  required : List Name
  resolvable : List Name
  unparseable : List Name

/-- The loop over the queue, its end first; `none` when the fuel does not reach. -/
def closureLoop (tree : Tree) : Nat → List (Name × Bool) → Sets → Option (Except Raised Sets)
  | _, [], sets => some (.ok sets)
  | 0, _ :: _, _ => none
  | fuel + 1, (name, isModuleRef) :: queue, sets =>
    -- recorded before the test: the name may have been seen as a mere candidate
    let required := if isModuleRef then name :: sets.required else sets.required
    if name ∈ sets.seen then closureLoop tree fuel queue { sets with required := required }
    else
      let seen := name :: sets.seen
      if name ∈ tree.stubs then
        closureLoop tree fuel queue { sets with
          required := required, seen := seen, resolvable := name :: sets.resolvable }
      else
        match tree.resolveModule name with
        | none => closureLoop tree fuel queue { sets with required := required, seen := seen }
        | some (.parsed nodes, isPackage) =>
          let packageParts := if isPackage then name else name.dropLast
          closureLoop tree fuel ((nodes.flatMap (references packageParts)).reverse ++ queue)
            { sets with
              required := required, seen := seen, resolvable := name :: sets.resolvable }
        -- only `OSError` and `SyntaxError` are caught
        | some (.raises error, _) => some (.error error)
        | some (_, _) => closureLoop tree fuel queue {
            required := required, seen := seen, resolvable := name :: sets.resolvable,
            unparseable := name :: sets.unparseable }

structure Closure where
  modules : List Name
  unresolved : List Name
  unparseable : List Name
  deriving DecidableEq

def Sets.closure (tree : Tree) (sets : Sets) : Closure where
  modules := sets.seen
  unresolved := sets.required.filter fun name =>
    name.head? = some tree.root ∧ name ∉ sets.resolvable
  unparseable := sets.unparseable

/-- The function with a bound on the rounds of its loop. -/
def importClosure (tree : Tree) (fuel : Nat) (seeds : List Name) :
    Option (Except Raised Closure) :=
  (closureLoop tree fuel (seeds.map fun name => (name, true)).reverse ⟨[], [], [], []⟩).map
    (Except.map (Sets.closure tree))

inductive Abort where
  | badSeeds (names : List Name)
  | unparseable (names : List Name)
  | unresolved (names : List Name)
  deriving DecidableEq

def badSeeds (seeds : List Name) (closure : Closure) : List Name :=
  seeds.filter fun name => name ∈ closure.unresolved ∨ name ∈ closure.unparseable

def closureAbort (seeds : List Name) (closure : Closure) : Option Abort :=
  if badSeeds seeds closure ≠ [] then some (.badSeeds (badSeeds seeds closure))
  else if closure.unparseable ≠ [] then some (.unparseable (closure.unparseable.take 8))
  else if closure.unresolved ≠ [] then some (.unresolved (closure.unresolved.take 8))
  else none

section Graph
variable (tree : Tree)

/-- What a module's file refers to; nothing where the name is a stub or has no file that parses. -/
def next (name : Name) : List (Name × Bool) :=
  if name ∈ tree.stubs then []
  else
    match tree.resolveModule name with
    | some (.parsed nodes, isPackage) =>
      nodes.flatMap (references (if isPackage then name else name.dropLast))
    | _ => []

def Resolves (name : Name) : Prop := name ∈ tree.stubs ∨ (tree.resolveModule name).isSome

def Broken (name : Name) : Prop :=
  name ∉ tree.stubs ∧ ∃ source isPackage, tree.resolveModule name = some (source, isPackage) ∧
    (source = .unreadable ∨ source = .malformed)

def escape (name : Name) : Option Raised :=
  if name ∈ tree.stubs then none
  else
    match tree.resolveModule name with
    | some (.raises error, _) => some error
    | _ => none

instance : DecidablePred (Resolves tree) := fun name => by unfold Resolves; infer_instance

def broken (name : Name) : Bool :=
  decide (name ∉ tree.stubs) &&
    match tree.resolveModule name with
    | some (.unreadable, _) | some (.malformed, _) => true
    | _ => false

theorem broken_iff (name : Name) : broken tree name = true ↔ Broken tree name := by
  unfold broken Broken
  cases tree.resolveModule name with
  | none => simp
  | some found =>
    obtain ⟨source, isPackage⟩ := found
    cases source <;> simp

/-- A reference a chain of imports leads to from the seeds. -/
def Referenced (seeds : List Name) (name : Name) (isModuleRef : Bool) : Prop :=
  Worklist.Reach Prod.fst (next tree) (seeds.map fun seed => (seed, true)) (name, isModuleRef)

/-- The sets are those of a search: the keys it has seen and the references it has taken. -/
structure Tracks (keys : List Name) (taken : List (Name × Bool)) (sets : Sets) : Prop where
  seen : sets.seen = keys
  required : sets.required = (taken.filter (·.2)).map (·.1)
  resolvable : sets.resolvable = keys.filter (Resolves tree ·)
  unparseable : sets.unparseable = keys.filter (broken tree)

variable {tree}

/-- How the loop ends, beside the search: an exception from the file of a module that is reached,
    both without enough fuel, or the search's answer and no such file. -/
def Follows (tree : Tree) (start : List (Name × Bool)) (looped : Option (Except Raised Sets))
    (searched : Option (List Name × List (Name × Bool))) : Prop :=
  (∃ error item, looped = some (.error error) ∧
    Worklist.Reach Prod.fst (next tree) start item ∧ escape tree item.1 = some error) ∨
  (looped = none ∧ searched = none) ∨
  ∃ sets result, looped = some (.ok sets) ∧ searched = some result ∧
    Tracks tree result.1 result.2 sets ∧ ∀ name ∈ result.1, escape tree name = none

theorem follows_end {start taken : List (Name × Bool)} {seen : List Name} {sets : Sets}
    (tracks : Tracks tree seen taken sets) (quiet : ∀ name ∈ seen, escape tree name = none) :
    Follows tree start (some (.ok sets)) (some (seen, taken)) :=
  Or.inr (Or.inr ⟨sets, (seen, taken), rfl, rfl, tracks, quiet⟩)

theorem quiet_cons {seen : List Name} {name : Name} (quiet : ∀ n ∈ seen, escape tree n = none)
    (own : escape tree name = none) : ∀ n ∈ name :: seen, escape tree n = none := by
  intro n member
  rcases List.mem_cons.mp member with rfl | before
  · exact own
  · exact quiet n before

theorem loop_follows {start : List (Name × Bool)} {fuel : Nat} {queue : List (Name × Bool)}
    {seen : List Name} {taken : List (Name × Bool)} {sets : Sets}
    (inv : Worklist.Inv Prod.fst (next tree) start queue seen taken)
    (tracks : Tracks tree seen taken sets) (quiet : ∀ name ∈ seen, escape tree name = none) :
    Follows tree start (closureLoop tree fuel queue sets)
      (Worklist.search Prod.fst (next tree) fuel queue seen taken) := by
  induction fuel generalizing queue seen taken sets with
  | zero =>
    cases queue with
    | nil => exact follows_end tracks quiet
    | cons item queue => exact Or.inr (Or.inl ⟨rfl, rfl⟩)
  | succ fuel ih =>
    cases queue with
    | nil => exact follows_end tracks quiet
    | cons item queue =>
      obtain ⟨name, isModuleRef⟩ := item
      have required : (if isModuleRef then name :: sets.required else sets.required) =
          (((name, isModuleRef) :: taken).filter (·.2)).map (·.1) := by
        cases isModuleRef <;> simp [tracks.required]
      have reached := inv.sound _ (Or.inl List.mem_cons_self)
      have expanded := Worklist.inv_expand inv
      rw [closureLoop, Worklist.search]
      simp only [tracks.seen]
      by_cases old : name ∈ seen
      · simp only [if_pos old]
        exact ih (Worklist.inv_skip inv old)
          ⟨rfl, required, tracks.resolvable, tracks.unparseable⟩ quiet
      · simp only [if_neg old]
        by_cases stub : name ∈ tree.stubs
        · have leads : next tree name = [] := if_pos stub
          simp only [if_pos stub, leads, List.reverse_nil, List.nil_append] at expanded ⊢
          refine ih expanded ⟨by simp, required, ?_, ?_⟩ (quiet_cons quiet (if_pos stub))
          · simp [Resolves, stub, tracks.resolvable]
          · simp [broken, stub, tracks.unparseable]
        · simp only [if_neg stub]
          cases found : tree.resolveModule name with
          | none =>
            have leads : next tree name = [] := by simp [next, stub, found]
            have own : escape tree name = none := by simp [escape, stub, found]
            simp only [leads, List.reverse_nil, List.nil_append] at expanded ⊢
            refine ih expanded ⟨by simp, required, ?_, ?_⟩ (quiet_cons quiet own)
            · simp [Resolves, stub, found, tracks.resolvable]
            · simp [broken, found, tracks.unparseable]
          | some file =>
            obtain ⟨source, isPackage⟩ := file
            have resolves : Resolves tree name := Or.inr (by simp [found])
            cases source with
            | parsed nodes =>
              have leads : next tree name =
                  nodes.flatMap (references (if isPackage then name else name.dropLast)) := by
                simp [next, stub, found]
              have own : escape tree name = none := by simp [escape, stub, found]
              simp only [leads] at expanded ⊢
              refine ih expanded ⟨by simp, required, ?_, ?_⟩ (quiet_cons quiet own)
              · simp [resolves, tracks.resolvable]
              · simp [broken, found, tracks.unparseable]
            | raises error =>
              have own : escape tree name = some error := by simp [escape, stub, found]
              exact Or.inl ⟨error, (name, isModuleRef), rfl, reached, own⟩
            | unreadable =>
              have leads : next tree name = [] := by simp [next, stub, found]
              have own : escape tree name = none := by simp [escape, stub, found]
              simp only [leads, List.reverse_nil, List.nil_append] at expanded ⊢
              refine ih expanded ⟨by simp, required, ?_, ?_⟩ (quiet_cons quiet own)
              · simp [resolves, tracks.resolvable]
              · simp [broken, stub, found, tracks.unparseable]
            | malformed =>
              have leads : next tree name = [] := by simp [next, stub, found]
              have own : escape tree name = none := by simp [escape, stub, found]
              simp only [leads, List.reverse_nil, List.nil_append] at expanded ⊢
              refine ih expanded ⟨by simp, required, ?_, ?_⟩ (quiet_cons quiet own)
              · simp [resolves, tracks.resolvable]
              · simp [broken, stub, found, tracks.unparseable]
end Graph
end ImportClosure
