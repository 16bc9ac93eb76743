import Glm53Overlay.ImportClosure.Closure

/-!
The closure is exact: with enough rounds the loop ends, the modules are those that a chain of
imports leads to, and what is reported as unresolved or unparseable is what stands in the way of
following all of them. The order of the queue and of the seeds does not matter.
-/
namespace ImportClosure
variable {tree : Tree} {seeds : List Name}

def names (tree : Tree) : List Name :=
  (tree.files ++ tree.packages).flatMap fun file => [file.1, tree.root :: file.1]

theorem mem_of_lookup {files : List (Name × Source)} {path : Name} {source : Source}
    (found : files.lookup path = some source) : (path, source) ∈ files := by
  induction files with
  | nil => cases found
  | cons file files ih =>
    obtain ⟨path', source'⟩ := file
    rw [List.lookup_cons] at found
    cases here : path == path' with
    | true =>
      simp only [here, Option.some.injEq] at found
      rw [eq_of_beq here, found]
      exact List.mem_cons_self
    | false =>
      simp only [here] at found
      exact List.mem_cons_of_mem _ (ih found)

theorem name_of_place {name : Name} {file : Name × Source}
    (listed : file ∈ tree.files ++ tree.packages) (placed : tree.place name = file.1) :
    name ∈ names tree := by
  rw [names, List.mem_flatMap]
  refine ⟨file, listed, ?_⟩
  rw [← placed, Tree.place]
  by_cases rooted : name.head? = some tree.root
  · rw [if_pos rooted]
    cases name with
    | nil => cases rooted
    | cons first rest =>
      have same : first = tree.root := by simpa using rooted
      simp [same]
  · simp [if_neg rooted]

theorem next_support (name : Name) (leads : next tree name ≠ []) : name ∈ names tree := by
  cases found : tree.resolveModule name with
  | none =>
    have nothing : next tree name = [] := by simp [next, found]
    exact absurd nothing leads
  | some file =>
    rw [Tree.resolveModule] at found
    cases module : tree.files.lookup (tree.place name) with
    | some source =>
      exact name_of_place (List.mem_append_left _ (mem_of_lookup module)) rfl
    | none =>
      rw [module] at found
      obtain ⟨source, package, _⟩ := Option.map_eq_some_iff.mp found
      exact name_of_place (List.mem_append_right _ (mem_of_lookup package)) rfl

/-- Rounds that are enough: the seeds and every reference of every file. -/
def rounds (tree : Tree) (seeds : List Name) : Nat :=
  Worklist.work (next tree) (names tree) (seeds.map fun name => (name, true)).reverse []

/-- The function's three answers, as the graph of references has them. -/
structure Exact (tree : Tree) (seeds : List Name) (closure : Closure) : Prop where
  modules : ∀ name, name ∈ closure.modules ↔ ∃ isModuleRef, Referenced tree seeds name isModuleRef
  unresolved : ∀ name, name ∈ closure.unresolved ↔
    Referenced tree seeds name true ∧ name.head? = some tree.root ∧ ¬ Resolves tree name
  unparseable : ∀ name, name ∈ closure.unparseable ↔
    (∃ isModuleRef, Referenced tree seeds name isModuleRef) ∧ Broken tree name

/-- What the function returns once the search is over: the exact closure and no file that raises,
    or the exception of a file that is reached. -/
def Answers (tree : Tree) (seeds : List Name) (answer : Except Raised Closure) : Prop :=
  match answer with
  | .error error => ∃ name isModuleRef, Referenced tree seeds name isModuleRef ∧
      escape tree name = some error
  | .ok closure => Exact tree seeds closure ∧
      ∀ name isModuleRef, Referenced tree seeds name isModuleRef → escape tree name = none

theorem exact_of_search {result : List Name × List (Name × Bool)} {sets : Sets} {fuel : Nat}
    (found : Worklist.search Prod.fst (next tree) fuel
      (seeds.map fun name => (name, true)).reverse [] [] = some result)
    (tracks : Tracks tree result.1 result.2 sets) : Exact tree seeds (sets.closure tree) := by
  obtain ⟨taken, seen⟩ := Worklist.search_spec found
  have modules : ∀ name, name ∈ sets.seen ↔
      ∃ isModuleRef, Referenced tree seeds name isModuleRef := by
    intro name
    rw [tracks.seen, seen name]
    constructor
    · rintro ⟨⟨_, isModuleRef⟩, reached, rfl⟩
      exact ⟨isModuleRef, reached⟩
    · rintro ⟨isModuleRef, reached⟩
      exact ⟨(name, isModuleRef), reached, rfl⟩
  have required : ∀ name, name ∈ sets.required ↔ Referenced tree seeds name true := by
    intro name
    simp only [tracks.required, List.mem_map, List.mem_filter, Prod.exists]
    constructor
    · rintro ⟨_, isModuleRef, ⟨member, hard⟩, rfl⟩
      rw [hard] at member
      exact (taken _).mp member
    · intro reached
      exact ⟨name, true, ⟨(taken _).mpr reached, rfl⟩, rfl⟩
  refine ⟨modules, fun name => ?_, fun name => ?_⟩
  · simp only [Sets.closure, List.mem_filter, decide_eq_true_eq, required]
    constructor
    · rintro ⟨reached, inside, missing⟩
      refine ⟨reached, inside, fun resolves => missing ?_⟩
      rw [tracks.resolvable, List.mem_filter, ← tracks.seen]
      exact ⟨(modules name).mpr ⟨true, reached⟩, decide_eq_true resolves⟩
    · rintro ⟨reached, inside, missing⟩
      refine ⟨reached, inside, fun member => missing ?_⟩
      rw [tracks.resolvable, List.mem_filter] at member
      exact of_decide_eq_true member.2
  · simp only [Sets.closure]
    rw [tracks.unparseable, List.mem_filter, broken_iff, ← tracks.seen, modules name]

theorem loop_answers {fuel : Nat} (enough : rounds tree seeds ≤ fuel) :
    ∃ answer, importClosure tree fuel seeds = some answer ∧ Answers tree seeds answer := by
  have ends : (Worklist.search Prod.fst (next tree) fuel
      (seeds.map fun name => (name, true)).reverse [] []).isSome :=
    Worklist.search_ends next_support enough
  have begun : Tracks tree [] [] ⟨[], [], [], []⟩ := ⟨rfl, rfl, rfl, rfl⟩
  have follows : Follows tree (seeds.map fun name => (name, true))
      (closureLoop tree fuel (seeds.map fun name => (name, true)).reverse ⟨[], [], [], []⟩)
      (Worklist.search Prod.fst (next tree) fuel
        (seeds.map fun name => (name, true)).reverse [] []) :=
    loop_follows (Worklist.inv_start _) begun fun name member => absurd member List.not_mem_nil
  rcases follows with ⟨error, item, looped, reached, escapes⟩ | ⟨_, stuck⟩ |
      ⟨sets, result, looped, found, tracks, quiet⟩
  · exact ⟨.error error, by rw [importClosure, looped]; rfl, item.1, item.2, reached, escapes⟩
  · rw [stuck] at ends
    cases ends
  · refine ⟨.ok (sets.closure tree), by rw [importClosure, looped]; rfl,
      exact_of_search found tracks, fun name isModuleRef reached => quiet name ?_⟩
    exact ((Worklist.search_spec found).2 name).mpr ⟨(name, isModuleRef), reached, rfl⟩

/-- With an exact closure the audit goes on only where every chain of imports can be followed. -/
theorem goes_on_iff {closure : Closure} (answers : Exact tree seeds closure) :
    closureAbort seeds closure = none ↔
      (∀ name, Referenced tree seeds name true → name.head? = some tree.root →
        Resolves tree name) ∧
      ∀ name isModuleRef, Referenced tree seeds name isModuleRef → ¬ Broken tree name := by
  have passes : closureAbort seeds closure = none ↔
      closure.unresolved = [] ∧ closure.unparseable = [] := by
    unfold closureAbort
    constructor
    · intro going
      split at going
      · cases going
      · split at going
        · cases going
        · next _ parsed =>
          split at going
          · cases going
          · next resolved => exact ⟨not_not.mp resolved, not_not.mp parsed⟩
    · rintro ⟨resolved, parsed⟩
      simp [badSeeds, resolved, parsed]
  rw [passes, List.eq_nil_iff_forall_not_mem, List.eq_nil_iff_forall_not_mem]
  simp only [answers.unresolved, answers.unparseable, not_and, not_not, forall_exists_index]

/-- The loop ends, however large the package. It raises only what the file of a module that is
    reached makes it raise, and only where there is one; what it returns otherwise is exact, and
    the audit goes on only where no missing or broken module hides a part of the imports. -/
theorem import_closure_exact (tree : Tree) (seeds : List Name) :
    ∃ rounds, ∀ fuel, rounds ≤ fuel →
      (∃ error name isModuleRef, importClosure tree fuel seeds = some (.error error) ∧
        Referenced tree seeds name isModuleRef ∧ escape tree name = some error) ∨
      ∃ closure, importClosure tree fuel seeds = some (.ok closure) ∧
        (∀ name isModuleRef, Referenced tree seeds name isModuleRef → escape tree name = none) ∧
        Exact tree seeds closure ∧
        (closureAbort seeds closure = none ↔
          (∀ name, Referenced tree seeds name true → name.head? = some tree.root →
            Resolves tree name) ∧
          ∀ name isModuleRef, Referenced tree seeds name isModuleRef → ¬ Broken tree name) := by
  refine ⟨rounds tree seeds, fun fuel enough => ?_⟩
  obtain ⟨answer, made, answers⟩ := loop_answers enough
  cases answer with
  | error error =>
    obtain ⟨name, isModuleRef, reached, escapes⟩ := answers
    exact Or.inl ⟨error, name, isModuleRef, made, reached, escapes⟩
  | ok closure =>
    obtain ⟨exact, quiet⟩ := answers
    exact Or.inr ⟨closure, made, quiet, exact, goes_on_iff exact⟩

/-- The attribute a serving module takes from another module, and what lies outside of the
    package, are no missing modules. -/
example : importClosure ⟨"exllamav3", [(["quant", "exl3"], .parsed [
      .importFrom 1 none ["exl3_lib"], .importFrom 2 (some ["model"]) ["Config"]])],
    [(["quant"], .parsed []), (["quant", "exl3_lib"], .parsed []),
      (["model"], .parsed [.imports [["torch"]]])], []⟩ 9 [["exllamav3", "quant", "exl3"]] =
    some (.ok ⟨[["exllamav3", "quant"], ["exllamav3", "quant", "exl3_lib"], ["torch"],
      ["exllamav3", "model"], ["exllamav3", "model", "Config"], ["exllamav3", "quant", "exl3"]],
      [], []⟩) := by decide

end ImportClosure
