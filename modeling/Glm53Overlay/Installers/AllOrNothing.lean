import Glm53Overlay.Installers.KpoolTail
import Glm53Overlay.Installers.NoStore
import Glm53Overlay.Installers.TicketScheduler
import Glm53Overlay.Library.PackedText

/-!
The three installers of more than one file. Each stages every target before the first write,
so a run that fails has written nothing, and each accepts what it wrote.
-/
namespace Installers
open TextFile TextSearch PackedText

/-- A run fails and writes nothing, or it completes its targets, and then a second run succeeds
    and writes nothing; a run over a refused tree fails and writes nothing. -/
structure AllOrNothing {Files E : Type} (run : Files → Except E Unit × Files)
    (complete refused : Files → Prop) : Prop where
  outcome : ∀ files, (∃ e, run files = (.error e, files)) ∨
    ∃ final, run files = (.ok (), final) ∧ complete final ∧ run final = (.ok (), final)
  refuses : ∀ files, refused files → ∃ e, run files = (.error e, files)

theorem kpoolTail_all_or_nothing (compiles : List Char → Bool) :
    AllOrNothing (KpoolTail.main compiles false)
      (fun files => ∀ label, KpoolTail.Complete compiles label (files label))
      (fun files => ∃ label, KpoolTail.SomeButNotAll label (files label)) := by
  have listed : ∀ label, label ∈ KpoolTail.targets := by
    intro label
    cases label <;> decide
  have distinct : KpoolTail.targets.Nodup := by decide
  constructor
  · intro files
    rcases StagedInstall.install_all_or_nothing distinct (KpoolTail.check_settles compiles) files
      with failed | ⟨final, done, complete, again⟩
    · exact Or.inl failed
    · exact Or.inr ⟨final, done,
        fun label => KpoolTail.complete_of_check (complete label (listed label)), again⟩
  · rintro files ⟨label, mixed⟩
    obtain ⟨e, refused⟩ := KpoolTail.check_refuses compiles mixed
    exact StagedInstall.install_refuses (listed label) refused

theorem noStore_all_or_nothing (parses : List Char → Bool) :
    AllOrNothing (NoStore.main parses)
      (fun files => ∀ target, NoStore.Complete parses target (files target))
      (fun files => ∃ target, NoStore.SomeButNotAll target (files target)) := by
  have listed : ∀ target, target ∈ NoStore.targets := by
    intro target
    cases target <;> decide
  have distinct : NoStore.targets.Nodup := by decide
  constructor
  · intro files
    rcases StagedInstall.install_all_or_nothing distinct (NoStore.check_settles parses) files
      with failed | ⟨final, done, complete, again⟩
    · exact Or.inl failed
    · exact Or.inr ⟨final, done,
        fun target => NoStore.complete_of_check (complete target (listed target)), again⟩
  · rintro files ⟨target, mixed⟩
    obtain ⟨e, refused⟩ := NoStore.check_refuses parses mixed
    exact StagedInstall.install_refuses (listed target) refused

theorem ticketScheduler_all_or_nothing (vendored : TicketScheduler.Vendored) :
    AllOrNothing (TicketScheduler.main vendored false) (TicketScheduler.Complete vendored)
      (TicketScheduler.Mixture vendored) where
  outcome := TicketScheduler.main_all_or_nothing vendored
  refuses := fun _ mixture => TicketScheduler.main_refuses mixture

/-- The installers are all-or-nothing and idempotent, and the two runs that install nothing by
    request, the preflight and the opt-out, write nothing. -/
theorem installers_all_or_nothing (compiles parses : List Char → Bool)
    (vendored : TicketScheduler.Vendored) :
    AllOrNothing (KpoolTail.main compiles false)
        (fun files => ∀ label, KpoolTail.Complete compiles label (files label))
        (fun files => ∃ label, KpoolTail.SomeButNotAll label (files label)) ∧
      AllOrNothing (NoStore.main parses)
        (fun files => ∀ target, NoStore.Complete parses target (files target))
        (fun files => ∃ target, NoStore.SomeButNotAll target (files target)) ∧
      AllOrNothing (TicketScheduler.main vendored false) (TicketScheduler.Complete vendored)
        (TicketScheduler.Mixture vendored) ∧
      (∀ files, (KpoolTail.main compiles true files).2 = files) ∧
      ∀ quant, (TicketScheduler.main vendored true quant).2 = quant :=
  ⟨kpoolTail_all_or_nothing compiles, noStore_all_or_nothing parses,
    ticketScheduler_all_or_nothing vendored, fun _ => rfl, fun _ => rfl⟩

/-- The line that makes the texts of a site Python here, and where they stand on the way from
    the pristine file to the patched one; two of the numbers say which characters tell a text
    from the rest. -/
structure Clue where
  before : List Char
  anchor : Nat × Nat
  step : Nat
  kept : List Nat
  own : List Nat
  snippet : Nat × Nat
  place : Nat
  mark : Nat × Nat
  markAt : Nat

section Preflight
open KpoolTail

def clues : Label → List Clue
  | .kpool => [
    ⟨verbatim "def tail():\n    \"\"\"\n" _ rfl,
      ⟨50, 4⟩, 20, [], [], ⟨18, 1⟩, 20, ⟨12, 2⟩, 153⟩,
    ⟨verbatim "def seed(\n" _ rfl, ⟨40, 8⟩, 365, [], [], ⟨8, 2⟩, 365, ⟨0, 0⟩, 0⟩,
    ⟨[], ⟨11, 2⟩, 557, [], [], ⟨12, 2⟩, 557, ⟨0, 0⟩, 0⟩,
    ⟨verbatim "def host():\n" _ rfl, ⟨122, 14⟩, 849, [], [], ⟨157, 1⟩, 849, ⟨33, 1⟩, 973⟩,
    ⟨[], ⟨114, 12⟩, 1159, [], [], ⟨3, 2⟩, 1159, ⟨0, 0⟩, 0⟩]
  | .mamba => [
    ⟨verbatim "build(\n" _ rfl, ⟨58, 18⟩, 7, [], [], ⟨131, 1⟩, 7, ⟨11, 2⟩, 70⟩]
  | .indexer => [
    ⟨verbatim "def mapping(\n" _ rfl, ⟨60, 4⟩, 13, [], [], ⟨85, 1⟩, 13, ⟨22, 1⟩, 76⟩,
    ⟨verbatim "    \"\"\"\n" _ rfl, ⟨111, 2⟩, 140, [], [], ⟨4, 1⟩, 140, ⟨0, 0⟩, 0⟩,
    ⟨[], ⟨28, 8⟩, 444, [], [], ⟨253, 1⟩, 444, ⟨37, 2⟩, 444⟩,
    ⟨verbatim "class Builder:\n    def init():\n" _ rfl,
      ⟨20, 2⟩, 1294, [1294], [0], ⟨691, 1⟩, 1294, ⟨39, 2⟩, 1846⟩,
    ⟨verbatim "        if positions:\n" _ rfl,
      ⟨375, 16⟩, 2048, [], [], ⟨811, 1⟩, 2048, ⟨54, 2⟩, 2353⟩]
  | .blocktable => [
    ⟨verbatim "def slots():\n    if True:\n" _ rfl,
      ⟨813, 2⟩, 26, [], [], ⟨129, 1⟩, 26, ⟨33, 1⟩, 621⟩]

def placed (label : Label) : List (Site × Clue) := (sites label).zip (clues label)

theorem placed_sites (label : Label) : (placed label).map Prod.fst = sites label := by
  cases label <;> rfl

/-- What closes the call that the last anchor of a file leaves open. -/
def closing : Label → List Char
  | .kpool => verbatim "    )\n" _ rfl
  | .mamba => verbatim ")\n" _ rfl
  | .indexer => []
  | .blocktable => []

def standing (text : Site → List Char) (rows : List (Site × Clue)) : List (List Char) :=
  rows.flatMap fun r => [r.2.before, text r.1]

def moduleText (text : Site → List Char) (label : Label) : List (List Char) :=
  standing text (placed label) ++ [closing label]

def pristineFiles : Files := fun label => some (.text (moduleText Site.anchor label).flatten)

/-- `compile` on the four texts that the preflight of these files gives it. -/
def compilesPatched (text : List Char) : Bool :=
  targets.any fun label => text == (moduleText Site.patched label).flatten

def stepsFound (closing : List Char) : List (Site × Clue) → List (Site × Clue) → Bool
  | _, [] => true
  | done, r :: rest =>
    found (standing Site.patched done ++ standing Site.anchor (r :: rest) ++ [closing])
      [r.1.anchor] r.2.anchor.1 r.2.anchor.2 [r.2.step] && stepsFound closing (done ++ [r]) rest

def verifiedFound (out : List (List Char)) (rows : List (Site × Clue)) : Bool :=
  rows.all fun r =>
    found out [r.1.patched] r.2.snippet.1 r.2.snippet.2 [r.2.place] &&
    found out [r.1.anchor] r.2.anchor.1 r.2.anchor.2 r.2.kept &&
    found [r.1.patched] [r.1.anchor] r.2.anchor.1 r.2.anchor.2 r.2.own &&
    decide (r.2.kept.length = r.2.own.length) &&
    r.1.mark.all fun m => found out [m] r.2.mark.1 r.2.mark.2 [r.2.markAt]

def unmarkedFound (text : List (List Char)) (rows : List (Site × Clue)) : Bool :=
  rows.all fun r => r.1.mark.all fun m => found text [m] r.2.mark.1 r.2.mark.2 []

theorem applySites_of_found (label : Label) {closing : List Char} {rest : List (Site × Clue)} :
    ∀ {done : List (Site × Clue)}, stepsFound closing done rest = true →
      applySites label (rest.map Prod.fst)
          (standing Site.patched done ++ standing Site.anchor rest ++ [closing]).flatten =
        .ok (standing Site.patched (done ++ rest) ++ [closing]).flatten := by
  induction rest with
  | nil =>
    intro done _
    simp only [List.map_nil, List.append_nil, standing, List.flatMap_nil]
    rfl
  | cons r rest ih =>
    intro done checked
    rw [stepsFound, Bool.and_eq_true] at checked
    obtain ⟨here, later⟩ := checked
    have once := count_of_found here
    have places := (places_of_found here).2
    have next := ih later
    simp only [standing, List.flatMap_append, List.flatMap_cons, List.flatMap_nil,
      List.flatten_append, List.flatten_cons, List.flatten_nil, List.append_nil,
      List.append_assoc, List.cons_append, List.nil_append] at once places next ⊢
    rw [← List.append_assoc, ← List.append_assoc] at places
    rw [List.map_cons, applySites, once, if_neg (not_not.mpr List.length_singleton),
      ← List.append_assoc, ← List.append_assoc, replaceFirst_of_place _ places]
    simpa only [List.append_assoc] using next

theorem verifiedState_of_found {out : List (List Char)} {rows : List (Site × Clue)}
    (checked : verifiedFound out rows = true) :
    verifiedState out.flatten (rows.map Prod.fst) = true := by
  rw [verifiedState, List.all_map, List.all_eq_true]
  intro r member
  have own := List.all_eq_true.mp checked r member
  simp only [Bool.and_eq_true, decide_eq_true_eq, Option.all_eq_true] at own
  obtain ⟨⟨⟨⟨patched, kept⟩, inside⟩, same⟩, marks⟩ := own
  have onces := count_of_found patched
  have keeps := (count_of_found kept).trans (same.trans (count_of_found inside).symm)
  simp only [List.flatten_cons, List.flatten_nil, List.append_nil] at onces keeps
  simp only [Function.comp_apply, onces, keeps, List.length_singleton, beq_self_eq_true,
    Bool.true_and, Option.all_eq_true, beq_iff_eq]
  intro m marked
  simpa using count_of_found (marks m marked)

theorem countMarks_of_found {text : List (List Char)} {rows : List (Site × Clue)}
    (checked : unmarkedFound text rows = true) :
    countMarks text.flatten (rows.map Prod.fst) = 0 := by
  induction rows with
  | nil => rfl
  | cons r rest ih =>
    rw [unmarkedFound, List.all_cons, Bool.and_eq_true] at checked
    obtain ⟨here, later⟩ := checked
    have rests := ih later
    rw [countMarks] at rests ⊢
    cases marked : r.1.mark with
    | none => rwa [List.map_cons, List.filterMap_cons_none marked]
    | some m =>
      simp only [marked, Option.all_some] at here
      have absent := count_of_found here
      rw [List.map_cons, List.filterMap_cons_some marked, List.foldr_cons, rests]
      simpa using absent

theorem placed_found (label : Label) :
    stepsFound (closing label) [] (placed label) = true ∧
    verifiedFound (moduleText Site.patched label) (placed label) = true ∧
    unmarkedFound (moduleText Site.anchor label) (placed label) = true ∧
    ((moduleText Site.anchor label).all fun l => !l.contains '\r') = true := by
  cases label <;> decide +kernel

theorem pristine_unmarked (label : Label) :
    countMarks (moduleText Site.anchor label).flatten (sites label) = 0 := by
  have marks := countMarks_of_found (placed_found label).2.2.1
  rwa [placed_sites] at marks

theorem pristine_unverified (label : Label) :
    verifiedState (moduleText Site.anchor label).flatten (sites label) = false := by
  rw [Bool.eq_false_iff]
  intro already
  exact marks_of_verified already (pristine_unmarked label)

theorem pristine_prepared (label : Label) :
    prepare (moduleText Site.anchor label).flatten (sites label) label =
      .ok (moduleText Site.patched label).flatten := by
  obtain ⟨steps, verified, _, _⟩ := placed_found label
  have applied : applySites label (sites label) (moduleText Site.anchor label).flatten =
      .ok (moduleText Site.patched label).flatten := by
    have run := applySites_of_found label steps
    rwa [placed_sites] at run
  have complete := verifiedState_of_found verified
  rw [placed_sites] at complete
  rw [prepare, pristine_unmarked, pristine_unverified, applied]
  simp [complete]

theorem pristine_plain (label : Label) : '\r' ∉ (moduleText Site.anchor label).flatten := by
  have checked := (placed_found label).2.2.2
  intro member
  obtain ⟨text, listed, inside⟩ := List.mem_flatten.mp member
  have clean := List.all_eq_true.mp checked text listed
  simp [inside] at clean

theorem pristine_read (label : Label) :
    (File.text (moduleText Site.anchor label).flatten).read =
      some (moduleText Site.anchor label).flatten := by
  rw [File.read, translate_of_no_return _ (pristine_plain label)]

theorem compilesPatched_self (label : Label) :
    compilesPatched (moduleText Site.patched label).flatten = true := by
  refine List.any_eq_true.mpr ⟨label, ?_, beq_self_eq_true _⟩
  cases label <;> decide

theorem pristine_pass (label : Label) :
    ∃ write, check compilesPatched label (pristineFiles label) = .ok write := by
  rw [pristineFiles, check]
  simp only [pristine_read, pristine_prepared, compilesPatched_self]
  split
  · contradiction
  · split <;> exact ⟨_, rfl⟩

end Preflight

theorem sha256_byte :
    Sha256.sha256 [0] = 0x6e340b9cffb37a989ca544e6bb780a2c78901d3fb33738768511a30617afa01d ∧
    Sha256.sha256 [1] = 0x4bf5122f344554c53bde2ebb8cd2b7e3d1600ad631c385a5d7cce23c7785459a := by
  decide +kernel

def smallSets : TicketScheduler.Vendored where
  pristine := fun _ => [0]
  patched := fun _ => [1]
  pristine_foreign := by
    intro name
    rw [sha256_byte.1]
    cases name <;> decide
  patched_foreign := by
    intro name _
    rw [sha256_byte.2]
    cases name <;> decide

def pristineQuant : TicketScheduler.Quant := fun name => some (smallSets.pristine name)

/-- A preflight and an opted-out run succeed and leave their targets unpatched. -/
theorem preflight_and_opt_out_install_nothing :
    (KpoolTail.main compilesPatched true pristineFiles = (.ok (), pristineFiles) ∧
      ¬ KpoolTail.Complete compilesPatched .mamba (pristineFiles .mamba)) ∧
    TicketScheduler.main smallSets true pristineQuant = (.ok (), pristineQuant) ∧
      ¬ TicketScheduler.Complete smallSets pristineQuant := by
  refine ⟨⟨?_, ?_⟩, rfl, ?_⟩
  · obtain ⟨writes, staged⟩ : ∃ writes, StagedInstall.stage
        (KpoolTail.check compilesPatched) pristineFiles KpoolTail.targets = .ok writes :=
      StagedInstall.stage_ok fun label _ => pristine_pass label
    rw [KpoolTail.main, if_pos rfl, staged]
    rfl
  · rintro ⟨f, text, found, read, verified, _⟩
    cases found
    rw [pristine_read, Option.some.injEq] at read
    rw [← read, pristine_unverified] at verified
    cases verified
  · rintro (native | patched)
    · have hashed := List.all_eq_true.mp native .devctxCu (TicketScheduler.mem_files _)
      exact smallSets.pristine_foreign .devctxCu ((TicketScheduler.isNative_iff rfl).mp hashed)
    · have wrong := patched .devctxCu
      revert wrong
      decide

end Installers
