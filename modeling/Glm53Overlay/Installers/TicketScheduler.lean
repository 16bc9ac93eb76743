import Glm53Overlay.Library.Sha256
import Mathlib.Logic.Function.Basic
import Mathlib.Data.List.Basic

/-!
The installer of the dynamic ticket scheduler: six source files that are all native, all
pristine or all patched, compared byte by byte with two vendored sets. The bytes of the sets
are a parameter; no write fails.
-/
namespace Installers.TicketScheduler
open Sha256

inductive Name where
  | devctxCu
  | devctxCuh
  | moeCu
  | moeCuh
  | moeCommonCuh
  | moeKernelCuh
  deriving DecidableEq

def files : List Name := [.devctxCu, .devctxCuh, .moeCu, .moeCuh, .moeCommonCuh, .moeKernelCuh]

def nativeV147Sha256 : Name → Nat
  | .devctxCu => 0x545e1909873b2bd8f6cf598edce0c7772519e2d6e4b473fc72019e678379a34a
  | .devctxCuh => 0xeffb1827e9b6c61ba95287ccfa5d6a0b6ccef103c0d588d992359be9291834c0
  | .moeCu => 0xce394daf0cebafd65e848dffb374562554560b38f52b7070df5d782b1488b218
  | .moeCuh => 0x96f4fc2473474986cd4494554355efe2079a3b717c8612eadf5193334cfbd15f
  | .moeCommonCuh => 0xb3c4e2399b8cf5a9c038dbe06da0aa8e4a3500dcd838e1c4a0ac95b22ce2acd6
  | .moeKernelCuh => 0x6f58cfa0f66557c867ad821ffe9f165da0b3e760eb8633f734b8dbd95696501a

def nativeV147SharedHeader : Name := .moeCuh

/-- The two vendored sets. The shared header apart, no vendored file is a native one. -/
structure Vendored where
  pristine : Name → List UInt8
  patched : Name → List UInt8
  pristine_foreign : ∀ name, sha256 (pristine name) ≠ nativeV147Sha256 name
  patched_foreign : ∀ name, name ≠ nativeV147SharedHeader →
    sha256 (patched name) ≠ nativeV147Sha256 name

/-- The files of the quant directory; `none` is a path that is no file. -/
abbrev Quant := Name → Option (List UInt8)

def isNative (quant : Quant) (name : Name) : Bool :=
  (quant name).any fun current => sha256 current == nativeV147Sha256 name

def treeIsNativeV147 (quant : Quant) : Bool := files.all (isNative quant)

inductive InstallError where
  | identical (name : Name)
  | unreadable (name : Name)
  | mixedNative
  | drifted (name : Name)
  | mixedPatched
  | unverified (name : Name)
  | mixedResult
  deriving DecidableEq

structure Scan where
  plan : List Name
  nAlready : Nat
  nPristine : Nat
  nativeExclusive : List Name
  drifted : List Name
  patchedExclusive : List Name

def Scan.empty : Scan := ⟨[], 0, 0, [], [], []⟩

variable (vendored : Vendored)

def scanFile (quant : Quant) (scan : Scan) (name : Name) : Except InstallError Scan :=
  if vendored.pristine name = vendored.patched name then .error (.identical name)
  else
    match quant name with
    | none => .error (.unreadable name)
    | some current =>
      let native := scan.nativeExclusive ++
        if sha256 current = nativeV147Sha256 name ∧ name ≠ nativeV147SharedHeader then [name]
        else []
      if current = vendored.patched name then
        .ok { scan with
          nativeExclusive := native
          nAlready := scan.nAlready + 1
          patchedExclusive := scan.patchedExclusive ++
            if name ≠ nativeV147SharedHeader then [name] else [] }
      else if current = vendored.pristine name then
        .ok { scan with
          nativeExclusive := native
          nPristine := scan.nPristine + 1
          plan := scan.plan ++ [name] }
      else .ok { scan with nativeExclusive := native, drifted := scan.drifted ++ [name] }

def scanFiles (quant : Quant) (names : List Name) (scan : Scan) : Except InstallError Scan :=
  names.foldlM (scanFile vendored quant) scan

def writePlan : List Name → Nat → Quant → Except InstallError Nat × Quant
  | [], nPatched, quant => (.ok nPatched, quant)
  | name :: rest, nPatched, quant =>
    let written := Function.update quant name (some (vendored.patched name))
    if written name ≠ some (vendored.patched name) then (.error (.unverified name), written)
    else writePlan rest (nPatched + 1) written

/-- `optOut` is the build-time setting that skips the installer. -/
def main (optOut : Bool) (quant : Quant) : Except InstallError Unit × Quant :=
  if optOut then (.ok (), quant)
  else if treeIsNativeV147 quant then (.ok (), quant)
  else
    match scanFiles vendored quant files Scan.empty with
    | .error e => (.error e, quant)
    | .ok scan =>
      if scan.nativeExclusive ≠ [] ∧
          (scan.nPristine ≠ 0 ∨ scan.patchedExclusive ≠ [] ∨ scan.drifted ≠ []) then
        (.error .mixedNative, quant)
      else
        match scan.drifted with
        | target :: _ => (.error (.drifted target), quant)
        | [] =>
          if scan.plan ≠ [] ∧ scan.nAlready ≠ 0 then (.error .mixedPatched, quant)
          else
            match writePlan vendored scan.plan 0 quant with
            | (.error e, written) => (.error e, written)
            | (.ok nPatched, written) =>
              if nPatched ≠ 0 ∧ scan.nAlready ≠ 0 then (.error .mixedResult, written)
              else (.ok (), written)

def Complete (quant : Quant) : Prop :=
  treeIsNativeV147 quant = true ∨ ∀ name, quant name = some (vendored.patched name)

def Mixture (quant : Quant) : Prop :=
  (∃ name, quant name = some (vendored.pristine name)) ∧
    ∃ name, quant name = some (vendored.patched name)

theorem mem_files (name : Name) : name ∈ files := by
  cases name <;> decide

-- Stated for any function in place of the digest, so that the kernel leaves it alone.
theorem any_eq_iff {hash : List UInt8 → Nat} {file : Option (List UInt8)} {current : List UInt8}
    (found : file = some current) (digest : Nat) :
    (file.any fun bytes => hash bytes == digest) = true ↔ hash current = digest := by
  subst found
  simp

section
variable {vendored} {quant : Quant}

theorem isNative_iff {name : Name} {current : List UInt8} (found : quant name = some current) :
    isNative quant name = true ↔ sha256 current = nativeV147Sha256 name :=
  any_eq_iff found (nativeV147Sha256 name)

structure Classified (vendored : Vendored) (quant : Quant) (names : List Name)
    (before after : Scan) : Prop where
  distinct : ∀ name ∈ names, vendored.pristine name ≠ vendored.patched name
  plan : after.plan = before.plan ++
    names.filter fun name => quant name = some (vendored.pristine name)
  already : after.nAlready = before.nAlready +
    names.countP fun name => quant name = some (vendored.patched name)
  native : ∀ name ∈ after.nativeExclusive, name ∈ before.nativeExclusive ∨
    name ≠ nativeV147SharedHeader ∧ isNative quant name = true
  drifted : after.drifted = before.drifted ++ names.filter fun name =>
    quant name ≠ some (vendored.pristine name) ∧ quant name ≠ some (vendored.patched name)

theorem scanFile_classified {scan after : Scan} {name : Name}
    (scanned : scanFile vendored quant scan name = .ok after) :
    Classified vendored quant [name] scan after := by
  unfold scanFile at scanned
  split at scanned
  · cases scanned
  rename_i distinct
  split at scanned
  · cases scanned
  rename_i current found
  have native : ∀ other ∈ scan.nativeExclusive ++
      (if sha256 current = nativeV147Sha256 name ∧ name ≠ nativeV147SharedHeader then [name]
        else []),
      other ∈ scan.nativeExclusive ∨
        other ≠ nativeV147SharedHeader ∧ isNative quant other = true := by
    intro other member
    rcases List.mem_append.mp member with old | new
    · exact Or.inl old
    · split at new
      · rename_i own
        rw [List.mem_singleton.mp new]
        exact Or.inr ⟨own.2, (isNative_iff found).mpr own.1⟩
      · cases new
  simp only at scanned
  split at scanned
  · rename_i patched
    cases scanned
    subst patched
    exact ⟨by simpa using distinct, by simp [found, Ne.symm distinct], by simp [found], native,
      by simp [found]⟩
  · rename_i unpatched
    split at scanned
    · rename_i pristine
      cases scanned
      subst pristine
      exact ⟨by simpa using distinct, by simp [found], by simp [found, unpatched], native,
        by simp [found]⟩
    · rename_i unpristine
      cases scanned
      exact ⟨by simpa using distinct, by simp [found, unpristine], by simp [found, unpatched],
        native, by simp [found, unpristine, unpatched]⟩

theorem scanFiles_classified {names : List Name} : ∀ {scan after : Scan},
    scanFiles vendored quant names scan = .ok after →
    Classified vendored quant names scan after := by
  induction names with
  | nil =>
    intro scan after scanned
    cases scanned
    exact ⟨by simp, by simp, by simp, fun _ member => Or.inl member, by simp⟩
  | cons name rest ih =>
    intro scan after scanned
    rw [scanFiles, List.foldlM_cons] at scanned
    cases first : scanFile vendored quant scan name with
    | error e =>
      rw [first] at scanned
      cases scanned
    | ok middle =>
      rw [first] at scanned
      have here := scanFile_classified first
      have later := ih scanned
      refine ⟨?_, ?_, ?_, ?_, ?_⟩
      · intro other member
        rcases List.mem_cons.mp member with rfl | inRest
        · exact here.distinct other List.mem_cons_self
        · exact later.distinct other inRest
      · rw [later.plan, here.plan, List.append_assoc, ← List.filter_append,
          List.singleton_append]
      · rw [later.already, here.already, Nat.add_assoc, ← List.countP_append,
          List.singleton_append]
      · intro other member
        rcases later.native other member with inMiddle | own
        · exact here.native other inMiddle
        · exact Or.inr own
      · rw [later.drifted, here.drifted, List.append_assoc, ← List.filter_append,
          List.singleton_append]

theorem scanFiles_ok {names : List Name}
    (distinct : ∀ name ∈ names, vendored.pristine name ≠ vendored.patched name)
    (readable : ∀ name ∈ names, quant name ≠ none) :
    ∀ scan, ∃ after, scanFiles vendored quant names scan = .ok after := by
  induction names with
  | nil =>
    intro scan
    exact ⟨scan, rfl⟩
  | cons name rest ih =>
    intro scan
    have here : ∃ middle, scanFile vendored quant scan name = .ok middle := by
      unfold scanFile
      rw [if_neg (distinct name List.mem_cons_self)]
      cases found : quant name with
      | none => exact absurd found (readable name List.mem_cons_self)
      | some current =>
        simp only
        split
        · exact ⟨_, rfl⟩
        · split <;> exact ⟨_, rfl⟩
    obtain ⟨middle, first⟩ := here
    obtain ⟨after, later⟩ := ih (fun other member => distinct other (List.mem_cons_of_mem _ member))
      (fun other member => readable other (List.mem_cons_of_mem _ member)) middle
    refine ⟨after, ?_⟩
    rw [scanFiles, List.foldlM_cons, first]
    exact later

theorem writePlan_spec {plan : List Name} : ∀ {nPatched : Nat} {quant : Quant},
    ∃ written, writePlan vendored plan nPatched quant = (.ok (nPatched + plan.length), written) ∧
      (∀ name ∈ plan, written name = some (vendored.patched name)) ∧
      ∀ name, name ∉ plan → written name = quant name := by
  induction plan with
  | nil =>
    intro nPatched quant
    exact ⟨quant, rfl, by simp, fun _ _ => rfl⟩
  | cons name rest ih =>
    intro nPatched quant
    obtain ⟨written, result, inside, outside⟩ :=
      @ih (nPatched + 1) (Function.update quant name (some (vendored.patched name)))
    refine ⟨written, ?_, ?_, ?_⟩
    · rw [writePlan]
      simp only [Function.update_self, ne_eq, not_true_eq_false, ↓reduceIte]
      rw [result, List.length_cons, Nat.add_assoc, Nat.add_comm 1]
    · intro other member
      by_cases later : other ∈ rest
      · exact inside other later
      · have same : other = name := by
          rcases List.mem_cons.mp member with same | wrong
          · exact same
          · exact absurd wrong later
        rw [outside other later, same, Function.update_self]
    · intro other absent
      rw [List.mem_cons, not_or] at absent
      rw [outside other absent.2, Function.update_of_ne absent.1]

theorem main_cases (vendored : Vendored) (quant : Quant) :
    (treeIsNativeV147 quant = true ∧ main vendored false quant = (.ok (), quant)) ∨
    (∃ e, main vendored false quant = (.error e, quant)) ∨
    ∃ scan written, scanFiles vendored quant files Scan.empty = .ok scan ∧ scan.drifted = [] ∧
      (scan.plan = [] ∨ scan.nAlready = 0) ∧
      (∀ name ∈ scan.plan, written name = some (vendored.patched name)) ∧
      (∀ name, name ∉ scan.plan → written name = quant name) ∧
      main vendored false quant = (.ok (), written) := by
  unfold main
  simp only [Bool.false_eq_true, ↓reduceIte]
  split
  · rename_i native
    exact Or.inl ⟨native, rfl⟩
  refine Or.inr ?_
  split
  · rename_i e _
    exact Or.inl ⟨e, rfl⟩
  rename_i scan scanned
  split
  · exact Or.inl ⟨_, rfl⟩
  split
  · exact Or.inl ⟨_, rfl⟩
  rename_i drifted
  split
  · exact Or.inl ⟨_, rfl⟩
  rename_i unmixed
  obtain ⟨written, result, inside, outside⟩ :=
    @writePlan_spec vendored scan.plan 0 quant
  have either : scan.plan = [] ∨ scan.nAlready = 0 := by
    by_cases empty : scan.plan = []
    · exact Or.inl empty
    · exact Or.inr (by simpa [empty] using unmixed)
  refine Or.inr ⟨scan, written, scanned, drifted, either, inside, outside, ?_⟩
  rw [result]
  have final : ¬ (0 + scan.plan.length ≠ 0 ∧ scan.nAlready ≠ 0) := by
    rintro ⟨planned, already⟩
    rcases either with empty | none
    · rw [empty] at planned
      exact planned rfl
    · exact already none
  simp only [if_neg final]

theorem Classified.all_patched {scan : Scan}
    (classified : Classified vendored quant files Scan.empty scan) (undrifted : scan.drifted = [])
    {written : Quant}
    (inside : ∀ name ∈ scan.plan, written name = some (vendored.patched name))
    (outside : ∀ name, name ∉ scan.plan → written name = quant name) :
    ∀ name, written name = some (vendored.patched name) := by
  intro name
  by_cases planned : name ∈ scan.plan
  · exact inside name planned
  rw [outside name planned]
  have unpristine : quant name ≠ some (vendored.pristine name) := by
    intro pristine
    refine planned ?_
    rw [classified.plan]
    simp [mem_files name, pristine]
  have none : files.filter (fun name => quant name ≠ some (vendored.pristine name) ∧
      quant name ≠ some (vendored.patched name)) = [] := by
    have known := classified.drifted
    rw [undrifted] at known
    simpa [Scan.empty] using known.symm
  have known := List.filter_eq_nil_iff.mp none name (mem_files name)
  simpa [unpristine] using known

theorem main_patched (distinct : ∀ name, vendored.pristine name ≠ vendored.patched name)
    (patched : ∀ name, quant name = some (vendored.patched name)) :
    main vendored false quant = (.ok (), quant) := by
  have readable : ∀ name ∈ files, quant name ≠ none := by
    intro name _
    simp [patched name]
  obtain ⟨scan, scanned⟩ := scanFiles_ok (fun name _ => distinct name) readable Scan.empty
  have classified := scanFiles_classified scanned
  have plan : scan.plan = [] := by
    rw [classified.plan, Scan.empty, List.nil_append, List.filter_eq_nil_iff]
    intro name _
    simp [patched name, Ne.symm (distinct name)]
  have drifted : scan.drifted = [] := by
    rw [classified.drifted, Scan.empty, List.nil_append, List.filter_eq_nil_iff]
    intro name _
    simp [patched name]
  have native : scan.nativeExclusive = [] := by
    rw [List.eq_nil_iff_forall_not_mem]
    intro name member
    rcases classified.native name member with wrong | ⟨exclusive, hashed⟩
    · cases wrong
    · exact vendored.patched_foreign name exclusive ((isNative_iff (patched name)).mp hashed)
  unfold main
  simp [scanned, native, drifted, plan, writePlan]

theorem main_all_or_nothing (vendored : Vendored) (quant : Quant) :
    (∃ e, main vendored false quant = (.error e, quant)) ∨
    ∃ final, main vendored false quant = (.ok (), final) ∧ Complete vendored final ∧
      main vendored false final = (.ok (), final) := by
  rcases main_cases vendored quant with ⟨native, done⟩ | failed |
    ⟨scan, written, scanned, undrifted, either, inside, outside, done⟩
  · exact Or.inr ⟨quant, done, Or.inl native, done⟩
  · exact Or.inl failed
  · have classified := scanFiles_classified scanned
    have patched := classified.all_patched undrifted inside outside
    exact Or.inr ⟨written, done, Or.inr patched,
      main_patched (fun name => classified.distinct name (mem_files name)) patched⟩

theorem main_refuses {vendored : Vendored} {quant : Quant} (mixture : Mixture vendored quant) :
    ∃ e, main vendored false quant = (.error e, quant) := by
  obtain ⟨⟨name, pristine⟩, other, patched⟩ := mixture
  rcases main_cases vendored quant with ⟨native, _⟩ | failed | ⟨scan, _, scanned, _, either, _⟩
  · have hashed := List.all_eq_true.mp native name (mem_files name)
    exact absurd ((isNative_iff pristine).mp hashed) (vendored.pristine_foreign name)
  · exact failed
  · exfalso
    have classified := scanFiles_classified scanned
    rcases either with empty | zero
    · rw [classified.plan, Scan.empty, List.nil_append, List.filter_eq_nil_iff] at empty
      exact empty name (mem_files name) (by simpa using pristine)
    · rw [classified.already, Scan.empty, Nat.zero_add, List.countP_eq_zero] at zero
      exact zero other (mem_files other) (by simpa using patched)

end
end Installers.TicketScheduler
