import Glm53Overlay.AdaptiveK.CapturedWidths

/-!
A rejected override file. The fields are assigned one by one, so a file is without effect exactly
when everything it sets before its first malformed field is what the policy has already.
-/
namespace AdaptiveK
variable {F : Type} (host : Host F)

def ignoresFile (k : Policy F) (disk : Option (OverrideFile F)) : Bool :=
  match disk with
  | none => false
  | some file =>
    if k.bootEnabled = false ∨ some file.mtime = k.fileMtime then false
    else
      match file.content with
      | none => true
      | some cfg => (readOverride host { k with fileMtime := some file.mtime } cfg).2

structure SameSettings (before after : Policy F) : Prop where
  enabled : after.enabled = before.enabled
  alpha : after.alpha = before.alpha
  margin : after.margin = before.margin
  min_steps : after.minSteps = before.minSteps
  saturate : after.saturate = before.saturate
  k_set : after.kSet = before.kSet
  state : after.state = before.state
  hist : after.hist = before.hist

section Fields
variable (k : Policy F) (members : List (String × Json F))

def fileAlpha : Option F := field members "alpha" host.toFloat k.alpha

def fileMargin : Option F := field members "margin" host.toFloat k.margin

def fileMinSteps : Option Int := field members "min_steps" host.toInt k.minSteps

def fileSaturate : String :=
  PyText.lower (PyText.strip (((members.lookup "saturate").map host.toStr).getD k.saturate))

def fileSet : Option (List Int) :=
  field members "set" (fun v => (host.overrideSet v).map (ladder k.bootSet)) k.kSet

def Malformed : Prop :=
  fileAlpha host k members = none ∨ fileMargin host k members = none ∨
    fileMinSteps host k members = none ∨ fileSet host k members = none

/-- Each field before the first malformed one, in the order mode, alpha, margin, min_steps,
    saturate, set, repeats the policy's value. -/
def RepeatsPolicy : Prop :=
  overrideMode host members = k.enabled ∧
    ∀ alpha, fileAlpha host k members = some alpha → alpha = k.alpha ∧
      ∀ margin, fileMargin host k members = some margin → margin = k.margin ∧
        ∀ minSteps, fileMinSteps host k members = some minSteps → minSteps = k.minSteps ∧
          fileSaturate host k members = k.saturate

theorem ignored_iff_malformed :
    (readOverride host k (.dict members)).2 = true ↔ Malformed host k members := by
  unfold readOverride Malformed fileAlpha fileMargin fileMinSteps fileSet
  dsimp only
  cases field members "alpha" host.toFloat k.alpha with
  | none => simp
  | some alpha =>
    cases field members "margin" host.toFloat k.margin with
    | none => simp
    | some margin =>
      cases field members "min_steps" host.toInt k.minSteps with
      | none => simp
      | some minSteps =>
        dsimp only
        cases field members "set" (fun v => (host.overrideSet v).map (ladder k.bootSet))
            k.kSet with
        | none => simp
        | some kSet => simp

theorem malformed_settings (malformed : Malformed host k members) :
    SameSettings k (readOverride host k (.dict members)).1 ↔ RepeatsPolicy host k members := by
  revert malformed
  unfold Malformed readOverride RepeatsPolicy fileAlpha fileMargin fileMinSteps fileSet
  dsimp only
  generalize overrideMode host members = mode
  cases field members "alpha" host.toFloat k.alpha with
  | none =>
    intro _
    constructor
    · intro same
      exact ⟨same.enabled, nofun⟩
    · intro repeats
      constructor <;> first | exact repeats.1 | rfl
  | some alpha =>
    cases field members "margin" host.toFloat k.margin with
    | none =>
      intro _
      constructor
      · intro same
        exact ⟨same.enabled, fun a found => ⟨Option.some.inj found ▸ same.alpha, nofun⟩⟩
      · intro repeats
        have first := repeats.2 alpha rfl
        constructor <;> first | exact repeats.1 | exact first.1 | rfl
    | some margin =>
      cases field members "min_steps" host.toInt k.minSteps with
      | none =>
        intro _
        constructor
        · intro same
          refine ⟨same.enabled, fun a found => ⟨Option.some.inj found ▸ same.alpha, ?_⟩⟩
          exact fun m found => ⟨Option.some.inj found ▸ same.margin, nofun⟩
        · intro repeats
          have first := repeats.2 alpha rfl
          have second := first.2 margin rfl
          constructor <;> first | exact repeats.1 | exact first.1 | exact second.1 | rfl
      | some minSteps =>
        intro malformed
        simp only [reduceCtorEq, false_or] at malformed
        rw [malformed]
        constructor
        · intro same
          refine ⟨same.enabled, fun a found => ⟨Option.some.inj found ▸ same.alpha, ?_⟩⟩
          refine fun m found => ⟨Option.some.inj found ▸ same.margin, ?_⟩
          exact fun n found => ⟨Option.some.inj found ▸ same.min_steps, same.saturate⟩
        · intro repeats
          have first := repeats.2 alpha rfl
          have second := first.2 margin rfl
          have third := second.2 minSteps rfl
          constructor <;>
            first
              | exact repeats.1
              | exact first.1
              | exact second.1
              | exact third.1
              | exact third.2
              | rfl

end Fields

/-- A file is looked at when the policy was on at boot and its mtime is new. -/
def LooksAt (k : Policy F) (file : OverrideFile F) : Prop :=
  k.bootEnabled = true ∧ k.fileMtime ≠ some file.mtime

/-- The file turns the policy off and has a word for the smoothing factor. -/
def halfReadFile : OverrideFile ℚ :=
  ⟨1, some (.dict [("mode", .str "off"), ("alpha", .str "fast")])⟩

end AdaptiveK
