import Mathlib.Data.Rat.Floor

/-!
Parsed JSON as the host language has it, over a type of floats, with its tests of a value's kind:
a boolean is an integer. Also rounding of exact numbers to integers.
-/
inductive PyJson (F : Type) where
  | null
  | bool (b : Bool)
  | int (i : Int)
  | float (x : F)
  | str (s : String)
  | arr (items : List (PyJson F))
  | obj (members : List (String × PyJson F))

namespace PyJson
variable {F : Type}

/-- `isinstance(value, int)`, with the integer. -/
def asInt : PyJson F → Option Int
  | .bool b => some (if b then 1 else 0)
  | .int i => some i
  | _ => none

/-- `value == text` for a text. -/
def isText (text : String) : PyJson F → Bool
  | .str s => s = text
  | _ => false

def asText : PyJson F → Option String
  | .str s => some s
  | _ => none

/-- `value if isinstance(value, dict)`. -/
def asObject : PyJson F → Option (List (String × PyJson F))
  | .obj members => some members
  | _ => none

/-- `isinstance(value, int) and not isinstance(value, bool)`, with the integer. -/
def plainInt : PyJson F → Option Int
  | .int i => some i
  | _ => none

/-- `value is True`, `value is False`. -/
def isBool (b : Bool) : PyJson F → Bool
  | .bool c => c = b
  | _ => false

/-- `value is None`. -/
def isNull : PyJson F → Bool
  | .null => true
  | _ => false

/-- `value.get(key)` of an object. -/
def get (members : List (String × PyJson F)) (key : String) : PyJson F :=
  (members.lookup key).getD .null

inductive Part (x : PyJson F) : PyJson F → Prop where
  | self : Part x x
  | item {y : PyJson F} {items : List (PyJson F)} : y ∈ items → Part x y → Part x (.arr items)
  | member {y : PyJson F} {key : String} {members : List (String × PyJson F)} :
    (key, y) ∈ members → Part x y → Part x (.obj members)

@[simp] theorem plainInt_eq_some (v : PyJson F) (i : Int) : v.plainInt = some i ↔ v = .int i := by
  cases v <;> simp [plainInt]

@[simp] theorem isBool_iff (v : PyJson F) (b : Bool) : v.isBool b = true ↔ v = .bool b := by
  cases v <;> simp [isBool]

@[simp] theorem isNull_iff (v : PyJson F) : v.isNull = true ↔ v = .null := by
  cases v <;> simp [isNull]

theorem get_part (members : List (String × PyJson F)) (key : String) :
    get members key = .null ∨ ∀ x, Part x (get members key) → Part x (.obj members) := by
  unfold get
  cases found : members.lookup key with
  | none => exact Or.inl rfl
  | some v =>
    obtain ⟨before, after, split, _⟩ := List.lookup_eq_some_iff.mp found
    right
    intro x part
    exact .member (split ▸ List.mem_append_right _ List.mem_cons_self) part

end PyJson

namespace PyRound

/-- The nearest integer, the even one of two. -/
def halfEven (x : ℚ) : ℤ :=
  let below := ⌊x⌋
  if x - below < 1 / 2 then below
  else if 1 / 2 < x - below then below + 1
  else if below % 2 = 0 then below else below + 1

theorem halfEven_int (n : ℤ) : halfEven n = n := by
  unfold halfEven
  simp

end PyRound
