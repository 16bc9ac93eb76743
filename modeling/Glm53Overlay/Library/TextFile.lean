import Mathlib.Data.List.Basic

/-!
Text files. The characters of a file and its bytes determine each other when the bytes are
valid UTF-8, so a file is its characters or a byte string that does not decode. Reading
translates line ends; writing does not.
-/
namespace TextFile

/-- The characters of a literal, spelled out. -/
def verbatim (literal : String) (characters : List Char)
    (_ : literal = String.ofList characters) : List Char := characters

/-- Universal newlines; the flag tells that the last character was a carriage return. -/
def translateFrom : Bool → List Char → List Char
  | _, [] => []
  | afterReturn, c :: t =>
    if c = '\r' then '\n' :: translateFrom true t
    else if afterReturn && c == '\n' then translateFrom false t
    else c :: translateFrom false t

def translate (t : List Char) : List Char := translateFrom false t

theorem translateFrom_no_return (t : List Char) : ∀ flag, '\r' ∉ translateFrom flag t := by
  induction t with
  | nil =>
    intro flag
    exact List.not_mem_nil
  | cons c t ih =>
    intro flag
    rw [translateFrom]
    split
    · simp [ih]
    · rename_i other
      split
      · exact ih false
      · simp [ih, Ne.symm other]

theorem translate_no_return (t : List Char) : '\r' ∉ translate t :=
  translateFrom_no_return t false

theorem translate_of_no_return (t : List Char) (clean : '\r' ∉ t) : translate t = t := by
  induction t with
  | nil => rfl
  | cons c t ih =>
    have other : c ≠ '\r' := fun same => clean (same ▸ List.mem_cons_self)
    have rest : translateFrom false t = t :=
      ih (fun later => clean (List.mem_cons_of_mem _ later))
    rw [translate, translateFrom, if_neg other]
    simp [rest]

inductive File where
  | text (characters : List Char)
  | undecodable (bytes : List UInt8)
  deriving DecidableEq

/-- The text read from a file; `none` when it does not decode. -/
def File.read : File → Option (List Char)
  | .text characters => some (translate characters)
  | .undecodable _ => none

theorem File.no_return_of_read {f : File} {t : List Char} (found : f.read = some t) :
    '\r' ∉ t := by
  cases f with
  | undecodable bytes => cases found
  | text characters =>
    cases found
    exact translate_no_return characters

end TextFile
