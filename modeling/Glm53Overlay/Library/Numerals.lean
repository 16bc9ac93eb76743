import Glm53Overlay.Library.PyText
import Glm53Overlay.Library.ShellText

/-!
Numerals of ASCII digits as the shell and as `int` read them.
-/
namespace Numerals
open PyText ShellText

theorem decimal_digit {c : Char} (digit : c.isDigit = true) : decimal c = some (c.toNat - 48) := by
  have range := digit_le digit
  unfold decimal zeros
  rw [List.find?_cons_of_pos (by simpa using by omega)]
  rfl

theorem digit_not_space {c : Char} (digit : c.isDigit = true) : isSpace c = false := by
  have range := digit_le digit
  unfold isSpace spaces
  simp only [List.contains_eq_mem, List.mem_cons, List.not_mem_nil, or_false, decide_eq_false_iff_not]
  omega

theorem strip_digits {cs : List Char} (digits : cs.all Char.isDigit = true) :
    stripChars cs = cs := by
  have same : ∀ ds : List Char, ds.all Char.isDigit = true → ds.dropWhile isSpace = ds := by
    intro ds all
    cases ds with
    | nil => rfl
    | cons c rest =>
      rw [List.all_cons, Bool.and_eq_true] at all
      exact List.dropWhile_cons_of_neg (by rw [digit_not_space all.1]; exact Bool.false_ne_true)
  unfold stripChars
  rw [same cs digits, same cs.reverse (by rw [List.all_reverse]; exact digits),
    List.reverse_reverse]

theorem more_digits {cs : List Char} (digits : cs.all Char.isDigit = true) :
    moreDigits cs = some (cs.map fun c => c.toNat - 48) := by
  induction cs with
  | nil => rfl
  | cons c rest ih =>
    rw [List.all_cons, Bool.and_eq_true] at digits
    have plain : c ≠ '_' := by
      rintro rfl
      exact absurd digits.1 (by decide)
    unfold moreDigits
    split
    · rename_i same
      exact absurd same (by simp)
    · rename_i same
      exact absurd (List.cons.inj same).1 plain
    · rename_i same
      obtain ⟨rfl, rfl⟩ := List.cons.inj same
      rw [decimal_digit digits.1, ih digits.2]
      rfl

theorem to_int_numeral {text : String} (numeral : isNumeral text.toList = true) :
    toInt text = if text.toList.length ≤ maxStrDigits then some (value text.toList : Int)
      else none := by
  unfold isNumeral at numeral
  rw [Bool.and_eq_true] at numeral
  obtain ⟨full, digits⟩ := numeral
  have bare := strip_digits digits
  have amount : magnitude text.toList = if text.toList.length ≤ maxStrDigits then
      some (value text.toList : Int) else none := by
    have all : PyText.digits text.toList = some (text.toList.map fun c => c.toNat - 48) := by
      cases shape : text.toList with
      | nil =>
        rw [shape] at full
        exact absurd full (by simp)
      | cons c rest =>
        rw [shape, List.all_cons, Bool.and_eq_true] at digits
        unfold PyText.digits
        dsimp only
        rw [decimal_digit digits.1, more_digits digits.2]
        rfl
    unfold magnitude
    rw [all]
    simp only [Option.bind_eq_bind, Option.bind_some, List.length_map, List.foldl_map]
    rfl
  unfold toInt
  rw [bare]
  split
  · rename_i cs shape
    rw [shape] at digits
    exact absurd digits (by simp)
  · rename_i cs shape
    rw [shape] at digits
    exact absurd digits (by simp)
  · exact amount

end Numerals
