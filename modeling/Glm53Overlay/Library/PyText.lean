import Mathlib.Data.List.Basic

/-!
The text operations of the host language that the knobs go through: `str.strip`,
`str.lower` as far as it decides equality with ASCII words, and `int(text, 10)`.
The digit table is that of Unicode 15.0, the one shipped with Python 3.12.
-/
namespace PyText

def spaces : List Nat :=
  [0x09, 0x0a, 0x0b, 0x0c, 0x0d, 0x1c, 0x1d, 0x1e, 0x1f, 0x20, 0x85, 0xa0, 0x1680,
   0x2000, 0x2001, 0x2002, 0x2003, 0x2004, 0x2005, 0x2006, 0x2007, 0x2008, 0x2009, 0x200a,
   0x2028, 0x2029, 0x202f, 0x205f, 0x3000]

def isSpace (c : Char) : Bool := spaces.contains c.toNat

def stripChars (cs : List Char) : List Char :=
  ((cs.dropWhile isSpace).reverse.dropWhile isSpace).reverse

def strip (s : String) : String := String.ofList (stripChars s.toList)

/-- Besides A-Z the Kelvin sign is the only character whose lower case is ASCII, so
    leaving every other character alone changes no comparison with an ASCII word. -/
def lowerChar (c : Char) : Char :=
  if 0x41 ≤ c.toNat ∧ c.toNat ≤ 0x5a then Char.ofNat (c.toNat + 0x20)
  else if c.toNat = 0x212a then 'k' else c

def lower (s : String) : String := String.ofList (s.toList.map lowerChar)

/-- First code point of each block of ten decimal digits. -/
def zeros : List Nat :=
  [0x30, 0x660, 0x6f0, 0x7c0, 0x966, 0x9e6, 0xa66, 0xae6, 0xb66, 0xbe6, 0xc66, 0xce6,
   0xd66, 0xde6, 0xe50, 0xed0, 0xf20, 0x1040, 0x1090, 0x17e0, 0x1810, 0x1946, 0x19d0,
   0x1a80, 0x1a90, 0x1b50, 0x1bb0, 0x1c40, 0x1c50, 0xa620, 0xa8d0, 0xa900, 0xa9d0,
   0xa9f0, 0xaa50, 0xabf0, 0xff10, 0x104a0, 0x10d30, 0x11066, 0x110f0, 0x11136, 0x111d0,
   0x112f0, 0x11450, 0x114d0, 0x11650, 0x116c0, 0x11730, 0x118e0, 0x11950, 0x11c50,
   0x11d50, 0x11da0, 0x11f50, 0x16a60, 0x16ac0, 0x16b50, 0x1d7ce, 0x1d7d8, 0x1d7e2,
   0x1d7ec, 0x1d7f6, 0x1e140, 0x1e2f0, 0x1e4f0, 0x1e950, 0x1fbf0]

def decimal (c : Char) : Option Nat :=
  (zeros.find? fun z => z ≤ c.toNat ∧ c.toNat ≤ z + 9).map fun z => c.toNat - z

/-- Digits after the first one; a single underscore may stand before each of them. -/
def moreDigits : List Char → Option (List Nat)
  | [] => some []
  | '_' :: c :: rest => do
      let d ← decimal c
      let ds ← moreDigits rest
      return d :: ds
  | c :: rest => do
      let d ← decimal c
      let ds ← moreDigits rest
      return d :: ds

def digits : List Char → Option (List Nat)
  | [] => none
  | c :: rest => do
      let d ← decimal c
      let ds ← moreDigits rest
      return d :: ds

/-- The interpreter refuses decimal literals longer than this many digits. -/
def maxStrDigits : Nat := 4300

def magnitude (cs : List Char) : Option Int := do
  let ds ← digits cs
  if ds.length ≤ maxStrDigits then return (ds.foldl (fun n d => 10 * n + d) 0 : Nat) else none

/-- `int(text, 10)`; `none` is the `ValueError`. -/
def toInt (s : String) : Option Int :=
  match stripChars s.toList with
  | '-' :: cs => (magnitude cs).map (- ·)
  | '+' :: cs => magnitude cs
  | cs => magnitude cs

/-- First and last code point of the runs of digits that are no decimal digits. -/
def otherDigits : List (Nat × Nat) :=
  [(0xb2, 0xb3), (0xb9, 0xb9), (0x1369, 0x1371), (0x19da, 0x19da), (0x2070, 0x2070),
   (0x2074, 0x2079), (0x2080, 0x2089), (0x2460, 0x2468), (0x2474, 0x247c), (0x2488, 0x2490),
   (0x24ea, 0x24ea), (0x24f5, 0x24fd), (0x24ff, 0x24ff), (0x2776, 0x277e), (0x2780, 0x2788),
   (0x278a, 0x2792), (0x10a40, 0x10a43), (0x10e60, 0x10e68), (0x11052, 0x1105a),
   (0x1f100, 0x1f10a)]

/-- `str.isdigit`. -/
def isDigits (s : String) : Bool :=
  s ≠ "" && s.toList.all fun c =>
    (decimal c).isSome || otherDigits.any fun run => run.1 ≤ c.toNat ∧ c.toNat ≤ run.2

example : toInt " -1_024\n" = some (-1024) := by decide
example : toInt "1__0" = none := by decide
example : isDigits "²" = true ∧ toInt "²" = none := by decide

end PyText
