import Mathlib.Data.Nat.Bitwise
import Mathlib.Data.List.GetD
import Glm53Overlay.Library.TextEdit

/-!
A text as one number, a field of `w` bits for each character, the first character lowest. A
pattern is looked for in every field at once, so that the kernel can count in long texts.
-/
namespace PackedText
open TextSearch TextEdit
variable {α : Type*}

def pack (w : Nat) (code : α → Nat) : List α → Nat
  | [] => 0
  | c :: t => pack w code t <<< w ||| code c

def size (lines : List (List α)) : Nat := (lines.map List.length).sum

def packFew (w : Nat) (code : α → Nat) : List (List α) → Nat
  | [] => 0
  | l :: rest => packFew w code rest <<< (w * l.length) ||| pack w code l

/-- And by eight lines at a time, so that few of the numbers on the way are long. -/
def packLines (w : Nat) (code : α → Nat) : List (List α) → Nat
  | a :: b :: c :: d :: e :: f :: g :: h :: rest =>
    packLines w code rest <<< (w * size [a, b, c, d, e, f, g, h]) |||
      packFew w code [a, b, c, d, e, f, g, h]
  | few => packFew w code few

def starts (w n : Nat) : Nat := (2 ^ (w * n) - 1) / (2 ^ w - 1)

def same (text firsts v : Nat) : Nat → Nat
  | 0 => firsts
  | b + 1 => same text firsts v b &&& (text >>> b ^^^ bif v.testBit b then 0 else firsts)

def occurs (w : Nat) (code : α → Nat) (text firsts : Nat) : List α → Nat
  | [] => firsts <<< w ||| 1
  | c :: p => same text firsts (code c) w &&& occurs w code text firsts p >>> w

/-- The pattern stands at no place but the `ps`: the `r` characters from the `d`th on tell. -/
def confined (w : Nat) (code : α → Nat) (text p : List (List α)) (d r : Nat) (ps : List Nat) :
    Bool :=
  decide (occurs w code (packLines w code text) (starts w (size text))
      ((p.flatten.drop d).take r) = ps.foldr (fun k rest => 1 <<< (w * (k + d)) ||| rest) 0) &&
    decide (d ≤ size p ∧ 0 < size p ∧ ps.Pairwise fun i j => i + size p ≤ j)

/-- The pattern stands at the places `ps` and nowhere else; `exact` tells the characters that
    have their code to themselves. -/
def located (w : Nat) (code : α → Nat) (exact : α → Bool) (text p : List (List α)) (d r : Nat)
    (ps : List Nat) : Bool :=
  confined w code text p d r ps && (ps.isEmpty || p.all fun l => l.all exact) &&
    ps.all fun k => decide (k + size p ≤ size text ∧
      packLines w code text >>> (w * k) % 1 <<< (w * size p) = packLines w code p)

theorem size_flatten (lines : List (List α)) : size lines = lines.flatten.length := by
  rw [size, List.length_flatten]

theorem pack_append (w : Nat) (code : α → Nat) (s t : List α) :
    pack w code (s ++ t) = pack w code t <<< (w * s.length) ||| pack w code s := by
  induction s with
  | nil => simp [pack]
  | cons c s ih =>
    rw [List.cons_append, pack, ih, pack, List.length_cons, Nat.mul_succ, Nat.shiftLeft_add,
      Nat.shiftLeft_or_distrib, Nat.or_assoc]

theorem packFew_eq (w : Nat) (code : α → Nat) (lines : List (List α)) :
    packFew w code lines = pack w code lines.flatten := by
  induction lines with
  | nil => rfl
  | cons l rest ih => rw [packFew, ih, List.flatten_cons, pack_append]

theorem packLines_eq (w : Nat) (code : α → Nat) (lines : List (List α)) :
    packLines w code lines = pack w code lines.flatten := by
  fun_induction packLines w code lines with
  | case1 a b c d e f g h rest ih =>
    rw [ih, packFew_eq, size_flatten, ← pack_append, ← List.flatten_append]
    rfl
  | case2 few => exact packFew_eq w code few

section Fields
variable {w : Nat} {code : α → Nat} (small : ∀ c, code c < 2 ^ w)
include small

theorem testBit_code {c : α} {b : Nat} (outside : w ≤ b) : (code c).testBit b = false :=
  Nat.testBit_lt_two_pow (Nat.lt_of_lt_of_le (small c) (Nat.pow_le_pow_right (by decide) outside))

theorem testBit_pack (t : List α) {b : Nat} (inside : b < w) (i : Nat) :
    (pack w code t).testBit (w * i + b) = t[i]?.any fun c => (code c).testBit b := by
  induction t generalizing i with
  | nil => simp [pack]
  | cons c t ih =>
    rw [pack, Nat.testBit_or, Nat.testBit_shiftLeft]
    cases i with
    | zero =>
      have low : ¬ w ≤ b := Nat.not_le.mpr inside
      simp [low]
    | succ i =>
      have high : w ≤ w * (i + 1) + b := by
        rw [Nat.mul_succ]
        omega
      have rest : w * (i + 1) + b - w = w * i + b := by
        rw [Nat.mul_succ]
        omega
      rw [testBit_code small high, rest, ih, decide_eq_true high]
      simp

theorem testBit_shifted {t : List α} {i : Nat} {c : α} (here : t[i]? = some c) {b : Nat}
    (inside : b < w) : (pack w code t >>> b).testBit (w * i) = (code c).testBit b := by
  rw [Nat.testBit_shiftRight, Nat.add_comm, testBit_pack small t inside, here]
  rfl

theorem at_of_slice {t p : List α} {k : Nat} (told : ∀ c, ∀ d ∈ p, code c = code d → c = d)
    (room : k + p.length ≤ t.length)
    (slice : pack w code t >>> (w * k) % 1 <<< (w * p.length) = pack w code p) : At p t k := by
  rw [At, List.prefix_iff_getElem?]
  intro i inside
  have there : k + i < t.length := by omega
  rw [List.getElem?_drop, List.getElem?_eq_getElem there]
  refine congrArg some (told _ _ (List.getElem_mem inside) (Nat.eq_of_testBit_eq fun b => ?_))
  by_cases low : b < w
  · have field : w * i + b < w * p.length := by
      have := Nat.mul_le_mul_left w (Nat.succ_le_of_lt inside)
      rw [Nat.mul_succ] at this
      omega
    have bit := congrArg (Nat.testBit · (w * i + b)) slice
    simp only [Nat.one_shiftLeft, Nat.testBit_mod_two_pow, decide_eq_true field, Bool.true_and,
      Nat.testBit_shiftRight] at bit
    rw [← Nat.add_assoc, ← Nat.mul_add, testBit_pack small t low, testBit_pack small p low,
      List.getElem?_eq_getElem there, List.getElem?_eq_getElem inside] at bit
    exact bit
  · rw [testBit_code small (Nat.not_lt.mp low), testBit_code small (Nat.not_lt.mp low)]

end Fields

section Masks
variable {w : Nat} {code : α → Nat} (small : ∀ c, code c < 2 ^ w) (positive : 0 < w)
include small positive

omit small in
theorem starts_succ (n : Nat) : starts w (n + 1) = starts w n <<< w ||| 1 := by
  have one : 1 < 2 ^ w := Nat.one_lt_two_pow (by omega)
  have split : ∀ n, 2 ^ (w * (n + 1)) - 1 = (2 ^ (w * n) - 1) * 2 ^ w + (2 ^ w - 1) := by
    intro n
    have grown := Nat.le_mul_of_pos_left (2 ^ w) (Nat.two_pow_pos (w * n))
    rw [Nat.mul_succ, Nat.pow_add, Nat.sub_mul]
    omega
  have whole : ∀ n, (2 ^ w - 1) * starts w n = 2 ^ (w * n) - 1 := by
    intro n
    refine Nat.mul_div_cancel' ?_
    induction n with
    | zero => simp
    | succ n ih =>
      rw [split]
      exact Nat.dvd_add (Nat.dvd_mul_right_of_dvd ih _) (Nat.dvd_refl _)
  rw [← Nat.shiftLeft_add_eq_or_of_lt one, Nat.shiftLeft_eq]
  refine Nat.eq_of_mul_eq_mul_left (Nat.sub_pos_of_lt one) ?_
  rw [whole, split, ← whole, Nat.mul_add, Nat.mul_one, Nat.mul_assoc]

omit small in
theorem testBit_starts (n i : Nat) : (starts w n).testBit (w * i) = decide (i < n) := by
  induction n generalizing i with
  | zero => simp [starts]
  | succ n ih =>
    rw [starts_succ positive, Nat.testBit_or, Nat.testBit_shiftLeft]
    cases i with
    | zero => simp
    | succ i =>
      have high : w ≤ w * (i + 1) := Nat.le_mul_of_pos_right w (Nat.succ_pos i)
      have rest : w * (i + 1) - w = w * i := by
        rw [Nat.mul_succ]
        omega
      have apart : Nat.testBit 1 (w * (i + 1)) = false :=
        Nat.testBit_lt_two_pow (Nat.one_lt_two_pow (by omega))
      rw [rest, ih, decide_eq_true high, apart]
      simp

theorem testBit_same {t : List α} {i : Nat} {c : α} (here : t[i]? = some c) :
    ∀ b ≤ w, (same (pack w code t) (starts w t.length) (code c) b).testBit (w * i) = true := by
  have inside := (List.getElem?_eq_some_iff.mp here).1
  intro b
  induction b with
  | zero =>
    intro _
    rw [same, testBit_starts positive, decide_eq_true inside]
  | succ b ih =>
    intro low
    rw [same, Nat.testBit_and, ih (by omega), Nat.testBit_xor, testBit_shifted small here low]
    cases value : (code c).testBit b with
    | true => simp
    | false => simp [testBit_starts positive, inside]

theorem testBit_occurs {t : List α} : ∀ (p : List α) (i : Nat), At p t i → i ≤ t.length →
    (occurs w code (pack w code t) (starts w t.length) p).testBit (w * i) = true := by
  intro p
  induction p with
  | nil =>
    intro i _ inside
    rw [occurs, ← starts_succ positive, testBit_starts positive]
    exact decide_eq_true (Nat.lt_succ_of_le inside)
  | cons c p ih =>
    intro i here _
    obtain ⟨rest, split⟩ := here
    have first : t[i]? = some c := by
      rw [← List.head?_drop, ← split]
      rfl
    have tail : At p t (i + 1) := by
      refine ⟨rest, ?_⟩
      rw [← List.tail_drop, ← split]
      rfl
    have inside : i < t.length := (List.getElem?_eq_some_iff.mp first).1
    rw [occurs, Nat.testBit_and, testBit_same small positive first w (Nat.le_refl w),
      Nat.testBit_shiftRight, Nat.add_comm, ← Nat.mul_succ, ih (i + 1) tail inside]
    rfl

omit small in
theorem testBit_marks {d j : Nat} : ∀ {ps : List Nat},
    (ps.foldr (fun k rest => 1 <<< (w * (k + d)) ||| rest) 0).testBit (w * j) = true →
      ∃ k ∈ ps, k + d = j := by
  intro ps
  induction ps with
  | nil => simp
  | cons k rest ih =>
    intro marked
    rw [List.foldr_cons, Nat.testBit_or, Bool.or_eq_true, Nat.one_shiftLeft,
      Nat.testBit_two_pow, decide_eq_true_eq] at marked
    rcases marked with first | later
    · exact ⟨k, List.mem_cons_self, Nat.eq_of_mul_eq_mul_left positive first⟩
    · obtain ⟨k, member, there⟩ := ih later
      exact ⟨k, List.mem_cons_of_mem _ member, there⟩

variable {text p : List (List α)} {d r : Nat} {ps : List Nat}

theorem confined_spec (checked : confined w code text p d r ps = true) :
    p.flatten ≠ [] ∧ (∀ k, At p.flatten text.flatten k → k ∈ ps) ∧
      ps.Pairwise fun i j => i + p.flatten.length ≤ j := by
  simp only [confined, Bool.and_eq_true, decide_eq_true_eq, packLines_eq, size_flatten] at checked
  obtain ⟨probed, inside, long, apart⟩ := checked
  have nonempty : p.flatten ≠ [] := List.length_pos_iff.mp long
  refine ⟨nonempty, fun k here => ?_, apart⟩
  have room := at_end_le here nonempty
  -- the probe stands where the pattern stands, `d` characters on
  have probe : At ((p.flatten.drop d).take r) text.flatten (k + d) := by
    refine (List.take_prefix r _).trans ?_
    rw [← List.drop_drop]
    exact List.IsPrefix.drop here d
  have marked := testBit_occurs small positive _ _ probe (by omega)
  rw [probed] at marked
  obtain ⟨k', member, same⟩ := testBit_marks positive marked
  exact Nat.add_right_cancel same ▸ member

theorem places_of_confined {k : Nat} (checked : confined w code text p d r [k] = true)
    (before behind : List (List α)) (shape : text = before ++ p ++ behind) :
    p.flatten ≠ [] ∧ Places p.flatten text.flatten [k] := by
  obtain ⟨nonempty, only, apart⟩ := confined_spec small positive checked
  have here : At p.flatten text.flatten before.flatten.length := by
    rw [shape, List.flatten_append, List.flatten_append]
    exact at_middle _ _ _
  have mine := List.mem_singleton.mp (only _ here)
  refine ⟨nonempty, fun j => ⟨only j, fun member => ?_⟩, apart⟩
  rw [List.mem_singleton.mp member, ← mine]
  exact here

theorem places_of_located {exact : α → Bool}
    (told : ∀ c d, exact d = true → code c = code d → c = d)
    (checked : located w code exact text p d r ps = true) :
    p.flatten ≠ [] ∧ Places p.flatten text.flatten ps := by
  simp only [located, Bool.and_eq_true, Bool.or_eq_true, List.all_eq_true, List.isEmpty_iff,
    decide_eq_true_eq, packLines_eq, size_flatten] at checked
  obtain ⟨⟨confining, exactly⟩, slices⟩ := checked
  obtain ⟨nonempty, only, apart⟩ := confined_spec small positive confining
  refine ⟨nonempty, fun k => ⟨only k, fun member => ?_⟩, apart⟩
  obtain ⟨room, slice⟩ := slices k member
  have all := exactly.resolve_left (List.ne_nil_of_mem member)
  refine at_of_slice small (fun c d inside => told c d ?_) room slice
  obtain ⟨l, line, own⟩ := List.mem_flatten.mp inside
  exact all l line d own

end Masks

def chunks (n : Nat) : Nat → List α → List (List α)
  | 0, t => [t]
  | k + 1, t => t.take n :: chunks n k (t.drop n)

theorem chunks_flatten (n : Nat) : ∀ (k : Nat) (t : List α), (chunks n k t).flatten = t := by
  intro k
  induction k with
  | zero => intro t; simp [chunks]
  | succ k ih => intro t; rw [chunks, List.flatten_cons, ih, List.take_append_drop]

/-- The first bit of every field from which on the text agrees with the pattern as far as both
    go; `beyond` holds those behind the end. -/
def agrees (w : Nat) (code : α → Nat) (text firsts beyond : Nat) : List α → Nat
  | [] => firsts ||| beyond
  | c :: p => (same text firsts (code c) w ||| beyond) &&& agrees w code text firsts beyond p >>> w

def fits (w : Nat) (code : α → Nat) (r : Nat) (p t : List α) : Nat :=
  agrees w code (packLines w code (chunks 32 (t.length / 32) t)) (starts w t.length)
    (starts w (r + 1) <<< (w * t.length)) (p.take r)

/-- The check of all placements of a pattern against a window, told by `r` characters. -/
def apart (w : Nat) (code : α → Nat) (r : Nat) (own : Bool) (p a m b : List α) : Bool :=
  decide (fits w code r p (a ++ (m ++ b)) % 2 ^ (w * (a.length + m.length)) =
      bif own then 1 else 0) &&
    decide (fits w code r (a ++ (m ++ b)) p >>> w % 2 ^ (w * (p.length - a.length - 1)) = 0)

section Agreement
variable [DecidableEq α] {w : Nat} {code : α → Nat} (small : ∀ c, code c < 2 ^ w) (positive : 0 < w)
include small positive

theorem testBit_agrees {t : List α} {r : Nat} : ∀ (p : List α) (i : Nat),
    compat p (t.drop i) = true → i + p.length ≤ t.length + r →
    (agrees w code (pack w code t) (starts w t.length) (starts w (r + 1) <<< (w * t.length))
      p).testBit (w * i) = true := by
  have behind : ∀ i, t.length ≤ i → i ≤ t.length + r →
      (starts w (r + 1) <<< (w * t.length)).testBit (w * i) = true := by
    intro i past inside
    have high := Nat.mul_le_mul_left w past
    rw [Nat.testBit_shiftLeft, ← Nat.mul_sub, testBit_starts positive]
    simp only [Bool.and_eq_true, decide_eq_true_eq]
    exact ⟨high, by omega⟩
  intro p
  induction p with
  | nil =>
    intro i _ inside
    rw [agrees, Nat.testBit_or, Bool.or_eq_true]
    rw [List.length_nil] at inside
    by_cases past : t.length ≤ i
    · exact Or.inr (behind i past inside)
    · left
      rw [testBit_starts positive]
      exact decide_eq_true (Nat.not_le.mp past)
  | cons c p ih =>
    intro i agree inside
    rw [List.length_cons] at inside
    rw [agrees, Nat.testBit_and, Bool.and_eq_true, Nat.testBit_or, Bool.or_eq_true,
      Nat.testBit_shiftRight, Nat.add_comm w, ← Nat.mul_succ]
    by_cases past : t.length ≤ i
    · refine ⟨Or.inr (behind i past (by omega)), ih (i + 1) ?_ (by omega)⟩
      rw [List.drop_eq_nil_of_le (by omega), compat_comm]
      rfl
    · have within : i < t.length := Nat.not_le.mp past
      rw [List.drop_eq_getElem_cons within, compat, Bool.and_eq_true, beq_iff_eq] at agree
      refine ⟨Or.inl ?_, ih (i + 1) agree.2 (by omega)⟩
      refine testBit_same small positive ?_ w (Nat.le_refl w)
      rw [List.getElem?_eq_getElem within, agree.1]

theorem testBit_fits {p t : List α} {r i : Nat} (agree : compat p (t.drop i) = true)
    (inside : i ≤ t.length) : (fits w code r p t).testBit (w * i) = true := by
  rw [fits, packLines_eq, chunks_flatten]
  refine testBit_agrees small positive _ i (compat_take agree r) ?_
  have := List.length_take_le r p
  omega

theorem clear_of_apart {r : Nat} {own : Bool} {p a m b : List α}
    (checked : apart w code r own p a m b = true) : clear own p a m b = true := by
  simp only [apart, Bool.and_eq_true, decide_eq_true_eq] at checked
  obtain ⟨right, left⟩ := checked
  have window : a.length + m.length ≤ (a ++ (m ++ b)).length := by
    simp only [List.length_append]
    omega
  have before : ∀ d, d + a.length < p.length - 1 →
      compat (p.tail.drop d) (a ++ (m ++ b)) = false := by
    intro d inside
    rw [Bool.eq_false_iff]
    intro agree
    rw [List.drop_tail, compat_comm] at agree
    have marked := testBit_fits small positive (r := r) agree (by omega)
    have bit := congrArg (Nat.testBit · (w * d)) left
    have low : w * d < w * (p.length - a.length - 1) :=
      Nat.mul_lt_mul_of_pos_left (by omega) positive
    simp only [Nat.testBit_mod_two_pow, decide_eq_true low, Bool.true_and, Nat.zero_testBit,
      Nat.testBit_shiftRight] at bit
    rw [Nat.add_comm, ← Nat.mul_succ] at bit
    rw [bit] at marked
    cases marked
  have inside : ∀ s < a.length + m.length, compat p ((a ++ (m ++ b)).drop s) = true →
      own = true ∧ s = 0 := by
    intro s inside agree
    have marked := testBit_fits small positive (r := r) agree (by omega)
    have bit := congrArg (Nat.testBit · (w * s)) right
    have low : w * s < w * (a.length + m.length) := Nat.mul_lt_mul_of_pos_left inside positive
    simp only [Nat.testBit_mod_two_pow, decide_eq_true low, Bool.true_and] at bit
    rw [marked] at bit
    cases own with
    | false => simp at bit
    | true =>
      have zero : w * s = 0 := by simpa [Nat.testBit_one_eq_true_iff_self_eq_zero] using bit.symm
      exact ⟨rfl, (Nat.mul_eq_zero.mp zero).resolve_left (by omega)⟩
  rw [clear, Bool.and_eq_true]
  refine ⟨clearLeft_of before, ?_⟩
  cases own with
  | false =>
    refine clearRight_of fun s within => Bool.eq_false_iff.mpr fun agree => ?_
    cases (inside s within agree).1
  | true =>
    refine clearRight_of fun s within => Bool.eq_false_iff.mpr fun agree => ?_
    rw [List.drop_tail] at agree
    cases (inside (s + 1) (by omega) agree).2

end Agreement
/-- Seven bits for a character; those below 127 have their code to themselves. -/
def charCode (c : Char) : Nat := min c.toNat 127

def charExact (c : Char) : Bool := decide (c.toNat < 127)

theorem charCode_small (c : Char) : charCode c < 2 ^ 7 :=
  Nat.lt_of_le_of_lt (Nat.min_le_right _ _) (by decide)

theorem charCode_told (c d : Char) (exact : charExact d = true) (same : charCode c = charCode d) :
    c = d := by
  have low := of_decide_eq_true exact
  rw [charCode, charCode, Nat.min_eq_left (Nat.le_of_lt low)] at same
  have whole : c.toNat = d.toNat := by omega
  exact Char.ext (UInt32.toNat.inj whole)

def found (text p : List (List Char)) (d r : Nat) (ps : List Nat) : Bool :=
  located 7 charCode charExact text p d r ps

def foundLines (text p : List (List Char)) (d r : Nat) (k : Nat) : Bool :=
  confined 7 charCode text p d r [k]

def charsApart (r : Nat) (own : Bool) (p a m b : List Char) : Bool :=
  apart 7 charCode r own p a m b

section Characters
variable {text p : List (List Char)} {d r : Nat} {ps : List Nat}

theorem places_of_found (checked : found text p d r ps = true) :
    p.flatten ≠ [] ∧ Places p.flatten text.flatten ps :=
  places_of_located charCode_small (by decide) charCode_told checked

theorem count_of_found (checked : found text p d r ps = true) :
    count p.flatten text.flatten = ps.length :=
  count_of_places (places_of_found checked).1 (places_of_found checked).2

theorem count_of_foundLines {k : Nat} (checked : foundLines text p d r k = true)
    (before behind : List (List Char)) (shape : text = before ++ p ++ behind) :
    count p.flatten text.flatten = 1 := by
  obtain ⟨nonempty, places⟩ :=
    places_of_confined charCode_small (by decide) checked before behind shape
  exact count_of_places nonempty places

theorem clear_of_charsApart {own : Bool} {p a m b : List Char}
    (checked : charsApart r own p a m b = true) : clear own p a m b = true :=
  clear_of_apart charCode_small (by decide) checked

end Characters

section Quick

/-- The length by the plain recursor, which the kernel evaluates in little memory. -/
def lengthQuick (t : List α) : Nat := List.rec 0 (fun _ _ n => Nat.succ n) t

def packQuick (w : Nat) (code : α → Nat) (t : List α) : Nat :=
  List.rec 0 (fun c _ above => Nat.lor (Nat.shiftLeft above w) (code c)) t

def sizeQuick (lines : List (List α)) : Nat :=
  List.rec 0 (fun l _ n => Nat.add (lengthQuick l) n) lines

def linesQuick (w : Nat) (code : α → Nat) (lines : List (List α)) : Nat :=
  List.rec 0 (fun l _ above =>
    Nat.lor (Nat.shiftLeft above (w * lengthQuick l)) (packQuick w code l)) lines

theorem length_quick (t : List α) : lengthQuick t = t.length := by
  induction t with
  | nil => rfl
  | cons c t ih => exact congrArg Nat.succ ih

theorem pack_quick (w : Nat) (code : α → Nat) (t : List α) : packQuick w code t = pack w code t := by
  induction t with
  | nil => rfl
  | cons c t ih => exact congrArg (fun above => above <<< w ||| code c) ih

theorem size_quick (lines : List (List α)) : size lines = sizeQuick lines := by
  induction lines with
  | nil => rfl
  | cons l lines ih =>
    have step : sizeQuick (l :: lines) = lengthQuick l + sizeQuick lines := rfl
    rw [step, length_quick, ← ih, size, size, List.map_cons, List.sum_cons]

theorem lines_quick (w : Nat) (code : α → Nat) (lines : List (List α)) :
    packLines w code lines = linesQuick w code lines := by
  rw [packLines_eq]
  induction lines with
  | nil => rfl
  | cons l lines ih =>
    have step : linesQuick w code (l :: lines) =
        linesQuick w code lines <<< (w * lengthQuick l) ||| packQuick w code l := rfl
    rw [step, ← ih, length_quick, pack_quick, List.flatten_cons, pack_append]

/-- The check of a pattern against a window, the parts of the text packed apart. -/
def apartQuick (w : Nat) (code : α → Nat) (r : Nat) (own : Bool) (p a m b : List α) : Bool :=
  decide (agrees w code (linesQuick w code [a, m, b]) (starts w (sizeQuick [a, m, b]))
      (starts w (r + 1) <<< (w * sizeQuick [a, m, b])) (p.take r) %
        2 ^ (w * (lengthQuick a + lengthQuick m)) = bif own then 1 else 0) &&
    decide (agrees w code (packQuick w code p) (starts w (lengthQuick p))
      (starts w (r + 1) <<< (w * lengthQuick p)) ((a ++ (m ++ b)).take r) >>> w %
        2 ^ (w * (lengthQuick p - lengthQuick a - 1)) = 0)

theorem charsApart_quick (r : Nat) (own : Bool) (p a m b : List Char) :
    charsApart r own p a m b = apartQuick 7 charCode r own p a m b := by
  have whole : [a, m, b].flatten = a ++ (m ++ b) := by simp
  simp only [charsApart, apart, fits, apartQuick, ← lines_quick, ← size_quick, packLines_eq,
    chunks_flatten, size_flatten, length_quick, pack_quick, whole]
end Quick
end PackedText
