import Mathlib.Data.List.Forall2
import Mathlib.Data.List.Infix
import Glm53Overlay.Library.ShellText

/-!
The GID of a fabric address and its index in the table of the local port. The table is text, one
line for each populated entry, and the selection counts the lines it prints.
-/
namespace RoceGid
open ShellText

abbrev Text := List Char

/-- `printf '%02x'` of an octet. -/
def hex2 (n : Nat) : Text := [Nat.digitChar (n / 16), Nat.digitChar (n % 16)]

def mappedPrefix : Text := "0000:0000:0000:0000:0000:ffff:".toList

/-- One pass of the octet loop; `none` is its `return 1`. -/
def octetHex (o : Text) : Option Text :=
  if o.length ≤ 3 then
    let n := arithmetic o
    if n ≤ 255 then some (hex2 n.toNat) else none
  else none

/-- `^[0-9]+\.[0-9]+\.[0-9]+\.[0-9]+$`, told by the groups between the dots. -/
def isDottedQuad (ip : Text) : Bool :=
  (ip.splitOn '.').length == 4 && (ip.splitOn '.').all isNumeral

def ipv4MappedGid (ip : Text) : Option Text :=
  if isDottedQuad ip then
    (((ip.splitOn '.').mapM octetHex).map List.flatten).bind fun hex =>
      if hex.length = 8 then
        some (mappedPrefix ++ hex.take 4 ++ ':' :: (hex.drop 4).take 4)
      else none
  else none

/-- The awk program: the first field of every line with this GID and a RoCE v2 type. -/
def matchingLines (want table : Text) : List Text :=
  (table.splitOn '\n').filterMap fun line =>
    let fields := line.splitOn '\t'
    if fields.getD 1 [] = want ∧ "RoCE v2".toList <:+: fields.getD 2 [] then
      some (fields.getD 0 [])
    else none

/-- `$(...)`: trailing newlines are dropped. -/
def captured (output : Text) : Text := (output.reverse.dropWhile (· = '\n')).reverse

/-- What is printed on success, and on `return 1`. -/
def gidIndexForIp (table ip : Text) : Except Text Text :=
  match ipv4MappedGid ip with
  | none => .error ("cannot parse fabric IP ".toList ++ ip)
  | some want =>
    let found := captured ((matchingLines want table).flatMap (· ++ ['\n']))
    if found = [] then
      .error ("no RoCE v2 GID matches ".toList ++ ip ++ " (".toList ++ want ++ ")".toList)
    else
      let count := (found ++ ['\n']).count '\n'
      if count ≠ 1 then
        .error ("ambiguous: ".toList ++ (toString count).toList ++ " RoCE v2 GIDs match ".toList ++
          ip ++ ": ".toList ++ found.map fun c => if c = '\n' then ' ' else c)
      else .ok found

structure OctetText (group : Text) (octet : Nat) : Prop where
  numeral : isNumeral group = true
  short : group.length ≤ 3
  denotes : value group = octet
  byte : octet ≤ 255

def Denotes (ip : Text) (octets : List Nat) : Prop :=
  ∃ groups : List Text, ['.'].intercalate groups = ip ∧ groups.length = 4 ∧
    List.Forall₂ OctetText groups octets

def mappedGid (octets : List Nat) : Text :=
  mappedPrefix ++ (octets.flatMap hex2).take 4 ++ ':' :: (octets.flatMap hex2).drop 4

theorem numeral_digits {group : Text} (numeral : isNumeral group = true) :
    group ≠ [] ∧ group.all Char.isDigit = true := by
  unfold isNumeral at numeral
  rw [Bool.and_eq_true] at numeral
  exact ⟨by simpa using numeral.1, numeral.2⟩

theorem octetHex_iff {group : Text} (numeral : isNumeral group = true) (hex : Text) :
    octetHex group = some hex ↔ ∃ octet, OctetText group octet ∧ hex2 octet = hex := by
  unfold octetHex
  constructor
  · intro printed
    split at printed
    · rename_i short
      have same := arithmetic_eq (numeral_digits numeral).2 (by omega)
      dsimp only at printed
      rw [same] at printed
      split at printed
      · rename_i byte
        exact ⟨value group, ⟨numeral, short, rfl, by omega⟩, by simpa using printed⟩
      · cases printed
    · cases printed
  · rintro ⟨octet, ⟨_, short, rfl, byte⟩, rfl⟩
    have same := arithmetic_eq (numeral_digits numeral).2 (by omega)
    have small : (value group : Int) ≤ 255 := by omega
    rw [if_pos short]
    dsimp only
    rw [same, if_pos small, Int.toNat_natCast]

theorem mapM_octets {groups : List Text} (numerals : groups.all isNumeral = true) :
    ∀ parts : List Text, groups.mapM octetHex = some parts ↔
      ∃ octets, List.Forall₂ OctetText groups octets ∧ octets.map hex2 = parts := by
  induction groups with
  | nil =>
    intro parts
    simp
  | cons group rest ih =>
    intro parts
    rw [List.all_cons, Bool.and_eq_true] at numerals
    rw [List.mapM_cons]
    constructor
    · intro printed
      cases first : octetHex group with
      | none =>
        rw [first] at printed
        cases printed
      | some hex =>
        cases others : rest.mapM octetHex with
        | none =>
          rw [first, others] at printed
          cases printed
        | some tail =>
          rw [first, others] at printed
          cases printed
          obtain ⟨octet, denotes, rfl⟩ := (octetHex_iff numerals.1 hex).mp first
          obtain ⟨octets, all, rfl⟩ := (ih numerals.2 tail).mp others
          exact ⟨octet :: octets, List.Forall₂.cons denotes all, rfl⟩
    · rintro ⟨octets, all, rfl⟩
      cases all with
      | cons first others =>
        have head := (octetHex_iff numerals.1 _).mpr ⟨_, first, rfl⟩
        have tail := (ih numerals.2 _).mpr ⟨_, others, rfl⟩
        rw [head, tail]
        rfl

theorem all_numerals {groups : List Text} {octets : List Nat}
    (all : List.Forall₂ OctetText groups octets) : groups.all isNumeral = true := by
  induction all with
  | nil => rfl
  | cons first _ ih => rw [List.all_cons, first.numeral, ih, Bool.and_self]

theorem all_bytes {groups : List Text} {octets : List Nat}
    (all : List.Forall₂ OctetText groups octets) : ∀ n ∈ octets, n ≤ 255 := by
  induction all with
  | nil => exact fun _ none => absurd none List.not_mem_nil
  | cons first _ ih => exact List.forall_mem_cons.mpr ⟨first.byte, ih⟩

theorem length_flatMap_hex2 (octets : List Nat) :
    (octets.flatMap hex2).length = 2 * octets.length := by
  induction octets with
  | nil => rfl
  | cons octet rest ih =>
    rw [List.flatMap_cons, List.length_append, ih, List.length_cons]
    simp only [hex2, List.length_cons, List.length_nil]
    omega

theorem ipv4MappedGid_iff (ip gid : Text) :
    ipv4MappedGid ip = some gid ↔ ∃ octets, Denotes ip octets ∧ mappedGid octets = gid := by
  have printed {groups : List Text} {octets : List Nat} (four : groups.length = 4)
      (all : List.Forall₂ OctetText groups octets) : (octets.flatMap hex2).length = 8 := by
    rw [length_flatMap_hex2, ← all.length_eq, four]
  unfold ipv4MappedGid isDottedQuad
  constructor
  · intro accepted
    split at accepted
    · rename_i quad
      rw [Bool.and_eq_true, beq_iff_eq] at quad
      obtain ⟨hex, mapped, shown⟩ := Option.bind_eq_some_iff.mp accepted
      obtain ⟨parts, octetwise, rfl⟩ := Option.map_eq_some_iff.mp mapped
      obtain ⟨octets, all, rfl⟩ := (mapM_octets quad.2 parts).mp octetwise
      have eight := printed quad.1 all
      refine ⟨octets, ⟨_, List.intercalate_splitOn '.', quad.1, all⟩, ?_⟩
      rw [← List.flatMap_def, if_pos eight, Option.some.injEq] at shown
      rw [← shown, mappedGid, List.take_of_length_le (l := (octets.flatMap hex2).drop 4)]
      rw [List.length_drop, eight]
    · cases accepted
  · rintro ⟨octets, ⟨groups, rfl, four, all⟩, rfl⟩
    have numerals := all_numerals all
    have undotted : ∀ group ∈ groups, '.' ∉ group := by
      intro group member dot
      have digits := (numeral_digits (List.all_eq_true.mp numerals group member)).2
      have digit := List.all_eq_true.mp digits '.' dot
      cases digit
    have groupsBack : (['.'].intercalate groups).splitOn '.' = groups :=
      List.splitOn_intercalate '.' undotted (List.ne_nil_of_length_pos (by omega))
    have eight := printed four all
    rw [groupsBack, (mapM_octets numerals _).mpr ⟨octets, all, rfl⟩]
    simp only [four, numerals, BEq.rfl, Bool.and_self, ↓reduceIte, Option.map_some,
      Option.bind_some, ← List.flatMap_def, eight]
    rw [mappedGid, List.take_of_length_le (l := (octets.flatMap hex2).drop 4)]
    rw [List.length_drop, eight]

theorem digitChar_injective : ∀ a < 16, ∀ b < 16, Nat.digitChar a = Nat.digitChar b → a = b := by
  decide

theorem hex2_injective {a b : Nat} (small : a ≤ 255) (small' : b ≤ 255)
    (same : hex2 a = hex2 b) : a = b := by
  unfold hex2 at same
  have high := digitChar_injective (a / 16) (by omega) (b / 16) (by omega)
    (List.cons.inj same).1
  have low := digitChar_injective (a % 16) (by omega) (b % 16) (by omega)
    (List.cons.inj (List.cons.inj same).2).1
  omega

theorem flatMap_hex2_injective {octets : List Nat} : ∀ {octets' : List Nat},
    (∀ n ∈ octets, n ≤ 255) → (∀ n ∈ octets', n ≤ 255) →
    octets.flatMap hex2 = octets'.flatMap hex2 → octets = octets' := by
  induction octets with
  | nil =>
    intro octets' _ _ same
    have length := congrArg List.length same
    rw [length_flatMap_hex2, length_flatMap_hex2] at length
    exact (List.length_eq_zero_iff.mp (by simpa using length.symm)).symm
  | cons n rest ih =>
    intro octets' bytes bytes' same
    cases octets' with
    | nil => cases same
    | cons m rest' =>
      rw [List.forall_mem_cons] at bytes bytes'
      rw [List.flatMap_cons, List.flatMap_cons] at same
      obtain ⟨first, others⟩ := List.append_inj same rfl
      rw [hex2_injective bytes.1 bytes'.1 first, ih bytes.2 bytes'.2 others]

theorem Denotes.bytes {ip : Text} {octets : List Nat} (denotes : Denotes ip octets) :
    octets.length = 4 ∧ ∀ n ∈ octets, n ≤ 255 := by
  obtain ⟨groups, _, four, all⟩ := denotes
  exact ⟨all.length_eq ▸ four, all_bytes all⟩

theorem mappedGid_injective {ip ip' : Text} {octets octets' : List Nat}
    (denotes : Denotes ip octets) (denotes' : Denotes ip' octets')
    (same : mappedGid octets = mappedGid octets') : octets = octets' := by
  obtain ⟨four, bytes⟩ := denotes.bytes
  obtain ⟨four', bytes'⟩ := denotes'.bytes
  have length := length_flatMap_hex2 octets
  have length' := length_flatMap_hex2 octets'
  apply flatMap_hex2_injective bytes bytes'
  unfold mappedGid at same
  rw [List.append_assoc, List.append_assoc] at same
  obtain ⟨first, second⟩ := List.append_inj (List.append_cancel_left same) (by
    rw [List.length_take, List.length_take, length, length', four, four'])
  rw [← List.take_append_drop 4 (octets.flatMap hex2),
    ← List.take_append_drop 4 (octets'.flatMap hex2), first, (List.cons.inj second).2]

structure Row where
  index : Text
  gid : Text
  type : Text

def Row.fields (r : Row) : List Text := [r.index, r.gid, r.type]

def Row.Plain (r : Row) : Prop := ∀ f ∈ r.fields, f ≠ [] ∧ '\t' ∉ f ∧ '\n' ∉ f

def Row.line (r : Row) : Text := ['\t'].intercalate r.fields

/-- The table as `gid_table` prints it and `$(...)` keeps it. -/
def tableText (rows : List Row) : Text := ['\n'].intercalate (rows.map Row.line)

def Row.Serves (want : Text) (r : Row) : Prop := r.gid = want ∧ "RoCE v2".toList <:+: r.type

instance (want : Text) (r : Row) : Decidable (r.Serves want) :=
  inferInstanceAs (Decidable (_ ∧ _))

theorem line_fields {r : Row} (plain : r.Plain) : r.line.splitOn '\t' = r.fields :=
  List.splitOn_intercalate '\t' (fun f member => (plain f member).2.1) (by simp [Row.fields])

theorem newline_line {r : Row} (plain : r.Plain) : '\n' ∉ r.line := by
  obtain ⟨index, gid, type⟩ := r
  have all := plain
  simp only [Row.Plain, Row.fields, List.mem_cons, List.not_mem_nil, or_false, forall_eq_or_imp,
    forall_eq] at all
  simp [Row.line, Row.fields, List.intercalate_cons_cons, all.1.2.2, all.2.1.2.2, all.2.2.2.2]

theorem matchingLines_table {rows : List Row} (plain : ∀ r ∈ rows, r.Plain) {want : Text}
    (some' : want ≠ []) :
    matchingLines want (tableText rows) = (rows.filter (Row.Serves want)).map Row.index := by
  unfold matchingLines tableText
  cases rows with
  | nil => simp [List.intercalate_nil, List.splitOn_nil, Ne.symm some']
  | cons r rest =>
    have lines : (['\n'].intercalate ((r :: rest).map Row.line)).splitOn '\n' =
        (r :: rest).map Row.line := by
      refine List.splitOn_intercalate '\n' ?_ (by simp)
      intro line member
      obtain ⟨row, inRows, rfl⟩ := List.mem_map.mp member
      exact newline_line (plain row inRows)
    rw [lines]
    generalize r :: rest = rows at plain
    clear lines
    induction rows with
    | nil => rfl
    | cons row rows ih =>
      rw [List.forall_mem_cons] at plain
      have fields := line_fields plain.1
      have later := ih plain.2
      rw [List.map_cons, List.filterMap_cons, later]
      simp only [fields]
      by_cases serves : row.Serves want
      · have test : row.fields.getD 1 [] = want ∧
            "RoCE v2".toList <:+: row.fields.getD 2 [] := serves
        rw [if_pos test, List.filter_cons_of_pos (by simpa using serves)]
        rfl
      · have test : ¬ (row.fields.getD 1 [] = want ∧
            "RoCE v2".toList <:+: row.fields.getD 2 []) := serves
        rw [if_neg test, List.filter_cons_of_neg (by simpa using serves)]

theorem captured_newline {text : Text} {c : Char} (last : text.getLast? = some c)
    (kept : c ≠ '\n') : captured (text ++ ['\n']) = text := by
  unfold captured
  rw [List.reverse_append, List.reverse_singleton, List.singleton_append,
    List.dropWhile_cons_of_pos (by simp)]
  rw [List.getLast?_eq_head?_reverse] at last
  cases back : text.reverse with
  | nil =>
    rw [back] at last
    cases last
  | cons d front =>
    rw [back] at last
    cases last
    rw [List.dropWhile_cons_of_neg (by simpa using kept), ← back, List.reverse_reverse]

def printed (lines : List Text) : Text := lines.flatMap (· ++ ['\n'])

theorem count_printed {lines : List Text} (plain : ∀ l ∈ lines, l ≠ [] ∧ '\n' ∉ l) :
    (printed lines).count '\n' = lines.length := by
  unfold printed
  induction lines with
  | nil => rfl
  | cons line rest ih =>
    rw [List.forall_mem_cons] at plain
    rw [List.flatMap_cons, List.count_append, List.count_append, ih plain.2,
      List.count_eq_zero_of_not_mem plain.1.2, List.length_cons]
    simp only [List.count_singleton_self]
    omega

theorem captured_printed {lines : List Text} (plain : ∀ l ∈ lines, l ≠ [] ∧ '\n' ∉ l)
    (some' : lines ≠ []) : captured (printed lines) ++ ['\n'] = printed lines := by
  obtain ⟨front, line, rfl⟩ : ∃ front line, lines = front ++ [line] :=
    ⟨lines.dropLast, lines.getLast some', (List.dropLast_append_getLast some').symm⟩
  obtain ⟨nonempty, single⟩ := plain line (by simp)
  obtain ⟨c, last⟩ : ∃ c, line.getLast? = some c :=
    Option.isSome_iff_exists.mp (by simpa using nonempty)
  have inLine : c ∈ line := List.mem_of_getLast? last
  have kept : c ≠ '\n' := fun newline => single (newline ▸ inLine)
  have whole : printed (front ++ [line]) = (printed front ++ line) ++ ['\n'] := by
    simp [printed]
  have ends : (printed front ++ line).getLast? = some c := by
    rw [List.getLast?_append, last]
    rfl
  rw [whole, captured_newline ends kept]

theorem gidIndexForIp_table {rows : List Row} (plain : ∀ r ∈ rows, r.Plain) (ip index : Text) :
    gidIndexForIp (tableText rows) ip = .ok index ↔ ∃ gid row,
      ipv4MappedGid ip = some gid ∧ rows.filter (Row.Serves gid) = [row] ∧ row.index = index := by
  unfold gidIndexForIp
  cases wanted : ipv4MappedGid ip with
  | none => simp
  | some want =>
    have some' : want ≠ [] := by
      obtain ⟨octets, _, rfl⟩ := (ipv4MappedGid_iff ip want).mp wanted
      exact List.ne_nil_of_length_pos (by simp [mappedGid])
    have output (lines : List Text) : lines.flatMap (· ++ ['\n']) = printed lines := rfl
    simp only [matchingLines_table plain some', Option.some.injEq, output]
    have indices : ∀ l ∈ (rows.filter (Row.Serves want)).map Row.index, l ≠ [] ∧ '\n' ∉ l := by
      intro l member
      obtain ⟨row, kept, rfl⟩ := List.mem_map.mp member
      have field := plain row (List.mem_of_mem_filter kept) row.index (by simp [Row.fields])
      exact ⟨field.1, field.2.2⟩
    cases serving : rows.filter (Row.Serves want) with
    | nil =>
      have nothing : captured (printed (List.map Row.index [])) = [] := rfl
      rw [if_pos nothing]
      constructor
      · intro found
        cases found
      · rintro ⟨_, row, rfl, one, _⟩
        rw [serving] at one
        cases one
    | cons first others =>
      rw [serving] at indices
      have whole := captured_printed indices (by simp)
      have count := count_printed indices
      rw [← whole] at count
      have long : captured (printed ((first :: others).map Row.index)) ≠ [] := by
        intro empty
        rw [empty, List.nil_append] at whole
        have size := congrArg List.length whole
        have positive := List.length_pos_iff.mpr (indices first.index (by simp)).1
        simp only [printed, List.map_cons, List.flatMap_cons, List.length_append,
          List.length_cons, List.length_nil] at size
        omega
      rw [if_neg long]
      rw [count, List.length_map, List.length_cons]
      cases others with
      | nil =>
        have single : printed ([first].map Row.index) = first.index ++ ['\n'] := by
          simp [printed]
        have shown : captured (printed ([first].map Row.index)) = first.index :=
          List.append_cancel_right (whole.trans single)
        rw [if_neg (by simp), shown]
        constructor
        · intro found
          cases found
          exact ⟨want, first, rfl, serving, rfl⟩
        · rintro ⟨_, row, rfl, one, rfl⟩
          rw [serving] at one
          cases one
          rfl
      | cons second rest =>
        rw [if_pos (by simp)]
        constructor
        · intro found
          cases found
        · rintro ⟨_, row, rfl, one, _⟩
          rw [serving] at one
          cases one

/-- The address text decides the GID and the GID the octets; an index is printed exactly when one
    entry serves the GID. -/
theorem gid_selection_exact :
    (∀ ip gid, ipv4MappedGid ip = some gid ↔ ∃ octets, Denotes ip octets ∧
      mappedGid octets = gid) ∧
    (∀ ip ip' octets octets', Denotes ip octets → Denotes ip' octets' →
      (ipv4MappedGid ip = ipv4MappedGid ip' ↔ octets = octets')) ∧
    ∀ rows, (∀ r ∈ rows, Row.Plain r) → ∀ ip index,
      (gidIndexForIp (tableText rows) ip = .ok index ↔ ∃ gid row, ipv4MappedGid ip = some gid ∧
        rows.filter (Row.Serves gid) = [row] ∧ row.index = index) := by
  refine ⟨ipv4MappedGid_iff, ?_, fun rows plain => gidIndexForIp_table plain⟩
  intro ip ip' octets octets' denotes denotes'
  rw [(ipv4MappedGid_iff ip _).mpr ⟨octets, denotes, rfl⟩,
    (ipv4MappedGid_iff ip' _).mpr ⟨octets', denotes', rfl⟩, Option.some.injEq]
  constructor
  · exact mappedGid_injective denotes denotes'
  · intro same
    rw [same]

example : ipv4MappedGid "192.168.177.010".toList =
    some "0000:0000:0000:0000:0000:ffff:c0a8:b10a".toList := by decide

end RoceGid
