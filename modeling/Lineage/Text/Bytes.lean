import Lineage.Text.Blank

/-!
# The bytes of a text

A text is stored as the UTF-8 encoding of its characters.  A position in these bytes may stand
between two characters or inside one.  A part of the text is cut out between two positions
(`slice?`), and there is none if one of them is not between two characters of the text.
-/

namespace Lineage.Text

/-- The bytes of a text. -/
def bytes (text : List Char) : List UInt8 :=
  text.flatMap String.utf8EncodeChar

/-- Cuts a text at a position in its bytes, which has to stand between two characters, or at an end
of the text. -/
def splitAtByte? : Nat → List Char → Option (List Char × List Char)
  | 0, text => some ([], text)
  | _ + 1, [] => none
  | position + 1, c :: rest =>
    if c.utf8Size ≤ position + 1 then
      (splitAtByte? (position + 1 - c.utf8Size) rest).map fun (before, behind) =>
        (c :: before, behind)
    else none

/-- The part of a text between two positions in its bytes.  There is none if the first position is
behind the second, or if the text cannot be cut at one of them. -/
def slice? (text : List Char) (start stop : Nat) : Option (List Char) :=
  if start ≤ stop then
    (splitAtByte? start text).bind fun (_, behind) =>
      (splitAtByte? (stop - start) behind).map Prod.fst
  else none

/-- The difference of two numbers, if it is not below zero. -/
def minus? (m n : Nat) : Option Nat :=
  if n ≤ m then some (m - n) else none

@[simp]
theorem bytes_nil : bytes [] = [] :=
  rfl

theorem bytes_cons (c : Char) (rest : List Char) :
    bytes (c :: rest) = String.utf8EncodeChar c ++ bytes rest :=
  List.flatMap_cons

@[simp]
theorem bytes_append (first second : List Char) :
    bytes (first ++ second) = bytes first ++ bytes second :=
  List.flatMap_append

@[simp]
theorem length_bytes (text : List Char) : (bytes text).length = byteLength text := by
  induction text with
  | nil => rfl
  | cons c rest ih =>
      rw [bytes_cons, List.length_append, ih, String.length_utf8EncodeChar, byteLength]

theorem byteLength_pos {text : List Char} (filled : text ≠ []) : 0 < byteLength text := by
  cases text with
  | nil => exact absurd rfl filled
  | cons c rest =>
      have positive := c.utf8Size_pos
      rw [byteLength]
      omega

/-! ## Slices -/

theorem splitAtByte?_append (before behind : List Char) :
    splitAtByte? (byteLength before) (before ++ behind) = some (before, behind) := by
  induction before with
  | nil => rw [byteLength, List.nil_append, splitAtByte?]
  | cons c before ih =>
      obtain ⟨size, isSize⟩ := Nat.exists_eq_add_of_lt c.utf8Size_pos
      have position : byteLength (c :: before) = (size + byteLength before) + 1 := by
        rw [byteLength]
        omega
      rw [position, List.cons_append, splitAtByte?, if_pos (by omega),
        show size + byteLength before + 1 - c.utf8Size = byteLength before by omega, ih]
      rfl

theorem splitAtByte?_eq_some_iff {position : Nat} {text before behind : List Char} :
    splitAtByte? position text = some (before, behind) ↔
      text = before ++ behind ∧ byteLength before = position := by
  constructor
  · intro cut
    fun_induction splitAtByte? position text generalizing before with
    | case1 => cases cut; exact ⟨rfl, rfl⟩
    | case2 => cases cut
    | case3 position c rest fits ih =>
        obtain ⟨⟨before', behind'⟩, found, same⟩ := Option.map_eq_some_iff.mp cut
        cases same
        obtain ⟨rfl, length⟩ := ih found
        refine ⟨rfl, ?_⟩
        rw [byteLength]
        omega
    | case4 => cases cut
  · rintro ⟨rfl, rfl⟩
    exact splitAtByte?_append before behind

theorem slice?_eq_some_iff {text part : List Char} {start stop : Nat} :
    slice? text start stop = some part ↔ ∃ before behind, text = before ++ (part ++ behind) ∧
      byteLength before = start ∧ start + byteLength part = stop := by
  rw [slice?]
  constructor
  · intro cut
    split at cut
    · obtain ⟨⟨before, rest⟩, first, cut⟩ := Option.bind_eq_some_iff.mp cut
      obtain ⟨⟨part', behind⟩, second, rfl⟩ := Option.map_eq_some_iff.mp cut
      obtain ⟨rfl, length⟩ := splitAtByte?_eq_some_iff.mp first
      obtain ⟨rfl, distance⟩ := splitAtByte?_eq_some_iff.mp second
      refine ⟨before, behind, rfl, length, ?_⟩
      dsimp only
      omega
    · cases cut
  · rintro ⟨before, behind, rfl, rfl, rfl⟩
    rw [if_pos (Nat.le_add_right _ _), splitAtByte?_append, Option.bind_some]
    dsimp only
    rw [Nat.add_sub_cancel_left, splitAtByte?_append]
    rfl

/-- The part of a text between what is before it and what is behind it. -/
theorem slice?_append (before part behind : List Char) :
    slice? (before ++ (part ++ behind)) (byteLength before)
      (byteLength before + byteLength part) = some part :=
  slice?_eq_some_iff.mpr ⟨before, behind, rfl, rfl, rfl⟩

/-- The rest of a text behind a part of it. -/
theorem slice?_rest (before rest : List Char) :
    slice? (before ++ rest) (byteLength before) (byteLength (before ++ rest)) = some rest := by
  have whole := slice?_append before rest []
  rwa [List.append_nil, ← byteLength_append] at whole

theorem minus?_of_le {m n : Nat} (le : n ≤ m) : minus? m n = some (m - n) :=
  if_pos le

/-! ## The bytes of a character -/

/-- A character of the ASCII range is one byte. -/
theorem utf8EncodeChar_of_lt {c : Char} (ascii : c.toNat < 128) :
    String.utf8EncodeChar c = [c.toUInt8] := by
  have small : c.val.toNat ≤ 127 := Nat.le_of_lt_succ ascii
  simp only [String.utf8EncodeChar, small, if_true]
  rfl

theorem utf8Size_of_lt {c : Char} (ascii : c.toNat < 128) : c.utf8Size = 1 := by
  rw [← String.length_utf8EncodeChar, utf8EncodeChar_of_lt ascii, List.length_singleton]

/-- No byte of a character beyond the ASCII range is one of that range. -/
theorem le_of_mem_utf8EncodeChar {c : Char} {byte : UInt8} (large : 128 ≤ c.toNat)
    (member : byte ∈ String.utf8EncodeChar c) : 128 ≤ byte.toNat := by
  have beyond : ¬ c.val.toNat ≤ 127 := Nat.not_le_of_lt large
  simp only [String.utf8EncodeChar, beyond, if_false] at member
  have high : ∃ n offset, byte = UInt8.ofNat (n + offset) ∧ 128 ≤ offset ∧ n + offset < 256 := by
    split at member
    · simp only [List.mem_cons, List.not_mem_nil, or_false] at member
      rcases member with rfl | rfl
      · exact ⟨_, 192, rfl, by omega, by omega⟩
      · exact ⟨_, 128, rfl, by omega, by omega⟩
    · split at member
      · simp only [List.mem_cons, List.not_mem_nil, or_false] at member
        rcases member with rfl | rfl | rfl
        · exact ⟨_, 224, rfl, by omega, by omega⟩
        · exact ⟨_, 128, rfl, by omega, by omega⟩
        · exact ⟨_, 128, rfl, by omega, by omega⟩
      · simp only [List.mem_cons, List.not_mem_nil, or_false] at member
        rcases member with rfl | rfl | rfl | rfl
        · exact ⟨_, 240, rfl, by omega, by omega⟩
        · exact ⟨_, 128, rfl, by omega, by omega⟩
        · exact ⟨_, 128, rfl, by omega, by omega⟩
        · exact ⟨_, 128, rfl, by omega, by omega⟩
  obtain ⟨n, offset, rfl, isHigh, fits⟩ := high
  rw [UInt8.toNat_ofNat', Nat.mod_eq_of_lt fits]
  omega

theorem toNat_toUInt8 {c : Char} (ascii : c.toNat < 128) : c.toUInt8.toNat = c.toNat :=
  Nat.mod_eq_of_lt (Nat.lt_trans ascii (by decide))

/-- A byte of a character is that of an ASCII character only if the two characters are the same. -/
theorem eq_toUInt8_iff {c d : Char} {byte : UInt8} (ascii : d.toNat < 128)
    (member : byte ∈ String.utf8EncodeChar c) : byte = d.toUInt8 ↔ c = d := by
  by_cases small : c.toNat < 128
  · rw [utf8EncodeChar_of_lt small, List.mem_singleton] at member
    rw [member, ← UInt8.toNat_inj, toNat_toUInt8 small, toNat_toUInt8 ascii, Char.toNat_inj]
  · have high := le_of_mem_utf8EncodeChar (Nat.le_of_not_lt small) member
    refine iff_of_false ?_ ?_
    · rintro rfl
      rw [toNat_toUInt8 ascii] at high
      omega
    · rintro rfl
      exact small ascii

/-- The bytes of a character, at the positions from its beginning on. -/
theorem exists_getElem?_bytes (before : List Char) {c : Char} (rest : List Char) {offset : Nat}
    (inside : offset < c.utf8Size) : ∃ byte ∈ String.utf8EncodeChar c,
      (bytes (before ++ c :: rest))[byteLength before + offset]? = some byte := by
  have fits : offset < (String.utf8EncodeChar c).length := by
    rwa [String.length_utf8EncodeChar]
  refine ⟨(String.utf8EncodeChar c)[offset], List.getElem_mem fits, ?_⟩
  rw [bytes_append, ← length_bytes, List.getElem?_append_right (Nat.le_add_right _ _),
    Nat.add_sub_cancel_left, bytes_cons, List.getElem?_append_left fits,
    List.getElem?_eq_getElem fits]

end Lineage.Text
