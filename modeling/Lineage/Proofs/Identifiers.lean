import Lineage.Proofs.Excerpts

/-!
# Characters of identifiers

An identifier may have letters and numbers of any script.  None of them is a blank, a quote, a brace
or a sign, so that an identifier is read over wherever a text is trimmed or looked through for its
end.
-/

namespace Lineage.Template

open Lineage.Text

/-- The code points of the characters that count as blank. -/
def blankPoints : List Nat :=
  [9, 10, 11, 12, 13, 0x20, 0x85, 0xA0, 0x1680, 0x2000, 0x2001, 0x2002, 0x2003, 0x2004, 0x2005,
    0x2006, 0x2007, 0x2008, 0x2009, 0x200A, 0x2028, 0x2029, 0x202F, 0x205F, 0x3000]

theorem toNat_mem_blankPoints {c : Char} (blank : isBlank c = true) : c.toNat ∈ blankPoints := by
  simp only [isBlank, Bool.or_eq_true, Bool.and_eq_true, decide_eq_true_eq, beq_iff_eq] at blank
  simp only [blankPoints, List.mem_cons, List.not_mem_nil, or_false]
  omega

/-- What begins an identifier may go on with one. -/
theorem continuesWord_of_startsWord {c : Char} (starts : startsWord c = true) :
    continuesWord c = true := by
  simp only [startsWord, continuesWord, isLetter, isLetterOrNumber, Bool.or_eq_true] at starts ⊢
  rcases starts with letter | underscore
  · left
    split at letter
    · rename_i ascii
      rw [if_pos ascii, Char.isAlphanum, letter, Bool.true_or]
    · rename_i noAscii
      rw [if_neg noAscii, letter, Bool.true_or]
  · exact Or.inr underscore

/-- A word begins with a character that begins an identifier. -/
theorem startsWord_of_read {c : Char} {rest after : List Char} {name : String}
    (read : Lexeme.read c rest = .ok (.word name, after)) : startsWord c = true := by
  cases read_eq_ok_iff.mp read with
  | word starts => exact starts

/-- No blank belongs to an identifier. -/
theorem isBlank_of_continuesWord {c : Char} (continues : continuesWord c = true) :
    isBlank c = false := by
  rw [← Bool.not_eq_true]
  intro blank
  have none : ∀ point ∈ blankPoints, continuesWord (Char.ofNat point) = false := by
    decide +kernel
  have here := none c.toNat (toNat_mem_blankPoints blank)
  rw [Char.ofNat_toNat, continues] at here
  cases here

end Lineage.Template
