import Clearance.Text.Ranges

/-!
# Blanks

The characters that separate words: the ASCII blanks with the four information separators, and
the spaces and line separators of the other scripts.
-/

namespace Clearance.Text

/-- The code points of blanks. -/
def blankRanges : List (Nat × Nat) :=
  [ (0x9, 0xd), (0x1c, 0x20), (0x85, 0x85), (0xa0, 0xa0), (0x1680, 0x1680), (0x2000, 0x200a),
    (0x2028, 0x2029), (0x202f, 0x202f), (0x205f, 0x205f), (0x3000, 0x3000) ]

def isBlank (c : Char) : Bool :=
  inRanges blankRanges c.toNat

/-- The blanks of ASCII without the information separators. -/
def isAsciiBlank (c : Char) : Bool :=
  c == ' ' || (decide (9 <= c.toNat) && decide (c.toNat <= 13))

theorem isBlank_of_isWhitespace {c : Char} (h : c.isWhitespace = true) : isBlank c = true := by
  simp only [Char.isWhitespace, Bool.or_eq_true, decide_eq_true_eq] at h
  rcases h with ((h | h) | h) | h <;> subst h <;> decide

/-- Drops the blanks at both ends. -/
def strip (s : List Char) : List Char :=
  ((s.dropWhile isBlank).reverse.dropWhile isBlank).reverse

end Clearance.Text
