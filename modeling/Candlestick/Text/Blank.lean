set_option autoImplicit false

/-! # Blank characters

White space in the sense of Unicode's bidirectional classes and space separators: the ASCII
controls tab to carriage return and the four information separators are blank, and so are the
next-line control, the no-break space and the wide spaces. The zero-width space is not. -/

namespace Candlestick.Text

/-- The blank characters outside ASCII. -/
def wideBlanks : List Nat := [
  0x85, 0xA0, 0x1680, 0x2000, 0x2001, 0x2002, 0x2003, 0x2004, 0x2005, 0x2006, 0x2007, 0x2008,
  0x2009, 0x200A, 0x2028, 0x2029, 0x202F, 0x205F, 0x3000]

/-- Tab, line feed, vertical tab, form feed, carriage return and space. -/
def isAsciiSpace (c : Char) : Bool := c.toNat = 0x20 || (9 ≤ c.toNat && c.toNat ≤ 13)

/-- Whether a character is blank. -/
def isBlank (c : Char) : Bool :=
  isAsciiSpace c || (0x1C ≤ c.toNat && c.toNat ≤ 0x1F) || (0x85 ≤ c.toNat && wideBlanks.contains c.toNat)

theorem isBlank_of_isWhitespace {c : Char} (h : c.isWhitespace = true) : isBlank c = true := by
  simp only [Char.isWhitespace, Bool.or_eq_true, decide_eq_true_eq] at h
  rcases h with ((h | h) | h) | h <;> subst h <;> decide

/-- Drop the characters of a class from both ends. -/
def trimBy (blank : Char → Bool) (cs : List Char) : List Char :=
  ((cs.dropWhile blank).reverse.dropWhile blank).reverse

/-- A text without the blanks at its two ends. -/
def strip (s : String) : String := String.ofList (trimBy isBlank s.toList)

end Candlestick.Text
