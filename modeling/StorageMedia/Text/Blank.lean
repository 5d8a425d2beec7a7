/-! # Blank ends of identification strings

Device attributes come padded with spaces, line ends or NUL characters. A blank is a character of
the Unicode `White_Space` property or NUL; `trim` removes the blanks at both ends and keeps those
inside.
-/

namespace StorageMedia.Text

/-- Whether a character is Unicode white space. -/
def isWhiteSpace (c : Char) : Bool :=
  let n := c.toNat
  (0x9 ≤ n && n ≤ 0xd) || n == 0x20 || n == 0x85 || n == 0xa0 || n == 0x1680 ||
    (0x2000 ≤ n && n ≤ 0x200a) || n == 0x2028 || n == 0x2029 || n == 0x202f || n == 0x205f ||
    n == 0x3000

/-- Whether a character is padding: white space or NUL. -/
def isBlank (c : Char) : Bool := isWhiteSpace c || c.toNat == 0

/-- Characters without the blanks at both ends. -/
def trim (text : List Char) : List Char :=
  ((text.dropWhile isBlank).reverse.dropWhile isBlank).reverse

/-- White space as the standard library knows it is blank. -/
theorem isBlank_of_isWhitespace {c : Char} (space : c.isWhitespace = true) : isBlank c = true := by
  simp only [Char.isWhitespace, Bool.or_eq_true, decide_eq_true_eq] at space
  rcases space with ((rfl | rfl) | rfl) | rfl <;> decide

end StorageMedia.Text
