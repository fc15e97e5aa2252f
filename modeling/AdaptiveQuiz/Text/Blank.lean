/-!
# White space

Two notions of white space are in use. A *space* has the Unicode property White_Space. A *blank*
is a space or one of the four information separators U+001C to U+001F. Numerals and versions are
trimmed of spaces, the spellings of a type's name of blanks.

## Main definitions

* `Text.isSpace`, `Text.isBlank`
* `Text.trim`: a text without the leading and trailing characters of a class
-/

namespace AdaptiveQuiz.Text

/-- The characters with the Unicode property White_Space. -/
def isSpace (c : Char) : Bool :=
  let n := c.toNat
  (9 ≤ n && n ≤ 13) || n == 0x20 || n == 0x85 || n == 0xa0 || n == 0x1680
    || (0x2000 ≤ n && n ≤ 0x200a) || n == 0x2028 || n == 0x2029 || n == 0x202f || n == 0x205f
    || n == 0x3000

/-- The spaces and the information separators. -/
def isBlank (c : Char) : Bool := isSpace c || (0x1c ≤ c.toNat && c.toNat ≤ 0x1f)

/-- The text between the first and the last character outside of the class. -/
def trim (inClass : Char → Bool) (cs : List Char) : List Char :=
  ((cs.dropWhile inClass).reverse.dropWhile inClass).reverse

end AdaptiveQuiz.Text
