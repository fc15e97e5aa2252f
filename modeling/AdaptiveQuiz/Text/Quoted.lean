import AdaptiveQuiz.Text.Printable

/-!
# Quoted text

Messages quote a text between single quotes, or between double quotes if it contains single quotes
and no double ones. The backslash and the quote in use are escaped by a backslash; characters that
cannot be shown are written by their code point, in the shortest of three fixed widths.

## Main definitions

* `Text.quote`: the quoted form of a text
-/

namespace AdaptiveQuiz.Text

/-- A number in hexadecimal, filled up with zeros to a width. -/
def hexadecimal (width n : Nat) : List Char :=
  let digits := Nat.toDigits 16 n
  List.replicate (width - digits.length) '0' ++ digits

/-- A character inside of quotes. -/
def escape (mark c : Char) : List Char :=
  if c == mark || c == '\\' then ['\\', c]
  else if c == '\n' then ['\\', 'n']
  else if c == '\r' then ['\\', 'r']
  else if c == '\t' then ['\\', 't']
  else if isPrintable c then [c]
  else if c.toNat < 0x100 then '\\' :: 'x' :: hexadecimal 2 c.toNat
  else if c.toNat < 0x10000 then '\\' :: 'u' :: hexadecimal 4 c.toNat
  else '\\' :: 'U' :: hexadecimal 8 c.toNat

/-- The quotation mark for a text. -/
def quotationMark (cs : List Char) : Char :=
  if cs.contains '\'' && !cs.contains '"' then '"' else '\''

/-- The quoted form of a text. -/
def quote (s : String) : String :=
  let mark := quotationMark s.toList
  String.ofList (mark :: s.toList.flatMap (escape mark) ++ [mark])

end AdaptiveQuiz.Text
