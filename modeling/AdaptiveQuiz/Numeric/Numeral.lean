import AdaptiveQuiz.Numeric.Binary64
import AdaptiveQuiz.Text.Blank
import AdaptiveQuiz.Text.Digit

/-!
# Reading numerals

Numerals given as text are read more freely than those of a document. An integer is cleaned until
it looks as JSON writes it: spaces around it, a plus, zeros in front, a fraction of zeros and single
low lines are taken away. In a real numeral low lines may stand almost anywhere, and the names of
the values that are no numbers are known.

## Main definitions

* `Numeral.strict`: an integer as JSON writes it
* `Numeral.integer`: an integer as a text may give it
* `Numeral.real?`: a real number, an infinity or no number
-/

namespace AdaptiveQuiz.Numeral

open Text

/-! ## Low lines -/

/-- Whether two low lines follow each other. -/
def hasDoubleLowLine : List Char → Bool
  | '_' :: '_' :: _ => true
  | _ :: rest => hasDoubleLowLine rest
  | [] => false

/-- The text without its low lines. None may stand at an end or beside another one. -/
def dropLowLines? (cs : List Char) : Option (List Char) :=
  if cs.head? = some '_' ∨ cs.getLast? = some '_' ∨ hasDoubleLowLine cs then none
  else some (cs.filter (· != '_'))

/-! ## Integers -/

/-- Why a text is not read as an integer. -/
inductive IntegerFault where
  /-- It is no integer numeral. -/
  | malformed
  /-- It has more digits than are read. -/
  | tooLong
deriving DecidableEq, Repr

/-- How many digits are read at most. -/
def maxDigits : Nat := 4300

/-- The natural number that digits stand for, without other zeros in front, as JSON writes it. That
there are too many is noticed before what follows them. -/
def strictNatural (cs : List Char) : Except IntegerFault Nat :=
  match leadingDigits cs with
  | ([], _) => .error .malformed
  | (0 :: _ :: _, _) => .error .malformed
  | (digits, rest) =>
    if maxDigits < digits.length then .error .tooLong
    else if rest.isEmpty then .ok (ofDigits digits)
    else .error .malformed

/-- An integer as JSON writes it. -/
def strict : List Char → Except IntegerFault Int
  | '-' :: cs => (strictNatural cs).map fun n => -(n : Int)
  | cs => (strictNatural cs).map Int.ofNat

/-- Whether a text may go on with this character behind zeros that are taken away. -/
def startsNumber (c : Char) : Bool := c == '-' || ('1' ≤ c && c ≤ '9')

/-- Takes away zeros and low lines behind a zero. The last character taken is kept where a point or
nothing follows. -/
def dropZerosBehind (last : Char) : List Char → Option (List Char)
  | [] => some [last]
  | c :: rest =>
    if c = '0' ∨ c = '_' then dropZerosBehind c rest
    else if c = '.' then some (last :: c :: rest)
    else if startsNumber c then some (c :: rest)
    else none

/-- Takes away zeros in front, with low lines among them. A minus counts as the start of the number
that follows them. -/
def dropZeros? : List Char → Option (List Char)
  | [] => none
  | c :: rest =>
    if c = '0' then dropZerosBehind c rest
    else if startsNumber c then some (c :: rest)
    else none

/-- Takes away a fraction of zeros. -/
def dropZeroFraction (cs : List Char) : List Char :=
  match cs.dropWhile (· != '.') with
  | '.' :: '0' :: rest => if rest.all (· == '0') then cs.takeWhile (· != '.') else cs
  | _ => cs

/-- An unsigned numeral without the zeros and the low lines that JSON does not allow. -/
def clean? (cs : List Char) : Option (List Char) :=
  (dropZeros? cs).map fun cs =>
    let whole := dropZeroFraction cs
    (dropLowLines? whole).getD whole

/-- The integer that a numeral without spaces around it stands for. -/
def integerOf (cs : List Char) : Except IntegerFault Int :=
  let cleaned := match cs with
    | '+' :: '-' :: _ => none
    | '+' :: rest => clean? rest
    | '-' :: rest => (clean? rest).map ('-' :: ·)
    | rest => clean? rest
  match cleaned with
  | some cs => strict cs
  | none => .error .malformed

/-- The integer that a text stands for. -/
def integer (cs : List Char) : Except IntegerFault Int := integerOf (trim isSpace cs)

/-! ## Real numbers -/

/-- The exponent at the end of a real numeral; nothing stands for the exponent zero. -/
def exponent? : List Char → Option Int
  | [] => some 0
  | mark :: rest =>
    if mark = 'e' ∨ mark = 'E' then
      let (negative, rest) := splitSign rest
      match leadingDigits rest with
      | ([], _) => none
      | (digits, []) => some (withSign negative (ofDigits digits))
      | _ => none
    else none

/-- A numeral without sign: digits with a point among or around them, and an exponent. -/
def magnitude? (negative : Bool) (cs : List Char) : Option Binary64 :=
  let (whole, rest) := leadingDigits cs
  let (fraction, rest) := match rest with
    | '.' :: rest => leadingDigits rest
    | rest => ([], rest)
  if whole.isEmpty && fraction.isEmpty then none
  else (exponent? rest).map fun exponent =>
    Binary64.ofDecimal negative (ofDigits (whole ++ fraction)) (exponent - fraction.length)

/-- A real numeral, or the name of an infinity or of no number in any case. -/
def plainReal? (cs : List Char) : Option Binary64 :=
  let (negative, cs) := splitSign cs
  let name := cs.map Char.toLower
  if name = ['i', 'n', 'f'] ∨ name = ['i', 'n', 'f', 'i', 'n', 'i', 't', 'y'] then
    some (.infinity negative)
  else if name = ['n', 'a', 'n'] then some .nan
  else magnitude? negative cs

/-- The real number that a text stands for. It has either spaces around it or low lines in it. -/
def real? (cs : List Char) : Option Binary64 :=
  match plainReal? (trim isSpace cs) with
  | some x => some x
  | none => (dropLowLines? cs).bind plainReal?

end AdaptiveQuiz.Numeral
