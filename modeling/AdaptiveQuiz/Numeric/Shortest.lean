import AdaptiveQuiz.Numeric.Binary64

/-!
# The shortest decimal text of a double

The text of a double has the fewest significant digits that read back as the same double. For a
given number of digits only two candidates matter, the neighbours of the value on that decimal
grid; of two that both read back, the nearer one is taken.

## Main definitions

* `Binary64.shortest`: the digits and the place of the decimal point
* `Binary64.NumeralStyle`: when an exponent is written, and how
* `Binary64.toText`: the text in a given style
-/

namespace AdaptiveQuiz.Binary64

/-- Decimal digits and the power of ten that the number they form is multiplied by. -/
structure Decimal where
  digits : Nat
  exponent : Int
deriving DecidableEq, Repr

/-- A positive count of units times `5 ^ 1074` is the value times `10 ^ 1074`: an exact decimal
numeral for it. -/
def exactDecimal (units : Nat) : Nat := units * Nat.pow 5 1074

/-- The neighbour of the value on the grid of `count` significant digits that reads back, the
nearer one if both do, the even one if both are equally near. -/
def onGrid? (units exact width count : Nat) : Option Decimal :=
  let step := Nat.pow 10 (width - count)
  let below := exact / step
  let exponent : Int := (width : Int) - count - 1074
  let readsBack (digits : Nat) : Bool := ofDecimal false digits exponent == .finite false units
  let rest := exact % step
  match readsBack below, readsBack (below + 1) with
  | true, false => some ⟨below, exponent⟩
  | false, true => some ⟨below + 1, exponent⟩
  | true, true =>
    if 2 * rest < step then some ⟨below, exponent⟩
    else if step < 2 * rest then some ⟨below + 1, exponent⟩
    else if below % 2 = 0 then some ⟨below, exponent⟩ else some ⟨below + 1, exponent⟩
  | false, false => none

/-- The shortest decimal for a positive count of units. Seventeen digits always read back. -/
def shortest (units : Nat) : Decimal :=
  let exact := exactDecimal units
  let width := (Nat.toDigits 10 exact).length
  let grids := (List.range 17).filterMap fun i =>
    if i + 1 ≤ width then onGrid? units exact width (i + 1) else none
  grids.headD ⟨exact, -1074⟩

/-- How a double is laid out. -/
structure NumeralStyle where
  /-- The least decimal exponent that is written without one. -/
  leastPositional : Int
  /-- The first decimal exponent that is written out again. -/
  leastScientific : Int
  /-- The least number of digits of a written exponent. -/
  exponentWidth : Nat
deriving DecidableEq, Repr

/-- The digits of a numeral without the zeros at its end. -/
def significantDigits (n : Nat) : List Char :=
  ((Nat.toDigits 10 n).reverse.dropWhile (· == '0')).reverse

/-- Zeros put in front until the text has the given width. -/
def padLeft (width : Nat) (digits : List Char) : List Char :=
  List.replicate (width - digits.length) '0' ++ digits

/-- Digits with a decimal point after the first `point` of them, at least one digit standing on
either side. -/
def positional (digits : List Char) (point : Int) : List Char :=
  if point ≤ 0 then ['0', '.'] ++ List.replicate (-point).toNat '0' ++ digits
  else if (digits.length : Int) ≤ point then
    digits ++ List.replicate (point.toNat - digits.length) '0' ++ ['.', '0']
  else digits.take point.toNat ++ ['.'] ++ digits.drop point.toNat

/-- One digit, the others behind a point, and the exponent with its sign. -/
def scientific (style : NumeralStyle) (digits : List Char) (exponent : Int) : List Char :=
  let fraction := digits.drop 1
  digits.take 1 ++ (if fraction.isEmpty then [] else '.' :: fraction) ++ ['e']
    ++ [if exponent < 0 then '-' else '+']
    ++ padLeft style.exponentWidth (Nat.toDigits 10 exponent.natAbs)

/-- The text of a positive count of units. -/
def magnitudeText (style : NumeralStyle) (units : Nat) : List Char :=
  let decimal := shortest units
  let exponent : Int := decimal.exponent + (Nat.toDigits 10 decimal.digits).length - 1
  let digits := significantDigits decimal.digits
  if style.leastPositional ≤ exponent ∧ exponent < style.leastScientific then
    positional digits (exponent + 1)
  else scientific style digits exponent

/-- The text of a double in a given style. -/
def toText (style : NumeralStyle) : Binary64 → String
  | .nan => "nan"
  | .infinity negative => if negative then "-inf" else "inf"
  | .finite negative units =>
    let digits := if units = 0 then ['0', '.', '0'] else magnitudeText style units
    String.ofList (if negative then '-' :: digits else digits)

end AdaptiveQuiz.Binary64
