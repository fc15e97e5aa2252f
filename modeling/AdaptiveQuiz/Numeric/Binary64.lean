/-!
# Binary64 numbers

A double is kept as an exact integer: every finite double is a multiple of the smallest
positive one, `2 ^ -1074`, so a sign and a count of those units say everything about it. All
arithmetic on doubles is then arithmetic on natural numbers, followed by one rounding step.

## Main definitions

* `Binary64`: not a number, an infinity, or a signed count of units
* `Binary64.roundQuotient`: the integer nearest to a quotient, a tie going to the even one
* `Binary64.roundUnits`: the nearest count of units with at most 53 significant bits
* `Binary64.ofRatio`: the double nearest to a quotient
-/

namespace AdaptiveQuiz

/-- A double: its finite values are `± units * 2 ^ -1074`. Zero has two signs. -/
inductive Binary64 where
  | nan
  | infinity (negative : Bool)
  | finite (negative : Bool) (units : Nat)
deriving DecidableEq, Repr, Inhabited

namespace Binary64

/-- The number of units in one. -/
def unit : Nat := Nat.pow 2 1074

/-- The first count of units that is too large to be finite: `2 ^ 1024` in value. -/
def overflow : Nat := Nat.pow 2 2098

/-! ## Rounding -/

/-- The integer nearest to `num / den`; of two that are equally near, the even one. -/
def roundQuotient (num den : Nat) : Nat :=
  let floor := num / den
  let rest := num % den
  if 2 * rest < den then floor
  else if den < 2 * rest then floor + 1
  else if floor % 2 = 0 then floor else floor + 1

/-- How many of the low bits of `n` do not fit into 53 significant ones. -/
def excessBits (n : Nat) : Nat := n.log2 - 52

/-- The count of units nearest to `num / den` that has at most 53 significant bits. -/
def roundUnits (num den : Nat) : Nat :=
  let excess := excessBits (num / den)
  roundQuotient num (den * Nat.pow 2 excess) * Nat.pow 2 excess

/-- The double nearest to `num / den` units, with the given sign. -/
def ofRatio (negative : Bool) (num den : Nat) : Binary64 :=
  let units := roundUnits num den
  if units < overflow then .finite negative units else .infinity negative

/-- The double with the given sign that is nearest to a natural number. -/
def ofMagnitude (negative : Bool) (n : Nat) : Binary64 :=
  ofRatio negative (n * unit) 1

/-- The double nearest to a natural number. -/
def ofNat (n : Nat) : Binary64 := ofMagnitude false n

/-- The number itself, if it is finite. -/
def finite? : Binary64 → Option Binary64
  | .finite negative units => some (.finite negative units)
  | _ => none

/-- The double nearest to an integer, if that is finite. -/
def ofInt? (n : Int) : Option Binary64 := (ofMagnitude (decide (n < 0)) n.natAbs).finite?

/-- The double nearest to `digits * 10 ^ exponent`. Beyond the exponents tested first, the answer
is an infinity or zero whatever the digits are. -/
def ofDecimal (negative : Bool) (digits : Nat) (exponent : Int) : Binary64 :=
  if digits = 0 then .finite negative 0
  else
    let places := (Nat.toDigits 10 digits).length
    if 310 < places + exponent then .infinity negative
    else if places + exponent < -330 then .finite negative 0
    else if 0 ≤ exponent then ofMagnitude negative (digits * Nat.pow 10 exponent.toNat)
    else ofRatio negative (digits * unit) (Nat.pow 10 (-exponent).toNat)

/-- The double 0. -/
def zero : Binary64 := .finite false 0

/-- The double 1. -/
def one : Binary64 := .finite false unit

/-! ## Order -/

/-- The units of a finite double as an integer. -/
def signedUnits (negative : Bool) (units : Nat) : Int :=
  if negative then -(units : Int) else units

/-- Strictly less in value; a number that is none is less than nothing. -/
def less : Binary64 → Binary64 → Bool
  | .nan, _ => false
  | _, .nan => false
  | .infinity n, .infinity m => n && !m
  | .infinity n, .finite _ _ => n
  | .finite _ _, .infinity m => !m
  | .finite n a, .finite m b => decide (signedUnits n a < signedUnits m b)

/-- At most in value; a number that is none is comparable to nothing. -/
def atMost : Binary64 → Binary64 → Bool
  | .nan, _ => false
  | _, .nan => false
  | .infinity n, .infinity m => n || !m
  | .infinity n, .finite _ _ => n
  | .finite _ _, .infinity m => !m
  | .finite n a, .finite m b => decide (signedUnits n a ≤ signedUnits m b)

/-- Whether an integer is strictly less than a double. The integer is not rounded. -/
def intLess (n : Int) : Binary64 → Bool
  | .nan => false
  | .infinity negative => !negative
  | .finite negative units => decide (n * unit < signedUnits negative units)

/-- Whether an integer is at most a double. The integer is not rounded. -/
def intAtMost (n : Int) : Binary64 → Bool
  | .nan => false
  | .infinity negative => !negative
  | .finite negative units => decide (n * unit ≤ signedUnits negative units)

/-- The first number, unless the second one is strictly larger. -/
def max (x y : Binary64) : Binary64 := if less x y then y else x

/-- The first number, unless the second one is strictly smaller. -/
def min (x y : Binary64) : Binary64 := if less y x then y else x

/-- Whether the value is zero, of either sign. -/
def isZero : Binary64 → Bool
  | .finite _ 0 => true
  | _ => false

/-- The integer that is left when the fraction is dropped, for finite values. -/
def truncate? : Binary64 → Option Int
  | .finite negative units => some (signedUnits negative (units / unit))
  | _ => none

/-- Whether the value is a finite integer. -/
def isIntegral : Binary64 → Bool
  | .finite _ units => units % unit == 0
  | _ => false

end Binary64

end AdaptiveQuiz
