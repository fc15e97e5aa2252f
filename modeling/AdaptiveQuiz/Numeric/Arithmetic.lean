import AdaptiveQuiz.Numeric.Binary64

/-!
# Arithmetic on binary64 numbers

Each operation computes the exact result in units and rounds it once, which is what the
standard for binary floating point asks of the four basic operations.

## Main definitions

* `Binary64.add`, `Binary64.sub`, `Binary64.mul`, `Binary64.div`
* `Binary64.roundPlaces`: rounding of the exact value to a number of decimal places
-/

namespace AdaptiveQuiz.Binary64

/-- The same magnitude with the other sign. -/
def neg : Binary64 → Binary64
  | .nan => .nan
  | .infinity negative => .infinity (!negative)
  | .finite negative units => .finite (!negative) units

/-- The double nearest to an exact sum of units. An exact zero is positive unless both summands
were negative. -/
def ofSignedUnits (bothNegative : Bool) (sum : Int) : Binary64 :=
  if sum = 0 then .finite bothNegative 0 else ofRatio (decide (sum < 0)) sum.natAbs 1

/-- The rounded sum. -/
def add : Binary64 → Binary64 → Binary64
  | .nan, _ => .nan
  | _, .nan => .nan
  | .infinity n, .infinity m => if n = m then .infinity n else .nan
  | .infinity n, .finite _ _ => .infinity n
  | .finite _ _, .infinity m => .infinity m
  | .finite n a, .finite m b => ofSignedUnits (n && m) (signedUnits n a + signedUnits m b)

/-- The rounded difference. -/
def sub (x y : Binary64) : Binary64 := add x (neg y)

/-- The rounded product. -/
def mul : Binary64 → Binary64 → Binary64
  | .nan, _ => .nan
  | _, .nan => .nan
  | .infinity n, .infinity m => .infinity (n != m)
  | .infinity n, .finite m b => if b = 0 then .nan else .infinity (n != m)
  | .finite n a, .infinity m => if a = 0 then .nan else .infinity (n != m)
  | .finite n a, .finite m b => ofRatio (n != m) (a * b) unit

/-- The rounded quotient; it is no number when the divisor is zero and so is the dividend. -/
def div : Binary64 → Binary64 → Binary64
  | .nan, _ => .nan
  | _, .nan => .nan
  | .infinity _, .infinity _ => .nan
  | .infinity n, .finite m _ => .infinity (n != m)
  | .finite n _, .infinity m => .finite (n != m) 0
  | .finite n a, .finite m b =>
    if b = 0 then (if a = 0 then .nan else .infinity (n != m))
    else ofRatio (n != m) (a * unit) b

/-- The exact value rounded to `places` decimal places, a tie going to the even last digit, and
then to the nearest double. The sign is kept, also that of a zero. -/
def roundPlaces (places : Nat) : Binary64 → Binary64
  | .nan => .nan
  | .infinity negative => .infinity negative
  | .finite negative units =>
    ofRatio negative (roundQuotient (units * Nat.pow 10 places) unit * unit)
      (Nat.pow 10 places)

end AdaptiveQuiz.Binary64
