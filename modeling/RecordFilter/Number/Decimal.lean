import RecordFilter.Number.Shortest

/-!
# Decimal numbers

A decimal number keeps its coefficient and exponent as they were written, so
`1.10` and `1.1` are equal and have different texts.

**Comparison.**  `Decimal.equalsRatio` decides equality with an exact quotient
without forming a large power of ten: a coefficient that does not end in zero
bounds the digits of the numerator or the bits of the denominator.
-/

namespace RecordFilter

/-- A decimal floating-point number, with the two kinds of NaN. -/
inductive Decimal where
  | nan (negative signaling : Bool) (payload : Nat)
  | infinite (negative : Bool)
  | finite (negative : Bool) (coefficient : Nat) (exponent : Int)
  deriving DecidableEq

namespace Decimal

/-- Is the number a NaN of either kind? -/
def isNaN : Decimal → Bool
  | .nan .. => true
  | _ => false

/-- Is the number a NaN that refuses every comparison with a number? -/
def isSignaling : Decimal → Bool
  | .nan _ signaling _ => signaling
  | _ => false

/-- Is the number a zero of either sign? -/
def isZero : Decimal → Bool
  | .finite _ coefficient _ => coefficient = 0
  | _ => false

/-- The nearest double. -/
def toDouble : Decimal → Double
  | .nan .. => .nan
  | .infinite negative => .infinite negative
  | .finite negative coefficient exponent =>
      .ofDecimal negative coefficient exponent

/-- The coefficient and exponent without trailing zeros. -/
def reduce (coefficient : Nat) (exponent : Int) : Nat × Int :=
  let zeros :=
    ((Nat.toDigits 10 coefficient).reverse.takeWhile (· = '0')).length
  (coefficient / Nat.pow 10 zeros, exponent + zeros)

/-- Is `coefficient * 10 ^ exponent`, of the given sign, the quotient
`num / den`? -/
def equalsRatio (negative : Bool) (coefficient : Nat) (exponent : Int)
    (num : Int) (den : Nat) : Bool :=
  if coefficient = 0 then num = 0
  else if num = 0 || (num < 0) != negative then false
  else
    let (c, e) := reduce coefficient exponent
    if e < 0 then
      e.natAbs ≤ den.log2 && c * den = num.natAbs * Nat.pow 10 e.natAbs
    else
      e.natAbs ≤ Double.digitCount num.natAbs &&
        c * Nat.pow 10 e.natAbs * den = num.natAbs

/-- Numeric equality of two decimal numbers; a NaN equals nothing. -/
def eq : Decimal → Decimal → Bool
  | .infinite a, .infinite b => a = b
  | .finite n c e, .finite m d f =>
      if c = 0 || d = 0 then c = d
      else n = m && reduce c e = reduce d f
  | _, _ => false

/-- Equality with an exact rational number. -/
def eqRat : Decimal → Rat → Bool
  | .finite negative coefficient exponent, r =>
      equalsRatio negative coefficient exponent r.num r.den
  | _, _ => false

/-- Equality with a double, both taken exactly. -/
def eqDouble : Decimal → Double → Bool
  | .infinite a, .infinite b => a = b
  | .finite negative coefficient exponent, .finite m units _ =>
      equalsRatio negative coefficient exponent (Double.signed m units)
        (Nat.pow 2 1074)
  | _, _ => false

/-- The digits of a finite number with its point, and the exponent if one is
left over. -/
def finiteText (coefficient : Nat) (exponent : Int) : List Char :=
  let digits := Nat.toDigits 10 coefficient
  let left := exponent + digits.length
  let point := if exponent ≤ 0 ∧ -6 < left then left else 1
  let body :=
    if point ≤ 0 then ['0', '.'] ++ Double.zeros point.natAbs ++ digits
    else if digits.length ≤ point.natAbs then
      digits ++ Double.zeros (point.natAbs - digits.length)
    else digits.take point.natAbs ++ '.' :: digits.drop point.natAbs
  if left = point then body
  else
    body ++ 'E' :: (if left - point < 0 then '-' else '+')
      :: Nat.toDigits 10 (left - point).natAbs

/-- The text of a decimal number: positional down to six places, else with an
exponent. -/
def text : Decimal → String
  | .nan negative signaling payload =>
      String.ofList (Double.signText negative) ++
        (if signaling then "sNaN" else "NaN")
        ++ (if payload = 0 then "" else String.ofList (Nat.toDigits 10 payload))
  | .infinite negative => String.ofList (Double.signText negative) ++ "Infinity"
  | .finite negative coefficient exponent =>
      String.ofList (Double.signText negative ++
        finiteText coefficient exponent)

end Decimal
end RecordFilter
