import RecordFilter.Number.Double

/-!
# The shortest decimal text of a double

**Digits.**  `Double.shortest` takes the fewest significant digits, at most 17,
whose decimal number rounds back to the double.  On each decimal grid only the
two neighbours of the exact value are tried, the nearer one first.

**Layout.**  A number whose decimal exponent lies in `-4 .. 15` is written
positionally, any other as one digit, a fraction, `e`, a sign and at least two
exponent digits.
-/

namespace RecordFilter
namespace Double

/-- The least `k` such that `units` units lie below `10 ^ k`. -/
def pointPosition (units : Nat) : Int :=
  (digitCount (units * Nat.pow 10 400 / Nat.pow 2 1074) : Int) - 400

/-- Does `coefficient * 10 ^ exponent` round to this magnitude? -/
def readsBack (units coefficient : Nat) (exponent : Int) : Bool :=
  (ofDecimal false coefficient exponent).key = some (units : Int)

/-- A neighbour of the magnitude with `n` significant digits that reads
back, if any. -/
def neighbour? (units n : Nat) : Option (Nat × Int) :=
  let exponent := pointPosition units - n
  let num := if exponent < 0 then units * Nat.pow 10 exponent.natAbs else units
  let den := if exponent < 0 then Nat.pow 2 1074
    else Nat.pow 2 1074 * Nat.pow 10 exponent.natAbs
  let nearer := roundDiv num den
  let other := if nearer = num / den then nearer + 1 else num / den
  if readsBack units nearer exponent then some (nearer, exponent)
  else if readsBack units other exponent then some (other, exponent)
  else none

/-- The coefficient and exponent of the shortest decimal number that
reads back. -/
def shortest (units : Nat) : Nat × Int :=
  ((List.range 17).findSome? fun n => neighbour? units (n + 1)).getD
    (units, -1074)

/-- The digits without trailing zeros; the first digit always stays. -/
def trimZeros (digits : List Char) : List Char :=
  match (digits.reverse.dropWhile (· = '0')).reverse with
  | [] => digits.take 1
  | trimmed => trimmed

/-- `n` zeros. -/
def zeros (n : Nat) : List Char := List.replicate n '0'

/-- At least two exponent digits, after the sign. -/
def exponentText (exponent : Int) : List Char :=
  let digits := Nat.toDigits 10 exponent.natAbs
  (if exponent < 0 then '-' else '+') :: zeros (2 - digits.length) ++ digits

/--
Writes `0.d₁d₂… * 10 ^ point`.  A positional number without a fraction is
followed by `whole`.
-/
def layout (whole : List Char) (digits : List Char) (point : Int) : List Char :=
  if -4 < point ∧ point ≤ 16 then
    if point ≤ 0 then
      ['0', '.'] ++ zeros point.natAbs ++ digits
    else if digits.length ≤ point.natAbs then
      digits ++ zeros (point.natAbs - digits.length) ++ whole
    else
      digits.take point.natAbs ++ '.' :: digits.drop point.natAbs
  else
    match digits with
    | [] => []
    | [d] => d :: 'e' :: exponentText (point - 1)
    | d :: rest => d :: '.' :: rest ++ 'e' :: exponentText (point - 1)

/-- The text of a magnitude. -/
def magnitudeText (whole : List Char) (units : Nat) : List Char :=
  if units = 0 then '0' :: whole
  else
    let digits := Nat.toDigits 10 (shortest units).1
    layout whole (trimZeros digits) (digits.length + (shortest units).2)

/-- A minus sign for a negative number. -/
def signText (negative : Bool) : List Char := if negative then ['-'] else []

/-- The text of a double, with `whole` after a positional number without a
fraction. -/
def write (whole : List Char) : Double → String
  | .nan => "nan"
  | .infinite negative => String.ofList (signText negative ++ ['i', 'n', 'f'])
  | .finite negative units _ =>
      String.ofList (signText negative ++ magnitudeText whole units)

/-- The text of a double: whole numbers keep `.0`. -/
def text (x : Double) : String := write ['.', '0'] x

/-- The text of a double as part of a complex number: whole numbers
stand alone. -/
def bareText (x : Double) : String := write [] x

/-- Does the sign of the number show as a minus?  A NaN shows none. -/
def isNegative : Double → Bool
  | .nan => false
  | .infinite negative => negative
  | .finite negative _ _ => negative

/-- The text of a complex number; the real part is left out when it is
positive zero. -/
def complexText (re im : Double) : String :=
  if re.isZero && !re.isNegative then im.bareText ++ "j"
  else
    "(" ++ re.bareText ++ (if im.isNegative then "" else "+") ++
      im.bareText ++ "j)"

end Double
end RecordFilter
