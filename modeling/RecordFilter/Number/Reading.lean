import RecordFilter.Number.Decimal
import RecordFilter.Text.Blank
import RecordFilter.Text.Digit

/-!
# Reading numbers

**Doubles.**  `Double.ofText?` accepts blanks around the number, decimal digits
of any script, an underscore between two digits, one sign, an optional fraction
and exponent, and the words `inf`, `infinity` and `nan` in any case.

**Whole numbers** have the same grammar for their digits, without a fraction.
-/

namespace RecordFilter

namespace Text

/-- The number written by ASCII digits. -/
def digitsValue (digits : List Char) : Nat :=
  digits.foldl (fun n c => 10 * n + (c.toNat - 48)) 0

/-- Drops every underscore that stands between two digits; any other one
is refused. -/
def dropUnderscores? (afterDigit : Bool) : List Char → Option (List Char)
  | [] => some []
  | '_' :: rest =>
      if afterDigit && rest.head?.any isAsciiDigit then
        dropUnderscores? false rest
      else none
  | c :: rest => (dropUnderscores? (isAsciiDigit c) rest).map (c :: ·)

/-- The lower-case form of an ASCII letter. -/
def lowerAscii (c : Char) : Char :=
  if 'A' ≤ c && c ≤ 'Z' then Char.ofNat (c.toNat + 32) else c

/-- Splits an optional sign off; the flag tells a minus. -/
def splitSign : List Char → Bool × List Char
  | '-' :: rest => (true, rest)
  | '+' :: rest => (false, rest)
  | rest => (false, rest)

/-- Reads an exponent part up to the end of the text; no exponent part
counts as zero. -/
def readExponent? : List Char → Option Int
  | [] => some 0
  | c :: rest =>
      let (negative, digits) := splitSign rest
      if lowerAscii c = 'e' && !digits.isEmpty && digits.all isAsciiDigit then
        some (Double.signed negative (digitsValue digits))
      else none

/-- Reads unsigned digits with an optional fraction and exponent. -/
def readScientific? (cs : List Char) : Option (Nat × Int) :=
  let whole := cs.takeWhile isAsciiDigit
  let rest := cs.dropWhile isAsciiDigit
  let pointed := rest.head? = some '.'
  let fraction := if pointed then rest.tail.takeWhile isAsciiDigit else []
  let tail := if pointed then rest.tail.dropWhile isAsciiDigit else rest
  if whole.isEmpty && fraction.isEmpty then none
  else
    (readExponent? tail).map fun exponent =>
      (digitsValue (whole ++ fraction), exponent - fraction.length)

/-- Strips blanks, writes digits in ASCII and drops the underscores
between them. -/
def plainNumber? (cs : List Char) : Option (List Char) :=
  dropUnderscores? false ((strip cs).map plainDigit)

end Text

open Text

/-- Reads a double that is written plainly: no blanks, no underscores. -/
def Double.ofPlain? (plain : List Char) : Option Double :=
  let (negative, body) := splitSign plain
  let word := body.map lowerAscii
  if word = ['i', 'n', 'f'] ||
    word = ['i', 'n', 'f', 'i', 'n', 'i', 't', 'y'] then
    some (.infinite negative)
  else if word = ['n', 'a', 'n'] then
    some .nan
  else
    (readScientific? body).map fun (coefficient, exponent) =>
      .ofDecimal negative coefficient exponent

/-- Reads a double. -/
def Double.ofText? (cs : List Char) : Option Double :=
  plainNumber? cs >>= Double.ofPlain?

/-- Reads a whole number: blanks around it, one sign, underscores
between digits. -/
def readInt? (cs : List Char) : Option Int := do
  let plain ← plainNumber? cs
  let (negative, body) := splitSign plain
  if !body.isEmpty && body.all isAsciiDigit then
    return Double.signed negative (digitsValue body)
  else none

end RecordFilter
