import RecordFilter.Text.Printable

/-!
# Quoted text

A text is quoted with single quotes, or with double quotes when it holds a
single quote and no double quote.  The quote and the backslash are escaped by a
backslash, line ends and tabs by a letter, and unprintable characters by their
code point in hexadecimal.  Mutable bytes escape a single quote between double
quotes as well.
-/

namespace RecordFilter
namespace Text

/-- The last `width` lower-case hexadecimal digits of a number, padded
with zeros. -/
def hexDigits (width n : Nat) : List Char :=
  let digits := Nat.toDigits 16 n
  List.replicate (width - digits.length) '0' ++ digits

/-- The quotation mark for a text. -/
def quoteMark (cs : List Char) : Char :=
  if cs.contains '\'' && !cs.contains '"' then '"' else '\''

/-- The escapes that bytes and characters share. -/
def commonEscape? (mark c : Char) : Option (List Char) :=
  if c = mark || c = '\\' then some ['\\', c]
  else if c = '\t' then some ['\\', 't']
  else if c = '\n' then some ['\\', 'n']
  else if c = '\r' then some ['\\', 'r']
  else none

/-- The escape of an unprintable character, by the size of its code point. -/
def codeEscape (c : Char) : List Char :=
  let n := c.toNat
  if n < 0x100 then '\\' :: 'x' :: hexDigits 2 n
  else if n < 0x10000 then '\\' :: 'u' :: hexDigits 4 n
  else '\\' :: 'U' :: hexDigits 8 n

/-- A character between quotation marks. -/
def quotedChar (mark c : Char) : List Char :=
  (commonEscape? mark c).getD (if isPrintable c then [c] else codeEscape c)

/-- The quoted form of a text. -/
def quoted (s : String) : String :=
  let cs := s.toList
  let mark := quoteMark cs
  String.ofList (mark :: cs.flatMap (quotedChar mark) ++ [mark])

/-- A byte in quoted bytes that escape one mark; only printable ASCII stands
for itself. -/
def quotedByte (escaped : Char) (b : UInt8) : List Char :=
  let c := Char.ofNat b.toNat
  (commonEscape? escaped c).getD
    (if 0x20 ≤ b && b < 0x7f then [c] else '\\' :: 'x' :: hexDigits 2 b.toNat)

/-- The quoted form of bytes, mutable or not. -/
def quotedBytes (isMutable : Bool) (bytes : List UInt8) : String :=
  let mark := quoteMark (bytes.map fun b => Char.ofNat b.toNat)
  let escaped := if isMutable then '\'' else mark
  String.ofList ('b' :: mark :: bytes.flatMap (quotedByte escaped) ++ [mark])

end Text
end RecordFilter
