import RecordFilter.Text.Quoted

/-!
# Dates

A date is the number of days since 1 January of the year 1 in the proleptic
Gregorian calendar; the years 1 to 9999 are covered.  Year, month and day are
read off this number by counting from 1 March, so that a leap day is the last
day of its year.
-/

namespace RecordFilter

/-- The number of days in the years 1 to 9999. -/
def Date.count : Nat := 3652059

/-- A day of the years 1 to 9999, counted from 1 January of the year 1. -/
structure Date where
  ordinal : Nat
  inRange : ordinal < Date.count
  deriving DecidableEq

namespace Date

/-- Year, month and day of a day counted from 1 March of the year 0. -/
def civilOfMarch (days : Nat) : Nat × Nat × Nat :=
  let era := days / 146097
  let inEra := days % 146097
  let year := (inEra - inEra / 1460 + inEra / 36524 - inEra / 146096) / 365
  let inYear := inEra - (365 * year + year / 4 - year / 100)
  let month := (5 * inYear + 2) / 153
  let day := inYear - (153 * month + 2) / 5 + 1
  if month < 10 then (year + era * 400, month + 3, day)
  else (year + era * 400 + 1, month - 9, day)

/-- Year, month and day. -/
def civil (d : Date) : Nat × Nat × Nat := civilOfMarch (d.ordinal + 306)

/-- A number with leading zeros up to a width. -/
def padded (width n : Nat) : String :=
  let digits := Nat.toDigits 10 n
  String.ofList (List.replicate (width - digits.length) '0' ++ digits)

/-- The date as year, month and day joined by hyphens. -/
def text (d : Date) : String :=
  let (year, month, day) := d.civil
  padded 4 year ++ "-" ++ padded 2 month ++ "-" ++ padded 2 day

/-- Year, month and day as a list of arguments. -/
def arguments (d : Date) : List Nat :=
  let (year, month, day) := d.civil
  [year, month, day]

end Date

/-- Numbers separated by a comma and a blank. -/
def argumentText (ns : List Nat) : String := ", ".intercalate (ns.map Nat.repr)

/-- The date as an expression that builds it. -/
def Date.expression (d : Date) : String :=
  "datetime.date(" ++ argumentText d.arguments ++ ")"

end RecordFilter
