import RecordFilter.Number.Double
import RecordFilter.Calendar.Date

/-!
# Durations

A duration is a whole number of microseconds.  Its text counts whole days
towards the past, so the rest of the day is never negative.
-/

namespace RecordFilter

/-- A length of time in microseconds. -/
structure Duration where
  micros : Int
  deriving DecidableEq

namespace Duration

/-- The microseconds of one day. -/
def microsPerDay : Int := 86400000000

/-- Whole days, rounded towards the past. -/
def days (d : Duration) : Int := d.micros.fdiv microsPerDay

/-- The microseconds left over after the whole days. -/
def restMicros (d : Duration) : Nat := (d.micros.fmod microsPerDay).toNat

/-- The length in seconds, rounded once. -/
def seconds (d : Duration) : Double :=
  .ofRatio (d.micros < 0) d.micros.natAbs 1000000

/-- Microseconds as a fraction of a second, left out when there are none. -/
def fractionText (micros : Nat) : String :=
  if micros = 0 then "" else "." ++ Date.padded 6 micros

/-- Days, if there are any, then hours, minutes and seconds. -/
def text (d : Duration) : String :=
  let rest := d.restMicros / 1000000
  let clock :=
    Nat.repr (rest / 3600) ++ ":" ++ Date.padded 2 (rest / 60 % 60) ++ ":"
    ++ Date.padded 2 (rest % 60) ++ fractionText (d.restMicros % 1000000)
  if d.days = 0 then clock
  else toString d.days ++
    (if d.days.natAbs = 1 then " day, " else " days, ") ++ clock

/-- The nonzero parts with their names. -/
def parts (d : Duration) : List String :=
  let named (name : String) (n : Int) : List String :=
    if n = 0 then [] else [name ++ "=" ++ toString n]
  named "days" d.days ++ named "seconds" (d.restMicros / 1000000 : Nat)
    ++ named "microseconds" (d.restMicros % 1000000 : Nat)

/-- The duration as an expression that builds it. -/
def expression (d : Duration) : String :=
  let parts := d.parts
  "datetime.timedelta(" ++
    (if parts.isEmpty then "0" else ", ".intercalate parts) ++ ")"

end Duration
end RecordFilter
