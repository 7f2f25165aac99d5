import RecordFilter.Calendar.Duration

/-!
# Times of day

A time of day counts microseconds since midnight.  It may carry an offset from
universal time, and a flag `fold` that tells the second of two equal local
times; the flag takes no part in comparisons.
-/

namespace RecordFilter

/-- The microseconds of one day. -/
def ClockTime.count : Nat := 86400000000

/-- A time of day, with an offset from universal time if it is known. -/
structure ClockTime where
  micros : Nat
  inRange : micros < ClockTime.count
  fold : Bool
  offset : Option Duration
  deriving DecidableEq

namespace ClockTime

/-- Midnight, without an offset. -/
def midnight : ClockTime := ⟨0, by decide, false, none⟩

/-- The hour. -/
def hour (t : ClockTime) : Nat := t.micros / 3600000000

/-- The minute of the hour. -/
def minute (t : ClockTime) : Nat := t.micros / 60000000 % 60

/-- The second of the minute. -/
def second (t : ClockTime) : Nat := t.micros / 1000000 % 60

/-- The microsecond of the second. -/
def microsecond (t : ClockTime) : Nat := t.micros % 1000000

/-- The offset with its sign, to the minute or as far down as needed. -/
def offsetText (offset : Duration) : String :=
  let micros := offset.micros.natAbs
  let seconds := micros / 1000000
  (if offset.micros < 0 then "-" else "+")
    ++ Date.padded 2 (seconds / 3600)
    ++ ":" ++ Date.padded 2 (seconds / 60 % 60)
    ++ (if micros % 60000000 = 0 then ""
      else ":" ++ Date.padded 2 (seconds % 60))
    ++ Duration.fractionText (micros % 1000000)

/-- Hours, minutes, seconds, a fraction if there is one, and the
offset if known. -/
def text (t : ClockTime) : String :=
  Date.padded 2 t.hour ++ ":" ++ Date.padded 2 t.minute
    ++ ":" ++ Date.padded 2 t.second
    ++ Duration.fractionText t.microsecond ++ (t.offset.map offsetText).getD ""

/-- Hour and minute, then as many of the smaller parts as are not zero. -/
def arguments (t : ClockTime) : List Nat :=
  if t.microsecond ≠ 0 then [t.hour, t.minute, t.second, t.microsecond]
  else if t.second ≠ 0 then [t.hour, t.minute, t.second]
  else [t.hour, t.minute]

/-- An offset as an expression that builds it. -/
def offsetExpression (offset : Duration) : String :=
  if offset.micros = 0 then "datetime.timezone.utc"
  else "datetime.timezone(" ++ offset.expression ++ ")"

/-- The flag as a named argument, where it is set. -/
def foldArgument (t : ClockTime) : String := if t.fold then ", fold=1" else ""

/-- The offset as a named argument, where it is known. -/
def offsetArgument (t : ClockTime) : String :=
  (t.offset.map fun offset => ", tzinfo=" ++ offsetExpression offset).getD ""

/-- The time of day as an expression that builds it; the flag comes last. -/
def expression (t : ClockTime) : String :=
  "datetime.time(" ++ argumentText t.arguments ++ t.offsetArgument
    ++ t.foldArgument ++ ")"

/-- Equality: both without an offset, or both with one and equal in
universal time. -/
def eq (s t : ClockTime) : Bool :=
  match s.offset, t.offset with
  | none, none => s.micros = t.micros
  | some o, some p => (s.micros : Int) - o.micros = t.micros - p.micros
  | _, _ => false

end ClockTime
end RecordFilter
