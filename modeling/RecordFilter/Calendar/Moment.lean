import RecordFilter.Calendar.Clock

/-!
# Moments

A moment is a date and a time of day.  Without an offset it is read as
universal time.

**Timestamp.**  `Moment.timestamp?` counts seconds since 1 January 1970.
Reading a local time looks for a second reading one day earlier, or one day
later when `fold` is set; when that day lies outside the years 1 to 9999, there
is no timestamp.
-/

namespace RecordFilter

/-- A date and a time of day. -/
structure Moment where
  date : Date
  clock : ClockTime
  deriving DecidableEq

namespace Moment

/-- The day of 1 January 1970. -/
def epochOrdinal : Nat := 719162

/-- Midnight of a date, without an offset. -/
def ofDate (d : Date) : Moment := ⟨d, .midnight⟩

/-- The microseconds between the epoch and the local reading of the moment. -/
def localMicros (m : Moment) : Int :=
  ((m.date.ordinal : Int) - epochOrdinal) * Duration.microsPerDay +
    m.clock.micros

/-- The microseconds since the epoch, a moment without an offset being
universal time. -/
def instant (m : Moment) : Int :=
  m.localMicros - (m.clock.offset.map Duration.micros).getD 0

/-- Does the search for a second reading of the local time stay inside the
calendar? -/
def hasReading (m : Moment) : Bool :=
  if m.clock.fold then m.date.ordinal + 1 < Date.count else 0 < m.date.ordinal

/--
The seconds since the epoch.  With an offset the exact quotient is rounded once;
without one the fraction of the second is rounded first and then the sum.
-/
def timestamp? (m : Moment) : Option Double :=
  match m.clock.offset with
  | some _ => some (Duration.seconds ⟨m.instant⟩)
  | none =>
      if m.hasReading then
        some (Double.addInt (m.localMicros.fdiv 1000000)
          (.ofRatio false m.clock.microsecond 1000000))
      else none

/-- The date and the time of day, separated by a blank. -/
def text (m : Moment) : String := m.date.text ++ " " ++ m.clock.text

/-- The moment as an expression that builds it; here the offset comes last. -/
def expression (m : Moment) : String :=
  "datetime.datetime(" ++ argumentText (m.date.arguments ++ m.clock.arguments)
    ++ m.clock.foldArgument ++ m.clock.offsetArgument ++ ")"

/-- Equality: both without an offset, or both with one and the same instant. -/
def eq (m n : Moment) : Bool :=
  m.clock.offset.isSome = n.clock.offset.isSome && m.instant = n.instant

end Moment
end RecordFilter
