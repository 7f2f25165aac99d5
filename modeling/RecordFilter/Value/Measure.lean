import RecordFilter.Number.Reading
import RecordFilter.Value.Basic

/-!
# Measures

Ordering comparisons work on one scale of doubles.

**Scale.**  Numbers are their nearest double, dates and moments the seconds
since 1970, a date being its midnight, durations their seconds.  A text is the
number written in it, and a blank text is zero.  Everything else measures NaN,
so no ordering holds for it.
-/

namespace RecordFilter
namespace Value

/-- The measure of a number of a foreign kind. -/
def foreignMeasure (positive : Bool) : ConversionFailure → Double
  | .overflow => .infinite !positive
  | .badValue | .badType => .nan

/-- The measure of a text. -/
def textMeasure (s : String) : Double :=
  let body := Text.strip s.toList
  if body.isEmpty then .zero else (Double.ofText? body).getD .nan

/-- The measure of a moment; without a timestamp it has none. -/
def momentMeasure (m : Moment) : Double := m.timestamp?.getD .nan

/-- The place of a value on the scale of doubles. -/
def measure (v : Value) : Double :=
  match v with
  | .bool b => if b then .one else .zero
  | .int n => .ofInt n
  | .float x => x
  | .decimal d => d.toDouble
  | .fraction r => .ofRatio (r.num < 0) r.num.natAbs r.den
  | .foreignNumber _ failure positive => foreignMeasure positive failure
  | .date d => momentMeasure (.ofDate d)
  | .moment m => momentMeasure m
  | .duration d => d.seconds
  | _ =>
      match v.text? with
      | some s => textMeasure s
      | Option.none => .nan

end Value
end RecordFilter
