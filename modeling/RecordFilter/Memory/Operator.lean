import RecordFilter.Registry
import RecordFilter.Text.Fold
import RecordFilter.Text.Search
import RecordFilter.Value.Elements
import RecordFilter.Value.Measure

/-!
# Operators on values

An operator compares the value of a field with an input value.

**Rules.**  Equality tells truth values from numbers.  Orderings compare
measures, so nothing is above or below a value without a measure.  `contains`
looks for the text of the input in the text of the field.  Membership needs a
collection as input.  A null check asks whether the field is missing, in the
sense given by the truth of the input.
-/

namespace RecordFilter

/-- What an operator in memory does with the value of a field and an
input value. -/
abbrev MemoryBehaviour := Value → Value → Except Failure Bool

namespace Memory

/-- Does the text of the input occur in the text of the field, after a
change of both? -/
def textContains (change : List Char → List Char) (field input : Value) :
    Except Failure Bool := do
  let pattern ← input.plainText
  let text ← field.plainText
  return Text.occursIn (change pattern.toList) (change text.toList)

/-- Is the field missing exactly if the input is true? -/
def nullCheck (field input : Value) : Bool := field.isNone = input.truth

/-- The built-in operators. -/
def evaluate (op : Operator) (field input : Value) : Except Failure Bool :=
  match op with
  | .eq => field.strictEq input
  | .neq => do return !(← field.strictEq input)
  | .gt => .ok (field.measure.gt input.measure)
  | .gte => .ok (field.measure.ge input.measure)
  | .lt => .ok (field.measure.lt input.measure)
  | .lte => .ok (field.measure.le input.measure)
  | .inArray => do field.memberOf (← input.requireCollection none)
  | .contains => textContains id field input
  | .icontains => textContains Text.fold field input
  | .isNull => .ok (nullCheck field input)
  | .isNotNull => .ok ((!field.isNone) = input.truth)

/-- A built-in operator. -/
def builtin (op : Operator) : Registered MemoryBehaviour :=
  ⟨op.text, op.className, evaluate op⟩

/-- The name of the backend in messages. -/
def backend : String := "in-memory evaluation"

/-- A registry of built-in operators. -/
def registryOf (ops : List Operator) : Registry MemoryBehaviour :=
  .ofList backend (ops.map builtin)

/-- The registry of all built-in operators. -/
def defaultRegistry : Registry MemoryBehaviour := registryOf Operator.all

end Memory
end RecordFilter
