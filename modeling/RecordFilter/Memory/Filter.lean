import RecordFilter.Compile.Logged
import RecordFilter.Input
import RecordFilter.Memory.Operator
import RecordFilter.Shape.Text

/-!
# Filters in memory

A definition compiles to one checker for each entry.  Called with an input, the
filter is a predicate on records.

**Predicate.**  Every entry whose input is present and not missing has to accept
the record.  Entries are asked in the order of the definition, conditions of a
group in their order, and nothing is asked after the answer is known.

**Trace.**  Every call of a callback is an event, with the record and
the input value.
-/

namespace RecordFilter

/-- Whether a callback accepts a record, given an input value. -/
abbrev Callbacks := Callback → Value → Value → Except Failure Bool

/-- Callbacks that answer with values: the truth of the answer counts. -/
def Callbacks.ofAnswers
    (answers : Callback → Value → Value → Except Failure Value) : Callbacks :=
  fun callback record input => (answers callback record input).map Value.truth

/-- Whether a record passes, given an input value. -/
abbrev Checker := Value → Value → Traced (Call Value) Bool

namespace Memory

/-- Do all checkers accept?  The first that does not ends the search. -/
def allAccept (record input : Value) : List Checker → Traced (Call Value) Bool
  | [] => pure true
  | checker :: rest => do
      if ← checker record input then allAccept record input rest
      else return false

/-- Does some checker accept?  The first that does ends the search. -/
def someAccepts (record input : Value) : List Checker → Traced (Call Value) Bool
  | [] => pure false
  | checker :: rest => do
      if ← checker record input then return true
      else someAccepts record input rest

/-- The path that a value names; it has to be a text. -/
def pathOf (field : Value) : Except Failure String :=
  match field.text? with
  | some path => .ok path
  | none =>
      match field with
      | .bytes _ _ => .error .badOperand
      | _ => .error .missingAttribute

/-- The checker of a comparison: the operator on the value at the path. -/
def comparisonChecker (registry : Registry MemoryBehaviour) (field : Value)
    (c : Comparison) : Except Failure Checker := do
  let op ← registry.require (← c.operator).text
  let path ← pathOf field
  return fun record input => .ofExcept (op.behaviour (record.read path) input)

/-- The checker of a group: all conditions, or some condition. -/
def groupChecker (kind : Value) (checkers : List Checker) :
    Except Failure Checker :=
  match kind.kind? with
  | some .and => .ok fun record input => allAccept record input checkers
  | some .or => .ok fun record input => someAccepts record input checkers
  | _ => do throw (← groupFailure kind)

/-- The checker of a callback: its call. -/
def callbackChecker (callbacks : Callbacks) (callback : Callback) : Checker :=
  fun record input =>
    ⟨[⟨callback, record, input⟩], callbacks callback record input⟩

/-- How definitions compile to checkers of records. -/
def strategy (registry : Registry MemoryBehaviour) (callbacks : Callbacks) :
    Strategy Checker where
  label := "memory"
  comparison := comparisonChecker registry
  combine := groupChecker
  custom _ callback := callbackChecker callbacks callback

end Memory

/-- A compiled definition, with the shape it was checked against. -/
structure MemoryFilter where
  shape : Shape
  definition : Definition
  checkers : List (Name × Checker)

namespace MemoryFilter

/-- The names of the filters, in order. -/
def names (f : MemoryFilter) : List Name := f.checkers.map (·.1)

/-- The checkers whose inputs are present, each with its input. -/
def active (f : MemoryFilter) (inputs : List (Value × Value)) :
    List (Checker × Value) :=
  Value.activeAmong f.checkers inputs

/-- Do all active checkers accept the record? -/
def passes (record : Value) : List (Checker × Value) → Traced (Call Value) Bool
  | [] => pure true
  | (checker, input) :: rest => do
      if ← checker record input then passes record rest else return false

/-- The predicate for an input; without any input it accepts every record. -/
def predicate (f : MemoryFilter) (input : Value) :
    Except Failure (Value → Traced (Call Value) Bool) :=
  if input.isNone then .ok fun _ => pure true
  else do
    let inputs ← input.inputs
    return fun record => passes record (f.active inputs)

/-- The filter with the names of its entries, in words. -/
def text (f : MemoryFilter) : String :=
  "InMemoryFilter(filters=" ++
    Value.bracketed "[" "]" (f.names.map Name.expression) ++ ")"

/-- Checks, parses and compiles a definition. -/
def define (registry : Registry MemoryBehaviour) (callbacks : Callbacks)
    (shape : Shape) (raw : Value) : Except Failure MemoryFilter := do
  Validation.ensure raw shape none
  let definition ← Definition.parse raw
  let checkers ← (Memory.strategy registry callbacks).definition definition
  return ⟨shape, definition, checkers⟩

/-- Checks, parses and compiles a definition, with a log; a shape that cannot be
shown leaves no record. -/
def defineLogged (registry : Registry MemoryBehaviour) (callbacks : Callbacks)
    (shape : Shape) (raw : Value) : Logged MemoryFilter := do
  Validation.ensureLogged raw shape none
  let definition ← .ofExcept (Definition.parse raw)
  let checkers ← (Memory.strategy registry callbacks).definitionLogged
    definition
  if let .ok owner := shape.logText then
    .emit (Log.defined .memory "in-memory" owner checkers.length)
  return ⟨shape, definition, checkers⟩

/-- The log takes no part in what is defined. -/
theorem result_defineLogged
    (registry : Registry MemoryBehaviour)
    (callbacks : Callbacks)
    (shape : Shape)
    (raw : Value) :
    (defineLogged registry callbacks shape raw).result =
      define registry callbacks shape raw := by
  unfold defineLogged define
  simp only [Traced.result_bind, Validation.result_ensureLogged,
    Traced.ofExcept, Strategy.result_definitionLogged]
  cases shape.logText <;> rfl

end MemoryFilter
end RecordFilter
