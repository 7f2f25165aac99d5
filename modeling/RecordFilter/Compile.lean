import RecordFilter.Filter
import RecordFilter.Traced

/-!
# Compiling definitions

A backend says what becomes of a comparison, of a group and of a callback;
walking through the definition is the same for all of them.

**Input.**  A parsed definition, or a mapping of values that need no parsing.
**Result.**  One checker for each entry, in the order of the definition.
-/

namespace RecordFilter

/-- The call of a callback with its target, which the backend gives, and an
input value. -/
structure Call (τ : Type) where
  callback : Callback
  target : τ
  input : Value

/-- How a backend makes checkers of type `γ`. -/
structure Strategy (γ : Type) where
  /-- The name of the backend in the log. -/
  label : String
  /-- The checker of a comparison of a field. -/
  comparison : Value → Comparison → Except Failure γ
  /-- The checker of a group. -/
  combine : Value → List γ → Except Failure γ
  /-- The checker of a callback. -/
  custom : Value → Callback → γ

/-- The failure for a group whose kind is not one of a group. -/
def groupFailure (kind : Value) : Except Failure Failure := do
  return .unknownKind ⟨← kind.plainText, Kind.groupTexts⟩

namespace Strategy

variable {γ : Type}

/-- Compiles one condition of a group; only comparisons have a field. -/
def condition (s : Strategy γ) (name : Value) (c : Value) : Except Failure γ :=
  match c.comparison? with
  | some c => s.comparison (c.fieldOr name) c
  | none => .error .missingAttribute

/-- Compiles a filter. -/
def filter (s : Strategy γ) (name : Value) : Filter → Except Failure γ
  | .comparison c => s.comparison (c.fieldOr name) c
  | .group kind conditions => do
      s.combine kind (← conditions.mapM (s.condition name))
  | .custom callback => .ok (s.custom name callback)

/-- Compiles a value that should be a filter already. -/
def value (s : Strategy γ) (name raw : Value) : Except Failure γ :=
  match Filter.ofValue? raw with
  | some f => s.filter name f
  | none => do
      throw (.unknownKind (Problem.kindReport
        (← ((raw.attribute? "kind").getD raw).plainText)))

/-- Names every checker; keys have to be names. -/
def named (checkers : List (Value × γ)) : Except Failure (List (Name × γ)) :=
  checkers.mapM fun entry =>
    match entry.1.name? with
    | some name => .ok (name, entry.2)
    | none => .error .notText

/-- Compiles all entries of a parsed definition. -/
def definition (s : Strategy γ) (d : Definition) :
    Except Failure (List (Name × γ)) := do
  named (← d.mapM fun entry => do return (entry.1, ← s.filter entry.1 entry.2))

/-- Compiles all entries of a mapping of values that should be
filters already. -/
def mapping (s : Strategy γ) (raw : Value) :
    Except Failure (List (Name × γ)) := do
  match raw.entries? with
  | none => throw .missingAttribute
  | some entries =>
      named (← entries.mapM fun entry => do
        return (entry.1, ← s.value entry.1 entry.2))

end Strategy
end RecordFilter
