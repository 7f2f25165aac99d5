import RecordFilter.Value.Elements

/-!
# Filter inputs

A filter is called with a mapping from filter names to values, or with an
instance of an input model.  Of a model, each field counts under its alias, or
else under its own name.
-/

namespace RecordFilter
namespace Value

/-- The name under which a field of a model counts. -/
def fieldKey (name : String) (other? : Option String) : String :=
  match other? with
  | some other => if other = "" then name else other
  | Option.none => name

/-- The inputs in a value, by filter name. -/
def inputs (v : Value) : Except Failure (List (Value × Value)) :=
  match v with
  | .mapping _ entries => .ok entries
  | .model _ fields =>
      .ok (distinctEntries
        (fields.map fun f => (.text (fieldKey f.1 f.2.1), f.2.2)))
  | _ => .error (.wrongInput (.notAnInput v.typeName) Option.none)

theorem isNone_of_inputs
    {v : Value}
    {entries : List (Value × Value)}
    (h : v.inputs = .ok entries) :
    v.isNone = false := by
  cases v with
  | none => cases h
  | _ => rfl

/-- The input of one filter, unless it is missing. -/
def active? (name : Name) (entries : List (Value × Value)) : Option Value :=
  (field? name.content entries).filter fun v => !v.isNone

/-- What is filed under the names whose inputs are present, each
with its input. -/
def activeAmong {γ : Type} (named : List (Name × γ))
    (entries : List (Value × Value)) : List (γ × Value) :=
  named.filterMap fun entry => (active? entry.1 entries).map fun input =>
    (entry.2, input)

end Value
end RecordFilter
