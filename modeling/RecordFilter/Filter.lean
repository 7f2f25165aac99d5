import RecordFilter.Value.Elements
import RecordFilter.Value.Path
import RecordFilter.Value.Text

/-!
# Filters

A definition maps names to filters.  A filter is a comparison of one field, a
group of comparisons that share one input, or a callback.

**Forms.**  Comparisons and groups come as values of their own or as mappings.
`Filter.parse` accepts both; `Value.declaration` writes the mapping form and
leaves out what is usual, so that parsing it gives the filter back.
-/

namespace RecordFilter

/-- A comparison of one field; without a field, the name of the
filter names it. -/
structure Comparison where
  kind : Value
  field : Value
  ignoreCase : Value

/-- An entry of a definition after parsing. -/
inductive Filter where
  | comparison (c : Comparison)
  | group (kind : Value) (conditions : List Value)
  | custom (callback : Callback)

namespace Value

/-- Is this one of some kinds?  Only hashable values and sets can be asked. -/
def isKindAmong (kinds : Kind → Bool) (v : Value) : Except Failure Bool :=
  match v.kind? with
  | some k => .ok (kinds k)
  | Option.none =>
      match v with
      | .set _ _ => .ok false
      | _ => if v.hashable then .ok false else .error .unhashable

/-- Is this the kind of a group? -/
def isGroupKind (v : Value) : Except Failure Bool :=
  v.isKindAmong Kind.isGroup

/-- Is this the kind of a comparison? -/
def isComparisonKind (v : Value) : Except Failure Bool :=
  v.isKindAmong fun k => !k.isGroup

/-- The kind as it is declared: a kind by its text, anything else as it is. -/
def kindDeclaration (v : Value) : Value :=
  match v with
  | .kind k => .text k.text
  | _ => v

/-- The value as a comparison. -/
def comparison? : Value → Option Comparison
  | .comparison k field ignoreCase => some ⟨k, field, ignoreCase⟩
  | _ => Option.none

/-- A comparison with its kind in normal form. -/
def mkComparison (kind field ignoreCase : Value) : Value :=
  .comparison kind.coerceKind field ignoreCase

/-- A group with its kind in normal form; the conditions can be anything with
elements. -/
def mkGroup (kind conditions : Value) : Except Failure Value :=
  match conditions.elements? with
  | some items => .ok (.group kind.coerceKind items)
  | Option.none => .error .notIterable

mutual

/-- The mapping form of a comparison or a group. -/
def declaration (v : Value) : Except Failure Value :=
  match v with
  | .comparison k field ignoreCase =>
      .ok (.ofFields (("kind", k.kindDeclaration)
        :: (if field.isNone then [] else [("field", field)])
        ++ (if ignoreCase.truth then [("caseInsensitive", .bool true)]
          else [])))
  | .group k conditions => do
      return .ofFields [
        ("kind", k.kindDeclaration),
        ("conditions", .list (← declarations conditions))]
  | _ => .error .missingAttribute
termination_by structural v

/-- The mapping forms of the conditions of a group. -/
def declarations (vs : List Value) : Except Failure (List Value) :=
  match vs with
  | [] => .ok []
  | v :: rest => do return (← declaration v) :: (← declarations rest)
termination_by structural vs

end

end Value

namespace Comparison

/-- The comparison as a value. -/
def toValue (c : Comparison) : Value := .comparison c.kind c.field c.ignoreCase

/-- The operator that the comparison compiles to. -/
def operator (c : Comparison) : Except Failure Operator :=
  match c.kind.kind?.bind (Kind.operator? c.ignoreCase.truth) with
  | some op => .ok op
  | none => .error .notAKind

/-- The field that is compared: the explicit one, or else the name of
the filter. -/
def fieldOr (name : Value) (c : Comparison) : Value :=
  if c.field.isNone then name else c.field

/-- The flag for blindness to case in the mapping form; it has two spellings. -/
def flag? (entries : List (Value × Value)) : Option Value :=
  (Value.field? "caseInsensitive" entries).or
    (Value.field? "case_insensitive" entries)

/-- Reads the mapping form of a comparison. -/
def parse (raw : Value) : Except Failure Comparison :=
  match raw.entries? with
  | none => .error .missingAttribute
  | some entries =>
      match Value.field? "kind" entries with
      | none => .error .missingKey
      | some kind =>
          .ok ⟨kind.coerceKind, (Value.field? "field" entries).getD .none,
            .bool ((flag? entries).getD (.bool false)).truth⟩

/-- A condition of a group stays a comparison, or is read from its
mapping form. -/
def parseCondition (raw : Value) : Except Failure Value :=
  match raw.comparison? with
  | some _ => .ok raw
  | none => do return (← parse raw).toValue

end Comparison

namespace Filter

/-- The filter as a value. -/
def toValue : Filter → Value
  | .comparison c => c.toValue
  | .group kind conditions => .group kind conditions
  | .custom callback => .callback callback.id callback.name callback.arguments

/-- The value as a filter, if it is one without parsing. -/
def ofValue? : Value → Option Filter
  | .comparison k field ignoreCase => some (.comparison ⟨k, field, ignoreCase⟩)
  | .group k conditions => some (.group k conditions)
  | .callback id name arguments => some (.custom ⟨id, name, arguments⟩)
  | _ => none

/-- Reads the mapping form of a filter. -/
def parseMapping (raw : Value) (entries : List (Value × Value)) :
    Except Failure Filter := do
  let kind := (Value.field? "kind" entries).getD .none
  if ← kind.isGroupKind then
    match ((Value.field? "conditions" entries).getD (.tuple [])).elements? with
    | none => .error .notIterable
    | some conditions =>
        return .group kind.coerceKind
          (← conditions.mapM Comparison.parseCondition)
  else
    return .comparison (← Comparison.parse raw)

/-- Reads an entry of a definition. -/
def parse (raw : Value) : Except Failure Filter :=
  match ofValue? raw with
  | some filter => .ok filter
  | none =>
      match raw.entries? with
      | some entries => parseMapping raw entries
      | none => do .error (.notAFilter (← raw.expression))

end Filter

/-- A definition after parsing: named filters in insertion order. -/
abbrev Definition := List (Value × Filter)

namespace Definition

/-- Reads every entry of a definition. -/
def parse (raw : Value) : Except Failure Definition :=
  match raw.entries? with
  | none => .error .missingAttribute
  | some entries =>
      entries.mapM fun entry => do return (entry.1, ← Filter.parse entry.2)

/-- The definition as a mapping of filters. -/
def toValue (d : Definition) : Value :=
  .mapping .plain (d.map fun entry => (entry.1, entry.2.toValue))

end Definition
end RecordFilter
