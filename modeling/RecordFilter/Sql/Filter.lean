import RecordFilter.Compile.Logged
import RecordFilter.Input
import RecordFilter.Sql.Operator
import RecordFilter.Sql.Statement

/-!
# Filters on tables

A definition compiles to one builder of conditions for each entry.  Called with
an input, the filter is a condition, or none at all.

**Condition.**  The builders of all present inputs run in the order of the
definition, and their conditions are joined: none stays none, a single one stays
itself, several are a conjunction.  The conditions of a group are joined in the
same way by the kind of the group.

**Trace.**  Every call of a callback is an event, with the table and
the input value.

**Leaves.**  Everything holds for leaves of any type, given by a
registry of operators.
-/

namespace RecordFilter
namespace Sql

/-- The condition that a callback makes for a table and an input value, if it
makes any. -/
abbrev TableCallbacks (φ : Type) :=
  Callback → Table → Value → Except Failure (Option (Condition φ))

/-- The condition for an input value, if there is any. -/
abbrev Builder (φ : Type) := Value → Traced (Call Table) (Option (Condition φ))

variable {φ : Type}

/-- The conditions that builders make for inputs of their own, in order. -/
def fragments :
    List (Builder φ × Value) → Traced (Call Table) (List (Condition φ))
  | [] => pure []
  | (builder, input) :: rest => do
      let found ← builder input
      return found.toList ++ (← fragments rest)

/-- The report on a column that a table lacks. -/
def missingColumn (table : Table) (field : Value) :
    Except Failure MissingField :=
  match field.name? with
  | some key =>
      .ok (.make Similarity.usualCutoff key table.name table.keys none)
  | none =>
      match field with
      | .sequence .tuple items => do
          return .ofTuple Similarity.usualCutoff items (← field.plainText)
            table.name table.keys
      | _ => .error .notIterable

/-- The column that a value names. -/
def columnOf (table : Table) (field : Value) : Except Failure Column :=
  if field.hashable then
    match field.text?.bind table.column? with
    | some c => .ok c
    | none => do throw (.missingField (← missingColumn table field))
  else .error .unhashable

/-- The builder of a comparison: the operator on the column. -/
def comparisonBuilder (registry : Registry (ColumnBehaviour φ)) (table : Table)
    (field : Value) (c : Comparison) : Except Failure (Builder φ) := do
  let column ← columnOf table field
  let op ← registry.require (← c.operator).text
  return fun input => .ofExcept (op.behaviour column input)

/-- The builder of a group: the conditions of all its builders for one
input, joined. -/
def joinedBuilder (combine : List (Condition φ) → Condition φ)
    (builders : List (Builder φ)) : Builder φ := fun input => do
  return Condition.join combine
    (← fragments (builders.map fun builder => (builder, input)))

/-- The builder of a group of a kind. -/
def groupBuilder (kind : Value) (builders : List (Builder φ)) :
    Except Failure (Builder φ) :=
  match kind.kind? with
  | some .and => .ok (joinedBuilder .all builders)
  | some .or => .ok (joinedBuilder .any builders)
  | _ => do throw (← groupFailure kind)

/-- The builder of a callback: its call. -/
def callbackBuilder (callbacks : TableCallbacks φ) (table : Table)
    (callback : Callback) : Builder φ :=
  fun input => ⟨[⟨callback, table, input⟩], callbacks callback table input⟩

/-- How definitions compile to builders of conditions. -/
def strategy (registry : Registry (ColumnBehaviour φ))
    (callbacks : TableCallbacks φ) (table : Table) : Strategy (Builder φ) where
  label := "sqlalchemy"
  comparison := comparisonBuilder registry table
  combine := groupBuilder
  custom _ callback := callbackBuilder callbacks table callback

end Sql

/-- A definition compiled for a table. -/
structure SqlFilter (φ : Type) where
  table : Sql.Table
  definition : Definition
  builders : List (Name × Sql.Builder φ)

namespace SqlFilter

variable {φ : Type}

/-- The names of the filters, in order. -/
def names (f : SqlFilter φ) : List Name := f.builders.map (·.1)

/-- The condition for an input, if there is any. -/
def condition (f : SqlFilter φ) (input : Value) :
    Traced (Call Sql.Table) (Option (Sql.Condition φ)) :=
  if input.isNone then pure none
  else do
    let inputs ← .ofExcept input.inputs
    return Sql.Condition.join .all
      (← Sql.fragments (Value.activeAmong f.builders inputs))

/-- Restricts a statement by the condition for an input. -/
def restrict (f : SqlFilter φ) (statement : Sql.Statement φ) (input : Value) :
    Traced (Call Sql.Table) (Sql.Statement φ) := do
  return statement.restrict (← f.condition input)

/-- The filter with its table and the names of its entries, in words. -/
def text (f : SqlFilter φ) : String :=
  "SQLAlchemyFilter(table=" ++ Text.quoted f.table.name ++ ", filters="
    ++ Value.bracketed "[" "]" (f.names.map Name.expression) ++ ")"

/-- Checks, parses and compiles a definition for a table. -/
def define (registry : Registry (Sql.ColumnBehaviour φ))
    (callbacks : Sql.TableCallbacks φ) (table : Sql.Table) (raw : Value) :
    Except Failure (SqlFilter φ) := do
  Validation.ensure raw table.shape (some table.name)
  let definition ← Definition.parse raw
  let builders ← (Sql.strategy registry callbacks table).definition definition
  return ⟨table, definition, builders⟩

/-- Checks, parses and compiles a definition for a table, with a log. -/
def defineLogged (registry : Registry (Sql.ColumnBehaviour φ))
    (callbacks : Sql.TableCallbacks φ) (table : Sql.Table) (raw : Value) :
    Logged (SqlFilter φ) := do
  Validation.ensureLogged raw table.shape (some table.name)
  let definition ← .ofExcept (Definition.parse raw)
  let builders ← (Sql.strategy registry callbacks table).definitionLogged
    definition
  .emit (Log.defined .sql "SQLAlchemy" table.name builders.length)
  return ⟨table, definition, builders⟩

/-- The log takes no part in what is defined. -/
theorem result_defineLogged
    (registry : Registry (Sql.ColumnBehaviour φ))
    (callbacks : Sql.TableCallbacks φ)
    (table : Sql.Table)
    (raw : Value) :
    (defineLogged registry callbacks table raw).result =
      define registry callbacks table raw := by
  unfold defineLogged define
  simp only [Traced.result_bind, Validation.result_ensureLogged,
    Traced.ofExcept, Strategy.result_definitionLogged]
  rfl

end SqlFilter
end RecordFilter
