import RecordFilter.Registry
import RecordFilter.Sql.Fragment
import RecordFilter.Value.Elements

/-!
# Operators on columns

An operator makes a condition from a column and an input value, or no
condition at all.

**Rules.**  The built-in operators do on columns what they do on values in
memory: relations, membership in a collection, a text inside a text, and null
checks that follow the truth of the input.
-/

namespace RecordFilter
namespace Sql

/-- What an operator on columns does, for conditions with leaves of type `φ`. -/
abbrev ColumnBehaviour (φ : Type) :=
  Column → Value → Except Failure (Option (Condition φ))

/-- A fragment as a whole condition. -/
def whole (f : Fragment) : Option (Condition Fragment) := some (.leaf f)

/-- The condition that a relation holds. -/
def relation (r : Relation) : ColumnBehaviour Fragment := fun c value => do
  return whole (← Fragment.relate r c value)

/-- The condition that a text occurs in the column. -/
def occurrence (form : LikeForm) : ColumnBehaviour Fragment := fun c value => do
  return whole (.like c form (← value.plainText))

/-- The built-in operators. -/
def apply : Operator → ColumnBehaviour Fragment
  | .eq => relation .eq
  | .neq => relation .ne
  | .gt => relation .gt
  | .gte => relation .ge
  | .lt => relation .lt
  | .lte => relation .le
  | .inArray => fun c value => do
      return whole (← Fragment.amongst c (← value.requireCollection none))
  | .contains => occurrence .inside
  | .icontains => occurrence .insideAnyCase
  | .isNull => fun c value => .ok (whole (.null c value.truth))
  | .isNotNull => fun c value => .ok (whole (.null c !value.truth))

/-- A built-in operator. -/
def builtin (op : Operator) : Registered (ColumnBehaviour Fragment) :=
  ⟨op.text, op.className, apply op⟩

/-- The name of the backend in messages. -/
def backend : String := "SQLAlchemy"

/-- A registry of built-in operators. -/
def registryOf (ops : List Operator) : Registry (ColumnBehaviour Fragment) :=
  .ofList backend (ops.map builtin)

/-- The registry of all built-in operators. -/
def defaultRegistry : Registry (ColumnBehaviour Fragment) :=
  registryOf Operator.all

end Sql
end RecordFilter
