import RecordFilter.Sql.Fragment

/-!
# Statements

A statement selects one column.  A condition restricts it; restricting by no
condition leaves the statement as it is.

**Sources.**  Every source of the selected column and of the condition is
listed once, in the order of its first occurrence; common queries stand in
front of the statement.
-/

namespace RecordFilter
namespace Sql

/-- A query of one column, with a restriction if there is one. -/
structure Statement (φ : Type) where
  column : Column
  restriction : Option (Condition φ)

namespace Condition

variable {φ : Type}

mutual

/-- The leaves of a condition, in order. -/
def leaves (c : Condition φ) : List φ :=
  match c with
  | .leaf f => [f]
  | .constant _ => []
  | .all members => leavesOf members
  | .any members => leavesOf members
termination_by structural c

/-- The leaves of conditions, in order. -/
def leavesOf (cs : List (Condition φ)) : List φ :=
  match cs with
  | [] => []
  | c :: rest => leaves c ++ leavesOf rest
termination_by structural cs

end

end Condition

namespace Statement

variable {φ : Type}

/-- A statement without a restriction. -/
def select (c : Column) : Statement φ := ⟨c, none⟩

/-- Restricts a statement further. -/
def restrict (s : Statement φ) : Option (Condition φ) → Statement φ
  | none => s
  | some c =>
      match s.restriction with
      | none => ⟨s.column, some c⟩
      | some given => ⟨s.column, some (.all [given, c])⟩

/-- The sources of a statement. -/
def sources (s : Statement Fragment) : List Source :=
  s.column.source :: match s.restriction with
    | none => []
    | some c => c.normal.leaves.map fun f => f.column.source

/-- The text of a statement. -/
def render (s : Statement Fragment) : Rendered :=
  let common := Source.distinctTexts (s.sources.flatMap Source.commonTexts)
  let opening :=
    if common.isEmpty then "" else "WITH " ++ ", \n".intercalate common ++ "\n "
  let query := opening
    ++ Source.selectText [s.column.text] (s.sources.map Source.fromText)
  match s.restriction with
  | none => ⟨query, []⟩
  | some c =>
      let restriction := c.renderRestriction
      ⟨query ++ " \nWHERE " ++ restriction.text, restriction.parameters⟩

end Statement
end Sql
end RecordFilter
