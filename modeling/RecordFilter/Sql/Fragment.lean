import RecordFilter.Sql.Condition
import RecordFilter.Sql.Table

/-!
# Fragments

A fragment is a condition on one column.  It renders to a text with a question
mark for each parameter, in order.

**Constants.**  A truth value is written into the text, and so is a missing
value; neither can be compared by order.

**Patterns.**  The text that is looked for is escaped, so that wildcards in it
match only themselves.  A pattern with an escape sign stands in parentheses
unless it is the whole condition.
-/

namespace RecordFilter
namespace Sql

/-- The relations between a column and a parameter. -/
inductive Relation where
  | eq | ne | gt | ge | lt | le
  deriving DecidableEq

/-- The sign of a relation. -/
def Relation.sign : Relation → String
  | .eq => "="
  | .ne => "!="
  | .gt => ">"
  | .ge => ">="
  | .lt => "<"
  | .le => "<="

/-- Where a text is looked for: anywhere, anywhere without regard to case, at
the start. -/
inductive LikeForm where
  | inside | insideAnyCase | start
  deriving DecidableEq

/-- A condition on a column. -/
inductive Fragment where
  | compare (column : Column) (relation : Relation) (value : Value)
  | flag (column : Column) (equal : Bool) (value : Bool)
  | null (column : Column) (expected : Bool)
  | among (column : Column) (values : List Value)
  | like (column : Column) (form : LikeForm) (text : String)
  /-- A pattern given as a parameter. -/
  | pattern (column : Column) (value : Value)

/-- A text with its parameters. -/
structure Rendered where
  text : String
  parameters : List Value

/-- The sign that takes the meaning from a wildcard. -/
def escapeSign : Char := '/'

/-- A text in which the escape sign and the wildcards are escaped. -/
def escaped (text : List Char) : List Char :=
  text.flatMap fun c =>
    if c = escapeSign || c = '%' || c = '_' then [escapeSign, c] else [c]

namespace Fragment

/-- The column of a fragment. -/
def column : Fragment → Column
  | .compare c _ _ => c
  | .flag c _ _ => c
  | .null c _ => c
  | .among c _ => c
  | .like c _ _ => c
  | .pattern c _ => c

/-- A comparison with a value; constants have forms of their own. -/
def relate (relation : Relation) (c : Column) (value : Value) :
    Except Failure Fragment :=
  match value with
  | .bool b =>
      match relation with
      | .eq => .ok (.flag c true b)
      | .ne => .ok (.flag c false b)
      | _ => .error .badComparison
  | .none =>
      match relation with
      | .eq => .ok (.null c true)
      | .ne => .ok (.null c false)
      | _ => .error .badComparison
  | _ => .ok (.compare c relation value)

/-- Membership in a list; beside a missing value the others have to be
hashable. -/
def amongst (c : Column) (values : List Value) : Except Failure Fragment :=
  if values.any Value.isNone && !values.all Value.hashable then
    .error .unhashable
  else .ok (.among c values)

/-- A pattern as a parameter; constants are no patterns. -/
def matching (c : Column) (value : Value) : Except Failure Fragment :=
  if value.isBool || value.isNone then .error .badComparison
  else .ok (.pattern c value)

/-- Does the fragment need parentheses as a part of something? -/
def isCompound : Fragment → Bool
  | .like .. => true
  | _ => false

/-- The text and the parameters of a fragment. -/
def render : Fragment → Rendered
  | .compare c relation value =>
      ⟨c.text ++ " " ++ relation.sign ++ " ?", [value]⟩
  | .flag c equal value =>
      ⟨c.text ++ (if equal then " = " else " != ") ++
        (if value then "true" else "false"), []⟩
  | .null c expected =>
      ⟨c.text ++ (if expected then " IS NULL" else " IS NOT NULL"), []⟩
  | .among c [] => ⟨c.text ++ " IN (NULL) AND (1 != 1)", []⟩
  | .among c values =>
      ⟨c.text ++ " IN (" ++
        listed (values.map fun v => if v.isNone then "NULL" else "?") ++ ")",
        values.filter fun v => !v.isNone⟩
  | .like c form text =>
      let parameter := Value.text (String.ofList (escaped text.toList))
      match form with
      | .inside => ⟨c.text ++ " LIKE '%' || ? || '%' ESCAPE '/'", [parameter]⟩
      | .insideAnyCase =>
          ⟨"lower(" ++ c.text ++ ") LIKE '%' || lower(?) || '%' ESCAPE '/'",
            [parameter]⟩
      | .start => ⟨c.text ++ " LIKE ? || '%' ESCAPE '/'", [parameter]⟩
  | .pattern c value => ⟨c.text ++ " LIKE ?", [value]⟩

end Fragment

namespace Rendered

/-- The text in parentheses. -/
def parenthesised (r : Rendered) : Rendered :=
  ⟨"(" ++ r.text ++ ")", r.parameters⟩

/-- Texts joined by a word, with all their parameters. -/
def joined (word : String) (parts : List Rendered) : Rendered :=
  ⟨word.intercalate (parts.map text), parts.flatMap parameters⟩

end Rendered

namespace Condition

mutual

/-- The text of a condition in normal form. -/
def renderNormal (c : Condition Fragment) : Rendered :=
  match c with
  | .leaf f => f.render
  | .constant b => ⟨if b then "true" else "false", []⟩
  | .all members => .joined " AND " (renderMembers true members)
  | .any members => .joined " OR " (renderMembers false members)
termination_by structural c

/--
The texts of the members of a group.  A compound fragment stands in parentheses,
and in a conjunction a disjunction does as well.
-/
def renderMembers (conjunctive : Bool) (cs : List (Condition Fragment)) :
    List Rendered :=
  match cs with
  | [] => []
  | c :: rest =>
      let inside := renderNormal c
      let part := match c with
        | .leaf f => if f.isCompound then inside.parenthesised else inside
        | .any _ => if conjunctive then inside.parenthesised else inside
        | _ => inside
      part :: renderMembers conjunctive rest
termination_by structural cs

end

/-- The text of a condition. -/
def render (c : Condition Fragment) : Rendered := c.normal.renderNormal

/-- The text of a condition as the restriction of a statement. -/
def renderRestriction (c : Condition Fragment) : Rendered :=
  match c.normal with
  | .leaf f => if f.isCompound then f.render.parenthesised else f.render
  | other => other.renderNormal

end Condition
end Sql
end RecordFilter
