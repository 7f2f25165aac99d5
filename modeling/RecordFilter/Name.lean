import RecordFilter.Kind
import RecordFilter.Text.Quoted

/-!
# Names

The names of entries and fields are texts.  A member of an enumeration of texts
can stand for its text: it counts as that text, but messages show the member.
-/

namespace RecordFilter

/-- A text, or a member of an enumeration that stands for one. -/
inductive Name where
  | text (s : String)
  | kind (k : Kind)
  | operator (op : Operator)
  deriving DecidableEq

namespace Name

/-- The text that the name counts as. -/
def content : Name → String
  | .text s => s
  | .kind k => k.text
  | .operator op => op.text

/-- The name in messages. -/
def shown : Name → String
  | .text s => s
  | .kind k => "FilterKind." ++ k.label
  | .operator op => "FilterOperator." ++ op.label

/-- The name as an expression. -/
def expression (n : Name) : String :=
  match n with
  | .text s => Text.quoted s
  | .kind _ | .operator _ => "<" ++ n.shown ++ ": '" ++ n.content ++ "'>"

end Name
end RecordFilter
