import RecordFilter.Shape.Basic
import RecordFilter.Value.Text

/-!
# Texts of shapes

The log names a shape by its name, or shows the shape itself if it has none.
-/

namespace RecordFilter
namespace Shape

/-- The name of a type with the module that declares it. -/
def qualifiedLabel (b : Builtin) : String :=
  match b with
  | .decimal => "decimal." ++ b.label
  | .date | .moment | .clock | .duration => "datetime." ++ b.label
  | _ => b.label

/-- Types between brackets, separated by a comma and a blank. -/
def appliedText (name : String) (args : List String) : String :=
  name ++ "[" ++ listed args ++ "]"

mutual

/-- A type as part of another one. -/
def argumentText (s : Shape) : Except Failure String :=
  match s with
  | .builtin b => .ok (qualifiedLabel b)
  | .noneType => .ok "NoneType"
  | .absent => .ok "None"
  | .any => .ok "typing.Any"
  | .union true ms => do
      return " | ".intercalate ((← argumentTexts ms).map fun t =>
        if t = "NoneType" then "None" else t)
  | .union false ms => do
      let texts ← argumentTexts ms
      match texts.filter (· ≠ "NoneType") with
      | [t] => return appliedText "typing.Optional" [t]
      | _ => return appliedText "typing.Union" texts
  | .list item => do return appliedText "list" [← argumentText item]
  | .mapOf key value => do
      return appliedText "dict" [← argumentText key, ← argumentText value]
  | .applied name args => do return appliedText name (← argumentTexts args)
  | .annotated type => do
      return appliedText "typing.Annotated" [← argumentText type, "'meta'"]
  | .forward text => .ok (Text.quoted text)
  | .reference text => .ok ("ForwardRef(" ++ Text.quoted text ++ ")")
  | .record _ name _ _ | .known name => .ok name
  | .mapping fields => do
      return Value.bracketed "\x7b" "\x7d" (← fieldTexts fields)
  | .constant v => v.expression
  | .unknown _ => .ok "<object>"
termination_by structural s

/-- Types as parts of another one. -/
def argumentTexts (ss : List Shape) : Except Failure (List String) :=
  match ss with
  | [] => .ok []
  | s :: rest => do return (← argumentText s) :: (← argumentTexts rest)
termination_by structural ss

/-- The fields of a mapping with their types. -/
def fieldTexts (fields : List (Value × Shape)) : Except Failure (List String) :=
  match fields with
  | [] => .ok []
  | (key, type) :: rest => do
      let shown ← argumentText type
      let entry := (← key.expression) ++ ": " ++
        (match type with
          | .builtin _ | .noneType | .record .. | .known _ =>
              "<class '" ++ shown ++ "'>"
          | _ => shown)
      return entry :: (← fieldTexts rest)
termination_by structural fields

end

/-- A shape as the log shows it. -/
def logText (s : Shape) : Except Failure String :=
  match s.label? with
  | some name => .ok name
  | none =>
      match s with
      | .constant v => v.plainText
      | .forward text => .ok text
      | _ => argumentText s

end Shape
end RecordFilter
