import RecordFilter.Filter
import RecordFilter.Shape.Fields

/-!
# Types of inputs

Each filter expects inputs of a type.  A comparison expects the type of its
field, a text for `contains`, a list of the type for membership and a truth
value for a null check.  A group expects what its first condition expects, and a
callback what its second parameter declares.
-/

namespace RecordFilter

/-- What a parameter of a callback declares. -/
inductive ParameterType where
  | undeclared
  | declared (type : Shape)
  /-- The type is given by a text. -/
  | written (text : String)

/-- The declaration of a callback; `resolvable` tells whether texts can be
looked up. -/
structure Signature where
  parameters : List (String × ParameterType)
  resolvable : Bool

/-- The declarations of callbacks, as far as they have any. -/
abbrev Signatures := Callback → Option Signature

namespace Signature

/-- Can all types that are given by texts be resolved? -/
def allResolve (s : Signature) : Bool :=
  s.resolvable && s.parameters.all fun p =>
    match p.2 with
    | .written text => (Shape.ofText (fun _ => none) text).toOption.isSome
    | _ => true

/-- The type of the input: what the second parameter declares. -/
def inputType (s : Signature) : Shape :=
  match s.parameters with
  | _ :: (_, type) :: _ =>
      match type with
      | .undeclared => .any
      | .declared type => type
      | .written text =>
          if s.allResolve then
            ((Shape.ofText (fun _ => none) text).toOption).getD .any
          else .any
  | _ => .any

end Signature

namespace InputModel

/-- The type of the field that a value names. -/
abbrev FieldTypes := Value → Except Failure Shape

/-- The type of inputs that a comparison expects. -/
def comparisonType (types : FieldTypes) (name : Value) (c : Comparison) :
    Except Failure Shape := do
  let target := (← types (c.fieldOr name)).unwrapOptional
  match c.kind.kind? with
  | some .eq | some .neq | some .gt | some .gte | some .lt | some .lte =>
      return target
  | some .contains => return .builtin .text
  | some .inArray => return .list target
  | some .isNull | some .isNotNull => return .builtin .bool
  | _ => throw (.unknownKind (Problem.kindReport (← c.kind.plainText)))

/-- The type of inputs that a condition of a group expects. -/
def conditionType (types : FieldTypes) (name c : Value) :
    Except Failure Shape :=
  match c.comparison? with
  | some c => comparisonType types name c
  | none => .error .missingAttribute

/-- The type of inputs that a callback expects. -/
def callbackType (signatures : Signatures) (callback : Callback) : Shape :=
  match signatures callback with
  | some s => s.inputType
  | none => .any

/-- The type of inputs that a filter expects. -/
def inputType (signatures : Signatures) (types : FieldTypes) (name : Value) :
    Filter → Except Failure Shape
  | .comparison c => comparisonType types name c
  | .group _ conditions =>
      match conditions with
      | [] => .error .emptyGroup
      | first :: _ => conditionType types name first
  | .custom callback => .ok (callbackType signatures callback)

end InputModel
end RecordFilter
