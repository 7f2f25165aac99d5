/-!
# Kinds and operators

A declared filter has a kind: one of ten comparisons, or a group.  A comparison
compiles to an operator; `contains` has two, one of them blind to case.
-/

namespace RecordFilter

/-- What a declared filter does. -/
inductive Kind where
  | eq | neq | contains | inArray | isNull | isNotNull | gt | gte | lt | lte
  | and | or
  deriving DecidableEq

/-- What a backend can evaluate. -/
inductive Operator where
  | eq | neq | contains | icontains | inArray | isNull | isNotNull | gt | gte
  | lt | lte
  deriving DecidableEq

namespace Kind

/-- All kinds, comparisons first. -/
def all : List Kind :=
  [.eq, .neq, .contains, .inArray, .isNull, .isNotNull, .gt, .gte, .lt, .lte,
    .and, .or]

theorem mem_all
    (kind : Kind) :
    kind ∈ all := by
  cases kind <;> simp [all]

/-- The text that declares the kind. -/
def text : Kind → String
  | .eq => "eq"
  | .neq => "neq"
  | .contains => "contains"
  | .inArray => "inArray"
  | .isNull => "isNull"
  | .isNotNull => "isNotNull"
  | .gt => "gt"
  | .gte => "gte"
  | .lt => "lt"
  | .lte => "lte"
  | .and => "and"
  | .or => "or"

/-- The name of the kind as a member of its enumeration. -/
def label : Kind → String
  | .eq => "EQ"
  | .neq => "NEQ"
  | .contains => "CONTAINS"
  | .inArray => "IN_ARRAY"
  | .isNull => "IS_NULL"
  | .isNotNull => "IS_NOT_NULL"
  | .gt => "GT"
  | .gte => "GTE"
  | .lt => "LT"
  | .lte => "LTE"
  | .and => "AND"
  | .or => "OR"

/-- The kind declared by a text. -/
def ofText? (s : String) : Option Kind := all.find? fun kind => kind.text = s

theorem ofText?_text
    (kind : Kind) :
    ofText? kind.text = some kind := by
  cases kind <;> decide

/-- Is the kind a group? -/
def isGroup : Kind → Bool
  | .and | .or => true
  | _ => false

/-- The texts of all kinds. -/
def texts : List String := all.map text

/-- The texts of the kinds of groups. -/
def groupTexts : List String := (all.filter isGroup).map text

end Kind

namespace Operator

/-- All operators, in the order in which a default registry lists them. -/
def all : List Operator :=
  [.eq, .neq, .gt, .gte, .lt, .lte, .inArray, .contains, .icontains, .isNull,
    .isNotNull]

theorem mem_all
    (op : Operator) :
    op ∈ all := by
  cases op <;> simp [all]

/-- The text that names the operator. -/
def text : Operator → String
  | .eq => "eq"
  | .neq => "neq"
  | .contains => "contains"
  | .icontains => "icontains"
  | .inArray => "inArray"
  | .isNull => "isNull"
  | .isNotNull => "isNotNull"
  | .gt => "gt"
  | .gte => "gte"
  | .lt => "lt"
  | .lte => "lte"

/-- The name of the operator as a member of its enumeration. -/
def label : Operator → String
  | .eq => "EQ"
  | .neq => "NEQ"
  | .contains => "CONTAINS"
  | .icontains => "ICONTAINS"
  | .inArray => "IN_ARRAY"
  | .isNull => "IS_NULL"
  | .isNotNull => "IS_NOT_NULL"
  | .gt => "GT"
  | .gte => "GTE"
  | .lt => "LT"
  | .lte => "LTE"

/-- The name of the class that implements the operator in a backend. -/
def className : Operator → String
  | .eq => "EqualOperator"
  | .neq => "NotEqualOperator"
  | .contains => "ContainsOperator"
  | .icontains => "IContainsOperator"
  | .inArray => "InArrayOperator"
  | .isNull => "IsNullOperator"
  | .isNotNull => "IsNotNullOperator"
  | .gt => "GreaterThanOperator"
  | .gte => "GreaterEqualOperator"
  | .lt => "LessThanOperator"
  | .lte => "LessEqualOperator"

/-- The operator named by a text. -/
def ofText? (s : String) : Option Operator := all.find? fun op => op.text = s

theorem ofText?_text
    (op : Operator) :
    ofText? op.text = some op := by
  cases op <;> decide

end Operator

/-- The operator of a comparison; the flag asks for the form of `contains`
blind to case. -/
def Kind.operator? (ignoreCase : Bool) : Kind → Option Operator
  | .eq => some .eq
  | .neq => some .neq
  | .contains => some (if ignoreCase then .icontains else .contains)
  | .inArray => some .inArray
  | .isNull => some .isNull
  | .isNotNull => some .isNotNull
  | .gt => some .gt
  | .gte => some .gte
  | .lt => some .lt
  | .lte => some .lte
  | .and | .or => none

theorem Kind.isSome_operator?
    (kind : Kind)
    (ignoreCase : Bool) :
    (kind.operator? ignoreCase).isSome = !kind.isGroup := by
  cases kind <;> rfl

end RecordFilter
