import RecordFilter.Violation

/-!
# Failures

Everything that can go wrong, by cause.  The failures that callers are expected
to read have a message and a mapping of details; the others are told apart by
their cause alone.
-/

namespace RecordFilter

/-- What is wrong with a value given as filter input. -/
inductive InputProblem where
  /-- Membership was asked in a value of the named type, which is no
  collection. -/
  | notACollection (typeName : String)
  /-- A filter was called with a value of the named type, which
  carries no inputs. -/
  | notAnInput (typeName : String)
  /-- A problem stated in words. -/
  | stated (message : String)
  deriving DecidableEq

/-- One field of an input that does not have its declared type. -/
structure FieldError where
  location : List (String ⊕ Nat)
  cause : String
  deriving DecidableEq

/-- Why an operation has no result. -/
inductive Failure where
  /-- A report in words alone. -/
  | general (message : String)
  /-- A kind is not one of the valid kinds. -/
  | unknownKind (report : UnknownKind)
  /-- A field is not declared. -/
  | missingField (report : MissingField)
  /-- A definition has violations. -/
  | invalidDefinition (violations : List Violation)
  /-- An input value has the wrong form; the filter is named if it is known. -/
  | wrongInput (problem : InputProblem) (filter : Option String)
  /-- The value with this text cannot be read as a filter. -/
  | notAFilter (shown : String)
  /-- A value of the named type has no columns. -/
  | notATable (typeName : String)
  /-- The backend has no operator under this label. -/
  | unsupportedOperator (backend label : String)
  /-- A value cannot be a key of a mapping. -/
  | unhashable
  /-- A value has no elements to go through. -/
  | notIterable
  /-- A name is not a text where only texts can be compared or joined. -/
  | notText
  /-- A value does not take part in an operation. -/
  | badOperand
  /-- A value cannot stand for a type. -/
  | notAType
  /-- A text that should be an expression is empty. -/
  | emptyText
  /-- A text that should be an expression is badly formed. -/
  | badSyntax
  /-- A name has no meaning. -/
  | unknownName
  /-- A list has no element at this position. -/
  | badPosition
  /-- A class cannot have a field of this name. -/
  | badFieldName
  /-- A tuple cannot have this name, or a field of this name. -/
  | badTupleName
  /-- A value is not a kind. -/
  | notAKind
  /-- A whole number has too many digits to be written. -/
  | oversizedInteger
  /-- A least similarity lies outside zero to one. -/
  | badCutoff
  /-- A range has no step. -/
  | badStep
  /-- A mapping lacks a key. -/
  | missingKey
  /-- A value lacks an attribute. -/
  | missingAttribute
  /-- A group has no first condition. -/
  | emptyGroup
  /-- A signalling NaN was compared. -/
  | signalingNaN
  /-- A callback gave up. -/
  | callbackFailed
  /-- A comparison cannot be written for this operand. -/
  | badComparison
  /-- Some fields of an input do not have their declared types. -/
  | invalidFields (errors : List FieldError)
  /-- An input model refers to a type that is not known. -/
  | incompleteModel

/-- The problem in words; a known filter is named. -/
def InputProblem.message (filter : Option String) : InputProblem → String
  | .notACollection typeName =>
      let place := match filter with
        | some name => if name = "" then "" else " for filter '" ++ name ++ "'"
        | none => ""
      "'inArray' expects a list, tuple or set of values" ++ place ++ ", got " ++
        typeName
  | .notAnInput typeName =>
      "Filter input must be a mapping or a pydantic model, got " ++ typeName
  | .stated message => message

namespace Failure

/-- The violations of a definition, one on each line. -/
def definitionMessage (violations : List Violation) : String :=
  "\n".intercalate
    (("Invalid filter definition (" ++ Nat.repr violations.length ++
      " problem(s)):")
      :: violations.map fun v => "  - " ++ v.text)

/-- The failure in words, for those that are worded. -/
def message? : Failure → Option String
  | .general message => some message
  | .unknownKind report => some report.message
  | .missingField report => some report.message
  | .invalidDefinition violations => some (definitionMessage violations)
  | .wrongInput problem filter => some (problem.message filter)
  | .notAFilter shown => some ("Unsupported filter field: " ++ shown)
  | .notATable typeName =>
      some ("Expected a Table, selectable, ORM model or aliased entity, got " ++
        typeName)
  | .unsupportedOperator backend label =>
      some ("Unsupported operator for " ++ backend ++ ": " ++ label)
  | _ => none

/-- The failure as a mapping, for the reports of this library. -/
def details? : Failure → Option Value
  | .general message =>
      some (.ofFields [("error", .text "FilterDefError"),
        ("message", .text message)])
  | .unknownKind report => some report.details
  | .missingField report => some report.details
  | .invalidDefinition violations =>
      some (.ofFields [
        ("error", .text "INVALID_FILTER_DEF"),
        ("violations", .list (violations.map Violation.details))])
  | .wrongInput problem filter =>
      some (.ofFields [
        ("error", .text "INVALID_FILTER_INPUT"),
        ("message", .text (problem.message filter)),
        ("filter", .ofText? filter)])
  | _ => none

end Failure

/-- The report on a missing field; the least similarity has to make sense. -/
def MissingField.report (cutoff : Double) (field : Name) (owner : String)
    (available : List String) (path : Option String) :
    Except Failure MissingField :=
  if Similarity.validCutoff cutoff then
    .ok (.make cutoff field owner available path)
  else .error .badCutoff

end RecordFilter
