import RecordFilter.Text.Similarity
import RecordFilter.Value.Basic

/-!
# Violations

A violation says what is wrong with one entry of a filter definition.  It names
the entry, the problem, and for a group the condition that has it.

**Texts.**  `Problem.reason` words each problem; unknown kinds and fields come
with a report of their own, which suggests similar names.
-/

namespace RecordFilter

/-- Texts in the order of their code points. -/
def sortTexts (texts : List String) : List String :=
  texts.mergeSort fun s t => decide (s ≤ t)

/-- Texts joined by a comma and a blank. -/
def listed (texts : List String) : String := ", ".intercalate texts

/-- The similar names, asked for or silent when there are none. -/
def suggestionText (opening closing : String) (suggestions : List String) :
    String :=
  if suggestions.isEmpty then "" else opening ++ listed suggestions ++ closing

/-- The report on a kind that is none of the valid ones. -/
structure UnknownKind where
  kind : String
  valid : List String
  deriving DecidableEq

namespace UnknownKind

/-- The valid kinds that are similar to the unknown one. -/
def suggestions (e : UnknownKind) : List String :=
  Similarity.closeMatches Similarity.usualCutoff e.kind e.valid

/-- The report in words. -/
def message (e : UnknownKind) : String :=
  "Unknown filter kind: '" ++ e.kind ++ "'." ++
    suggestionText " Did you mean: " "?" e.suggestions ++
    " Valid kinds: " ++ listed (sortTexts e.valid)

/-- The report as a mapping. -/
def details (e : UnknownKind) : Value :=
  .ofFields [
    ("error", .text "UNKNOWN_FILTER_KIND"),
    ("kind", .text e.kind),
    ("suggestions", .ofTexts e.suggestions),
    ("valid_kinds", .ofTexts (sortTexts e.valid))]

end UnknownKind

/-- The report on a field that a shape does not declare. -/
structure MissingField where
  /-- The field as it was asked for. -/
  field : Value
  /-- The field in messages. -/
  shown : String
  owner : String
  known : List String
  /-- The longer path in which the field was asked for. -/
  path : Option String
  suggestions : List String

namespace MissingField

/-- Known fields named in the message before the rest is only counted. -/
def maxListed : Nat := 12

/-- The report on a field under a name; a path is longer if it is
another text. -/
def make (cutoff : Double) (field : Name) (owner : String)
    (available : List String) (path : Option String) : MissingField where
  field := .text field.content
  shown := field.shown
  owner := owner
  known := sortTexts available
  path := path.filter fun p => p ≠ "" && p ≠ field.content
  suggestions :=
    Similarity.closeMatches cutoff field.content (sortTexts available)

/-- A value as a letter: texts of one character are the letters that
names have. -/
def letter (v : Value) : Option Char :=
  match v with
  | .text s => if s.length = 1 then s.toList.head? else none
  | _ => none

/-- The report on a tuple of values where a name was expected. -/
def ofTuple (cutoff : Double) (items : List Value) (shown owner : String)
    (available : List String) : MissingField where
  field := .tuple items
  shown := shown
  owner := owner
  known := sortTexts available
  path := none
  suggestions :=
    Similarity.closestBy (fun s => s.toList.map some) cutoff (items.map letter)
      (sortTexts available)

/-- The known fields, cut off after the twelfth. -/
def knownText (e : MissingField) : String :=
  let named := listed (e.known.take maxListed)
  let hidden := e.known.length - maxListed
  (if named = "" then "(none)" else named)
    ++ (if hidden = 0 then "" else " (+" ++ Nat.repr hidden ++ " more)")

/-- The report in words. -/
def message (e : MissingField) : String :=
  "Unknown field '" ++ e.shown ++ "' on '" ++ e.owner ++ "'"
    ++ (match e.path with
      | some path => " (in '" ++ path ++ "')"
      | none => "") ++ "."
    ++ suggestionText " Did you mean: " "?" e.suggestions
    ++ "\nKnown fields: " ++ e.knownText

/-- The report as a mapping. -/
def details (e : MissingField) : Value :=
  .ofFields [
    ("error", .text "FIELD_NOT_FOUND"),
    ("field", e.field),
    ("model", .text e.owner),
    ("path", (e.path.map .text).getD e.field),
    ("suggestions", .ofTexts e.suggestions),
    ("known_fields", .ofTexts e.known)]

end MissingField

/-- What can be wrong with an entry of a definition. -/
inductive Problem where
  /-- The definition is not a mapping but a value of the named type. -/
  | notAMapping (typeName : String)
  /-- The name of the entry is no text, or an empty one. -/
  | badName
  /-- The entry is neither a filter nor a callable but a value of the
  named type. -/
  | notAFilter (typeName : String)
  /-- A comparison was declared with the kind of a group. -/
  | needsConditions (kind : String)
  /-- A group was declared with a kind that is not one of a group. -/
  | notAGroupKind (kind : String)
  /-- The kind is missing. -/
  | missingKind
  /-- The kind is unknown. -/
  | unknownKind (kind : String)
  /-- A condition of a group does not name its field. -/
  | missingConditionField
  /-- The field is no text, or an empty one. -/
  | badField
  /-- Blindness to case was asked of a kind other than `contains`. -/
  | caseFlag (kind : String)
  /-- The shape does not declare the field. -/
  | noSuchField (path : Name) (owner : String) (report : MissingField)
  /-- The path goes on behind a field that has no fields of its own. -/
  | notTraversable (part path typeName : String)
  /-- A group has no list of conditions. -/
  | missingConditions (kind : String)
  /-- A group has an empty list of conditions. -/
  | noConditions (kind : String)
  /-- A condition is not a comparison but a value of the named type. -/
  | notAComparison (typeName : String)
  /-- A condition is itself a group. -/
  | nestedGroup
  /-- A problem stated in words, with a report on a kind if there is one. -/
  | stated (reason : String) (report : Option UnknownKind)

namespace Problem

/-- The report on a kind that is not a kind of filter. -/
def kindReport (kind : String) : UnknownKind := ⟨kind, Kind.texts⟩

/-- The problem in words. -/
def reason : Problem → String
  | .notAMapping typeName => "expected a mapping of filters, got " ++ typeName
  | .badName => "filter names must be non-empty strings"
  | .notAFilter typeName =>
      "expected a filter definition or a callable, got " ++ typeName
  | .needsConditions kind =>
      "'" ++ kind ++ "' must be declared as a BooleanFilter with conditions"
  | .notAGroupKind kind =>
      "a BooleanFilter must have kind 'and' or 'or', not '" ++ kind ++ "'"
  | .missingKind => "missing 'kind'"
  | .unknownKind kind =>
      "unknown kind '" ++ kind ++ "'"
        ++ suggestionText " (did you mean: " "?)" (kindReport kind).suggestions
  | .missingConditionField =>
      "conditions of boolean filters must specify a 'field'"
  | .badField => "'field' must be a non-empty string"
  | .caseFlag kind =>
      "'caseInsensitive' is only supported by 'contains', not '" ++ kind ++ "'"
  | .noSuchField path owner report =>
      "field '" ++ path.shown ++ "' does not exist on '" ++ owner ++ "'"
        ++ suggestionText " (did you mean: " "?)" report.suggestions
  | .notTraversable part path typeName =>
      "cannot traverse '" ++ part ++ "' in '" ++ path ++ "': it is a " ++
        typeName ++ " field"
  | .missingConditions kind =>
      "'" ++ kind ++ "' filter requires a 'conditions' list"
  | .noConditions kind =>
      "'" ++ kind ++ "' filter requires at least one condition"
  | .notAComparison typeName => "expected a primitive filter, got " ++ typeName
  | .nestedGroup => "boolean filters cannot be nested"
  | .stated reason _ => reason

/-- The report that comes with the problem, as a mapping. -/
def details? : Problem → Option Value
  | .unknownKind kind => some (kindReport kind).details
  | .noSuchField _ _ report => some report.details
  | .stated _ report => report.map UnknownKind.details
  | _ => none

end Problem

/-- One problem of a filter definition; the path tells the condition
of a group. -/
structure Violation where
  name : Name
  problem : Problem
  path : Option String

namespace Violation

/-- Where the problem is: the name of the entry, and the path behind it. -/
def place (v : Violation) : String :=
  match v.path with
  | some path => if path = "" then v.name.shown else v.name.shown ++ "." ++ path
  | none => v.name.shown

/-- The violation in words. -/
def text (v : Violation) : String := v.place ++ ": " ++ v.problem.reason

/-- The violation as a mapping. -/
def details (v : Violation) : Value :=
  .ofFields ([
    ("name", .text v.name.content),
    ("reason", .text v.problem.reason),
    ("path", .ofText? v.path)]
    ++ (v.problem.details?.map fun d => ("details", d)).toList)

end Violation
end RecordFilter
