import RecordFilter.Shape.Meaning
import RecordFilter.Value.Path

/-!
# Fields of a shape

**Known fields.**  Mappings, collections of names and declared classes have
known fields; any other shape has none, and then nothing is known about the
fields of its records.

**Types given by texts** are resolved when their expressions have a meaning.  A
class with a type that stays open falls back to the types as they were written.

**Extensions.**  A class has the fields of the class it extends as well.  Of a
data class only the declarations of data classes count as fields, but any
declaration of such a field gives it its type.
-/

namespace RecordFilter
namespace Shape

/-- A type without a remark around it. -/
def bare : Shape → Shape
  | .annotated inside => inside
  | s => s

mutual

/--
Resolves the texts in a type, given how a text is read; `strip` drops remarks as
well.  Texts among arguments have to be expressions before any of them is read.
-/
def resolve (read : String → Except Failure Shape) (strip : Bool) (s : Shape) :
    Except Failure Shape :=
  match s with
  | .forward text => read text
  | .reference text => read text
  | .union true ms => do barUnion? (← resolveAll read strip ms)
  | .union false ms => do union? (← resolveAll read strip ms)
  | .list item => (resolve read strip item).map .list
  | .mapOf key value => do
      checkTexts [key, value]
      return .mapOf (← resolve read strip key) (← resolve read strip value)
  | .applied name args => do
      checkTexts args
      return .applied name (← resolveAll read strip args)
  | .annotated type => do
      let kept ← annotated? (← resolve read strip type)
      return if strip then kept.bare else kept
  | .constant v =>
      match v.text? with
      | some text => read text
      | none => .ok s
  | _ => .ok s
termination_by structural s

/-- Resolves the texts in a list of types. -/
def resolveAll (read : String → Except Failure Shape) (strip : Bool)
    (ss : List Shape) : Except Failure (List Shape) :=
  match ss with
  | [] => .ok []
  | s :: rest => do
      return (← resolve read strip s) :: (← resolveAll read strip rest)
termination_by structural ss

end

/-- The type in a text, whose expression may contain further texts; `fuel`
bounds them. -/
def readText (names : Meanings) : Nat → String → Except Failure Shape
  | 0, _ => .error .badSyntax
  | fuel + 1, text => do
      let meaning ← (← Expression.ofText text).meaning names
      resolve (readText names fuel) false (← meaning.asType)

/-- The type in a text. -/
def ofText (names : Meanings) (text : String) : Except Failure Shape :=
  readText names (text.length + 1) text

/-- Adds a field; one of the same name is replaced in its place. -/
def override (field : String × Shape) :
    List (String × Shape) → List (String × Shape)
  | [] => [field]
  | other :: rest =>
      if other.1 = field.1 then field :: rest else other :: override field rest

/-- Fields with others behind them; a field that is declared again is
replaced. -/
def extendFields (fields others : List (String × Shape)) :
    List (String × Shape) :=
  others.foldl (fun seen field => override field seen) fields

/-- No type at all for a field means the missing value. -/
def orMissing : Shape → Shape
  | .absent => .noneType
  | s => s

/--
What a class defines for the types that its texts give: an attribute for each
field with a default, which is missing, and for each field of a tuple.
-/
def attributes (form : RecordForm) (own : List (String × Shape)) : Meanings :=
  fun name =>
  if own.any fun field => field.1 = name then
    match form with
    | .data | .model => some .absent
    | .positional => some (.unknown true)
    | .keyed | .plain => none
  else none

/-- The types of all fields that a class and the classes it extends declare. -/
def hints : Shape → Except Failure (List (String × Shape))
  | .record form _ base own => do
      let inherited ← hints base
      let declared ← own.mapM fun field => do
        return (field.1,
          ← resolve (ofText (attributes form own)) true field.2.orMissing)
      return extendFields inherited declared
  | _ => .ok []

/-- Does a type that fails in this way stay as it is written? -/
def leavesOpen : Failure → Bool
  | .unknownName | .notAType | .badOperand | .notIterable | .unhashable => true
  | _ => false

/-- The types of all fields; if some type stays open, those of the own fields
as written. -/
def hintsOr (own : List (String × Shape)) (s : Shape) :
    Except Failure (List (String × Shape)) :=
  match s.hints with
  | .ok fields => .ok fields
  | .error e => if leavesOpen e then .ok (extendFields [] own) else .error e

/-- The fields of a data class: those that it and the data classes it
extends declare. -/
def dataFields : Shape → List (String × Shape)
  | .record .data _ base own => extendFields (dataFields base) own
  | .record _ _ base _ => dataFields base
  | _ => []

/-- Are fields of a validating model open to its users under this name? -/
def isPublic (name : String) : Bool := name.toList.head? ≠ some '_'

/-- The type of a field of a validating model; an unknown name stays in it. -/
def modelType (names : Meanings) (type : Shape) : Except Failure Shape := do
  checkTexts [type]
  let type := type.orMissing.inner
  match resolve (ofText names) false type with
  | .ok resolved => return resolved.bare
  | .error .unknownName => return type.bare
  | .error e => throw e

/-- The fields of a validating model, which knows itself under its name. -/
def modelFields (s : Shape) : Except Failure (List (String × Shape)) :=
  match s with
  | .record form name base own => do
      let inherited ← modelFields base
      let names : Meanings := fun other =>
        if other = name then some s else attributes form own other
      let declared ←
        (own.filter fun field => isPublic field.1).mapM fun field => do
          return (field.1, ← modelType names field.2)
      return extendFields inherited declared
  | _ => .ok []

/-- The class that another one extends, if any; not everything can be
extended. -/
def extended? (base : Shape) : Except Failure Shape :=
  match base with
  | .record .. => .ok base
  | .absent | .any => .ok .absent
  | .builtin b => if b = .bool then .error .notAType else .ok .absent
  | _ => .error .notAType

/-- The fields that a class declares itself. -/
def ownFields : Shape → List (String × Shape)
  | .record _ _ _ own => own
  | _ => []

/-- Declared fields, each with a type. -/
def typedFields (fields : List (String × Shape)) :
    Except Failure (List (String × Shape)) :=
  fields.mapM fun field => do return (field.1, ← field.2.asType)

/-- Can the text name a field or a class? -/
def isUsableName (name : String) : Bool :=
  Text.isIdentifier name && !Text.keywords.contains name

/-- Are all names usable and different? -/
def areUsableNames (names : List String) : Bool :=
  names.all isUsableName && names.Nodup

/-- A class that is declared without being a tuple, a mapping or a
validating model. -/
def declareClass (form : RecordForm) (name : String) (base : Shape)
    (own : List (String × Shape)) : Except Failure Shape :=
  if base.form? = some .keyed then do
    return .record .keyed name .absent
      (extendFields base.ownFields (← typedFields own))
  else .ok (.record form name base own)

/--
Declares a class.  Tuples and mappings extend nothing and need types for their
fields; a validating model extends validating models only.
-/
def declare (form : RecordForm) (name : String) (base : Shape)
    (own : List (String × Shape)) : Except Failure Shape := do
  let distinct := extendFields [] own
  match form with
  | .keyed => return .record form name .absent (← typedFields distinct)
  | .positional =>
      let fields ← typedFields own
      let names := own.map (·.1)
      if isUsableName name && areUsableNames names && names.all isPublic then
        return .record form name .absent fields
      else throw .badTupleName
  | .model =>
      if !(base matches .absent) && base.form? ≠ some .model then
        throw .notAType
      let s := Shape.record form name base distinct
      let _ ← s.modelFields
      return s
  | .data =>
      if areUsableNames (own.map (·.1)) then
        declareClass form name (← base.extended?) own
      else throw .badFieldName
  | .plain => declareClass form name (← base.extended?) distinct

/-- Nothing is known about a class without fields. -/
def knownIfAny (fields : List (String × Shape)) :
    Option (List (String × Shape)) :=
  if fields.isEmpty then none else some fields

/-- The fields of a declared class; every declaration has to be resolved,
replaced ones too. -/
def recordFields? (own : List (String × Shape)) (s : Shape) :
    Except Failure (Option (List (String × Shape))) :=
  match s.form? with
  | some .model => do return some (← s.modelFields)
  | some .data => do
      let hints ← s.hintsOr own
      return some (s.dataFields.map fun field =>
        (field.1, (hints.lookup field.1).getD .any))
  | _ => do return knownIfAny (← s.hintsOr own)

/-- The names of a collection as fields of any type. -/
def fieldsOfNames (names : List Value) : Except Failure Fields :=
  if names.all Value.hashable then
    .ok ((Value.distinct names).map fun name => (name, .any))
  else .error .unhashable

/-- The fields of a shape, if they are known. -/
def fields? (s : Shape) : Except Failure (Option Fields) :=
  match s with
  | .mapping fields => .ok (some fields)
  | .constant v =>
      match v.collection? with
      | some names => (fieldsOfNames names).map some
      | none => .ok none
  | .record _ _ _ own => do
      return (← s.recordFields? own).map
        fun fields => fields.map fun field => (.text field.1, field.2)
  | _ => .ok none

/-- The type at the end of a path, as far as the fields on the way are known. -/
def typeAlong : Option Fields → Shape → List String → Except Failure Shape
  | _, type, [] => .ok type
  | none, _, _ :: _ => .ok .any
  | some fields, _, name :: rest =>
      match fields.find? name with
      | none => .ok .any
      | some type => do typeAlong (← type.unwrapOptional.fields?) type rest

/-- The type of the field at a path; any type if it is not known. -/
def typeAt (s : Shape) (path : String) : Except Failure Shape := do
  typeAlong (← s.fields?) .any (Path.segments path)

end Shape
end RecordFilter
