import RecordFilter.Number.Reading
import RecordFilter.Shape.Fields

/-!
# Coercion of inputs

A value given for a field of an input model is coerced to the type of the field.

**Rules.**  Numbers, truth values and texts are accepted in the forms that name
them without loss; a list is accepted in the form of any collection.  Of a
union, a member that the value belongs to exactly comes first, then the first
one that accepts it.
-/

namespace RecordFilter
namespace Coercion

/-- The errors of a value, located inside it. -/
abbrev Errors := List FieldError

/-- One error of the value itself. -/
def fail (cause : String) : Except Errors Value := .error [⟨[], cause⟩]

/-- Puts a step in front of the locations of errors. -/
def locate (step : String ⊕ Nat) (errors : Errors) : Errors :=
  errors.map fun e => ⟨step :: e.location, e.cause⟩

/-- The bytes as a text, if they are one. -/
def decodeBytes? (data : List UInt8) : Option String :=
  String.fromUTF8? ⟨data.toArray⟩

/-- A text, or bytes that encode one. -/
def toText (v : Value) : Except Errors Value :=
  match v with
  | .bytes _ data =>
      match decodeBytes? data with
      | some s => .ok (.text s)
      | none => fail "string_unicode"
  | _ =>
      match v.text? with
      | some s => .ok (.text s)
      | none => fail "string_type"

/-- A whole number in a text; zeros may follow its point. -/
def wholeOfText? (cs : List Char) : Option Int :=
  let body := Text.strip cs
  let rest := (body.dropWhile (· ≠ '.')).drop 1
  if rest.all (· = '0') then readInt? (body.takeWhile (· ≠ '.')) else none

/-- How a number that need not be whole relates to the whole numbers. -/
inductive Wholeness where
  | whole (n : Int)
  | broken
  | notFinite

/-- The wholeness of a quotient. -/
def Wholeness.ofRat (r : Rat) : Wholeness :=
  if r.den = 1 then .whole r.num else .broken

/-- The wholeness of a number of a kind that is not only for whole numbers. -/
def wholeness? (v : Value) : Option Wholeness :=
  match v with
  | .float x => some ((x.toRat?.map Wholeness.ofRat).getD .notFinite)
  | .fraction r => some (.ofRat r)
  | .decimal (.finite negative c e) =>
      let (c, e) := Decimal.reduce c e
      if c = 0 then some (.whole 0)
      else if e < 0 then some .broken
      else some (.whole (Double.signed negative (c * Nat.pow 10 e.natAbs)))
  | .decimal _ => some .notFinite
  | _ => none

/-- The text in a text or in bytes, if there is one; bytes may fail
to be a text. -/
def writtenIn? (v : Value) : Option (Option String) :=
  match v with
  | .bytes false data => some (decodeBytes? data)
  | _ => v.text?.map some

/-- A whole number, or a value that names one. -/
def toInt (v : Value) : Except Errors Value :=
  match v with
  | .int n => .ok (.int n)
  | .bool b => .ok (.int (if b then 1 else 0))
  | _ =>
      match writtenIn? v, wholeness? v with
      | some text, _ =>
          match text.bind fun s => wholeOfText? s.toList with
          | some n => .ok (.int n)
          | none => fail "int_parsing"
      | none, some (.whole n) => .ok (.int n)
      | none, some .broken => fail "int_from_float"
      | none, some .notFinite => fail "finite_number"
      | none, none => fail "int_type"

/-- A double, or a value that names one. -/
def toFloat (v : Value) : Except Errors Value :=
  match v with
  | .float x => .ok (.float x)
  | .int n => .ok (.float (.ofInt n))
  | .bool b => .ok (.float (if b then .one else .zero))
  | .decimal d => .ok (.float d.toDouble)
  | .fraction r => .ok (.float (.ofRatio (r.num < 0) r.num.natAbs r.den))
  | _ =>
      match writtenIn? v with
      | some text =>
          match text.bind fun s => Double.ofText? s.toList with
          | some x => .ok (.float x)
          | none => fail "float_parsing"
      | none => fail "float_type"

/-- The words for a truth value. -/
def boolOfText? (s : String) : Option Bool :=
  let word := String.ofList (s.toList.map Text.lowerAscii)
  if ["1", "on", "t", "true", "y", "yes"].contains word then some true
  else if ["0", "off", "f", "false", "n", "no"].contains word then some false
  else none

/-- The truth value that a whole number names. -/
def boolOfWhole (n : Int) : Except Errors Value :=
  if n = 0 then .ok (.bool false)
  else if n = 1 then .ok (.bool true)
  else fail "bool_parsing"

/-- A truth value, or a value that names one. -/
def toBool (v : Value) : Except Errors Value :=
  match v with
  | .bool b => .ok (.bool b)
  | .int n => boolOfWhole n
  | _ =>
      match writtenIn? v, wholeness? v with
      | some text, _ =>
          match text.bind boolOfText? with
          | some b => .ok (.bool b)
          | none => fail "bool_parsing"
      | none, some (.whole n) => boolOfWhole n
      | none, _ => fail "bool_type"

/-- The elements of a value that can stand for a list. -/
def listItems? (v : Value) : Option (List Value) :=
  match v with
  | .bytes _ _ => none
  | .iterator _ items => some items
  | _ => v.collection?

/-- Coerces each element, and collects the errors of all. -/
def eachItem (coerce : Value → Except Errors Value) (index : Nat) :
    List Value → List Value × Errors
  | [] => ([], [])
  | v :: rest =>
      let (items, errors) := eachItem coerce (index + 1) rest
      match coerce v with
      | .ok w => (w :: items, errors)
      | .error found => (items, locate (.inr index) found ++ errors)

/-- A list whose elements are coerced. -/
def toList (coerce : Value → Except Errors Value) (v : Value) :
    Except Errors Value :=
  match listItems? v with
  | none => fail "list_type"
  | some items =>
      let (items, errors) := eachItem coerce 0 items
      if errors.isEmpty then .ok (.list items) else .error errors

/-- A key of a mapping as a step of a location. -/
def keyStep (key : Value) : String ⊕ Nat :=
  match key with
  | .int n => if n < 0 then .inl (toString n) else .inr n.toNat
  | _ => .inl ((key.text?).getD "")

/-- Coerces keys and values, and collects the errors of all. -/
def eachEntry (coerceKey coerceValue : Value → Except Errors Value) :
    List (Value × Value) → List (Value × Value) × Errors
  | [] => ([], [])
  | (key, value) :: rest =>
      let (entries, errors) := eachEntry coerceKey coerceValue rest
      match coerceKey key, coerceValue value with
      | .ok k, .ok w => ((k, w) :: entries, errors)
      | .error found, .ok _ =>
          (entries,
            locate (keyStep key) (locate (.inl "[key]") found) ++ errors)
      | .ok _, .error found => (entries, locate (keyStep key) found ++ errors)
      | .error found, .error more =>
          (entries, locate (keyStep key) (locate (.inl "[key]") found)
            ++ locate (keyStep key) more ++ errors)

/-- A mapping whose keys and values are coerced. -/
def toMapping (coerceKey coerceValue : Value → Except Errors Value)
    (v : Value) : Except Errors Value :=
  match v.entries? with
  | none => fail "dict_type"
  | some entries =>
      let (entries, errors) := eachEntry coerceKey coerceValue entries
      if errors.isEmpty then
        .ok (.mapping .plain (Value.distinctEntries entries))
      else .error errors

/-- Does the value belong to the type as it is? -/
def isExact (type : Shape) (v : Value) : Bool :=
  match type, v with
  | .noneType, .none => true
  | .builtin .text, .text _ => true
  | .builtin .int, .int _ => true
  | .builtin .float, .float _ => true
  | .builtin .bool, .bool _ => true
  | .builtin .bytes, .bytes false _ => true
  | .builtin .complex, .complex .. => true
  | .builtin .decimal, .decimal _ => true
  | .builtin .date, .date _ => true
  | .builtin .moment, .moment _ => true
  | .builtin .clock, .clock _ => true
  | .builtin .duration, .duration _ => true
  | .builtin .list, .sequence .list _ => true
  | .list _, .sequence .list _ => true
  | .builtin .mapping, .mapping .plain _ => true
  | .mapOf .., .mapping .plain _ => true
  | _, _ => false

/-- The cause of a value that does not belong to a type. -/
def typeCause : Shape → String
  | .builtin .bytes => "bytes_type"
  | .builtin .complex => "complex_type"
  | .builtin .decimal => "decimal_type"
  | .builtin .date => "date_type"
  | .builtin .moment => "datetime_type"
  | .builtin .clock => "time_type"
  | .builtin .duration => "time_delta_type"
  | .noneType => "none_required"
  | s =>
      match s.form? with
      | some .data => "dataclass_type"
      | some .model => "model_type"
      | some .keyed => "dict_type"
      | _ => "is_instance_of"

/-- The name of a member of a union in the location of its errors. -/
def memberName : Shape → String
  | .list item => "list[" ++ memberName item ++ "]"
  | .mapOf key value =>
      "dict[" ++ memberName key ++ "," ++ memberName value ++ "]"
  | .any => "any"
  | .noneType => "none"
  | s => (s.label?).getD ""

/-- What a member of a union makes of a value. -/
structure Attempt where
  member : String
  exact : Bool
  result : Except Errors Value

/-- The result of the first member that accepts the value, or the
errors of all. -/
def firstAccepted : List Attempt → Except Errors Value
  | [] => .error []
  | attempt :: rest =>
      match attempt.result with
      | .ok v => .ok v
      | .error found =>
          match firstAccepted rest with
          | .ok v => .ok v
          | .error more => .error (locate (.inl attempt.member) found ++ more)

/-- The result of the best member: one that the value belongs to exactly
comes first. -/
def bestAccepted (attempts : List Attempt) : Except Errors Value :=
  match firstAccepted (attempts.filter Attempt.exact) with
  | .ok v => .ok v
  | .error _ => firstAccepted attempts

mutual

/-- Coerces a value to a type. -/
def coerce (type : Shape) (v : Value) : Except Errors Value :=
  match type with
  | .any => .ok v
  | .builtin .object => .ok v
  | .builtin .text => toText v
  | .builtin .int => toInt v
  | .builtin .float => toFloat v
  | .builtin .bool => toBool v
  | .builtin .list => toList .ok v
  | .builtin .mapping => toMapping .ok .ok v
  | .list item => toList (coerce item) v
  | .mapOf key value => toMapping (coerce key) (coerce value) v
  | .annotated inside => coerce inside v
  | .union _ ms =>
      if v.isNone && ms.any Shape.isNoneType then .ok v
      else if (ms.filter fun m => !m.isNoneType).length = 1 then coerceOnly ms v
      else bestAccepted (coerceMembers ms v)
  | .constant _ => .ok v
  | .mapping _ => .ok v
  | _ => if isExact type v then .ok v else fail (typeCause type)
termination_by structural type

/-- Coerces to the one member that is not the missing value. -/
def coerceOnly (ms : List Shape) (v : Value) : Except Errors Value :=
  match ms with
  | [] => .ok v
  | m :: rest => if m.isNoneType then coerceOnly rest v else coerce m v
termination_by structural ms

/-- What all members but the missing value make of a value. -/
def coerceMembers (ms : List Shape) (v : Value) : List Attempt :=
  match ms with
  | [] => []
  | m :: rest =>
      if m.isNoneType then coerceMembers rest v
      else ⟨memberName m, isExact m v, coerce m v⟩ :: coerceMembers rest v
termination_by structural ms

end

end Coercion
end RecordFilter
