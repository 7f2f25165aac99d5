import RecordFilter.Shape.Expression
import RecordFilter.Value.Elements

/-!
# Shapes

A shape tells which fields a record has and of what types they are.  Shapes and
types are one notion: the type of a field is the shape of the value in it.

**Unions** are flat and have at least two different members.
-/

namespace RecordFilter

/-- The types that need no declaration. -/
inductive Builtin where
  | text | int | float | bool | bytes | complex | decimal | date | moment
  | clock | duration | list | mapping | object
  deriving DecidableEq

/-- The ways to declare a class with typed fields. -/
inductive RecordForm where
  /-- Declared fields with defaults and an initialiser. -/
  | data
  /-- A validating model. -/
  | model
  /-- A mapping with fixed keys. -/
  | keyed
  /-- A tuple with named fields. -/
  | positional
  /-- A class with annotated attributes. -/
  | plain
  deriving DecidableEq

/-- A type of a field, or the shape of a record. -/
inductive Shape where
  /-- No shape is given. -/
  | absent
  /-- Any value. -/
  | any
  | builtin (b : Builtin)
  /-- The type of the missing value. -/
  | noneType
  /-- One of several types; `bar` tells the spelling with a vertical bar. -/
  | union (bar : Bool) (members : List Shape)
  | list (item : Shape)
  | mapOf (key value : Shape)
  /-- Any other class with arguments. -/
  | applied (name : String) (args : List Shape)
  /-- A type with a remark. -/
  | annotated (type : Shape)
  /-- A type given by a text. -/
  | forward (text : String)
  /-- A type given by a text, inside another type. -/
  | reference (text : String)
  /-- A class with the class that it extends, if any, and the fields that it
  declares. -/
  | record (form : RecordForm) (name : String) (base : Shape)
      (own : List (String × Shape))
  /-- A mapping from names to types. -/
  | mapping (fields : List (Value × Shape))
  /-- A class that needs no declaration and has no known fields. -/
  | known (name : String)
  /-- Any other value in the place of a type; a collection names fields. -/
  | constant (v : Value)
  /-- Something of which only one thing is known, in the place of a type. -/
  | unknown (isHashable : Bool)

namespace Builtin

/-- The name of the type. -/
def label : Builtin → String
  | .text => "str"
  | .int => "int"
  | .float => "float"
  | .bool => "bool"
  | .bytes => "bytes"
  | .complex => "complex"
  | .decimal => "Decimal"
  | .date => "date"
  | .moment => "datetime"
  | .clock => "time"
  | .duration => "timedelta"
  | .list => "list"
  | .mapping => "dict"
  | .object => "object"

/-- All types that need no declaration. -/
def all : List Builtin :=
  [.text, .int, .float, .bool, .bytes, .complex, .decimal, .date, .moment,
    .clock, .duration, .list, .mapping, .object]

theorem mem_all
    (b : Builtin) :
    b ∈ all := by
  cases b <;> simp [all]

/-- Is a value of the type a single datum, without fields? -/
def isScalar : Builtin → Bool
  | .list | .mapping | .object => false
  | _ => true

end Builtin

/-- The fields of a shape, in order, with their types. -/
abbrev Fields := List (Value × Shape)

namespace Fields

/-- The type of the field under a name. -/
def find? (name : String) (fields : Fields) : Option Shape :=
  (List.find? (fun entry => entry.1.text? = some name) fields).map (·.2)

@[simp] theorem find?_nil
    (name : String) :
    find? name [] = none := by
  rfl

theorem find?_cons
    (name : String)
    (field : Value × Shape)
    (rest : Fields) :
    find? name (field :: rest) =
      if field.1.text? = some name then some field.2 else find? name rest := by
  by_cases h : field.1.text? = some name <;> simp [find?, h]

/-- The names, provided that all of them are texts. -/
def names? (fields : Fields) : Option (List String) :=
  fields.mapM fun entry => entry.1.text?

end Fields

namespace Shape

/-- The name of the class that a value stands for. -/
def ofClass : ClassName → Shape
  | .mapping => .builtin .mapping
  | .whole => .builtin .int
  | .text => .builtin .text

mutual

/-- The shape that a value stands for. -/
def ofValue (v : Value) : Shape :=
  match v with
  | .none => .absent
  | .text s => .forward s
  | .classRef c => ofClass c
  | .mapping _ entries => .mapping (ofEntries entries)
  | _ => .constant v
termination_by structural v

/-- The shapes of the values of a mapping. -/
def ofEntries (entries : List (Value × Value)) : List (Value × Shape) :=
  match entries with
  | [] => []
  | (key, value) :: rest => (key, ofValue value) :: ofEntries rest
termination_by structural entries

end

/-- Can the shape be an element of a set? -/
def hashable : Shape → Bool
  | .union _ members => allHashable members
  | .list item => hashable item
  | .mapOf key value => hashable key && hashable value
  | .applied _ args => allHashable args
  | .annotated type => hashable type
  | .mapping _ => false
  | .constant v => v.hashable
  | .unknown isHashable => isHashable
  | _ => true
where
  /-- Are all shapes of a list hashable? -/
  allHashable : List Shape → Bool
    | [] => true
    | s :: rest => hashable s && allHashable rest

mutual

/-- Do two shapes denote the same type?  Every declared class is a type
of its own. -/
def same (s t : Shape) : Bool :=
  match s with
  | .absent => match t with | .absent => true | _ => false
  | .any => match t with | .any => true | _ => false
  | .noneType => match t with | .noneType => true | _ => false
  | .builtin b => match t with | .builtin c => b = c | _ => false
  | .union _ members =>
      match t with
      | .union _ members' =>
          members.length = members'.length && allSame members members'
      | _ => false
  | .list item => match t with | .list item' => same item item' | _ => false
  | .mapOf key value =>
      match t with
      | .mapOf key' value' => same key key' && same value value'
      | _ => false
  | .applied name args =>
      match t with
      | .applied name' args' => name = name' && sameInOrder args args'
      | _ => false
  | .annotated type =>
      match t with | .annotated type' => same type type' | _ => false
  | .forward text => match t with | .forward text' => text = text' | _ => false
  | .reference text =>
      match t with | .reference text' => text = text' | _ => false
  | .record .. => false
  | .known name => match t with | .known name' => name = name' | _ => false
  | .mapping _ => false
  | .constant v =>
      match t with
      | .constant w => (v.eq w).toOption = some true
      | _ => false
  | .unknown _ => false
termination_by structural s

/-- Is each shape the same type as one of the others? -/
def allSame (ss ts : List Shape) : Bool :=
  match ss with
  | [] => true
  | s :: rest => ts.any (same s) && allSame rest ts
termination_by structural ss

/-- Are the shapes the same types, one by one? -/
def sameInOrder (ss ts : List Shape) : Bool :=
  match ss with
  | [] => ts.isEmpty
  | s :: rest =>
      match ts with
      | [] => false
      | t :: rest' => same s t && sameInOrder rest rest'
termination_by structural ss

end

/-- The members of a union, or the type alone. -/
def members : Shape → List Shape
  | .union _ ms => ms
  | s => [s]

/-- A text inside another type is a reference; no type means the
missing value. -/
def inner : Shape → Shape
  | .forward text => .reference text
  | .absent => .noneType
  | s => s

/-- The types without repetitions, in the order of their first occurrences. -/
def distinctMembers (ms : List Shape) : List Shape :=
  ms.foldl (fun seen m => if seen.any (same m ·) then seen else seen ++ [m]) []

/-- The union of types: nested unions are spread out, a single member
stands alone. -/
def unionOf (bar : Bool) (types : List Shape) : Shape :=
  match distinctMembers (types.flatMap fun t => t.inner.members) with
  | [m] => m
  | ms => .union bar ms

/-- The type or the missing value. -/
def optional (type : Shape) : Shape := unionOf false [type, .noneType]

/-- A shape in the place of a type; a text has to be an expression, and a tuple
is no type. -/
def asType (s : Shape) : Except Failure Shape :=
  match s with
  | .forward text => do
      let _ ← Expression.ofText text
      return s.inner
  | .constant (.sequence .tuple _) => .error .notAType
  | .constant v =>
      match v.text? with
      | some text => do
          let _ ← Expression.ofText text
          return .reference text
      | none => .ok s
  | _ => .ok s.inner

/-- Texts among arguments have to be expressions. -/
def checkTexts (args : List Shape) : Except Failure Unit :=
  args.forM fun arg =>
    match arg with
    | .forward text => do
        let _ ← Expression.ofText text
        return ()
    | _ => .ok ()

/-- Is the shape a type in the strict sense, not a value in the place of one? -/
def isType : Shape → Bool
  | .forward _ | .mapping _ | .constant _ | .unknown _ => false
  | _ => true

/-- A union as it is declared: there is a member, and all of them are
hashable. -/
def union? (types : List Shape) : Except Failure Shape := do
  let types ← types.mapM asType
  if types.isEmpty then throw .notAType
  else if types.all hashable then return unionOf false types
  else throw .unhashable

/-- Is the type built by a declaration of its own, which takes any
member beside it? -/
def isComposed : Shape → Bool
  | .union false _ | .annotated _ | .reference _ => true
  | _ => false

/-- The whole number whose binary digits are ones in one of two others. -/
def bitsOr : Int → Int → Int
  | .ofNat m, .ofNat n => .ofNat (Nat.lor m n)
  | .ofNat m, .negSucc n => .negSucc (n - Nat.land m n)
  | .negSucc m, .ofNat n => .negSucc (m - Nat.land m n)
  | .negSucc m, .negSucc n => .negSucc (Nat.land m n)

/-- Two values with a vertical bar between them: numbers and sets
have one, too. -/
def barValue? (v w : Value) : Except Failure Value :=
  match v, w with
  | .bool b, .bool c => .ok (.bool (b || c))
  | .set frozen items, .set _ items' =>
      .ok (.set frozen (Value.distinct (items ++ items')))
  | _, _ =>
      match v.whole?, w.whole? with
      | some m, some n => .ok (.int (bitsOr m n))
      | _, _ => .error .badOperand

/-- Two types with a vertical bar between them; two missing types have none. -/
def bar? (s t : Shape) : Except Failure Shape :=
  if s.isComposed || t.isComposed then union? [s, t]
  else
    match s, t with
    | .absent, .absent => .error .badOperand
    | .constant v, .constant w => (barValue? v w).map .constant
    | .mapping fields, .mapping fields' =>
        .ok (.mapping (Value.distinctEntries (fields ++ fields')))
    | _, _ =>
        if s.isType && t.isType then .ok (unionOf true [s, t])
        else .error .notAType

/-- A union declared with vertical bars, from left to right. -/
def barUnion? : List Shape → Except Failure Shape
  | [] => .error .notAType
  | s :: rest => rest.foldlM bar? s

/-- A type with a remark as it is declared; remarks are not nested, and values
take none. -/
def annotated? (type : Shape) : Except Failure Shape := do
  match ← type.asType with
  | .annotated inside => return .annotated inside
  | .mapping _ | .constant _ => throw .missingAttribute
  | other => return .annotated other

/-- A mapping from names to types; names have to be hashable. -/
def mapping? (fields : List (Value × Shape)) : Except Failure Shape :=
  if fields.all fun entry =>
    entry.1.hashable then .ok (.mapping (Value.distinctEntries fields))
  else .error .unhashable

/-- Is this the type of the missing value? -/
def isNoneType : Shape → Bool
  | .noneType => true
  | _ => false

/-- A union of one type with the missing value is stripped to that type. -/
def unwrapOptional (s : Shape) : Shape :=
  match s with
  | .union _ ms =>
      match ms.filter fun m => !m.isNoneType with
      | [m] => m
      | _ => s
  | _ => s

/-- The form of a class: that of the class it extends, unless that one
is plainer. -/
def form? : Shape → Option RecordForm
  | .record form _ base _ =>
      match form? base with
      | some .model => some .model
      | some .keyed => some .keyed
      | some .data => some .data
      | _ => some form
  | _ => none

/-- The name of a shape, if it has one. -/
def label? : Shape → Option String
  | .any => some "Any"
  | .builtin b => some b.label
  | .noneType => some "NoneType"
  | .union false ms =>
      some (if ms.length = 2 && ms.any isNoneType then "Optional" else "Union")
  | .list _ => some "list"
  | .mapOf .. => some "dict"
  | .applied name _ => some name
  | .annotated _ => some "Annotated"
  | .record _ name _ _ => some name
  | .known name => some name
  | _ => none

/-- The name of a single datum's type. -/
def scalar? : Shape → Option String
  | .builtin b => if b.isScalar then some b.label else none
  | _ => none

end Shape
end RecordFilter
