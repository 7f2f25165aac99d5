import RecordFilter.Calendar.Moment
import RecordFilter.Name
import RecordFilter.Number.Mixed

/-!
# Values

Records, filter definitions and filter inputs are made of dynamic values:
numbers of several kinds, texts, moments, collections, mappings, objects with
attributes, filters and callbacks.

**Identity.**  Values without a content of their own (plain objects, iterators,
callbacks, ...) carry an identity and are equal only to themselves.

**Order.**  Mappings list their entries in insertion order, without repeated
keys; sets list their elements in iteration order.
-/

namespace RecordFilter

/-- The forms of a sequence. -/
inductive SequenceForm where
  | list | tuple | queue
  deriving DecidableEq

/-- The forms of a mapping: ordinary, with a significant order, or a
read-only view. -/
inductive MappingForm where
  | plain | ordered | proxy
  deriving DecidableEq

/-- How a number of a foreign kind fails to become a double. -/
inductive ConversionFailure where
  | overflow | badValue | badType
  deriving DecidableEq

/-- The classes that can stand as values. -/
inductive ClassName where
  | mapping | whole | text
  deriving DecidableEq

/-- A dynamic value. -/
inductive Value where
  | none
  | bool (b : Bool)
  | int (n : Int)
  | float (x : Double)
  | decimal (d : Decimal)
  | fraction (r : Rat)
  | complex (re im : Double)
  | text (s : String)
  | kind (k : Kind)
  | operator (op : Operator)
  | bytes (isMutable : Bool) (data : List UInt8)
  | date (d : Date)
  | clock (t : ClockTime)
  | moment (m : Moment)
  | duration (d : Duration)
  | sequence (form : SequenceForm) (items : List Value)
  | set (frozen : Bool) (items : List Value)
  | range (start stop step : Int)
  | iterator (id : Nat) (items : List Value)
  | mapping (form : MappingForm) (entries : List (Value × Value))
  | keys (items : List Value)
  | values (id : Nat) (items : List Value)
  | object (id : Nat) (attributes : List (String × Value))
  | bare (id : Nat)
  | foreignNumber (id : Nat) (failure : ConversionFailure) (positive : Bool)
  | classRef (c : ClassName)
  | model (id : Nat) (fields : List (String × Option String × Value))
  | comparison (kind field ignoreCase : Value)
  | group (kind : Value) (conditions : List Value)
  | callback (id : Nat) (name : String) (arguments : List (String × Value))

/-- A callable taken from a definition. -/
structure Callback where
  id : Nat
  name : String
  arguments : List (String × Value)

namespace Value

/-- A list of values. -/
abbrev list (items : List Value) : Value := .sequence .list items

/-- A tuple of values. -/
abbrev tuple (items : List Value) : Value := .sequence .tuple items

/-- An ordinary mapping from texts. -/
def ofFields (fields : List (String × Value)) : Value :=
  .mapping .plain (fields.map fun f => (.text f.1, f.2))

/-- A list of texts. -/
def ofTexts (texts : List String) : Value := .list (texts.map .text)

/-- The missing value for nothing, a text otherwise. -/
def ofText? : Option String → Value
  | some s => .text s
  | Option.none => .none

/-- The value as a callable. -/
def callback? : Value → Option Callback
  | .callback id name arguments => some ⟨id, name, arguments⟩
  | _ => Option.none

/-- The value as a name: a text or a member of an enumeration of texts. -/
def name? : Value → Option Name
  | .text s => some (.text s)
  | .kind k => some (.kind k)
  | .operator op => some (.operator op)
  | _ => Option.none

/-- The content of a text or of a member of an enumeration of texts. -/
def text? (v : Value) : Option String := v.name?.map Name.content

@[simp] theorem text?_text
    (s : String) :
    (Value.text s).text? = some s := by
  rfl

/-- The numeric content of a value; truth values count as zero and one. -/
def number? : Value → Option Number
  | .bool b => some (.real (.rational (if b then 1 else 0)))
  | .int n => some (.real (.rational n))
  | .float x => some (.real (.double x))
  | .decimal d => some (.real (.decimal d))
  | .fraction r => some (.real (.rational r))
  | .complex re im => some (.complex re im)
  | _ => Option.none

/-- Is the value a truth value? -/
def isBool : Value → Bool
  | .bool _ => true
  | _ => false

/-- Is the value missing? -/
def isNone : Value → Bool
  | .none => true
  | _ => false

/-- The entries of a mapping of any form. -/
def entries? : Value → Option (List (Value × Value))
  | .mapping _ entries => some entries
  | _ => Option.none

/-- The kind that a value declares: a kind itself, or its text. -/
def kind? (v : Value) : Option Kind :=
  match v with
  | .kind k => some k
  | _ => v.text?.bind Kind.ofText?

/-- A kind given by its text becomes the kind; anything else stays. -/
def coerceKind (v : Value) : Value :=
  match v.kind? with
  | some k => .kind k
  | Option.none => v

/-- How many numbers a range has. -/
def rangeLength (start stop step : Int) : Nat :=
  if step > 0 then ((stop - start + step - 1).fdiv step).toNat
  else if step < 0 then ((start - stop - step - 1).fdiv (-step)).toNat
  else 0

/-- The numbers of a range. -/
def rangeItems (start stop step : Int) : List Value :=
  (List.range (rangeLength start stop step)).map fun i : Nat =>
    .int (start + i * step)

/-- The name of the type of a value. -/
def typeName : Value → String
  | .none => "NoneType"
  | .bool _ => "bool"
  | .int _ => "int"
  | .float _ => "float"
  | .decimal _ => "Decimal"
  | .fraction _ => "Fraction"
  | .complex .. => "complex"
  | .text _ => "str"
  | .kind _ => "FilterKind"
  | .operator _ => "FilterOperator"
  | .bytes isMutable _ => if isMutable then "bytearray" else "bytes"
  | .date _ => "date"
  | .clock _ => "time"
  | .moment _ => "datetime"
  | .duration _ => "timedelta"
  | .sequence .list _ => "list"
  | .sequence .tuple _ => "tuple"
  | .sequence .queue _ => "deque"
  | .set frozen _ => if frozen then "frozenset" else "set"
  | .range .. => "range"
  | .iterator .. => "list_iterator"
  | .mapping .plain _ => "dict"
  | .mapping .ordered _ => "OrderedDict"
  | .mapping .proxy _ => "mappingproxy"
  | .keys _ => "dict_keys"
  | .values .. => "dict_values"
  | .object .. => "Obj"
  | .bare _ => "object"
  | .foreignNumber .. => "Real"
  | .classRef _ => "type"
  | .model .. => "Model"
  | .comparison .. => "PrimitiveFilter"
  | .group .. => "BooleanFilter"
  | .callback .. => "function"

/-- The truth of a value: empty, zero and missing values are false. -/
def truth (v : Value) : Bool :=
  match v with
  | .none => false
  | .text s => s ≠ ""
  | .bytes _ data => !data.isEmpty
  | .duration d => d.micros ≠ 0
  | .sequence _ items => !items.isEmpty
  | .set _ items => !items.isEmpty
  | .range start stop step => rangeLength start stop step ≠ 0
  | .mapping _ entries => !entries.isEmpty
  | .keys items => !items.isEmpty
  | .values _ items => !items.isEmpty
  | _ =>
      match v.number? with
      | some n => !n.isZero
      | Option.none => true

mutual

/-- Can the value be a key of a mapping or an element of a set? -/
def hashable : Value → Bool
  | .decimal d => !d.isSignaling
  | .bytes isMutable _ => !isMutable
  | .sequence form items => form = .tuple && allHashable items
  | .set frozen _ => frozen
  | .mapping .. => false
  | .keys _ => false
  | .foreignNumber .. => false
  | .model .. => false
  | .comparison k field ignoreCase =>
      hashable k && hashable field && hashable ignoreCase
  | .group k conditions => hashable k && allHashable conditions
  | _ => true
termination_by structural v => v

/-- Are all values of a list hashable? -/
def allHashable : List Value → Bool
  | [] => true
  | v :: rest => hashable v && allHashable rest
termination_by structural vs => vs

end

theorem hashable_of_text?
    {v : Value}
    {text : String}
    (h : v.text? = some text) :
    v.hashable := by
  cases v with
  | text | kind | operator => rfl
  | _ => cases h

end Value
end RecordFilter
