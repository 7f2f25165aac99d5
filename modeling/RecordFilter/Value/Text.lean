import RecordFilter.Failure
import RecordFilter.Text.Quoted
import RecordFilter.Number.Shortest

/-!
# Texts of values

**Two texts.**  `Value.expression` shows a value as an expression would write
it, with quoted texts; it is used for the elements of collections.
`Value.plainText` is the plain text of a value: texts stand for themselves,
moments are written in ISO form, and everything else is shown as an expression.

**Limit.**  A whole number of more than 4300 digits has no text.
-/

namespace RecordFilter
namespace Value

/-- The most digits of a whole number that is written. -/
def maxDigits : Nat := 4300

/-- The digits of a whole number, unless there are too many. -/
def intText (n : Int) : Except Failure String :=
  if n.natAbs < Nat.pow 10 maxDigits then .ok (toString n)
  else .error .oversizedInteger

/-- A quotient as its two numbers; a whole one as its numerator. -/
def ratText (r : Rat) : Except Failure String := do
  let num ← intText r.num
  if r.den = 1 then return num
  return num ++ "/" ++ (← intText r.den)

/-- Texts between brackets, separated by a comma and a blank. -/
def bracketed (opening closing : String) (items : List String) : String :=
  opening ++ listed items ++ closing

end Value

/-- The name of a class. -/
def ClassName.label : ClassName → String
  | .mapping => "dict"
  | .whole => "int"
  | .text => "str"

namespace Value

mutual

/-- The value as an expression. -/
def expression (v : Value) : Except Failure String :=
  match v with
  | .none => .ok "None"
  | .bool b => .ok (if b then "True" else "False")
  | .int n => intText n
  | .float x => .ok x.text
  | .decimal d => .ok ("Decimal('" ++ d.text ++ "')")
  | .fraction r => do
      return bracketed "Fraction(" ")" [← intText r.num, ← intText r.den]
  | .complex re im => .ok (Double.complexText re im)
  | .text s => .ok (Name.text s).expression
  | .kind k => .ok (Name.kind k).expression
  | .operator op => .ok (Name.operator op).expression
  | .bytes isMutable data =>
      let quoted := Text.quotedBytes isMutable data
      .ok (if isMutable then "bytearray(" ++ quoted ++ ")" else quoted)
  | .date d => .ok d.expression
  | .clock t => .ok t.expression
  | .moment m => .ok m.expression
  | .duration d => .ok d.expression
  | .sequence .list items => do return bracketed "[" "]" (← expressions items)
  | .sequence .queue items => do
      return bracketed "deque([" "])" (← expressions items)
  | .sequence .tuple items => do
      return bracketed "(" (if items.length = 1 then ",)" else ")")
        (← expressions items)
  | .set frozen items => do
      let shown ← expressions items
      if items.isEmpty then return (if frozen then "frozenset()" else "set()")
      else if frozen then return bracketed "frozenset(\x7b" "\x7d)" shown
      else return bracketed "\x7b" "\x7d" shown
  | .range start stop step => do
      let ends := [← intText start, ← intText stop]
      let stride ← intText step
      return bracketed "range(" ")"
        (if step = 1 then ends else ends ++ [stride])
  | .iterator .. => .ok "<list_iterator>"
  | .mapping .plain entries => do
      return bracketed "\x7b" "\x7d" (← entryExpressions ": " entries)
  | .mapping .proxy entries => do
      return bracketed "mappingproxy(\x7b" "\x7d)"
        (← entryExpressions ": " entries)
  | .mapping .ordered entries => do
      if entries.isEmpty then return "OrderedDict()"
      let pairs ← entryExpressions ", " entries
      return bracketed "OrderedDict([" "])"
        (pairs.map fun pair => "(" ++ pair ++ ")")
  | .keys items => do return bracketed "dict_keys([" "])" (← expressions items)
  | .values _ items => do
      return bracketed "dict_values([" "])" (← expressions items)
  | .object .. => .ok "<Obj>"
  | .bare _ => .ok "<object>"
  | .foreignNumber .. => .ok "<Real>"
  | .classRef c => .ok ("<class '" ++ c.label ++ "'>")
  | .model _ fields => do
      return bracketed "Model(" ")" (← fieldExpressions fields)
  | .comparison k field ignoreCase => do
      return bracketed "PrimitiveFilter(" ")" ["kind=" ++ (← expression k),
        "field=" ++ (← expression field),
        "case_insensitive=" ++ (← expression ignoreCase)]
  | .group k conditions => do
      let shown ← expressions conditions
      return bracketed "BooleanFilter(" ")" ["kind=" ++ (← expression k),
        "conditions=" ++
          bracketed "(" (if conditions.length = 1 then ",)" else ")") shown]
  | .callback .. => .ok "<function>"
termination_by structural v

/-- The expressions of the elements of a list. -/
def expressions (vs : List Value) : Except Failure (List String) :=
  match vs with
  | [] => .ok []
  | v :: rest => do return (← expression v) :: (← expressions rest)
termination_by structural vs

/-- The expressions of entries, keys and values joined by `mark`. -/
def entryExpressions (mark : String) (entries : List (Value × Value)) :
    Except Failure (List String) :=
  match entries with
  | [] => .ok []
  | (key, value) :: rest => do
      return ((← expression key) ++ mark ++ (← expression value))
        :: (← entryExpressions mark rest)
termination_by structural entries

/-- The expressions of the fields of a model, with their names. -/
def fieldExpressions (fields : List (String × Option String × Value)) :
    Except Failure (List String) :=
  match fields with
  | [] => .ok []
  | (name, _, value) :: rest => do
      return (name ++ "=" ++ (← expression value)) :: (← fieldExpressions rest)
termination_by structural fields

end

/-- The plain text of a value. -/
def plainText (v : Value) : Except Failure String :=
  match v with
  | .decimal d => .ok d.text
  | .fraction r => ratText r
  | .text s => .ok s
  | .kind k => .ok (Name.kind k).shown
  | .operator op => .ok (Name.operator op).shown
  | .date d => .ok d.text
  | .clock t => .ok t.text
  | .moment m => .ok m.text
  | .duration d => .ok d.text
  | .mapping .proxy entries => expression (.mapping .plain entries)
  | .model _ fields => do return " ".intercalate (← fieldExpressions fields)
  | _ => expression v

/-- Values as one message: a single one as its text, several as a tuple. -/
def message : List Value → Except Failure String
  | [] => .ok ""
  | [v] => v.plainText
  | vs => (tuple vs).plainText

end Value
end RecordFilter
