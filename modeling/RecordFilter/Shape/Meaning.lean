import RecordFilter.Shape.Basic

/-!
# Meanings of expressions

An expression for a type has a meaning, given what its names mean.

**Names** of the types and classes that need no declaration are known
everywhere.  What an owner of the expression defines comes first.

**Operations.**  Types are applied to arguments and joined by bars; a condition
chooses between types, and so do `and` and `or`.  Numbers can be added,
subtracted, multiplied and compared; no other value takes part in arithmetic.

**Calls** have results of which nothing is known.

**Limits.**  No attributes are known, so an expression that asks for one
fails, even where the type has such an attribute.  A tuple has a meaning only
where its items are looked at: as the arguments of a type, or with a position
behind it; anywhere else it is no type, also where it is one of several
arguments.  Of divisions, powers and shifts of numbers nothing is known, not
even that they fail.
-/

namespace RecordFilter

/-- What the names in an expression mean. -/
abbrev Meanings := String → Option Shape

namespace Shape

/-- The types that a text can name without any declaration. -/
def namedTypes : List Builtin :=
  [.text, .int, .float, .bool, .bytes, .complex, .list, .mapping, .object]

/-- The classes that a text can name without any declaration,
besides the types. -/
def namedClasses : List String :=
  ["tuple", "set", "frozenset", "bytearray", "type", "range", "slice",
    "memoryview", "classmethod", "enumerate", "filter", "map", "property",
    "reversed", "staticmethod", "super", "zip", "ArithmeticError",
    "AssertionError", "AttributeError", "BaseException", "BaseExceptionGroup",
    "BlockingIOError", "BrokenPipeError", "BufferError", "BytesWarning",
    "ChildProcessError", "ConnectionAbortedError", "ConnectionError",
    "ConnectionRefusedError", "ConnectionResetError", "DeprecationWarning",
    "EOFError", "EncodingWarning", "Exception", "ExceptionGroup",
    "FileExistsError", "FileNotFoundError", "FloatingPointError",
    "FutureWarning", "GeneratorExit", "ImportError", "ImportWarning",
    "IndentationError", "IndexError", "InterruptedError", "IsADirectoryError",
    "KeyError", "KeyboardInterrupt", "LookupError", "MemoryError",
    "ModuleNotFoundError", "NameError", "NotADirectoryError",
    "NotImplementedError", "OSError", "OverflowError",
    "PendingDeprecationWarning", "PermissionError", "ProcessLookupError",
    "RecursionError", "ReferenceError", "ResourceWarning", "RuntimeError",
    "RuntimeWarning", "StopAsyncIteration", "StopIteration", "SyntaxError",
    "SyntaxWarning", "SystemError", "SystemExit", "TabError", "TimeoutError",
    "TypeError", "UnboundLocalError", "UnicodeDecodeError",
    "UnicodeEncodeError", "UnicodeError", "UnicodeTranslateError",
    "UnicodeWarning", "UserWarning", "ValueError", "Warning",
    "ZeroDivisionError"]

/-- The other names of a class. -/
def classNamed (name : String) : String :=
  if ["EnvironmentError", "IOError"].contains name then "OSError" else name

/-- The classes that take arguments. -/
def genericClasses : List String :=
  ["tuple", "set", "frozenset", "type", "enumerate", "BaseExceptionGroup",
    "ExceptionGroup"]

/-- The names of functions and of constants that are no types. -/
def namedValues : List String :=
  ["Ellipsis", "NotImplemented", "abs", "aiter", "all", "anext", "any", "ascii",
    "bin", "breakpoint", "callable", "chr", "compile", "delattr", "dir",
    "divmod", "eval", "exec", "format", "getattr", "globals", "hasattr", "hash",
    "hex", "id", "input", "isinstance", "issubclass", "iter", "len", "locals",
    "max", "min", "next", "oct", "open", "ord", "pow", "print", "repr", "round",
    "setattr", "sorted", "sum", "vars", "copyright", "credits", "exit", "help",
    "license", "quit"]

/-- What a name means everywhere. -/
def ofName? (name : String) : Option Shape :=
  if name = "None" then some .absent
  else if name = "True" then some (.constant (.bool true))
  else if name = "False" then some (.constant (.bool false))
  else
    match namedTypes.find? fun b => b.label = name with
    | some b => some (.builtin b)
    | none =>
        if namedClasses.contains (classNamed name) then
          some (.known (classNamed name))
        else if namedValues.contains name then some (.unknown true)
        else none

/-- A type applied to arguments. -/
def withArguments (s : Shape) (args : List Shape) : Except Failure Shape :=
  match s, args with
  | .builtin .list, [item] => .ok (.list item)
  | .builtin .mapping, [key, value] => .ok (.mapOf key value)
  | .builtin .list, _ => .ok (.applied "list" args)
  | .builtin .mapping, _ => .ok (.applied "dict" args)
  | .known name, _ =>
      if genericClasses.contains name then .ok (.applied name args)
      else .error .notAType
  | _, _ => .error .notAType

/-- The value that a shape stands for. -/
def value? : Shape → Option Value
  | .absent => some .none
  | .forward text => some (.text text)
  | .builtin .mapping => some (.classRef .mapping)
  | .builtin .int => some (.classRef .whole)
  | .builtin .text => some (.classRef .text)
  | .constant v => some v
  | _ => none

/-- The shape for a list of shapes; the values of a list are known only if all
of them are. -/
def ofItems (make : List Value → Except Failure Value) (items : List Shape) :
    Except Failure Shape :=
  match items.mapM value? with
  | some values => (make values).map ofValue
  | none => .ok (.unknown false)

/-- The shapes that a starred shape stands for: its elements, or the arguments
of a class. -/
def spread : Shape → Except Failure (List Shape)
  | .list _ | .mapOf .. | .applied .. => .ok [.unknown true]
  | .mapping fields => .ok (fields.map fun field => ofValue field.1)
  | .forward text =>
      .ok (text.toList.map fun c => .forward (String.singleton c))
  | .constant v =>
      match v.elements? with
      | some items => .ok (items.map ofValue)
      | none => .error .notIterable
  | _ => .error .notIterable

/-- The shape at a position, which counts from the end if it is negative. -/
def atPosition (items : List Shape) (position : Shape) : Except Failure Shape :=
  match position with
  | .constant v =>
      match v.whole? with
      | some n =>
          let index := if n < 0 then n + items.length else n
          match index with
          | .ofNat i => (items[i]?.map Except.ok).getD (.error .badPosition)
          | .negSucc _ => .error .badPosition
      | none => .error .badOperand
  | _ => .error .badOperand

/-- The truth of a shape: that of the value it stands for, and true
for a type. -/
def truth : Shape → Bool
  | .absent => false
  | .forward text => text ≠ ""
  | .mapping fields => !fields.isEmpty
  | .constant v => v.truth
  | _ => true

/-- The number that a shape stands for. -/
def number? : Shape → Option Int
  | .constant v => v.whole?
  | _ => none

/-- A truth value as a shape. -/
def ofBool (b : Bool) : Shape := .constant (.bool b)

/-- An operation on two numbers. -/
def arithmetic? (mark : String) (m n : Int) : Option Shape :=
  match mark with
  | "+" => some (.constant (.int (m + n)))
  | "-" => some (.constant (.int (m - n)))
  | "*" => some (.constant (.int (m * n)))
  | "<" => some (ofBool (m < n))
  | ">" => some (ofBool (m > n))
  | "<=" => some (ofBool (m ≤ n))
  | ">=" => some (ofBool (m ≥ n))
  | _ => none

/-- An operation on two shapes, apart from `and` and `or`. -/
def operate (mark : String) (s t : Shape) : Except Failure Shape :=
  if mark = "|" then s.bar? t
  else if mark = "==" || mark = "is" then .ok (ofBool (s.same t))
  else if mark = "!=" || mark = "is not" then .ok (ofBool (!s.same t))
  else
    match s, t, s.number?, t.number? with
    | .forward text, .forward text', _, _ =>
        if mark = "+" then .ok (.forward (text ++ text'))
        else .error .badOperand
    | _, _, some m, some n => .ok ((arithmetic? mark m n).getD (.unknown true))
    | _, _, _, _ => .error .badOperand

/-- An operation on one shape. -/
def operateAlone (mark : String) (s : Shape) : Except Failure Shape :=
  if mark = "not" then .ok (ofBool !s.truth)
  else
    match s, s.number? with
    | _, some n =>
        if mark = "-" then .ok (.constant (.int (-n)))
        else if mark = "+" then .ok (.constant (.int n))
        else if mark = "~" then .ok (.constant (.int (-n - 1)))
        else .error .badOperand
    | .constant (.float _), none => .ok (.unknown true)
    | _, _ => .error .badOperand

/-- The result of a call. -/
def callResult : Shape → Except Failure Shape
  | .absent | .forward _ | .mapping _ | .constant _ => .error .badOperand
  | _ => .ok (.unknown true)

end Shape

namespace Expression

mutual

/-- The meaning of an expression, if everything in it has one. -/
def meaning (names : Meanings) (e : Expression) : Except Failure Shape :=
  match e with
  | .name s =>
      match (names s).or (Shape.ofName? s) with
      | some shape => .ok shape
      | none => .error .unknownName
  | .literal v => .ok (.ofValue v)
  | .tuple items => do
      let _ ← meanings names items
      throw .notAType
  | .list items => do
      Shape.ofItems (fun vs => .ok (.list vs)) (← meanings names items)
  | .set items => do Shape.ofItems (Value.setOf false) (← meanings names items)
  | .mapping entries => do
      let fields ← entryMeanings names entries
      match fields.mapM fun field =>
          field.1.value?.map fun key => (key, field.2) with
      | some fields => Shape.mapping? fields
      | none => return .unknown false
  | .slice first last => do
      let _ ← meaning names first
      let _ ← meaning names last
      return .unknown true
  | .applied (.tuple items) [position] => do
      Shape.atPosition (← meanings names items) (← meaning names position)
  | .applied (.list items) [position] => do
      Shape.atPosition (← meanings names items) (← meaning names position)
  | .applied e [.tuple items] => do
      (← meaning names e).withArguments (← meanings names items)
  | .applied e args => do
      (← meaning names e).withArguments (← meanings names args)
  | .call e args => do
      let callee ← meaning names e
      let _ ← meanings names args
      callee.callResult
  | .attribute e _ => do
      let _ ← meaning names e
      throw .missingAttribute
  | .unary mark e => do (← meaning names e).operateAlone mark
  | .binary mark left right => do
      let s ← meaning names left
      if mark = "and" && !s.truth || mark = "or" && s.truth then return s
      else
        let t ← meaning names right
        if mark = "and" || mark = "or" then return t else s.operate mark t
  | .choice condition yes no => do
      if (← meaning names condition).truth then meaning names yes
      else meaning names no
termination_by structural e

/-- The meanings of expressions, of which a starred one may have several. -/
def meanings (names : Meanings) (es : List Expression) :
    Except Failure (List Shape) :=
  match es with
  | [] => .ok []
  | .unary "*" e :: rest => do
      return (← (← meaning names e).spread) ++ (← meanings names rest)
  | e :: rest => do return (← meaning names e) :: (← meanings names rest)
termination_by structural es

/-- The meanings of the entries of a mapping. -/
def entryMeanings (names : Meanings)
    (entries : List (Expression × Expression)) :
    Except Failure (List (Shape × Shape)) :=
  match entries with
  | [] => .ok []
  | (key, value) :: rest => do
      let key ← meaning names key
      let value ← meaning names value
      return (key, value) :: (← entryMeanings names rest)
termination_by structural entries

end

end Expression
end RecordFilter
