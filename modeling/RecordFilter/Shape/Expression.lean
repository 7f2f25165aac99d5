import RecordFilter.Failure
import RecordFilter.Number.Reading
import RecordFilter.Text.Identifier

/-!
# Expressions for types

A type can be given by a text, which is an expression: names, literals,
applications to arguments in brackets, and operations, of which the bar between
types is the usual one.

**Text.**  Blanks between the parts do not matter, but none may stand in front;
a number sign starts a remark.  Inside brackets a line may end anywhere,
elsewhere the expression ends with its line.

**Result.**  `Expression.ofText` reads a text; it is an empty text, badly
formed, or has an expression.
-/

namespace RecordFilter

/-- An expression for a type. -/
inductive Expression where
  | name (s : String)
  | literal (v : Value)
  | tuple (items : List Expression)
  | list (items : List Expression)
  | set (items : List Expression)
  | mapping (entries : List (Expression × Expression))
  /-- Two ends with a colon between them, among the arguments of an
  application. -/
  | slice (first last : Expression)
  /-- An expression with arguments in brackets. -/
  | applied (e : Expression) (args : List Expression)
  | call (e : Expression) (args : List Expression)
  | attribute (e : Expression) (name : String)
  | unary (mark : String) (e : Expression)
  | binary (mark : String) (left right : Expression)
  /-- The first expression, if the condition holds, or else the second one. -/
  | choice (condition yes no : Expression)

namespace Expression

/-! ## Parts of a text -/

/-- A part of an expression. -/
inductive Token where
  | name (s : String)
  | literal (v : Value)
  | mark (s : String)

/-- Does the character separate parts within a line? -/
def isGap (c : Char) : Bool := c = ' ' || c = '\t'

/-- Does the character end a line? -/
def endsLine (c : Char) : Bool := c = '\n' || c = '\r'

/-- Does the text consist of blanks and remarks? -/
def isEmptyText (cs : List Char) : Bool :=
  (cs.foldl (fun (remark, empty) c =>
    if endsLine c then (false, empty)
    else if remark then (true, empty)
    else if c = '#' then (true, empty)
    else (false, empty && isGap c)) (false, true)).2

/-- Does the text end in blanks that are not part of a whole line? -/
def endsBlank (cs : List Char) : Bool :=
  let line := cs.reverse.takeWhile fun c => !endsLine c
  !line.isEmpty && line.all isGap

/-- The text without empty lines in front; `fuel` bounds their number. -/
def dropEmptyLines : Nat → List Char → List Char
  | 0, cs => cs
  | fuel + 1, cs =>
      let line := cs.takeWhile fun c => !endsLine c
      match cs.drop line.length with
      | [] => cs
      | _ :: rest => if isEmptyText line then dropEmptyLines fuel rest else cs

/-- The value of a digit in a base. -/
def digitIn? (base : Nat) (c : Char) : Option Nat :=
  let n :=
    if c.isDigit then c.toNat - '0'.toNat
    else if c.isAlpha then c.toLower.toNat - 'a'.toNat + 10
    else base
  if n < base then some n else none

/-- The number that digits in a base stand for. -/
def digitsIn? (base : Nat) (cs : List Char) : Option Nat :=
  if cs.isEmpty then none
  else cs.foldlM (fun n c => (digitIn? base c).map (base * n + ·)) 0

/-- The number that digits in a base stand for, with underscores in front of
some of them. -/
def spacedDigitsIn? (base : Nat) (cs : List Char) : Option Value :=
  if cs.getLast? = some '_' then none
  else (digitsIn? base (cs.filter (· ≠ '_'))).map fun n => .int n

/-- A whole number in digits; zeros in front are allowed for zero alone. -/
def wholeNumber? (cs : List Char) : Option Value := do
  let digits ← Text.dropUnderscores? false cs
  let n ← digitsIn? 10 digits
  if digits.length ≤ 4300 && (n = 0 || digits.head? ≠ some '0') then
    return .int n
  else none

/-- The number that a text stands for. -/
def number? (cs : List Char) : Option Value :=
  match cs.map Text.lowerAscii with
  | '0' :: 'x' :: digits => spacedDigitsIn? 16 digits
  | '0' :: 'o' :: digits => spacedDigitsIn? 8 digits
  | '0' :: 'b' :: digits => spacedDigitsIn? 2 digits
  | lower =>
      if lower.all fun c => c.isDigit || c = '_' then wholeNumber? cs
      else if lower.getLast? = some 'j' then
        (Double.ofText? lower.dropLast).map (.complex .zero ·)
      else (Double.ofText? cs).map .float

/-- Is the character a digit, or an underscore between digits? -/
def isDigitPart (c : Char) : Bool := c.isDigit || c = '_'

/-- Splits off an exponent: digits behind a letter and a sign, if
there is one. -/
def spanExponent (cs : List Char) : List Char × List Char :=
  match cs with
  | c :: rest =>
      let signs := rest.take 1 |>.filter fun d => d = '+' || d = '-'
      let digits := (rest.drop signs.length).takeWhile isDigitPart
      if (c = 'e' || c = 'E') && !digits.isEmpty then
        (c :: (signs ++ digits), rest.drop (signs.length + digits.length))
      else ([], cs)
  | [] => ([], [])

/-- Splits off a number. -/
def spanNumber (cs : List Char) : List Char × List Char :=
  let isPrefixed := match (cs.take 2).map Text.lowerAscii with
    | ['0', c] => ['x', 'o', 'b'].contains c
    | _ => false
  if isPrefixed then cs.span fun c => c.isAlphanum || c = '_'
  else
    let (whole, rest) := cs.span isDigitPart
    let (point, rest) := match rest with
      | '.' :: rest => (['.'], rest)
      | rest => ([], rest)
    let (places, rest) :=
      if point.isEmpty then ([], rest) else rest.span isDigitPart
    let (exponent, rest) := spanExponent rest
    let (unit, rest) := match rest with
      | 'j' :: rest => (['j'], rest)
      | 'J' :: rest => (['j'], rest)
      | rest => ([], rest)
    (whole ++ point ++ places ++ exponent ++ unit, rest)

/-- Can the text follow a number?  A name cannot, but some words can. -/
def canFollowNumber (cs : List Char) : Bool :=
  let word := String.ofList (cs.takeWhile Text.continuesIdentifier)
  ["", "and", "else", "for", "if", "in", "is", "not", "or"].contains word

/-- Splits a text at its closing quotes; a quote behind a backslash does not
close it. -/
def spanQuoted (quotes : List Char) : List Char → Option (List Char × List Char)
  | [] => none
  | '\\' :: c :: rest => do
      let (body, rest) ← spanQuoted quotes rest
      return ('\\' :: c :: body, rest)
  | c :: rest =>
      if quotes.isPrefixOf (c :: rest) then
        some ([], (c :: rest).drop quotes.length)
      else if endsLine c && quotes.length = 1 then none
      else do
        let (body, rest) ← spanQuoted quotes rest
        return (c :: body, rest)

/-- The characters that stand behind a backslash for another one. -/
def escapes : List (Char × Nat) :=
  [('\\', 92), ('\'', 39), ('"', 34), ('a', 7), ('b', 8), ('f', 12), ('n', 10),
    ('r', 13), ('t', 9), ('v', 11)]

/-- How many digits stand behind a backslash and this character for a
code point. -/
def codeWidth? (wide : Bool) : Char → Option Nat
  | 'x' => some 2
  | 'u' => if wide then some 4 else none
  | 'U' => if wide then some 8 else none
  | _ => none

/-- The characters that a quoted text stands for; `fuel` bounds their number. -/
def unescape (wide : Bool) : Nat → List Char → Option (List Char)
  | _, [] => some []
  | fuel + 1, '\\' :: c :: rest =>
      if endsLine c then unescape wide fuel rest
      else
        match escapes.lookup c, codeWidth? wide c with
        | some code, _ => do
            return Char.ofNat code :: (← unescape wide fuel rest)
        | none, some width => do
            if rest.length < width then none
            else
              let code ← digitsIn? 16 (rest.take width)
              return Char.ofNat code :: (← unescape wide fuel (rest.drop width))
        | none, none =>
            let octal :=
              ((c :: rest).take 3).takeWhile fun d => (digitIn? 8 d).isSome
            match digitsIn? 8 octal with
            | some code => do
                return Char.ofNat code ::
                  (← unescape wide fuel ((c :: rest).drop octal.length))
            | none => do return '\\' :: c :: (← unescape wide fuel rest)
  | fuel + 1, c :: rest => do return c :: (← unescape wide fuel rest)
  | 0, _ :: _ => none

/-- The letters in front of a quoted text, in lower case, and the text from its
quote on. -/
def quoteLetters? (cs : List Char) : Option (List Char × List Char) :=
  let letters := (cs.takeWhile Char.isAlpha).map Char.toLower
  let rest := cs.drop letters.length
  let known := ["", "r", "b", "u", "f", "br", "rb", "fr", "rf"]
  if known.contains (String.ofList letters) &&
    (rest.head? = some '"' || rest.head? = some '\'')
  then some (letters, rest) else none

/-- The literal that a quoted text stands for: a text or bytes. -/
def quotedValue? (letters body : List Char) : Option Value := do
  let wide := !letters.contains 'b'
  let cs ←
    if letters.contains 'r' then some body
    else unescape wide body.length body
  if letters.contains 'f' && (body.contains '\x7b' || body.contains '\x7d') then
    none
  else if wide then return .text (String.ofList cs)
  else if body.all fun c => c.toNat < 128 then
    return .bytes false (cs.map fun c => c.toNat.toUInt8)
  else none

/-- Reads a quoted text from its quote on. -/
def readQuoted? (letters : List Char) (cs : List Char) :
    Option (Value × List Char) := do
  let quotes :=
    if (cs.take 3).all (· = cs.headD ' ') && 3 ≤ cs.length then cs.take 3
    else cs.take 1
  let (body, rest) ← spanQuoted quotes (cs.drop quotes.length)
  return (← quotedValue? letters body, rest)

/-- The marks between names and literals, longer ones first. -/
def marks : List String :=
  ["...", "**", "//", "<<", ">>", "<=", ">=", "==", "!=", "+", "-", "*", "/",
    "%", "@", "&", "|", "^", "~", "<", ">", "(", ")", "[", "]", "\x7b", "\x7d",
    ",", ":", "."]

/-- Reads one part of an expression. -/
def readToken? (cs : List Char) : Option (Token × List Char) :=
  match quoteLetters? cs with
  | some (letters, rest) =>
      (readQuoted? letters rest).map fun r => (.literal r.1, r.2)
  | none =>
      let first := cs.headD ' '
      if first.isDigit || (first = '.' && ((cs.drop 1).headD ' ').isDigit) then
        let (digits, rest) := spanNumber cs
        if canFollowNumber rest then
          (number? digits).map fun v => (.literal v, rest)
        else none
      else if Text.startsIdentifier first then
        let name := cs.takeWhile Text.continuesIdentifier
        some (.name (String.ofList name), cs.drop name.length)
      else do
        let mark ← marks.find? fun m => m.toList.isPrefixOf cs
        return (.mark mark, cs.drop mark.length)

/-- How a part changes the number of open brackets. -/
def depthAfter (depth : Nat) : Token → Option Nat
  | .mark m =>
      if ["(", "[", "\x7b"].contains m then some (depth + 1)
      else if [")", "]", "\x7d"].contains m then
        if depth = 0 then none else some (depth - 1)
      else some depth
  | _ => some depth

/-- The parts of a text, with a number of brackets open; `fuel` bounds
the length. -/
def scan : Nat → Nat → List Char → Option (List Token)
  | _, depth, [] => if depth = 0 then some [] else none
  | 0, _, _ :: _ => none
  | fuel + 1, depth, c :: rest =>
      if isGap c then scan fuel depth rest
      else if c = '#' then scan fuel depth (rest.dropWhile fun c => !endsLine c)
      else if endsLine c then
        if depth ≠ 0 then scan fuel depth rest
        else if isEmptyText rest && !endsBlank rest then some [] else none
      else if c = '\\' then
        if (rest.head?.map endsLine).getD false then
          scan fuel depth (rest.drop 1)
        else none
      else do
        let (token, rest) ← readToken? (c :: rest)
        return token :: (← scan fuel (← depthAfter depth token) rest)

/-! ## Reading -/

/-- The words that are no names, apart from the names of constants. -/
def isReserved (word : String) : Bool :=
  Text.keywords.contains word && !(["None", "True", "False"].contains word)

/-- The operations of each level, from the loosest to the tightest. -/
def marksAt : Nat → List String
  | 0 => ["or"]
  | 1 => ["and"]
  | 3 => ["<", ">", "<=", ">=", "==", "!=", "in", "is"]
  | 4 => ["|"]
  | 5 => ["^"]
  | 6 => ["&"]
  | 7 => ["<<", ">>"]
  | 8 => ["+", "-"]
  | 9 => ["*", "/", "//", "%", "@"]
  | _ => []

/-- The operation of a level that the parts begin with. -/
def operation? (level : Nat) : List Token → Option (String × List Token)
  | .name "not" :: .name "in" :: rest =>
      if level = 3 then some ("not in", rest) else none
  | .name "is" :: .name "not" :: rest =>
      if level = 3 then some ("is not", rest) else none
  | .name s :: rest =>
      if (marksAt level).contains s then some (s, rest) else none
  | .mark s :: rest =>
      if (marksAt level).contains s then some (s, rest) else none
  | _ => none

/-- Literals side by side are one literal, if both are texts or
both are bytes. -/
def joinLiterals (v : Value) : List Token → Option (Value × List Token)
  | .literal w :: rest =>
      match v, w with
      | .text s, .text t => joinLiterals (.text (s ++ t)) rest
      | .bytes _ s, .bytes _ t => joinLiterals (.bytes false (s ++ t)) rest
      | _, _ => none
  | rest => some (v, rest)

/-- Is the expression a pair of ends with a colon between them? -/
def isSlice : Expression → Bool
  | .slice .. => true
  | _ => false

/-- Does the expression stand for the elements of another one? -/
def isStarred : Expression → Bool
  | .unary mark _ => mark = "*"
  | _ => false

/-- The entries of a mapping between braces. -/
def entries? (items : List Expression) :
    Option (List (Expression × Expression)) :=
  items.mapM fun item =>
    match item with
    | .slice key value => some (key, value)
    | _ => none

/-- What stands between braces: a mapping, or a set if nothing has a colon. -/
def braced? (items : List Expression) : Option Expression :=
  if !items.isEmpty && items.all fun item => !item.isSlice then
    some (.set items)
  else (entries? items).map .mapping

mutual

/-- Reads a whole expression; `fuel` bounds the steps that read no part. -/
def readChoice (fuel : Nat) (ts : List Token) :
    Option (Expression × List Token) :=
  match fuel with
  | 0 => none
  | fuel + 1 => do
      let (yes, rest) ← readLevel fuel 0 ts
      match rest with
      | .name "if" :: rest =>
          let (condition, rest) ← readLevel fuel 0 rest
          match rest with
          | .name "else" :: rest =>
              let (no, rest) ← readChoice fuel rest
              return (.choice condition yes no, rest)
          | _ => none
      | _ => return (yes, rest)

/-- Reads an expression made of operations of a level or tighter ones. -/
def readLevel (fuel level : Nat) (ts : List Token) :
    Option (Expression × List Token) :=
  match fuel with
  | 0 => none
  | fuel + 1 =>
      if level = 2 then
        match ts with
        | .name "not" :: rest => do
            let (e, rest) ← readLevel fuel 2 rest
            return (.unary "not" e, rest)
        | _ => readLevel fuel 3 ts
      else if level = 10 then
        match ts with
        | .mark m :: rest =>
            if ["+", "-", "~"].contains m then do
              let (e, rest) ← readLevel fuel 10 rest
              return (.unary m e, rest)
            else readPower fuel ts
        | _ => readPower fuel ts
      else do
        let (left, rest) ← readLevel fuel (level + 1) ts
        readOperations fuel level left rest

/-- Reads further operations of a level, from left to right. -/
def readOperations (fuel level : Nat) (left : Expression) (ts : List Token) :
    Option (Expression × List Token) :=
  match fuel with
  | 0 => none
  | fuel + 1 =>
      match operation? level ts with
      | some (mark, rest) => do
          let (right, rest) ← readLevel fuel (level + 1) rest
          readOperations fuel level (.binary mark left right) rest
      | none => some (left, ts)

/-- Reads an atom with all that follows it, or a power. -/
def readPower (fuel : Nat) (ts : List Token) :
    Option (Expression × List Token) :=
  match fuel with
  | 0 => none
  | fuel + 1 => do
      let (atom, rest) ← readAtom fuel ts
      let (base, rest) ← readTrailers fuel atom rest
      match rest with
      | .mark "**" :: rest =>
          let (exponent, rest) ← readLevel fuel 10 rest
          return (.binary "**" base exponent, rest)
      | _ => return (base, rest)

/-- Reads attributes, arguments and calls behind an expression. -/
def readTrailers (fuel : Nat) (e : Expression) (ts : List Token) :
    Option (Expression × List Token) :=
  match fuel with
  | 0 => none
  | fuel + 1 =>
      match ts with
      | .mark "." :: .name s :: rest =>
          if isReserved s then none else readTrailers fuel (.attribute e s) rest
      | .mark "[" :: rest => do
          let (args, comma, rest) ← readItems fuel true "]" rest
          if args.isEmpty then none
          else if comma && args.length = 1 then
            readTrailers fuel (.applied e [.tuple args]) rest
          else readTrailers fuel (.applied e args) rest
      | .mark "(" :: rest => do
          let (args, _, rest) ← readItems fuel true ")" rest
          if args.any isSlice then none
          else readTrailers fuel (.call e args) rest
      | _ => some (e, ts)

/-- Reads a name, a literal, or what stands between brackets. -/
def readAtom (fuel : Nat) (ts : List Token) :
    Option (Expression × List Token) :=
  match fuel with
  | 0 => none
  | fuel + 1 =>
      match ts with
      | .name s :: rest => if isReserved s then none else some (.name s, rest)
      | .literal v :: rest =>
          (joinLiterals v rest).map fun r => (.literal r.1, r.2)
      | .mark "..." :: rest => some (.name "Ellipsis", rest)
      | .mark "(" :: rest => do
          let (items, comma, rest) ← readItems fuel false ")" rest
          match items, comma with
          | [e], false =>
              if e.isSlice || e.isStarred then none else return (e, rest)
          | _, _ =>
              if items.any isSlice then none else return (.tuple items, rest)
      | .mark "[" :: rest => do
          let (items, _, rest) ← readItems fuel false "]" rest
          if items.any isSlice then none else return (.list items, rest)
      | .mark "\x7b" :: rest => do
          let (items, _, rest) ← readItems fuel false "\x7d" rest
          return (← braced? items, rest)
      | _ => none

/--
Reads items up to a closing bracket, and tells whether a comma stands among
them; behind an expression, whole expressions can be starred.
-/
def readItems (fuel : Nat) (isBehind : Bool) (close : String)
    (ts : List Token) : Option (List Expression × Bool × List Token) :=
  match fuel with
  | 0 => none
  | fuel + 1 =>
      match closed? close ts with
      | some rest => some ([], false, rest)
      | none => do
          let (item, rest) ← readItem fuel isBehind ts
          match rest with
          | .mark "," :: rest =>
              let (items, _, rest) ← readItems fuel isBehind close rest
              return (item :: items, true, rest)
          | _ => return ([item], false, ← closed? close rest)

/-- Reads one item: an expression, a starred one, or two with a colon
between them. -/
def readItem (fuel : Nat) (isBehind : Bool) (ts : List Token) :
    Option (Expression × List Token) :=
  match fuel with
  | 0 => none
  | fuel + 1 =>
      match ts with
      | .mark "*" :: rest => do
          let (e, rest) ←
            if isBehind then readChoice fuel rest else readLevel fuel 4 rest
          return (.unary "*" e, rest)
      | _ => do
          let (first, rest) ← readChoice fuel ts
          match rest with
          | .mark ":" :: rest =>
              let (last, rest) ← readChoice fuel rest
              return (.slice first last, rest)
          | _ => return (first, rest)

/-- The parts behind a closing bracket, if they begin with it. -/
def closed? (close : String) (ts : List Token) : Option (List Token) :=
  match ts with
  | .mark m :: rest => if m = close then some rest else none
  | _ => none

end

/-- The expression that parts stand for: several items with commas
are a tuple. -/
def ofTokens? (ts : List Token) : Option Expression := do
  match ← readItems (20 * ts.length + 40) false ")" (ts ++ [.mark ")"]) with
  | ([e], false, []) => if e.isSlice || e.isStarred then none else return e
  | (items, true, []) =>
      if items.any fun e => e.isSlice || e.isStarred then none
      else return .tuple items
  | _ => none

/-- The expression in a text. -/
def read? (cs : List Char) : Option Expression := do
  match dropEmptyLines cs.length cs with
  | [] => none
  | c :: rest =>
      if isGap c then none
      else ofTokens? (← scan (rest.length + 1) 0 (c :: rest))

/-- The expression that a text gives; a star in front takes the first of
several types. -/
def ofText (text : String) : Except Failure Expression :=
  let cs := match text.toList with
    | '*' :: rest => "(*".toList ++ rest ++ ",)[0]".toList
    | cs => cs
  if text = "" then .error .emptyText
  else
    match read? cs with
    | some e => .ok e
    | none => .error .badSyntax

end Expression
end RecordFilter
