import RecordFilter.Shape.Basic
import RecordFilter.Sql.Identifier

/-!
# Tables

A table descriptor has a name for messages and columns under keys.  A column
belongs to a source: a table, an alias, or a named query.

**Names.**  Columns of aliases and queries keep their names, whatever their keys
are.  A join names its columns by their sources and keys.

**Types.**  Each type of column stands for a shape of values; two kinds of
column tell nothing about their values.
-/

namespace RecordFilter
namespace Sql

/-- The types of columns. -/
inductive ColumnType where
  | integer | bigInteger | text | boundedText | float | boolean | numeric
  | date | timestamp | time | interval | binary | json
  /-- A column without a type. -/
  | untyped
  /-- A type that says nothing about its values. -/
  | foreign
  deriving DecidableEq

/-- The shape of the values in a column. -/
def ColumnType.shape : ColumnType → Shape
  | .integer | .bigInteger => .builtin .int
  | .text | .boundedText => .builtin .text
  | .float => .builtin .float
  | .boolean => .builtin .bool
  | .numeric => .builtin .decimal
  | .date => .builtin .date
  | .timestamp => .builtin .moment
  | .time => .builtin .clock
  | .interval => .builtin .duration
  | .binary => .builtin .bytes
  | .json | .untyped => .builtin .object
  | .foreign => .any

/-- Where columns come from. -/
inductive Source where
  | table (schema : Option String) (name : String)
  | aliased (inner : Source) (name : String)
  /-- A query of some columns; a common one stands in front of the statement. -/
  | query (common : Bool) (selected : List (Source × String)) (name : String)

/-- A column under a key. -/
structure Column where
  key : String
  source : Source
  name : String
  type : ColumnType

/-- A descriptor: its name in messages and its columns. -/
structure Table where
  name : String
  columns : List Column

namespace Source

/-- The name in front of the columns of a source. -/
def qualifier : Source → String
  | .table none name => identifier name
  | .table (some schema) name => identifier schema ++ "." ++ identifier name
  | .aliased _ name => identifier name
  | .query _ _ name => identifier name

/-- The name of a source as a part of longer names. -/
def label : Source → String
  | .table none name => name
  | .table (some schema) name =>
      String.ofList (schema.toList.map fun c => if c = '.' then '_' else c) ++
        "_" ++ name
  | .aliased _ name => name
  | .query _ _ name => name

/-- The texts without repetitions, in the order of their first occurrences. -/
def distinctTexts (texts : List String) : List String :=
  texts.foldl (fun seen t => if seen.contains t then seen else seen ++ [t]) []

/-- A query of columns from sources. -/
def selectText (columns sources : List String) : String :=
  "SELECT " ++ listed columns ++ " \nFROM " ++ listed (distinctTexts sources)

mutual

/-- The source as it stands behind `FROM`. -/
def fromText (s : Source) : String :=
  match s with
  | .table schema name => qualifier (.table schema name)
  | .aliased inner name => fromText inner ++ " AS " ++ identifier name
  | .query true _ name => identifier name
  | .query false selected name =>
      "(" ++ selectText (selectedTexts selected) (selectedSources selected) ++
        ") AS " ++ identifier name
termination_by structural s

/-- The columns of a query, each with its name. -/
def selectedTexts (selected : List (Source × String)) : List String :=
  match selected with
  | [] => []
  | (source, name) :: rest =>
      (qualifier source ++ "." ++ identifier name ++ " AS " ++ identifier name)
        :: selectedTexts rest
termination_by structural selected

/-- The sources of the columns of a query. -/
def selectedSources (selected : List (Source × String)) : List String :=
  match selected with
  | [] => []
  | (source, _) :: rest => fromText source :: selectedSources rest
termination_by structural selected

end

mutual

/-- The common queries in a source, inner ones first. -/
def commonTexts (s : Source) : List String :=
  match s with
  | .table .. => []
  | .aliased inner _ => commonTexts inner
  | .query common selected name =>
      commonTextsOf selected ++
        (if common then
          [identifier name ++ " AS \n(" ++ selectText (selectedTexts selected)
            (selectedSources selected) ++ ")"]
        else [])
termination_by structural s

/-- The common queries in the sources of columns. -/
def commonTextsOf (selected : List (Source × String)) : List String :=
  match selected with
  | [] => []
  | (source, _) :: rest => commonTexts source ++ commonTextsOf rest
termination_by structural selected

end

end Source

namespace Column

/-- The column with its source in front. -/
def text (c : Column) : String := c.source.qualifier ++ "." ++ identifier c.name

end Column

namespace Table

/-- A table with columns of given keys, names and types. -/
def declared (name : String) (source : Source)
    (columns : List (String × String × ColumnType)) : Table where
  name := name
  columns := columns.map fun c => ⟨c.1, source, c.2.1, c.2.2⟩

/-- The columns of a table under an alias. -/
def aliasColumns (t : Table) (name : String) : List Column :=
  t.columns.map fun c => ⟨c.key, .aliased c.source name, c.name, c.type⟩

/-- A table under an alias. -/
def aliased (t : Table) (name : String) : Table := ⟨name, t.aliasColumns name⟩

/-- A declared class under an alias, which messages call after the class. -/
def aliasOfClass (t : Table) (name : String) : Table :=
  ⟨"aliased(" ++ t.name ++ ")", t.aliasColumns name⟩

/-- The column under a key. -/
def column? (t : Table) (key : String) : Option Column :=
  t.columns.find? (·.key = key)

/-- A named query of the columns under some keys. -/
def query (t : Table) (common : Bool) (keys : List String) (name : String) :
    Table :=
  let selected := keys.filterMap t.column?
  let source :=
    Source.query common (selected.map fun c => (c.source, c.name)) name
  ⟨name, selected.map fun c => ⟨c.key, source, c.name, c.type⟩⟩

/-- The columns of a table, under keys that name their sources. -/
def qualifiedColumns (t : Table) : List Column :=
  t.columns.map fun c =>
    ⟨c.source.label ++ "_" ++ c.key, c.source, c.name, c.type⟩

/-- Two tables side by side. -/
def join (left right : Table) : Table :=
  ⟨"Join", left.qualifiedColumns ++ right.qualifiedColumns⟩

/-- The keys of all columns. -/
def keys (t : Table) : List String := t.columns.map Column.key

/-- The shape that definitions are checked against. -/
def shape (t : Table) : Shape :=
  .mapping (t.columns.map fun c => (.text c.key, c.type.shape))

end Table
end Sql
end RecordFilter
