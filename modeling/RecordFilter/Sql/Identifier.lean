/-!
# SQL identifiers

A name is written bare when it is in lower case, made of letters, digits,
underscores and dollar signs, starts with a letter or an underscore and is no
reserved word.  Any other name is put in double quotes, with double quotes
inside it doubled.
-/

namespace RecordFilter
namespace Sql

/-- The words that cannot be bare names. -/
def reservedWords : List String :=
  ["all", "analyse", "analyze", "and", "any", "array", "as", "asc",
    "asymmetric", "authorization", "between", "binary", "both", "case", "cast",
    "check", "collate", "column", "constraint", "create", "cross",
    "current_date", "current_role", "current_time", "current_timestamp",
    "current_user", "default", "deferrable", "desc", "distinct", "do", "else",
    "end", "except", "false", "for", "foreign", "freeze", "from", "full",
    "grant", "group", "having", "ilike", "in", "initially", "inner",
    "intersect", "into", "is", "isnull", "join", "leading", "left", "like",
    "limit", "localtime", "localtimestamp", "natural", "new", "not", "notnull",
    "null", "off", "offset", "old", "on", "only", "or", "order", "outer",
    "overlaps", "placing", "primary", "references", "right", "select",
    "session_user", "set", "similar", "some", "symmetric", "table", "then",
    "to", "trailing", "true", "union", "unique", "user", "using", "verbose",
    "when", "where"]

/-- May the character stand in a bare name? -/
def isBareChar (c : Char) : Bool :=
  'a' ≤ c && c ≤ 'z' || '0' ≤ c && c ≤ '9' || c = '_' || c = '$'

/-- Can the name be written bare? -/
def isBare (name : String) : Bool :=
  match name.toList with
  | [] => false
  | c :: rest =>
      !('0' ≤ c && c ≤ '9') && c ≠ '$' && (c :: rest).all isBareChar
        && !reservedWords.contains name

/-- The name as it is written. -/
def identifier (name : String) : String :=
  if isBare name then name
  else
    String.ofList ('"' ::
      name.toList.flatMap (fun c => if c = '"' then ['"', '"'] else [c])
      ++ ['"'])

end Sql
end RecordFilter
