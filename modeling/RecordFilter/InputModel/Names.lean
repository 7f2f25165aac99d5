import RecordFilter.Text.Identifier

/-!
# Attribute names

An input model has one attribute for each filter.  A filter name that can be an
attribute is its own attribute.  Any other filter gets a generated name, made
from its position, with as many underscores behind it as keep it apart from all
names in use.

**Members.**  A model inherits members, and a name of one of them cannot be an
attribute.  Which names these are is a parameter.
-/

namespace RecordFilter
namespace InputModel

/-- The names that every model uses already. -/
def reserved : List String :=
  ["construct", "copy", "dict", "from_orm", "json", "mro", "parse_file",
    "parse_obj", "parse_raw", "register", "schema", "schema_json",
    "update_forward_refs", "validate"]

/-- Can the name be an attribute of a model that has members already? -/
def isAttributeName (isMember : String → Bool) (name : String) : Bool :=
  Text.isIdentifier name
    && !(['_'].isPrefixOf name.toList)
    && !("model_".toList.isPrefixOf name.toList)
    && !Text.keywords.contains name
    && !isMember name

/-- The name with a number of underscores behind it. -/
def padded (base : String) (n : Nat) : String :=
  base ++ String.ofList (List.replicate n '_')

/-- The name with the fewest underscores behind it that is not taken. -/
def freshName (taken : List String) (base : String) : String :=
  (((List.range (taken.length + 1)).map (padded base)).find?
    fun name => !taken.contains name).getD base

/-- The generated name of the filter at a position, before underscores. -/
def generatedName (index : Nat) : String := "filter_" ++ Nat.repr index

/-- Names from a position on, each with its attribute; `taken` are the
names in use. -/
def attributeNamesFrom (isMember : String → Bool) (taken : List String) :
    Nat → List String → List (String × String)
  | _, [] => []
  | index, name :: rest =>
      if isAttributeName isMember name then
        (name, name) :: attributeNamesFrom isMember taken (index + 1) rest
      else
        let fresh := freshName taken (generatedName index)
        (name, fresh) ::
          attributeNamesFrom isMember (fresh :: taken) (index + 1) rest

/-- The attribute of each filter name. -/
def attributeNames (isMember : String → Bool) (names : List String) :
    List (String × String) :=
  attributeNamesFrom isMember (names.filter (isAttributeName isMember)) 0 names

end InputModel
end RecordFilter
