import RecordFilter.Filter
import RecordFilter.Shape.Fields

/-!
# The grammar of definitions

This module says which values are definitions, without reference to any check.

**Declarations.**  A comparison or a group is written as a value of its own or
as a mapping.  `Declared` reads what is written in either form: the kind, the
field, the flag for blindness to case, and the conditions.

**Paths.**  A shape accepts a path if nothing is known about its fields, if it
declares the whole path as one name, or if a walk along the parts of the path
ends well.  A walk goes from a declared field to the fields of its type.  It may
end at any declared field, and it may stop early where no fields are known,
except at a single datum.

**Definitions.**  A definition is a mapping whose names are texts other than the
empty one, and whose entries are callbacks, comparisons or groups of
comparisons.
-/

namespace RecordFilter
namespace Declared

/-- The kind that a comparison or a group declares. -/
def kind? : Value → Option Kind
  | .comparison k _ _ => k.kind?
  | .group k _ => k.kind?
  | .mapping _ entries => (Value.field? "kind" entries).bind Value.kind?
  | _ => none

/-- The field that a comparison names, unless it leaves the field out. -/
def field? : Value → Option Value
  | .comparison _ field _ => if field.isNone then none else some field
  | .mapping _ entries =>
      (Value.field? "field" entries).filter fun field => !field.isNone
  | _ => none

/-- Is a comparison asked to be blind to case?  Of the two spellings, the first
one counts. -/
def ignoresCase : Value → Bool
  | .comparison _ _ flag => flag.truth
  | .mapping _ entries =>
      match Value.field? "caseInsensitive" entries,
        Value.field? "case_insensitive" entries with
      | some flag, _ => flag.truth
      | none, some flag => flag.truth
      | none, none => false
  | _ => false

/-- The elements of a list or a tuple. -/
def listed? : Value → Option (List Value)
  | .sequence .list items => some items
  | .sequence .tuple items => some items
  | _ => none

/-- The conditions of a group; in a mapping they are a list or a tuple. -/
def conditions? : Value → Option (List Value)
  | .group _ conditions => some conditions
  | .mapping _ entries => (Value.field? "conditions" entries).bind listed?
  | _ => none

/-- The path that a comparison reads: its own field, or else the name
it goes by. -/
def path? (name : Option String) (raw : Value) : Option String :=
  match field? raw with
  | some field => field.text?
  | none => name

/-- Has the value one of the forms of a comparison? -/
def canCompare : Value → Bool
  | .comparison .. | .mapping .. => true
  | _ => false

/-- Has the value one of the forms of a group? -/
def canGroup : Value → Bool
  | .group .. | .mapping .. => true
  | _ => false

end Declared

namespace Grammar

/-- A walk along parts of a path that ends well. -/
inductive Walk : Fields → List String → Prop
  | done
      {fields : Fields} :
      Walk fields []
  | into
      {fields nested : Fields}
      {part : String}
      {type : Shape}
      {rest : List String}
      (found : fields.find? part = some type)
      (known : type.unwrapOptional.fields? = .ok (some nested))
      (onward : Walk nested rest) :
      Walk fields (part :: rest)
  | last
      {fields : Fields}
      {part : String}
      {type : Shape}
      (found : fields.find? part = some type)
      (unknown : type.unwrapOptional.fields? = .ok none) :
      Walk fields [part]
  | stop
      {fields : Fields}
      {part : String}
      {type : Shape}
      {rest : List String}
      (found : fields.find? part = some type)
      (unknown : type.unwrapOptional.fields? = .ok none)
      (compound : type.unwrapOptional.scalar? = none) :
      Walk fields (part :: rest)

namespace Walk

variable {fields nested : Fields} {part : String} {type : Shape}
variable {rest : List String}

/-- No walk starts at a field that is not declared. -/
theorem not_of_missing
    (hfound : fields.find? part = none) :
    ¬ Walk fields (part :: rest) := by
  intro walk
  cases walk with
  | into found => rw [hfound] at found; cases found
  | last found => rw [hfound] at found; cases found
  | stop found => rw [hfound] at found; cases found

/-- At a field with known fields, a walk goes on among these. -/
theorem iff_of_known
    (hfound : fields.find? part = some type)
    (hknown : type.unwrapOptional.fields? = .ok (some nested)) :
    Walk fields (part :: rest) ↔ Walk nested rest := by
  constructor
  · intro walk
    cases walk with
    | into found known onward =>
        rw [hfound] at found
        cases found
        rw [hknown] at known
        cases known
        exact onward
    | last found unknown =>
        rw [hfound] at found
        cases found
        rw [hknown] at unknown
        cases unknown
    | stop found unknown =>
        rw [hfound] at found
        cases found
        rw [hknown] at unknown
        cases unknown
  · intro walk
    exact .into hfound hknown walk

/-- At a field without known fields, a walk ends, or stops early if it is no
single datum. -/
theorem iff_of_unknown
    (hfound : fields.find? part = some type)
    (hunknown : type.unwrapOptional.fields? = .ok none) :
    Walk fields (part :: rest) ↔
      rest = [] ∨ type.unwrapOptional.scalar? = none := by
  constructor
  · intro walk
    cases walk with
    | into found known =>
        rw [hfound] at found
        cases found
        rw [hunknown] at known
        cases known
    | last => exact Or.inl rfl
    | stop found unknown compound =>
        rw [hfound] at found
        cases found
        exact Or.inr compound
  · rintro (rfl | compound)
    · exact .last hfound hunknown
    · exact .stop hfound hunknown compound

end Walk

/-- A path that a shape accepts. -/
inductive Accepts (shape : Shape) (path : String) : Prop
  | unknown
      (h : shape.fields? = .ok none) :
      Accepts shape path
  | declared
      {fields : Fields}
      {type : Shape}
      (h : shape.fields? = .ok (some fields))
      (found : fields.find? path = some type) :
      Accepts shape path
  | walked
      {fields : Fields}
      (h : shape.fields? = .ok (some fields))
      (walk : Walk fields (Path.segments path)) :
      Accepts shape path

/-- A comparison in either form; without a name to fall back on it has to name
its field. -/
structure IsComparison (shape : Shape) (name : Option String) (raw : Value) :
    Prop where
  form : Declared.canCompare raw = true
  kind : ∃ kind, Declared.kind? raw = some kind ∧ kind.isGroup = false
  flag : Declared.ignoresCase raw = true → Declared.kind? raw = some .contains
  path :
    ∃ path, Declared.path? name raw = some path ∧ path ≠ "" ∧ Accepts shape path

/-- A group in either form, with at least one condition. -/
structure IsGroup (shape : Shape) (raw : Value) : Prop where
  form : Declared.canGroup raw = true
  kind : ∃ kind, Declared.kind? raw = some kind ∧ kind.isGroup = true
  conditions :
    ∃ conditions, Declared.conditions? raw = some conditions ∧ conditions ≠ [] ∧
    ∀ condition ∈ conditions, IsComparison shape none condition

/-- A value that can stand under a name of a definition. -/
inductive IsFilter (shape : Shape) (name : String) (raw : Value) : Prop
  | custom
      (h : raw.callback?.isSome = true) :
      IsFilter shape name raw
  | comparison
      (h : IsComparison shape (some name) raw) :
      IsFilter shape name raw
  | group
      (h : IsGroup shape raw) :
      IsFilter shape name raw

/-- An entry of a definition. -/
def IsEntry (shape : Shape) (entry : Value × Value) : Prop :=
  ∃ name, entry.1.text? = some name ∧ name ≠ "" ∧ IsFilter shape name entry.2

/-- A definition of filters on records of a shape. -/
def IsDefinition (shape : Shape) (raw : Value) : Prop :=
  ∃ entries, raw.entries? = some entries ∧
    ∀ entry ∈ entries, IsEntry shape entry

/-! ## A sample -/

/-- A shape with a nested field. -/
def sampleShape : Shape :=
  .mapping [
    (.text "age", .builtin .int),
    (.text "owner", .mapping [(.text "email", .builtin .text)])]

/-- A definition with a comparison that falls back on its name, a group in
mapping form whose conditions come in both forms, and a callback. -/
def sample : Value :=
  .ofFields [
    ("age", .comparison (.kind .gt) .none (.bool false)),
    ("search", .ofFields [
      ("kind", .text "or"),
      ("conditions", .list [
        .ofFields [
          ("kind", .text "contains"),
          ("field", .text "owner.email"),
          ("caseInsensitive", .bool true)],
        .comparison (.kind .eq) (.text "age") (.bool false)])]),
    ("known", .callback 0 "known" [])]

end Grammar
end RecordFilter
