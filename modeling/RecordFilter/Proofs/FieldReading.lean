import RecordFilter.Proofs.Meaning

/-!
# Reading the fields that a shape declares

A path is walked twice: along a shape when a definition is checked, and along a
record when the predicate runs.  This module compares the two walks for shapes
made of nested mappings.

**Declared fields.**  Names from the outside in lead to a declared field if each
of them is a key of the mapping that the one before leads to.  A key may be any
text, with dots or without.

**Records.**  A record carries a shape if it is a nested mapping with exactly
the declared keys.  Where the shape names a type instead of a further mapping,
any value may stand.

**Results.**
* `exists_declares_of_checkPath`: a path that is accepted is a declared name as
  a whole, or its parts lead to a declared field, or to a field whose type is
  not a mapping.
* `read_of_checkPath`: what a record carries where the parts of an accepted path
  lead is what is read; a name with a dot in it is not read as a whole.
-/

namespace RecordFilter
namespace Grammar

/-- Names that lead through nested mappings to a declared field of a type. -/
inductive Declares : Fields → List String → Shape → Prop
  | last
      {fields : Fields}
      {name : String}
      {type : Shape}
      (found : fields.find? name = some type) :
      Declares fields [name] type
  | into
      {fields nested : Fields}
      {name : String}
      {rest : List String}
      {type : Shape}
      (found : fields.find? name = some (.mapping nested))
      (onward : Declares nested rest type) :
      Declares fields (name :: rest) type

/-- A nested mapping with exactly the declared keys. -/
inductive Carries : Fields → Value → Prop
  | mapping
      {fields : Fields}
      {form : MappingForm}
      {entries : List (Value × Value)}
      (keys :
        ∀ name, (Value.field? name entries).isSome = (fields.find? name).isSome)
      (nested : ∀ name inner value,
        fields.find? name = some (.mapping inner) →
        Value.field? name entries = some value →
        Carries inner value) :
      Carries fields (.mapping form entries)

/-- What a nested mapping holds where names lead from the outside in. -/
inductive Stores : Value → List String → Value → Prop
  | here
      (value : Value) :
      Stores value [] value
  | under
      {form : MappingForm}
      {entries : List (Value × Value)}
      {name : String}
      {rest : List String}
      {inner value : Value}
      (found : Value.field? name entries = some inner)
      (onward : Stores inner rest value) :
      Stores (.mapping form entries) (name :: rest) value

variable {fields : Fields} {names rest : List String} {type : Shape}
variable {record value : Value} {path : Name} {root : String}

/-! ## Along the shape -/

/-- A walk that ends well leads to a declared field, or to a field whose type is
no mapping. -/
theorem Walk.exists_declares
    {part : String}
    (walk : Walk fields (part :: rest)) :
    ∃ names more type, part :: rest = names ++ more ∧
      Declares fields names type ∧
      (more = [] ∨ ∀ nested, type ≠ .mapping nested) := by
  induction rest generalizing fields part with
  | nil =>
      cases walk with
      | into found => exact ⟨[part], [], _, rfl, .last found, Or.inl rfl⟩
      | last found => exact ⟨[part], [], _, rfl, .last found, Or.inl rfl⟩
      | stop found => exact ⟨[part], [], _, rfl, .last found, Or.inl rfl⟩
  | cons next rest ih =>
      cases walk with
      | @into _ nested _ type _ found known onward =>
          by_cases hmapping : ∃ inner, type = .mapping inner
          · obtain ⟨inner, rfl⟩ := hmapping
            have hsame : inner = nested := by
              cases known
              rfl
            obtain ⟨names, more, last, hparts, hdeclares, hend⟩ := ih onward
            refine ⟨part :: names, more, last, ?_, ?_, hend⟩
            · rw [hparts, List.cons_append]
            · rw [← hsame] at hdeclares
              exact .into found hdeclares
          · have hother : ∀ inner, type ≠ .mapping inner := by
              intro inner htype
              exact hmapping ⟨inner, htype⟩
            exact ⟨[part], next :: rest, type, rfl, .last found, Or.inr hother⟩
      | @stop _ _ type _ found unknown compound =>
          have hother : ∀ inner, type ≠ .mapping inner := by
            rintro inner rfl
            cases unknown
          exact ⟨[part], next :: rest, type, rfl, .last found, Or.inr hother⟩

/-- An accepted path is a declared name as a whole, or its parts lead to a
declared field, or to a field whose type is no mapping. -/
theorem exists_declares_of_checkPath
    (haccepted : Validation.checkPath path root fields = .ok none) :
    (∃ type, Declares fields [path.content] type) ∨
      ∃ names more type, Path.segments path.content = names ++ more ∧
        Declares fields names type ∧
        (more = [] ∨ ∀ nested, type ≠ .mapping nested) := by
  unfold Validation.checkPath at haccepted
  cases hfound : fields.find? path.content with
  | some type => exact Or.inl ⟨type, .last hfound⟩
  | none =>
      simp only [hfound] at haccepted
      have walk : Walk fields (Path.segments path.content) :=
        (Validation.pathProblem_eq_none_iff haccepted).mp rfl
      obtain ⟨part, parts, hparts⟩ :=
        List.exists_cons_of_ne_nil (Path.segments_ne_nil path.content)
      rw [hparts] at walk ⊢
      exact Or.inr walk.exists_declares

/-! ## Along the record -/

/-- A record holds a value wherever the names lead to a declared field. -/
theorem Declares.exists_stores
    (hdeclares : Declares fields names type)
    (hcarries : Carries fields record) :
    ∃ value, Stores record names value := by
  induction hdeclares generalizing record with
  | @last fields name type found =>
      obtain ⟨keys, -⟩ := hcarries
      have hsome := keys name
      rw [found] at hsome
      obtain ⟨value, hvalue⟩ := Option.isSome_iff_exists.mp hsome
      exact ⟨value, .under hvalue (.here value)⟩
  | @into fields inner name rest type found onward ih =>
      obtain ⟨keys, nested⟩ := hcarries
      have hsome := keys name
      rw [found] at hsome
      obtain ⟨below, hbelow⟩ := Option.isSome_iff_exists.mp hsome
      have hinner : Carries inner below := nested name inner below found hbelow
      obtain ⟨value, hvalue⟩ := ih hinner
      exact ⟨value, .under hbelow hvalue⟩

/-- Following names goes where the record holds a value, and on from there. -/
theorem Stores.follow_append
    (hstores : Stores record names value)
    (rest : List String) :
    record.follow (names ++ rest) = value.follow rest := by
  induction hstores with
  | here value => rfl
  | @under form entries name names inner value found onward ih =>
      have hget : (Value.mapping form entries).get name = inner := by
        change (Value.field? name entries).getD .none = inner
        rw [found]
        rfl
      calc
        (Value.mapping form entries).follow (name :: names ++ rest)
            = ((Value.mapping form entries).get name).follow (names ++ rest) :=
              rfl
        _ = inner.follow (names ++ rest) := by rw [hget]
        _ = value.follow rest := ih

/-- Nothing is found behind a missing value. -/
theorem follow_none
    (names : List String) :
    Value.none.follow names = .none := by
  cases names <;> rfl

/-- A record has nothing under a name that is not declared. -/
theorem Carries.follow_undeclared
    {name : String}
    (hcarries : Carries fields record)
    (hundeclared : fields.find? name = none)
    (rest : List String) :
    record.follow (name :: rest) = .none := by
  obtain ⟨keys, -⟩ := hcarries
  rename_i form entries
  have hmissing : Value.field? name entries = none := by
    have hsame := keys name
    rw [hundeclared] at hsame
    exact Option.not_isSome_iff_eq_none.mp (by simp [hsame])
  have hget : (Value.mapping form entries).get name = .none := by
    change (Value.field? name entries).getD .none = .none
    rw [hmissing]
    rfl
  calc
    (Value.mapping form entries).follow (name :: rest)
        = ((Value.mapping form entries).get name).follow rest := rfl
    _ = .none := by rw [hget, follow_none]

/-! ## Both walks -/

/-- **An accepted path reads the field that its parts lead to.**  A declared
name with a dot in it is accepted as a whole, and yet its parts are read. -/
theorem read_of_checkPath
    (hcarries : Carries fields record)
    (haccepted : Validation.checkPath path root fields = .ok none) :
    ((∃ type, Declares fields [path.content] type) ∨
      ∃ names more type, Path.segments path.content = names ++ more ∧
        Declares fields names type ∧
        (more = [] ∨ ∀ nested, type ≠ .mapping nested)) ∧
    (∀ names more type, Path.segments path.content = names ++ more →
      Declares fields names type →
      ∃ value, Stores record names value ∧
        record.read path.content = value.follow more) ∧
    (∀ type, Declares fields [path.content] type →
      ∃ value, Stores record [path.content] value ∧
        ('.' ∉ path.content.toList → record.read path.content = value) ∧
        (∀ part parts, Path.segments path.content = part :: parts →
          fields.find? part = none → record.read path.content = .none)) := by
  refine ⟨exists_declares_of_checkPath haccepted, ?_, ?_⟩
  · intro names more type hparts hdeclares
    obtain ⟨value, hstores⟩ := hdeclares.exists_stores hcarries
    refine ⟨value, hstores, ?_⟩
    rw [Value.read_eq_follow, hparts, hstores.follow_append]
  · intro type hdeclares
    obtain ⟨value, hstores⟩ := hdeclares.exists_stores hcarries
    refine ⟨value, hstores, ?_, ?_⟩
    · intro hundotted
      have hsegments : Path.segments path.content = [path.content] ++ [] := by
        unfold Path.segments
        rw [Path.split_of_undotted hundotted]
        simp
      rw [Value.read_eq_follow, hsegments, hstores.follow_append]
      rfl
    · intro part parts hparts hundeclared
      rw [Value.read_eq_follow, hparts, hcarries.follow_undeclared hundeclared]

/-! ## A sample, and a name with a dot -/

/-- The fields of the sample shape, one of them nested. -/
def sampleFields : Fields := [
  (.text "age", .builtin .int),
  (.text "owner", .mapping [(.text "email", .builtin .text)])]

theorem Carries.nil
    {form : MappingForm} :
    Carries [] (.mapping form []) := by
  refine .mapping (fun name => rfl) (fun name inner value hfound _ => ?_)
  cases hfound

/-- A record and its shape grow by a field, which carries what the field
declares. -/
theorem Carries.cons
    {form : MappingForm}
    {entries : List (Value × Value)}
    {name : String}
    (hothers : Carries fields (.mapping form entries))
    (hfield : ∀ inner, type = .mapping inner → Carries inner value) :
    Carries ((.text name, type) :: fields)
      (.mapping form ((.text name, value) :: entries)) := by
  obtain ⟨keys, nested⟩ := hothers
  refine .mapping (fun other => ?_) (fun other inner below hfound hbelow => ?_)
  · rw [Value.field?_cons, Fields.find?_cons, Value.text?_text]
    by_cases hname : some name = some other
    · rw [if_pos hname, if_pos hname]
      rfl
    · rw [if_neg hname, if_neg hname]
      exact keys other
  · rw [Fields.find?_cons, Value.text?_text] at hfound
    rw [Value.field?_cons, Value.text?_text] at hbelow
    by_cases hname : some name = some other
    · rw [if_pos hname] at hfound hbelow
      cases hbelow
      exact hfield inner (Option.some.inj hfound)
    · rw [if_neg hname] at hfound hbelow
      exact nested other inner below hfound hbelow

theorem carries_sampleRecord :
    Carries sampleFields MemoryFilter.sampleRecord := by
  have hemail :
      ∀ inner,
        Shape.mapping [(.text "email", .builtin .text)] = .mapping inner →
        Carries inner (.ofFields [("email", .text "Ann@example")]) := by
    intro inner hinner
    cases hinner
    exact .cons .nil fun inner hinner => by cases hinner
  have howner :
      Carries
        [(.text "owner", .mapping [(.text "email", .builtin .text)])]
        (.ofFields [("owner", .ofFields [("email", .text "Ann@example")])]) :=
    .cons .nil hemail
  exact .cons howner fun inner hinner => by cases hinner

/-- The parts of a path lead to the nested field of the sample, and its
value is read. -/
theorem read_sampleRecord :
    Carries sampleFields MemoryFilter.sampleRecord ∧
      Validation.checkPath (.text "owner.email") "entity" sampleFields =
        .ok none ∧
      MemoryFilter.sampleRecord.read "owner.email" = .text "Ann@example" := by
  have haccepted :
      Validation.checkPath (.text "owner.email") "entity" sampleFields =
        .ok none := by
    rfl
  obtain ⟨-, hread, -⟩ := read_of_checkPath carries_sampleRecord haccepted
  have hdeclares : Declares sampleFields ["owner", "email"] (.builtin .text) :=
    .into rfl (.last rfl)
  obtain ⟨value, hstores, hvalue⟩ := hread ["owner", "email"] [] _ rfl hdeclares
  refine ⟨carries_sampleRecord, haccepted, hvalue.trans ?_⟩
  cases hstores with
  | under found onward =>
      cases found
      cases onward with
      | under found onward =>
          cases found
          cases onward
          rfl

/-- A shape whose only field has a dot in its name. -/
def dottedFields : Fields := [(.text "a.b", .builtin .int)]

/-- A record with this field. -/
def dottedRecord : Value := .ofFields [("a.b", .int 5)]

/-- The declared name is accepted as a whole, the record holds a value under it,
and the missing value is read. -/
theorem read_dottedRecord :
    Carries dottedFields dottedRecord ∧
      Declares dottedFields ["a.b"] (.builtin .int) ∧
      Validation.checkPath (.text "a.b") "entity" dottedFields = .ok none ∧
      Stores dottedRecord ["a.b"] (.int 5) ∧
      dottedRecord.read "a.b" = .none := by
  have hcarries : Carries dottedFields dottedRecord :=
    .cons .nil fun inner hinner => by cases hinner
  exact ⟨hcarries, .last rfl, rfl, .under rfl (.here _), rfl⟩

end Grammar
end RecordFilter
