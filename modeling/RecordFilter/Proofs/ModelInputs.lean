import RecordFilter.InputModel.OfFilter
import RecordFilter.Proofs.Assembly
import RecordFilter.Proofs.AttributeNames
import RecordFilter.Proofs.Questions

/-!
# Inputs carried by models

An input model turns a mapping of inputs into an instance, and an
instance counts as inputs again.  This module says that nothing is lost
or mixed up on the way.

**There.**  Each field takes the value under the name of its filter.  It would
also take one under its attribute, but no name of another filter is its
attribute.  A field without a value is missing, which every field allows.

**Back.**  Each field counts under the name of its filter.  The names are those
of the definition, in its order.

**Main result.**
* `inputs_of_validated`: what an instance counts as, and that filters cannot
  tell it from the mapping it was made of.
-/

namespace RecordFilter

/-! ## Types with a missing value -/

namespace Shape

/-- The missing value is all of the type, or one of its members. -/
def AllowsMissing (s : Shape) : Prop :=
  s = .noneType ∨ ∃ members, s = .union false members ∧ .noneType ∈ members

/-- Among the members of a union without repetitions, the type of the missing
value stays, since nothing else is the same type. -/
theorem noneType_mem_distinctMembers
    {types : List Shape}
    (h : .noneType ∈ types) :
    .noneType ∈ distinctMembers types := by
  have hstep :
      ∀ seen : List Shape, (.noneType ∈ seen ∨ .noneType ∈ types) →
        .noneType ∈ types.foldl
          (fun seen m => if seen.any (same m ·) then seen else seen ++ [m])
          seen := by
    clear h
    induction types with
    | nil => simp
    | cons type rest ih =>
        intro seen hmem
        refine ih _ ?_
        rw [List.mem_cons] at hmem
        rcases hmem with hseen | rfl | hrest
        · left
          dsimp only
          split <;> simp [hseen]
        · left
          dsimp only
          split
          · rename_i hfound
            obtain ⟨other, hother, hsame⟩ := List.any_eq_true.mp hfound
            cases other with
            | noneType => exact hother
            | _ => cases hsame
          · simp
        · exact .inr hrest
  exact hstep [] (.inr h)

theorem allowsMissing_unionOf
    {types : List Shape}
    (h : .noneType ∈ types) :
    (unionOf false types).AllowsMissing := by
  have hmember : Shape.noneType ∈ types.flatMap fun t => t.inner.members :=
    List.mem_flatMap.mpr ⟨.noneType, h, List.mem_singleton_self _⟩
  have hdistinct := noneType_mem_distinctMembers hmember
  unfold unionOf
  split
  · rename_i single hsingle
    rw [hsingle, List.mem_singleton] at hdistinct
    exact .inl hdistinct.symm
  · exact .inr ⟨_, rfl, hdistinct⟩

theorem allowsMissing_union?
    {types : List Shape}
    {s : Shape}
    (h : .noneType ∈ types)
    (hs : union? types = .ok s) :
    s.AllowsMissing := by
  obtain ⟨parsed, hparsed, hrest⟩ := Outcome.bind_eq_ok.mp hs
  obtain ⟨type, htype, hmissing⟩ :=
    Outcome.forall₂_mem_left (Outcome.mapM_eq_ok_iff.mp hparsed) h
  cases hmissing
  split at hrest
  · cases hrest
  · split at hrest
    · cases hrest
      exact allowsMissing_unionOf htype
    · cases hrest

theorem noneType_mem_resolveAll
    {read : String → Except Failure Shape}
    {strip : Bool}
    {types resolved : List Shape}
    (h : .noneType ∈ types)
    (hresolved : resolveAll read strip types = .ok resolved) :
    .noneType ∈ resolved := by
  induction types generalizing resolved with
  | nil => cases h
  | cons type rest ih =>
      obtain ⟨first, hfirst, hrest⟩ := Outcome.bind_eq_ok.mp hresolved
      obtain ⟨others, hothers, hlist⟩ := Outcome.bind_eq_ok.mp hrest
      cases hlist
      rcases List.mem_cons.mp h with rfl | hmem
      · cases hfirst
        exact List.mem_cons_self
      · exact List.mem_cons_of_mem _ (ih hmem hothers)

/-- Resolving the texts in a type leaves the missing value in it. -/
theorem AllowsMissing.resolve
    {read : String → Except Failure Shape}
    {strip : Bool}
    {s resolved : Shape}
    (h : s.AllowsMissing)
    (hresolved : s.resolve read strip = .ok resolved) :
    resolved.AllowsMissing := by
  rcases h with rfl | ⟨members, rfl, hmember⟩
  · cases hresolved
    exact .inl rfl
  · obtain ⟨types, htypes, hunion⟩ := Outcome.bind_eq_ok.mp hresolved
    exact allowsMissing_union? (noneType_mem_resolveAll hmember htypes) hunion

theorem AllowsMissing.bare_eq
    {s : Shape}
    (h : s.AllowsMissing) :
    s.bare = s := by
  rcases h with rfl | ⟨members, rfl, -⟩ <;> rfl

theorem AllowsMissing.modelType
    {names : Meanings}
    {s type : Shape}
    (h : s.AllowsMissing)
    (htype : s.modelType names = .ok type) :
    type.AllowsMissing := by
  have hsame : s.orMissing.inner = s := by
    rcases h with rfl | ⟨members, rfl, -⟩ <;> rfl
  obtain ⟨-, -, hrest⟩ := Outcome.bind_eq_ok.mp htype
  simp only [hsame] at hrest
  split at hrest
  · rename_i resolved hresolved
    cases hrest
    have hallows := h.resolve hresolved
    rw [hallows.bare_eq]
    exact hallows
  · cases hrest
    rw [h.bare_eq]
    exact h
  · cases hrest

end Shape

theorem Coercion.coerce_none
    {s : Shape}
    (h : s.AllowsMissing) :
    coerce s .none = .ok .none := by
  rcases h with rfl | ⟨members, rfl, hmember⟩
  · rfl
  · have hany : members.any Shape.isNoneType = true :=
      List.any_eq_true.mpr ⟨.noneType, hmember, rfl⟩
    rw [coerce, hany]
    rfl

theorem MemoryFilter.definition_eq_checkers
    {registry : Registry MemoryBehaviour}
    {callbacks : Callbacks}
    {shape : Shape}
    {raw : Value}
    {f : MemoryFilter}
    (h : define registry callbacks shape raw = .ok f) :
    (Memory.strategy registry callbacks).definition f.definition =
      .ok f.checkers := by
  obtain ⟨⟨⟩, -, hrest⟩ := Outcome.bind_eq_ok.mp h
  obtain ⟨d, -, hrest⟩ := Outcome.bind_eq_ok.mp hrest
  obtain ⟨checkers, hcheckers, hresult⟩ := Outcome.bind_eq_ok.mp hrest
  cases hresult
  exact hcheckers

theorem SqlFilter.definition_eq_builders
    {φ : Type}
    {registry : Registry (Sql.ColumnBehaviour φ)}
    {callbacks : Sql.TableCallbacks φ}
    {table : Sql.Table}
    {raw : Value}
    {s : SqlFilter φ}
    (h : define registry callbacks table raw = .ok s) :
    (Sql.strategy registry callbacks table).definition s.definition =
      .ok s.builders := by
  obtain ⟨⟨⟩, -, hrest⟩ := Outcome.bind_eq_ok.mp h
  obtain ⟨d, -, hrest⟩ := Outcome.bind_eq_ok.mp hrest
  obtain ⟨builders, hbuilders, hresult⟩ := Outcome.bind_eq_ok.mp hrest
  cases hresult
  exact hbuilders

namespace InputModel

theorem allowsMissing_fieldType
    {type field : Shape}
    (h : fieldType type = .ok field) :
    field.AllowsMissing := by
  obtain ⟨optional, hoptional, hmodel⟩ := Outcome.bind_eq_ok.mp h
  have hallows : optional.AllowsMissing :=
    Shape.allowsMissing_union?
      (List.mem_cons_of_mem _ (List.mem_singleton_self _)) hoptional
  exact hallows.modelType hmodel

/-! ## Fields of a model -/

variable {signatures : Signatures} {types : FieldTypes} {title : String}
variable {d : Definition}
variable {names : List String} {model : InputModel}

/-- A field belongs to a filter, has its attribute and may be missing. -/
def IsField (pair : String × String) (field : InputField) : Prop :=
  field.filterName = pair.1 ∧ field.attributeName = pair.2 ∧
    field.type.AllowsMissing

theorem isField_of_zip
    {pairs : List (String × String)}
    {given : List Shape}
    (hlength : pairs.length = given.length)
    (hgiven : ∀ type ∈ given, type.AllowsMissing) :
    List.Forall₂ IsField pairs
      ((pairs.zip given).map fun field => ⟨field.1.2, field.1.1, field.2⟩) := by
  induction pairs generalizing given with
  | nil => exact .nil
  | cons pair rest ih =>
      cases given with
      | nil => cases hlength
      | cons type given =>
          have hothers : ∀ other ∈ given, other.AllowsMissing :=
            fun other hmem => hgiven other (List.mem_cons_of_mem _ hmem)
          refine .cons ⟨rfl, rfl, hgiven type List.mem_cons_self⟩ ?_
          exact ih (Nat.succ.inj hlength) hothers

/-- A model has one field for each filter, in the order of the definition. -/
theorem isField_of_build
    (hmodel : build signatures types title d = .ok model)
    (hnames : filterNames d = .ok names) :
    List.Forall₂ IsField (attributeNames reserved.contains names)
      model.fields := by
  obtain ⟨names', hnames', hrest⟩ := Outcome.bind_eq_ok.mp hmodel
  obtain ⟨expected, hexpected, hrest⟩ := Outcome.bind_eq_ok.mp hrest
  obtain ⟨given, hgiven, hresult⟩ := Outcome.bind_eq_ok.mp hrest
  rw [hnames] at hnames'
  cases hnames'
  cases hresult
  refine isField_of_zip ?_ fun type hmem => ?_
  · have hattributes :=
      congrArg List.length (map_fst_attributeNames reserved.contains names)
    rw [List.length_map] at hattributes
    rw [hattributes, ← Outcome.length_of_mapM hnames,
      Outcome.length_of_mapM hexpected, Outcome.length_of_mapM hgiven]
  · obtain ⟨declared, -, htype⟩ :=
      Outcome.forall₂_mem_right (Outcome.mapM_eq_ok_iff.mp hgiven) hmem
    exact allowsMissing_fieldType htype

/-! ## From a mapping to an instance -/

/-- The inputs of a mapping under names, in the order of the names. -/
def namedInputs (names : List String) (data : List (Value × Value)) :
    List (Value × Value) :=
  names.map fun name => (.text name, (Value.field? name data).getD .none)

theorem field?_eq_none
    {data : List (Value × Value)}
    {name : String}
    (hkeys : ∀ entry ∈ data, ∃ known ∈ names, entry.1.text? = some known)
    (hmem : name ∉ names) :
    Value.field? name data = none := by
  induction data with
  | nil => rfl
  | cons entry rest ih =>
      obtain ⟨known, hknown, htext⟩ := hkeys entry List.mem_cons_self
      have hother : ¬ entry.1.text? = some name := by
        rw [htext, Option.some_inj]
        rintro rfl
        exact hmem hknown
      rw [Value.field?_cons, if_neg hother]
      exact ih fun other hother => hkeys other (List.mem_cons_of_mem _ hother)

/-- A field takes the value under the name of its filter, and no other one. -/
theorem datum_eq
    {data : List (Value × Value)}
    {pair : String × String}
    {field : InputField}
    (hkeys : ∀ entry ∈ data, ∃ known ∈ names, entry.1.text? = some known)
    (hpair : pair ∈ attributeNames reserved.contains names)
    (hfield : IsField pair field) :
    datum data field = (Value.field? field.filterName data).getD .none := by
  obtain ⟨hfilter, hattribute, -⟩ := hfield
  unfold datum
  rw [hfilter, hattribute]
  by_cases hmem : pair.2 ∈ names
  · rw [eq_of_attribute_mem leavesGenerated_reserved hpair hmem, Option.or_self]
  · rw [field?_eq_none hkeys hmem, Option.or_none]

/-- Fields whose data are stored as they are give an instance of these data. -/
theorem coerceFields_eq
    {data : List (Value × Value)}
    {fields : List InputField}
    (h : ∀ field ∈ fields,
      Coercion.coerce field.type (datum data field) = .ok (datum data field)) :
    coerceFields data fields =
      (fields.map fun field =>
        (field.attributeName, some field.filterName, datum data field),
        []) := by
  induction fields with
  | nil => rfl
  | cons field rest ih =>
      have hrest := ih fun other hmem => h other (List.mem_cons_of_mem _ hmem)
      simp [coerceFields, hrest, h field List.mem_cons_self]

/-! ## From an instance to inputs -/

theorem insertEntry_text
    {name : String}
    {seen : List String}
    (value : String → Value)
    (h : name ∉ seen) :
    Value.insertEntry (.text name) (value name)
        (seen.map fun n => (.text n, value n)) =
      (seen ++ [name]).map fun n => (.text n, value n) := by
  induction seen with
  | nil => rfl
  | cons other rest ih =>
      rw [List.mem_cons, not_or] at h
      rw [List.map_cons, Value.insertEntry,
        if_neg (mt (Value.eq_iff_of_text? rfl rfl).mp h.1), ih h.2]
      rfl

/-- Entries under different names stay as they are. -/
theorem distinctEntries_text
    (value : String → Value)
    (h : names.Nodup) :
    Value.distinctEntries (names.map fun n => (Value.text n, value n)) =
      names.map fun n => (Value.text n, value n) := by
  have hstep :
      ∀ seen rest : List String, (seen ++ rest).Nodup →
        (rest.map fun n => (Value.text n, value n)).foldl
            (fun seen entry => Value.insertEntry entry.1 entry.2 seen)
            (seen.map fun n => (Value.text n, value n)) =
          (seen ++ rest).map fun n => (Value.text n, value n) := by
    intro seen rest hnodup
    induction rest generalizing seen with
    | nil => simp
    | cons name rest ih =>
        have hsplit : seen ++ name :: rest = seen ++ [name] ++ rest := by simp
        have hnew : name ∉ seen := by
          rw [List.nodup_append] at hnodup
          intro hmem
          exact hnodup.2.2 name hmem name List.mem_cons_self rfl
        rw [hsplit] at hnodup ⊢
        rw [List.map_cons, List.foldl_cons, insertEntry_text value hnew]
        exact ih _ hnodup
  exact hstep [] names h

theorem map_filterName
    {pairs : List (String × String)}
    {fields : List InputField}
    (h : List.Forall₂ IsField pairs fields) :
    fields.map InputField.filterName = pairs.map Prod.fst := by
  induction h with
  | nil => rfl
  | cons hfirst _ ih => rw [List.map_cons, List.map_cons, ih, hfirst.1]

theorem inputs_model
    {data : List (Value × Value)}
    {fields : List InputField}
    (hfields : fields.map InputField.filterName = names)
    (hdistinct : names.Nodup)
    (hnonempty : "" ∉ names) :
    (Value.model 0 (fields.map fun field =>
        (field.attributeName, some field.filterName,
          (Value.field? field.filterName data).getD .none))).inputs =
      .ok (namedInputs names data) := by
  have hkeys :
      fields.map (fun field =>
          (Value.text (Value.fieldKey field.attributeName
            (some field.filterName)),
            (Value.field? field.filterName data).getD .none)) =
        namedInputs names data := by
    rw [namedInputs, ← hfields, List.map_map]
    refine List.map_congr_left fun field hmem => ?_
    have hname : field.filterName ≠ "" := by
      rintro hempty
      exact hnonempty (hempty ▸ hfields ▸ List.mem_map_of_mem hmem)
    simp [Value.fieldKey, hname]
  rw [Value.inputs, List.map_map]
  refine congrArg Except.ok ?_
  have hentries :=
    distinctEntries_text (fun n => (Value.field? n data).getD .none) hdistinct
  exact (congrArg Value.distinctEntries hkeys).trans hentries

/-! ## What filters see -/

theorem field?_namedInputs
    {data : List (Value × Value)}
    {name : String}
    (hmem : name ∈ names) :
    Value.field? name (namedInputs names data) =
      some ((Value.field? name data).getD .none) := by
  induction names with
  | nil => cases hmem
  | cons other rest ih =>
      unfold namedInputs at ih ⊢
      simp only [List.map_cons, Value.field?_cons, Value.text?_text,
        Option.some_inj]
      split
      · rename_i hsame
        rw [hsame]
      · rename_i hother
        rcases List.mem_cons.mp hmem with rfl | hrest
        · exact absurd rfl hother
        · exact ih hrest

theorem active?_namedInputs
    {data : List (Value × Value)}
    {name : Name}
    (hmem : name.content ∈ names) :
    Value.active? name (namedInputs names data) = Value.active? name data := by
  unfold Value.active?
  rw [field?_namedInputs hmem]
  cases Value.field? name.content data <;> rfl

/-- What is compiled of a definition goes by the names of the definition. -/
theorem content_mem_of_compiled
    {γ : Type}
    {s : Strategy γ}
    {compiled : List (Name × γ)}
    (hnames : filterNames d = .ok names)
    (hcompiled : s.definition d = .ok compiled) :
    ∀ named ∈ compiled, named.1.content ∈ names := by
  intro named hmem
  obtain ⟨entry, hentry, hname, -⟩ :=
    Outcome.forall₂_mem_right (Strategy.definition_eq_ok_iff.mp hcompiled) hmem
  obtain ⟨name, hmember, htext⟩ :=
    Outcome.forall₂_mem_left (Outcome.mapM_eq_ok_iff.mp hnames) hentry
  rw [Value.text?, hname] at htext
  cases htext
  exact hmember

theorem activeAmong_namedInputs
    {γ : Type}
    {s : Strategy γ}
    {compiled : List (Name × γ)}
    (hnames : filterNames d = .ok names)
    (hcompiled : s.definition d = .ok compiled)
    (data : List (Value × Value)) :
    Value.activeAmong compiled (namedInputs names data) =
      Value.activeAmong compiled data :=
  MemoryFilter.activeAmong_congr fun named hmem =>
    active?_namedInputs (content_mem_of_compiled hnames hcompiled named hmem)

/-- **An instance carries its inputs.**  A model of a definition takes every
mapping from some of its names to values that are stored as they are.  The
instance counts as these inputs, under all names in their order, and no filter
of the definition can tell it from the mapping. -/
theorem inputs_of_validated
    {form : MappingForm}
    {data : List (Value × Value)}
    (hmodel : build signatures types title d = .ok model)
    (hnames : filterNames d = .ok names)
    (hdistinct : names.Nodup)
    (hnonempty : "" ∉ names)
    (hkeys : ∀ entry ∈ data, ∃ name ∈ names, entry.1.text? = some name)
    (hcomplete : model.isComplete = true)
    (hstored :
      ∀ field ∈ model.fields, ∀ v, Value.field? field.filterName data = some v →
      Coercion.coerce field.type v = .ok v) :
    ∃ filled, model.validate (.mapping form data) = .ok filled ∧
      filled.inputs =
        .ok (names.map fun name =>
          (.text name, (Value.field? name data).getD .none)) ∧
      (∀ registry callbacks shape raw f,
        MemoryFilter.define registry callbacks shape raw = .ok f →
        f.definition = d →
        f.predicate filled = f.predicate (.mapping form data)) ∧
      ∀ (φ : Type) (registry : Registry (Sql.ColumnBehaviour φ)) callbacks
        table raw s,
        SqlFilter.define registry callbacks table raw = .ok s →
        s.definition = d →
        s.condition filled = s.condition (.mapping form data) := by
  have hfields := isField_of_build hmodel hnames
  have hfilters : model.fields.map InputField.filterName = names := by
    rw [map_filterName hfields, map_fst_attributeNames]
  have hdatum :
      ∀ field ∈ model.fields,
        datum data field = (Value.field? field.filterName data).getD .none ∧
          Coercion.coerce field.type (datum data field) =
            .ok (datum data field) := by
    intro field hmem
    obtain ⟨pair, hpair, hfield⟩ := Outcome.forall₂_mem_right hfields hmem
    have htaken := datum_eq hkeys hpair hfield
    refine ⟨htaken, ?_⟩
    rw [htaken]
    cases hvalue : Value.field? field.filterName data with
    | none => exact Coercion.coerce_none hfield.2.2
    | some v => exact hstored field hmem v hvalue
  have hcoerced := coerceFields_eq fun field hmem => (hdatum field hmem).2
  have hvalues :
      (model.fields.map fun field =>
          (field.attributeName, some field.filterName, datum data field)) =
        model.fields.map fun field =>
          (field.attributeName, some field.filterName,
            (Value.field? field.filterName data).getD .none) := by
    refine List.map_congr_left fun field hmem => ?_
    rw [(hdatum field hmem).1]
  have hinputs :=
    @inputs_model names data model.fields hfilters hdistinct hnonempty
  refine ⟨.model 0 (model.fields.map fun field =>
    (field.attributeName, some field.filterName,
      (Value.field? field.filterName data).getD .none)), ?_, hinputs, ?_, ?_⟩
  · simp [validate, hcomplete, Value.entries?, hcoerced, hvalues]
  · intro registry callbacks shape raw f hdefine hsame
    have hcompiled := hsame ▸ MemoryFilter.definition_eq_checkers hdefine
    have hactive := activeAmong_namedInputs hnames hcompiled data
    rw [MemoryFilter.predicate_eq_passes hinputs,
      MemoryFilter.predicate_eq_passes rfl]
    unfold MemoryFilter.active
    rw [hactive]
  · intro φ registry callbacks table raw s hdefine hsame
    have hcompiled := hsame ▸ SqlFilter.definition_eq_builders hdefine
    have hactive := activeAmong_namedInputs hnames hcompiled data
    rw [SqlFilter.condition_eq_join hinputs, SqlFilter.condition_eq_join rfl,
      hactive]

/-- Two names that cannot be attributes, around one that looks like a generated
attribute. -/
def mixedNames : Value :=
  .ofFields [
    ("a-b", .comparison (.kind .eq) (.text "x") (.bool false)),
    ("filter_0", .comparison (.kind .eq) (.text "y") (.bool false)),
    ("copy", .callback 0 "copy" [])]

/-- Inputs for two of the names, in another order. -/
def mixedInputs : List (Value × Value) :=
  [(.text "filter_0", .int 2), (.text "a-b", .int 1)]

theorem attributeNames_mixed :
    attributeNames reserved.contains ["a-b", "filter_0", "copy"] =
      [("a-b", "filter_0_"), ("filter_0", "filter_0"),
        ("copy", "filter_2")] := by
  decide +kernel

/-- The generated attributes keep clear of the name that looks like one. -/
theorem mixedNames_carried :
    ∃ f model filled,
      MemoryFilter.define Memory.defaultRegistry (fun _ _ _ => .ok true) .absent
        mixedNames = .ok f ∧
      f.inputModel (fun _ => none) none = .ok model ∧
      model.fields.map InputField.attributeName =
        ["filter_0_", "filter_0", "filter_2"] ∧
      model.validate (.mapping .plain mixedInputs) = .ok filled ∧
      filled.inputs =
        .ok [(.text "a-b", .int 1), (.text "filter_0", .int 2),
          (.text "copy", .none)] ∧
      f.predicate filled = f.predicate (.mapping .plain mixedInputs) := by
  obtain ⟨f, hf, hdefinition, hshape⟩ :
      ∃ f,
        MemoryFilter.define Memory.defaultRegistry (fun _ _ _ => .ok true)
          .absent mixedNames = .ok f ∧
        f.definition = [
          (.text "a-b", .comparison ⟨.kind .eq, .text "x", .bool false⟩),
          (.text "filter_0", .comparison ⟨.kind .eq, .text "y", .bool false⟩),
          (.text "copy", .custom ⟨0, "copy", []⟩)] ∧
        f.shape = .absent := ⟨_, rfl, rfl, rfl⟩
  have hnames : filterNames f.definition = .ok ["a-b", "filter_0", "copy"] := by
    rw [hdefinition]
    rfl
  have hexpected :
      (f.definition.mapM fun entry =>
          inputType (fun _ => none) (shapeTypes f.shape) entry.1 entry.2) =
        .ok [.any, .any, .any] := by
    rw [hdefinition, hshape]
    rfl
  have htypes :
      [Shape.any, .any, .any].mapM fieldType =
        .ok (List.replicate 3 (Shape.union false [.any, .noneType])) := by
    rfl
  obtain ⟨model, hmodel, hfields⟩ :
      ∃ model, f.inputModel (fun _ => none) none = .ok model ∧
        model.fields = [
          ⟨"filter_0_", "a-b", .union false [.any, .noneType]⟩,
          ⟨"filter_0", "filter_0", .union false [.any, .noneType]⟩,
          ⟨"filter_2", "copy", .union false [.any, .noneType]⟩] := by
    unfold MemoryFilter.inputModel build
    rw [hnames, hexpected, Outcome.ok_bind, Outcome.ok_bind, htypes,
      Outcome.ok_bind, attributeNames_mixed]
    exact ⟨_, rfl, rfl⟩
  obtain ⟨filled, hvalidate, hinputs, hmemory, -⟩ :=
    @inputs_of_validated _ _ _ _ _ _ .plain mixedInputs hmodel hnames
      (by decide) (by decide) (by simp [mixedInputs])
      (by
        unfold isComplete
        rw [hfields]
        rfl)
      (by
        rw [hfields]
        intro field hmem v _
        simp only [List.mem_cons, List.not_mem_nil, or_false] at hmem
        rcases hmem with rfl | rfl | rfl <;> cases v <;> rfl)
  refine ⟨f, model, filled, hf, hmodel, ?_, hvalidate, hinputs, ?_⟩
  · rw [hfields]
    rfl
  · exact hmemory _ _ _ _ _ hf rfl

end InputModel
end RecordFilter
