import RecordFilter.Proofs.Parsing

/-!
# The mapping form of filters

A comparison or a group can be written as a mapping instead of as a value of its
own.  The mapping form leaves out a missing field and a flag that is not set.

**Reading.**  What is read from the mapping form of a comparison (its
kind, its field, its flag) is what the comparison has.  Parsing, which
reads these entries, gives the comparison back; so it does for a group,
condition by condition.

**Checking.**  Validation looks at a comparison through the same three readings,
and at a group through its kind and its conditions.  It cannot tell the two
forms apart, whatever is wrong with the field, the kind, the flag or the path.

**Main result.**
* `parse_and_violations_declaration`: the mapping form of a filter is parsed to
  the filter, and has the same violations under every key and for every shape.
-/

namespace RecordFilter

/-! ## Kinds -/

theorem Value.coerceKind_kindDeclaration
    (v : Value) :
    v.kindDeclaration.coerceKind = v.coerceKind := by
  unfold coerceKind
  rw [kind?_kindDeclaration]
  cases hk : v.kind? with
  | some k => rfl
  | none =>
      cases v with
      | kind k => cases hk
      | _ => rfl

namespace Comparison

/-- Is a comparison of the kind of a comparison, or of a text that
declares no kind? -/
inductive ComparesBy : Value → Prop
  | known
      {k : Kind}
      (compares : k.isGroup = false) :
      ComparesBy (.kind k)
  | unknown
      {v : Value}
      {s : String}
      (text : v.text? = some s)
      (noKind : v.kind? = none) :
      ComparesBy v

/-- A comparison as it is made: a kind that is given by its text has become the
kind, and the flag is a truth value. -/
structure IsMade (c : Comparison) : Prop where
  kind : c.kind.coerceKind = c.kind
  flag : ∃ b, c.ignoreCase = .bool b

theorem ComparesBy.coerceKind_eq
    {v : Value}
    (h : ComparesBy v) :
    v.coerceKind = v := by
  cases h with
  | known => rfl
  | unknown _ noKind =>
      unfold Value.coerceKind
      rw [noKind]

theorem ComparesBy.isGroupKind_eq
    {v : Value}
    (h : ComparesBy v) :
    v.kindDeclaration.isGroupKind = .ok false := by
  cases h with
  | @known k compares =>
      have hk : (Value.kind k).kindDeclaration.kind? = some k :=
        Kind.ofText?_text k
      rw [Value.isGroupKind_of_kind? hk, compares]
  | unknown text noKind =>
      cases v with
      | text s =>
          simp only [Value.kindDeclaration, Value.isGroupKind,
            Value.isKindAmong, noKind]; rfl
      | operator op =>
          simp only [Value.kindDeclaration, Value.isGroupKind,
            Value.isKindAmong, noKind]; rfl
      | kind k => cases noKind
      | _ => cases text

/-! ## Reading the mapping form of a comparison -/

/-- The entries of the mapping form of a comparison. -/
def declaredEntries (c : Comparison) : List (Value × Value) :=
  let fields : List (String × Value) :=
    ("kind", c.kind.kindDeclaration)
      :: (if c.field.isNone then [] else [("field", c.field)])
      ++ (if c.ignoreCase.truth then [("caseInsensitive", .bool true)] else [])
  fields.map fun field => (.text field.1, field.2)

/-- The mapping form of a comparison. -/
def mappingForm (c : Comparison) : Value := .mapping .plain c.declaredEntries

theorem declaration_toValue
    (c : Comparison) :
    c.toValue.declaration = .ok c.mappingForm := by
  rfl

theorem field?_kind
    (c : Comparison) :
    Value.field? "kind" c.declaredEntries = some c.kind.kindDeclaration := by
  simp [declaredEntries, Value.field?_cons]

theorem field?_field
    (c : Comparison) :
    (Value.field? "field" c.declaredEntries).getD .none = c.field := by
  cases hfield : c.field.isNone with
  | true =>
      have hnone : c.field = .none := by
        cases hvalue : c.field with
        | none => rfl
        | _ =>
            rw [hvalue] at hfield
            cases hfield
      have hmissing : Value.field? "field" c.declaredEntries = none := by
        cases hflag : c.ignoreCase.truth <;>
          simp [declaredEntries, Value.field?_cons, hfield, hflag]
      rw [hmissing, hnone]
      rfl
  | false =>
      simp [declaredEntries, Value.field?_cons, hfield]

theorem flag?_declaredEntries
    (c : Comparison) :
    flag? c.declaredEntries =
      if c.ignoreCase.truth then some (.bool true) else none := by
  cases hflag : c.ignoreCase.truth <;> cases hfield : c.field.isNone <;>
    simp [flag?, declaredEntries, Value.field?_cons, hfield, hflag]

/-- A comparison that was made as such is read back from its mapping form. -/
theorem parse_mappingForm
    {c : Comparison}
    (h : c.IsMade) :
    parse c.mappingForm = .ok c := by
  obtain ⟨b, hb⟩ := h.flag
  have hflag :
      Value.bool ((flag? c.declaredEntries).getD (.bool false)).truth =
        c.ignoreCase := by
    rw [flag?_declaredEntries, hb]
    cases b <;> rfl
  have hkind : c.kind.kindDeclaration.coerceKind = c.kind := by
    rw [Value.coerceKind_kindDeclaration, h.kind]
  simp only [parse, mappingForm, Value.entries?, field?_kind, field?_field,
    hflag, hkind]

theorem parseCondition_mappingForm
    {c : Comparison}
    (h : c.IsMade) :
    parseCondition c.mappingForm = .ok c.toValue := by
  have hparse := parse_mappingForm h
  unfold parseCondition
  change (do return (← parse c.mappingForm).toValue) = Except.ok c.toValue
  rw [hparse]
  rfl

end Comparison

open Comparison

/-! ## Parsing the mapping form of a filter -/

/-- A filter as it is made: a comparison that compares by its kind, or a group
of comparisons. -/
inductive Filter.IsMade : Filter → Prop
  | comparison
      {c : Comparison}
      (kind : ComparesBy c.kind)
      (flag : ∃ b, c.ignoreCase = .bool b) :
      IsMade (.comparison c)
  | group
      {k : Kind}
      {cs : List Comparison}
      (groups : k.isGroup = true)
      (each : ∀ c ∈ cs, c.IsMade) :
      IsMade (.group (.kind k) (cs.map Comparison.toValue))

theorem Value.declarations_comparisons
    (cs : List Comparison) :
    declarations (cs.map Comparison.toValue) = .ok (cs.map mappingForm) := by
  induction cs with
  | nil => rfl
  | cons c cs ih =>
      rw [List.map_cons, declarations, declaration_toValue, ih]
      rfl

/-- The mapping form of a group. -/
def groupForm (k : Kind) (cs : List Comparison) : Value :=
  .ofFields [("kind", .text k.text), ("conditions", .list (cs.map mappingForm))]

theorem declaration_group
    (k : Kind)
    (cs : List Comparison) :
    (Value.group (.kind k) (cs.map Comparison.toValue)).declaration =
      .ok (groupForm k cs) := by
  rw [Value.declaration, Value.declarations_comparisons]
  rfl

theorem mapM_parseCondition
    {cs : List Comparison}
    (h : ∀ c ∈ cs, c.IsMade) :
    (cs.map mappingForm).mapM parseCondition =
      .ok (cs.map Comparison.toValue) := by
  rw [Outcome.mapM_eq_ok_iff, List.forall₂_map_left_iff,
    List.forall₂_map_right_iff, List.forall₂_same]
  intro c hc
  exact parseCondition_mappingForm (h c hc)

theorem parse_comparisonForm
    {c : Comparison}
    (hkind : ComparesBy c.kind)
    (hflag : ∃ b, c.ignoreCase = .bool b) :
    Filter.parse c.mappingForm = .ok (.comparison c) := by
  change Filter.parseMapping c.mappingForm c.declaredEntries = _
  have hparse : parse c.mappingForm = .ok c :=
    parse_mappingForm ⟨hkind.coerceKind_eq, hflag⟩
  simp only [Filter.parseMapping, field?_kind, Option.getD_some,
    hkind.isGroupKind_eq, hparse, Outcome.ok_bind, Bool.false_eq_true, if_false,
    Outcome.pure_eq_ok]

theorem parse_groupForm
    {k : Kind}
    {cs : List Comparison}
    (hgroups : k.isGroup = true)
    (heach : ∀ c ∈ cs, c.IsMade) :
    Filter.parse (groupForm k cs) =
      .ok (.group (.kind k) (cs.map Comparison.toValue)) := by
  have hkind : (Value.text k.text).kind? = some k := Kind.ofText?_text k
  have hisGroup : (Value.text k.text).isGroupKind = .ok true := by
    rw [Value.isGroupKind_of_kind? hkind, hgroups]
  have hcoerce : (Value.text k.text).coerceKind = .kind k := by
    unfold Value.coerceKind
    rw [hkind]
  have hconditions := mapM_parseCondition heach
  have helements :
      (Value.list (cs.map mappingForm)).elements? = some (cs.map mappingForm) :=
        rfl
  change Filter.parseMapping (groupForm k cs)
    [(.text "kind", .text k.text),
      (.text "conditions", .list (cs.map mappingForm))] = _
  simp [Filter.parseMapping, Value.field?_cons, helements, hisGroup, hcoerce,
    hconditions]

/-! ## Checking the two forms -/

namespace Validation

/-- A comparison is checked through its kind, its field and its flag. -/
theorem comparisonProblems_congr
    {raw raw' : Value}
    (scope : Scope)
    (name : Option Name)
    (hkind : kindOf raw = kindOf raw')
    (hfield : fieldOf raw = fieldOf raw')
    (hflag : ignoresCase raw = ignoresCase raw') :
    comparisonProblems scope name raw = comparisonProblems scope name raw' := by
  simp only [comparisonProblems, flagProblems, hkind, hfield, hflag]

theorem kindOf_mappingForm
    (c : Comparison) :
    kindOf c.mappingForm = kindOf c.toValue := by
  change (Value.field? "kind" c.declaredEntries).getD .none =
    c.kind.kindDeclaration
  rw [field?_kind, Option.getD_some]

theorem comparisonProblems_mappingForm
    (scope : Scope)
    (name : Option Name)
    (c : Comparison) :
    comparisonProblems scope name c.mappingForm =
      comparisonProblems scope name c.toValue := by
  refine comparisonProblems_congr scope name (kindOf_mappingForm c) ?_ ?_
  · exact field?_field c
  · change ((flag? c.declaredEntries).getD .none).truth = c.ignoreCase.truth
    rw [flag?_declaredEntries]
    cases c.ignoreCase.truth <;> rfl

/-- A condition of any kind is checked alike in both forms. -/
theorem conditionProblems_mappingForm
    (scope : Scope)
    (c : Comparison) :
    conditionProblems scope c.mappingForm =
      conditionProblems scope c.toValue := by
  have hform : c.mappingForm.entries?.isNone = false := rfl
  have hvalue : c.toValue.comparison?.isNone = false := rfl
  simp only [conditionProblems, hform, hvalue, Bool.and_false, Bool.false_and,
    Bool.false_eq_true, if_false, kindOf_mappingForm,
    comparisonProblems_mappingForm]

theorem conditionsViolations_mappingForms
    (scope : Scope)
    (name : Name)
    (index : Nat)
    (cs : List Comparison) :
    conditionsViolations scope name index (cs.map mappingForm) =
      conditionsViolations scope name index (cs.map Comparison.toValue) := by
  induction cs generalizing index with
  | nil => rfl
  | cons c cs ih =>
      have hfirst :
          conditionViolations scope name index c.mappingForm =
            conditionViolations scope name index c.toValue := by
        unfold conditionViolations
        rw [conditionProblems_mappingForm]
      rw [List.map_cons, List.map_cons, conditionsViolations,
        conditionsViolations, hfirst, ih]

theorem filterViolations_comparisonForm
    {c : Comparison}
    (hkind : ComparesBy c.kind)
    (scope : Scope)
    (name : Name) :
    filterViolations scope name c.mappingForm =
      filterViolations scope name c.toValue := by
  have hisGroup : (kindOf c.toValue).isGroupKind = .ok false :=
    hkind.isGroupKind_eq
  have hform : formProblem? c.mappingForm (kindOf c.toValue) = .ok none := rfl
  have hvalue : formProblem? c.toValue (kindOf c.toValue) = .ok none := by
    simp only [Comparison.toValue] at hisGroup ⊢
    simp only [formProblem?, hisGroup, Outcome.ok_bind, Bool.false_eq_true,
      if_false, Outcome.pure_eq_ok]
  simp only [filterViolations, kindOf_mappingForm, hform, hvalue, hisGroup,
    Outcome.ok_bind, Bool.false_eq_true, if_false,
    comparisonProblems_mappingForm]

theorem filterViolations_groupForm
    {k : Kind}
    (hgroups : k.isGroup = true)
    (cs : List Comparison)
    (scope : Scope)
    (name : Name) :
    filterViolations scope name (groupForm k cs) =
      filterViolations scope name
        (.group (.kind k) (cs.map Comparison.toValue)) := by
  have hkind : (Value.text k.text).kind? = some k := Kind.ofText?_text k
  have hisGroup : (Value.text k.text).isGroupKind = .ok true := by
    rw [Value.isGroupKind_of_kind? hkind, hgroups]
  have hform : kindOf (groupForm k cs) = .text k.text := by
    simp [kindOf, groupForm, Value.ofFields, Value.field?_cons]
  have hvalue :
      kindOf (.group (.kind k) (cs.map Comparison.toValue)) = .text k.text :=
        rfl
  have hconditions :
      conditionsOf? (groupForm k cs) = some (cs.map mappingForm) := by
    simp [conditionsOf?, groupForm, Value.ofFields, Value.field?_cons]
  have hgroup :
      groupViolations scope name (groupForm k cs) =
        groupViolations scope name
          (.group (.kind k) (cs.map Comparison.toValue)) := by
    unfold groupViolations
    rw [hconditions, hform, hvalue]
    cases cs with
    | nil => rfl
    | cons c cs =>
        exact conditionsViolations_mappingForms scope name 0 (c :: cs)
  have hnone : formProblem? (groupForm k cs) (.text k.text) = .ok none := rfl
  have hnone' :
      formProblem? (.group (.kind k) (cs.map Comparison.toValue))
        (.text k.text) = .ok none := by
    simp only [formProblem?, hisGroup, Outcome.ok_bind, if_true,
      Outcome.pure_eq_ok]
  simp only [filterViolations, hform, hvalue, hnone, hnone', hisGroup,
    Outcome.ok_bind, if_true, hgroup]

/-- Two values in forms of a filter that are checked alike give
definitions that are. -/
theorem violations_single_congr
    {raw raw' : Value}
    (hform : isFilterForm raw = true)
    (hform' : isFilterForm raw' = true)
    (hsame : ∀ scope name,
      filterViolations scope name raw = filterViolations scope name raw')
    (key : Value)
    (shape : Shape)
    (owner : Option String) :
    violations (.mapping .plain [(key, raw)]) shape owner =
      violations (.mapping .plain [(key, raw')]) shape owner := by
  have hcallback : ∀ v, isFilterForm v = true → v.callback?.isSome = false := by
    intro v hv
    cases v <;> first | rfl | cases hv
  have hentry :
      ∀ scope,
        entryViolations scope (key, raw) =
          entryViolations scope (key, raw') := by
    intro scope
    simp only [entryViolations, hform, hform', hcallback raw hform,
      hcallback raw' hform', hsame, Bool.false_eq_true, if_false, if_true]
  simp only [violations, Value.entries?, entriesViolations, hentry]

end Validation

/-- **A filter and its mapping form are one definition**: parsing gives
the filter back, and under every key and for every shape the violations
are the same. -/
theorem Filter.parse_and_violations_declaration
    {f : Filter}
    (h : f.IsMade) :
    ∃ declared, f.toValue.declaration = .ok declared ∧
      declared.entries?.isSome = true ∧
      Filter.parse declared = .ok f ∧
      ∀ (key : Value) (shape : Shape) (owner : Option String),
        Validation.violations (.mapping .plain [(key, declared)]) shape owner =
          Validation.violations (.mapping .plain [(key, f.toValue)]) shape
            owner := by
  cases h with
  | @comparison c kind flag =>
      refine ⟨c.mappingForm, declaration_toValue c, rfl,
        parse_comparisonForm kind flag, ?_⟩
      exact Validation.violations_single_congr rfl rfl
        (Validation.filterViolations_comparisonForm kind)
  | @group k cs groups each =>
      refine ⟨groupForm k cs, declaration_group k cs, rfl,
        parse_groupForm groups each, ?_⟩
      exact Validation.violations_single_congr rfl rfl
        (Validation.filterViolations_groupForm groups cs)

/-- A group with a flag, whose second condition names no field. -/
def mixedGroup : Filter :=
  .group (.kind .or) [
    .comparison (.kind .contains) (.text "owner.email") (.bool true),
    .comparison (.kind .eq) .none (.bool false)]

/-- The missing field of the second condition is reported in the mapping
form as well. -/
theorem parse_and_violations_mixedGroup :
    mixedGroup.IsMade ∧
      ∃ declared, mixedGroup.toValue.declaration = .ok declared ∧
        Filter.parse declared = .ok mixedGroup ∧
        Validation.violations (.mapping .plain [(.text "search", declared)])
            Grammar.sampleShape none =
          .ok [⟨.text "search", .missingConditionField,
            some "conditions[1]"⟩] := by
  have hmade : mixedGroup.IsMade := by
    refine @Filter.IsMade.group .or [
      ⟨.kind .contains, .text "owner.email", .bool true⟩,
      ⟨.kind .eq, .none, .bool false⟩] rfl ?_
    intro c hc
    simp only [List.mem_cons, List.not_mem_nil, or_false] at hc
    rcases hc with rfl | rfl
    · exact ⟨rfl, true, rfl⟩
    · exact ⟨rfl, false, rfl⟩
  obtain ⟨declared, hdeclared, -, hparse, hsame⟩ :=
    Filter.parse_and_violations_declaration hmade
  refine ⟨hmade, declared, hdeclared, hparse, ?_⟩
  exact (hsame (.text "search") Grammar.sampleShape none).trans rfl

end RecordFilter
