import RecordFilter.Proofs.Conditions

/-!
# Normalisation

Parsing brings a definition into a normal form: every entry is a value of its
own, and so are the conditions of the groups that were mappings.  This module
shows that the normal form of a valid definition can take its place.

**Method.**  A filter that needs no parsing is left as it is, so only mappings
have to be looked at.  A comparison keeps its field, its flag and its kind, and
whether it has problems depends on nothing else; a group keeps its conditions.

**Main results.**
* `Definition.parse_toValue`: a normal form is its own normal form.
* `Validation.violations_toValue`: the normal form of a valid
  definition is valid.
* `Definition.parse_keeps_meaning`: both, and the normal form is compiled to the
  same filter.
-/

namespace RecordFilter

open Grammar

/-! ## Parsing again -/

namespace Filter

@[simp] theorem ofValue?_toValue
    (f : Filter) :
    ofValue? f.toValue = some f := by
  cases f <;> rfl

theorem toValue_of_ofValue?
    {raw : Value}
    {f : Filter}
    (h : ofValue? raw = some f) :
    f.toValue = raw := by
  cases raw <;> cases h <;> rfl

theorem parse_of_ofValue?
    {raw : Value}
    {f : Filter}
    (h : ofValue? raw = some f) :
    parse raw = .ok f := by
  simp only [parse, h]

theorem parse_toValue
    (f : Filter) :
    parse f.toValue = .ok f :=
  parse_of_ofValue? f.ofValue?_toValue

end Filter

/-- A definition in normal form is parsed to itself. -/
theorem Definition.parse_toValue
    (d : Definition) :
    parse d.toValue = .ok d := by
  have hentries :
      d.toValue.entries? =
        some (d.map fun entry => (entry.1, entry.2.toValue)) := rfl
  rw [parse_eq_ok_iff hentries, List.forall₂_map_left_iff, List.forall₂_same]
  exact fun entry _ => ⟨rfl, entry.2.parse_toValue⟩

/-! ## Comparisons -/

namespace Comparison

variable {raw : Value} {c : Comparison}

theorem field_of_parse
    (h : parse raw = .ok c) :
    c.field = Validation.fieldOf raw := by
  cases raw with
  | mapping form entries =>
      simp only [parse, Value.entries?] at h
      cases hkind : Value.field? "kind" entries with
      | none =>
          rw [hkind] at h
          cases h
      | some kind =>
          rw [hkind] at h
          cases h
          rfl
  | _ => cases h

/-- Parsing a condition keeps its field. -/
theorem fieldOf_toValue
    (h : parseCondition raw = .ok c.toValue) :
    Validation.fieldOf c.toValue = Validation.fieldOf raw := by
  unfold parseCondition at h
  cases hvalue : raw.comparison? with
  | some own =>
      rw [hvalue] at h
      cases h
      rfl
  | none =>
      rw [hvalue] at h
      obtain ⟨c', hparse, hsame⟩ := Outcome.bind_eq_ok.mp h
      rw [← Except.ok.inj hsame]
      exact field_of_parse hparse

/-- A comparison is still one after parsing. -/
theorem Agrees.isComparison_toValue
    (hagrees : c.Agrees raw)
    (h : Declared.isComparison raw = true) :
    Declared.isComparison c.toValue = true := by
  have hkind : Declared.kind? c.toValue = Declared.kind? raw := hagrees.kind
  rw [Declared.isComparison, Bool.and_eq_true] at h ⊢
  exact ⟨rfl, hkind ▸ h.2⟩

end Comparison

/-! ## Validating again -/

namespace Validation

variable {scope : Scope} {shape : Shape} {owner : Option String}
variable {key raw : Value} {f : Filter}

/-- A comparison has problems after parsing exactly if it has some before. -/
theorem comparisonProblems_toValue
    {c : Comparison}
    (h : Declared.isComparison raw = true)
    (hparse : Filter.parse raw = .ok (.comparison c))
    (name : Option Name) :
    Declared.isComparison c.toValue = true ∧
      (comparisonProblems scope name c.toValue = .ok [] ↔
        comparisonProblems scope name raw = .ok []) := by
  obtain ⟨c', hc', hcondition, hagrees⟩ := Comparison.exists_parse h
  rw [hparse] at hc'
  cases hc'
  refine ⟨hagrees.isComparison_toValue h,
    comparisonProblems_eq_ok_nil_congr (Comparison.fieldOf_toValue hcondition)
      ?_ name⟩
  have hkind : Declared.kind? c.toValue = Declared.kind? raw := hagrees.kind
  have hflag : Declared.ignoresCase c.toValue = Declared.ignoresCase raw :=
    hagrees.flag
  rw [flagProblems_eq_ok_nil_iff, flagProblems_eq_ok_nil_iff, hkind, hflag]

theorem entryViolations_comparison_toValue
    {name : Name}
    (hname : key.name? = some name)
    (hne : name.content ≠ "")
    (h : IsComparison shape (some name.content) raw)
    (hparse : Filter.parse raw = .ok f)
    (hvalid : entryViolations scope (key, raw) = .ok []) :
    entryViolations scope (key, f.toValue) = .ok [] := by
  obtain ⟨c, hc, -, -⟩ := Comparison.exists_parse h.isComparison
  rw [hparse] at hc
  cases hc
  obtain ⟨hcomparison, hproblems⟩ :=
    @comparisonProblems_toValue scope raw c h.isComparison hparse (some name)
  rw [entryViolations_eq_ok_nil_iff hname hne h.isComparison] at hvalid
  exact (entryViolations_eq_ok_nil_iff hname hne hcomparison).mpr
    (hproblems.mpr hvalid)

theorem entryViolations_group_toValue
    {name : Name}
    (hname : key.name? = some name)
    (hne : name.content ≠ "")
    (h : IsGroup shape raw)
    (hsettled : Filter.isSettled raw = true)
    (hparse : Filter.parse raw = .ok f)
    (hvalid : entryViolations scope (key, raw) = .ok []) :
    entryViolations scope (key, f.toValue) = .ok [] := by
  obtain ⟨k, hkind, hgroups⟩ := h.kind
  obtain ⟨conditions, hconditions, hnonempty, heach⟩ := h.conditions
  obtain ⟨kind, cs, hgroup, hk, hcs⟩ :=
    Filter.exists_parse_group hkind hgroups hconditions hsettled
      fun condition hmem => (heach condition hmem).isComparison
  rw [hparse] at hgroup
  cases hgroup
  have hnonempty' : cs.map Comparison.toValue ≠ [] := by
    intro hnil
    rw [List.map_eq_nil_iff] at hnil
    subst hnil
    exact hnonempty (List.forall₂_nil_right_iff.mp hcs)
  rw [entryViolations_of_isGroup hname hne hkind hgroups hconditions
    hnonempty] at hvalid
  have hkind' :
      Declared.kind? (Filter.group kind (cs.map Comparison.toValue)).toValue =
        some k := hk
  refine (entryViolations_of_isGroup hname hne hkind' hgroups rfl
    hnonempty').mpr ?_
  rw [List.forall_mem_map]
  intro c hmem
  obtain ⟨condition, hcondition, hparsed⟩ := Outcome.forall₂_mem_right hcs hmem
  have hcomparison := (heach condition hcondition).isComparison
  obtain ⟨hcomparison', hproblems⟩ :=
    @comparisonProblems_toValue scope condition c hcomparison hparsed none
  rw [conditionProblems_of_isComparison hcomparison', hproblems,
    ← conditionProblems_of_isComparison hcomparison]
  exact hvalid condition hcondition

/-- An entry that passes still passes after parsing. -/
theorem entryViolations_toValue
    (hentry : IsEntry shape (key, raw))
    (hparse : Filter.parse raw = .ok f)
    (hvalid : entryViolations scope (key, raw) = .ok []) :
    entryViolations scope (key, f.toValue) = .ok [] := by
  cases hform : Filter.ofValue? raw with
  | some own =>
      rw [Filter.parse_of_ofValue? hform] at hparse
      cases hparse
      rwa [Filter.toValue_of_ofValue? hform]
  | none =>
      obtain ⟨text, hkey, hne, hfilter⟩ := hentry
      obtain ⟨name, hname, rfl⟩ := Option.map_eq_some_iff.mp hkey
      cases hfilter with
      | custom hcallback => cases raw <;> cases hform <;> cases hcallback
      | comparison h =>
          exact entryViolations_comparison_toValue hname hne h hparse hvalid
      | group h =>
          have hsettled : Filter.isSettled raw = true := by
            cases raw <;> first | rfl | cases hform
          exact entryViolations_group_toValue hname hne h hsettled hparse hvalid

/-- The normal form of a valid definition is valid. -/
theorem violations_toValue
    {d : Definition}
    (hvalid : violations raw shape owner = .ok [])
    (hparse : Definition.parse raw = .ok d) :
    violations d.toValue shape owner = .ok [] := by
  obtain ⟨entries, hentries⟩ := Definition.exists_entries hparse
  have hgrammar := isEntry_of_no_violations hentries hvalid
  obtain ⟨fields, hfields, heach⟩ :=
    (violations_eq_ok_nil_iff hentries).mp hvalid
  refine (violations_eq_ok_nil_iff rfl).mpr ⟨fields, hfields, ?_⟩
  rw [List.forall_mem_map]
  intro parsed hmem
  obtain ⟨⟨key, raw⟩, hentry, hkey, hfilter⟩ :=
    Outcome.forall₂_mem_right
      ((Definition.parse_eq_ok_iff hentries).mp hparse) hmem
  rw [hkey]
  exact entryViolations_toValue (hgrammar _ hentry) hfilter (heach _ hentry)

end Validation

/-! ## Defining again -/

variable {registry : Registry MemoryBehaviour} {callbacks : Callbacks}
variable {shape : Shape}
variable {raw : Value}

/-- A filter can be defined again from its definition. -/
theorem MemoryFilter.define_toValue
    {f : MemoryFilter}
    (h : define registry callbacks shape raw = .ok f) :
    define registry callbacks shape f.definition.toValue = .ok f := by
  obtain ⟨hvalid, hparse, hcheckers, hshape⟩ := define_eq_ok_iff.mp h
  exact define_eq_ok_iff.mpr ⟨Validation.violations_toValue hvalid hparse,
    f.definition.parse_toValue, hcheckers, hshape⟩

/-- **Parsing keeps validity and meaning.**  The parsed form of a valid
definition is parsed to itself and is valid, and a filter defined from it has
the names and the predicates of a filter defined from the definition. -/
theorem Definition.parse_keeps_meaning
    {owner : Option String}
    {d : Definition}
    (hvalid : Validation.violations raw shape owner = .ok [])
    (hparse : parse raw = .ok d) :
    parse d.toValue = .ok d ∧
      Validation.violations d.toValue shape owner = .ok [] ∧
      ∀ registry callbacks f,
        MemoryFilter.define registry callbacks shape raw = .ok f →
        ∃ f', MemoryFilter.define registry callbacks shape
          f.definition.toValue = .ok f' ∧
          f'.names = f.names ∧
          ∀ given, f'.predicate given = f.predicate given := by
  refine ⟨d.parse_toValue, Validation.violations_toValue hvalid hparse, ?_⟩
  intro registry callbacks f hdefine
  exact ⟨f, MemoryFilter.define_toValue hdefine, rfl, fun _ => rfl⟩

/-- A definition with both spellings of the flag, with conditions in both forms,
and with a callback. -/
def Definition.untidy : Value :=
  .ofFields [
    ("email", .ofFields
      [("kind", .text "contains"), ("case_insensitive", .int 1)]),
    ("either", .ofFields [("kind", .text "or"), ("conditions", .tuple [
      .ofFields [("kind", .kind .eq), ("field", .text "age")],
      .ofFields [("kind", .text "contains"), ("field", .text "email"),
        ("caseInsensitive", .bool true)],
      .comparison (.text "isNull") (.text "age") (.bool false)])]),
    ("own", .callback 0 "own" [])]

/-- The names of the fields that the definition above compares. -/
def Definition.untidyShape : Shape :=
  .constant (.list [.text "age", .text "email"])

theorem Definition.untidy_kept :
    ∃ d f f',
      parse untidy = .ok d ∧ parse d.toValue = .ok d ∧
      Validation.violations d.toValue untidyShape none = .ok [] ∧
      MemoryFilter.define Memory.defaultRegistry (fun _ _ _ => .ok true)
        untidyShape untidy = .ok f ∧
      MemoryFilter.define Memory.defaultRegistry (fun _ _ _ => .ok true)
        untidyShape f.definition.toValue = .ok f' ∧
      f'.names = [.text "email", .text "either", .text "own"] := by
  have hvalid : Validation.violations untidy untidyShape none = .ok [] := by
    rfl
  obtain ⟨d, checkers, hparse, hcheckers, hlabels⟩ :
      ∃ d checkers, parse untidy = .ok d ∧
        (Memory.strategy Memory.defaultRegistry fun _ _ _ =>
          .ok true).definition d = .ok checkers ∧
        checkers.map (·.1) = [.text "email", .text "either", .text "own"] :=
    ⟨_, _, rfl, rfl, rfl⟩
  have hdefine :
      MemoryFilter.define Memory.defaultRegistry (fun _ _ _ => .ok true)
        untidyShape untidy = .ok ⟨untidyShape, d, checkers⟩ := by
    rw [MemoryFilter.define_of_valid hvalid hparse, hcheckers]
    rfl
  obtain ⟨hagain, hvalid', hkept⟩ := parse_keeps_meaning hvalid hparse
  obtain ⟨f', hdefine', hnames, -⟩ := hkept _ _ _ hdefine
  exact ⟨d, _, f', hparse, hagain, hvalid', hdefine, hdefine',
    hnames.trans hlabels⟩

end RecordFilter
