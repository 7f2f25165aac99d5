import RecordFilter.Proofs.Acceptance

/-!
# Parsing what the grammar allows

This module connects the raw entries of the grammar with the parsed filters that
are compiled.

**Agreement.**  A parsed comparison agrees with a raw one if both have the same
kind, the same flag and the same path under every name.  A parsed filter agrees
with a raw one if their comparisons agree, condition by condition.

**Results.**
* `exists_parse`: every filter of the grammar is parsed.
* `exists_agrees`: what comes out agrees with the raw filter, provided that a
  group that is a value of its own holds no condition in mapping form.  Parsing
  leaves such a group as it is.
-/

namespace RecordFilter

/-! ## Kinds -/

@[simp] theorem Value.kind?_coerceKind
    (v : Value) :
    v.coerceKind.kind? = v.kind? := by
  unfold coerceKind
  cases hk : v.kind? with
  | none => exact hk
  | some k => rfl

open Grammar

/-! ## Comparisons -/

/-- The parsed comparison does what the raw one declares. -/
structure Comparison.Agrees (raw : Value) (c : Comparison) : Prop where
  kind : c.kind.kind? = Declared.kind? raw
  flag : c.ignoreCase.truth = Declared.ignoresCase raw
  path : ∀ name : Value, (c.fieldOr name).text? = Declared.path? name.text? raw

namespace Comparison

theorem fieldOr_text?
    (c : Comparison)
    (name : Value) :
    (c.fieldOr name).text? =
      match (if c.field.isNone then none else some c.field) with
      | some field => field.text?
      | none => name.text? := by
  unfold fieldOr
  cases c.field.isNone <;> rfl

/-- A comparison that is a value of its own agrees with itself. -/
theorem agrees_value
    (k field flag : Value) :
    Agrees (.comparison k field flag) ⟨k, field, flag⟩ where
  kind := rfl
  flag := rfl
  path name := fieldOr_text? ⟨k, field, flag⟩ name

/-- A comparison in mapping form with a kind is parsed to one that
agrees with it. -/
theorem exists_parse_mapping
    {form : MappingForm}
    {entries : List (Value × Value)}
    {k : Kind}
    (hkind : Declared.kind? (.mapping form entries) = some k) :
    ∃ c, parse (.mapping form entries) = .ok c ∧
      Agrees (.mapping form entries) c := by
  simp only [Declared.kind?] at hkind
  obtain ⟨kind, hfound, hk⟩ := Option.bind_eq_some_iff.mp hkind
  refine ⟨⟨kind.coerceKind, (Value.field? "field" entries).getD .none,
    .bool ((flag? entries).getD (.bool false)).truth⟩, ?_, ?_⟩
  · simp only [parse, Value.entries?, hfound]
  · constructor
    case kind =>
      simp [Declared.kind?, hfound]
    case flag =>
      have htruth : ∀ b : Bool, (Value.bool b).truth = b := by
        intro b
        cases b <;> rfl
      rw [htruth, Validation.ignoresCase_mapping]
      cases flag? entries <;> rfl
    case path =>
      intro name
      rw [fieldOr_text?]
      simp only [Declared.path?, Declared.field?]
      cases hfield : Value.field? "field" entries with
      | none => rfl
      | some field =>
          rw [Option.getD_some]
          cases hmissing : field.isNone <;> simp [Option.filter, hmissing]

end Comparison

/-- A condition of the grammar is parsed to a comparison that agrees with it. -/
theorem Comparison.exists_parseCondition
    {shape : Shape}
    {name : Option String}
    {raw : Value}
    (h : IsComparison shape name raw) :
    ∃ c, parseCondition raw = .ok c.toValue ∧ Agrees raw c := by
  cases raw with
  | comparison k field flag =>
      exact ⟨⟨k, field, flag⟩, rfl, agrees_value k field flag⟩
  | mapping form entries =>
      obtain ⟨k, hk, -⟩ := h.kind
      obtain ⟨c, hparse, hagrees⟩ := exists_parse_mapping hk
      refine ⟨c, ?_, hagrees⟩
      simp only [parseCondition, Value.comparison?, hparse, Outcome.ok_bind,
        Outcome.pure_eq_ok]
  | _ => cases h.form

/-! ## Filters -/

namespace Filter

/-- The parsed filter does what the raw one declares under a name. -/
inductive Agrees (shape : Shape) (name : String) : Value → Filter → Prop
  | custom
      {raw : Value}
      {callback : Callback}
      (same : raw.callback? = some callback) :
      Agrees shape name raw (.custom callback)
  | comparison
      {raw : Value}
      {c : Comparison}
      (declared : IsComparison shape (some name) raw)
      (agrees : c.Agrees raw) :
      Agrees shape name raw (.comparison c)
  | group
      {raw kind : Value}
      {k : Kind}
      {conditions : List Value}
      {cs : List Comparison}
      (declared : Declared.kind? raw = some k ∧ k.isGroup = true)
      (sameKind : kind.kind? = some k)
      (found : Declared.conditions? raw = some conditions)
      (nonempty : conditions ≠ [])
      (each : ∀ condition ∈ conditions, IsComparison shape none condition)
      (agree : List.Forall₂ Comparison.Agrees conditions cs) :
      Agrees shape name raw (.group kind (cs.map Comparison.toValue))

/-- Are the conditions of a group in the form that compiling needs?  Parsing
brings the conditions of a mapping into that form, and leaves those of a group
value alone. -/
def isSettled : Value → Bool
  | .group _ conditions =>
      conditions.all fun condition => condition.comparison?.isSome
  | _ => true

theorem exists_mapM_parseCondition
    {shape : Shape}
    {conditions : List Value}
    (h : ∀ condition ∈ conditions, IsComparison shape none condition) :
    ∃ cs : List Comparison,
      conditions.mapM Comparison.parseCondition =
        .ok (cs.map Comparison.toValue) ∧
        List.Forall₂ Comparison.Agrees conditions cs := by
  induction conditions with
  | nil =>
      exact ⟨[], rfl, .nil⟩
  | cons condition rest ih =>
      obtain ⟨c, hparse, hagrees⟩ :=
        Comparison.exists_parseCondition (h condition List.mem_cons_self)
      obtain ⟨cs, hrest, hothers⟩ :=
        ih fun other hother => h other (List.mem_cons_of_mem condition hother)
      refine ⟨c :: cs, ?_, .cons hagrees hothers⟩
      rw [List.mapM_cons, hparse, Outcome.ok_bind, hrest]
      rfl

theorem exists_agrees_values
    {conditions : List Value}
    (h :
      conditions.all (fun condition => condition.comparison?.isSome) = true) :
    ∃ cs : List Comparison,
      conditions = cs.map Comparison.toValue ∧
        List.Forall₂ Comparison.Agrees conditions cs := by
  induction conditions with
  | nil =>
      exact ⟨[], rfl, .nil⟩
  | cons condition rest ih =>
      rw [List.all_cons, Bool.and_eq_true] at h
      obtain ⟨cs, hrest, hothers⟩ := ih h.2
      cases condition with
      | comparison k field flag =>
          refine ⟨⟨k, field, flag⟩ :: cs, ?_,
            .cons (Comparison.agrees_value k field flag) hothers⟩
          rw [List.map_cons, ← hrest]
          rfl
      | _ => cases h.1

theorem callback?_eq_some
    {raw : Value}
    {callback : Callback}
    (h : raw.callback? = some callback) :
    raw = .callback callback.id callback.name callback.arguments := by
  cases raw with
  | callback id name arguments =>
      cases h
      rfl
  | _ => cases h

theorem exists_agrees_custom
    {shape : Shape}
    {name : String}
    {raw : Value}
    (h : raw.callback?.isSome = true) :
    ∃ f, parse raw = .ok f ∧ Agrees shape name raw f := by
  obtain ⟨callback, hcallback⟩ := Option.isSome_iff_exists.mp h
  refine ⟨.custom callback, ?_, .custom hcallback⟩
  rw [callback?_eq_some hcallback]
  rfl

theorem exists_agrees_comparison
    {shape : Shape}
    {name : String}
    {raw : Value}
    (h : IsComparison shape (some name) raw) :
    ∃ f, parse raw = .ok f ∧ Agrees shape name raw f := by
  obtain ⟨k, hkind, hcompares⟩ := h.kind
  cases raw with
  | comparison kind field flag =>
      exact ⟨.comparison ⟨kind, field, flag⟩, rfl,
        .comparison h (Comparison.agrees_value kind field flag)⟩
  | mapping form entries =>
      obtain ⟨c, hparse, hagrees⟩ := Comparison.exists_parse_mapping hkind
      obtain ⟨kind, hfound, hk⟩ := Option.bind_eq_some_iff.mp hkind
      have hisGroup : kind.isGroupKind = .ok false := by
        rw [Value.isGroupKind_of_kind? hk, hcompares]
      refine ⟨.comparison c, ?_, .comparison h hagrees⟩
      change parseMapping (.mapping form entries) entries = _
      simp only [parseMapping, hfound, Option.getD_some, hisGroup, hparse,
        Outcome.ok_bind, Bool.false_eq_true, if_false, Outcome.pure_eq_ok]
  | _ => cases h.form

/-- A group in mapping form is parsed with all its conditions. -/
theorem exists_agrees_groupMapping
    {shape : Shape}
    {name : String}
    {form : MappingForm}
    {entries : List (Value × Value)}
    (h : IsGroup shape (.mapping form entries)) :
    ∃ f, parse (.mapping form entries) = .ok f ∧
      Agrees shape name (.mapping form entries) f := by
  obtain ⟨k, hkind, hgroups⟩ := h.kind
  obtain ⟨conditions, hconditions, hne, hall⟩ := h.conditions
  obtain ⟨cs, hparse, hagree⟩ := exists_mapM_parseCondition hall
  obtain ⟨kind, hfound, hk⟩ := Option.bind_eq_some_iff.mp hkind
  obtain ⟨items, hitems, hlisted⟩ := Option.bind_eq_some_iff.mp hconditions
  have hisGroup : kind.isGroupKind = .ok true := by
    rw [Value.isGroupKind_of_kind? hk, hgroups]
  have hsame : kind.coerceKind.kind? = some k := by
    rw [Value.kind?_coerceKind, hk]
  have helements : items.elements? = some conditions := by
    cases items with
    | sequence form items => cases form <;> cases hlisted <;> rfl
    | _ => cases hlisted
  refine ⟨.group kind.coerceKind (cs.map Comparison.toValue), ?_,
    .group ⟨hkind, hgroups⟩ hsame hconditions hne hall hagree⟩
  change parseMapping (.mapping form entries) entries = _
  simp only [parseMapping, hfound, hitems, Option.getD_some, hisGroup,
    helements, hparse, Outcome.ok_bind, if_true, Outcome.pure_eq_ok]

theorem exists_agrees_groupValue
    {shape : Shape}
    {name : String}
    {kind : Value}
    {conditions : List Value}
    (h : IsGroup shape (.group kind conditions))
    (hsettled : isSettled (.group kind conditions) = true) :
    ∃ f, parse (.group kind conditions) = .ok f ∧
      Agrees shape name (.group kind conditions) f := by
  obtain ⟨k, hkind, hgroups⟩ := h.kind
  obtain ⟨conditions', hconditions, hne, hall⟩ := h.conditions
  cases hconditions
  obtain ⟨cs, rfl, hagree⟩ := exists_agrees_values hsettled
  exact ⟨.group kind (cs.map Comparison.toValue), rfl,
    .group ⟨hkind, hgroups⟩ hkind rfl hne hall hagree⟩

/-- A filter of the grammar, settled if it is a group, is parsed to one that
agrees with it. -/
theorem exists_agrees
    {shape : Shape}
    {name : String}
    {raw : Value}
    (h : IsFilter shape name raw)
    (hsettled : isSettled raw = true) :
    ∃ f, parse raw = .ok f ∧ Agrees shape name raw f := by
  cases h with
  | custom hcallback => exact exists_agrees_custom hcallback
  | comparison hcomparison => exact exists_agrees_comparison hcomparison
  | group hgroup =>
      cases raw with
      | group kind conditions => exact exists_agrees_groupValue hgroup hsettled
      | mapping form entries => exact exists_agrees_groupMapping hgroup
      | _ => cases hgroup.form

/-- A group value that is not settled stays as it is. -/
theorem exists_parse_unsettled
    {shape : Shape}
    {name : String}
    {raw : Value}
    (h : IsFilter shape name raw)
    (hunsettled : isSettled raw = false) :
    ∃ kind conditions,
      parse raw = .ok (.group kind conditions) ∧
        (∀ condition ∈ conditions, IsComparison shape none condition) ∧
          ∃ condition ∈ conditions, condition.comparison? = none := by
  cases raw with
  | group kind conditions =>
      cases h with
      | custom hcallback => cases hcallback
      | comparison hcomparison => cases hcomparison.form
      | group hgroup =>
          obtain ⟨conditions', hconditions, -, hall⟩ := hgroup.conditions
          cases hconditions
          obtain ⟨condition, hmem, hcondition⟩ :=
            List.all_eq_false.mp hunsettled
          exact ⟨kind, conditions, rfl, hall, condition, hmem,
            by simpa using hcondition⟩
  | _ => cases hunsettled

theorem exists_parse
    {shape : Shape}
    {name : String}
    {raw : Value}
    (h : IsFilter shape name raw) :
    ∃ f, parse raw = .ok f := by
  cases hsettled : isSettled raw with
  | true =>
      obtain ⟨f, hparse, -⟩ := exists_agrees h hsettled
      exact ⟨f, hparse⟩
  | false =>
      obtain ⟨kind, conditions, hparse, -⟩ := exists_parse_unsettled h hsettled
      exact ⟨.group kind conditions, hparse⟩

end Filter

/-! ## Definitions -/

namespace Definition

/-- Only mappings are parsed. -/
theorem exists_entries
    {raw : Value}
    {d : Definition}
    (h : parse raw = .ok d) :
    ∃ entries, raw.entries? = some entries := by
  cases hentries : raw.entries? with
  | none =>
      simp only [parse, hentries] at h
      cases h
  | some entries => exact ⟨entries, rfl⟩

/-- Parsing goes entry by entry. -/
theorem parse_eq_ok_iff
    {raw : Value}
    {entries : List (Value × Value)}
    {d : Definition}
    (hentries : raw.entries? = some entries) :
    parse raw = .ok d ↔
      List.Forall₂
        (fun entry parsed =>
          parsed.1 = entry.1 ∧ Filter.parse entry.2 = .ok parsed.2)
        entries d := by
  simp only [parse, hentries]
  rw [Outcome.mapM_eq_ok_iff]
  have hstep :
      (fun (entry : Value × Value) (parsed : Value × Filter) =>
        (do return (entry.1, ← Filter.parse entry.2)) = Except.ok parsed) =
        fun entry parsed =>
          parsed.1 = entry.1 ∧ Filter.parse entry.2 = .ok parsed.2 := by
    funext entry parsed
    rw [eq_iff_iff, Outcome.bind_eq_ok]
    constructor
    · rintro ⟨f, hf, hpair⟩
      cases hpair
      exact ⟨rfl, hf⟩
    · rintro ⟨hname, hf⟩
      refine ⟨parsed.2, hf, ?_⟩
      rw [← hname]
      rfl
  rw [hstep]

end Definition
end RecordFilter
