import RecordFilter.Proofs.Labels

/-!
# Conditions and entries

A comparison that names its field can stand in a group or be an entry of its
own.  This module shows that it is checked, parsed and compiled alike in both
places, for every backend.

**Validation.**  A group has no violation exactly if none of its conditions has
a problem, and a comparison that is an entry has no violation exactly if it has
no problem as a condition.

**Compiling.**  A group compiles to the combination of what its conditions
compile to as entries of their own.

**Results.**
* `Validation.violations_eq_ok_nil_iff`: a definition passes exactly if
  each entry does.
* `Strategy.compiles_iff_of_group`, `Strategy.compiles_iff_of_comparison`: what
  groups and comparisons compile to.
* `Strategy.exists_define_iff`: a definition is accepted exactly if it passes
  and each entry compiles.
-/

namespace RecordFilter

open Grammar

namespace Outcome

variable {α β : Type}

theorem map_eq_ok_nil_iff
    {x : Except Failure (List α)}
    {g : α → β} :
    (do return (← x).map g : Except Failure (List β)) = .ok [] ↔
      x = .ok [] := by
  constructor
  · intro h
    obtain ⟨as, hx, hlist⟩ := bind_eq_ok.mp h
    rw [hx, List.map_eq_nil_iff.mp (Except.ok.inj hlist)]
  · rintro rfl
    rfl

/-- Lists related to two joined lists are joined of lists related to these. -/
theorem forall₂_append_iff
    {R : α → β → Prop}
    {xs ys : List α}
    {zs : List β} :
    List.Forall₂ R (xs ++ ys) zs ↔
      ∃ us vs, zs = us ++ vs ∧ List.Forall₂ R xs us ∧ List.Forall₂ R ys vs := by
  constructor
  · intro h
    induction xs generalizing zs with
    | nil => exact ⟨[], zs, rfl, .nil, h⟩
    | cons x xs ih =>
        cases h with
        | cons hfirst hrest =>
            obtain ⟨us, vs, rfl, hus, hvs⟩ := ih hrest
            exact ⟨_ :: us, vs, rfl, .cons hfirst hus, hvs⟩
  · rintro ⟨us, vs, rfl, hus, hvs⟩
    exact List.rel_append hus hvs

end Outcome

theorem Grammar.IsComparison.isComparison
    {shape : Shape}
    {name : Option String}
    {raw : Value}
    (h : IsComparison shape name raw) :
    Declared.isComparison raw = true := by
  obtain ⟨k, hkind, hcompares⟩ := h.kind
  rw [Declared.isComparison, h.form, hkind, Option.any_some, hcompares]
  rfl

/-! ## Validation -/

namespace Validation

variable {scope : Scope} {raw key : Value} {name : Name}

theorem entriesViolations_eq_ok_nil_iff
    {entries : List (Value × Value)} :
    entriesViolations scope entries = .ok [] ↔
      ∀ entry ∈ entries, entryViolations scope entry = .ok [] := by
  induction entries with
  | nil => simp [entriesViolations]
  | cons entry rest ih =>
      rw [entriesViolations, Outcome.append_eq_ok_nil_iff, ih,
        List.forall_mem_cons]

/-- A definition passes exactly if the fields of the shape can be read and each
entry passes. -/
theorem violations_eq_ok_nil_iff
    {shape : Shape}
    {owner : Option String}
    {entries : List (Value × Value)}
    (hentries : raw.entries? = some entries) :
    violations raw shape owner = .ok [] ↔
      ∃ fields, shape.fields? = .ok fields ∧
        ∀ entry ∈ entries,
          entryViolations ⟨fields, ownerName owner shape.label?⟩ entry =
            .ok [] := by
  simp only [violations, hentries, Outcome.bind_eq_ok,
    entriesViolations_eq_ok_nil_iff]

theorem conditionsViolations_eq_ok_nil_iff
    {index : Nat}
    {conditions : List Value} :
    conditionsViolations scope name index conditions = .ok [] ↔
      ∀ condition ∈ conditions, conditionProblems scope condition = .ok [] := by
  induction conditions generalizing index with
  | nil => simp [conditionsViolations]
  | cons condition rest ih =>
      rw [conditionsViolations, Outcome.append_eq_ok_nil_iff, ih,
        List.forall_mem_cons, conditionViolations, Outcome.map_eq_ok_nil_iff]

/-- A flag for blindness to case has no problem exactly if there is none, or if
it is taken. -/
theorem flagProblems_eq_ok_nil_iff
    (raw : Value) :
    flagProblems raw = .ok [] ↔
      (Declared.ignoresCase raw = true →
        Declared.kind? raw = some .contains) := by
  constructor
  · intro h
    exact (flagProblems_eq_nil_iff h).mp rfl
  · intro h
    simp only [flagProblems, ignoresCase_eq, kind?_kindOf]
    cases hflag : Declared.ignoresCase raw with
    | false => rfl
    | true =>
        rw [h hflag]
        rfl

/-- Whether a comparison has problems depends on its field, and on whether its
flag has any. -/
theorem comparisonProblems_eq_ok_nil_congr
    {raw' : Value}
    (hfield : fieldOf raw = fieldOf raw')
    (hflag : flagProblems raw = .ok [] ↔ flagProblems raw' = .ok [])
    (name : Option Name) :
    comparisonProblems scope name raw = .ok [] ↔
      comparisonProblems scope name raw' = .ok [] := by
  have hcheck :
      ∀ path,
        (do return (← flagProblems raw) ++ (← pathProblems scope path)) =
          Except.ok [] ↔
          (do return (← flagProblems raw') ++ (← pathProblems scope path)) =
            Except.ok [] := by
    intro path
    rw [Outcome.append_eq_ok_nil_iff, Outcome.append_eq_ok_nil_iff, hflag]
  unfold comparisonProblems
  rw [hfield]
  cases (fieldOf raw').isNone with
  | true =>
      cases name with
      | none => rfl
      | some name => exact hcheck name
  | false =>
      cases (fieldOf raw').name? with
      | none => rfl
      | some path =>
          by_cases hpath : path.content = ""
          · simp [hpath]
          · simpa [hpath] using hcheck path

/-- The kind of a comparison is known, and is not the kind of a group. -/
theorem kinds_of_isComparison
    (h : Declared.isComparison raw = true) :
    (kindOf raw).isGroupKind = .ok false ∧
    (kindOf raw).isComparisonKind = .ok true := by
  rw [Declared.isComparison, Bool.and_eq_true, Option.any_eq_true] at h
  obtain ⟨-, k, hk, hcompares⟩ := h
  rw [← kind?_kindOf] at hk
  rw [Value.isGroupKind_of_kind? hk, Value.isComparisonKind_of_kind? hk,
    hcompares]
  simpa using hcompares

theorem formProblem?_of_isComparison
    (h : Declared.isComparison raw = true) :
    formProblem? raw (kindOf raw) = .ok none := by
  obtain ⟨hgroup, -⟩ := kinds_of_isComparison h
  cases raw with
  | comparison kind field flag =>
      simp only [formProblem?, hgroup]
      rfl
  | mapping form entries => rfl
  | _ => cases h

/-- As a condition, a comparison has the problems of a comparison. -/
theorem conditionProblems_of_isComparison
    (h : Declared.isComparison raw = true) :
    conditionProblems scope raw = comparisonProblems scope none raw := by
  obtain ⟨hgroup, hcomparison⟩ := kinds_of_isComparison h
  have hcan : Declared.canCompare raw = true := by
    rw [Declared.isComparison, Bool.and_eq_true] at h
    exact h.1
  rw [conditionProblems, cannotCompare_eq, hcan]
  simp only [hgroup, hcomparison, Outcome.ok_bind]
  rfl

/-- An entry with a name that is not empty passes if its filter does. -/
theorem entryViolations_of_named
    (hname : key.name? = some name)
    (hne : name.content ≠ "")
    (hcallback : raw.callback? = none)
    (hform : isFilterForm raw = true) :
    entryViolations scope (key, raw) = filterViolations scope name raw := by
  simp [entryViolations, hname, hne, hcallback, hform]

/-- A comparison passes as an entry exactly if it has no problem
under the name. -/
theorem entryViolations_eq_ok_nil_iff
    (hname : key.name? = some name)
    (hne : name.content ≠ "")
    (h : Declared.isComparison raw = true) :
    entryViolations scope (key, raw) = .ok [] ↔
      comparisonProblems scope (some name) raw = .ok [] := by
  obtain ⟨hgroup, hcomparison⟩ := kinds_of_isComparison h
  have hentry :
      entryViolations scope (key, raw) = filterViolations scope name raw := by
    cases raw with
    | comparison kind field flag =>
        exact entryViolations_of_named hname hne rfl rfl
    | mapping form entries => exact entryViolations_of_named hname hne rfl rfl
    | _ => cases h
  have hfilter :
      filterViolations scope name raw =
        (do
          return (← comparisonProblems scope (some name) raw).map
            (⟨name, ·, none⟩)) := by
    simp only [filterViolations, formProblem?_of_isComparison h, hgroup,
      hcomparison, Outcome.ok_bind]
    rfl
  rw [hentry, hfilter, Outcome.map_eq_ok_nil_iff]

/-- A comparison that names its field passes as an entry exactly if it has no
problem as a condition. -/
theorem entryViolations_of_isComparison
    (hname : key.name? = some name)
    (hne : name.content ≠ "")
    (h : Declared.isComparison raw = true)
    (hfield : (Declared.field? raw).isSome = true) :
    entryViolations scope (key, raw) = .ok [] ↔
      conditionProblems scope raw = .ok [] := by
  rw [entryViolations_eq_ok_nil_iff hname hne h,
    conditionProblems_of_isComparison h,
    comparisonProblems_of_field scope hfield (some name) none]

/-- The violations of a group that is an entry are those of its conditions. -/
theorem entryViolations_eq_conditionsViolations
    {k : Kind}
    {conditions : List Value}
    (hname : key.name? = some name)
    (hne : name.content ≠ "")
    (hkind : Declared.kind? raw = some k)
    (hgroups : k.isGroup = true)
    (hconditions : Declared.conditions? raw = some conditions)
    (hnonempty : conditions ≠ []) :
    entryViolations scope (key, raw) =
      conditionsViolations scope name 0 conditions := by
  have hgroup : (kindOf raw).isGroupKind = .ok true := by
    rw [← kind?_kindOf] at hkind
    rw [Value.isGroupKind_of_kind? hkind, hgroups]
  have hentry :
      entryViolations scope (key, raw) = filterViolations scope name raw := by
    cases raw with
    | group kind conditions => exact entryViolations_of_named hname hne rfl rfl
    | mapping form entries => exact entryViolations_of_named hname hne rfl rfl
    | _ => cases hconditions
  have hform : formProblem? raw (kindOf raw) = .ok none := by
    cases raw with
    | group kind conditions =>
        simp only [formProblem?, hgroup]
        rfl
    | mapping form entries => rfl
    | _ => cases hconditions
  rw [hentry]
  simp only [filterViolations, hform, hgroup, Outcome.ok_bind, if_true,
    groupViolations, conditionsOf?_eq, hconditions]

/-- A group passes as an entry exactly if none of its conditions
has a problem. -/
theorem entryViolations_of_isGroup
    {k : Kind}
    {conditions : List Value}
    (hname : key.name? = some name)
    (hne : name.content ≠ "")
    (hkind : Declared.kind? raw = some k)
    (hgroups : k.isGroup = true)
    (hconditions : Declared.conditions? raw = some conditions)
    (hnonempty : conditions ≠ []) :
    entryViolations scope (key, raw) = .ok [] ↔
      ∀ condition ∈ conditions, conditionProblems scope condition = .ok [] := by
  rw [entryViolations_eq_conditionsViolations hname hne hkind hgroups
    hconditions hnonempty,
    conditionsViolations_eq_ok_nil_iff]

end Validation

/-! ## Parsing -/

/-- A comparison is parsed to the same comparison as an entry and as a
condition. -/
theorem Comparison.exists_parse
    {raw : Value}
    (h : Declared.isComparison raw = true) :
    ∃ c, Filter.parse raw = .ok (.comparison c) ∧
      parseCondition raw = .ok c.toValue ∧
      Agrees raw c := by
  cases raw with
  | comparison kind field flag =>
      exact ⟨⟨kind, field, flag⟩, rfl, rfl, agrees_value kind field flag⟩
  | mapping form entries =>
      have hkind := h
      rw [Declared.isComparison, Bool.and_eq_true, Option.any_eq_true] at hkind
      obtain ⟨-, k, hk, -⟩ := hkind
      obtain ⟨c, hparse, hagrees⟩ := exists_parse_mapping hk
      have hgroup := (Validation.kinds_of_isComparison h).1
      refine ⟨c, ?_, ?_, hagrees⟩
      · change Filter.parseMapping (.mapping form entries) entries = _
        simp only [Filter.parseMapping, Validation.kindOf] at hgroup ⊢
        rw [hgroup, Outcome.ok_bind, hparse]
        rfl
      · change (do return (← parse (.mapping form entries)).toValue :
          Except Failure Value) = _
        rw [hparse]
        rfl
  | _ => cases h

namespace Filter

/-- A settled group of comparisons is parsed condition by condition. -/
theorem exists_parse_group
    {raw : Value}
    {k : Kind}
    {conditions : List Value}
    (hkind : Declared.kind? raw = some k)
    (hgroups : k.isGroup = true)
    (hconditions : Declared.conditions? raw = some conditions)
    (hsettled : isSettled raw = true)
    (heach : ∀ condition ∈ conditions, Declared.isComparison condition = true) :
    ∃ kind cs, parse raw = .ok (.group kind (cs.map Comparison.toValue)) ∧
      kind.kind? = some k ∧
      List.Forall₂ (fun condition c => parse condition = .ok (.comparison c))
        conditions cs := by
  cases raw with
  | group kind given =>
      cases hconditions
      obtain ⟨cs, rfl, -⟩ := exists_agrees_values hsettled
      refine ⟨kind, cs, rfl, hkind, ?_⟩
      rw [List.forall₂_map_left_iff, List.forall₂_same]
      exact fun c _ => rfl
  | mapping form entries =>
      have hparsed :
          ∀ condition ∈ conditions, ∃ c, parse condition = .ok (.comparison c) ∧
            Comparison.parseCondition condition = .ok c.toValue := by
        intro condition hmem
        obtain ⟨c, hparse, hcondition, -⟩ :=
          Comparison.exists_parse (heach condition hmem)
        exact ⟨c, hparse, hcondition⟩
      obtain ⟨cs, hcs⟩ := Outcome.exists_forall₂ hparsed
      have hlist :
          conditions.mapM Comparison.parseCondition =
            .ok (cs.map Comparison.toValue) := by
        rw [Outcome.mapM_eq_ok_iff, List.forall₂_map_right_iff]
        exact hcs.imp fun _ _ h => h.2
      obtain ⟨kind, hfield, hk⟩ := Option.bind_eq_some_iff.mp hkind
      obtain ⟨list, hlisted, hitems⟩ := Option.bind_eq_some_iff.mp hconditions
      have helements : list.elements? = some conditions := by
        cases list with
        | sequence form items =>
            cases form with
            | list => exact hitems
            | tuple => exact hitems
            | queue => cases hitems
        | _ => cases hitems
      have hisGroup : kind.isGroupKind = .ok true := by
        rw [Value.isGroupKind_of_kind? hk, hgroups]
      refine ⟨kind.coerceKind, cs, ?_, by rw [Value.kind?_coerceKind, hk],
        hcs.imp fun _ _ h => h.1⟩
      change parseMapping (.mapping form entries) entries = _
      simp only [parseMapping, hfield, Option.getD_some, hisGroup,
        Outcome.ok_bind, if_true, hlisted, helements, hlist, Outcome.pure_eq_ok]
  | _ => cases hconditions

end Filter

/-! ## Compiling -/

namespace Strategy

variable {γ : Type} {s : Strategy γ} {raw key : Value} {named : Name × γ}

/-- What a comparison that names its field compiles to, under any name. -/
def CompilesAlone (s : Strategy γ) (raw : Value) (checker : γ) : Prop :=
  ∃ c, Filter.parse raw = .ok (.comparison c) ∧
    s.comparison c.field c = .ok checker

theorem CompilesAlone.unique_list
    {conditions : List Value}
    {checkers checkers' : List γ}
    (h : List.Forall₂ s.CompilesAlone conditions checkers)
    (h' : List.Forall₂ s.CompilesAlone conditions checkers') :
    checkers = checkers' := by
  have hunique : Relator.RightUnique s.CompilesAlone := by
    rintro condition checker checker' ⟨c, hparse, hchecker⟩
      ⟨c', hparse', hchecker'⟩
    rw [hparse] at hparse'
    cases hparse'
    exact Except.ok.inj (hchecker.symm.trans hchecker')
  exact List.right_unique_forall₂' hunique h h'

/-- An entry compiles in one way at most. -/
theorem Compiles.unique
    {entry : Value × Value}
    {other : Name × γ}
    (h : s.Compiles entry named)
    (h' : s.Compiles entry other) :
    named = other := by
  obtain ⟨hname, f, hparse, hfilter⟩ := h
  obtain ⟨hname', f', hparse', hfilter'⟩ := h'
  rw [hname] at hname'
  rw [hparse] at hparse'
  cases hparse'
  rw [hfilter] at hfilter'
  exact Prod.ext (Option.some.inj hname') (Except.ok.inj hfilter')

theorem Compiles.unique_list
    {entries : List (Value × Value)}
    {compiled compiled' : List (Name × γ)}
    (h : List.Forall₂ s.Compiles entries compiled)
    (h' : List.Forall₂ s.Compiles entries compiled') :
    compiled = compiled' := by
  have hunique : Relator.RightUnique s.Compiles :=
    fun _ _ _ hnamed hother => hnamed.unique hother
  exact List.right_unique_forall₂' hunique h h'

/-- A comparison that names its field is compiled with this field, whatever
the name is. -/
theorem fieldOr_eq_field
    {c : Comparison}
    (hfield : (Declared.field? raw).isSome = true)
    (hagrees : c.Agrees raw) :
    c.fieldOr key = c.field := by
  rw [Comparison.fieldOr, hagrees.field_isNone hfield]
  rfl

theorem compiles_iff_of_comparison
    (h : Declared.isComparison raw = true)
    (hfield : (Declared.field? raw).isSome = true) :
    s.Compiles (key, raw) named ↔
      key.name? = some named.1 ∧ s.CompilesAlone raw named.2 := by
  obtain ⟨c, hparse, -, hagrees⟩ := Comparison.exists_parse h
  have hfilter : s.filter key (.comparison c) = s.comparison c.field c := by
    rw [filter, fieldOr_eq_field hfield hagrees]
  constructor
  · rintro ⟨hname, f, hf, hchecker⟩
    rw [hparse] at hf
    cases hf
    exact ⟨hname, c, hparse, hfilter.symm.trans hchecker⟩
  · rintro ⟨hname, c', hc', hchecker⟩
    rw [hparse] at hc'
    cases hc'
    exact ⟨hname, .comparison c, hparse, hfilter.trans hchecker⟩

/-- A parsed comparison that names its field is compiled alike as a condition of
any group. -/
theorem condition_eq_ok_iff
    {c : Comparison}
    {checker : γ}
    (h : Declared.isComparison raw = true)
    (hfield : (Declared.field? raw).isSome = true)
    (hparse : Filter.parse raw = .ok (.comparison c)) :
    s.condition key c.toValue = .ok checker ↔ s.CompilesAlone raw checker := by
  obtain ⟨c', hc', -, hagrees⟩ := Comparison.exists_parse h
  rw [hparse] at hc'
  cases hc'
  have hcondition :
      s.condition key c.toValue = s.comparison (c.fieldOr key) c := rfl
  rw [hcondition, fieldOr_eq_field hfield hagrees]
  constructor
  · intro hchecker
    exact ⟨c, hparse, hchecker⟩
  · rintro ⟨c', hc', hchecker⟩
    rw [hparse] at hc'
    cases hc'
    exact hchecker

theorem conditions_eq_ok_iff
    {conditions : List Value}
    {cs : List Comparison}
    {checkers : List γ}
    (heach : ∀ condition ∈ conditions,
      Declared.isComparison condition = true ∧
      (Declared.field? condition).isSome = true)
    (hcs :
      List.Forall₂
        (fun condition c => Filter.parse condition = .ok (.comparison c))
        conditions cs) :
    (cs.map Comparison.toValue).mapM (s.condition key) = .ok checkers ↔
      List.Forall₂ s.CompilesAlone conditions checkers := by
  rw [Outcome.mapM_eq_ok_iff, List.forall₂_map_left_iff]
  induction hcs generalizing checkers with
  | nil => rw [List.forall₂_nil_left_iff, List.forall₂_nil_left_iff]
  | @cons condition c conditions cs hparse _ ih =>
      obtain ⟨hcomparison, hfield⟩ := heach condition List.mem_cons_self
      have hothers :=
        fun other hmem => heach other (List.mem_cons_of_mem condition hmem)
      simp only [List.forall₂_cons_left_iff,
        condition_eq_ok_iff hcomparison hfield hparse, ih hothers]

/-- A group compiles to the combination of what its conditions compile to
as entries. -/
theorem compiles_iff_of_group
    {k : Kind}
    {conditions : List Value}
    (hkind : Declared.kind? raw = some k)
    (hgroups : k.isGroup = true)
    (hconditions : Declared.conditions? raw = some conditions)
    (hsettled : Filter.isSettled raw = true)
    (heach : ∀ condition ∈ conditions,
      Declared.isComparison condition = true ∧
      (Declared.field? condition).isSome = true) :
    ∃ kind, kind.kind? = some k ∧ ∀ {key named},
      s.Compiles (key, raw) named ↔
        key.name? = some named.1 ∧ ∃ checkers,
          List.Forall₂ s.CompilesAlone conditions checkers ∧
            s.combine kind checkers = .ok named.2 := by
  obtain ⟨kind, cs, hparse, hk, hcs⟩ :=
    Filter.exists_parse_group hkind hgroups hconditions hsettled fun c hc =>
      (heach c hc).1
  refine ⟨kind, hk, fun {key named} => ?_⟩
  have hfilter :
      s.filter key (.group kind (cs.map Comparison.toValue)) = .ok named.2 ↔
        ∃ checkers, List.Forall₂ s.CompilesAlone conditions checkers ∧
          s.combine kind checkers = .ok named.2 := by
    rw [filter, Outcome.bind_eq_ok]
    simp only [conditions_eq_ok_iff heach hcs]
  constructor
  · rintro ⟨hname, f, hf, hchecker⟩
    rw [hparse] at hf
    cases hf
    exact ⟨hname, hfilter.mp hchecker⟩
  · rintro ⟨hname, hcheckers⟩
    exact ⟨hname, _, hparse, hfilter.mpr hcheckers⟩

/-! ## Defining -/

section Define

variable {δ : Type} {build : Definition → List (Name × γ) → δ} {shape : Shape}
variable {owner : Option String} {entries : List (Value × Value)}

/-- A definition is accepted exactly if it has no violations and each entry
compiles. -/
theorem exists_define_iff
    (hentries : raw.entries? = some entries) :
    (∃ result,
      (do
        Validation.ensure raw shape owner
        let d ← Definition.parse raw
        let compiled ← s.definition d
        return build d compiled) = Except.ok result) ↔
      Validation.violations raw shape owner = .ok [] ∧
        ∃ compiled, List.Forall₂ s.Compiles entries compiled := by
  constructor
  · rintro ⟨result, h⟩
    obtain ⟨hvalid, d, compiled, hparse, hdefinition, -⟩ :=
      define_eq_ok_iff.mp h
    exact ⟨hvalid, compiled,
      (compiled_iff hentries).mp ⟨d, hparse, hdefinition⟩⟩
  · rintro ⟨hvalid, compiled, hcompiled⟩
    obtain ⟨d, hparse, hdefinition⟩ := (compiled_iff hentries).mpr hcompiled
    exact ⟨build d compiled,
      define_eq_ok_iff.mpr ⟨hvalid, d, compiled, hparse, hdefinition, rfl⟩⟩

end Define

end Strategy

theorem SqlFilter.compiles_builders
    {φ : Type}
    {registry : Registry (Sql.ColumnBehaviour φ)}
    {callbacks : Sql.TableCallbacks φ}
    {table : Sql.Table}
    {raw : Value}
    {entries : List (Value × Value)}
    {s : SqlFilter φ}
    (hentries : raw.entries? = some entries)
    (h : define registry callbacks table raw = .ok s) :
    List.Forall₂ (Sql.strategy registry callbacks table).Compiles entries
      s.builders := by
  have hdefine :=
    @Strategy.define_eq_ok_iff _ _ (Sql.strategy registry callbacks table)
      (fun d builders => (⟨table, d, builders⟩ : SqlFilter φ)) raw table.shape
      (some table.name) s
  obtain ⟨-, d, builders, hparse, hdefinition, rfl⟩ := hdefine.mp h
  exact (Strategy.compiled_iff hentries).mp ⟨d, hparse, hdefinition⟩

end RecordFilter
