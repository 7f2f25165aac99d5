import RecordFilter.Proofs.Acceptance
import RecordFilter.Proofs.Interpretation
import RecordFilter.Proofs.Parsing
import RecordFilter.Proofs.Searching

/-!
# Compiling what was accepted

This module compares the checkers of compiled definitions with the
interpretation, and says which definitions are compiled at all.

**Method.**  A parsed filter that agrees with a filter of the grammar compiles
to its interpretation.  The equation holds for conditions, then for groups, then
for entries; a run over the entries gives the compiled definition.

**Results.**
* `Strategy.compiled_iff`: for every backend, parsing and compiling go
  entry by entry.
* `Memory.compiles_iff_interprets`: an entry of the grammar compiles to its
  interpretation, except for groups whose conditions are not in the form that
  compiling needs.
-/

namespace RecordFilter

open Grammar

/-! ## Registries of all operators -/

/-- A registry with a behaviour for each operator. -/
def Registry.ofOperators {ε : Type} (backend : String)
    (behaviour : Operator → ε) : Registry ε :=
  .ofList backend (Operator.all.map fun op =>
    ⟨op.text, op.className, behaviour op⟩)

theorem Registry.operators_ofOperators
    {ε : Type}
    (backend : String)
    (behaviour : Operator → ε) :
    (ofOperators backend behaviour).operators =
      Operator.all.map fun op => ⟨op.text, op.className, behaviour op⟩ := by
  rfl

@[simp] theorem Registry.require_ofOperators
    {ε : Type}
    (backend : String)
    (behaviour : Operator → ε)
    (op : Operator) :
    (ofOperators backend behaviour).require op.text =
      .ok ⟨op.text, op.className, behaviour op⟩ := by
  have hfound :
      Operator.all.find? (fun other => other.text = op.text) = some op :=
    Operator.ofText?_text op
  have hget :
      (ofOperators backend behaviour).get? op.text =
        some ⟨op.text, op.className, behaviour op⟩ := by
    unfold get?
    rw [operators_ofOperators, List.find?_map]
    change (Operator.all.find? fun other => other.text = op.text).map _ = _
    rw [hfound]
    rfl
  unfold require
  rw [hget]

/-- Requiring an operator succeeds exactly with the one that is found. -/
theorem Registry.require_eq_ok_iff
    {ε : Type}
    {registry : Registry ε}
    {key : String}
    {op : Registered ε} :
    registry.require key = .ok op ↔ registry.get? key = some op := by
  unfold require
  cases registry.get? key with
  | none => exact ⟨nofun, nofun⟩
  | some found => exact ⟨fun h => congrArg some (Except.ok.inj h),
      fun h => congrArg Except.ok (Option.some.inj h)⟩

theorem Memory.defaultRegistry_eq :
    defaultRegistry = .ofOperators backend evaluate := by
  rfl

/-! ## Comparisons of the grammar -/

namespace Grammar.IsComparison

variable {shape : Shape} {name : Option String} {raw : Value}

theorem exists_operator
    (h : IsComparison shape name raw) :
    ∃ op, Declared.operator? raw = some op := by
  obtain ⟨k, hkind, hcompares⟩ := h.kind
  have hsome : (k.operator? (Declared.ignoresCase raw)).isSome = true := by
    rw [Kind.isSome_operator?, hcompares]
    rfl
  obtain ⟨op, hop⟩ := Option.isSome_iff_exists.mp hsome
  refine ⟨op, ?_⟩
  rw [Declared.operator?, hkind]
  exact hop

/-- A comparison without a name to fall back on names its field. -/
theorem field?_isSome
    (h : IsComparison shape none raw) :
    (Declared.field? raw).isSome = true := by
  obtain ⟨path, hpath, -⟩ := h.path
  unfold Declared.path? at hpath
  cases hfield : Declared.field? raw with
  | some field => rfl
  | none =>
      rw [hfield] at hpath
      cases hpath

/-- A comparison that names its field reads the same path under every name. -/
theorem path?_of_none
    (h : IsComparison shape none raw)
    (other : Option String) :
    Declared.path? other raw = Declared.path? none raw := by
  obtain ⟨field, hfield⟩ := Option.isSome_iff_exists.mp h.field?_isSome
  unfold Declared.path?
  rw [hfield]

theorem callback?_eq_none
    (h : IsComparison shape name raw) :
    raw.callback? = none := by
  have hform := h.form
  cases raw <;> first | rfl | cases hform

end Grammar.IsComparison

theorem Interpretation.declared_of_comparison
    {shape : Shape}
    {name : Option String}
    {raw : Value}
    (evaluate : Operator → MemoryBehaviour)
    (h : IsComparison shape name raw)
    (record input : Value) :
    declared evaluate name raw record input =
      comparison evaluate name raw record input := by
  obtain ⟨k, hkind, hcompares⟩ := h.kind
  unfold declared
  rw [hkind]
  cases k <;> first | rfl | cases hcompares

theorem Comparison.Agrees.operator_eq
    {raw : Value}
    {c : Comparison}
    {op : Operator}
    (h : c.Agrees raw)
    (hop : Declared.operator? raw = some op) :
    c.operator = .ok op := by
  unfold operator
  rw [h.kind, h.flag]
  unfold Declared.operator? at hop
  rw [hop]

/-! ## Runs over definitions -/

namespace Strategy

variable {γ : Type} {s : Strategy γ}

theorem named_eq_ok_iff
    {pairs : List (Value × γ)}
    {compiled : List (Name × γ)} :
    named pairs = .ok compiled ↔
      List.Forall₂
        (fun pair entry => pair.1.name? = some entry.1 ∧ pair.2 = entry.2)
        pairs compiled := by
  unfold named
  rw [Outcome.mapM_eq_ok_iff]
  constructor
  · refine List.Forall₂.imp fun pair entry h => ?_
    cases hname : pair.1.name? with
    | none =>
        simp only [hname] at h
        cases h
    | some name =>
        simp only [hname] at h
        cases h
        exact ⟨rfl, rfl⟩
  · refine List.Forall₂.imp fun pair entry h => ?_
    simp only [h.1, h.2]

/-- Compiling goes entry by entry. -/
theorem definition_eq_ok_iff
    {d : Definition}
    {compiled : List (Name × γ)} :
    s.definition d = .ok compiled ↔
      List.Forall₂
        (fun parsed entry =>
          parsed.1.name? = some entry.1 ∧
            s.filter parsed.1 parsed.2 = .ok entry.2)
        d compiled := by
  have hstep :
      ∀ (parsed : Value × Filter) (entry : Name × γ),
        (∃ pair : Value × γ,
          (do return (parsed.1, ← s.filter parsed.1 parsed.2)) =
            Except.ok pair ∧
            pair.1.name? = some entry.1 ∧ pair.2 = entry.2) ↔
          parsed.1.name? = some entry.1 ∧
          s.filter parsed.1 parsed.2 = .ok entry.2 := by
    intro parsed entry
    constructor
    · rintro ⟨pair, hpair, hname, hchecker⟩
      obtain ⟨checker, hfilter, hpair⟩ := Outcome.bind_eq_ok.mp hpair
      cases hpair
      rw [← hchecker]
      exact ⟨hname, hfilter⟩
    · rintro ⟨hname, hfilter⟩
      refine ⟨(parsed.1, entry.2), ?_, hname, rfl⟩
      rw [hfilter]
      rfl
  unfold definition
  rw [Outcome.bind_eq_ok]
  simp only [Outcome.mapM_eq_ok_iff, named_eq_ok_iff]
  rw [Outcome.forall₂_comp]
  constructor
  · exact List.Forall₂.imp fun parsed entry => (hstep parsed entry).mp
  · exact List.Forall₂.imp fun parsed entry => (hstep parsed entry).mpr

/-- An entry and what it compiles to. -/
structure Compiles (s : Strategy γ) (entry : Value × Value) (named : Name × γ) :
    Prop where
  name : entry.1.name? = some named.1
  filter : ∃ f, Filter.parse entry.2 = .ok f ∧ s.filter entry.1 f = .ok named.2

/-- Parsing and compiling together go entry by entry. -/
theorem compiled_iff
    {raw : Value}
    {entries : List (Value × Value)}
    {compiled : List (Name × γ)}
    (hentries : raw.entries? = some entries) :
    (∃ d, Definition.parse raw = .ok d ∧ s.definition d = .ok compiled) ↔
      List.Forall₂ s.Compiles entries compiled := by
  simp only [Definition.parse_eq_ok_iff hentries, definition_eq_ok_iff]
  rw [Outcome.forall₂_comp]
  constructor
  · refine List.Forall₂.imp fun entry named => ?_
    rintro ⟨parsed, ⟨hkey, hparse⟩, hname, hfilter⟩
    rw [hkey] at hname hfilter
    exact ⟨hname, parsed.2, hparse, hfilter⟩
  · refine List.Forall₂.imp fun entry named => ?_
    rintro ⟨hname, f, hparse, hfilter⟩
    exact ⟨(entry.1, f), ⟨rfl, hparse⟩, hname, hfilter⟩

theorem names_eq
    {entries : List (Value × Value)}
    {compiled : List (Name × γ)}
    (h : List.Forall₂ s.Compiles entries compiled) :
    (compiled.map (·.1)).map some = entries.map (·.1.name?) := by
  induction h with
  | nil => rfl
  | cons hcompiles _ ih =>
      rw [List.map_cons, List.map_cons, List.map_cons, ih, hcompiles.name]

/-- Only comparisons are compiled as conditions. -/
theorem all_comparison?_of_conditions
    {key : Value}
    {conditions : List Value}
    {checkers : List γ}
    (h : conditions.mapM (s.condition key) = .ok checkers) :
    conditions.all (fun condition => condition.comparison?.isSome) = true := by
  have hrelated := Outcome.mapM_eq_ok_iff.mp h
  rw [List.all_eq_true]
  intro raw hmem
  obtain ⟨checker, -, hchecker⟩ := Outcome.forall₂_mem_left hrelated hmem
  unfold condition at hchecker
  cases hcomparison : raw.comparison? with
  | some c => rfl
  | none =>
      simp only [hcomparison] at hchecker
      cases hchecker

/-- Only settled filters are compiled. -/
theorem Compiles.isSettled
    {entry : Value × Value}
    {named : Name × γ}
    (h : s.Compiles entry named) :
    Filter.isSettled entry.2 = true := by
  obtain ⟨-, f, hparse, hfilter⟩ := h
  cases hraw : entry.2 with
  | group kind conditions =>
      rw [hraw] at hparse
      cases hparse
      obtain ⟨checkers, hconditions, -⟩ := Outcome.bind_eq_ok.mp hfilter
      exact all_comparison?_of_conditions hconditions
  | _ => rfl

end Strategy

/-! ## Checkers in memory -/

theorem Value.get_none
    (name : String) :
    Value.none.get name = .none := by
  have hattribute : Value.none.builtinAttribute? name = Option.none := by
    change Value.none.numberAttribute? name = Option.none
    unfold numberAttribute?
    split <;> rfl
  change (Value.none.builtinAttribute? name).getD .none = .none
  rw [hattribute]
  rfl

/-- Reading a path follows its parts, also in the form for a path
of one part. -/
theorem Value.read_eq_follow
    (v : Value)
    (path : String) :
    v.read path = v.follow (Path.segments path) := by
  unfold read
  split
  · next name hsegments =>
      rw [hsegments, follow, follow]
      cases hnone : v.isNone with
      | false => rfl
      | true =>
          cases v with
          | none => exact get_none name
          | _ => cases hnone
  · rfl

namespace Memory

variable {backend : String} {evaluate : Operator → MemoryBehaviour}
variable {answers : Callback → Value → Value → Except Failure Value}
variable {shape : Shape}

/-- The checker of a condition or of a comparison, from the interpretation. -/
def interpreted (evaluate : Operator → MemoryBehaviour) (name : Option String)
    (raw : Value) : Checker :=
  fun record input =>
    .ofExcept (Interpretation.comparison evaluate name raw record input)

/-- A comparison compiles to its interpretation, under a name that leads to the
same path. -/
theorem comparisonChecker_eq_ok
    {name : Option String}
    {raw key : Value}
    {c : Comparison}
    (h : IsComparison shape name raw)
    (hagrees : c.Agrees raw)
    (hpath : Declared.path? key.text? raw = Declared.path? name raw) :
    comparisonChecker (.ofOperators backend evaluate) (c.fieldOr key) c =
      .ok (interpreted evaluate name raw) := by
  obtain ⟨op, hop⟩ := h.exists_operator
  obtain ⟨path, hread, -⟩ := h.path
  have hfield : (c.fieldOr key).text? = some path := by
    rw [hagrees.path, hpath, hread]
  have hpathOf : pathOf (c.fieldOr key) = .ok path := by
    unfold pathOf
    rw [hfield]
  unfold comparisonChecker
  rw [hagrees.operator_eq hop, Outcome.ok_bind, Registry.require_ofOperators,
    Outcome.ok_bind, hpathOf, Outcome.ok_bind, Outcome.pure_eq_ok]
  congr 1
  funext record input
  simp only [interpreted, Interpretation.comparison, hop, hread,
    Value.read_eq_follow]

/-- The conditions of a group compile to their interpretations; they name their
fields, so the key of the entry does not matter. -/
theorem conditions_eq_ok
    {key : Value}
    {conditions : List Value}
    {cs : List Comparison}
    (h : ∀ condition ∈ conditions, IsComparison shape none condition)
    (hagree : List.Forall₂ Comparison.Agrees conditions cs) :
    (cs.map Comparison.toValue).mapM
        ((strategy (.ofOperators backend evaluate)
          (.ofAnswers answers)).condition key) =
      .ok (conditions.map (interpreted evaluate none)) := by
  induction hagree with
  | nil => rfl
  | @cons condition c conditions cs hagrees hothers ih =>
      have hcondition := h condition List.mem_cons_self
      have hchecker :
          (strategy (.ofOperators backend evaluate)
            (.ofAnswers answers)).condition key
            c.toValue = .ok (interpreted evaluate none condition) :=
        comparisonChecker_eq_ok hcondition hagrees
          (hcondition.path?_of_none key.text?)
      have hrest :=
        ih fun other hother => h other (List.mem_cons_of_mem condition hother)
      rw [List.map_cons, List.mapM_cons, hchecker, Outcome.ok_bind, hrest]
      rfl

/-- Asking all checkers is a question about all of them. -/
theorem allAccept_asksWhile
    (record input : Value) :
    Search.AsksWhile (fun checker => checker record input) true
      (allAccept record input) where
  nil := rfl
  cons checker rest := by
    rw [allAccept]
    congr 1
    funext b
    cases b <;> rfl

theorem someAccepts_asksWhile
    (record input : Value) :
    Search.AsksWhile (fun checker => checker record input) false
      (someAccepts record input) where
  nil := rfl
  cons checker rest := by
    rw [someAccepts]
    congr 1
    funext b
    cases b <;> rfl

/-- A question to the checkers of conditions answers as the run over the
conditions that goes on after the same answer. -/
theorem asksWhile_interpreted
    {onward : Bool}
    {record input : Value}
    {run : List Checker → Traced (Call Value) Bool}
    {plain : List Value → Except Failure Bool}
    (hrun : Search.AsksWhile (fun checker => checker record input) onward run)
    (hplain : Interpretation.RunsWhile evaluate onward record input plain)
    (conditions : List Value) :
    run (conditions.map (interpreted evaluate none)) =
      .ofExcept (plain conditions) := by
  induction conditions with
  | nil =>
      rw [List.map_nil, hrun.nil, hplain.nil]
      rfl
  | cons condition rest ih =>
      rw [List.map_cons, hrun.cons, hplain.cons, ih]
      simp only [interpreted]
      cases Interpretation.comparison evaluate none condition record input with
      | error e => rfl
      | ok b =>
          by_cases honward : b = onward <;> simp [honward, Traced.ofExcept]

theorem groupChecker_eq_ok
    {kind raw : Value}
    {k : Kind}
    {conditions : List Value}
    (name : Option String)
    (hkind : kind.kind? = some k)
    (hdeclared : Declared.kind? raw = some k)
    (hgroups : k.isGroup = true)
    (hconditions : Declared.conditions? raw = some conditions) :
    groupChecker kind (conditions.map (interpreted evaluate none)) =
      .ok fun record input =>
        .ofExcept (Interpretation.declared evaluate name raw record input) := by
  unfold groupChecker Interpretation.declared
  rw [hkind, hdeclared, hconditions]
  cases k with
  | and =>
      refine congrArg Except.ok ?_
      funext record input
      exact asksWhile_interpreted (allAccept_asksWhile record input)
        (Interpretation.allOf_runsWhile evaluate record input) conditions
  | or =>
      refine congrArg Except.ok ?_
      funext record input
      exact asksWhile_interpreted (someAccepts_asksWhile record input)
        (Interpretation.anyOf_runsWhile evaluate record input) conditions
  | _ => cases hgroups

/-- A parsed filter compiles to the interpretation of the raw filter it
agrees with. -/
theorem filter_eq_ok
    {name : String}
    {raw key : Value}
    {f : Filter}
    (hkey : key.text? = some name)
    (h : Filter.Agrees shape name raw f) :
    (strategy (.ofOperators backend evaluate) (.ofAnswers answers)).filter key
      f = .ok (Interpretation.filter evaluate answers key.text? raw) := by
  rw [hkey]
  cases h with
  | custom same =>
      unfold Interpretation.filter
      rw [same]
      rfl
  | comparison declared agrees =>
      have hchecker :
          comparisonChecker (.ofOperators backend evaluate)
            (Comparison.fieldOr key _) _ =
            .ok (interpreted evaluate (some name) raw) :=
        comparisonChecker_eq_ok declared agrees (by rw [hkey])
      refine hchecker.trans ?_
      congr 1
      funext record input
      simp only [Interpretation.filter, declared.callback?_eq_none, interpreted,
        Interpretation.declared_of_comparison evaluate declared]
  | group declared sameKind found nonempty each agree =>
      obtain ⟨hkind, hgroups⟩ := declared
      have hcallback : raw.callback? = none := by
        cases raw <;> first | rfl | cases hkind
      have hchecker :=
        @groupChecker_eq_ok evaluate _ raw _ _ (some name) sameKind hkind
          hgroups found
      have hconditions :=
        @conditions_eq_ok backend evaluate answers shape key _ _ each agree
      rw [Strategy.filter, hconditions, Outcome.ok_bind]
      refine hchecker.trans ?_
      unfold Interpretation.filter
      rw [hcallback]

/-- An entry and its interpretation under its name. -/
structure Interprets (evaluate : Operator → MemoryBehaviour)
    (answers : Callback → Value → Value → Except Failure Value)
    (entry : Value × Value) (named : Name × Checker) : Prop where
  name : entry.1.name? = some named.1
  checker :
    named.2 = Interpretation.filter evaluate answers entry.1.text? entry.2

/-- A settled entry of the grammar compiles to its interpretation. -/
theorem compiles_iff_interprets
    {entry : Value × Value}
    {named : Name × Checker}
    (h : IsEntry shape entry)
    (hsettled : Filter.isSettled entry.2 = true) :
    (strategy (.ofOperators backend evaluate) (.ofAnswers answers)).Compiles
      entry named ↔ Interprets evaluate answers entry named := by
  obtain ⟨name, hkey, -, hfilter⟩ := h
  obtain ⟨f, hparse, hagrees⟩ := Filter.exists_agrees hfilter hsettled
  have hcompiled :=
    @filter_eq_ok backend evaluate answers shape name entry.2 entry.1 f
      hkey hagrees
  constructor
  · rintro ⟨hname, f', hparse', hchecker⟩
    rw [hparse] at hparse'
    cases hparse'
    rw [hcompiled] at hchecker
    exact ⟨hname, (Except.ok.inj hchecker).symm⟩
  · rintro ⟨hname, hchecker⟩
    refine ⟨hname, f, hparse, ?_⟩
    rw [hcompiled, hchecker]

end Memory
end RecordFilter
