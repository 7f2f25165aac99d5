import RecordFilter.Proofs.Compilation

/-!
# Validation as the gate

This module says what becomes of a definition in memory once its
violations are known.

**Refusal.**  A definition with violations is refused with exactly
these violations.

**Acceptance.**  A definition without violations is compiled, one checker for
each entry, if all its groups are settled.  A group value that holds a
condition in mapping form passes validation as well, but such a condition has
no field to compile.

**Results.**
* `Strategy.define_eq_ok_iff`: for every backend, a definition is accepted if it
  is valid and compiles.
* `define_after_validation`: refusal, acceptance and the exception, for
  every definition.
-/

namespace RecordFilter

open Grammar

theorem Callbacks.exists_answers
    (callbacks : Callbacks) :
    ∃ answers, callbacks = .ofAnswers answers := by
  refine ⟨fun callback record input =>
    (callbacks callback record input).map Value.bool, ?_⟩
  funext callback record input
  simp only [ofAnswers]
  cases callbacks callback record input with
  | error e => rfl
  | ok b => cases b <;> rfl

/-! ## The check before compiling -/

namespace Validation

variable {raw : Value} {shape : Shape} {owner : Option String}
variable {found : List Violation}

theorem ensure_of_violations
    (h : violations raw shape owner = .ok found)
    (hne : found ≠ []) :
    ensure raw shape owner = .error (.invalidDefinition found) := by
  have hempty : found.isEmpty = false := by
    rw [List.isEmpty_eq_false_iff]
    exact hne
  unfold ensure
  rw [h, Outcome.ok_bind, hempty]
  rfl

theorem ensure_eq_ok_iff :
    ensure raw shape owner = .ok () ↔ violations raw shape owner = .ok [] := by
  constructor
  · intro h
    obtain ⟨found, hfound, -⟩ := Outcome.bind_eq_ok.mp h
    by_cases hnil : found = []
    · rw [hfound, hnil]
    · rw [ensure_of_violations hfound hnil] at h
      cases h
  · intro h
    unfold ensure
    rw [h]
    rfl

end Validation

section Define

variable {γ δ : Type} {s : Strategy γ}
variable {build : Definition → List (Name × γ) → δ}
variable {raw : Value} {shape : Shape} {owner : Option String} {result : δ}

/-- A definition is accepted exactly if it is valid and compiles, for
every backend. -/
theorem Strategy.define_eq_ok_iff :
    (do
        Validation.ensure raw shape owner
        let d ← Definition.parse raw
        let compiled ← s.definition d
        return build d compiled) = Except.ok result ↔
      Validation.violations raw shape owner = .ok [] ∧
        ∃ d compiled, Definition.parse raw = .ok d ∧
          s.definition d = .ok compiled ∧
          result = build d compiled := by
  constructor
  · intro h
    obtain ⟨⟨⟩, hensure, hrest⟩ := Outcome.bind_eq_ok.mp h
    obtain ⟨d, hparse, hrest⟩ := Outcome.bind_eq_ok.mp hrest
    obtain ⟨compiled, hdefinition, hresult⟩ := Outcome.bind_eq_ok.mp hrest
    exact ⟨Validation.ensure_eq_ok_iff.mp hensure, d, compiled, hparse,
      hdefinition, (Except.ok.inj hresult).symm⟩
  · rintro ⟨hvalid, d, compiled, hparse, hdefinition, rfl⟩
    rw [Validation.ensure_eq_ok_iff.mpr hvalid, Outcome.ok_bind, hparse,
      Outcome.ok_bind, hdefinition, Outcome.ok_bind, Outcome.pure_eq_ok]

/-- What a successful definition went through, for every backend. -/
theorem Strategy.compiles_of_define
    (h :
      (do
        Validation.ensure raw shape owner
        let d ← Definition.parse raw
        let compiled ← s.definition d
        return build d compiled) = Except.ok result) :
    ∃ entries d compiled, raw.entries? = some entries ∧
      result = build d compiled ∧
      (∀ entry ∈ entries, IsEntry shape entry) ∧
        List.Forall₂ s.Compiles entries compiled := by
  obtain ⟨hvalid, d, compiled, hparse, hdefinition, hresult⟩ :=
    define_eq_ok_iff.mp h
  obtain ⟨entries, hentries⟩ := Definition.exists_entries hparse
  refine ⟨entries, d, compiled, hentries, hresult, ?_, ?_⟩
  · exact Validation.isEntry_of_no_violations hentries hvalid
  · exact (Strategy.compiled_iff hentries).mp ⟨d, hparse, hdefinition⟩

end Define

/-! ## Groups that are not settled -/

namespace Memory

variable {backend : String} {evaluate : Operator → MemoryBehaviour}
variable {answers : Callback → Value → Value → Except Failure Value}
variable {shape : Shape}

theorem condition_ok_or_error
    {key raw : Value}
    (h : IsComparison shape none raw) :
    (∃ checker,
      (strategy (.ofOperators backend evaluate) (.ofAnswers answers)).condition
        key raw = .ok checker) ∨
      (strategy (.ofOperators backend evaluate) (.ofAnswers answers)).condition
        key raw = .error .missingAttribute := by
  cases raw with
  | comparison k field flag =>
      have hchecker :=
        @comparisonChecker_eq_ok backend evaluate shape none _ key
          ⟨k, field, flag⟩ h (Comparison.agrees_value k field flag)
          (h.path?_of_none key.text?)
      exact Or.inl ⟨_, hchecker⟩
  | mapping form entries => exact Or.inr rfl
  | _ => cases h.form

theorem filter_unsettled
    {key raw : Value}
    {name : String}
    {f : Filter}
    (h : IsFilter shape name raw)
    (hunsettled : Filter.isSettled raw = false)
    (hparse : Filter.parse raw = .ok f) :
    (strategy (.ofOperators backend evaluate) (.ofAnswers answers)).filter key
      f = .error .missingAttribute := by
  obtain ⟨kind, conditions, hgroup, hall, hsome⟩ :=
    Filter.exists_parse_unsettled h hunsettled
  rw [hparse] at hgroup
  cases hgroup
  have hconditions :
      conditions.mapM
          ((strategy (.ofOperators backend evaluate)
            (.ofAnswers answers)).condition key) =
        .error .missingAttribute := by
    refine Outcome.mapM_eq_error
      (fun raw hmem => condition_ok_or_error (hall raw hmem)) ?_
    obtain ⟨raw, hmem, hcomparison⟩ := hsome
    refine ⟨raw, hmem, ?_⟩
    unfold Strategy.condition
    rw [hcomparison]
  rw [Strategy.filter, hconditions]
  rfl

/-- A definition with a group that is not settled is parsed, since parsing does
not look into the conditions of a group value.  It is not compiled: settled
entries compile, and the others fail in one way, wherever they stand. -/
theorem definition_unsettled
    {raw : Value}
    {entries : List (Value × Value)}
    (hentries : raw.entries? = some entries)
    (h : ∀ entry ∈ entries, IsEntry shape entry)
    (hunsettled : ∃ entry ∈ entries, Filter.isSettled entry.2 = false) :
    ∃ d, Definition.parse raw = .ok d ∧
      (strategy (.ofOperators backend evaluate) (.ofAnswers answers)).definition
        d = .error .missingAttribute := by
  have hparsed :
      ∀ entry ∈ entries, ∃ parsed : Value × Filter,
        parsed.1 = entry.1 ∧ Filter.parse entry.2 = .ok parsed.2 := by
    intro entry hmem
    obtain ⟨name, -, -, hfilter⟩ := h entry hmem
    obtain ⟨f, hf⟩ := Filter.exists_parse hfilter
    exact ⟨(entry.1, f), rfl, hf⟩
  obtain ⟨d, hd⟩ := Outcome.exists_forall₂ hparsed
  refine ⟨d, (Definition.parse_eq_ok_iff hentries).mpr hd, ?_⟩
  unfold Strategy.definition
  rw [Outcome.mapM_eq_error ?_ ?_, Outcome.error_bind]
  · intro parsed hmem
    obtain ⟨entry, hentry, hsame, hparse⟩ := Outcome.forall₂_mem_right hd hmem
    obtain ⟨name, hkey, -, hfilter⟩ := h entry hentry
    cases hsettled : Filter.isSettled entry.2 with
    | true =>
        obtain ⟨f, hf, hagrees⟩ := Filter.exists_agrees hfilter hsettled
        rw [hparse] at hf
        cases hf
        rw [← hsame] at hkey
        rw [filter_eq_ok hkey hagrees]
        exact Or.inl ⟨_, rfl⟩
    | false =>
        rw [filter_unsettled hfilter hsettled hparse]
        exact Or.inr rfl
  · obtain ⟨entry, hentry, hsettled⟩ := hunsettled
    obtain ⟨parsed, hmem, -, hparse⟩ := Outcome.forall₂_mem_left hd hentry
    obtain ⟨name, -, -, hfilter⟩ := h entry hentry
    refine ⟨parsed, hmem, ?_⟩
    rw [filter_unsettled hfilter hsettled hparse]
    rfl

/-- A settled definition of the grammar is compiled to its interpretation. -/
theorem exists_definition
    {raw : Value}
    {entries : List (Value × Value)}
    (hentries : raw.entries? = some entries)
    (h : ∀ entry ∈ entries, IsEntry shape entry)
    (hsettled : ∀ entry ∈ entries, Filter.isSettled entry.2 = true) :
    ∃ d compiled, Definition.parse raw = .ok d ∧
      (strategy (.ofOperators backend evaluate) (.ofAnswers answers)).definition
        d = .ok compiled ∧
      List.Forall₂
        (strategy (.ofOperators backend evaluate) (.ofAnswers answers)).Compiles
        entries compiled := by
  have hcompiles :
      ∀ entry ∈ entries, ∃ named : Name × Checker,
        (strategy (.ofOperators backend evaluate) (.ofAnswers answers)).Compiles
          entry named := by
    intro entry hmem
    obtain ⟨text, hkey, -⟩ := h entry hmem
    obtain ⟨name, hname, -⟩ := Option.map_eq_some_iff.mp hkey
    exact ⟨(name, Interpretation.filter evaluate answers entry.1.text? entry.2),
      (compiles_iff_interprets (h entry hmem) (hsettled entry hmem)).mpr
        ⟨hname, rfl⟩⟩
  obtain ⟨compiled, hcompiled⟩ := Outcome.exists_forall₂ hcompiles
  obtain ⟨d, hparse, hdefinition⟩ :=
    (Strategy.compiled_iff hentries).mpr hcompiled
  exact ⟨d, compiled, hparse, hdefinition, hcompiled⟩

end Memory

/-! ## Defining a filter -/

namespace MemoryFilter

theorem define_of_valid
    {registry : Registry MemoryBehaviour}
    {callbacks : Callbacks}
    {shape : Shape}
    {raw : Value}
    {d : Definition}
    (hvalid : Validation.violations raw shape none = .ok [])
    (hparse : Definition.parse raw = .ok d) :
    define registry callbacks shape raw =
      (do
        return ⟨shape, d,
          ← (Memory.strategy registry callbacks).definition d⟩) := by
  unfold define
  rw [Validation.ensure_eq_ok_iff.mpr hvalid, Outcome.ok_bind, hparse,
    Outcome.ok_bind]

/-- What a filter in memory comes from. -/
theorem define_eq_ok_iff
    {registry : Registry MemoryBehaviour}
    {callbacks : Callbacks}
    {shape : Shape}
    {raw : Value}
    {f : MemoryFilter} :
    define registry callbacks shape raw = .ok f ↔
      Validation.violations raw shape none = .ok [] ∧
        Definition.parse raw = .ok f.definition ∧
        (Memory.strategy registry callbacks).definition f.definition =
          .ok f.checkers ∧
        f.shape = shape := by
  have hdefine :=
    @Strategy.define_eq_ok_iff _ _ (Memory.strategy registry callbacks)
      (fun d checkers => (⟨shape, d, checkers⟩ : MemoryFilter)) raw shape none f
  refine hdefine.trans (and_congr_right fun _ => ?_)
  constructor
  · rintro ⟨d, checkers, hparse, hdefinition, rfl⟩
    exact ⟨hparse, hdefinition, rfl⟩
  · rintro ⟨hparse, hdefinition, rfl⟩
    exact ⟨f.definition, f.checkers, hparse, hdefinition, rfl⟩

/-- The checkers of a filter are what the entries of its definition
compile to. -/
theorem compiles_checkers
    {registry : Registry MemoryBehaviour}
    {callbacks : Callbacks}
    {shape : Shape}
    {raw : Value}
    {entries : List (Value × Value)}
    {f : MemoryFilter}
    (hentries : raw.entries? = some entries)
    (h : define registry callbacks shape raw = .ok f) :
    List.Forall₂ (Memory.strategy registry callbacks).Compiles entries
      f.checkers := by
  obtain ⟨-, hparse, hdefinition, -⟩ := define_eq_ok_iff.mp h
  exact (Strategy.compiled_iff hentries).mp ⟨f.definition, hparse, hdefinition⟩

/-- **Validation decides about a definition in memory**, but for groups that are
not settled. -/
theorem define_after_validation
    {raw : Value}
    {entries : List (Value × Value)}
    {shape : Shape}
    {found : List Violation}
    (callbacks : Callbacks)
    (hentries : raw.entries? = some entries)
    (hfound : Validation.violations raw shape none = .ok found) :
    (found ≠ [] →
      define Memory.defaultRegistry callbacks shape raw = .error
        (.invalidDefinition found)) ∧
    (found = [] → (∀ entry ∈ entries, Filter.isSettled entry.2 = true) →
      ∃ f, define Memory.defaultRegistry callbacks shape raw = .ok f ∧
        f.checkers.length = entries.length ∧
        f.names.map some = entries.map (·.1.name?)) ∧
    (found = [] → (∃ entry ∈ entries, Filter.isSettled entry.2 = false) →
      define Memory.defaultRegistry callbacks shape raw = .error
        .missingAttribute) := by
  obtain ⟨answers, rfl⟩ := callbacks.exists_answers
  rw [Memory.defaultRegistry_eq]
  refine ⟨?_, ?_, ?_⟩
  · intro hne
    unfold define
    rw [Validation.ensure_of_violations hfound hne]
    rfl
  · rintro rfl hsettled
    have hgrammar := Validation.isEntry_of_no_violations hentries hfound
    obtain ⟨d, compiled, hparse, hdefinition, hcompiled⟩ :=
      @Memory.exists_definition Memory.backend Memory.evaluate answers shape
        raw entries hentries hgrammar hsettled
    refine ⟨⟨shape, d, compiled⟩, ?_, ?_, ?_⟩
    · rw [define_of_valid hfound hparse, hdefinition]
      rfl
    · exact hcompiled.length_eq.symm
    · exact Strategy.names_eq hcompiled
  · rintro rfl hunsettled
    have hgrammar := Validation.isEntry_of_no_violations hentries hfound
    obtain ⟨d, hparse, hdefinition⟩ :=
      @Memory.definition_unsettled Memory.backend Memory.evaluate answers shape
        raw entries hentries hgrammar hunsettled
    rw [define_of_valid hfound hparse, hdefinition]
    rfl

/-- The sample is settled, so it is compiled with one checker for each of its
three names. -/
theorem define_sample :
    Validation.violations sample sampleShape none = .ok [] ∧
      ∃ f, define Memory.defaultRegistry (fun _ _ _ => .ok true) sampleShape
        sample = .ok f ∧
        f.checkers.length = 3 ∧
        f.names.map some =
          [some (.text "age"), some (.text "search"),
            some (.text "known")] := by
  have hnone : Validation.violations sample sampleShape none = .ok [] := by
    rfl
  obtain ⟨-, haccepted, -⟩ :=
    define_after_validation (fun _ _ _ => .ok true) rfl hnone
  refine ⟨hnone, haccepted rfl ?_⟩
  refine List.all_eq_true.mp ?_
  rfl

/-- A group value with a condition in mapping form. -/
def unsettled : Value :=
  .ofFields [("both", .group (.kind .and) [
    .ofFields [("kind", .text "eq"), ("field", .text "age")]])]

/-- The group passes validation, yet compiling stops at its condition. -/
theorem define_unsettled :
    Validation.violations unsettled (.mapping [(.text "age", .builtin .int)])
      none = .ok [] ∧
      define Memory.defaultRegistry (fun _ _ _ => .ok true)
        (.mapping [(.text "age", .builtin .int)]) unsettled =
          .error .missingAttribute := by
  exact ⟨rfl, rfl⟩

end MemoryFilter
end RecordFilter
