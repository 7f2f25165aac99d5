import RecordFilter.Proofs.Gate

/-!
# What compiled definitions mean

This module shows that a compiled definition does to a record what the
interpretation of its raw entries does: with the same answer or failure, and
with the same calls of callbacks.

**Method.**  Every entry of a definition that was accepted compiles to its
interpretation.  A run of the predicate over the active checkers is then
compared with the interpretation, entry by entry.

**Main result.**
* `predicate_eq_interpretation`: for every accepted definition, every mapping of
  inputs and every record, running the predicate is the interpretation.
-/

namespace RecordFilter

open Grammar

namespace MemoryFilter

variable {backend : String} {evaluate : Operator → MemoryBehaviour}
variable {answers : Callback → Value → Value → Except Failure Value}
variable {shape : Shape} {raw : Value} {f : MemoryFilter}

/-! ## Entries -/

/-- Every entry of an accepted definition compiles to its interpretation. -/
theorem interprets_of_define
    (h :
      define (.ofOperators backend evaluate) (.ofAnswers answers) shape
        raw = .ok f) :
    ∃ entries, raw.entries? = some entries ∧
      List.Forall₂ (Memory.Interprets evaluate answers) entries f.checkers := by
  obtain ⟨entries, d, compiled, hentries, hf, hgrammar, hcompiled⟩ :=
    @Strategy.compiles_of_define _ _
      (Memory.strategy (.ofOperators backend evaluate) (.ofAnswers answers))
      (fun d checkers => (⟨shape, d, checkers⟩ : MemoryFilter)) raw shape
      none f h
  subst hf
  refine ⟨entries, hentries, ?_⟩
  have hboth :=
    (List.forall₂_and_left entries compiled).mpr ⟨hgrammar, hcompiled⟩
  refine hboth.imp ?_
  rintro entry named ⟨hentry, hcompiles⟩
  exact (Memory.compiles_iff_interprets hentry hcompiles.isSettled).mp hcompiles

/-! ## Runs -/

/-- What is active depends on the inputs under the names alone. -/
theorem activeAmong_congr
    {γ : Type}
    {named : List (Name × γ)}
    {inputs inputs' : List (Value × Value)}
    (h : ∀ entry ∈ named,
      Value.active? entry.1 inputs = Value.active? entry.1 inputs') :
    Value.activeAmong named inputs = Value.activeAmong named inputs' := by
  refine List.filterMap_congr fun entry hmem => ?_
  rw [h entry hmem]

theorem active?_eq_given?
    {key : Value}
    {name : Name}
    (hname : key.name? = some name)
    (inputs : List (Value × Value)) :
    Value.active? name inputs = Interpretation.given? key.text? inputs := by
  unfold Value.active? Interpretation.given? Value.text?
  rw [hname, Option.map_some, Option.bind_some]
  cases Value.field? name.content inputs with
  | none => rfl
  | some input => cases hnone : input.isNone <;> simp [Option.filter, hnone]

/-- Running the active checkers is running the interpretation, which skips the
entries that are not active. -/
theorem passes_eq_definition
    {entries : List (Value × Value)}
    {checkers : List (Name × Checker)}
    (h : List.Forall₂ (Memory.Interprets evaluate answers) entries checkers)
    (record : Value)
    (inputs : List (Value × Value)) :
    passes record (Value.activeAmong checkers inputs) =
      Interpretation.definition evaluate answers record inputs entries := by
  induction h with
  | nil => rfl
  | @cons entry named entries checkers hinterprets hothers ih =>
      have hactive := active?_eq_given? hinterprets.name inputs
      unfold Value.activeAmong at ih ⊢
      rw [List.filterMap_cons, Interpretation.definition, hactive]
      cases Interpretation.given? entry.1.text? inputs with
      | none => exact ih
      | some input =>
          simp only [Option.map_some, passes, hinterprets.checker, ih]

/-- **A compiled definition means what its entries say.** -/
theorem predicate_eq_interpretation
    (h : define Memory.defaultRegistry (.ofAnswers answers) shape raw = .ok f) :
    ∃ entries, raw.entries? = some entries ∧
      ∀ (form : MappingForm) (inputs : List (Value × Value)),
        ∃ p, f.predicate (.mapping form inputs) = .ok p ∧
          ∀ record,
            p record =
              Interpretation.definition Memory.evaluate answers record inputs
                entries := by
  rw [Memory.defaultRegistry_eq] at h
  obtain ⟨entries, hentries, hinterprets⟩ := interprets_of_define h
  refine ⟨entries, hentries, fun form inputs => ?_⟩
  refine ⟨fun record => passes record (f.active inputs), rfl, fun record => ?_⟩
  exact passes_eq_definition hinterprets record inputs

/-- A record for the sample. -/
def sampleRecord : Value :=
  .ofFields [("age", .int 30),
    ("owner", .ofFields [("email", .text "Ann@example")])]

/-- Inputs for the sample: one is missing, one is zero. -/
def sampleInputs : List (Value × Value) :=
  [(.text "known", .int 0), (.text "age", .none), (.text "search", .text "ann")]

/-- The sample skips the age, finds the text in the nested field whatever its
case, and calls its callback once. -/
theorem predicate_sample :
    ∃ f, define Memory.defaultRegistry
      (.ofAnswers fun _ _ _ => .ok (.text "yes"))
        sampleShape sample = .ok f ∧
      ∃ p, f.predicate (.mapping .plain sampleInputs) = .ok p ∧
        p sampleRecord =
          ⟨[⟨⟨0, "known", []⟩, sampleRecord, .int 0⟩], .ok true⟩ := by
  obtain ⟨f, hf⟩ :
      ∃ f, define Memory.defaultRegistry
        (.ofAnswers fun _ _ _ => .ok (.text "yes")) sampleShape sample =
          .ok f := ⟨_, rfl⟩
  refine ⟨f, hf, ?_⟩
  obtain ⟨entries, hentries, hmeans⟩ := predicate_eq_interpretation hf
  obtain ⟨p, hp, hrun⟩ := hmeans .plain sampleInputs
  cases hentries
  refine ⟨p, hp, (hrun sampleRecord).trans ?_⟩
  rfl

end MemoryFilter
end RecordFilter
