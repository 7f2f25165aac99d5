import RecordFilter.Proofs.Meaning

/-!
# The questions of a run

A predicate puts questions to a record: is the value of a field related to an
input as an operator says?  This module lists the questions that a run puts, up
to the one that ends it.

**Questions.**  A comparison puts one question.  A group of the kind `and` goes
on after a yes, one of the kind `or` after a no.  A definition goes on to the
next entry after a yes.

**Results.**
* `Interpretation.definition_eq_error_iff`: the interpretation of a definition
  without callbacks fails exactly if a question fails that is put on the way,
  and then in the way of the question.
* `MemoryFilter.result_eq_error_iff`: so does the predicate of an
  accepted definition.
-/

namespace RecordFilter

open Grammar

/-- An operator, the value of a field, and an input. -/
structure Question where
  operator : Operator
  field : Value
  input : Value

/-- The answer to a question, given what the operators do. -/
def Question.answer (evaluate : Operator → MemoryBehaviour) (q : Question) :
    Except Failure Bool :=
  evaluate q.operator q.field q.input

namespace Interpretation

variable (evaluate : Operator → MemoryBehaviour)

/-- The question of a comparison under a name. -/
def question? (name : Option String) (raw record input : Value) :
    Option Question :=
  match Declared.operator? raw, Declared.path? name raw with
  | some op, some path => some ⟨op, record.follow (Path.segments path), input⟩
  | _, _ => none

/-- The questions of conditions, for as long as the answers are `onward`. -/
def askedWhile (onward : Bool) (record input : Value) :
    List Value → List Question
  | [] => []
  | raw :: rest =>
      (question? none raw record input).toList ++
        match comparison evaluate none raw record input with
        | .ok b =>
            if b = onward then askedWhile onward record input rest else []
        | .error _ => []

/-- The questions of what is declared under a name. -/
def askedBy (name : Option String) (raw record input : Value) : List Question :=
  match Declared.kind? raw with
  | some .and =>
      askedWhile evaluate true record input ((Declared.conditions? raw).getD [])
  | some .or =>
      askedWhile evaluate false record input
        ((Declared.conditions? raw).getD [])
  | _ => (question? name raw record input).toList

/-- The questions of a definition, entry by entry. -/
def asked (record : Value) (inputs : List (Value × Value)) :
    List (Value × Value) → List Question
  | [] => []
  | entry :: rest =>
      match given? entry.1.text? inputs with
      | none => asked record inputs rest
      | some input =>
          askedBy evaluate entry.1.text? entry.2 record input ++
            match declared evaluate entry.1.text? entry.2 record input with
            | .ok true => asked record inputs rest
            | _ => []

variable {evaluate}
variable {answers : Callback → Value → Value → Except Failure Value}
variable {shape : Shape} {name : Option String} {raw record input : Value}
variable {e : Failure}

/-! ## Comparisons and groups -/

/-- A comparison of the grammar is answered as its one question is. -/
theorem exists_question
    (h : IsComparison shape name raw)
    (record input : Value) :
    ∃ q, question? name raw record input = some q ∧
      comparison evaluate name raw record input = q.answer evaluate := by
  obtain ⟨op, hop⟩ := h.exists_operator
  obtain ⟨path, hpath, -⟩ := h.path
  refine ⟨⟨op, record.follow (Path.segments path), input⟩, ?_, ?_⟩
  · simp only [question?, hop, hpath]
  · simp only [comparison, hop, hpath]
    rfl

theorem comparison_eq_error_iff
    (h : IsComparison shape name raw) :
    comparison evaluate name raw record input = .error e ↔
      ∃ q ∈ (question? name raw record input).toList,
        q.answer evaluate = .error e := by
  obtain ⟨q, hq, hanswer⟩ :=
    @exists_question evaluate shape name raw h record input
  rw [hanswer, hq]
  simp

/-- The conditions of a group fail exactly if a question fails that is
put to them. -/
theorem conditions_eq_error_iff
    {onward : Bool}
    {run : List Value → Except Failure Bool}
    (hrun : RunsWhile evaluate onward record input run)
    {conditions : List Value}
    (h : ∀ condition ∈ conditions, IsComparison shape none condition) :
    run conditions = .error e ↔
      ∃ q ∈ askedWhile evaluate onward record input conditions,
        q.answer evaluate = .error e := by
  induction conditions with
  | nil =>
      rw [hrun.nil]
      simp [askedWhile]
  | cons raw rest ih =>
      have hfirst := h raw List.mem_cons_self
      have hrest :=
        ih fun other hother => h other (List.mem_cons_of_mem raw hother)
      obtain ⟨q, hq, hanswer⟩ :=
        @exists_question evaluate shape none raw hfirst record input
      rw [hrun.cons, askedWhile, hq, hanswer]
      cases hresult : q.answer evaluate with
      | error e' => simp [hresult]
      | ok b =>
          by_cases honward : b = onward
          · simp [hresult, honward, hrest]
          · simp [hresult, honward]

/-! ## Entries -/

theorem askedBy_of_comparison
    (h : IsComparison shape name raw) :
    askedBy evaluate name raw record input =
      (question? name raw record input).toList := by
  obtain ⟨k, hkind, hcompares⟩ := h.kind
  unfold askedBy
  rw [hkind]
  cases k <;> first | rfl | cases hcompares

/-- What is declared under a name fails exactly if one of its questions does. -/
theorem declared_eq_error_iff
    {text : String}
    (h : IsFilter shape text raw)
    (hcallback : raw.callback? = none) :
    declared evaluate (some text) raw record input = .error e ↔
      ∃ q ∈ askedBy evaluate (some text) raw record input,
        q.answer evaluate = .error e := by
  cases h with
  | custom hcustom =>
      rw [hcallback] at hcustom
      cases hcustom
  | comparison hcomparison =>
      rw [declared_of_comparison evaluate hcomparison,
        askedBy_of_comparison hcomparison]
      exact comparison_eq_error_iff hcomparison
  | group hgroup =>
      obtain ⟨k, hkind, hgroups⟩ := hgroup.kind
      obtain ⟨conditions, hconditions, -, heach⟩ := hgroup.conditions
      unfold declared askedBy
      rw [hkind, hconditions, Option.getD_some]
      cases k with
      | and =>
          exact conditions_eq_error_iff
            (allOf_runsWhile evaluate record input) heach
      | or =>
          exact conditions_eq_error_iff
            (anyOf_runsWhile evaluate record input) heach
      | _ => cases hgroups

/-- The interpretation of a definition fails exactly if a question fails
that is put. -/
theorem definition_eq_error_iff
    {inputs entries : List (Value × Value)}
    (h : ∀ entry ∈ entries, IsEntry shape entry)
    (hcallbacks : ∀ entry ∈ entries, entry.2.callback? = none) :
    (definition evaluate answers record inputs entries).result = .error e ↔
      ∃ q ∈ asked evaluate record inputs entries,
        q.answer evaluate = .error e := by
  induction entries with
  | nil =>
      rw [definition, asked]
      simp
  | cons entry rest ih =>
      have hrest :=
        ih (fun other hother => h other (List.mem_cons_of_mem entry hother))
          (fun other hother =>
            hcallbacks other (List.mem_cons_of_mem entry hother))
      rw [definition, asked]
      cases hgiven : given? entry.1.text? inputs with
      | none => exact hrest
      | some input =>
          obtain ⟨text, hkey, -, hfilter⟩ := h entry List.mem_cons_self
          have hcallback := hcallbacks entry List.mem_cons_self
          have hfirst :=
            @declared_eq_error_iff evaluate shape entry.2 record input e text
              hfilter hcallback
          simp only [filter, hcallback, hkey]
          cases hdeclared : declared evaluate (some text) entry.2 record
            input with
          | error e' =>
              rw [hdeclared] at hfirst
              simpa [Traced.ofExcept] using hfirst
          | ok b =>
              rw [hdeclared] at hfirst
              have hnone :
                  ¬ ∃ q ∈ askedBy evaluate (some text) entry.2 record input,
                    q.answer evaluate = .error e := by
                rw [← hfirst]
                simp
              cases b with
              | true =>
                  simp only [List.mem_append, or_and_right, exists_or, hnone,
                    false_or]
                  rw [← hrest]
                  simp [Traced.ofExcept]
              | false =>
                  simp only [List.append_nil, hnone, iff_false]
                  simp [Traced.ofExcept]

/-! ## Where questions come from -/

section Origins

variable {q : Question}

theorem operator?_of_question?
    (h : question? name raw record input = some q) :
    Declared.operator? raw = some q.operator ∧ q.input = input := by
  unfold question? at h
  split at h
  · rename_i op path hop hpath
    cases h
    exact ⟨hop, rfl⟩
  · cases h

theorem exists_of_mem_askedWhile
    {onward : Bool}
    {conditions : List Value}
    (h : q ∈ askedWhile evaluate onward record input conditions) :
    ∃ condition ∈ conditions,
      question? none condition record input = some q := by
  induction conditions with
  | nil => cases h
  | cons condition rest ih =>
      rcases List.mem_append.mp h with hfirst | hlater
      · exact ⟨condition, List.mem_cons_self, Option.mem_toList.mp hfirst⟩
      · split at hlater
        · split at hlater
          · obtain ⟨other, hother, hquestion⟩ := ih hlater
            exact ⟨other, List.mem_cons_of_mem condition hother, hquestion⟩
          · cases hlater
        · cases hlater

theorem exists_of_mem_asked
    {inputs entries : List (Value × Value)}
    (h : q ∈ asked evaluate record inputs entries) :
    ∃ entry ∈ entries, ∃ input, given? entry.1.text? inputs = some input ∧
      q ∈ askedBy evaluate entry.1.text? entry.2 record input := by
  induction entries with
  | nil => cases h
  | cons entry rest ih =>
      have hlift :
          q ∈ asked evaluate record inputs rest →
            ∃ other ∈ entry :: rest, ∃ input,
              given? other.1.text? inputs = some input ∧
              q ∈ askedBy evaluate other.1.text? other.2 record input := by
        intro hrest
        obtain ⟨other, hother, hasked⟩ := ih hrest
        exact ⟨other, List.mem_cons_of_mem entry hother, hasked⟩
      rw [asked] at h
      cases hgiven : given? entry.1.text? inputs with
      | none =>
          rw [hgiven] at h
          exact hlift h
      | some input =>
          rw [hgiven] at h
          rcases List.mem_append.mp h with hfirst | hlater
          · exact ⟨entry, List.mem_cons_self, input, hgiven, hfirst⟩
          · split at hlater
            · exact hlift hlater
            · cases hlater

end Origins
end Interpretation

/-! ## Predicates -/

namespace MemoryFilter

variable {evaluate : Operator → MemoryBehaviour} {backend : String}
variable {callbacks : Callbacks} {shape : Shape} {raw : Value}
variable {f : MemoryFilter}

/-- The entries of an accepted definition are entries of the grammar. -/
theorem isEntry_of_define
    {entries : List (Value × Value)}
    {registry : Registry MemoryBehaviour}
    (hentries : raw.entries? = some entries)
    (h : define registry callbacks shape raw = .ok f) :
    ∀ entry ∈ entries, IsEntry shape entry :=
  Validation.isEntry_of_no_violations hentries (define_eq_ok_iff.mp h).1

theorem predicate_eq_passes
    {given : Value}
    {inputs : List (Value × Value)}
    (h : given.inputs = .ok inputs) :
    f.predicate given = .ok fun record => passes record (f.active inputs) := by
  unfold predicate
  rw [Value.isNone_of_inputs h, h]
  rfl

/-- The predicate of an accepted definition fails exactly if a question fails
that is put. -/
theorem result_eq_error_iff
    {given : Value}
    {entries inputs : List (Value × Value)}
    (hentries : raw.entries? = some entries)
    (hcallbacks : ∀ entry ∈ entries, entry.2.callback? = none)
    (h : define (.ofOperators backend evaluate) callbacks shape raw = .ok f)
    (hgiven : given.inputs = .ok inputs) :
    ∃ p, f.predicate given = .ok p ∧
      ∀ record e, (p record).result = .error e ↔
        ∃ q ∈ Interpretation.asked evaluate record inputs entries,
          q.answer evaluate = .error e := by
  have hgrammar := isEntry_of_define hentries h
  obtain ⟨answers, rfl⟩ := callbacks.exists_answers
  obtain ⟨found, hfound, hinterprets⟩ := interprets_of_define h
  rw [hentries] at hfound
  cases hfound
  refine ⟨_, predicate_eq_passes hgiven, fun record e => ?_⟩
  have hrun : passes record (f.active inputs) =
      Interpretation.definition evaluate answers record inputs entries :=
    passes_eq_definition hinterprets record inputs
  rw [hrun]
  exact Interpretation.definition_eq_error_iff hgrammar hcallbacks

end MemoryFilter
end RecordFilter
