import RecordFilter.Proofs.Occurrence
import RecordFilter.Proofs.Questions
import Mathlib.Algebra.Group.Int.Defs

/-!
# Matching a record

This module says what can come of asking the predicate of a definition about a
record, for every definition without callbacks, every mapping of inputs and
every record.

**Defects.**  A question has a defect if it asks for membership in something
that is no collection, if it compares a signalling NaN, or if it looks for texts
where a number is too long to be written.  Each defect has its own failure.

**Results.**
* `Question.defect_of_answer`: a question fails only if it has a defect, and
  then in its way.
* `MemoryFilter.answers_or_defect`: matching gives an answer, or it ends with a
  question that has a defect; every defect ends it, but for signalling NaNs
  inside of collections.
* `MemoryFilter.predicate_unanswered`: signalling NaNs and long
  numbers do end runs.
-/

namespace RecordFilter

open Outcome

/-! ## Operators -/

theorem Value.memberOf_failsOnly
    {reason : Prop}
    {v : Value}
    {items : List Value}
    (hv : Signals reason v)
    (hitems : ∀ item ∈ items, Signals reason item) :
    FailsOnly .signalingNaN reason (v.memberOf items) := by
  exact anyOf_failsOnly fun item hitem =>
    strictEq_failsOnly hv (hitems item hitem)

theorem Memory.textContains_failsIff
    (change : List Char → List Char)
    (field input : Value) :
    FailsIff .oversizedInteger
      (Value.Has Value.isOversized field ∨ Value.Has Value.isOversized input)
      (textContains change field input) := by
  have hinput := Value.plainText_failsIff input
  have hfield := Value.plainText_failsIff field
  exact (hinput.bind fun pattern => hfield.map _).congr or_comm

namespace Question

/-- A reason for which a question can be left without an answer, and the failure
it causes. -/
inductive Defect (q : Question) : Failure → Prop
  | misuse
      (membership : q.operator = .inArray)
      (single : q.input.collection? = none) :
      Defect q (.wrongInput (.notACollection q.input.typeName) none)
  | signaling
      (compares : q.operator ∈ [Operator.eq, .neq, .inArray])
      (occurs : q.field.Has Value.isSignaling ∨ q.input.Has Value.isSignaling) :
      Defect q .signalingNaN
  | oversized
      (searches : q.operator ∈ [Operator.contains, .icontains])
      (occurs : q.field.Has Value.isOversized ∨ q.input.Has Value.isOversized) :
      Defect q .oversizedInteger

/-- Are two numbers compared directly that refuse it? -/
def Incomparable (q : Question) : Prop :=
  q.operator ≠ .inArray ∧ q.field.isBool = q.input.isBool ∧
    ∃ x y, q.field.number? = some x ∧ q.input.number? = some y ∧ x.eq? y = none

variable {q : Question} {e : Failure}

theorem answer_of_search
    (h : q.operator ∈ [Operator.contains, .icontains]) :
    FailsIff .oversizedInteger
      (q.field.Has Value.isOversized ∨ q.input.Has Value.isOversized)
      (q.answer Memory.evaluate) := by
  obtain ⟨op, field, input⟩ := q
  simp only [List.mem_cons, List.not_mem_nil, or_false] at h
  rcases h with rfl | rfl
  · exact Memory.textContains_failsIff id field input
  · exact Memory.textContains_failsIff Text.fold field input

theorem answer_of_misuse
    (membership : q.operator = .inArray)
    (single : q.input.collection? = none) :
    q.answer Memory.evaluate =
      .error (.wrongInput (.notACollection q.input.typeName) none) := by
  obtain ⟨op, field, input⟩ := q
  subst membership
  change (input.requireCollection none >>= field.memberOf) = _
  rw [Value.requireCollection, single, error_bind]

/-- Questions of equality and of proper membership fail only for a
signalling NaN. -/
theorem answer_of_comparison
    (h : q.operator ∈ [Operator.eq, .neq, .inArray])
    (hmembership : q.operator = .inArray → q.input.collection? ≠ none) :
    FailsOnly .signalingNaN
      (q.field.Has Value.isSignaling ∨ q.input.Has Value.isSignaling)
      (q.answer Memory.evaluate) := by
  obtain ⟨op, field, input⟩ := q
  have hfield :
      Value.Signals (field.Has Value.isSignaling ∨ input.Has Value.isSignaling)
        field := .inl
  have hinput :
      Value.Signals (field.Has Value.isSignaling ∨ input.Has Value.isSignaling)
        input := .inr
  have hequal := Value.strictEq_failsOnly hfield hinput
  simp only [List.mem_cons, List.not_mem_nil, or_false] at h
  rcases h with rfl | rfl | rfl
  · exact hequal
  · exact hequal.bind fun b _ => .ok !b
  · obtain ⟨items, hitems⟩ := Option.ne_none_iff_exists'.mp (hmembership rfl)
    change FailsOnly _ _ (input.requireCollection none >>= field.memberOf)
    rw [Value.requireCollection, hitems, ok_bind]
    exact Value.memberOf_failsOnly hfield (hinput.collection hitems)

/-- A question fails only if it has a defect, and then in the way of
the defect. -/
theorem defect_of_answer
    (h : q.answer Memory.evaluate = .error e) :
    q.Defect e := by
  have hcomparison :
      ∀ hcompares : q.operator ∈ [Operator.eq, .neq, .inArray],
        (q.operator = .inArray → q.input.collection? ≠ none) → q.Defect e := by
    intro hcompares hmembership
    rcases answer_of_comparison hcompares hmembership with
        ⟨b, hb⟩ | ⟨herror, hoccurs⟩
    · rw [hb] at h
      cases h
    · rw [herror] at h
      cases h
      exact .signaling hcompares hoccurs
  cases hop : q.operator with
  | eq | neq => exact hcomparison (by simp [hop]) (by simp [hop])
  | inArray =>
      by_cases hsingle : q.input.collection? = none
      · rw [answer_of_misuse hop hsingle] at h
        cases h
        exact .misuse hop hsingle
      · exact hcomparison (by simp [hop]) fun _ => hsingle
  | contains | icontains =>
      have hsearches :
          q.operator ∈ [Operator.contains, .icontains] := by simp [hop]
      obtain ⟨rfl, hoccurs⟩ := (answer_of_search hsearches).iff_error.mp h
      exact .oversized hsearches hoccurs
  | gt | gte | lt | lte | isNull | isNotNull =>
      unfold answer at h
      rw [hop] at h
      cases h

theorem answer_of_incomparable
    (hcompares : q.operator ∈ [Operator.eq, .neq, .inArray])
    (h : q.Incomparable) :
    q.answer Memory.evaluate = .error .signalingNaN := by
  obtain ⟨op, field, input⟩ := q
  obtain ⟨hnot, hkinds, x, y, hx, hy, hrefuse⟩ := h
  have hequal := Value.strictEq_of_refusing hkinds hx hy hrefuse
  simp only [List.mem_cons, List.not_mem_nil, or_false] at hcompares
  rcases hcompares with rfl | rfl | rfl
  · exact hequal
  · change (field.strictEq input >>= fun b => pure !b) = _
    rw [hequal, error_bind]
  · exact absurd rfl hnot

/-- A defect leaves its question without an answer, for signalling NaNs at least
if they are compared directly. -/
theorem answer_of_defect
    (h : q.Defect e)
    (hdirect : e = .signalingNaN → q.Incomparable) :
    q.answer Memory.evaluate = .error e := by
  cases h with
  | misuse membership single => exact answer_of_misuse membership single
  | signaling compares => exact answer_of_incomparable compares (hdirect rfl)
  | oversized searches occurs =>
      exact (answer_of_search searches).iff_error.mpr ⟨rfl, occurs⟩

end Question

/-! ## Runs -/

namespace MemoryFilter

variable {callbacks : Callbacks} {shape : Shape} {raw : Value}
variable {f : MemoryFilter}

/-- **Matching answers, unless a question has a defect.**  A run that fails ends
with the failure of a defect.  Misuse, numbers that are too long to be written,
and direct comparisons with a signalling NaN always end a run. -/
theorem answers_or_defect
    {entries : List (Value × Value)}
    (hentries : raw.entries? = some entries)
    (hcallbacks : ∀ entry ∈ entries, entry.2.callback? = none)
    (h : define Memory.defaultRegistry callbacks shape raw = .ok f)
    (form : MappingForm)
    (inputs : List (Value × Value)) :
    ∃ p, f.predicate (.mapping form inputs) = .ok p ∧ ∀ record,
      ((∃ b, (p record).result = .ok b) ∨
        ∃ q ∈ Interpretation.asked Memory.evaluate record inputs entries,
          ∃ e, q.Defect e ∧ (p record).result = .error e) ∧
      ∀ q ∈ Interpretation.asked Memory.evaluate record inputs entries,
        ∀ e, q.Defect e → (e = .signalingNaN → q.Incomparable) →
          (p record).result = .error e := by
  rw [Memory.defaultRegistry_eq] at h
  have hgiven : (Value.mapping form inputs).inputs = .ok inputs := rfl
  obtain ⟨p, hp, hfails⟩ := result_eq_error_iff hentries hcallbacks h hgiven
  refine ⟨p, hp, fun record => ⟨?_, fun q hq e hdefect hdirect => ?_⟩⟩
  · cases hresult : (p record).result with
    | ok b => exact .inl ⟨b, rfl⟩
    | error e =>
        obtain ⟨q, hq, hanswer⟩ := (hfails record e).mp hresult
        exact .inr ⟨q, hq, e, q.defect_of_answer hanswer, rfl⟩
  · exact (hfails record e).mpr ⟨q, hq, q.answer_of_defect hdefect hdirect⟩

/-- A shape for the sample. -/
def personShape : Shape :=
  .mapping [(.text "age", .builtin .int), (.text "name", .builtin .text)]

/-- A membership, and a search in a text or for an age. -/
def search : List (Value × Value) :=
  [(.text "ages", .comparison (.kind .inArray) (.text "age") (.bool false)),
    (.text "search", .group (.kind .or)
      [.comparison (.kind .contains) (.text "name") (.bool true),
        .comparison (.kind .eq) (.text "age") (.bool false)])]

/-- Asking for membership in a text fails for every record. -/
theorem search_misused :
    ∃ f, define Memory.defaultRegistry (fun _ _ _ => .ok true) personShape
        (.mapping .plain search) = .ok f ∧
      ∃ p, f.predicate (.mapping .plain [(.text "ages", .text "30")]) = .ok p ∧
        ∀ record, (p record).result =
          .error (.wrongInput (.notACollection "str") none) := by
  obtain ⟨f, hf⟩ :
      ∃ f, define Memory.defaultRegistry (fun _ _ _ => .ok true) personShape
        (.mapping .plain search) = .ok f := ⟨_, rfl⟩
  obtain ⟨p, hp, hrun⟩ :=
    answers_or_defect rfl (by simp [search, Value.callback?]) hf .plain
      [(.text "ages", .text "30")]
  refine ⟨f, hf, p, hp, fun record => ?_⟩
  have hasked :
      ⟨.inArray, record.follow (Path.segments "age"), .text "30"⟩ ∈
        Interpretation.asked Memory.evaluate record [(.text "ages", .text "30")]
          search :=
    List.mem_append_left _ (List.mem_singleton.mpr rfl)
  exact (hrun record).2 _ hasked _ (.misuse rfl rfl) nofun

/-- A number of 4301 digits. -/
def longNumber : Int := 10 ^ Value.maxDigits

theorem isOversized_longNumber :
    Value.isOversized (.int longNumber) = true := by
  rw [Value.isOversized_int, longNumber, Int.natAbs_pow, Nat.pow_eq]
  exact Nat.pow_le_pow_left (by decide) Value.maxDigits

/-- A comparison for equality, and a search. -/
def sameOrPart : List (Value × Value) :=
  [(.text "same", .comparison (.kind .eq) (.text "a") (.bool false)),
    (.text "part", .comparison (.kind .contains) (.text "a") (.bool false))]

/-- Without any membership, a comparison with a signalling NaN has no answer,
and neither has a search in a number that is too long to be written. -/
theorem predicate_unanswered :
    ∃ f, define Memory.defaultRegistry (fun _ _ _ => .ok true) .absent
        (.mapping .plain sameOrPart) = .ok f ∧
      (∃ p, f.predicate (.mapping .plain [(.text "same", .int 1)]) = .ok p ∧
        (p (.ofFields [("a", .decimal (.nan false true 0))])).result =
          .error .signalingNaN) ∧
      ∃ p, f.predicate (.mapping .plain [(.text "part", .text "1")]) = .ok p ∧
        (p (.ofFields [("a", .int longNumber)])).result =
          .error .oversizedInteger := by
  obtain ⟨f, hf⟩ :
      ∃ f, define Memory.defaultRegistry (fun _ _ _ => .ok true) .absent
        (.mapping .plain sameOrPart) = .ok f := ⟨_, rfl⟩
  have hcallbacks : ∀ entry ∈ sameOrPart, entry.2.callback? = none := by
    simp [sameOrPart, Value.callback?]
  refine ⟨f, hf, ?_, ?_⟩
  · have hgiven :
        (Value.mapping .plain [(.text "same", .int 1)]).inputs =
          .ok [(.text "same", .int 1)] := rfl
    obtain ⟨p, hp, hfails⟩ := result_eq_error_iff rfl hcallbacks hf hgiven
    refine ⟨p, hp, (hfails _ _).mpr
      ⟨⟨.eq, .decimal (.nan false true 0), .int 1⟩, ?_, rfl⟩⟩
    exact List.mem_append_left _ (List.mem_singleton.mpr rfl)
  · have hgiven :
        (Value.mapping .plain [(.text "part", .text "1")]).inputs =
          .ok [(.text "part", .text "1")] := rfl
    obtain ⟨p, hp, hfails⟩ := result_eq_error_iff rfl hcallbacks hf hgiven
    have hdefect :
        Question.Defect ⟨.contains, .int longNumber, .text "1"⟩
          .oversizedInteger :=
      .oversized (by simp) (.inl (.here isOversized_longNumber))
    refine ⟨p, hp, (hfails _ _).mpr
      ⟨_, ?_, Question.answer_of_defect hdefect nofun⟩⟩
    exact List.mem_append_left _ (List.mem_singleton.mpr rfl)

end MemoryFilter
end RecordFilter
