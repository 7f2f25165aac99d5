import RecordFilter.Proofs.Outcome
import RecordFilter.Validation

/-!
# Related runs of validation

Validation reads a shape through the problems of paths only: it asks for them,
and joins what it finds.  So two runs of it, in different scopes, are related in
any way in which their parts are.

**Plain runs.**  A run that asks for no path is the same in every scope, and
nothing that it finds is about a field.

**Method.**  A relation respects validation if it holds between a plain
run and itself, and between joined runs whose parts are related.  Each
level of validation keeps such a relation, provided that the problems of
every path are related.

**Results.**
* `Respects.eq`: equality is such a relation.
* `entries_kept`: what the relation says of paths, it says of whole definitions.
-/

namespace RecordFilter

/-- Is the problem about a field that the shape does not have? -/
def Problem.isAboutField : Problem → Bool
  | .noSuchField .. | .notTraversable .. => true
  | _ => false

namespace Validation

/-! ## Runs -/

/-- The problems of a run as violations at a place. -/
def located (name : Name) (place : Option String)
    (run : Except Failure (List Problem)) : Except Failure (List Violation) :=
  run.map (List.map fun problem => ⟨name, problem, place⟩)

theorem located_bind
    {α : Type}
    (name : Name)
    (place : Option String)
    (x : Except Failure α)
    (f : α → Except Failure (List Problem)) :
    located name place (x >>= f) = x >>= fun a => located name place (f a) := by
  cases x <;> rfl

/-- A run that finds nothing about fields. -/
def IsPlain (run : Except Failure (List Violation)) : Prop :=
  ∀ found, run = .ok found → ∀ v ∈ found, v.problem.isAboutField = false

namespace IsPlain

variable {name : Name} {place : Option String}

theorem error
    (e : Failure) :
    IsPlain (.error e) := by
  intro found h
  cases h

theorem nil :
    IsPlain (.ok []) := by
  intro found h
  cases h
  simp

theorem single
    {problem : Problem}
    (h : problem.isAboutField = false) :
    IsPlain (.ok [⟨name, problem, place⟩]) := by
  intro found hfound
  cases hfound
  simpa using h

theorem bind
    {α : Type}
    {x : Except Failure α}
    {f : α → Except Failure (List Violation)}
    (h : ∀ a, x = .ok a → IsPlain (f a)) :
    IsPlain (x >>= f) := by
  cases x with
  | error e => exact error e
  | ok a => exact h a rfl

theorem kindProblem
    (kind : Value) :
    IsPlain (do return [⟨name, ← Validation.kindProblem kind, place⟩]) := by
  unfold Validation.kindProblem
  split
  · exact single rfl
  · exact bind fun problem h => by
      obtain ⟨text, -, htext⟩ := Outcome.bind_eq_ok.mp h
      cases htext
      exact single rfl

theorem flagProblems
    (raw : Value) :
    IsPlain (located name place (Validation.flagProblems raw)) := by
  simp only [Validation.flagProblems]
  split
  · rw [located_bind]
    exact bind fun text _ => single rfl
  · exact nil

theorem formProblem
    {raw kind : Value}
    {problem : Problem}
    (h : formProblem? raw kind = .ok (some problem)) :
    IsPlain (.ok [⟨name, problem, place⟩]) := by
  cases raw with
  | comparison k field flag =>
      obtain ⟨isGroup, -, hrest⟩ := Outcome.bind_eq_ok.mp h
      split at hrest
      · obtain ⟨text, -, htext⟩ := Outcome.bind_eq_ok.mp hrest
        cases htext
        exact single rfl
      · cases hrest
  | group k conditions =>
      obtain ⟨isGroup, -, hrest⟩ := Outcome.bind_eq_ok.mp h
      split at hrest
      · cases hrest
      · obtain ⟨text, -, htext⟩ := Outcome.bind_eq_ok.mp hrest
        cases htext
        exact single rfl
  | _ => cases h

end IsPlain

/-! ## Relations that validation keeps -/

/-- A relation that holds of plain runs, and of joined runs if it holds of
their parts. -/
structure Respects
    (R : Except Failure (List Violation) →
      Except Failure (List Violation) → Prop) : Prop where
  plain : ∀ {x}, IsPlain x → R x x
  joined :
    ∀ {x x' y y'}, R x x' → R y y' →
      R (do return (← x) ++ (← y)) (do return (← x') ++ (← y'))

theorem Respects.eq :
    Respects Eq where
  plain := fun _ => rfl
  joined := by
    rintro x _ y _ rfl rfl
    rfl

theorem Respects.bind
    {R : Except Failure (List Violation) →
      Except Failure (List Violation) → Prop}
    {α : Type}
    {x : Except Failure α}
    {f f' : α → Except Failure (List Violation)}
    (hR : Respects R)
    (h : ∀ a, R (f a) (f' a)) :
    R (x >>= f) (x >>= f') := by
  cases x with
  | error e => exact hR.plain (.error e)
  | ok a => exact h a

section Kept

variable {R : Except Failure (List Violation) →
  Except Failure (List Violation) → Prop}
variable {scope scope' : Scope}
variable (hR : Respects R)
variable (hpaths : ∀ name place path,
  R (located name place (pathProblems scope path))
    (located name place (pathProblems scope' path)))
include hR hpaths

theorem comparison_kept
    (name : Name)
    (place : Option String)
    (fallback : Option Name)
    (raw : Value) :
    R (located name place (comparisonProblems scope fallback raw))
      (located name place (comparisonProblems scope' fallback raw)) := by
  have hcheck :
      ∀ path,
        R (located name place
          (do return (← flagProblems raw) ++ (← pathProblems scope path)))
          (located name place
            (do return (← flagProblems raw) ++
              (← pathProblems scope' path))) := by
    intro path
    unfold located
    rw [Outcome.map_append, Outcome.map_append]
    exact hR.joined (hR.plain (.flagProblems raw)) (hpaths name place path)
  simp only [comparisonProblems]
  split
  · cases fallback with
    | none => exact hR.plain (.single rfl)
    | some path => exact hcheck path
  · split
    · split
      · exact hR.plain (.single rfl)
      · exact hcheck _
    · exact hR.plain (.single rfl)

theorem condition_kept
    (name : Name)
    (index : Nat)
    (condition : Value) :
    R (conditionViolations scope name index condition)
      (conditionViolations scope' name index condition) := by
  change R (located name (some (conditionPath index))
    (conditionProblems scope condition))
    (located name (some (conditionPath index))
      (conditionProblems scope' condition))
  simp only [conditionProblems]
  split
  · exact hR.plain (.single rfl)
  · rw [located_bind, located_bind]
    refine hR.bind fun isGroup => ?_
    split
    · exact hR.plain (.single rfl)
    · rw [located_bind, located_bind]
      refine hR.bind fun isComparison => ?_
      split
      · exact comparison_kept hR hpaths name _ none condition
      · rw [located_bind]
        exact hR.plain (.kindProblem _)

theorem conditions_kept
    (name : Name)
    (index : Nat)
    (conditions : List Value) :
    R (conditionsViolations scope name index conditions)
      (conditionsViolations scope' name index conditions) := by
  induction conditions generalizing index with
  | nil => exact hR.plain .nil
  | cons condition rest ih =>
      exact hR.joined (condition_kept hR hpaths name index condition)
        (ih (index + 1))

theorem group_kept
    (name : Name)
    (raw : Value) :
    R (groupViolations scope name raw) (groupViolations scope' name raw) := by
  unfold groupViolations
  split
  · exact hR.plain (.bind fun kind _ => .single rfl)
  · exact hR.plain (.bind fun kind _ => .single rfl)
  · exact conditions_kept hR hpaths name 0 _

theorem filter_kept
    (name : Name)
    (raw : Value) :
    R (filterViolations scope name raw) (filterViolations scope' name raw) := by
  simp only [filterViolations]
  cases hform : formProblem? raw (kindOf raw) with
  | error e => exact hR.plain (.error e)
  | ok problem =>
      rw [Outcome.ok_bind, Outcome.ok_bind]
      cases problem with
      | some problem => exact hR.plain (.formProblem hform)
      | none =>
          refine hR.bind fun isGroup => ?_
          split
          · exact group_kept hR hpaths name raw
          · refine hR.bind fun isComparison => ?_
            split
            · exact comparison_kept hR hpaths name none (some name) raw
            · exact hR.plain (.kindProblem _)

theorem entry_kept
    (entry : Value × Value) :
    R (entryViolations scope entry) (entryViolations scope' entry) := by
  unfold entryViolations
  split
  · exact hR.plain (.bind fun shown _ => .single rfl)
  · split
    · exact hR.plain (.single rfl)
    · split
      · exact hR.plain .nil
      · split
        · exact filter_kept hR hpaths _ entry.2
        · exact hR.plain (.single rfl)

/-- A relation that respects plain and joined runs is kept by validation, if the
problems of every path are related. -/
theorem entries_kept
    (entries : List (Value × Value)) :
    R (entriesViolations scope entries) (entriesViolations scope' entries) := by
  induction entries with
  | nil => exact hR.plain .nil
  | cons entry rest ih => exact hR.joined (entry_kept hR hpaths entry) ih

end Kept

end Validation
end RecordFilter
