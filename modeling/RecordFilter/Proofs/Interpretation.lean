import RecordFilter.Memory.Filter
import RecordFilter.Proofs.Grammar

/-!
# The interpretation of definitions

This module says what a definition means for a record, straight from its raw
entries, with no parsing and no compiling.

**Input.**  What the operators do, what the callbacks answer, and the
inputs by name.

**Meaning.**  Entries are taken in order.  An entry without an input, or with
the missing value as its input, is skipped; the others are asked until one of
them refuses the record.  A group asks its conditions in order with the one
input, until its answer is known.

**Runs.**  The two kinds of groups differ in the answer after which they go on.
`RunsWhile` says what they have in common, so that one induction does for both.
-/

namespace RecordFilter

/-- The operator that a comparison declares. -/
def Declared.operator? (raw : Value) : Option Operator :=
  (Declared.kind? raw).bind (Kind.operator? (Declared.ignoresCase raw))

namespace Interpretation

variable (evaluate : Operator → MemoryBehaviour)
variable (answers : Callback → Value → Value → Except Failure Value)

/-- A comparison under a name: its operator on the value at its path. -/
def comparison (name : Option String) (raw record input : Value) :
    Except Failure Bool :=
  match Declared.operator? raw, Declared.path? name raw with
  | some op, some path => evaluate op (record.follow (Path.segments path)) input
  | _, _ => .error .notAKind

/-- All conditions, up to the first that is false. -/
def allOf (record input : Value) : List Value → Except Failure Bool
  | [] => .ok true
  | raw :: rest => do
      if ← comparison evaluate none raw record input then
        allOf record input rest
      else return false

/-- Some condition, up to the first that is true. -/
def anyOf (record input : Value) : List Value → Except Failure Bool
  | [] => .ok false
  | raw :: rest => do
      if ← comparison evaluate none raw record input then return true
      else anyOf record input rest

/-- What is declared under a name, callbacks apart. -/
def declared (name : Option String) (raw record input : Value) :
    Except Failure Bool :=
  match Declared.kind? raw with
  | some .and =>
      allOf evaluate record input ((Declared.conditions? raw).getD [])
  | some .or => anyOf evaluate record input ((Declared.conditions? raw).getD [])
  | _ => comparison evaluate name raw record input

/-- A filter under a name; a callback is called once, and the truth of its
answer counts. -/
def filter (name : Option String) (raw : Value) : Checker := fun record input =>
  match raw.callback? with
  | some callback =>
      ⟨[⟨callback, record, input⟩],
        (answers callback record input).map Value.truth⟩
  | none => .ofExcept (declared evaluate name raw record input)

/-- The input under a name, if there is one that is not the missing value. -/
def given? (name : Option String) (inputs : List (Value × Value)) :
    Option Value :=
  match name.bind fun name => Value.field? name inputs with
  | some input => if input.isNone then none else some input
  | none => none

/-- A definition: all entries with an input, up to the first that refuses
the record. -/
def definition (record : Value) (inputs : List (Value × Value)) :
    List (Value × Value) → Traced (Call Value) Bool
  | [] => pure true
  | entry :: rest =>
      match given? entry.1.text? inputs with
      | none => definition record inputs rest
      | some input => do
          if ← filter evaluate answers entry.1.text? entry.2 record input then
            definition record inputs rest
          else return false

/-! ## Runs over conditions -/

/-- A run over conditions that goes on after one answer and ends after
the other one. -/
structure RunsWhile (onward : Bool) (record input : Value)
    (run : List Value → Except Failure Bool) : Prop where
  nil : run [] = .ok onward
  cons :
    ∀ raw rest, run (raw :: rest) =
      (comparison evaluate none raw record input >>= fun b =>
        if b = onward then run rest else .ok b)

theorem allOf_runsWhile
    (record input : Value) :
    RunsWhile evaluate true record input (allOf evaluate record input) where
  nil := rfl
  cons raw rest := by
    rw [allOf]
    congr 1
    funext b
    cases b <;> rfl

theorem anyOf_runsWhile
    (record input : Value) :
    RunsWhile evaluate false record input (anyOf evaluate record input) where
  nil := rfl
  cons raw rest := by
    rw [anyOf]
    congr 1
    funext b
    cases b <;> rfl

end Interpretation
end RecordFilter
