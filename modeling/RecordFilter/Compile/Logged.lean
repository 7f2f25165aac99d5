import RecordFilter.Compile
import RecordFilter.Log
import RecordFilter.Validation

/-!
# Compiling with a log

Checking and compiling a definition leave records in the log.

**Results.**
* `Validation.result_ensureLogged`, `Strategy.result_definitionLogged`: apart
  from the records, the results are those of `Validation.ensure` and
  `Strategy.definition`.
-/

namespace RecordFilter

namespace Validation

/-- Refuses a definition with violations, and says so in the log. -/
def ensureLogged (definition : Value) (shape : Shape) (owner : Option String) :
    Logged Unit := do
  let found ← .ofExcept (violations definition shape owner)
  if found.isEmpty then return ()
  else
    .emit (Log.rejected found)
    .ofExcept (.error (.invalidDefinition found))

theorem result_ensureLogged
    (definition : Value)
    (shape : Shape)
    (owner : Option String) :
    (ensureLogged definition shape owner).result =
      ensure definition shape owner := by
  rw [ensureLogged, ensure, Traced.result_bind]
  refine congrArg (violations definition shape owner >>= ·)
    (funext fun found => ?_)
  split <;> rfl

end Validation

namespace Strategy

/-- Compiles a parsed definition, and says so in the log. -/
def definitionLogged {γ : Type} (s : Strategy γ) (d : Definition) :
    Logged (List (Name × γ)) := do
  let checkers ← .ofExcept (s.definition d)
  .emit (Log.compiled s.label (checkers.map fun entry => entry.1.content))
  return checkers

theorem result_definitionLogged
    {γ : Type}
    (s : Strategy γ)
    (d : Definition) :
    (s.definitionLogged d).result = s.definition d := by
  rw [definitionLogged, Traced.result_bind]
  exact bind_pure (s.definition d)

end Strategy

end RecordFilter
