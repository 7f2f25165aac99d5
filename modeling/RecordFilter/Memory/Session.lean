import RecordFilter.Memory.Filter
import RecordFilter.Registry.Session

/-!
# Sessions with filters in memory

A session holds registries and the filters that were defined with them, both
under names.  A filter is defined with a registry as it is at that time, and
called with an input and a record.  A command that fails changes nothing.
-/

namespace RecordFilter

/-- What can be done with the registries and filters of a session. -/
inductive MemoryCommand where
  | registry (c : RegistryCommand MemoryBehaviour)
  | define (registry filter : String) (shape : Shape) (raw : Value)
  | call (filter : String) (input record : Value)

/-- The filter that a command defines, if it defines one. -/
def MemoryCommand.defined? : MemoryCommand → Option String
  | .define _ filter _ _ => some filter
  | _ => none

/-- What a command answers. -/
inductive MemoryAnswer where
  | registry (answer : RegistryAnswer MemoryBehaviour)
  | names (names : List Name)
  | verdict (verdict : Traced (Call Value) Bool)

/-- Registries and filters under names; of two under one name, the
first counts. -/
structure MemorySession where
  registries : RegistrySession MemoryBehaviour
  filters : List (String × MemoryFilter)

namespace MemorySession

/-- The filter under a name, which has to be there. -/
def filter (s : MemorySession) (name : String) : Except Failure MemoryFilter :=
  match s.filters.lookup name with
  | some f => .ok f
  | none => .error .missingKey

/-- A session without registries and filters. -/
def empty : MemorySession := ⟨.empty, []⟩

/-- Runs a command. -/
def run (callbacks : Callbacks) (s : MemorySession) (c : MemoryCommand) :
    Except Failure (MemoryAnswer × MemorySession) :=
  match c with
  | .registry c => do
      let (answer, registries) ← s.registries.run c
      return (.registry answer, ⟨registries, s.filters⟩)
  | .define registry filter shape raw => do
      let f ← MemoryFilter.define (← s.registries.registry registry) callbacks
        shape raw
      return (.names f.names, ⟨s.registries, (filter, f) :: s.filters⟩)
  | .call filter input record => do
      let p ← (← s.filter filter).predicate input
      return (.verdict (p record), s)

/-- The session after a command. -/
def step (callbacks : Callbacks) (s : MemorySession) (c : MemoryCommand) :
    MemorySession :=
  match s.run callbacks c with
  | .ok (_, s') => s'
  | .error _ => s

/-- The session after some commands. -/
def after (callbacks : Callbacks) (s : MemorySession)
    (cs : List MemoryCommand) : MemorySession :=
  cs.foldl (step callbacks) s

end MemorySession
end RecordFilter
