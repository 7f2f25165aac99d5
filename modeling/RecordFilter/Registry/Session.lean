import RecordFilter.Registry
import RecordFilter.Violation

/-!
# Sessions with registries

A session holds registries as objects in a store, and names that refer to them.
A command makes or changes one of them, copies one to a new object, or only
asks.  A command that fails changes nothing.

**References.**  A change of an object shows under each name that refers to it.
Only `create` makes names and objects, and each name gets an object of its own.
-/

namespace RecordFilter

/-- What can be done with the registries of a session. -/
inductive RegistryCommand (ε : Type) where
  | construct (registry backend : String) (ops : List (Registered ε))
  | register (registry : String) (ops : List (Registered ε))
  | unregister (registry : String) (key : Value)
  | copy (registry target : String)
  | get (registry : String) (key : Value)
  | require (registry : String) (key : Value)
  | has (registry : String) (key : Value)
  | list (registry : String)
  | size (registry : String)
  | keys (registry : String)

/-- The registry that a command makes or changes, if it does not only ask. -/
def RegistryCommand.target? {ε : Type} : RegistryCommand ε → Option String
  | .construct name _ _ | .register name _ | .unregister name _ => some name
  | .copy _ target => some target
  | _ => none

/-- What a command answers. -/
inductive RegistryAnswer (ε : Type) where
  | done
  | operator (op : Option (Registered ε))
  | flag (b : Bool)
  | count (n : Nat)
  | operators (ops : List (Registered ε))
  | keys (texts : List String)

/-- Registries in a store, and the places that names refer to; of two places
under one name, the first counts. -/
structure RegistrySession (ε : Type) where
  places : List (String × Nat)
  objects : List (Registry ε)
  inStore : ∀ entry ∈ places, entry.2 < objects.length

namespace RegistrySession

variable {ε : Type}

/-- A session without registries. -/
def empty : RegistrySession ε := ⟨[], [], nofun⟩

/-- The registry that a name refers to. -/
def lookup (s : RegistrySession ε) (name : String) : Option (Registry ε) :=
  (s.places.lookup name).bind (s.objects[·]?)

/-- The registry that a name refers to; there has to be one. -/
def registry (s : RegistrySession ε) (name : String) :
    Except Failure (Registry ε) :=
  match s.lookup name with
  | some r => .ok r
  | none => .error .missingKey

/-- Makes a new object, and lets a name refer to it. -/
def create (s : RegistrySession ε) (name : String) (r : Registry ε) :
    RegistrySession ε where
  places := (name, s.objects.length) :: s.places
  objects := s.objects ++ [r]
  inStore := by
    have hold := s.inStore
    simp only [List.mem_cons, forall_eq_or_imp, List.length_append,
      List.length_singleton]
    exact ⟨Nat.lt_succ_self _, fun entry h => Nat.lt_succ_of_lt (hold entry h)⟩

/-- Changes the object that a name refers to. -/
def assign (s : RegistrySession ε) (name : String) (r : Registry ε) :
    RegistrySession ε where
  places := s.places
  objects :=
    match s.places.lookup name with
    | some place => s.objects.set place r
    | none => s.objects
  inStore := by
    have hold := s.inStore
    split <;> simpa using hold

/-- Runs a command. -/
def run (s : RegistrySession ε) (c : RegistryCommand ε) :
    Except Failure (RegistryAnswer ε × RegistrySession ε) :=
  match c with
  | .construct name backend ops =>
      .ok (.done, s.create name (.ofList backend ops))
  | .register name ops => do
      return (.done, s.assign name ((← s.registry name).registerAll ops))
  | .unregister name key => do
      return (.done, s.assign name (← (← s.registry name).unregisterValue key))
  | .copy name target => do
      return (.flag true, s.create target (← s.registry name).copy)
  | .get name key => do return (.operator (← (← s.registry name).lookup key), s)
  | .require name key => do
      return (.operator (some (← (← s.registry name).requireValue key)), s)
  | .has name key => do
      return (.flag (← (← s.registry name).lookup key).isSome, s)
  | .list name => do return (.operators (← s.registry name).operators, s)
  | .size name => do return (.count (← s.registry name).size, s)
  | .keys name => do return (.keys (sortTexts (← s.registry name).keys), s)

/-- The session after a command. -/
def step (s : RegistrySession ε) (c : RegistryCommand ε) : RegistrySession ε :=
  match s.run c with
  | .ok (_, s') => s'
  | .error _ => s

/-- The session after some commands. -/
def after (s : RegistrySession ε) (cs : List (RegistryCommand ε)) :
    RegistrySession ε :=
  cs.foldl step s

end RegistrySession
end RecordFilter
