import RecordFilter.Value.Path
import RecordFilter.Value.Text

/-!
# Registries of operators

A backend keeps its operators in a registry, each under the text of its key.

**Order.**  Operators are listed in the order in which their keys were
first registered.  Registering an operator under a known key replaces the
old one in its place.

**Results.**  `get?_register` and `get?_unregister` say what a later look-up
finds; no operation touches another key.
-/

namespace RecordFilter

/-- An operator of a backend: its key, the name of its class and
what it does. -/
structure Registered (ε : Type) where
  key : String
  label : String
  behaviour : ε

/-- The operators of a backend, one under each key. -/
structure Registry (ε : Type) where
  backend : String
  operators : List (Registered ε)
  nodup : (operators.map Registered.key).Nodup

namespace Registry

variable {ε : Type}

/-- A registry without operators. -/
def empty (backend : String) : Registry ε := ⟨backend, [], .nil⟩

/-- Puts an operator in the place of the one under its key, or at the end. -/
def insert (op : Registered ε) : List (Registered ε) → List (Registered ε)
  | [] => [op]
  | other :: rest =>
      if other.key = op.key then op :: rest else other :: insert op rest

theorem mem_keys_insert
    {op : Registered ε}
    {ops : List (Registered ε)}
    {key : String} :
    key ∈ (insert op ops).map Registered.key ↔
      key = op.key ∨ key ∈ ops.map Registered.key := by
  induction ops with
  | nil => simp [insert]
  | cons other rest ih =>
      by_cases h : other.key = op.key
      · simp [insert, h]
      · simp only [insert, if_neg h, List.map_cons, List.mem_cons, ih]
        constructor
        · rintro (h | h | h)
          · exact .inr (.inl h)
          · exact .inl h
          · exact .inr (.inr h)
        · rintro (h | h | h)
          · exact .inr (.inl h)
          · exact .inl h
          · exact .inr (.inr h)

theorem nodup_insert
    {op : Registered ε}
    {ops : List (Registered ε)}
    (h : (ops.map Registered.key).Nodup) :
    ((insert op ops).map Registered.key).Nodup := by
  induction ops with
  | nil => simp [insert]
  | cons other rest ih =>
      rw [List.map_cons, List.nodup_cons] at h
      by_cases hk : other.key = op.key
      · rw [insert, if_pos hk, List.map_cons, List.nodup_cons, ← hk]
        exact h
      · rw [insert, if_neg hk, List.map_cons, List.nodup_cons, mem_keys_insert]
        exact ⟨fun hm => hm.elim hk h.1, ih h.2⟩

/-- Registers an operator under its key. -/
def register (r : Registry ε) (op : Registered ε) : Registry ε :=
  ⟨r.backend, insert op r.operators, nodup_insert r.nodup⟩

/-- Registers operators one after the other. -/
def registerAll (r : Registry ε) (ops : List (Registered ε)) : Registry ε :=
  ops.foldl register r

/-- Removes the operator under a key, if there is one. -/
def unregister (r : Registry ε) (key : String) : Registry ε :=
  ⟨r.backend, r.operators.filter (·.key ≠ key),
    (List.filter_sublist.map Registered.key).nodup r.nodup⟩

/-- A registry of the given operators. -/
def ofList (backend : String) (ops : List (Registered ε)) : Registry ε :=
  (empty backend).registerAll ops

/-- The operator under a key. -/
def get? (r : Registry ε) (key : String) : Option (Registered ε) :=
  r.operators.find? (·.key = key)

/-- The operator under a key, which has to be there. -/
def require (r : Registry ε) (key : String) : Except Failure (Registered ε) :=
  match r.get? key with
  | some op => .ok op
  | none => .error (.unsupportedOperator r.backend key)

/-- Is there an operator under the key? -/
def has (r : Registry ε) (key : String) : Bool := (r.get? key).isSome

/-- How many operators there are. -/
def size (r : Registry ε) : Nat := r.operators.length

/-- The keys of all operators, in their order. -/
def keys (r : Registry ε) : List String := r.operators.map Registered.key

/-- Another registry with the same operators. -/
def copy (r : Registry ε) : Registry ε := r

theorem find?_insert
    (op : Registered ε)
    (ops : List (Registered ε))
    (key : String) :
    (insert op ops).find? (·.key = key) =
      if op.key = key then some op else ops.find? (·.key = key) := by
  induction ops with
  | nil => by_cases h : op.key = key <;> simp [insert, h]
  | cons other rest ih =>
      by_cases hk : other.key = op.key
      · by_cases h : op.key = key <;> simp [insert, hk, h]
      · by_cases h : op.key = key
        · subst h
          simpa [insert, hk] using ih
        · simp only [insert, if_neg hk, List.find?_cons, ih, if_neg h]

/-- A registered operator is found under its key; other keys keep their
operators. -/
theorem get?_register
    (r : Registry ε)
    (op : Registered ε)
    (key : String) :
    (r.register op).get? key = if op.key = key then some op else r.get? key :=
  find?_insert op r.operators key

/-- Nothing is found under a removed key; other keys keep their operators. -/
theorem get?_unregister
    (r : Registry ε)
    (removed key : String) :
    (r.unregister removed).get? key =
      if removed = key then none else r.get? key := by
  unfold unregister get?
  rw [List.find?_filter]
  by_cases h : removed = key
  · subst h
    simp [List.find?_eq_none]
  · rw [if_neg h]
    congr 1
    funext op
    by_cases hk : op.key = key
    · simp [hk, Ne.symm h]
    · simp [hk]

end Registry

namespace Value

/-- The key that a value names: only hashable values can be asked, only texts
are keys. -/
def operatorKey? (v : Value) : Except Failure (Option String) :=
  if v.hashable then .ok v.text? else .error .unhashable

/-- A value as it is named in the message about a missing operator. -/
def operatorLabel (v : Value) : Except Failure String :=
  ((v.attribute? "value").getD v).plainText

end Value

namespace Registry

variable {ε : Type}

/-- The operator that a value names. -/
def lookup (r : Registry ε) (v : Value) :
    Except Failure (Option (Registered ε)) := do
  return (← v.operatorKey?).bind r.get?

/-- The operator that a value names, which has to be there. -/
def requireValue (r : Registry ε) (v : Value) :
    Except Failure (Registered ε) := do
  match ← r.lookup v with
  | some op => return op
  | none => throw (.unsupportedOperator r.backend (← v.operatorLabel))

/-- Removes the operator that a value names, if there is one; an empty registry
asks nothing. -/
def unregisterValue (r : Registry ε) (v : Value) :
    Except Failure (Registry ε) :=
  if r.operators.isEmpty then .ok r
  else do
    match ← v.operatorKey? with
    | some key => return r.unregister key
    | none => return r

end Registry
end RecordFilter
