import RecordFilter.Memory.Filter

/-!
# Searching records

Ways to go through a list of records with a predicate: keep the matching ones,
find the first one or its position, ask whether some or all of them match.

**Order.**  Records are tested in order, and only as far as the answer needs;
keeping the matching ones tests them all.
-/

namespace RecordFilter
namespace Search

variable {ε α : Type}

/-- The matching records, in order. -/
def filter (p : α → Traced ε Bool) : List α → Traced ε (List α)
  | [] => pure []
  | a :: rest => do
      if ← p a then return a :: (← filter p rest) else filter p rest

/-- The first matching record. -/
def find? (p : α → Traced ε Bool) : List α → Traced ε (Option α)
  | [] => pure none
  | a :: rest => do
      if ← p a then return some a else find? p rest

/-- The position of the first matching record. -/
def findIndex? (p : α → Traced ε Bool) : List α → Traced ε (Option Nat)
  | [] => pure none
  | a :: rest => do
      if ← p a then return some 0 else return (← findIndex? p rest).map (· + 1)

/-- Does some record match? -/
def any (p : α → Traced ε Bool) : List α → Traced ε Bool
  | [] => pure false
  | a :: rest => do
      if ← p a then return true else any p rest

/-- Do all records match? -/
def all (p : α → Traced ε Bool) : List α → Traced ε Bool
  | [] => pure true
  | a :: rest => do
      if ← p a then all p rest else return false

/-- The position of the first matching record, or `-1`. -/
def findIndex (p : α → Traced ε Bool) (records : List α) : Traced ε Int := do
  match ← findIndex? p records with
  | some i => return i
  | none => return -1

end Search
end RecordFilter
