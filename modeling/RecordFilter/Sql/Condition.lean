/-!
# Conditions

A condition is a tree of conjunctions and disjunctions over leaves.

**Semantics.**  `Condition.holds` evaluates a tree, given the truth
of its leaves.

**Normal form.**  `Condition.normal` spreads nested groups of one kind out,
drops members that do not matter, and lets a member that decides the group stand
for all of it.  A leaf that is left alone in a group stays in a group of one,
because it renders as a member.
-/

namespace RecordFilter
namespace Sql

/-- A condition over leaves of type `φ`. -/
inductive Condition (φ : Type) where
  | leaf (f : φ)
  | constant (b : Bool)
  | all (members : List (Condition φ))
  | any (members : List (Condition φ))

namespace Condition

variable {φ : Type}

mutual

/-- The truth of a condition, given the truth of its leaves. -/
def holds (truth : φ → Bool) (c : Condition φ) : Bool :=
  match c with
  | .leaf f => truth f
  | .constant b => b
  | .all members => allHold truth members
  | .any members => someHolds truth members
termination_by structural c

/-- Do all members hold? -/
def allHold (truth : φ → Bool) (cs : List (Condition φ)) : Bool :=
  match cs with
  | [] => true
  | c :: rest => holds truth c && allHold truth rest
termination_by structural cs

/-- Does some member hold? -/
def someHolds (truth : φ → Bool) (cs : List (Condition φ)) : Bool :=
  match cs with
  | [] => false
  | c :: rest => holds truth c || someHolds truth rest
termination_by structural cs

end

/-- The members that a condition adds to a conjunction. -/
def conjuncts : Condition φ → List (Condition φ)
  | .all members => members
  | .constant true => []
  | c => [c]

/-- The members that a condition adds to a disjunction. -/
def disjuncts : Condition φ → List (Condition φ)
  | .any members => members
  | .constant false => []
  | c => [c]

/-- Is the condition this constant? -/
def isConstant (b : Bool) : Condition φ → Bool
  | .constant c => b = c
  | _ => false

/-- The only member left of a group. -/
def alone : Condition φ → Condition φ
  | .leaf f => .all [.leaf f]
  | c => c

/-- The conjunction of conditions in normal form. -/
def conjunction (members : List (Condition φ)) : Condition φ :=
  if members.any (isConstant false) then .constant false
  else
    match members.flatMap conjuncts with
    | [] => .constant true
    | [c] => c.alone
    | cs => .all cs

/-- The disjunction of conditions in normal form. -/
def disjunction (members : List (Condition φ)) : Condition φ :=
  if members.any (isConstant true) then .constant true
  else
    match members.flatMap disjuncts with
    | [] => .constant false
    | [c] => c.alone
    | cs => .any cs

mutual

/-- The normal form of a condition. -/
def normal (c : Condition φ) : Condition φ :=
  match c with
  | .leaf f => .leaf f
  | .constant b => .constant b
  | .all members => conjunction (normals members)
  | .any members => disjunction (normals members)
termination_by structural c

/-- The normal forms of conditions. -/
def normals (cs : List (Condition φ)) : List (Condition φ) :=
  match cs with
  | [] => []
  | c :: rest => normal c :: normals rest
termination_by structural cs

end

/-- The fragments of an optional conjunction: none, the only one, or
all of them. -/
def join (combine : List (Condition φ) → Condition φ) :
    List (Condition φ) → Option (Condition φ)
  | [] => none
  | [c] => some c
  | cs => some (combine cs)

end Condition
end Sql
end RecordFilter
