import RecordFilter.Value.Equality

/-!
# Elements of values

**Collections.**  Lists, tuples, queues, sets, ranges, views and mutable
bytes are collections; texts, bytes and mappings are not, although they can
be gone through.

**Membership** asks for an element that is strictly equal, so `true` is no
element of `[1]`.  Elements are tried in order, and a failing comparison
ends the search.
-/

namespace RecordFilter
namespace Value

/-- The elements of a collection. -/
def collection? : Value → Option (List Value)
  | .sequence _ items => some items
  | .set _ items => some items
  | .range start stop step => some (rangeItems start stop step)
  | .keys items => some items
  | .values _ items => some items
  | .bytes true data => some (data.map fun b => .int b.toNat)
  | _ => Option.none

/-- The elements of anything that can be gone through. -/
def elements? (v : Value) : Option (List Value) :=
  match v with
  | .bytes _ data => some (data.map fun b => .int b.toNat)
  | .iterator _ items => some items
  | .mapping _ entries => some (entries.map (·.1))
  | _ =>
      match v.text? with
      | some s => some (s.toList.map fun c => .text (String.singleton c))
      | Option.none => v.collection?

/-- The elements of a collection; anything else is a wrong input. -/
def requireCollection (filter : Option String) (v : Value) :
    Except Failure (List Value) :=
  match v.collection? with
  | some items => .ok items
  | Option.none => .error (.wrongInput (.notACollection v.typeName) filter)

/-- Is a value strictly equal to one of the elements? -/
def memberOf (v : Value) (items : List Value) : Except Failure Bool :=
  anyOf (strictEq v) items

/-- Does a key or element equal to this one occur already? -/
def occursAmong (v : Value) (items : List Value) : Bool :=
  items.any fun w => (eq v w).toOption = some true

/-- The elements without repetitions, in the order of their first
occurrences. -/
def distinct (items : List Value) : List Value :=
  items.foldl
    (fun seen v => if occursAmong v seen then seen else seen ++ [v]) []

/-- Puts a value under a key; a key that is already there keeps its place. -/
def insertEntry {α : Type} (key : Value) (value : α) :
    List (Value × α) → List (Value × α)
  | [] => [(key, value)]
  | (key', value') :: rest =>
      if (eq key key').toOption = some true then (key', value) :: rest
      else (key', value') :: insertEntry key value rest

/-- The entries in the order of the first occurrences of their keys, last
values winning. -/
def distinctEntries {α : Type} (entries : List (Value × α)) :
    List (Value × α) :=
  entries.foldl (fun seen entry => insertEntry entry.1 entry.2 seen) []

/-- A mapping of entries; keys have to be hashable. -/
def mappingOf (form : MappingForm) (entries : List (Value × Value)) :
    Except Failure Value :=
  if entries.all fun entry => entry.1.hashable then
    .ok (.mapping form (distinctEntries entries))
  else .error .unhashable

/-- The whole number in a value that is one. -/
def int? : Value → Option Int
  | .int n => some n
  | _ => Option.none

/-- The whole number in a value that is one or a truth value. -/
def whole? : Value → Option Int
  | .bool b => some (if b then 1 else 0)
  | v => v.int?

/-- Whole numbers come in ascending order, other elements as they were added. -/
def setOrder (items : List Value) : List Value :=
  if items.all fun v => v.int?.isSome then
    items.mergeSort fun v w => v.int?.getD 0 ≤ w.int?.getD 0
  else items

/-- A range given by its end, by both ends, or by both ends and a step other
than zero. -/
def range? : List Int → Except Failure Value
  | [stop] => .ok (.range 0 stop 1)
  | [start, stop] => .ok (.range start stop 1)
  | [start, stop, step] =>
      if step = 0 then .error .badStep else .ok (.range start stop step)
  | _ => .error .badOperand

/-- A set of elements; they have to be hashable. -/
def setOf (frozen : Bool) (items : List Value) : Except Failure Value :=
  if items.all hashable then .ok (.set frozen (setOrder (distinct items)))
  else .error .unhashable

end Value
end RecordFilter
