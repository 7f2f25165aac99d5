import RecordFilter.Failure

/-!
# Equality of values

**Rules.**  Numbers of all kinds compare by their exact values, texts and
members of text enumerations by their texts, collections element by element
within their family.  A sequence equals only one of its own form; sets, frozen
sets and key views form one family, mappings of all forms another, in which only
two ordered mappings compare their order.

**Failures.**  Comparing a signalling NaN with a number fails, and so does a
comparison that has to look at such a pair: lists of different lengths differ at
once, tuples are compared element by element before their lengths, mappings
entry by entry in the order of one of them.
-/

namespace RecordFilter

/--
When a mapping of the first form is compared with one of the second, does the
second one go through its entries?  An ordered mapping goes through its own, and
a view passes the question on.
-/
def MappingForm.yields (first second : MappingForm) : Bool :=
  first ≠ .ordered && second ≠ .plain

namespace Value

/-- The first value under a key that passes the test. -/
def findEntry (test : Value → Except Failure Bool) :
    List (Value × Value) → Except Failure (Option Value)
  | [] => .ok Option.none
  | (key, value) :: rest => do
      if ← test key then return some value else findEntry test rest

/-- Does some value pass the test? -/
def anyOf (test : Value → Except Failure Bool) :
    List Value → Except Failure Bool
  | [] => .ok false
  | v :: rest => do
      if ← test v then return true else anyOf test rest

/-- Equality of values that are not collections. -/
def eqSimple (a b : Value) : Bool :=
  match a.text?, b.text? with
  | some s, some t => s = t
  | _, _ =>
      match a, b with
      | .none, .none => true
      | .bytes _ x, .bytes _ y => x = y
      | .date x, .date y => x = y
      | .clock x, .clock y => x.eq y
      | .moment x, .moment y => x.eq y
      | .duration x, .duration y => x = y
      | .range a₁ a₂ a₃, .range b₁ b₂ b₃ =>
          let m := rangeLength a₁ a₂ a₃
          m = rangeLength b₁ b₂ b₃ && (m = 0 || a₁ = b₁ && (m = 1 || a₃ = b₃))
      | .iterator x _, .iterator y _ => x = y
      | .values x _, .values y _ => x = y
      | .object x _, .object y _ => x = y
      | .bare x, .bare y => x = y
      | .foreignNumber x _ _, .foreignNumber y _ _ => x = y
      | .classRef x, .classRef y => x = y
      | .model x _, .model y _ => x = y
      | .callback x _ _, .callback y _ _ => x = y
      | _, _ => false

/-- Equality of numbers, and of other values that are not collections. -/
def eqAtom (a b : Value) : Except Failure Bool :=
  match a.number?, b.number? with
  | some x, some y =>
      match x.eq? y with
      | some result => .ok result
      | Option.none => .error .signalingNaN
  | _, _ => .ok (eqSimple a b)

/-- The elements of a set, a frozen set or a key view. -/
def setItems? : Value → Option (List Value)
  | .set _ items => some items
  | .keys items => some items
  | _ => Option.none

mutual

/-- Are two values equal?  If `turned`, the second one is asked about
the first one. -/
def equals (turned : Bool) (a b : Value) : Except Failure Bool :=
  match a with
  | .sequence form items =>
      match b with
      | .sequence form' items' =>
          if form ≠ form' then .ok false
          else if form = .tuple || items.length = items'.length then
            equalItems turned items items'
          else .ok false
      | _ => .ok false
  | .set _ items =>
      match b.setItems? with
      | some items' =>
          if items.length = items'.length then allIn items items' else .ok false
      | Option.none => .ok false
  | .keys items =>
      match b.setItems? with
      | some items' =>
          if items.length = items'.length then allIn items items' else .ok false
      | Option.none => .ok false
  | .mapping form entries =>
      match b with
      | .mapping form' entries' =>
          let ofSecond :=
            if turned then !form'.yields form else form.yields form'
          if entries.length = entries'.length then do
            if ← (if ofSecond then
                entries'.allM fun entry => entryIn entry.1 entry.2 entries
              else entriesIn entries entries') then
              if form = .ordered && form' = .ordered then
                sameKeys entries entries'
              else return true
            else return false
          else .ok false
      | _ => .ok false
  | .comparison k field ignoreCase =>
      match b with
      | .comparison k' field' ignoreCase' => do
          if ← equals turned k k' then
            if ← equals turned field field' then
              equals turned ignoreCase ignoreCase'
            else return false
          else return false
      | _ => .ok false
  | .group k conditions =>
      match b with
      | .group k' conditions' => do
          if ← equals turned k k' then equalItems turned conditions conditions'
          else return false
      | _ => .ok false
  | _ => eqAtom a b
termination_by structural a

/-- Are two lists equal element by element, and then in length? -/
def equalItems (turned : Bool) (items items' : List Value) :
    Except Failure Bool :=
  match items with
  | [] => .ok items'.isEmpty
  | v :: rest =>
      match items' with
      | [] => .ok false
      | v' :: rest' => do
          if ← equals turned v v' then equalItems turned rest rest'
          else return false
termination_by structural items

/-- Is every element equal to one of the others? -/
def allIn (items items' : List Value) : Except Failure Bool :=
  match items with
  | [] => .ok true
  | v :: rest => do
      if ← anyOf (equals false v) items' then allIn rest items'
      else return false
termination_by structural items

/-- Is every entry equal to one of the others? -/
def entriesIn (entries entries' : List (Value × Value)) : Except Failure Bool :=
  match entries with
  | [] => .ok true
  | (key, value) :: rest => do
      match ← findEntry (equals false key) entries' with
      | Option.none => return false
      | some value' =>
          if ← equals false value value' then entriesIn rest entries'
          else return false
termination_by structural entries

/-- Is there an entry under a key, and is its value equal to the given one? -/
def entryIn (key' value' : Value) (entries : List (Value × Value)) :
    Except Failure Bool :=
  match entries with
  | [] => .ok false
  | (key, value) :: rest => do
      if ← equals true key key' then equals true value value'
      else entryIn key' value' rest
termination_by structural entries

/-- Do the keys agree place by place? -/
def sameKeys (entries entries' : List (Value × Value)) : Except Failure Bool :=
  match entries with
  | [] => .ok entries'.isEmpty
  | (key, _) :: rest =>
      match entries' with
      | [] => .ok false
      | (key', _) :: rest' => do
          if ← equals false key key' then sameKeys rest rest' else return false
termination_by structural entries

end

/-- Are two values equal? -/
def eq (a b : Value) : Except Failure Bool := equals false a b

/-- Texts are equal exactly if their contents are. -/
theorem eq_iff_of_text?
    {v w : Value}
    {s t : String}
    (hv : v.text? = some s)
    (hw : w.text? = some t) :
    (eq v w).toOption = some true ↔ s = t := by
  have hsimple : eqSimple v w = decide (s = t) := by
    unfold eqSimple
    rw [hv, hw]
  have heq : eq v w = .ok (eqSimple v w) := by
    cases v with
    | text | kind | operator => rfl
    | _ => cases hv
  rw [heq, hsimple]
  exact Option.some_inj.trans decide_eq_true_iff

/-- Equality that tells truth values from numbers. -/
def strictEq (a b : Value) : Except Failure Bool :=
  if a.isBool ≠ b.isBool then .ok false else eq a b

/-- The value of a mapping under a text. -/
def field? (name : String) (entries : List (Value × Value)) : Option Value :=
  (entries.find? fun entry => entry.1.text? = some name).map (·.2)

@[simp] theorem field?_nil
    (name : String) :
    field? name [] = Option.none := by
  rfl

theorem field?_cons
    (name : String)
    (entry : Value × Value)
    (rest : List (Value × Value)) :
    field? name (entry :: rest) =
      if entry.1.text? = some name then some entry.2 else field? name rest := by
  by_cases h : entry.1.text? = some name <;> simp [field?, h]

end Value
end RecordFilter
