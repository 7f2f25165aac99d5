import RecordFilter.Memory.Operator
import RecordFilter.Proofs.Outcome

/-!
# What makes an operator fail

This module says on which values the operators in memory have no answer.

**Occurrences.**  A value occurs in itself and in whatever has it as a part: an
element, a key or an entry of a mapping, a field of a model.  Two kinds of
values make operators fail wherever they occur: signalling NaNs, and whole
numbers of too many digits.

**Method.**  `FailsOnly` and `FailsIff` say in which way a run fails and for
which reason.  Both go through runs of two steps, so each recursion over values
needs one case for each constructor.

**Results.**
* `Value.eq_failsOnly`: comparing two values fails only for a signalling NaN in
  one of them.
* `Value.plainText_failsIff`: a value has no text exactly if a number in
  it is too long.
-/

namespace RecordFilter

namespace Outcome

variable {α β : Type} {e : Failure} {reason other : Prop}

/-- The run has a result, or it fails in the one way and for the reason. -/
def FailsOnly (e : Failure) (reason : Prop) (run : Except Failure α) : Prop :=
  (∃ a, run = .ok a) ∨ run = .error e ∧ reason

/-- The run fails in the one way if the reason holds, and otherwise it
has a result. -/
def FailsIff (e : Failure) (reason : Prop) (run : Except Failure α) : Prop :=
  (∃ a, run = .ok a) ∧ ¬ reason ∨ run = .error e ∧ reason

namespace FailsOnly

theorem ok
    (a : α) :
    FailsOnly e reason (.ok a) := by
  exact .inl ⟨a, rfl⟩

theorem bind
    {x : Except Failure α}
    {f : α → Except Failure β}
    (hx : FailsOnly e reason x)
    (hf : ∀ a, x = .ok a → FailsOnly e reason (f a)) :
    FailsOnly e reason (x >>= f) := by
  rcases hx with ⟨a, ha⟩ | ⟨herror, hreason⟩
  · rw [ha, ok_bind]
    exact hf a ha
  · rw [herror, error_bind]
    exact .inr ⟨rfl, hreason⟩

theorem ite
    {c : Prop}
    [Decidable c]
    {x y : Except Failure α}
    (hx : FailsOnly e reason x)
    (hy : FailsOnly e reason y) :
    FailsOnly e reason (if c then x else y) := by
  split
  · exact hx
  · exact hy

/-- Two questions in a row, the second one after a yes. -/
theorem guard
    {x y : Except Failure Bool}
    (hx : FailsOnly e reason x)
    (hy : FailsOnly e reason y) :
    FailsOnly e reason (x >>= fun b => if b = true then y else pure false) := by
  refine hx.bind fun b _ => ?_
  cases b with
  | true => exact hy
  | false => exact .ok false

/-- A search that ends at the first element with an answer fails only where one
of its questions does. -/
theorem search
    (answer : Bool)
    {ask : α → Except Failure Bool}
    {run : List α → Except Failure β}
    {items : List α}
    (hnil : ∃ last, run [] = .ok last)
    (hcons :
      ∀ a rest, ∃ found, run (a :: rest) =
        (ask a >>= fun b => if b = answer then .ok found else run rest))
    (h : ∀ a ∈ items, FailsOnly e reason (ask a)) :
    FailsOnly e reason (run items) := by
  induction items with
  | nil =>
      obtain ⟨last, hlast⟩ := hnil
      rw [hlast]
      exact .ok last
  | cons a rest ih =>
      rw [List.forall_mem_cons] at h
      obtain ⟨found, hstep⟩ := hcons a rest
      rw [hstep]
      exact h.1.bind fun b _ => .ite (.ok found) (ih h.2)

end FailsOnly

namespace FailsIff

theorem ok
    (a : α)
    (h : ¬ reason) :
    FailsIff e reason (.ok a) := by
  exact .inl ⟨⟨a, rfl⟩, h⟩

theorem congr
    {x : Except Failure α}
    (hx : FailsIff e reason x)
    (h : other ↔ reason) :
    FailsIff e other x := by
  unfold FailsIff
  rw [h]
  exact hx

theorem bind
    {x : Except Failure α}
    {f : α → Except Failure β}
    (hx : FailsIff e reason x)
    (hf : ∀ a, FailsIff e other (f a)) :
    FailsIff e (reason ∨ other) (x >>= f) := by
  rcases hx with ⟨⟨a, ha⟩, hreason⟩ | ⟨herror, hreason⟩
  · rw [ha, ok_bind]
    exact (hf a).congr (or_iff_right hreason)
  · rw [herror, error_bind]
    exact .inr ⟨rfl, .inl hreason⟩

theorem map
    {x : Except Failure α}
    (hx : FailsIff e reason x)
    (f : α → β) :
    FailsIff e reason (x >>= fun a => pure (f a)) := by
  have hpure : ∀ a, FailsIff e False (pure (f a) : Except Failure β) :=
    fun a => ok (f a) not_false
  exact (hx.bind hpure).congr (or_false reason).to_iff.symm

theorem iff_error
    {x : Except Failure α}
    (hx : FailsIff e reason x)
    {e' : Failure} :
    x = .error e' ↔ e' = e ∧ reason := by
  rcases hx with ⟨⟨a, ha⟩, hreason⟩ | ⟨herror, hreason⟩
  · simp [ha, hreason]
  · simp [herror, hreason, eq_comm]

end FailsIff
end Outcome

namespace Value

open Outcome

/-! ## Occurrences -/

/-- The parts of a value that are compared with it, or shown with it. -/
def parts : Value → List Value
  | .fraction r => [.int r.num, .int r.den]
  | .sequence _ items => items
  | .set _ items => items
  | .range start stop step => [.int start, .int stop, .int step]
  | .mapping _ entries => entries.flatMap fun entry => [entry.1, entry.2]
  | .keys items => items
  | .values _ items => items
  | .model _ fields => fields.map fun field => field.2.2
  | .comparison k field ignoreCase => [k, field, ignoreCase]
  | .group k conditions => k :: conditions
  | _ => []

/-- A value with a property occurs in the value. -/
inductive Has (p : Value → Bool) : Value → Prop
  | here
      {v : Value}
      (holds : p v = true) :
      Has p v
  | inside
      {v part : Value}
      (member : part ∈ v.parts)
      (within : Has p part) :
      Has p v

theorem has_iff
    {p : Value → Bool}
    {v : Value} :
    Has p v ↔ p v = true ∨ ∃ part ∈ v.parts, Has p part := by
  constructor
  · intro h
    cases h with
    | here holds => exact .inl holds
    | inside member within => exact .inr ⟨_, member, within⟩
  · rintro (holds | ⟨part, member, within⟩)
    · exact .here holds
    · exact .inside member within

theorem has_parts
    {p : Value → Bool}
    {v : Value}
    (h : p v = false) :
    Has p v ↔ ∃ part ∈ v.parts, Has p part := by
  rw [has_iff, h]
  simp

theorem has_mapping_iff
    {p : Value → Bool}
    {form : MappingForm}
    {entries : List (Value × Value)}
    (h : p (.mapping form entries) = false) :
    Has p (.mapping form entries) ↔
      ∃ entry ∈ entries, Has p entry.1 ∨ Has p entry.2 := by
  rw [has_parts h]
  constructor
  · rintro ⟨part, hpart, hhas⟩
    obtain ⟨entry, hentry, hpart⟩ := List.mem_flatMap.mp hpart
    simp only [List.mem_cons, List.not_mem_nil, or_false] at hpart
    rcases hpart with rfl | rfl
    · exact ⟨entry, hentry, .inl hhas⟩
    · exact ⟨entry, hentry, .inr hhas⟩
  · rintro ⟨entry, hentry, hhas | hhas⟩
    · exact ⟨entry.1, List.mem_flatMap.mpr ⟨entry, hentry, by simp⟩, hhas⟩
    · exact ⟨entry.2, List.mem_flatMap.mpr ⟨entry, hentry, by simp⟩, hhas⟩

theorem has_model_iff
    {p : Value → Bool}
    {id : Nat}
    {fields : List (String × Option String × Value)}
    (h : p (.model id fields) = false) :
    Has p (.model id fields) ↔ ∃ field ∈ fields, Has p field.2.2 := by
  rw [has_parts h]
  constructor
  · rintro ⟨part, hpart, hhas⟩
    obtain ⟨field, hfield, rfl⟩ := List.mem_map.mp hpart
    exact ⟨field, hfield, hhas⟩
  · rintro ⟨field, hfield, hhas⟩
    exact ⟨field.2.2, List.mem_map_of_mem hfield, hhas⟩

theorem not_has
    {p : Value → Bool}
    {v : Value}
    (h : p v = false)
    (hparts : v.parts = []) :
    ¬ Has p v := by
  rw [has_parts h, hparts]
  simp

/-- Is the value a NaN that refuses every comparison with a number? -/
def isSignaling : Value → Bool
  | .decimal d => d.isSignaling
  | _ => false

/-- Is the value a whole number of too many digits? -/
def isOversized : Value → Bool
  | .int n => Nat.pow 10 maxDigits ≤ n.natAbs
  | _ => false

theorem isOversized_int
    {n : Int} :
    isOversized (.int n) = true ↔ Nat.pow 10 maxDigits ≤ n.natAbs := by
  rw [isOversized, decide_eq_true_iff]

/-! ## Equality

The induction follows the first value, as the comparison does; the second one is
opened only where the forms agree.  The reason stays fixed, so that it can be
passed down to all parts. -/

section Equality

variable {reason : Prop}

/-- If a signalling NaN occurs in the value, then the reason holds. -/
def Signals (reason : Prop) (v : Value) : Prop := Has isSignaling v → reason

theorem Signals.part
    {v part : Value}
    (h : Signals reason v)
    (hpart : part ∈ v.parts) :
    Signals reason part := by
  intro hhas
  exact h (.inside hpart hhas)

theorem Signals.entry
    {form : MappingForm}
    {entries : List (Value × Value)}
    (h : Signals reason (.mapping form entries)) :
    ∀ entry ∈ entries, Signals reason entry.1 ∧ Signals reason entry.2 := by
  intro entry hentry
  have hlift : Has isSignaling entry.1 ∨ Has isSignaling entry.2 → reason :=
    fun hhas =>
    h ((has_mapping_iff rfl).mpr ⟨entry, hentry, hhas⟩)
  exact ⟨fun hkey => hlift (.inl hkey), fun hvalue => hlift (.inr hvalue)⟩

theorem isSignaling_of_number
    {v : Value}
    {n : Number}
    {r : RealNumber}
    (hnumber : v.number? = some n)
    (hreal : n.real? = some r)
    (hsignaling : r.isSignaling = true) :
    v.isSignaling = true := by
  cases v with
  | decimal d =>
      cases hnumber
      cases hreal
      exact hsignaling
  | complex re im =>
      cases hnumber
      simp only [Number.real?, Option.ite_none_right_eq_some,
        Option.some.injEq] at hreal
      rw [← hreal.2] at hsignaling
      exact hsignaling
  | bool | int | float | fraction =>
      cases hnumber
      cases hreal
      exact hsignaling
  | _ => cases hnumber

theorem eqAtom_failsOnly
    {a b : Value}
    (ha : Signals reason a)
    (hb : Signals reason b) :
    FailsOnly .signalingNaN reason (eqAtom a b) := by
  unfold eqAtom
  split
  · rename_i x y hx hy
    split
    · exact .ok _
    · rename_i hnone
      obtain ⟨r, s, hr, hs, hsignaling⟩ := Number.exists_of_eq? hnone
      refine .inr ⟨rfl, ?_⟩
      rcases hsignaling with hsignaling | hsignaling
      · exact ha (.here (isSignaling_of_number hx hr hsignaling))
      · exact hb (.here (isSignaling_of_number hy hs hsignaling))
  · exact .ok _

theorem anyOf_failsOnly
    {e : Failure}
    {test : Value → Except Failure Bool}
    {vs : List Value}
    (h : ∀ v ∈ vs, FailsOnly e reason (test v)) :
    FailsOnly e reason (anyOf test vs) :=
  FailsOnly.search true ⟨false, rfl⟩ (fun _ _ => ⟨true, rfl⟩) h

theorem findEntry_failsOnly
    {e : Failure}
    {test : Value → Except Failure Bool}
    {entries : List (Value × Value)}
    (h : ∀ entry ∈ entries, FailsOnly e reason (test entry.1)) :
    FailsOnly e reason (findEntry test entries) :=
  FailsOnly.search true ⟨Option.none, rfl⟩
    (fun entry _ => ⟨some entry.2, rfl⟩) h

theorem exists_of_findEntry
    {test : Value → Except Failure Bool}
    {entries : List (Value × Value)}
    {value : Value}
    (h : findEntry test entries = .ok (some value)) :
    ∃ entry ∈ entries, entry.2 = value := by
  induction entries with
  | nil => cases h
  | cons entry rest ih =>
      obtain ⟨b, -, hfound⟩ := bind_eq_ok.mp h
      cases b with
      | true =>
          cases hfound
          exact ⟨entry, List.mem_cons_self, rfl⟩
      | false =>
          obtain ⟨other, hother, hvalue⟩ := ih hfound
          exact ⟨other, List.mem_cons_of_mem entry hother, hvalue⟩

theorem parts_of_setItems?
    {v : Value}
    {items : List Value}
    (h : v.setItems? = some items) :
    v.parts = items := by
  cases v with
  | set | keys =>
      cases h
      rfl
  | _ => cases h

theorem allM_failsOnly
    {e : Failure}
    {test : Value × Value → Except Failure Bool}
    {entries : List (Value × Value)}
    (h : ∀ entry ∈ entries, FailsOnly e reason (test entry)) :
    FailsOnly e reason (entries.allM test) := by
  refine FailsOnly.search false ⟨true, rfl⟩ (fun entry rest => ⟨false, ?_⟩) h
  rw [List.allM]
  congr 1
  funext b
  cases b <;> rfl

mutual

theorem equals_failsOnly
    (turned : Bool)
    (a b : Value)
    (ha : Signals reason a)
    (hb : Signals reason b) :
    FailsOnly .signalingNaN reason (equals turned a b) := by
  match a with
  | .sequence form items =>
      cases b with
      | sequence form' items' =>
          have hitems :=
            equalItems_failsOnly turned items items' (fun v hv => ha.part hv)
              (fun v hv => hb.part hv)
          exact .ite (.ok false) (.ite hitems (.ok false))
      | _ => exact .ok false
  | .set _ items | .keys items =>
      unfold equals
      cases hitems' : b.setItems? with
      | none => exact .ok false
      | some items' =>
          have hparts := parts_of_setItems? hitems'
          have hall :=
            allIn_failsOnly items items' (fun v hv => ha.part hv)
              (fun v hv => hb.part (hparts ▸ hv))
          exact .ite hall (.ok false)
  | .mapping form entries =>
      cases b with
      | mapping form' entries' =>
          have hfirst := entriesIn_failsOnly entries entries' ha.entry hb.entry
          have hsecond := allM_failsOnly fun entry hentry =>
            entryIn_failsOnly entry.1 entry.2 entries (hb.entry entry hentry)
              ha.entry
          have hkeys :=
            sameKeys_failsOnly entries entries'
              (fun entry h => (ha.entry entry h).1)
              (fun entry h => (hb.entry entry h).1)
          exact .ite (FailsOnly.guard (.ite hsecond hfirst)
            (.ite hkeys (.ok true))) (.ok false)
      | _ => exact .ok false
  | .comparison k field flag =>
      cases b with
      | comparison k' field' flag' =>
          have hkind :=
            equals_failsOnly turned k k' (ha.part (by simp [parts]))
              (hb.part (by simp [parts]))
          have hfield :=
            equals_failsOnly turned field field' (ha.part (by simp [parts]))
              (hb.part (by simp [parts]))
          have hflag :=
            equals_failsOnly turned flag flag' (ha.part (by simp [parts]))
              (hb.part (by simp [parts]))
          exact hkind.guard (hfield.guard hflag)
      | _ => exact .ok false
  | .group k conditions =>
      cases b with
      | group k' conditions' =>
          have hkind :=
            equals_failsOnly turned k k' (ha.part (by simp [parts]))
              (hb.part (by simp [parts]))
          have hconditions :=
            equalItems_failsOnly turned conditions conditions'
              (fun v hv => ha.part (List.mem_cons_of_mem k hv))
              (fun v hv => hb.part (List.mem_cons_of_mem k' hv))
          exact hkind.guard hconditions
      | _ => exact .ok false
  | .none | .bool _ | .int _ | .float _ | .decimal _ | .fraction _
  | .complex _ _ | .text _
  | .kind _ | .operator _ | .bytes _ _ | .date _ | .clock _
  | .moment _ | .duration _
  | .range _ _ _ | .iterator _ _ | .values _ _ | .object _ _
  | .bare _ | .foreignNumber _ _ _
  | .classRef _ | .model _ _ | .callback _ _ _ => exact eqAtom_failsOnly ha hb
termination_by structural a

theorem equalItems_failsOnly
    (turned : Bool)
    (items items' : List Value)
    (h : ∀ v ∈ items, Signals reason v)
    (h' : ∀ v ∈ items', Signals reason v) :
    FailsOnly .signalingNaN reason (equalItems turned items items') := by
  match items with
  | [] => exact .ok _
  | v :: rest =>
      cases items' with
      | nil => exact .ok false
      | cons v' rest' =>
          have hfirst :=
            equals_failsOnly turned v v' (h v List.mem_cons_self)
              (h' v' List.mem_cons_self)
          have hrest :=
            equalItems_failsOnly turned rest rest'
              (fun w hw => h w (List.mem_cons_of_mem v hw))
              (fun w hw => h' w (List.mem_cons_of_mem v' hw))
          exact hfirst.guard hrest
termination_by structural items

theorem allIn_failsOnly
    (items items' : List Value)
    (h : ∀ v ∈ items, Signals reason v)
    (h' : ∀ v ∈ items', Signals reason v) :
    FailsOnly .signalingNaN reason (allIn items items') := by
  match items with
  | [] => exact .ok true
  | v :: rest =>
      have hfirst :
          FailsOnly .signalingNaN reason (anyOf (equals false v) items') :=
        anyOf_failsOnly fun w hw =>
          equals_failsOnly false v w (h v List.mem_cons_self) (h' w hw)
      have hrest :=
        allIn_failsOnly rest items'
          (fun w hw => h w (List.mem_cons_of_mem v hw)) h'
      exact hfirst.guard hrest
termination_by structural items

theorem entriesIn_failsOnly
    (entries entries' : List (Value × Value))
    (h : ∀ entry ∈ entries, Signals reason entry.1 ∧ Signals reason entry.2)
    (h' : ∀ entry ∈ entries', Signals reason entry.1 ∧ Signals reason entry.2) :
    FailsOnly .signalingNaN reason (entriesIn entries entries') := by
  match entries with
  | [] => exact .ok true
  | (key, value) :: rest =>
      obtain ⟨hkey, hvalue⟩ := h (key, value) List.mem_cons_self
      have hsearch :
          FailsOnly .signalingNaN reason
            (findEntry (equals false key) entries') :=
        findEntry_failsOnly fun entry hentry =>
          equals_failsOnly false key entry.1 hkey (h' entry hentry).1
      have hrest :=
        entriesIn_failsOnly rest entries'
          (fun entry hentry =>
            h entry (List.mem_cons_of_mem (key, value) hentry)) h'
      refine hsearch.bind fun found hfound => ?_
      cases found with
      | none => exact .ok false
      | some value' =>
          obtain ⟨entry, hentry, rfl⟩ := exists_of_findEntry hfound
          have hsame :=
            equals_failsOnly false value entry.2 hvalue (h' entry hentry).2
          exact hsame.guard hrest
termination_by structural entries

theorem entryIn_failsOnly
    (key' value' : Value)
    (entries : List (Value × Value))
    (h' : Signals reason key' ∧ Signals reason value')
    (h : ∀ entry ∈ entries, Signals reason entry.1 ∧ Signals reason entry.2) :
    FailsOnly .signalingNaN reason (entryIn key' value' entries) := by
  match entries with
  | [] => exact .ok false
  | (key, value) :: rest =>
      obtain ⟨hkey, hvalue⟩ := h (key, value) List.mem_cons_self
      have hfound := equals_failsOnly true key key' hkey h'.1
      have hsame := equals_failsOnly true value value' hvalue h'.2
      have hrest :=
        entryIn_failsOnly key' value' rest h'
          (fun entry hentry =>
            h entry (List.mem_cons_of_mem (key, value) hentry))
      refine hfound.bind fun found _ => ?_
      cases found with
      | true => exact hsame
      | false => exact hrest
termination_by structural entries

theorem sameKeys_failsOnly
    (entries entries' : List (Value × Value))
    (h : ∀ entry ∈ entries, Signals reason entry.1)
    (h' : ∀ entry ∈ entries', Signals reason entry.1) :
    FailsOnly .signalingNaN reason (sameKeys entries entries') := by
  match entries with
  | [] => exact .ok _
  | (key, value) :: rest =>
      cases entries' with
      | nil => exact .ok false
      | cons entry' rest' =>
          have hfirst :=
            equals_failsOnly false key entry'.1
              (h (key, value) List.mem_cons_self) (h' entry' List.mem_cons_self)
          have hrest :=
            sameKeys_failsOnly rest rest'
              (fun entry hentry =>
                h entry (List.mem_cons_of_mem (key, value) hentry))
              (fun entry hentry =>
                h' entry (List.mem_cons_of_mem entry' hentry))
          exact hfirst.guard hrest
termination_by structural entries

end

/-- Comparing two values fails only for a signalling NaN that occurs in
one of them. -/
theorem eq_failsOnly
    (a b : Value)
    (ha : Signals reason a)
    (hb : Signals reason b) :
    FailsOnly .signalingNaN reason (eq a b) :=
  equals_failsOnly false a b ha hb

end Equality

theorem strictEq_failsOnly
    {reason : Prop}
    {a b : Value}
    (ha : Signals reason a)
    (hb : Signals reason b) :
    FailsOnly .signalingNaN reason (strictEq a b) := by
  exact .ite (.ok false) (eq_failsOnly a b ha hb)

/-- Two numbers that refuse to be compared make a comparison fail, unless the
kinds of truth values and numbers already tell them apart. -/
theorem strictEq_of_refusing
    {a b : Value}
    {x y : Number}
    (hkinds : a.isBool = b.isBool)
    (ha : a.number? = some x)
    (hb : b.number? = some y)
    (hrefuse : x.eq? y = Option.none) :
    strictEq a b = .error .signalingNaN := by
  have hatom : eq a b = eqAtom a b := by
    cases a <;> first | rfl | cases ha
  rw [strictEq, if_neg (not_not_intro hkinds), hatom, eqAtom, ha, hb]
  simp only [hrefuse]

/-- No signalling NaN is among the elements of a collection that does
not hold one. -/
theorem Signals.collection
    {reason : Prop}
    {v : Value}
    {items : List Value}
    (h : Signals reason v)
    (hitems : v.collection? = some items) :
    ∀ item ∈ items, Signals reason item := by
  intro item hitem
  cases v with
  | sequence | set | keys | values =>
      cases hitems
      exact h.part hitem
  | range start stop step =>
      cases hitems
      obtain ⟨i, -, rfl⟩ := List.mem_map.mp hitem
      exact fun hhas => absurd hhas (not_has rfl rfl)
  | bytes isMutable data =>
      cases isMutable
      · cases hitems
      · cases hitems
        obtain ⟨b, -, rfl⟩ := List.mem_map.mp hitem
        exact fun hhas => absurd hhas (not_has rfl rfl)
  | _ => cases hitems

/-! ## Texts -/

section Texts

theorem intText_failsIff
    (n : Int) :
    FailsIff .oversizedInteger (Has isOversized (.int n)) (intText n) := by
  have hhas : Has isOversized (.int n) ↔ ¬ n.natAbs < Nat.pow 10 maxDigits := by
    rw [has_iff, isOversized_int, Nat.not_lt]
    simp [parts]
  refine FailsIff.congr ?_ hhas
  unfold intText
  split
  · rename_i hshort
    exact .ok _ (not_not_intro hshort)
  · rename_i hlong
    exact .inr ⟨rfl, hlong⟩

mutual

/-- A value has no expression exactly if a number that occurs in it
is too long. -/
theorem expression_failsIff
    (v : Value) :
    FailsIff .oversizedInteger (Has isOversized v) (expression v) := by
  match v with
  | .int n => exact intText_failsIff n
  | .fraction r =>
      have hnum := intText_failsIff r.num
      have hden := intText_failsIff r.den
      refine (hnum.bind fun num => hden.map _).congr ?_
      rw [has_parts rfl]
      simp [parts]
  | .range start stop step =>
      have hstart := intText_failsIff start
      have hstop := intText_failsIff stop
      have hstep := intText_failsIff step
      refine (hstart.bind fun first => hstop.bind fun last => hstep.map _).congr
        ?_
      rw [has_parts rfl]
      simp [parts]
  | .sequence form items =>
      have hitems := expressions_failsIff items
      have hhas :
          Has isOversized (.sequence form items) ↔
            ∃ v ∈ items, Has isOversized v :=
        has_parts rfl
      cases form with
      | list | tuple | queue => exact (hitems.map _).congr hhas
  | .set frozen items =>
      have hitems := expressions_failsIff items
      have hhas :
          Has isOversized (.set frozen items) ↔
            ∃ v ∈ items, Has isOversized v :=
        has_parts rfl
      refine (hitems.bind fun shown => ?_).congr
        (hhas.trans (or_false _).to_iff.symm)
      split
      · exact .ok _ not_false
      · split
        · exact .ok _ not_false
        · exact .ok _ not_false
  | .keys items =>
      exact ((expressions_failsIff items).map _).congr (has_parts rfl)
  | .values id items =>
      exact ((expressions_failsIff items).map _).congr (has_parts rfl)
  | .mapping form entries =>
      have hhas := @has_mapping_iff isOversized form entries rfl
      cases form with
      | plain | proxy =>
          exact ((entryExpressions_failsIff ": " entries).map _).congr hhas
      | ordered =>
          have hentries := entryExpressions_failsIff ", " entries
          unfold expression
          split
          · rename_i hempty
            rw [List.isEmpty_iff.mp hempty] at hhas ⊢
            exact .ok _ (by simp [hhas])
          · exact (hentries.map _).congr hhas
  | .model id fields =>
      exact ((fieldExpressions_failsIff fields).map _).congr (has_model_iff rfl)
  | .comparison k field flag =>
      have hkind := expression_failsIff k
      have hfield := expression_failsIff field
      have hflag := expression_failsIff flag
      refine (hkind.bind fun first => hfield.bind fun second =>
        hflag.map _).congr ?_
      rw [has_parts rfl]
      simp [parts]
  | .group k conditions =>
      have hkind := expression_failsIff k
      have hconditions := expressions_failsIff conditions
      have hhas :
          Has isOversized (.group k conditions) ↔
            (∃ c ∈ conditions, Has isOversized c) ∨ Has isOversized k := by
        rw [has_parts rfl]
        simp [parts, or_comm]
      exact (hconditions.bind fun shown => hkind.map _).congr hhas
  | .none | .bool _ | .float _ | .decimal _ | .complex _ _ | .text _
  | .kind _ | .operator _ | .bytes _ _ | .date _ | .clock _
  | .moment _ | .duration _
  | .iterator _ _ | .object _ _ | .bare _ | .foreignNumber _ _ _
  | .classRef _ | .callback _ _ _ => exact .ok _ (not_has rfl rfl)
termination_by structural v

theorem expressions_failsIff
    (vs : List Value) :
    FailsIff .oversizedInteger (∃ v ∈ vs, Has isOversized v)
      (expressions vs) := by
  match vs with
  | [] => exact .ok _ (by simp)
  | v :: rest =>
      have hfirst := expression_failsIff v
      have hrest := expressions_failsIff rest
      refine (hfirst.bind fun shown => hrest.map fun others =>
        shown :: others).congr ?_
      simp
termination_by structural vs

theorem entryExpressions_failsIff
    (mark : String)
    (entries : List (Value × Value)) :
    FailsIff .oversizedInteger
      (∃ entry ∈ entries, Has isOversized entry.1 ∨ Has isOversized entry.2)
      (entryExpressions mark entries) := by
  match entries with
  | [] => exact .ok _ (by simp)
  | (key, value) :: rest =>
      have hkey := expression_failsIff key
      have hvalue := expression_failsIff value
      have hrest := entryExpressions_failsIff mark rest
      refine (hkey.bind fun k => hvalue.bind fun v => hrest.map _).congr ?_
      simp [or_assoc]
termination_by structural entries

theorem fieldExpressions_failsIff
    (fields : List (String × Option String × Value)) :
    FailsIff .oversizedInteger (∃ field ∈ fields, Has isOversized field.2.2)
      (fieldExpressions fields) := by
  match fields with
  | [] => exact .ok _ (by simp)
  | (name, shownName, value) :: rest =>
      have hfirst := expression_failsIff value
      have hrest := fieldExpressions_failsIff rest
      refine (hfirst.bind fun shown => hrest.map _).congr ?_
      simp
termination_by structural fields

end

/-- A quotient has no text exactly if one of its parts is too long; where the
denominator is one, it is not written, and has one digit. -/
theorem ratText_failsIff
    (r : Rat) :
    FailsIff .oversizedInteger (Has isOversized (.fraction r)) (ratText r) := by
  have hnum := intText_failsIff r.num
  have hden := intText_failsIff r.den
  have hhas :
      Has isOversized (.fraction r) ↔
        Has isOversized (.int r.num) ∨ Has isOversized (.int r.den) := by
    rw [has_parts rfl]
    simp [parts]
  refine (hnum.bind fun num => ?_).congr hhas
  split
  · rename_i hwhole
    have hpower : ∀ k, k ≠ 0 → ¬ Nat.pow 10 k ≤ 1 := fun k hk =>
      Nat.not_le_of_lt (Nat.one_lt_pow hk (by decide))
    have hshort : isOversized (.int 1) = false :=
      Bool.eq_false_iff.mpr
        (mt isOversized_int.mp (hpower maxDigits (by decide)))
    rw [hwhole]
    exact .ok _ (not_has hshort rfl)
  · exact hden.map _

/-- A value has no text exactly if a number that occurs in it is too long. -/
theorem plainText_failsIff
    (v : Value) :
    FailsIff .oversizedInteger (Has isOversized v) (plainText v) := by
  cases v with
  | fraction r => exact ratText_failsIff r
  | mapping form entries =>
      cases form with
      | plain | ordered => exact expression_failsIff _
      | proxy =>
          have hplain := expression_failsIff (.mapping .plain entries)
          exact hplain.congr
            ((has_mapping_iff rfl).trans (has_mapping_iff rfl).symm)
  | model id fields =>
      exact ((fieldExpressions_failsIff fields).map _).congr (has_model_iff rfl)
  | decimal | text | kind | operator | date | clock | moment | duration =>
      exact .ok _ (not_has rfl rfl)
  | _ => exact expression_failsIff _

end Texts

end Value
end RecordFilter
