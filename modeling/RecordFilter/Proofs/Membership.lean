import RecordFilter.Memory.Operator
import RecordFilter.Proofs.Outcome

/-!
# Membership as a search by equality

This module says what the operator `inArray` answers in terms of the
operator `eq`.

**Search.**  A search puts a question to the elements of a list from left to
right.  It ends at the first element whose answer is not a no, with that answer,
be it a yes or a failure.  If all elements answer no, so does the search.

**Method.**  A search either ends at its first element or goes on as the search
of the others.  If no element fails, what counts is which elements there are,
not where and how often they stand.

**Main result.**
* `inArray_searches_eq`: membership in a collection is the search of its
  elements by equality, with what follows for reordered and for joined
  collections and for truth values.
-/

namespace RecordFilter
namespace Memory

/-! ## Searches -/

/-- The result is the answer of some element, behind elements that
all answer no. -/
def Reaches (ask : Value → Except Failure Bool) (items : List Value)
    (result : Except Failure Bool) : Prop :=
  ∃ before v after, items = before ++ v :: after ∧
    (∀ w ∈ before, ask w = .ok false) ∧ ask v = result

/-- The answer of a search from left to right that ends at the first yes
or failure. -/
structure Searches (ask : Value → Except Failure Bool) (items : List Value)
    (answer : Except Failure Bool) : Prop where
  ended :
    ∀ result, result ≠ .ok false → (answer = result ↔ Reaches ask items result)
  exhausted : answer = .ok false ↔ ∀ v ∈ items, ask v = .ok false

variable {ask : Value → Except Failure Bool} {v : Value} {rest : List Value}
variable {result : Except Failure Bool}

/-- An element that does not answer no is the last one that is asked. -/
theorem reaches_cons_of_end
    (h : ask v ≠ .ok false) :
    Reaches ask (v :: rest) result ↔ ask v = result := by
  constructor
  · rintro ⟨before, w, after, hsplit, hbefore, hw⟩
    cases before with
    | nil =>
        cases hsplit
        exact hw
    | cons first before =>
        cases hsplit
        exact absurd (hbefore v List.mem_cons_self) h
  · intro hv
    exact ⟨[], v, rest, rfl, nofun, hv⟩

/-- Behind an element that answers no, the search goes on among the others. -/
theorem reaches_cons_of_no
    (h : ask v = .ok false)
    (hresult : result ≠ .ok false) :
    Reaches ask (v :: rest) result ↔ Reaches ask rest result := by
  constructor
  · rintro ⟨before, w, after, hsplit, hbefore, hw⟩
    cases before with
    | nil =>
        cases hsplit
        exact absurd (hw.symm.trans h) hresult
    | cons first before =>
        cases hsplit
        exact ⟨before, w, after, rfl,
          fun u hu => hbefore u (List.mem_cons_of_mem v hu), hw⟩
  · rintro ⟨before, w, after, rfl, hbefore, hw⟩
    exact ⟨v :: before, w, after, rfl, List.forall_mem_cons.mpr ⟨h, hbefore⟩,
      hw⟩

/-- The first element decides the search, unless it answers no. -/
theorem anyOf_cons_of_end
    (h : ask v ≠ .ok false) :
    Value.anyOf ask (v :: rest) = ask v := by
  rw [Value.anyOf]
  match hv : ask v with
  | .error e => rfl
  | .ok true => rfl
  | .ok false => exact absurd hv h

theorem anyOf_cons_of_no
    (h : ask v = .ok false) :
    Value.anyOf ask (v :: rest) = Value.anyOf ask rest := by
  rw [Value.anyOf, h]
  rfl

theorem anyOf_searches
    (ask : Value → Except Failure Bool)
    (items : List Value) :
    Searches ask items (Value.anyOf ask items) := by
  induction items with
  | nil =>
      constructor
      case ended =>
        intro result hresult
        refine iff_of_false (fun h => hresult h.symm) ?_
        rintro ⟨before, v, after, hsplit, -⟩
        cases before <;> cases hsplit
      case exhausted =>
        exact iff_of_true rfl nofun
  | cons v rest ih =>
      by_cases hv : ask v = .ok false
      · rw [anyOf_cons_of_no hv]
        constructor
        case ended =>
          intro result hresult
          rw [reaches_cons_of_no hv hresult]
          exact ih.ended result hresult
        case exhausted =>
          rw [ih.exhausted, List.forall_mem_cons]
          exact (and_iff_right hv).symm
      · rw [anyOf_cons_of_end hv]
        constructor
        case ended =>
          intro result _
          exact (reaches_cons_of_end hv).symm
        case exhausted =>
          exact iff_of_false hv fun h => hv (h v List.mem_cons_self)

/-! ## Searches in which nothing fails -/

/-- If no element fails, the search answers yes exactly if some element does. -/
theorem exists_anyOf
    {items : List Value}
    (h : ∀ v ∈ items, ∃ b, ask v = .ok b) :
    ∃ b, Value.anyOf ask items = .ok b ∧
      (b = true ↔ ∃ v ∈ items, ask v = .ok true) := by
  induction items with
  | nil => exact ⟨false, rfl, by simp⟩
  | cons v rest ih =>
      obtain ⟨b, hb⟩ := h v List.mem_cons_self
      obtain ⟨c, hc, hiff⟩ := ih fun w hw => h w (List.mem_cons_of_mem v hw)
      cases b with
      | true =>
          have hend : ask v ≠ .ok false := by simp [hb]
          exact ⟨true, by rw [anyOf_cons_of_end hend, hb], by simp [hb]⟩
      | false => exact ⟨c, by rw [anyOf_cons_of_no hb, hc], by simp [hb, hiff]⟩

/-- If no element fails, neither their order nor repetitions matter. -/
theorem anyOf_congr_mem
    {items others : List Value}
    (h : ∀ v ∈ items, ∃ b, ask v = .ok b)
    (hsame : ∀ v, v ∈ others ↔ v ∈ items) :
    Value.anyOf ask others = Value.anyOf ask items := by
  obtain ⟨b, hb, hyes⟩ := exists_anyOf h
  obtain ⟨c, hc, hyes'⟩ := exists_anyOf fun v hv => h v ((hsame v).mp hv)
  simp only [hsame] at hyes'
  rw [hb, hc, Bool.eq_iff_iff.mpr (hyes'.trans hyes.symm)]

/-- One list is searched behind the other. -/
theorem anyOf_append
    (items others : List Value) :
    Value.anyOf ask (items ++ others) =
      (do
        if ← Value.anyOf ask items then return true
        else Value.anyOf ask others) := by
  induction items with
  | nil => rfl
  | cons v rest ih =>
      simp only [List.cons_append, Value.anyOf, ih]
      cases ask v with
      | error e => rfl
      | ok b => cases b <;> rfl

/-! ## Membership -/

theorem evaluate_inArray
    {input : Value}
    {items : List Value}
    (h : input.requireCollection none = .ok items)
    (field : Value) :
    evaluate .inArray field input = Value.anyOf (evaluate .eq field) items := by
  simp only [evaluate, h, Outcome.ok_bind]
  rfl

/-- Only the same truth value equals a truth value. -/
theorem eq_bool_of_evaluate
    {b : Bool}
    (h : evaluate .eq (.bool b) v = .ok true) :
    v = .bool b := by
  cases v with
  | bool c => cases b <;> cases c <;> first | rfl | cases h
  | _ => cases h

/-- **Membership is a search by equality.**  If no comparison fails, it does not
depend on the order or on repetitions of the elements, and membership in two
collections joined is membership in one of them.  A truth value is found only
where it is an element itself. -/
theorem inArray_searches_eq
    {input : Value}
    {items : List Value}
    (hitems : input.requireCollection none = .ok items)
    (field : Value) :
    Searches (evaluate .eq field) items (evaluate .inArray field input) ∧
    (∀ other others, other.requireCollection none = .ok others →
      (∀ v ∈ items, ∃ b, evaluate .eq field v = .ok b) →
        (∀ v, v ∈ others ↔ v ∈ items) →
      evaluate .inArray field other = evaluate .inArray field input) ∧
    (∀ other others whole, other.requireCollection none = .ok others →
      whole.requireCollection none = .ok (items ++ others) →
      (∀ v ∈ items ++ others, ∃ b, evaluate .eq field v = .ok b) →
      ∃ b c, evaluate .inArray field input = .ok b ∧
        evaluate .inArray field other = .ok c ∧
        evaluate .inArray field whole = .ok (b || c)) ∧
    (∀ b, field = .bool b → evaluate .inArray field input = .ok true →
      .bool b ∈ items) := by
  have hsearches := anyOf_searches (evaluate .eq field) items
  rw [evaluate_inArray hitems]
  refine ⟨hsearches, ?_, ?_, ?_⟩
  · intro other others hothers hanswered hsame
    rw [evaluate_inArray hothers]
    exact anyOf_congr_mem hanswered hsame
  · intro other others whole hothers hwhole hanswered
    obtain ⟨b, hb, -⟩ :=
      exists_anyOf fun v hv => hanswered v (List.mem_append_left others hv)
    obtain ⟨c, hc, -⟩ :=
      exists_anyOf fun v hv => hanswered v (List.mem_append_right items hv)
    refine ⟨b, c, hb, by rw [evaluate_inArray hothers, hc], ?_⟩
    rw [evaluate_inArray hwhole, anyOf_append, hb, hc]
    cases b <;> rfl
  · rintro b rfl hfound
    obtain ⟨before, v, after, rfl, -, hv⟩ :=
      (hsearches.ended (.ok true) nofun).mp hfound
    rw [eq_bool_of_evaluate hv]
    exact List.mem_append_right before List.mem_cons_self

/-- A truth value is not found as a number.  Where it is an element, it is found
in another order and next to other elements too.  A comparison that fails ends a
search in front of an element that would be found. -/
theorem inArray_truth :
    (Value.list [.int 1, .bool true]).requireCollection none =
      .ok [.int 1, .bool true] ∧
      evaluate .inArray (.bool true) (.list [.int 1, .bool true]) = .ok true ∧
      evaluate .inArray (.bool true) (.tuple [.bool true, .int 1, .bool true]) =
        .ok true ∧
      evaluate .inArray (.bool true) (.list [.int 1, .bool true, .text "1"]) =
        .ok true ∧
      evaluate .inArray (.bool false) (.list [.int 1, .bool true]) ≠ .ok true ∧
      evaluate .inArray (.int 1)
        (.list [.bool true, .decimal (.nan false true 0), .int 1]) =
        .error .signalingNaN := by
  have hitems :
      (Value.list [.int 1, .bool true]).requireCollection none =
        .ok [.int 1, .bool true] := rfl
  have hfound :
      evaluate .inArray (.bool true) (.list [.int 1, .bool true]) =
        .ok true := rfl
  have hanswered :
      ∀ v ∈ [Value.int 1, .bool true] ++ [.text "1"],
        ∃ b, evaluate .eq (.bool true) v = .ok b := by
    simp only [List.cons_append, List.nil_append, List.forall_mem_cons]
    exact ⟨⟨false, rfl⟩, ⟨true, rfl⟩, ⟨false, rfl⟩, nofun⟩
  obtain ⟨-, hsame, hjoined, -⟩ := inArray_searches_eq hitems (.bool true)
  obtain ⟨-, -, -, hbool⟩ := inArray_searches_eq hitems (.bool false)
  refine ⟨hitems, hfound, ?_, ?_, ?_, ?_⟩
  · rw [hsame (.tuple [.bool true, .int 1, .bool true])
      [.bool true, .int 1, .bool true] rfl
      (fun v hv => hanswered v (List.mem_append_left _ hv)) (by simp)]
    exact hfound
  · obtain ⟨b, c, hb, hc, hwhole⟩ :=
      hjoined (.list [.text "1"]) [.text "1"]
        (.list [.int 1, .bool true, .text "1"]) rfl rfl hanswered
    cases hb
    exact hwhole
  · intro hno
    simpa using hbool false rfl hno
  · obtain ⟨hsearches, -⟩ :=
      @inArray_searches_eq
        (.list [.bool true, .decimal (.nan false true 0), .int 1]) _ rfl
        (.int 1)
    refine (hsearches.ended (.error .signalingNaN) nofun).mpr
      ⟨[.bool true], .decimal (.nan false true 0), [.int 1], rfl, ?_, rfl⟩
    exact List.forall_mem_singleton.mpr rfl

end Memory
end RecordFilter
