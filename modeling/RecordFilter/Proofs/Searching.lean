import RecordFilter.Memory.Search
import RecordFilter.Proofs.Outcome

/-!
# Searches for records

This module relates the ways to go through a list of records with a predicate:
keeping the matching records, finding the first one or its position, and asking
whether some or all of them match.

**Where no record fails.**  All of them agree with the list of the
matching records.

**Where records may fail.**  Keeping the matching records tests all records.
The other ways test the records up to the first one that gives the answer they
look for.  In both cases testing ends with the first record that fails, and a
run fails only for such a record.

**Method.**  `EndsAt` says what the searches that end early have in common, with
the answer that ends them as a parameter, and names the search of a plain list
that goes the same way.  One induction gives the records such a search tests,
another one what it finds.  `AsksWhile` is the case of a question about all
records, with the answer after which it goes on as a parameter.

**Main result.**
* `searches_agree`: what the five ways answer, and which records they test.
-/

namespace RecordFilter
namespace Search

open Outcome

variable {ε α β γ : Type}

/-! ## Tested records -/

/-- Does the predicate give this answer for the record?  Where it fails, it
gives none. -/
def answers (p : α → Traced ε Bool) (answer : Bool) (a : α) : Bool :=
  match (p a).result with
  | .ok b => b == answer
  | .error _ => false

/-- Does the predicate fail on the record? -/
def fails (p : α → Traced ε Bool) (a : α) : Bool :=
  (failure? (p a).result).isSome

theorem result_eq_answers
    {p : α → Traced ε Bool}
    {a : α}
    (h : ∃ b, (p a).result = .ok b) :
    (p a).result = .ok (answers p true a) := by
  obtain ⟨b, hb⟩ := h
  rw [answers, hb]
  cases b <;> rfl

/-- The records up to the first one for which a search stops, that one included;
all of them, if it stops for none. -/
def through (stops : α → Bool) (records : List α) : List α :=
  records.take (records.findIdx stops + 1)

@[simp] theorem through_nil
    (stops : α → Bool) :
    through stops [] = [] := by
  rfl

theorem through_cons
    (stops : α → Bool)
    (a : α)
    (rest : List α) :
    through stops (a :: rest) =
      a :: if stops a then [] else through stops rest := by
  unfold through
  rw [List.findIdx_cons]
  cases stops a <;> rfl

/-- A run that tests these records in order, up to the first one that fails.
The trace is that of the tests, and the run fails as the first record of them
that fails. -/
structure Tests (p : α → Traced ε Bool) (records : List α) (run : Traced ε β) :
    Prop where
  trace : run.trace = (through (fails p) records).flatMap fun a => (p a).trace
  failure :
    failure? run.result = records.findSome? fun a => failure? (p a).result

namespace Tests

variable {p : α → Traced ε Bool} {a : α} {rest records : List α}

/-- Testing nothing. -/
theorem nothing
    (b : β) :
    Tests p [] (pure b) where
  trace := rfl
  failure := rfl

/-- Testing one record, and going on if it does not fail.  A record that fails
is the last one that is tested, whatever the run would do after it. -/
theorem cons
    {k : Bool → Traced ε β}
    (h : ∀ b, (p a).result = .ok b → Tests p rest (k b)) :
    Tests p (a :: rest) (p a >>= k) := by
  rcases hp : p a with ⟨trace, result⟩
  rw [hp] at h
  cases result with
  | error e =>
      have hfails : fails p a = true := by
        rw [fails, hp]
        rfl
      constructor
      · rw [through_cons, hfails, if_pos rfl]
        simp [hp]
      · simp [hp]
  | ok b =>
      have hfails : fails p a = false := by
        rw [fails, hp]
        rfl
      have hrest := h b rfl
      constructor
      · rw [through_cons, hfails, if_neg (by simp), List.flatMap_cons,
          ← hrest.trace]
        simp [hp]
      · rw [List.findSome?_cons, hp]
        exact hrest.failure

/-- What comes after the tests changes the result only. -/
theorem andThen
    {run : Traced ε β}
    {k : β → Traced ε γ}
    (h : Tests p records run)
    (hk : ∀ b, ∃ c, k b = pure c) :
    Tests p records (run >>= k) := by
  rcases run with ⟨trace, result⟩
  cases result with
  | error e => exact ⟨h.trace, h.failure⟩
  | ok b =>
      obtain ⟨c, hc⟩ := hk b
      have htrace : (⟨trace, .ok b⟩ >>= k : Traced ε γ) = ⟨trace, .ok c⟩ := by
        simp [hc]
      rw [htrace]
      exact ⟨h.trace, h.failure⟩

end Tests

/-! ## Searches that end early -/

/-- A search that ends at the first record with an answer, and otherwise only
changes what it finds in the other records.  A plain list is searched in the
same way, given which records match. -/
structure EndsAt (p : α → Traced ε Bool) (answer : Bool)
    (search : List α → Traced ε β) (plain : (α → Bool) → List α → β) :
    Prop where
  nil : ∀ accepts, search [] = pure (plain accepts [])
  cons : ∀ a rest, ∃ (found : β) (change : β → β),
    search (a :: rest) =
      (p a >>= fun b =>
        if b = answer then pure found
        else search rest >>= fun c => pure (change c)) ∧
    ∀ accepts, plain accepts (a :: rest) =
      if accepts a = answer then found else change (plain accepts rest)

namespace EndsAt

variable {p : α → Traced ε Bool} {answer : Bool} {records : List α}
variable {search : List α → Traced ε β} {plain : (α → Bool) → List α → β}

/-- Such a search tests the records up to the first one with the answer. -/
theorem tests
    (h : EndsAt p answer search plain)
    (records : List α) :
    Tests p (through (answers p answer) records) (search records) := by
  induction records with
  | nil =>
      rw [h.nil fun _ => true]
      exact .nothing _
  | cons a rest ih =>
      obtain ⟨found, change, hstep, -⟩ := h.cons a rest
      rw [hstep, through_cons]
      refine .cons fun b hb => ?_
      have hanswers : answers p answer a = (b == answer) := by
        rw [answers, hb]
      by_cases hsame : b = answer
      · rw [hanswers, if_pos hsame, if_pos (by simp [hsame])]
        exact .nothing found
      · rw [hanswers, if_neg hsame, if_neg (by simp [hsame])]
        exact ih.andThen fun c => ⟨change c, rfl⟩

/-- Where no record fails, it finds what is found in the plain list. -/
theorem result
    (h : EndsAt p answer search plain)
    {accepts : α → Bool}
    (haccepts : ∀ a ∈ records, (p a).result = .ok (accepts a)) :
    (search records).result = .ok (plain accepts records) := by
  induction records with
  | nil =>
      rw [h.nil accepts]
      rfl
  | cons a rest ih =>
      rw [List.forall_mem_cons] at haccepts
      obtain ⟨found, change, hstep, hplain⟩ := h.cons a rest
      rw [hstep, hplain, Traced.result_bind, haccepts.1, Outcome.ok_bind]
      by_cases hsame : accepts a = answer
      · rw [if_pos hsame, if_pos hsame]
        rfl
      · rw [if_neg hsame, if_neg hsame, Traced.result_bind, ih haccepts.2]
        rfl

end EndsAt

/-! ## Questions about all records -/

/-- A question about all records that goes on after one answer and ends after
the other one. -/
structure AsksWhile (p : α → Traced ε Bool) (onward : Bool)
    (run : List α → Traced ε Bool) : Prop where
  nil : run [] = pure onward
  cons :
    ∀ a rest, run (a :: rest) =
      (p a >>= fun b => if b = onward then run rest else pure b)

namespace AsksWhile

variable {p : α → Traced ε Bool} {onward : Bool} {run : List α → Traced ε Bool}
variable {records records' : List α}

/-- Such a question ends at the first record with the other answer. -/
theorem endsAt
    (h : AsksWhile p onward run) :
    EndsAt p (!onward) run fun accepts records =>
      records.all (accepts · == onward) == onward where
  nil accepts := by
    rw [h.nil]
    simp
  cons a rest := by
    refine ⟨!onward, id, ?_, fun accepts => ?_⟩
    · rw [h.cons]
      congr 1
      funext b
      cases b <;> cases onward <;> simp [-Traced.pure_def]
    · rw [List.all_cons]
      cases accepts a <;> cases onward <;> simp

theorem result_eq_onward_iff
    (h : AsksWhile p onward run) :
    (run records).result = .ok onward ↔
      ∀ a ∈ records, (p a).result = .ok onward := by
  induction records with
  | nil => simp [h.nil]
  | cons a rest ih =>
      rw [h.cons, Traced.result_bind, List.forall_mem_cons]
      cases (p a).result with
      | error e => simp
      | ok b =>
          by_cases honward : b = onward
          · simp [honward, ih]
          · simp [honward]

/-- Asked in two orders, the answers are the same, if there are answers. -/
theorem answers_eq
    {b b' : Bool}
    (hrun : AsksWhile p onward run)
    (horder : records.Perm records')
    (h : (run records).result = .ok b)
    (h' : (run records').result = .ok b') :
    b = b' := by
  have hsame :
      (run records).result = .ok onward ↔
        (run records').result = .ok onward := by
    simp only [hrun.result_eq_onward_iff, horder.mem_iff]
  rw [h, h', Except.ok.injEq, Except.ok.injEq] at hsame
  cases b <;> cases b' <;> cases onward <;> simp_all

end AsksWhile

/-! ## The five ways -/

variable (p : α → Traced ε Bool)

theorem find?_endsAt :
    EndsAt p true (find? p) List.find? where
  nil _ := rfl
  cons a rest := by
    refine ⟨some a, id, ?_, fun accepts => ?_⟩
    · simp only [find?, id_eq, bind_pure]
    · rw [List.find?_cons]
      cases accepts a <;> rfl

theorem findIndex?_endsAt :
    EndsAt p true (findIndex? p) List.findIdx? where
  nil _ := rfl
  cons a rest := by
    refine ⟨some 0, Option.map (· + 1), rfl, fun accepts => ?_⟩
    rw [List.findIdx?_cons]

theorem any_asksWhile :
    AsksWhile p false (any p) where
  nil := rfl
  cons a rest := by
    rw [any]
    congr 1
    funext b
    cases b <;> rfl

theorem all_asksWhile :
    AsksWhile p true (all p) where
  nil := rfl
  cons a rest := by
    rw [all]
    congr 1
    funext b
    cases b <;> rfl

theorem findIndex_tests
    (records : List α) :
    Tests p (through (answers p true) records) (findIndex p records) := by
  refine ((findIndex?_endsAt p).tests records).andThen fun found => ?_
  cases found with
  | none => exact ⟨-1, rfl⟩
  | some i => exact ⟨i, rfl⟩

/-- Keeping the matching records tests all of them. -/
theorem filter_tests
    (records : List α) :
    Tests p records (filter p records) := by
  induction records with
  | nil => exact .nothing []
  | cons a rest ih =>
      refine .cons fun b _ => ?_
      cases b with
      | true => exact ih.andThen fun kept => ⟨a :: kept, rfl⟩
      | false => exact ih

section Quiet

variable {p} {accepts : α → Bool} {records : List α}

theorem findIndex_result
    (h : ∀ a ∈ records, (p a).result = .ok (accepts a)) :
    (findIndex p records).result =
      .ok ((records.findIdx? accepts).elim (-1) fun i => (i : Int)) := by
  rw [findIndex, Traced.result_bind, (findIndex?_endsAt p).result h]
  cases records.findIdx? accepts <;> rfl

/-- Keeping records does not end early; where no record fails, the matching ones
are kept. -/
theorem filter_result
    (h : ∀ a ∈ records, (p a).result = .ok (accepts a)) :
    (filter p records).result = .ok (records.filter accepts) := by
  induction records with
  | nil => rfl
  | cons a rest ih =>
      rw [List.forall_mem_cons] at h
      rw [filter, Traced.result_bind, h.1, List.filter_cons]
      cases accepts a with
      | true => simp [Traced.result_bind, ih h.2]
      | false => exact ih h.2

end Quiet

/-! ## Lists of matching records -/

section Matching

variable {accepts : α → Bool} {records : List α} {i : Nat}

theorem findIdx?_eq_none_iff_filter :
    records.findIdx? accepts = none ↔ records.filter accepts = [] := by
  rw [List.findIdx?_eq_none_iff, List.filter_eq_nil_iff]
  simp

theorem find?_eq_none_iff_filter :
    records.find? accepts = none ↔ records.filter accepts = [] := by
  rw [List.find?_eq_none, List.filter_eq_nil_iff]

theorem position_eq_iff
    (found : Option Nat) :
    (found.elim (-1) fun i => (i : Int)) = -1 ↔ found = none := by
  cases found with
  | none => simp
  | some i => simp

/-- What is found at the position of the first match. -/
theorem first_match
    (h : records.findIdx? accepts = some i) :
    ∃ hi : i < records.length,
      accepts records[i] = true ∧
      (∀ j (hj : j < i), accepts records[j] = false) ∧
      records.find? accepts = some records[i] ∧
      (records.filter accepts).head? = some records[i] := by
  obtain ⟨hi, hmatch, hbefore⟩ := List.findIdx?_eq_some_iff_getElem.mp h
  have hleast : ∀ j (hj : j < i), accepts records[j] = false := by
    intro j hj
    exact Bool.not_eq_true _ ▸ hbefore j hj
  have hfind : records.find? accepts = some records[i] := by
    rw [List.find?_eq_some_iff_getElem]
    exact ⟨hmatch, i, hi, rfl, fun j hj => by simp [hleast j hj]⟩
  exact ⟨hi, hmatch, hleast, hfind, List.head?_filter.trans hfind⟩

end Matching

/-- **The ways to search agree** where no record fails, and they test the
records as far as their answers need. -/
theorem searches_agree
    (records : List α) :
    ((∀ a ∈ records, ∃ b, (p a).result = .ok b) →
      ∃ kept found index anyMatch allMatch,
        (filter p records).result = .ok kept ∧
        (find? p records).result = .ok found ∧
        (findIndex p records).result = .ok index ∧
        (any p records).result = .ok anyMatch ∧
        (all p records).result = .ok allMatch ∧
        kept = records.filter (answers p true) ∧
        (index = -1 ↔ kept = []) ∧
        (anyMatch = false ↔ kept = []) ∧
        (found = none ↔ kept = []) ∧
        (kept ≠ [] →
          ∃ (i : Nat) (hi : i < records.length),
            index = i ∧
            answers p true records[i] = true ∧
            (∀ j (hj : j < i), answers p true records[j] = false) ∧
            found = some records[i] ∧
            kept.head? = some records[i]) ∧
        (allMatch = true ↔ kept = records)) ∧
    Tests p (through (answers p true) records) (find? p records) ∧
    Tests p (through (answers p true) records) (findIndex p records) ∧
    Tests p (through (answers p true) records) (any p records) ∧
    Tests p (through (answers p false) records) (all p records) ∧
    Tests p records (filter p records) := by
  refine ⟨fun hquiet => ?_, (find?_endsAt p).tests records,
    findIndex_tests p records, (any_asksWhile p).endsAt.tests records,
    (all_asksWhile p).endsAt.tests records, filter_tests p records⟩
  have haccepts : ∀ a ∈ records, (p a).result = .ok (answers p true a) :=
    fun a ha => result_eq_answers (hquiet a ha)
  refine ⟨_, _, _, _, _, filter_result haccepts,
    (find?_endsAt p).result haccepts, findIndex_result haccepts,
    (any_asksWhile p).endsAt.result haccepts,
    (all_asksWhile p).endsAt.result haccepts, rfl, ?_, ?_,
    find?_eq_none_iff_filter, ?_, ?_⟩
  · rw [position_eq_iff, findIdx?_eq_none_iff_filter]
  · rw [List.filter_eq_nil_iff]
    simp
  · intro hkept
    obtain ⟨i, hi⟩ : ∃ i, records.findIdx? (answers p true) = some i := by
      rw [← Option.ne_none_iff_exists', Ne, findIdx?_eq_none_iff_filter]
      exact hkept
    obtain ⟨hlength, hmatch, hleast, hfind, hhead⟩ := first_match hi
    exact ⟨i, hlength, by rw [hi]; rfl, hmatch, hleast, hfind, hhead⟩
  · rw [List.filter_eq_self]
    simp

end Search

namespace MemoryFilter

/-- A callback that compares whole numbers with the input and gives up on
anything else. -/
def ripeness : Callbacks := fun _ record input =>
  match record, input with
  | .int n, .int least => .ok (decide (least ≤ n))
  | _, _ => .error .callbackFailed

/-- The predicate of such a filter, called with the input `5`. -/
def ripe (record : Value) : Traced (Call Value) Bool :=
  passes record [(Memory.callbackChecker ripeness ⟨0, "ripe", []⟩, .int 5)]

/-- Of three numbers, the first match is the first one that is kept.  A text
behind a match is tested where all records are wanted, and not where the first
match decides. -/
theorem searches_of_ripe :
    (∃ f, define Memory.defaultRegistry ripeness .absent
        (.ofFields [("ripe", .callback 0 "ripe" [])]) = .ok f ∧
      f.predicate (.ofFields [("ripe", .int 5)]) = .ok ripe) ∧
    (Search.filter ripe [.int 2, .int 7, .int 9]).result =
      .ok [.int 7, .int 9] ∧
    (Search.find? ripe [.int 2, .int 7, .int 9]).result = .ok (some (.int 7)) ∧
    (Search.any ripe [.int 2, .int 7, .text "a"]).trace =
      [⟨⟨0, "ripe", []⟩, .int 2, .int 5⟩, ⟨⟨0, "ripe", []⟩, .int 7, .int 5⟩] ∧
    Outcome.failure? (Search.filter ripe [.int 2, .int 7, .text "a"]).result =
      some .callbackFailed := by
  have hquiet :
      ∀ a ∈ [Value.int 2, .int 7, .int 9], ∃ b, (ripe a).result = .ok b := by
    rw [List.forall_mem_cons, List.forall_mem_cons, List.forall_mem_singleton]
    exact ⟨⟨false, rfl⟩, ⟨true, rfl⟩, ⟨true, rfl⟩⟩
  obtain ⟨hagree, -⟩ := Search.searches_agree ripe [.int 2, .int 7, .int 9]
  obtain ⟨kept, found, _, _, _, hkept, hfound, -, -, -, hfilter, -, -, -,
    hfirst, -⟩ :=
    hagree hquiet
  have hlist : kept = [.int 7, .int 9] := hfilter.trans rfl
  obtain ⟨i, hi, -, -, -, hvalue, hhead⟩ :=
    hfirst (by rw [hlist]; exact List.cons_ne_nil _ _)
  obtain ⟨-, -, -, hany, -, hall⟩ :=
    Search.searches_agree ripe [.int 2, .int 7, .text "a"]
  refine ⟨⟨_, rfl, rfl⟩, ?_, ?_, hany.trace.trans rfl, hall.failure.trans rfl⟩
  · rw [hkept, hlist]
  · rw [hfound, hvalue, ← hhead, hlist]
    rfl

end MemoryFilter
end RecordFilter
