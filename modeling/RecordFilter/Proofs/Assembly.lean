import RecordFilter.Proofs.Meaning
import RecordFilter.Sql.Filter
import Mathlib.Data.List.ReduceOption

/-!
# How conditions are put together

This module says what the condition of a filter on a table consists of, straight
from the raw entries of its definition, for every registry of operators and for
callbacks of any kind.

**Calls.**  Every entry with an input is asked exactly once, in the order of the
definition, and none is left out because of what another one answers.  A group
asks each of its conditions with the one input.

**Joining.**  Answers that are missing are dropped.  A single condition that is
left stays as it is, several are joined in their order, and the result is
missing if nothing is left.  This happens twice, among the conditions of a group
and among the entries.

**Main result.**
* `SqlFilter.condition_assembled`: the calls and the condition for every input,
  which depend on nothing but the inputs under the names of the definition.
-/

namespace RecordFilter

open Grammar

namespace Sql

variable {φ : Type}

/-! ## Joining answers -/

/-- What is left of some answers: nothing, the only condition, or all
conditions joined. -/
structure Joins (combine : List (Condition φ) → Condition φ)
    (answers : List (Option (Condition φ))) (result : Option (Condition φ)) :
    Prop where
  missing : result = none ↔ ∀ answer ∈ answers, answer = none
  single : ∀ c, answers.reduceOption = [c] → result = some c
  several :
    2 ≤ answers.reduceOption.length →
      result = some (combine answers.reduceOption)

theorem reduceOption_eq_nil_iff
    {answers : List (Option (Condition φ))} :
    answers.reduceOption = [] ↔ ∀ answer ∈ answers, answer = none := by
  simp [List.reduceOption]

theorem joins_join
    (combine : List (Condition φ) → Condition φ)
    (answers : List (Option (Condition φ))) :
    Joins combine answers (Condition.join combine answers.reduceOption) := by
  constructor
  case missing =>
    rw [← reduceOption_eq_nil_iff]
    rcases answers.reduceOption with - | ⟨c, - | ⟨d, rest⟩⟩ <;>
      simp [Condition.join]
  case single =>
    intro c hc
    rw [hc]
    rfl
  case several =>
    intro hlength
    rcases hkept : answers.reduceOption with - | ⟨c, - | ⟨d, rest⟩⟩
    · simp [hkept] at hlength
    · simp [hkept] at hlength
    · rfl

/-! ## Runs of builders -/

/-- What a builder did: its calls of callbacks, and its answer. -/
structure Made (φ : Type) where
  calls : List (Call Table)
  answer : Option (Condition φ)

/-- A builder that was run with an input of its own. -/
def Ran (pair : Builder φ × Value) (made : Made φ) : Prop :=
  pair.1 pair.2 = ⟨made.calls, .ok made.answer⟩

/-- A run over builders succeeds if each of them does.  Then each of them ran
once, in order. -/
theorem fragments_eq_ok_iff
    {pairs : List (Builder φ × Value)}
    {calls : List (Call Table)}
    {found : List (Condition φ)} :
    fragments pairs = ⟨calls, .ok found⟩ ↔
      ∃ made, List.Forall₂ Ran pairs made ∧
        calls = made.flatMap Made.calls ∧
        found = (made.map Made.answer).reduceOption := by
  induction pairs generalizing calls found with
  | nil =>
      constructor
      · intro h
        cases h
        exact ⟨[], .nil, rfl, rfl⟩
      · rintro ⟨made, hran, rfl, rfl⟩
        cases hran
        rfl
  | cons pair rest ih =>
      obtain ⟨builder, input⟩ := pair
      rw [fragments]
      constructor
      · intro h
        rcases hfirst : builder input with ⟨first, e | answer⟩
        · rw [hfirst] at h
          cases h
        · rcases hrest : fragments rest with ⟨others, e | kept⟩
          · rw [hfirst, hrest] at h
            cases h
          · obtain ⟨made, hran, rfl, rfl⟩ := ih.mp hrest
            rw [hfirst, hrest] at h
            cases h
            refine ⟨⟨first, answer⟩ :: made, .cons hfirst hran, ?_, ?_⟩
            · simp
            · cases answer <;> rfl
      · rintro ⟨made, hran, rfl, rfl⟩
        cases hran with
        | @cons _ first _ made hfirst hothers =>
            rw [ih.mpr ⟨made, hothers, rfl, rfl⟩]
            rw [show builder input = ⟨first.calls, .ok first.answer⟩ from
              hfirst]
            rcases first with ⟨calls, answer⟩
            cases answer <;> simp [List.reduceOption]

theorem exists_ran
    {pairs : List (Builder φ × Value)}
    (h : ∀ pair ∈ pairs, ∃ answer, (pair.1 pair.2).result = .ok answer) :
    ∃ made, List.Forall₂ Ran pairs made := by
  refine Outcome.exists_forall₂ fun pair hmem => ?_
  obtain ⟨answer, hanswer⟩ := h pair hmem
  refine ⟨⟨(pair.1 pair.2).trace, answer⟩, ?_⟩
  unfold Ran
  rw [← hanswer]

/-! ## What entries make -/

variable (registry : Registry (ColumnBehaviour φ))
variable (callbacks : TableCallbacks φ) (table : Table)

/-- What a comparison makes of an input: its operator, as the registry has it,
on the column that its path names. -/
inductive Compares (name : Option String) (raw input : Value)
    (answer : Option (Condition φ)) : Prop
  | intro
      {op : Operator}
      {registered : Registered (ColumnBehaviour φ)}
      {path : String}
      {column : Column}
      (operator : Declared.operator? raw = some op)
      (known : registry.get? op.text = some registered)
      (reads : Declared.path? name raw = some path)
      (stored : table.column? path = some column)
      (made : registered.behaviour column input = .ok answer) :
      Compares name raw input answer

/-- How the conditions of a group are joined. -/
def joiner? : Kind → Option (List (Condition φ) → Condition φ)
  | .and => some .all
  | .or => some .any
  | _ => none

/-- What an entry makes of an input.  A callback is called with the table and
the input; a group puts the input to all its conditions in order, and joins what
they make. -/
inductive Makes (entry : Value × Value) (input : Value) : Made φ → Prop
  | callback
      {callback : Callback}
      {answer : Option (Condition φ)}
      (same : entry.2.callback? = some callback)
      (answered : callbacks callback table input = .ok answer) :
      Makes entry input ⟨[⟨callback, table, input⟩], answer⟩
  | comparison
      {answer : Option (Condition φ)}
      (compares : Compares registry table entry.1.text? entry.2 input answer) :
      Makes entry input ⟨[], answer⟩
  | group
      {k : Kind}
      {combine : List (Condition φ) → Condition φ}
      {conditions : List Value}
      {answers : List (Option (Condition φ))}
      {result : Option (Condition φ)}
      (kind : Declared.kind? entry.2 = some k)
      (joint : joiner? k = some combine)
      (found : Declared.conditions? entry.2 = some conditions)
      (each :
        List.Forall₂
          (fun condition => Compares registry table none condition input)
          conditions answers)
      (joined : Joins combine answers result) :
      Makes entry input ⟨[], result⟩

/-- The entries with an input that is not missing, each with its input. -/
def activeEntries (inputs : List (Value × Value))
    (entries : List (Value × Value)) : List ((Value × Value) × Value) :=
  entries.filterMap fun entry =>
    (Interpretation.given? entry.1.text? inputs).map fun input => (entry, input)

variable {registry callbacks table} {shape : Shape}

/-! ## Compiled comparisons -/

theorem exists_column_of_columnOf
    {field : Value}
    {column : Column}
    (h : columnOf table field = .ok column) :
    ∃ path, field.text? = some path ∧ table.column? path = some column := by
  unfold columnOf at h
  split at h
  · split at h
    · rename_i c hc
      cases h
      exact Option.bind_eq_some_iff.mp hc
    · obtain ⟨report, -, hreport⟩ := Outcome.bind_eq_ok.mp h
      cases hreport
  · cases h

/-- A comparison that was compiled does what it declares, and calls nothing. -/
theorem compares_of_comparisonBuilder
    {name : Option String}
    {raw key input : Value}
    {c : Comparison}
    {builder : Builder φ}
    {made : Made φ}
    (h : IsComparison shape name raw)
    (hagrees : c.Agrees raw)
    (hpath : Declared.path? key.text? raw = Declared.path? name raw)
    (hbuilder :
      comparisonBuilder registry table (c.fieldOr key) c = .ok builder)
    (hran : Ran (builder, input) made) :
    made.calls = [] ∧ Compares registry table name raw input made.answer := by
  obtain ⟨op, hop⟩ := h.exists_operator
  obtain ⟨column, hcolumn, hrest⟩ := Outcome.bind_eq_ok.mp hbuilder
  rw [hagrees.operator_eq hop, Outcome.ok_bind] at hrest
  obtain ⟨registered, hrequire, hrest⟩ := Outcome.bind_eq_ok.mp hrest
  cases hrest
  obtain ⟨path, hfield, hstored⟩ := exists_column_of_columnOf hcolumn
  rw [hagrees.path, hpath] at hfield
  obtain ⟨calls, answer⟩ := made
  injection hran with hcalls hanswer
  exact ⟨hcalls.symm,
    .intro hop (Registry.require_eq_ok_iff.mp hrequire) hfield hstored hanswer⟩

/-- The conditions of a group compile one by one. -/
theorem compares_of_conditions
    {key input : Value}
    {conditions : List Value}
    {cs : List Comparison}
    {builders : List (Builder φ)}
    {made : List (Made φ)}
    (h : ∀ condition ∈ conditions, IsComparison shape none condition)
    (hagree : List.Forall₂ Comparison.Agrees conditions cs)
    (hbuilders :
      (cs.map Comparison.toValue).mapM
        ((strategy registry callbacks table).condition key) = .ok builders)
    (hran : List.Forall₂ (fun builder => Ran (builder, input)) builders made) :
    made.flatMap Made.calls = [] ∧
      List.Forall₂
        (fun condition => Compares registry table none condition input)
        conditions (made.map Made.answer) := by
  rw [Outcome.mapM_eq_ok_iff, List.forall₂_map_left_iff] at hbuilders
  induction hagree generalizing builders made with
  | nil =>
      cases hbuilders
      cases hran
      exact ⟨rfl, .nil⟩
  | cons hfirst _ ih =>
      cases hbuilders with
      | cons hbuilder hbuilders =>
          cases hran with
          | cons hran hothers =>
              have hcomparison := h _ List.mem_cons_self
              obtain ⟨hcalls, hcompares⟩ :=
                compares_of_comparisonBuilder hcomparison hfirst
                  (hcomparison.path?_of_none key.text?) hbuilder hran
              obtain ⟨hnone, hall⟩ :=
                ih
                  (fun condition hmem =>
                    h condition (List.mem_cons_of_mem _ hmem))
                  hbuilders hothers
              refine ⟨?_, .cons hcompares hall⟩
              rw [List.flatMap_cons, hcalls, hnone, List.nil_append]

/-! ## Compiled entries -/

theorem groupBuilder_eq_ok
    {kind : Value}
    {k : Kind}
    {builders : List (Builder φ)}
    {builder : Builder φ}
    (hkind : kind.kind? = some k)
    (h : groupBuilder kind builders = .ok builder) :
    ∃ combine, joiner? k = some combine ∧
      builder = joinedBuilder combine builders := by
  unfold groupBuilder at h
  rw [hkind] at h
  cases k with
  | and =>
      cases h
      exact ⟨.all, rfl, rfl⟩
  | or =>
      cases h
      exact ⟨.any, rfl, rfl⟩
  | _ =>
      obtain ⟨failure, -, hfailure⟩ := Outcome.bind_eq_ok.mp h
      cases hfailure

/-- A group of builders runs all of them with its input, and joins
their answers. -/
theorem joinedBuilder_ran
    {combine : List (Condition φ) → Condition φ}
    {builders : List (Builder φ)}
    {input : Value}
    {made : Made φ}
    (h : Ran (joinedBuilder combine builders, input) made) :
    ∃ each,
      List.Forall₂ (fun builder => Ran (builder, input)) builders each ∧
      made.calls = each.flatMap Made.calls ∧
      Joins combine (each.map Made.answer) made.answer := by
  obtain ⟨calls, answer⟩ := made
  rcases hfragments :
      fragments (builders.map fun builder => (builder, input)) with
    ⟨trace, e | found⟩
  · simp only [Ran, joinedBuilder, hfragments] at h
    cases h
  · obtain ⟨each, hran, rfl, rfl⟩ := fragments_eq_ok_iff.mp hfragments
    simp only [Ran, joinedBuilder, hfragments] at h
    cases h
    refine ⟨each, (List.forall₂_map_left_iff).mp hran, ?_, joins_join combine _⟩
    exact List.append_nil _

/-- What is compiled of an entry makes of every input what the entry says. -/
theorem makes_of_compiles
    {entry : Value × Value}
    {named : Name × Builder φ}
    {input : Value}
    {made : Made φ}
    (h : IsEntry shape entry)
    (hcompiles : (strategy registry callbacks table).Compiles entry named)
    (hran : Ran (named.2, input) made) :
    Makes registry callbacks table entry input made := by
  obtain ⟨name, hkey, -, hfilter⟩ := h
  obtain ⟨f, hparse, hagrees⟩ :=
    Filter.exists_agrees hfilter hcompiles.isSettled
  obtain ⟨-, f', hparse', hbuilder⟩ := hcompiles
  rw [hparse] at hparse'
  cases hparse'
  cases hagrees with
  | custom same =>
      rw [← Except.ok.inj hbuilder] at hran
      obtain ⟨calls, answer⟩ := made
      injection hran with hcalls hanswer
      subst hcalls
      exact .callback same hanswer
  | comparison declared agrees =>
      rw [← hkey] at declared
      obtain ⟨hcalls, hcompares⟩ :=
        compares_of_comparisonBuilder declared agrees rfl hbuilder hran
      obtain ⟨calls, answer⟩ := made
      cases hcalls
      exact .comparison hcompares
  | group declared sameKind found nonempty each agree =>
      obtain ⟨builders, hbuilders, hgroup⟩ := Outcome.bind_eq_ok.mp hbuilder
      obtain ⟨combine, hjoint, hjoined⟩ := groupBuilder_eq_ok sameKind hgroup
      rw [hjoined] at hran
      obtain ⟨results, hresults, hcalls, hjoins⟩ := joinedBuilder_ran hran
      obtain ⟨hnone, hcompares⟩ :=
        compares_of_conditions each agree hbuilders hresults
      obtain ⟨calls, answer⟩ := made
      cases hcalls.trans hnone
      exact .group declared.1 hjoint found hcompares hjoins

end Sql

/-! ## Conditions of filters -/

namespace SqlFilter

open Sql

variable {φ : Type} {registry : Registry (ColumnBehaviour φ)}
variable {callbacks : TableCallbacks φ}
variable {table : Table} {raw : Value} {s : SqlFilter φ} {shape : Shape}

theorem condition_eq_join
    {given : Value}
    {inputs : List (Value × Value)}
    (h : given.inputs = .ok inputs) :
    s.condition given =
      (do
        return Condition.join .all
          (← fragments (Value.activeAmong s.builders inputs))) := by
  unfold condition
  rw [Value.isNone_of_inputs h, h]
  rfl

/-- The active builders of a definition are those of its active entries, in the
same order. -/
theorem makes_of_active
    {entries : List (Value × Value)}
    {builders : List (Name × Builder φ)}
    {inputs : List (Value × Value)}
    {made : List (Made φ)}
    (hentries : ∀ entry ∈ entries, IsEntry shape entry)
    (hcompiled :
      List.Forall₂ (strategy registry callbacks table).Compiles entries
        builders)
    (hran : List.Forall₂ Ran (Value.activeAmong builders inputs) made) :
    List.Forall₂
      (fun active => Makes registry callbacks table active.1 active.2)
      (activeEntries inputs entries) made := by
  induction hcompiled generalizing made with
  | nil =>
      cases hran
      exact .nil
  | @cons entry named entries builders hcompiles _ ih =>
      have hothers :=
        fun entry hmem => hentries entry (List.mem_cons_of_mem _ hmem)
      have hactive := MemoryFilter.active?_eq_given? hcompiles.name inputs
      unfold Value.activeAmong activeEntries at *
      rw [List.filterMap_cons] at hran ⊢
      rw [hactive] at hran
      cases hgiven : Interpretation.given? entry.1.text? inputs with
      | none =>
          rw [hgiven] at hran
          exact ih hothers hran
      | some input =>
          rw [hgiven] at hran
          cases hran with
          | cons hfirst hrest =>
              have hmakes :=
                makes_of_compiles (hentries entry List.mem_cons_self)
                  hcompiles hfirst
              exact .cons hmakes (ih hothers hrest)

/-- **A condition consists of what the active entries make.**  If no builder
fails, each active entry makes its part exactly once, in order; the condition
joins the parts that are there.  It is the same for all inputs that agree on the
names of the definition. -/
theorem condition_assembled
    (h : define registry callbacks table raw = .ok s) :
    ∃ entries, raw.entries? = some entries ∧
      (∀ (form : MappingForm) (inputs : List (Value × Value)),
        (∀ pair ∈ Value.activeAmong s.builders inputs,
          ∃ answer, (pair.1 pair.2).result = .ok answer) →
        ∃ made result,
          List.Forall₂ Ran (Value.activeAmong s.builders inputs) made ∧
          List.Forall₂
            (fun active => Makes registry callbacks table active.1 active.2)
            (activeEntries inputs entries) made ∧
          s.condition (.mapping form inputs) =
            ⟨made.flatMap Made.calls, .ok result⟩ ∧
          Joins .all (made.map Made.answer) result) ∧
      ∀ (form form' : MappingForm) (inputs inputs' : List (Value × Value)),
        (∀ entry ∈ entries,
          Interpretation.given? entry.1.text? inputs =
            Interpretation.given? entry.1.text? inputs') →
        s.condition (.mapping form inputs) =
          s.condition (.mapping form' inputs') := by
  obtain ⟨entries, d, builders, hentries, hs, hgrammar, hcompiled⟩ :=
    @Strategy.compiles_of_define _ _ (Sql.strategy registry callbacks table)
      (fun d builders => (⟨table, d, builders⟩ : SqlFilter φ)) raw table.shape
      (some table.name) s h
  subst hs
  refine ⟨entries, hentries, ?_, ?_⟩
  · intro form inputs hanswer
    obtain ⟨made, hran⟩ := exists_ran hanswer
    have hfragments := fragments_eq_ok_iff.mpr ⟨made, hran, rfl, rfl⟩
    refine ⟨made, _, hran, makes_of_active hgrammar hcompiled hran, ?_,
      joins_join .all _⟩
    rw [condition_eq_join rfl, hfragments, Traced.bind_ok]
    simp
  · intro form form' inputs inputs' hsame
    have hactive :
        Value.activeAmong builders inputs =
          Value.activeAmong builders inputs' := by
      refine MemoryFilter.activeAmong_congr fun named hmem => ?_
      obtain ⟨entry, hentry, hcompiles⟩ :=
        Outcome.forall₂_mem_right hcompiled hmem
      rw [MemoryFilter.active?_eq_given? hcompiles.name,
        MemoryFilter.active?_eq_given? hcompiles.name, hsame entry hentry]
    rw [condition_eq_join rfl, condition_eq_join rfl, hactive]

/-- A table of people. -/
def staff : Table :=
  .declared "staff" (.table none "staff") [
    ("age", "age", .integer),
    ("email", "email", .text)]

/-- Filters for people: a comparison under its own name, a group of two, and two
callbacks. -/
def staffFilters : Value :=
  .ofFields [
    ("age", .comparison (.kind .gt) .none (.bool false)),
    ("search", .ofFields [
      ("kind", .text "or"),
      ("conditions", .list [
        .comparison (.kind .contains) (.text "email") (.bool true),
        .comparison (.kind .eq) (.text "age") (.bool false)])]),
    ("known", .callback 0 "known" []),
    ("hidden", .callback 1 "hidden" [])]

/-- The first callback makes a condition, the other one makes none. -/
def staffCallbacks : TableCallbacks Fragment := fun callback _ input =>
  .ok (if callback.id = 0 then some (.constant input.truth) else none)

/-- Inputs in another order, with a missing age and a name that is not
declared. -/
def staffInputs : List (Value × Value) :=
  [(.text "hidden", .int 1), (.text "known", .int 2),
    (.text "search", .text "ann"), (.text "age", .none),
    (.text "other", .int 4)]

/-- Three builders run: the group and both callbacks, in the order of the
definition.  Their two conditions are joined.  Without the age and the unknown
name, nothing changes. -/
theorem staff_assembled :
    ∃ s, define Sql.defaultRegistry staffCallbacks staff staffFilters = .ok s ∧
      ∃ made : List (Made Fragment), made.length = 3 ∧
        made.flatMap Made.calls =
          [⟨⟨0, "known", []⟩, staff, .int 2⟩,
            ⟨⟨1, "hidden", []⟩, staff, .int 1⟩] ∧
        s.condition (.mapping .plain staffInputs) =
          ⟨made.flatMap Made.calls, .ok (some (.all [
            .any [
              .leaf (.like ⟨"email", .table none "staff", "email", .text⟩
                .insideAnyCase "ann"),
              .leaf (.compare ⟨"age", .table none "staff", "age", .integer⟩ .eq
                (.text "ann"))],
            .constant true]))⟩ ∧
        s.condition (.mapping .proxy (staffInputs.take 3)) =
          s.condition (.mapping .plain staffInputs) := by
  refine ⟨_, rfl, ?_⟩
  obtain ⟨entries, hentries, hassembled, hsame⟩ :=
    @condition_assembled _ Sql.defaultRegistry staffCallbacks staff
      staffFilters _ rfl
  cases hentries
  obtain ⟨made, result, hran, -, hcondition, -⟩ := hassembled .plain staffInputs
    (List.forall_mem_cons.mpr ⟨⟨_, rfl⟩,
      List.forall_mem_cons.mpr
        ⟨⟨_, rfl⟩, List.forall_mem_singleton.mpr ⟨_, rfl⟩⟩⟩)
  have hresult := congrArg Traced.result hcondition
  cases hresult
  refine ⟨made, hran.length_eq.symm, (congrArg Traced.trace hcondition).symm,
    hcondition, ?_⟩
  exact hsame .proxy .plain _ _
    (List.forall_mem_cons.mpr ⟨rfl, List.forall_mem_cons.mpr ⟨rfl,
      List.forall_mem_cons.mpr ⟨rfl, List.forall_mem_singleton.mpr rfl⟩⟩⟩)

end SqlFilter
end RecordFilter
