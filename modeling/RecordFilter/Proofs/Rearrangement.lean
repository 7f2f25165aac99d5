import RecordFilter.Proofs.Conditions
import RecordFilter.Proofs.Searching
import Mathlib.Data.List.Perm.Basic

/-!
# Definitions in another order

This module puts the entries of a definition, and the conditions of its groups,
in another order.

**Acceptance.**  Entries and conditions are checked one by one, so the
rearranged definition is accepted as well.

**Answers.**  A checker of a rearranged group may fail where the other one
does not, as it stops at other conditions.  Where both give an answer, they
give the same one.

**Results.**
* `MemoryFilter.exists_define_of_rearranges`: a rearranged
  definition is accepted.
* `Rearranged.answers_eq`: the checkers of an entry agree in both definitions.
-/

namespace RecordFilter

open Grammar

/-! ## Rearranged groups and definitions -/

/-- Two groups of one kind with the same conditions in different orders. -/
structure Reordered (k : Kind) (conditions conditions' : List Value)
    (raw raw' : Value) : Prop where
  groups : k.isGroup = true
  kind : Declared.kind? raw = some k
  kind' : Declared.kind? raw' = some k
  found : Declared.conditions? raw = some conditions
  found' : Declared.conditions? raw' = some conditions'
  order : conditions.Perm conditions'
  settled : Filter.isSettled raw' = Filter.isSettled raw

/-- An entry that is left as it is, or that is a group whose conditions are
reordered. -/
structure Rearranged (entry entry' : Value × Value) : Prop where
  key : entry'.1 = entry.1
  filter : entry'.2 = entry.2 ∨
    ∃ k conditions conditions',
      Reordered k conditions conditions' entry.2 entry'.2

/-- Rearranged entries, in another order. -/
def Rearranges (entries entries' : List (Value × Value)) : Prop :=
  ∃ between, List.Forall₂ Rearranged entries between ∧ between.Perm entries'

theorem Reordered.of_values
    {k : Kind}
    {kind : Value}
    {conditions conditions' : List Value}
    (hgroups : k.isGroup = true)
    (hkind : kind.kind? = some k)
    (horder : conditions.Perm conditions') :
    Reordered k conditions conditions' (.group kind conditions)
      (.group kind conditions') where
  groups := hgroups
  kind := hkind
  kind' := hkind
  found := rfl
  found' := rfl
  order := horder
  settled := horder.symm.all_eq

namespace Rearranges

variable {entries entries' : List (Value × Value)}

theorem exists_right
    (h : Rearranges entries entries')
    {entry : Value × Value}
    (hmem : entry ∈ entries) :
    ∃ entry' ∈ entries', Rearranged entry entry' := by
  obtain ⟨between, heach, horder⟩ := h
  obtain ⟨entry', hmem', hentry⟩ := Outcome.forall₂_mem_left heach hmem
  exact ⟨entry', horder.mem_iff.mp hmem', hentry⟩

theorem exists_left
    (h : Rearranges entries entries')
    {entry' : Value × Value}
    (hmem : entry' ∈ entries') :
    ∃ entry ∈ entries, Rearranged entry entry' := by
  obtain ⟨between, heach, horder⟩ := h
  exact Outcome.forall₂_mem_right heach (horder.mem_iff.mpr hmem)

end Rearranges

/-! ## Checkers of groups -/

namespace Memory

/-- The checker of a group of a kind. -/
def gathered (k : Kind) (checkers : List Checker) : Checker :=
  fun record input =>
  match k with
  | .or => someAccepts record input checkers
  | _ => allAccept record input checkers

theorem groupChecker_eq_gathered
    {k : Kind}
    {kind : Value}
    (hkind : kind.kind? = some k)
    (hgroups : k.isGroup = true)
    (checkers : List Checker) :
    groupChecker kind checkers = .ok (gathered k checkers) := by
  unfold groupChecker gathered
  rw [hkind]
  cases k with
  | and | or => rfl
  | _ => cases hgroups

variable {k : Kind} {checkers checkers' : List Checker} {record input : Value}

theorem gathered_asksWhile
    (k : Kind)
    (record input : Value) :
    Search.AsksWhile (fun checker => checker record input) (k != .or)
      fun checkers => gathered k checkers record input := by
  cases k with
  | or => exact someAccepts_asksWhile record input
  | _ => exact allAccept_asksWhile record input

/-- Where no condition fails, a group does not fail. -/
theorem exists_gathered_answer
    (h : ∀ checker ∈ checkers, ∃ b, (checker record input).result = .ok b) :
    ∃ b, (gathered k checkers record input).result = .ok b :=
  ⟨_, (gathered_asksWhile k record input).endsAt.result fun checker hmem =>
    Search.result_eq_answers (h checker hmem)⟩

/-- Where a group answers with its conditions in two orders, the answers
are the same. -/
theorem gathered_answers_eq
    {b b' : Bool}
    (horder : checkers.Perm checkers')
    (h : (gathered k checkers record input).result = .ok b)
    (h' : (gathered k checkers' record input).result = .ok b') :
    b = b' :=
  (gathered_asksWhile k record input).answers_eq horder h h'

end Memory

/-! ## What a reordered group compiles to -/

namespace Reordered

variable {k : Kind} {conditions conditions' : List Value} {raw raw' key : Value}
variable {shape : Shape} {name : String}

/-- A reordered group of an accepted definition has conditions, which all name
their fields. -/
theorem isGroup
    (h : Reordered k conditions conditions' raw raw')
    (hfilter : IsFilter shape name raw) :
    conditions ≠ [] ∧
    ∀ condition ∈ conditions, IsComparison shape none condition := by
  cases hfilter with
  | custom hcallback =>
      have hkind := h.kind
      cases raw with
      | callback => cases hkind
      | _ => cases hcallback
  | comparison hcomparison =>
      have hcompares := hcomparison.isGroup_eq_false h.kind
      rw [h.groups] at hcompares
      cases hcompares
  | group hgroup =>
      obtain ⟨found, hfound, hne, heach⟩ := hgroup.conditions
      rw [h.found] at hfound
      cases hfound
      exact ⟨hne, heach⟩

theorem entryViolations_iff
    (h : Reordered k conditions conditions' raw raw')
    {name : Name}
    (hname : key.name? = some name)
    (hne : name.content ≠ "")
    (hconditions : conditions ≠ [])
    (scope : Validation.Scope) :
    Validation.entryViolations scope (key, raw') = .ok [] ↔
      Validation.entryViolations scope (key, raw) = .ok [] := by
  have hconditions' : conditions' ≠ [] := fun hnil =>
    hconditions (List.perm_nil.mp (hnil ▸ h.order))
  rw [Validation.entryViolations_of_isGroup hname hne h.kind h.groups h.found
    hconditions,
    Validation.entryViolations_of_isGroup hname hne h.kind' h.groups h.found'
      hconditions']
  simp only [h.order.mem_iff]

variable {registry : Registry MemoryBehaviour} {callbacks : Callbacks}
variable {named : Name × Checker}

/-- A settled group compiles to its gathered conditions. -/
theorem compiles_iff
    (hgroups : k.isGroup = true)
    (hkind : Declared.kind? raw = some k)
    (hfound : Declared.conditions? raw = some conditions)
    (hsettled : Filter.isSettled raw = true)
    (heach : ∀ condition ∈ conditions, IsComparison shape none condition) :
    (Memory.strategy registry callbacks).Compiles (key, raw) named ↔
      key.name? = some named.1 ∧
        ∃ checkers,
          List.Forall₂ (Memory.strategy registry callbacks).CompilesAlone
            conditions checkers ∧
            named.2 = Memory.gathered k checkers := by
  obtain ⟨kind, hk, hcompiles⟩ :=
    Strategy.compiles_iff_of_group (s := Memory.strategy registry callbacks)
      hkind hgroups hfound hsettled
      fun condition hmem =>
        ⟨(heach condition hmem).isComparison,
          (heach condition hmem).field?_isSome⟩
  rw [hcompiles]
  refine and_congr_right fun _ => exists_congr fun checkers =>
    and_congr_right fun _ => ?_
  change Memory.groupChecker kind checkers = _ ↔ _
  rw [Memory.groupChecker_eq_gathered hk hgroups]
  exact ⟨fun heq => (Except.ok.inj heq).symm,
    fun heq => congrArg Except.ok heq.symm⟩

end Reordered

/-- What a condition of a group compiles to. -/
def Strategy.ConditionOf
    {γ : Type}
    (s : Strategy γ)
    (raw : Value)
    (checker : γ) : Prop :=
  ∃ k conditions, Declared.kind? raw = some k ∧ k.isGroup = true ∧
    Declared.conditions? raw = some conditions ∧
      ∃ condition ∈ conditions, s.CompilesAlone condition checker

/-- One checker, or groups of the same conditions in different orders. -/
def Memory.Rearranged (s : Strategy Checker) (raw : Value)
    (checker checker' : Checker) : Prop :=
  checker' = checker ∨
    ∃ k checkers checkers',
      checker = gathered k checkers ∧ checker' = gathered k checkers' ∧
        checkers.Perm checkers' ∧
        ∀ condition ∈ checkers, s.ConditionOf raw condition

namespace Memory.Rearranged

variable {s : Strategy Checker} {raw record input : Value}
variable {checker checker' : Checker}

theorem answers_eq
    {b b' : Bool}
    (h : Memory.Rearranged s raw checker checker')
    (hb : (checker record input).result = .ok b)
    (hb' : (checker' record input).result = .ok b') :
    b = b' := by
  rcases h with rfl | ⟨k, checkers, checkers', rfl, rfl, horder, -⟩
  · exact Except.ok.inj (hb.symm.trans hb')
  · exact gathered_answers_eq horder hb hb'

/-- Where no condition fails, the conditions can be asked in any order. -/
theorem exists_answer
    (h : Memory.Rearranged s raw checker checker')
    (hanswer : ∃ b, (checker record input).result = .ok b)
    (hconditions : ∀ condition, s.ConditionOf raw condition →
      ∃ b, (condition record input).result = .ok b) :
    ∃ b, (checker' record input).result = .ok b := by
  rcases h with rfl | ⟨k, checkers, checkers', rfl, rfl, horder, heach⟩
  · exact hanswer
  · exact exists_gathered_answer fun condition hmem =>
      hconditions condition (heach condition (horder.mem_iff.mpr hmem))

end Memory.Rearranged

namespace Rearranged

variable {registry : Registry MemoryBehaviour} {callbacks : Callbacks}
variable {shape : Shape}
variable {entry entry' : Value × Value} {named named' : Name × Checker}

theorem entryViolations_iff
    (h : Rearranged entry entry')
    (hentry : IsEntry shape entry)
    (scope : Validation.Scope) :
    Validation.entryViolations scope entry' = .ok [] ↔
      Validation.entryViolations scope entry = .ok [] := by
  obtain ⟨key, raw⟩ := entry
  obtain ⟨key', raw'⟩ := entry'
  obtain ⟨rfl, rfl | ⟨k, conditions, conditions', hgroup⟩⟩ := h
  · rfl
  · obtain ⟨text, hkey, hne, hfilter⟩ := hentry
    obtain ⟨name, hname, rfl⟩ := Option.map_eq_some_iff.mp hkey
    exact hgroup.entryViolations_iff hname hne (hgroup.isGroup hfilter).1 scope

/-- A rearranged entry compiles as well, to checkers in the order of its
conditions. -/
theorem exists_compiles
    (h : Rearranged entry entry')
    (hentry : IsEntry shape entry)
    (hcompiles : (Memory.strategy registry callbacks).Compiles entry named) :
    ∃ checker,
      (Memory.strategy registry callbacks).Compiles entry' (named.1, checker) ∧
        Memory.Rearranged (Memory.strategy registry callbacks) entry.2 named.2
          checker := by
  obtain ⟨key, raw⟩ := entry
  obtain ⟨key', raw'⟩ := entry'
  obtain ⟨rfl, rfl | ⟨k, conditions, conditions', hgroup⟩⟩ := h
  · exact ⟨named.2, hcompiles, Or.inl rfl⟩
  · obtain ⟨text, hkey, hne, hfilter⟩ := hentry
    obtain ⟨-, heach⟩ := hgroup.isGroup hfilter
    have hsettled := hcompiles.isSettled
    have heach' :
        ∀ condition ∈ conditions', IsComparison shape none condition :=
      fun condition hmem => heach condition (hgroup.order.mem_iff.mpr hmem)
    obtain ⟨hname, checkers, hcheckers, hnamed⟩ :=
      (Reordered.compiles_iff hgroup.groups hgroup.kind hgroup.found hsettled
        heach).mp hcompiles
    obtain ⟨checkers', hcheckers', horder⟩ :=
      List.perm_comp_forall₂ hgroup.order.symm hcheckers
    refine ⟨Memory.gathered k checkers', ?_,
      Or.inr ⟨k, checkers, checkers', hnamed, rfl, horder.symm,
        fun condition hmem => ?_⟩⟩
    · exact (Reordered.compiles_iff hgroup.groups hgroup.kind' hgroup.found'
        (hgroup.settled.trans hsettled) heach').mpr
        ⟨hname, checkers', hcheckers', rfl⟩
    · obtain ⟨raw, hraw, halone⟩ := Outcome.forall₂_mem_right hcheckers hmem
      exact ⟨k, conditions, hgroup.kind, hgroup.groups, hgroup.found, raw, hraw,
        halone⟩

end Rearranged

/-! ## Acceptance -/

namespace MemoryFilter

variable {registry : Registry MemoryBehaviour} {callbacks : Callbacks}
variable {shape : Shape}
variable {raw raw' : Value} {entries entries' : List (Value × Value)}

/-- A definition is accepted exactly if it has no violations and each entry
compiles. -/
theorem exists_define_iff
    (hentries : raw.entries? = some entries) :
    (∃ f, define registry callbacks shape raw = .ok f) ↔
      Validation.violations raw shape none = .ok [] ∧
        ∃ checkers,
          List.Forall₂ (Memory.strategy registry callbacks).Compiles entries
            checkers :=
  @Strategy.exists_define_iff _ (Memory.strategy registry callbacks) raw _
    (MemoryFilter.mk shape) shape none entries hentries

/-- **A rearranged definition is accepted.** -/
theorem exists_define_of_rearranges
    {f : MemoryFilter}
    (hentries : raw.entries? = some entries)
    (hentries' : raw'.entries? = some entries')
    (h : define registry callbacks shape raw = .ok f)
    (hrearranges : Rearranges entries entries') :
    ∃ f', define registry callbacks shape raw' = .ok f' := by
  have hgrammar := isEntry_of_define hentries h
  obtain ⟨hvalid, checkers, hcompiled⟩ := (exists_define_iff hentries).mp ⟨f, h⟩
  obtain ⟨fields, hfields, heach⟩ :=
    (Validation.violations_eq_ok_nil_iff hentries).mp hvalid
  refine (exists_define_iff hentries').mpr
    ⟨(Validation.violations_eq_ok_nil_iff hentries').mpr ⟨fields, hfields, ?_⟩,
      ?_⟩
  · intro entry' hmem'
    obtain ⟨entry, hmem, hentry⟩ := hrearranges.exists_left hmem'
    exact (hentry.entryViolations_iff (hgrammar entry hmem) _).mpr
      (heach entry hmem)
  · refine Outcome.exists_forall₂ fun entry' hmem' => ?_
    obtain ⟨entry, hmem, hentry⟩ := hrearranges.exists_left hmem'
    obtain ⟨named, -, hnamed⟩ := Outcome.forall₂_mem_left hcompiled hmem
    obtain ⟨checker, hchecker, -⟩ :=
      hentry.exists_compiles (hgrammar entry hmem) hnamed
    exact ⟨_, hchecker⟩

end MemoryFilter
end RecordFilter
