import RecordFilter.Proofs.Conditions

/-!
# Conjunctions as separate entries

This module shows that a group of the kind `and` does what its conditions do as
entries of their own, at any place of a definition and for both backends.

**Setting.**  One definition has the group under a key.  Another one has in its
place an entry for each condition, under any keys.  The input of the group is
the input of each of these entries, and all other entries have the same inputs
in both cases.

**In memory.**  The two predicates are the same: with the same answers and
failures, and with the same calls of callbacks.

**On tables.**  The group joins its conditions before the entries are joined.
Once conjunctions inside of conjunctions are spread out, the same conditions
stand there in the same order.

**Main result.**
* `group_separated`: one definition is accepted exactly if the other one is, and
  then they agree.
-/

namespace RecordFilter

open Grammar

/-! ## Active entries -/

theorem Value.activeAmong_append
    {γ : Type}
    (named named' : List (Name × γ))
    (inputs : List (Value × Value)) :
    Value.activeAmong (named ++ named') inputs =
      Value.activeAmong named inputs ++ Value.activeAmong named' inputs := by
  exact List.filterMap_append

namespace Strategy

variable {γ : Type} {s : Strategy γ} {entries : List (Value × Value)}
variable {compiled : List (Name × γ)} {inputs : List (Value × Value)}

theorem activeAmong_of_given
    {v : Value}
    (hcompiled : List.Forall₂ s.Compiles entries compiled)
    (h :
      ∀ entry ∈ entries, Interpretation.given? entry.1.text? inputs = some v) :
    Value.activeAmong compiled inputs = (compiled.map (·.2)).map (·, v) := by
  induction hcompiled with
  | nil => rfl
  | @cons entry named entries compiled hcompiles _ ih =>
      have hactive := MemoryFilter.active?_eq_given? hcompiles.name inputs
      rw [h entry List.mem_cons_self] at hactive
      have hrest :=
        ih fun other hmem => h other (List.mem_cons_of_mem entry hmem)
      unfold Value.activeAmong at hrest ⊢
      rw [List.filterMap_cons, hactive, hrest]
      rfl

theorem activeAmong_of_same
    {inputs' : List (Value × Value)}
    (hcompiled : List.Forall₂ s.Compiles entries compiled)
    (h : ∀ entry ∈ entries,
      Interpretation.given? entry.1.text? inputs =
        Interpretation.given? entry.1.text? inputs') :
    Value.activeAmong compiled inputs = Value.activeAmong compiled inputs' := by
  refine MemoryFilter.activeAmong_congr fun named hmem => ?_
  obtain ⟨entry, hentry, hcompiles⟩ := Outcome.forall₂_mem_right hcompiled hmem
  rw [MemoryFilter.active?_eq_given? hcompiles.name,
    MemoryFilter.active?_eq_given? hcompiles.name, h entry hentry]

end Strategy

/-! ## Separate entries -/

/-- A conjunction under a key, and entries of their own for its conditions,
which are comparisons that name their fields. -/
structure Separates (key group : Value) (separate : List (Value × Value)) :
    Prop where
  kind : Declared.kind? group = some .and
  conditions : Declared.conditions? group = some (separate.map (·.2))
  settled : Filter.isSettled group = true
  nonempty : separate ≠ []
  name : ∃ name, key.name? = some name ∧ name.content ≠ ""
  names :
    ∀ entry ∈ separate, ∃ name, entry.1.name? = some name ∧ name.content ≠ ""
  comparisons : ∀ entry ∈ separate,
    Declared.isComparison entry.2 = true ∧
    (Declared.field? entry.2).isSome = true

/-- The group has an input in one mapping, which each separate entry has in the
other one.  The other entries have the same inputs in both. -/
structure SharesInput (v key : Value) (separate others : List (Value × Value))
    (inputs inputs' : List (Value × Value)) : Prop where
  group : Interpretation.given? key.text? inputs = some v
  each :
    ∀ entry ∈ separate, Interpretation.given? entry.1.text? inputs' = some v
  others : ∀ entry ∈ others,
    Interpretation.given? entry.1.text? inputs =
      Interpretation.given? entry.1.text? inputs'

/-- Groups of the kind `and` are combined in one way. -/
def Strategy.Conjoins {γ : Type} (s : Strategy γ) (conjoin : List γ → γ) :
    Prop :=
  ∀ kind checkers, kind.kind? = some .and →
    s.combine kind checkers = .ok (conjoin checkers)

namespace Separates

variable {key group raw raw' : Value}
variable {separate before after : List (Value × Value)}

theorem comparisons_of_mem
    (h : Separates key group separate) :
    ∀ condition ∈ separate.map (·.2),
      Declared.isComparison condition = true ∧
      (Declared.field? condition).isSome = true := by
  intro condition hmem
  obtain ⟨entry, hentry, rfl⟩ := List.mem_map.mp hmem
  exact h.comparisons entry hentry

/-! ## Validation -/

/-- The group passes exactly if the separate entries do. -/
theorem entryViolations_iff
    (h : Separates key group separate)
    (scope : Validation.Scope) :
    Validation.entryViolations scope (key, group) = .ok [] ↔
      ∀ entry ∈ separate, Validation.entryViolations scope entry = .ok [] := by
  obtain ⟨name, hname, hne⟩ := h.name
  have hconditions : separate.map (·.2) ≠ [] := by
    simpa using h.nonempty
  rw [Validation.entryViolations_of_isGroup hname hne h.kind rfl h.conditions
    hconditions,
    List.forall_mem_map]
  refine forall₂_congr fun entry hmem => ?_
  obtain ⟨name', hname', hne'⟩ := h.names entry hmem
  obtain ⟨hcomparison, hfield⟩ := h.comparisons entry hmem
  exact (Validation.entryViolations_of_isComparison hname' hne' hcomparison
    hfield).symm

theorem violations_iff
    (h : Separates key group separate)
    (hraw : raw.entries? = some (before ++ (key, group) :: after))
    (hraw' : raw'.entries? = some (before ++ (separate ++ after)))
    (shape : Shape)
    (owner : Option String) :
    Validation.violations raw shape owner = .ok [] ↔
      Validation.violations raw' shape owner = .ok [] := by
  simp only [Validation.violations_eq_ok_nil_iff hraw,
    Validation.violations_eq_ok_nil_iff hraw', List.forall_mem_append,
    List.forall_mem_cons, h.entryViolations_iff]

/-! ## Compiling -/

section Compiling

variable {γ : Type} {s : Strategy γ} {conjoin : List γ → γ}

/-- The separate entries compile to what the conditions of the group
compile to. -/
theorem compilesAlone_of_parts
    (h : Separates key group separate)
    {parts : List (Name × γ)}
    (hparts : List.Forall₂ s.Compiles separate parts) :
    List.Forall₂ s.CompilesAlone (separate.map (·.2)) (parts.map (·.2)) := by
  rw [List.forall₂_map_left_iff, List.forall₂_map_right_iff]
  have hboth :=
    (List.forall₂_and_left separate parts).mpr ⟨h.comparisons, hparts⟩
  refine hboth.imp ?_
  rintro ⟨key', condition⟩ named ⟨⟨hcomparison, hfield⟩, hcompiles⟩
  exact ((Strategy.compiles_iff_of_comparison hcomparison hfield).mp
    hcompiles).2

theorem exists_parts
    (h : Separates key group separate)
    {checkers : List γ}
    (hcheckers : List.Forall₂ s.CompilesAlone (separate.map (·.2)) checkers) :
    ∃ parts, List.Forall₂ s.Compiles separate parts := by
  refine Outcome.exists_forall₂ fun entry hmem => ?_
  obtain ⟨name, hname, -⟩ := h.names entry hmem
  obtain ⟨hcomparison, hfield⟩ := h.comparisons entry hmem
  obtain ⟨checker, -, hchecker⟩ :=
    Outcome.forall₂_mem_left hcheckers (List.mem_map_of_mem hmem)
  exact ⟨(name, checker),
    (Strategy.compiles_iff_of_comparison hcomparison hfield).mpr
      ⟨hname, hchecker⟩⟩

/-- With the separate entries, the group compiles to the conjunction of their
checkers. -/
theorem compiles_group_iff
    (h : Separates key group separate)
    (hs : s.Conjoins conjoin)
    {parts : List (Name × γ)}
    (hparts : List.Forall₂ s.Compiles separate parts)
    {named : Name × γ} :
    s.Compiles (key, group) named ↔
      key.name? = some named.1 ∧ conjoin (parts.map (·.2)) = named.2 := by
  have halone := h.compilesAlone_of_parts hparts
  obtain ⟨kind, hkind, hgroup⟩ :=
    Strategy.compiles_iff_of_group (s := s) h.kind rfl h.conditions h.settled
      h.comparisons_of_mem
  rw [hgroup]
  refine and_congr_right fun _ => ?_
  constructor
  · rintro ⟨checkers, hcheckers, hcombine⟩
    rw [hs kind checkers hkind] at hcombine
    rw [Strategy.CompilesAlone.unique_list halone hcheckers]
    exact Except.ok.inj hcombine
  · intro hnamed
    exact ⟨_, halone, (hs kind _ hkind).trans (congrArg Except.ok hnamed)⟩

theorem exists_compiled_iff
    (h : Separates key group separate)
    (hs : s.Conjoins conjoin) :
    (∃ compiled, List.Forall₂ s.Compiles (before ++ (key, group) :: after)
      compiled) ↔
      ∃ compiled, List.Forall₂ s.Compiles (before ++ (separate ++ after))
        compiled := by
  simp only [Outcome.forall₂_append_iff, List.forall₂_cons_left_iff]
  constructor
  · rintro ⟨_, front, _, rfl, hfront, named, back, hnamed, hback, rfl⟩
    obtain ⟨kind, hkind, hgroup⟩ :=
      Strategy.compiles_iff_of_group (s := s) h.kind rfl h.conditions h.settled
        h.comparisons_of_mem
    obtain ⟨-, checkers, hcheckers, -⟩ := hgroup.mp hnamed
    obtain ⟨parts, hparts⟩ := h.exists_parts hcheckers
    exact ⟨_, front, _, rfl, hfront, parts, back, rfl, hparts, hback⟩
  · rintro ⟨_, front, _, rfl, hfront, parts, back, rfl, hparts, hback⟩
    obtain ⟨name, hname, -⟩ := h.name
    exact ⟨_, front, _, rfl, hfront, (name, conjoin (parts.map (·.2))), back,
      (h.compiles_group_iff hs hparts).mpr ⟨hname, rfl⟩, hback, rfl⟩

/-- What is active differs in one place: the conjunction stands
for its parts. -/
theorem exists_active
    (h : Separates key group separate)
    (hs : s.Conjoins conjoin)
    {v : Value}
    {inputs inputs' : List (Value × Value)}
    (hshared : SharesInput v key separate (before ++ after) inputs inputs')
    {compiled compiled' : List (Name × γ)}
    (hcompiled :
      List.Forall₂ s.Compiles (before ++ (key, group) :: after) compiled)
    (hcompiled' :
      List.Forall₂ s.Compiles (before ++ (separate ++ after)) compiled') :
    ∃ front checkers back,
      Value.activeAmong compiled inputs =
        front ++ (conjoin checkers, v) :: back ∧
      Value.activeAmong compiled' inputs' =
        front ++ (checkers.map (·, v) ++ back) := by
  obtain ⟨front, _, rfl, hfront, hrest⟩ :=
    Outcome.forall₂_append_iff.mp hcompiled
  obtain ⟨named, back, hnamed, hback, rfl⟩ :=
    List.forall₂_cons_left_iff.mp hrest
  obtain ⟨front', _, rfl, hfront', hrest'⟩ :=
    Outcome.forall₂_append_iff.mp hcompiled'
  obtain ⟨parts, back', rfl, hparts, hback'⟩ :=
    Outcome.forall₂_append_iff.mp hrest'
  cases Strategy.Compiles.unique_list hfront hfront'
  cases Strategy.Compiles.unique_list hback hback'
  obtain ⟨hname, hchecker⟩ := (h.compiles_group_iff hs hparts).mp hnamed
  have hothers := List.forall_mem_append.mp hshared.others
  have hgroup :
      Value.activeAmong [named] inputs = [(conjoin (parts.map (·.2)), v)] := by
    have hgiven :
        ∀ entry ∈ [(key, group)],
          Interpretation.given? entry.1.text? inputs = some v := by
      rw [List.forall_mem_singleton]
      exact hshared.group
    rw [Strategy.activeAmong_of_given (.cons hnamed .nil) hgiven, hchecker]
    rfl
  refine ⟨Value.activeAmong front inputs, parts.map (·.2),
    Value.activeAmong back inputs, ?_, ?_⟩
  · rw [Value.activeAmong_append, ← List.singleton_append,
      Value.activeAmong_append, hgroup]
    rfl
  · rw [Value.activeAmong_append, Value.activeAmong_append,
      Strategy.activeAmong_of_given hparts hshared.each,
      Strategy.activeAmong_of_same hfront hothers.1,
      Strategy.activeAmong_of_same hback hothers.2]

/-- One definition is accepted exactly if the other one is. -/
theorem exists_define_iff
    (h : Separates key group separate)
    (hs : s.Conjoins conjoin)
    (hraw : raw.entries? = some (before ++ (key, group) :: after))
    (hraw' : raw'.entries? = some (before ++ (separate ++ after)))
    {δ : Type}
    (build : Definition → List (Name × γ) → δ)
    (shape : Shape)
    (owner : Option String) :
    (∃ result,
      (do
        Validation.ensure raw shape owner
        let d ← Definition.parse raw
        let compiled ← s.definition d
        return build d compiled) = Except.ok result) ↔
      ∃ result,
        (do
          Validation.ensure raw' shape owner
          let d ← Definition.parse raw'
          let compiled ← s.definition d
          return build d compiled) = Except.ok result := by
  rw [Strategy.exists_define_iff hraw, Strategy.exists_define_iff hraw',
    h.violations_iff hraw hraw' shape owner, h.exists_compiled_iff hs]

end Compiling
end Separates

/-! ## Predicates -/

namespace Memory

/-- The checker of a conjunction. -/
def conjoined (checkers : List Checker) : Checker :=
  fun record input => allAccept record input checkers

theorem conjoins
    (registry : Registry MemoryBehaviour)
    (callbacks : Callbacks) :
    (strategy registry callbacks).Conjoins conjoined := by
  intro kind checkers hkind
  change groupChecker kind checkers = _
  unfold groupChecker
  rw [hkind]
  rfl

end Memory

namespace MemoryFilter

/-- A run over two lists of checkers goes on with the second one if the first
one accepts. -/
theorem passes_append
    (record : Value)
    (active active' : List (Checker × Value)) :
    passes record (active ++ active') =
      (do
        if ← passes record active then passes record active'
        else return false) := by
  induction active with
  | nil => rfl
  | cons pair rest ih =>
      simp only [List.cons_append, passes, ih, bind_assoc]
      refine congrArg (pair.1 record pair.2 >>= ·) (funext fun b => ?_)
      cases b <;> rfl

/-- Checkers with one input are run as the checker of their conjunction. -/
theorem passes_shared
    (record v : Value)
    (checkers : List Checker) :
    passes record (checkers.map (·, v)) =
      Memory.allAccept record v checkers := by
  induction checkers with
  | nil => rfl
  | cons checker rest ih => rw [List.map_cons, passes, ih, Memory.allAccept]

theorem passes_conjoined
    (record v : Value)
    (checkers : List Checker)
    (front back : List (Checker × Value)) :
    passes record (front ++ (Memory.conjoined checkers, v) :: back) =
      passes record (front ++ (checkers.map (·, v) ++ back)) := by
  rw [passes_append, passes_append, passes_append, passes_shared]
  rfl

end MemoryFilter

/-! ## Conditions on tables -/

namespace Sql

variable {φ : Type}

namespace Condition

mutual

/-- What a condition is a conjunction of, with conjunctions inside of it
spread out. -/
def flattened (c : Condition φ) : List (Condition φ) :=
  match c with
  | .all members => flattenedAll members
  | .leaf f => [.leaf f]
  | .constant b => [.constant b]
  | .any members => [.any members]
termination_by structural c

/-- What conditions are conjunctions of, one after the other. -/
def flattenedAll (cs : List (Condition φ)) : List (Condition φ) :=
  match cs with
  | [] => []
  | c :: rest => flattened c ++ flattenedAll rest
termination_by structural cs

end

theorem flattenedAll_eq_flatMap
    (cs : List (Condition φ)) :
    flattenedAll cs = cs.flatMap flattened := by
  induction cs with
  | nil => rfl
  | cons c rest ih => rw [flattenedAll, ih, List.flatMap_cons]

/-- A joined conjunction consists of what its members consist of. -/
theorem map_flattened_join
    (cs : List (Condition φ)) :
    (join .all cs).map flattened =
      if cs = [] then none else some (cs.flatMap flattened) := by
  match cs with
  | [] => rfl
  | [c] => simp [join]
  | c :: other :: rest =>
      rw [if_neg (List.cons_ne_nil _ _), ← flattenedAll_eq_flatMap]
      rfl

theorem join_eq_none_iff
    {combine : List (Condition φ) → Condition φ}
    {cs : List (Condition φ)} :
    join combine cs = none ↔ cs = [] := by
  match cs with
  | [] => exact iff_of_true rfl rfl
  | [c] => exact iff_of_false nofun nofun
  | c :: other :: rest => exact iff_of_false nofun nofun

/-- Conditions that are joined beforehand stay the same conditions of the
conjunction. -/
theorem flattened_join_join
    (front cs back : List (Condition φ)) :
    (join .all (front ++ ((join .all cs).toList ++ back))).map flattened =
      (join .all (front ++ (cs ++ back))).map flattened := by
  have hinner :
      (join .all cs).toList.flatMap flattened = cs.flatMap flattened := by
    have hflat := map_flattened_join cs
    cases hjoin : join .all cs with
    | none => rw [join_eq_none_iff.mp hjoin]; rfl
    | some c =>
        have hne : cs ≠ [] :=
          fun hnil => by rw [join_eq_none_iff.mpr hnil] at hjoin; cases hjoin
        rw [hjoin, if_neg hne] at hflat
        simpa using Option.some.inj hflat
  have hempty : (join .all cs).toList = [] ↔ cs = [] := by
    rw [Option.toList_eq_nil_iff, join_eq_none_iff]
  simp only [map_flattened_join, List.append_eq_nil_iff, List.flatMap_append,
    hempty, hinner]

end Condition

theorem conjoins
    (registry : Registry (ColumnBehaviour φ))
    (callbacks : TableCallbacks φ)
    (table : Table) :
    (strategy registry callbacks table).Conjoins (joinedBuilder .all) := by
  intro kind builders hkind
  change groupBuilder kind builders = _
  unfold groupBuilder
  rw [hkind]

theorem fragments_append
    (pairs pairs' : List (Builder φ × Value)) :
    fragments (pairs ++ pairs') =
      (do return (← fragments pairs) ++ (← fragments pairs')) := by
  induction pairs with
  | nil => simp only [List.nil_append, fragments, pure_bind, bind_pure]
  | cons pair rest ih =>
      simp only [List.cons_append, fragments, ih, bind_assoc, pure_bind,
        List.append_assoc]

/-- A builder of a conjunction adds what its builders add, once the conditions
are flattened. -/
theorem flattened_conjoined
    (v : Value)
    (builders : List (Builder φ))
    (front back : List (Builder φ × Value)) :
    (fun found => (Condition.join .all found).map Condition.flattened) <$>
        fragments (front ++ (joinedBuilder .all builders, v) :: back) =
      (fun found => (Condition.join .all found).map Condition.flattened) <$>
        fragments (front ++ (builders.map (·, v) ++ back)) := by
  simp only [fragments_append, fragments, joinedBuilder, map_eq_pure_bind,
    bind_assoc, pure_bind, Condition.flattened_join_join]

end Sql

/-! ## Both backends -/

theorem SqlFilter.map_condition
    {φ α : Type}
    {s : SqlFilter φ}
    {given : Value}
    {inputs : List (Value × Value)}
    (hinputs : given.inputs = .ok inputs)
    (g : Option (Sql.Condition φ) → α) :
    g <$> s.condition given =
      (fun found => g (Sql.Condition.join .all found)) <$>
        Sql.fragments (Value.activeAmong s.builders inputs) := by
  rw [condition_eq_join hinputs, map_bind, map_eq_pure_bind]
  simp only [map_pure]

/-- **A conjunction does what its conditions do as separate entries.** -/
theorem group_separated
    {φ : Type}
    {key group v raw raw' given given' : Value}
    {separate before after inputs inputs' : List (Value × Value)}
    (h : Separates key group separate)
    (hraw : raw.entries? = some (before ++ (key, group) :: after))
    (hraw' : raw'.entries? = some (before ++ (separate ++ after)))
    (hinputs : given.inputs = .ok inputs)
    (hinputs' : given'.inputs = .ok inputs')
    (hshared : SharesInput v key separate (before ++ after) inputs inputs')
    (memory : Registry MemoryBehaviour)
    (callbacks : Callbacks)
    (shape : Shape)
    (columns : Registry (Sql.ColumnBehaviour φ))
    (tableCallbacks : Sql.TableCallbacks φ)
    (table : Sql.Table) :
    ((∃ f, MemoryFilter.define memory callbacks shape raw = .ok f) ↔
      ∃ f, MemoryFilter.define memory callbacks shape raw' = .ok f) ∧
    (∀ f f', MemoryFilter.define memory callbacks shape raw = .ok f →
      MemoryFilter.define memory callbacks shape raw' = .ok f' →
      ∃ p, f.predicate given = .ok p ∧ f'.predicate given' = .ok p) ∧
    ((∃ s, SqlFilter.define columns tableCallbacks table raw = .ok s) ↔
      ∃ s, SqlFilter.define columns tableCallbacks table raw' = .ok s) ∧
    (∀ s s', SqlFilter.define columns tableCallbacks table raw = .ok s →
      SqlFilter.define columns tableCallbacks table raw' = .ok s' →
      Option.map Sql.Condition.flattened <$> s.condition given =
        Option.map Sql.Condition.flattened <$> s'.condition given') := by
  have hmemory := Memory.conjoins memory callbacks
  have htables := Sql.conjoins columns tableCallbacks table
  refine ⟨?_, ?_, ?_, ?_⟩
  · exact h.exists_define_iff hmemory hraw hraw' (MemoryFilter.mk shape)
      shape none
  · intro f f' hf hf'
    obtain ⟨front, checkers, back, hactive, hactive'⟩ :=
      h.exists_active hmemory hshared (MemoryFilter.compiles_checkers hraw hf)
        (MemoryFilter.compiles_checkers hraw' hf')
    refine ⟨_, MemoryFilter.predicate_eq_passes hinputs, ?_⟩
    rw [MemoryFilter.predicate_eq_passes hinputs']
    refine congrArg Except.ok (funext fun record => ?_)
    rw [MemoryFilter.active, MemoryFilter.active, hactive, hactive',
      MemoryFilter.passes_conjoined]
  · exact h.exists_define_iff htables hraw hraw' (SqlFilter.mk table)
      table.shape (some table.name)
  · intro s s' hs hs'
    obtain ⟨front, builders, back, hactive, hactive'⟩ :=
      h.exists_active htables hshared (SqlFilter.compiles_builders hraw hs)
        (SqlFilter.compiles_builders hraw' hs')
    rw [SqlFilter.map_condition hinputs, SqlFilter.map_condition hinputs',
      hactive, hactive']
    exact Sql.flattened_conjoined v builders front back

/-! ## A sample -/

/-- Two conditions in different forms, each under a name of its own. -/
def agedEntries : List (Value × Value) :=
  [(.text "mail", .comparison (.kind .contains) (.text "email") (.bool true)),
    (.text "years", .ofFields [("kind", .text "neq"), ("field", .text "age")])]

/-- The group of the two conditions. -/
def aged : Value :=
  .ofFields [("kind", .text "and"),
    ("conditions", .list (agedEntries.map (·.2)))]

/-- Some entries between a comparison and a callback. -/
def agedFilters (entries : List (Value × Value)) : Value :=
  .mapping .plain
    ([(.text "age", .comparison (.kind .eq) .none (.bool false))] ++
      (entries ++ [(.text "known", .callback 0 "known" [])]))

theorem separates_aged :
    Separates (.text "aged") aged agedEntries where
  kind := rfl
  conditions := rfl
  settled := rfl
  nonempty := List.cons_ne_nil _ _
  name := ⟨.text "aged", rfl, by decide⟩
  names := by
    simp only [agedEntries, List.forall_mem_cons]
    exact ⟨⟨.text "mail", rfl, by decide⟩, ⟨.text "years", rfl, by decide⟩,
      nofun⟩
  comparisons := by
    simp only [agedEntries, List.forall_mem_cons]
    exact ⟨⟨rfl, rfl⟩, ⟨rfl, rfl⟩, nofun⟩

/-- A table of people. -/
def agedTable : Sql.Table :=
  .declared "people" (.table none "people") [
    ("age", "age", .integer),
    ("email", "email", .text)]

/-- Inputs for the group, and for its conditions as separate entries. -/
def agedInputs : List (Value × Value) :=
  [(.text "aged", .text "30"), (.text "known", .int 1), (.text "age", .int 31)]

def agedInputs' : List (Value × Value) :=
  [(.text "years", .text "30"), (.text "age", .int 31),
    (.text "mail", .text "30"), (.text "known", .int 1)]

def agedRecord : Value :=
  .ofFields [("age", .int 31), ("email", .text "Ann30@example")]

/-- Both definitions accept the record and call the callback, and make the same
four conditions on the table. -/
theorem aged_separated :
    ∃ f f' s s',
      MemoryFilter.define Memory.defaultRegistry (fun _ _ _ => .ok true) .absent
        (agedFilters [(.text "aged", aged)]) = .ok f ∧
      MemoryFilter.define Memory.defaultRegistry (fun _ _ _ => .ok true) .absent
        (agedFilters agedEntries) = .ok f' ∧
      SqlFilter.define Sql.defaultRegistry
        (fun _ _ _ => .ok (some (.constant true))) agedTable
        (agedFilters [(.text "aged", aged)]) = .ok s ∧
      SqlFilter.define Sql.defaultRegistry
        (fun _ _ _ => .ok (some (.constant true))) agedTable
        (agedFilters agedEntries) = .ok s' ∧
      (∃ p, f.predicate (.mapping .plain agedInputs) = .ok p ∧
        f'.predicate (.mapping .plain agedInputs') = .ok p ∧
        p agedRecord = ⟨[⟨⟨0, "known", []⟩, agedRecord, .int 1⟩], .ok true⟩) ∧
      Option.map Sql.Condition.flattened <$>
        s.condition (.mapping .plain agedInputs) =
        Option.map Sql.Condition.flattened <$>
          s'.condition (.mapping .plain agedInputs') ∧
      (s.condition (.mapping .plain agedInputs)).trace =
        [⟨⟨0, "known", []⟩, agedTable, .int 1⟩] := by
  have hshared : SharesInput (.text "30") (.text "aged") agedEntries
      ([(.text "age", .comparison (.kind .eq) .none (.bool false))] ++
        [(.text "known", .callback 0 "known" [])]) agedInputs agedInputs' := by
    constructor
    case group => rfl
    case each =>
      simp only [agedEntries, List.forall_mem_cons]
      exact ⟨rfl, rfl, nofun⟩
    case others =>
      simp only [List.cons_append, List.nil_append, List.forall_mem_cons]
      exact ⟨rfl, rfl, nofun⟩
  obtain ⟨-, hmemory, -, htables⟩ :=
    @group_separated Sql.Fragment (.text "aged") aged (.text "30")
      (agedFilters [(.text "aged", aged)]) (agedFilters agedEntries)
      (.mapping .plain agedInputs) (.mapping .plain agedInputs')
      agedEntries _ _ _ _ separates_aged rfl rfl rfl rfl hshared
      Memory.defaultRegistry (fun _ _ _ => .ok true) .absent Sql.defaultRegistry
      (fun _ _ _ => .ok (some (.constant true))) agedTable
  refine ⟨_, _, _, _, rfl, rfl, rfl, rfl, ?_, htables _ _ rfl rfl, rfl⟩
  obtain ⟨p, hp, hp'⟩ := hmemory _ _ rfl rfl
  refine ⟨p, hp, hp', ?_⟩
  cases hp
  rfl

end RecordFilter
