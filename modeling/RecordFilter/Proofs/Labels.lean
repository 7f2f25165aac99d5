import RecordFilter.Proofs.Assembly
import RecordFilter.Proofs.Questions
import RecordFilter.Proofs.Renaming

/-!
# Names as labels

This module follows new names of entries through parsing, compiling and the use
of a filter.

**Fields.**  A comparison falls back on the name of its entry only if it states
no field.  In a labelled definition no comparison does, and in a definition that
is accepted no condition of a group does.

**Inputs.**  An input under new names is any input in which each label is found
under its new name.  Other keys do not matter.

**Main results.**
* `Definition.neverFallsBack`: conditions of accepted groups are compiled to
  their own fields.
* `names_are_labels`: a labelled definition is checked, accepted and used in the
  same way under all names.
-/

namespace RecordFilter

open Grammar

/-! ## Filters that state their fields -/

/-- No comparison in the filter falls back on the name of the filter. -/
def Filter.StatesFields : Filter → Prop
  | .comparison c => c.field.isNone = false
  | .group _ conditions =>
      ∀ condition ∈ conditions, ∀ c, condition.comparison? = some c →
        c.field.isNone = false
  | .custom _ => True

/-- A comparison without a field would read the path that its name spells,
whatever the name. -/
theorem Comparison.Agrees.field_isNone
    {raw : Value}
    {c : Comparison}
    (h : c.Agrees raw)
    (hfield : (Declared.field? raw).isSome = true) :
    c.field.isNone = false := by
  obtain ⟨field, hsome⟩ := Option.isSome_iff_exists.mp hfield
  cases hnone : c.field.isNone with
  | false => rfl
  | true =>
      have hunnamed := h.path .none
      have hnamed := h.path (.text "")
      simp only [fieldOr, hnone, if_true, Declared.path?,
        hsome] at hunnamed hnamed
      rw [← hunnamed] at hnamed
      cases hnamed

namespace Filter

variable {shape : Shape} {name : String} {raw : Value} {f : Filter}

theorem Agrees.statesFields
    (h : Agrees shape name raw f)
    (hfield : ∀ c, f = .comparison c → Declared.isComparison raw = true →
      (Declared.field? raw).isSome = true) :
    f.StatesFields := by
  cases h with
  | custom same => trivial
  | comparison declared agrees =>
      obtain ⟨k, hk, hcompares⟩ := declared.kind
      refine agrees.field_isNone (hfield _ rfl ?_)
      rw [Declared.isComparison, declared.form, hk, Option.any_some, hcompares]
      rfl
  | group declared sameKind found nonempty each agree =>
      intro condition hmem c hc
      obtain ⟨c', hmem', rfl⟩ := List.mem_map.mp hmem
      obtain ⟨raw', hraw', hagrees⟩ := Outcome.forall₂_mem_right agree hmem'
      cases hc
      exact hagrees.field_isNone (each raw' hraw').field?_isSome

/-- A filter of the grammar states its fields after parsing, if it does so where
it is a single comparison. -/
theorem statesFields_of_parse
    (h : IsFilter shape name raw)
    (hfield : ∀ c, f = .comparison c → Declared.isComparison raw = true →
      (Declared.field? raw).isSome = true)
    (hparse : parse raw = .ok f) :
    f.StatesFields := by
  cases hsettled : isSettled raw with
  | true =>
      obtain ⟨f', hf', hagrees⟩ := exists_agrees h hsettled
      rw [hparse] at hf'
      cases hf'
      exact hagrees.statesFields hfield
  | false =>
      obtain ⟨kind, conditions, hgroup, hall, -⟩ :=
        exists_parse_unsettled h hsettled
      rw [hparse] at hgroup
      cases hgroup
      intro condition hmem c hc
      have hexplicit := (hall condition hmem).field?_isSome
      cases condition with
      | comparison k field flag =>
          cases hc
          exact (Comparison.agrees_value k field flag).field_isNone hexplicit
      | _ => cases hc

end Filter

namespace Definition

/-- In every group of the definition, each condition is a comparison that is
compiled to its own field under every name. -/
def NeverFallsBack (d : Definition) : Prop :=
  ∀ entry ∈ d, ∀ kind conditions, entry.2 = .group kind conditions →
    ∀ condition ∈ conditions, ∃ c, condition.comparison? = some c ∧
      ∀ name, c.fieldOr name = c.field

variable {entries : List (Value × Value)} {raw : Value} {d : Definition}
variable {shape : Shape}

/-- What a filter of a parsed definition was parsed from. -/
theorem exists_entry
    (hentries : raw.entries? = some entries)
    (hgrammar : ∀ entry ∈ entries, IsEntry shape entry)
    (hparse : parse raw = .ok d)
    {parsed : Value × Filter}
    (hmem : parsed ∈ d) :
    ∃ entry ∈ entries, parsed.1 = entry.1 ∧
      Filter.parse entry.2 = .ok parsed.2 ∧
      ∃ name, IsFilter shape name entry.2 := by
  obtain ⟨entry, hentry, hkey, hfilter⟩ :=
    Outcome.forall₂_mem_right ((parse_eq_ok_iff hentries).mp hparse) hmem
  obtain ⟨name, -, -, hform⟩ := hgrammar entry hentry
  exact ⟨entry, hentry, hkey, hfilter, name, hform⟩

/-- **No condition of an accepted group falls back on the name of the group**,
since compiling accepts only comparisons as conditions. -/
theorem neverFallsBack
    {γ : Type}
    {s : Strategy γ}
    {compiled : List (Name × γ)}
    (hentries : raw.entries? = some entries)
    (hgrammar : ∀ entry ∈ entries, IsEntry shape entry)
    (hparse : parse raw = .ok d)
    (hcompiled : s.definition d = .ok compiled) :
    d.NeverFallsBack := by
  intro parsed hparsed kind conditions hgroup condition hmem
  obtain ⟨entry, -, -, hfilter, name, hform⟩ :=
    exists_entry hentries hgrammar hparse hparsed
  have hstates : parsed.2.StatesFields :=
    Filter.statesFields_of_parse hform (by rw [hgroup]; nofun) hfilter
  obtain ⟨named, -, -, hchecker⟩ :=
    Outcome.forall₂_mem_left
      (Strategy.definition_eq_ok_iff.mp hcompiled) hparsed
  rw [hgroup] at hstates hchecker
  obtain ⟨checkers, hcheckers, -⟩ := Outcome.bind_eq_ok.mp hchecker
  have hcomparison :=
    List.all_eq_true.mp (Strategy.all_comparison?_of_conditions hcheckers)
      condition hmem
  obtain ⟨c, hc⟩ := Option.isSome_iff_exists.mp hcomparison
  refine ⟨c, hc, fun other => ?_⟩
  rw [Comparison.fieldOr, hstates condition hmem c hc]
  rfl

/-- Parsing does not look at keys. -/
theorem parse_rename
    (r : String → Name)
    (form : MappingForm)
    (entries : List (Value × Value)) :
    parse ((Value.mapping form entries).rename r) =
      (parse (.mapping form entries)).map (Value.renameEntries r) := by
  refine Outcome.mapM_map fun entry _ => ?_
  exact Outcome.bind_eq_map fun f _ => rfl

end Definition

/-! ## Compiling under new names -/

namespace Strategy

variable {γ : Type} {s : Strategy γ}

/-- Compiled entries under new names. -/
def renameNamed (r : String → Name) (named : List (Name × γ)) :
    List (Name × γ) :=
  named.map fun entry => (r entry.1.content, entry.2)

/-- Callbacks are compiled in the same way under all names. -/
def IgnoresNames (s : Strategy γ) : Prop :=
  ∀ name other callback, s.custom name callback = s.custom other callback

/-- A filter that states its fields is compiled in the same way
under all names. -/
theorem filter_of_statesFields
    (hs : s.IgnoresNames)
    {f : Filter}
    (hf : f.StatesFields)
    (name other : Value) :
    s.filter name f = s.filter other f := by
  cases f with
  | comparison c =>
      have hfield : c.field.isNone = false := hf
      simp only [filter, Comparison.fieldOr, hfield, Bool.false_eq_true,
        if_false]
  | group kind conditions =>
      have hconditions :
          conditions.mapM (s.condition name) =
            conditions.mapM (s.condition other) := by
        refine Outcome.mapM_congr fun raw hmem => ?_
        unfold condition
        cases hc : raw.comparison? with
        | none => rfl
        | some c =>
            have hfield : c.field.isNone = false := hf raw hmem c hc
            simp only [Comparison.fieldOr, hfield, Bool.false_eq_true, if_false]
      rw [filter, filter, hconditions]
  | custom callback => exact congrArg Except.ok (hs name other callback)

theorem named_rename
    (r : String → Name)
    (checkers : List (Value × γ)) :
    named (Value.renameEntries r checkers) =
      (named checkers).map (renameNamed r) := by
  refine Outcome.mapM_map fun entry _ => ?_
  simp only [Value.name?_renameKey]
  cases entry.1.name? <;> rfl

/-- A definition that states its fields is compiled in the same way
under all names. -/
theorem definition_rename
    (hs : s.IgnoresNames)
    (r : String → Name)
    {d : Definition}
    (hd : ∀ entry ∈ d, entry.2.StatesFields) :
    s.definition (Value.renameEntries r d) =
      (s.definition d).map (renameNamed r) := by
  let compile (entry : Value × Filter) : Except Failure (Value × γ) := do
    return (entry.1, ← s.filter entry.1 entry.2)
  have hfilters :
      (Value.renameEntries r d).mapM compile =
        (d.mapM compile).map (Value.renameEntries r) := by
    refine Outcome.mapM_map fun entry hmem => ?_
    simp only [compile]
    rw [filter_of_statesFields hs (hd entry hmem) _ entry.1]
    exact Outcome.bind_eq_map fun checker _ => rfl
  change ((Value.renameEntries r d).mapM compile >>= named) =
    (d.mapM compile >>= named).map _
  rw [hfilters]
  cases d.mapM compile with
  | error e => rfl
  | ok checkers => exact named_rename r checkers

end Strategy

/-! ## Defining under new names -/

/-- How two definitions end that differ in their names only.  Both are accepted,
or both are refused with violations that differ in their names only, or both
fail in the same way. -/
inductive Outcome.Renamed {δ : Type} (r : String → Name) (rename : δ → δ) :
    Except Failure δ → Except Failure δ → Prop
  | accepted
      (f : δ) :
      Renamed r rename (.ok f) (.ok (rename f))
  | refused
      (found : List Violation) :
      Renamed r rename (.error (.invalidDefinition found))
        (.error (.invalidDefinition (found.map (Violation.rename r))))
  | failed
      (e : Failure) :
      Renamed r rename (.error e) (.error e)

theorem Outcome.Renamed.of_ok
    {δ : Type}
    {r : String → Name}
    {rename : δ → δ}
    {x y : Except Failure δ}
    {f : δ}
    (h : Renamed r rename x y)
    (hx : x = .ok f) :
    y = .ok (rename f) := by
  cases h with
  | accepted f' =>
      cases hx
      rfl
  | refused found => cases hx
  | failed e => cases hx

section Define

variable {r : String → Name} {form : MappingForm}
variable {entries : List (Value × Value)}

/-- A labelled definition ends in the same way under new names, for every
backend: validation ends both definitions, or lets both of them pass. -/
theorem Strategy.define_rename
    {γ δ : Type}
    {s : Strategy γ}
    {build : Definition → List (Name × γ) → δ}
    {rename : δ → δ}
    (hs : s.IgnoresNames)
    (hbuild : ∀ d compiled,
      rename (build d compiled) =
        build (Value.renameEntries r d) (renameNamed r compiled))
    (hlabelled : ∀ entry ∈ entries, IsLabelled entry)
    (hr : IsRenaming r (Value.labels entries))
    (shape : Shape)
    (owner : Option String) :
    Outcome.Renamed r rename
      (do
        Validation.ensure (.mapping form entries) shape owner
        let d ← Definition.parse (.mapping form entries)
        let compiled ← s.definition d
        return build d compiled)
      (do
        Validation.ensure ((Value.mapping form entries).rename r) shape owner
        let d ← Definition.parse ((Value.mapping form entries).rename r)
        let compiled ← s.definition d
        return build d compiled) := by
  have hviolations :=
    @Validation.violations_rename r form entries hlabelled hr.nonempty
      shape owner
  cases hfound : Validation.violations (.mapping form entries) shape owner with
  | error e =>
      rw [hfound] at hviolations
      simp only [Validation.ensure, hfound, hviolations]
      exact .failed e
  | ok found =>
      rw [hfound] at hviolations
      cases found with
      | cons violation rest =>
          rw [Validation.ensure_of_violations hfound (List.cons_ne_nil _ _),
            Validation.ensure_of_violations hviolations (List.cons_ne_nil _ _)]
          exact .refused (violation :: rest)
      | nil =>
          have hgrammar := Validation.isEntry_of_no_violations rfl hfound
          rw [Validation.ensure_eq_ok_iff.mpr hfound,
            Validation.ensure_eq_ok_iff.mpr hviolations,
            Definition.parse_rename]
          cases hparse : Definition.parse (.mapping form entries) with
          | error e => exact .failed e
          | ok d =>
              have hstates : ∀ parsed ∈ d, parsed.2.StatesFields := by
                intro parsed hmem
                obtain ⟨entry, hentry, -, hfilter, name, hform⟩ :=
                  Definition.exists_entry rfl hgrammar hparse hmem
                exact Filter.statesFields_of_parse hform
                  (fun _ _ => (hlabelled entry hentry).field) hfilter
              simp only [Outcome.ok_bind, Except.map]
              rw [definition_rename hs r hstates]
              cases s.definition d with
              | error e => exact .failed e
              | ok compiled =>
                  have hrenamed :=
                    @Outcome.Renamed.accepted δ r rename (build d compiled)
                  rw [hbuild] at hrenamed
                  exact hrenamed

end Define

/-! ## Inputs under new names -/

/-- An input under new names: each label is found there under its new name.
What is no input at all stays the same. -/
inductive RenamedInput (r : String → Name) (labels : List String) :
    Value → Value → Prop
  | readable
      {input input' : Value}
      {inputs inputs' : List (Value × Value)}
      (hinputs : input.inputs = .ok inputs)
      (hinputs' : input'.inputs = .ok inputs')
      (same : ∀ s ∈ labels,
        Value.field? (r s).content inputs' = Value.field? s inputs) :
      RenamedInput r labels input input'
  | unreadable
      {input : Value}
      {e : Failure}
      (h : input.inputs = .error e) :
      RenamedInput r labels input input

namespace Value

/-- A label is found under its new name among renamed keys, if no other key gets
that name. -/
theorem field?_renameEntries
    {r : String → Name}
    {s : String}
    {entries : List (Value × Value)}
    (h : ∀ t ∈ labels entries, (r t).content = (r s).content → t = s) :
    field? (r s).content (renameEntries r entries) = field? s entries := by
  induction entries with
  | nil => rfl
  | cons entry rest ih =>
      have hrest :
          ∀ t ∈ labels rest, (r t).content = (r s).content → t = s := by
        intro t ht
        obtain ⟨entry', hmem, ht⟩ := List.mem_filterMap.mp ht
        exact h t (mem_labels (List.mem_cons_of_mem entry hmem) ht)
      rw [renameEntries, List.map_cons, ← renameEntries, field?_cons,
        field?_cons, ih hrest, text?_renameKey]
      cases htext : entry.1.text? with
      | none => simp
      | some t =>
          have hiff : (r t).content = (r s).content ↔ t = s :=
            ⟨h t (mem_labels List.mem_cons_self htext),
              fun hsame => by rw [hsame]⟩
          simp only [Option.map_some, Option.some.injEq, hiff]

/-- Under new names the same things are active with the same inputs. -/
theorem activeAmong_rename
    {γ : Type}
    {r : String → Name}
    {named : List (Name × γ)}
    {inputs inputs' : List (Value × Value)}
    (h : ∀ entry ∈ named,
      field? (r entry.1.content).content inputs' =
        field? entry.1.content inputs) :
    activeAmong (Strategy.renameNamed r named) inputs' =
      activeAmong named inputs := by
  unfold activeAmong Strategy.renameNamed
  rw [List.filterMap_map]
  refine List.filterMap_congr fun entry hmem => ?_
  simp only [Function.comp_apply, active?, h entry hmem]

end Value

/-- Inputs whose keys are labels get new names key by key. -/
theorem renamedInput_rename
    {r : String → Name}
    {labels : List String}
    (hr : IsRenaming r labels)
    (form : MappingForm)
    {inputs : List (Value × Value)}
    (hkeys : ∀ s ∈ Value.labels inputs, s ∈ labels) :
    RenamedInput r labels (.mapping form inputs)
      ((Value.mapping form inputs).rename r) := by
  refine .readable rfl rfl fun s hs =>
    Value.field?_renameEntries fun t ht hsame => ?_
  exact hr.injective t (hkeys t ht) s hs hsame

namespace MemoryFilter

/-- The filter under new names. -/
def rename (r : String → Name) (f : MemoryFilter) : MemoryFilter where
  shape := f.shape
  definition := Value.renameEntries r f.definition
  checkers := Strategy.renameNamed r f.checkers

theorem predicate_rename
    {r : String → Name}
    {labels : List String}
    {f : MemoryFilter}
    (hlabels : ∀ entry ∈ f.checkers, entry.1.content ∈ labels)
    {input input' : Value}
    (h : RenamedInput r labels input input') :
    (f.rename r).predicate input' = f.predicate input := by
  cases h with
  | unreadable hinputs =>
      unfold predicate
      rw [hinputs]
      rfl
  | readable hinputs hinputs' same =>
      have hactive :=
        Value.activeAmong_rename fun entry hmem => same _ (hlabels entry hmem)
      rw [predicate_eq_passes hinputs, predicate_eq_passes hinputs', active,
        active, rename, hactive]

end MemoryFilter

namespace SqlFilter

variable {φ : Type}

/-- The filter under new names. -/
def rename (r : String → Name) (f : SqlFilter φ) : SqlFilter φ where
  table := f.table
  definition := Value.renameEntries r f.definition
  builders := Strategy.renameNamed r f.builders

theorem condition_rename
    {r : String → Name}
    {labels : List String}
    {f : SqlFilter φ}
    (hlabels : ∀ entry ∈ f.builders, entry.1.content ∈ labels)
    {input input' : Value}
    (h : RenamedInput r labels input input') :
    (f.rename r).condition input' = f.condition input := by
  cases h with
  | unreadable hinputs =>
      unfold condition
      rw [hinputs]
      rfl
  | readable hinputs hinputs' same =>
      have hactive :=
        Value.activeAmong_rename fun entry hmem => same _ (hlabels entry hmem)
      rw [condition_eq_join hinputs, condition_eq_join hinputs', rename,
        hactive]

end SqlFilter

/-! ## Names of accepted definitions -/

section Accepted

variable {γ δ : Type} {s : Strategy γ}
variable {build : Definition → List (Name × γ) → δ}
variable {raw : Value} {entries : List (Value × Value)} {shape : Shape}
variable {owner : Option String}
variable {result : δ}

/-- An accepted definition never falls back, and what it compiles to goes by
its labels. -/
theorem Strategy.labels_of_define
    (hentries : raw.entries? = some entries)
    (h :
      (do
        Validation.ensure raw shape owner
        let d ← Definition.parse raw
        let compiled ← s.definition d
        return build d compiled) = Except.ok result) :
    ∃ d compiled, result = build d compiled ∧ d.NeverFallsBack ∧
      ∀ entry ∈ compiled, entry.1.content ∈ Value.labels entries := by
  obtain ⟨hvalid, d, compiled, hparse, hcompiled, rfl⟩ := define_eq_ok_iff.mp h
  have hgrammar := Validation.isEntry_of_no_violations hentries hvalid
  refine ⟨d, compiled, rfl,
    Definition.neverFallsBack hentries hgrammar hparse hcompiled, ?_⟩
  intro named hmem
  obtain ⟨entry, hentry, hcompiles⟩ := Outcome.forall₂_mem_right
    ((Strategy.compiled_iff hentries).mp ⟨d, hparse, hcompiled⟩) hmem
  refine Value.mem_labels hentry ?_
  rw [Value.text?, hcompiles.name]
  rfl

end Accepted

/-- **Names are only labels.**  A definition whose comparisons state their
fields is checked with the same violations under all names, it is accepted under
all names or under none, and in use its filters answer inputs under new names as
they answered the old ones.  No condition of an accepted group falls back on the
name of the group. -/
theorem names_are_labels
    {r : String → Name}
    {form : MappingForm}
    {entries : List (Value × Value)}
    (hlabelled : ∀ entry ∈ entries, IsLabelled entry)
    (hr : IsRenaming r (Value.labels entries)) :
    let raw := Value.mapping form entries
    (∀ shape owner,
      Validation.violations (raw.rename r) shape owner =
        (Validation.violations raw shape owner).map
          (List.map (Violation.rename r))) ∧
    (∀ registry callbacks shape,
      Outcome.Renamed r (MemoryFilter.rename r)
        (MemoryFilter.define registry callbacks shape raw)
        (MemoryFilter.define registry callbacks shape (raw.rename r)) ∧
      ∀ f, MemoryFilter.define registry callbacks shape raw = .ok f →
        f.definition.NeverFallsBack ∧
        ∀ input input', RenamedInput r (Value.labels entries) input input' →
          (f.rename r).predicate input' = f.predicate input) ∧
    (∀ (φ : Type) (registry : Registry (Sql.ColumnBehaviour φ)) callbacks table,
      Outcome.Renamed r (SqlFilter.rename r)
        (SqlFilter.define registry callbacks table raw)
        (SqlFilter.define registry callbacks table (raw.rename r)) ∧
      ∀ f, SqlFilter.define registry callbacks table raw = .ok f →
        f.definition.NeverFallsBack ∧
        ∀ input input', RenamedInput r (Value.labels entries) input input' →
          (f.rename r).condition input' = f.condition input) ∧
    ∀ form inputs, (∀ s ∈ Value.labels inputs, s ∈ Value.labels entries) →
      RenamedInput r (Value.labels entries) (.mapping form inputs)
        ((Value.mapping form inputs).rename r) := by
  intro raw
  refine ⟨?violations, ?memory, ?sql, ?inputs⟩
  case violations => exact Validation.violations_rename r hlabelled hr.nonempty
  case memory =>
    intro registry callbacks shape
    refine ⟨?_, fun f hf => ?_⟩
    · exact @Strategy.define_rename r form entries Checker MemoryFilter
        (Memory.strategy registry callbacks) (MemoryFilter.mk shape)
        (MemoryFilter.rename r) (fun _ _ _ => rfl) (fun _ _ => rfl) hlabelled hr
        shape none
    · obtain ⟨d, compiled, rfl, hstates, hlabels⟩ :=
        @Strategy.labels_of_define Checker MemoryFilter
          (Memory.strategy registry callbacks) (MemoryFilter.mk shape) raw
          entries shape none f rfl hf
      exact ⟨hstates, fun input input' h =>
        MemoryFilter.predicate_rename hlabels h⟩
  case sql =>
    intro φ registry callbacks table
    refine ⟨?_, fun f hf => ?_⟩
    · exact @Strategy.define_rename r form entries (Sql.Builder φ) (SqlFilter φ)
        (Sql.strategy registry callbacks table) (SqlFilter.mk table)
        (SqlFilter.rename r) (fun _ _ _ => rfl) (fun _ _ => rfl) hlabelled hr
        table.shape (some table.name)
    · obtain ⟨d, compiled, rfl, hstates, hlabels⟩ :=
        @Strategy.labels_of_define (Sql.Builder φ) (SqlFilter φ)
          (Sql.strategy registry callbacks table) (SqlFilter.mk table) raw
          entries table.shape (some table.name) f rfl hf
      exact ⟨hstates, fun input input' h =>
        SqlFilter.condition_rename hlabels h⟩
  case inputs =>
    exact fun form inputs hkeys => renamedInput_rename hr form hkeys

/-- A comparison, a group and a callback, all labelled. -/
def labelledEntries : List (Value × Value) :=
  [(.text "old", .ofFields [("kind", .text "gte"), ("field", .text "age")]),
    (.text "named", .group (.kind .or) [
      .comparison (.kind .eq) (.text "first") (.bool false),
      .comparison (.kind .eq) (.text "last") (.bool false)]),
    (.text "known", .callback 0 "known" [])]

/-- Exchanges two names and keeps all others. -/
def exchange (s : String) : Name :=
  if s = "old" then .text "named" else if s = "named" then .text "old"
  else .text s

/-- After two names have been exchanged, the definition is accepted again, and
the filter answers an input with exchanged names as before. -/
theorem labels_exchanged :
    (∀ entry ∈ labelledEntries, IsLabelled entry) ∧
    IsRenaming exchange (Value.labels labelledEntries) ∧
    ∃ f,
      MemoryFilter.define Memory.defaultRegistry (fun _ _ _ => .ok true) .absent
        (.mapping .plain labelledEntries) = .ok f ∧
      MemoryFilter.define Memory.defaultRegistry (fun _ _ _ => .ok true) .absent
        ((Value.mapping .plain labelledEntries).rename exchange) =
          .ok (f.rename exchange) ∧
      (f.rename exchange).predicate
        (.ofFields [("named", .int 18), ("old", .text "Ada")]) =
        f.predicate (.ofFields [("old", .int 18), ("named", .text "Ada")]) := by
  have hlabelled : ∀ entry ∈ labelledEntries, IsLabelled entry := by
    intro entry hmem
    simp only [labelledEntries, List.mem_cons, List.not_mem_nil,
      or_false] at hmem
    rcases hmem with rfl | rfl | rfl
    · exact ⟨⟨.text "old", rfl, by decide⟩, fun _ => rfl⟩
    · exact ⟨⟨.text "named", rfl, by decide⟩, fun h => by cases h⟩
    · exact ⟨⟨.text "known", rfl, by decide⟩, fun h => by cases h⟩
  have hr : IsRenaming exchange (Value.labels labelledEntries) := by
    have hlabels :
        Value.labels labelledEntries = ["old", "named", "known"] := by rfl
    rw [hlabels]
    constructor <;> decide
  obtain ⟨-, hmemory, -, hinputs⟩ :=
    @names_are_labels exchange .plain labelledEntries hlabelled hr
  obtain ⟨hrenamed, hanswers⟩ :=
    hmemory Memory.defaultRegistry (fun _ _ _ => .ok true) .absent
  obtain ⟨f, hf⟩ :
      ∃ f, MemoryFilter.define Memory.defaultRegistry
        (fun _ _ _ => .ok true) .absent (.mapping .plain labelledEntries) =
          .ok f := ⟨_, rfl⟩
  refine ⟨hlabelled, hr, f, hf, hrenamed.of_ok hf, ?_⟩
  have hkeys :
      ∀ s ∈ ["old", "named"], s ∈ ["old", "named", "known"] := by decide
  exact (hanswers f hf).2 _ _ (hinputs .plain _ hkeys)

end RecordFilter
