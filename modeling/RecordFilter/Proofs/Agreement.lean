import RecordFilter.Proofs.Meaning
import RecordFilter.Sql.Filter

/-!
# Agreement of the backends

This module shows that the condition on a table and the predicate in memory are
the same combination of comparisons.

**Atoms.**  The operators on columns make atoms, which record the operator, the
column and the input.  A meaning of the operators gives truth to the atoms on a
row, and is what the operators in memory do.

**Method.**  For a definition without callbacks and without dots in its paths,
the builder of an entry makes a condition that holds on a row exactly if the
interpretation of the entry accepts the row.  This goes through the conditions
of a group and through the entries.

**Main result.**
* `condition_agrees_with_predicate`: for every meaning, the condition for an
  input holds on the rows that the predicate for this input accepts, and no
  condition stands for all rows.
-/

namespace RecordFilter

open Grammar

/-! ## Paths without dots -/

/-- The paths that an entry reads under its name. -/
def Declared.paths (name : Option String) (raw : Value) : List String :=
  match kind? raw with
  | some .and | some .or => ((conditions? raw).getD []).filterMap (path? none)
  | _ => (path? name raw).toList

theorem Value.follow_undotted
    {path : String}
    (h : '.' ∉ path.toList)
    (v : Value) :
    v.follow (Path.segments path) = v.get path := by
  rw [← read_eq_follow]
  unfold read
  rw [Path.segments_of_undotted h]

namespace Sql

/-! ## Atoms and conditions -/

/-- An operator on a column for an input. -/
structure Atom where
  operator : Operator
  column : Column
  input : Value

/-- The operator on columns that makes atoms. -/
def Atom.make (op : Operator) : ColumnBehaviour Atom :=
  fun column input => .ok (some (.leaf ⟨op, column, input⟩))

/-- The truth of an atom on a row, given what the operators mean. -/
def Atom.truth (meaning : Operator → Value → Value → Bool) (row : Value)
    (a : Atom) : Bool :=
  meaning a.operator (row.get a.column.key) a.input

/-- Is a row admitted?  Where there is no condition, every row is. -/
def Condition.admits {φ : Type} (truth : φ → Bool) : Option (Condition φ) → Bool
  | none => true
  | some c => c.holds truth

/-- A total over conditions that goes on after one answer and ends with the
other one. -/
structure Condition.TotalsWhile {φ : Type} (onward : Bool)
    (total : (φ → Bool) → List (Condition φ) → Bool) : Prop where
  nil : ∀ truth, total truth [] = onward
  cons :
    ∀ truth c rest, total truth (c :: rest) =
      if c.holds truth = onward then total truth rest else c.holds truth

theorem Condition.allHold_totalsWhile
    {φ : Type} :
    TotalsWhile true (@allHold φ) where
  nil _ := rfl
  cons truth c rest := by
    rw [allHold]
    cases c.holds truth <;> rfl

theorem Condition.someHolds_totalsWhile
    {φ : Type} :
    TotalsWhile false (@someHolds φ) where
  nil _ := rfl
  cons truth c rest := by
    rw [someHolds]
    cases c.holds truth <;> rfl

/-- A join holds if the total of its members says so, that of a single member
included. -/
theorem Condition.exists_join
    {φ : Type}
    {onward : Bool}
    {combine : List (Condition φ) → Condition φ}
    {total : (φ → Bool) → List (Condition φ) → Bool}
    {cs : List (Condition φ)}
    (htotal : TotalsWhile onward total)
    (hcombine : ∀ truth cs, (combine cs).holds truth = total truth cs)
    (hne : cs ≠ []) :
    ∃ c, join combine cs = some c ∧
      ∀ truth, c.holds truth = total truth cs := by
  match cs, hne with
  | [c], _ =>
      refine ⟨c, rfl, fun truth => ?_⟩
      rw [htotal.cons, htotal.nil]
      by_cases honward : c.holds truth = onward <;> simp [honward]
  | c :: other :: rest, _ =>
      exact ⟨combine (c :: other :: rest), rfl, fun truth => hcombine truth _⟩

theorem Condition.admits_join_all
    {φ : Type}
    (truth : φ → Bool)
    (cs : List (Condition φ)) :
    admits truth (join .all cs) = allHold truth cs := by
  by_cases hnil : cs = []
  · rw [hnil]
    rfl
  · obtain ⟨c, hc, hholds⟩ :=
      @exists_join φ true .all allHold cs allHold_totalsWhile
        (fun _ _ => rfl) hnil
    rw [hc, admits, hholds]

/-! ## Comparisons -/

section Simulation

variable {backend : String} {meaning : Operator → Value → Value → Bool}
variable {answers : Callback → Value → Value → Except Failure Value}
variable {callbacks : TableCallbacks Atom} {table : Table} {shape : Shape}

/-- What operators in memory do under a meaning. -/
def evaluation (meaning : Operator → Value → Value → Bool) (op : Operator) :
    MemoryBehaviour :=
  fun field input => .ok (meaning op field input)

theorem columnOf_eq_ok
    {field : Value}
    {path : String}
    {column : Column}
    (hfield : field.text? = some path)
    (h : columnOf table field = .ok column) :
    column.key = path := by
  unfold columnOf at h
  rw [hfield, Option.bind_some] at h
  split at h
  · cases hcolumn : table.column? path with
    | some found =>
        rw [hcolumn] at h
        cases h
        unfold Table.column? at hcolumn
        have hkey := List.find?_some hcolumn
        exact of_decide_eq_true hkey
    | none =>
        simp only [hcolumn] at h
        obtain ⟨report, -, hthrow⟩ := Outcome.bind_eq_ok.mp h
        cases hthrow
  · cases h

/-- The condition of a comparison for an input. -/
def Decides (meaning : Operator → Value → Value → Bool) (name : Option String)
    (input raw : Value) (c : Condition Atom) : Prop :=
  ∀ row, Interpretation.comparison (evaluation meaning) name raw row input =
    .ok (c.holds (Atom.truth meaning row))

/-- A compiled comparison makes an atom that decides it. -/
theorem comparisonBuilder_decides
    {name : Option String}
    {raw key : Value}
    {c : Comparison}
    {builder : Builder Atom}
    (h : IsComparison shape name raw)
    (hagrees : c.Agrees raw)
    (hpath : Declared.path? key.text? raw = Declared.path? name raw)
    (hundotted :
      ∀ path, Declared.path? name raw = some path → '.' ∉ path.toList)
    (hbuilder :
      comparisonBuilder (.ofOperators backend Atom.make) table
        (c.fieldOr key) c = .ok builder)
    (input : Value) :
    ∃ condition, builder input = pure (some condition) ∧
      Decides meaning name input raw condition := by
  obtain ⟨op, hop⟩ := h.exists_operator
  obtain ⟨path, hread, -⟩ := h.path
  have hfield : (c.fieldOr key).text? = some path := by
    rw [hagrees.path, hpath, hread]
  obtain ⟨column, hcolumn, hrest⟩ := Outcome.bind_eq_ok.mp hbuilder
  rw [hagrees.operator_eq hop, Outcome.ok_bind, Registry.require_ofOperators,
    Outcome.ok_bind] at hrest
  cases hrest
  refine ⟨.leaf ⟨op, column, input⟩, rfl, fun row => ?_⟩
  have hkey : column.key = path := columnOf_eq_ok hfield hcolumn
  simp only [Interpretation.comparison, hop, hread, evaluation,
    Value.follow_undotted (hundotted path hread), Condition.holds, Atom.truth,
    hkey]

/-! ## Groups -/

theorem fragments_conditions
    {key : Value}
    {conditions : List Value}
    {cs : List Comparison}
    {builders : List (Builder Atom)}
    (h : ∀ condition ∈ conditions, IsComparison shape none condition)
    (hundotted :
      ∀ path ∈ conditions.filterMap (Declared.path? none), '.' ∉ path.toList)
    (hagree : List.Forall₂ Comparison.Agrees conditions cs)
    (hbuilders :
      (cs.map Comparison.toValue).mapM
          ((strategy (.ofOperators backend Atom.make) callbacks table).condition
            key) = .ok builders)
    (input : Value) :
    ∃ found,
      fragments (builders.map fun builder => (builder, input)) = pure found ∧
      List.Forall₂ (Decides meaning none input) conditions found := by
  induction hagree generalizing builders with
  | nil =>
      cases hbuilders
      exact ⟨[], rfl, .nil⟩
  | @cons condition c conditions cs hagrees hothers ih =>
      rw [List.map_cons, List.mapM_cons] at hbuilders
      obtain ⟨builder, hbuilder, hothers⟩ := Outcome.bind_eq_ok.mp hbuilders
      obtain ⟨builders, hrest, hlist⟩ := Outcome.bind_eq_ok.mp hothers
      cases hlist
      have hcondition := h condition List.mem_cons_self
      have hdots :
          ∀ path, Declared.path? none condition = some path →
            '.' ∉ path.toList := by
        intro path hpath
        exact hundotted path
          (List.mem_filterMap.mpr ⟨condition, List.mem_cons_self, hpath⟩)
      obtain ⟨made, hmade, hdecides⟩ :=
        @comparisonBuilder_decides backend meaning table shape none condition
          key c builder hcondition hagrees (hcondition.path?_of_none key.text?)
          hdots hbuilder input
      have hothers :
          ∀ path ∈ conditions.filterMap (Declared.path? none),
            '.' ∉ path.toList := by
        intro path hpath
        obtain ⟨other, hother, hread⟩ := List.mem_filterMap.mp hpath
        exact hundotted path
          (List.mem_filterMap.mpr
            ⟨other, List.mem_cons_of_mem condition hother, hread⟩)
      obtain ⟨found, hfound, hdecide⟩ :=
        ih (fun other hother => h other (List.mem_cons_of_mem condition hother))
          hothers hrest
      refine ⟨made :: found, ?_, .cons hdecides hdecide⟩
      rw [List.map_cons, fragments, hmade, hfound]
      rfl

/-- A run over conditions answers as the total that goes on after the
same answer. -/
theorem run_eq_total
    {onward : Bool}
    {row input : Value}
    {run : List Value → Except Failure Bool}
    {total : (Atom → Bool) → List (Condition Atom) → Bool}
    {conditions : List Value}
    {found : List (Condition Atom)}
    (hrun : Interpretation.RunsWhile (evaluation meaning) onward row input run)
    (htotal : Condition.TotalsWhile onward total)
    (h : List.Forall₂ (Decides meaning none input) conditions found) :
    run conditions = .ok (total (Atom.truth meaning row) found) := by
  induction h with
  | nil => rw [hrun.nil, htotal.nil]
  | @cons condition made conditions found hdecides hothers ih =>
      rw [hrun.cons, hdecides row, ih, htotal.cons, Outcome.ok_bind]
      split <;> rfl

/-- A join of the conditions that a group's builders make decides the run over
the conditions of the group. -/
theorem joinedBuilder_decides
    {onward : Bool}
    {input : Value}
    {combine : List (Condition Atom) → Condition Atom}
    {total : (Atom → Bool) → List (Condition Atom) → Bool}
    {run : Value → List Value → Except Failure Bool}
    {conditions : List Value}
    {builders : List (Builder Atom)}
    {found : List (Condition Atom)}
    (hrun : ∀ row,
      Interpretation.RunsWhile (evaluation meaning) onward row input (run row))
    (htotal : Condition.TotalsWhile onward total)
    (hcombine : ∀ truth cs, (combine cs).holds truth = total truth cs)
    (hne : conditions ≠ [])
    (hfragments :
      fragments (builders.map fun builder => (builder, input)) = pure found)
    (hdecide : List.Forall₂ (Decides meaning none input) conditions found) :
    ∃ c, joinedBuilder combine builders input = pure (some c) ∧
      ∀ row, run row conditions = .ok (c.holds (Atom.truth meaning row)) := by
  have hfound : found ≠ [] := by
    rintro rfl
    cases hdecide
    exact hne rfl
  obtain ⟨c, hjoin, hholds⟩ := Condition.exists_join htotal hcombine hfound
  refine ⟨c, ?_, fun row => ?_⟩
  · rw [joinedBuilder, hfragments, ← hjoin]
    rfl
  · rw [hholds]
    exact run_eq_total (hrun row) htotal hdecide

/-- The condition of an entry for an input. -/
def DecidesEntry (meaning : Operator → Value → Value → Bool)
    (name : Option String) (input raw : Value) (c : Condition Atom) : Prop :=
  ∀ row, Interpretation.declared (evaluation meaning) name raw row input =
    .ok (c.holds (Atom.truth meaning row))

/-- The conditions of a group, joined by its kind, decide the group. -/
theorem groupBuilder_decides
    {name : Option String}
    {kind raw : Value}
    {k : Kind}
    {conditions : List Value}
    {builders : List (Builder Atom)}
    {builder : Builder Atom}
    {input : Value}
    {found : List (Condition Atom)}
    (hkind : kind.kind? = some k)
    (hdeclared : Declared.kind? raw = some k)
    (hgroups : k.isGroup = true)
    (hconditions : Declared.conditions? raw = some conditions)
    (hne : conditions ≠ [])
    (hfragments :
      fragments (builders.map fun builder => (builder, input)) = pure found)
    (hdecide : List.Forall₂ (Decides meaning none input) conditions found)
    (hbuilder : groupBuilder kind builders = .ok builder) :
    ∃ c, builder input = pure (some c) ∧
      DecidesEntry meaning name input raw c := by
  unfold groupBuilder at hbuilder
  rw [hkind] at hbuilder
  unfold DecidesEntry Interpretation.declared
  rw [hdeclared, hconditions]
  cases k with
  | and =>
      cases hbuilder
      exact joinedBuilder_decides
        (fun row =>
          Interpretation.allOf_runsWhile (evaluation meaning) row input)
        Condition.allHold_totalsWhile (fun _ _ => rfl) hne hfragments hdecide
  | or =>
      cases hbuilder
      exact joinedBuilder_decides
        (fun row =>
          Interpretation.anyOf_runsWhile (evaluation meaning) row input)
        Condition.someHolds_totalsWhile (fun _ _ => rfl) hne hfragments hdecide
  | _ => cases hgroups

/-! ## Entries -/

theorem Decides.declared
    {name : Option String}
    {input raw : Value}
    {c : Condition Atom}
    (hcomparison : IsComparison shape name raw)
    (h : Decides meaning name input raw c) :
    DecidesEntry meaning name input raw c := by
  intro row
  rw [Interpretation.declared_of_comparison (evaluation meaning) hcomparison]
  exact h row

theorem paths_of_comparison
    {name : Option String}
    {raw : Value}
    {path : String}
    (h : IsComparison shape name raw)
    (hpath : Declared.path? name raw = some path) :
    path ∈ Declared.paths name raw := by
  obtain ⟨k, hkind, hcompares⟩ := h.kind
  have hpaths : Declared.paths name raw = (Declared.path? name raw).toList := by
    unfold Declared.paths
    rw [hkind]
    cases k <;> first | rfl | cases hcompares
  rw [hpaths, hpath]
  exact List.mem_singleton.mpr rfl

theorem paths_of_group
    {name : Option String}
    {raw : Value}
    {k : Kind}
    {conditions : List Value}
    (hkind : Declared.kind? raw = some k)
    (hgroups : k.isGroup = true)
    (hconditions : Declared.conditions? raw = some conditions) :
    Declared.paths name raw = conditions.filterMap (Declared.path? none) := by
  unfold Declared.paths
  rw [hkind, hconditions]
  cases k <;> first | rfl | cases hgroups

/-- The builder of an entry decides it, for every input. -/
theorem filter_decides
    {name : String}
    {raw key : Value}
    {f : Filter}
    {builder : Builder Atom}
    (hkey : key.text? = some name)
    (h : Filter.Agrees shape name raw f)
    (hcallback : raw.callback? = none)
    (hundotted : ∀ path ∈ Declared.paths key.text? raw, '.' ∉ path.toList)
    (hbuilder :
      (strategy (.ofOperators backend Atom.make) callbacks table).filter key f =
        .ok builder)
    (input : Value) :
    ∃ c, builder input = pure (some c) ∧
      DecidesEntry meaning key.text? input raw c := by
  rw [hkey] at hundotted ⊢
  cases h with
  | custom same =>
      rw [hcallback] at same
      cases same
  | comparison declared agrees =>
      obtain ⟨c, hc, hdecides⟩ :=
        @comparisonBuilder_decides backend meaning table shape (some name) raw
          key _ builder declared agrees (by rw [hkey])
          (fun path hpath =>
            hundotted path (paths_of_comparison declared hpath))
          hbuilder input
      exact ⟨c, hc, hdecides.declared declared⟩
  | group declared sameKind found nonempty each agree =>
      obtain ⟨hkind, hgroups⟩ := declared
      rw [paths_of_group hkind hgroups found] at hundotted
      obtain ⟨builders, hbuilders, hgroup⟩ := Outcome.bind_eq_ok.mp hbuilder
      obtain ⟨made, hfragments, hdecide⟩ :=
        @fragments_conditions backend meaning callbacks table shape key _ _
          builders each hundotted agree hbuilders input
      exact groupBuilder_decides sameKind hkind hgroups found nonempty
        hfragments hdecide hgroup

/-- An entry and a builder that decides it. -/
structure Builds (meaning : Operator → Value → Value → Bool)
    (entry : Value × Value) (named : Name × Builder Atom) : Prop where
  name : entry.1.name? = some named.1
  decides :
    ∀ input, ∃ c, named.2 input = pure (some c) ∧
      DecidesEntry meaning entry.1.text? input entry.2 c

/-! ## Runs -/

/-- The conditions of the active entries together decide what the
interpretation says, although the interpretation stops at a refusal and the
conjunction does not. -/
theorem fragments_entries
    {entries : List (Value × Value)}
    {builders : List (Name × Builder Atom)}
    (h : List.Forall₂ (Builds meaning) entries builders)
    (hcallbacks : ∀ entry ∈ entries, entry.2.callback? = none)
    (inputs : List (Value × Value)) :
    ∃ found, fragments (Value.activeAmong builders inputs) = pure found ∧
      ∀ row, Interpretation.definition (evaluation meaning) answers row inputs
        entries = pure (Condition.allHold (Atom.truth meaning row) found) := by
  induction h with
  | nil =>
      exact ⟨[], rfl, fun row => rfl⟩
  | @cons entry named entries builders hbuilds hothers ih =>
      have hcallback := hcallbacks entry List.mem_cons_self
      obtain ⟨found, hfound, hrest⟩ :=
        ih fun other hother =>
          hcallbacks other (List.mem_cons_of_mem entry hother)
      have hactive := MemoryFilter.active?_eq_given? hbuilds.name inputs
      unfold Value.activeAmong at hfound ⊢
      rw [List.filterMap_cons, hactive]
      cases hgiven : Interpretation.given? entry.1.text? inputs with
      | none =>
          refine ⟨found, hfound, fun row => ?_⟩
          rw [Interpretation.definition, hgiven]
          exact hrest row
      | some input =>
          obtain ⟨c, hc, hdecides⟩ := hbuilds.decides input
          refine ⟨c :: found, ?_, fun row => ?_⟩
          · simp only [Option.map_some, fragments, hc, hfound]
            rfl
          · have hfilter :
                Interpretation.filter (evaluation meaning) answers entry.1.text?
                  entry.2 row input =
                  pure (c.holds (Atom.truth meaning row)) := by
              unfold Interpretation.filter
              rw [hcallback, hdecides row]
              rfl
            rw [Interpretation.definition, hgiven]
            simp only [hfilter, hrest row, Condition.allHold]
            cases c.holds (Atom.truth meaning row) <;> rfl

end Simulation
end Sql

namespace SqlFilter

open Sql

variable {backend : String} {meaning : Operator → Value → Value → Bool}
variable {callbacks : TableCallbacks Atom} {table : Table} {raw : Value}
variable {entries : List (Value × Value)} {s : SqlFilter Atom}

/-- Every entry of a definition that was accepted for a table gets a builder
that decides it. -/
theorem builds_of_define
    (hentries : raw.entries? = some entries)
    (hcallbacks : ∀ entry ∈ entries, entry.2.callback? = none)
    (hundotted :
      ∀ entry ∈ entries, ∀ path ∈ Declared.paths entry.1.text? entry.2,
        '.' ∉ path.toList)
    (h : define (.ofOperators backend Atom.make) callbacks table raw = .ok s) :
    List.Forall₂ (Builds meaning) entries s.builders := by
  obtain ⟨entries', d, compiled, hentries', hs, hgrammar, hcompiled⟩ :=
    @Strategy.compiles_of_define _ _
      (strategy (.ofOperators backend Atom.make) callbacks table)
      (fun d builders => (⟨table, d, builders⟩ : SqlFilter Atom)) raw
      table.shape (some table.name) s h
  rw [hentries] at hentries'
  cases hentries'
  subst hs
  have hall :
      ∀ entry ∈ entries, IsEntry table.shape entry ∧ entry.2.callback? = none ∧
        ∀ path ∈ Declared.paths entry.1.text? entry.2, '.' ∉ path.toList :=
    fun entry hmem =>
      ⟨hgrammar entry hmem, hcallbacks entry hmem, hundotted entry hmem⟩
  have hboth := (List.forall₂_and_left entries compiled).mpr ⟨hall, hcompiled⟩
  refine hboth.imp ?_
  rintro entry named ⟨⟨⟨name, hkey, -, hfilter⟩, hcallback, hpaths⟩, hcompiles⟩
  obtain ⟨f, hparse, hagrees⟩ :=
    Filter.exists_agrees hfilter hcompiles.isSettled
  obtain ⟨f', hparse', hbuilder⟩ := hcompiles.filter
  rw [hparse] at hparse'
  cases hparse'
  exact ⟨hcompiles.name, fun input =>
    filter_decides hkey hagrees hcallback hpaths hbuilder input⟩

/-- **The backends agree**: the condition on a table and the predicate in memory
are the same combination of comparisons. -/
theorem condition_agrees_with_predicate
    {memoryBackend sqlBackend : String}
    {shape : Shape}
    {memoryCallbacks : Callbacks}
    {f : MemoryFilter}
    (hentries : raw.entries? = some entries)
    (hcallbacks : ∀ entry ∈ entries, entry.2.callback? = none)
    (hundotted :
      ∀ entry ∈ entries, ∀ path ∈ Declared.paths entry.1.text? entry.2,
        '.' ∉ path.toList)
    (hmemory : MemoryFilter.define
        (.ofOperators memoryBackend fun op field input =>
          .ok (meaning op field input))
        memoryCallbacks shape raw = .ok f)
    (hsql :
      define (.ofOperators sqlBackend Atom.make) callbacks table raw = .ok s)
    (form : MappingForm)
    (inputs : List (Value × Value)) :
    ∃ p condition?, f.predicate (.mapping form inputs) = .ok p ∧
      s.condition (.mapping form inputs) = pure condition? ∧
      ∀ row, p row = pure
        (Condition.admits (Atom.truth meaning row) condition?) := by
  obtain ⟨answers, rfl⟩ := memoryCallbacks.exists_answers
  obtain ⟨entries', hentries', hinterprets⟩ :=
    MemoryFilter.interprets_of_define hmemory
  rw [hentries] at hentries'
  cases hentries'
  have hbuilds :=
    @builds_of_define sqlBackend meaning callbacks table raw entries s
      hentries hcallbacks hundotted hsql
  obtain ⟨found, hfragments, hdefinition⟩ :=
    @fragments_entries meaning answers entries s.builders hbuilds
      hcallbacks inputs
  refine ⟨fun row => MemoryFilter.passes row (f.active inputs),
    Condition.join .all found, rfl, ?_, fun row => ?_⟩
  · change (do
      return Condition.join .all
        (← fragments (Value.activeAmong s.builders inputs))) = _
    rw [hfragments]
    rfl
  · rw [Condition.admits_join_all, ← hdefinition row]
    exact MemoryFilter.passes_eq_definition hinterprets row inputs

/-- A table of people. -/
def people : Table :=
  .declared "people" (.table none "people") [
    ("age", "age", .integer),
    ("email", "email", .text)]

/-- Filters for people: a comparison under its own name, and a group of two. -/
def peopleEntries : List (Value × Value) :=
  [(.text "age", .comparison (.kind .gt) .none (.bool false)),
    (.text "search", .group (.kind .or) [
      .comparison (.kind .contains) (.text "email") (.bool true),
      .comparison (.kind .eq) (.text "age") (.bool false)])]

/-- The built-in operators in memory, where they do not fail. -/
def builtinMeaning (op : Operator) (field input : Value) : Bool :=
  match Memory.evaluate op field input with
  | .ok b => b
  | .error _ => false

/-- For a search alone, the predicate follows the disjunction of two atoms. -/
theorem people_agree :
    ∃ f s,
      MemoryFilter.define
        (.ofOperators "memory" fun op field input =>
          .ok (builtinMeaning op field input))
        (fun _ _ _ => .ok true) .absent (.mapping .plain peopleEntries) =
          .ok f ∧
      define (.ofOperators "tables" Atom.make) (fun _ _ _ => .ok none) people
        (.mapping .plain peopleEntries) = .ok s ∧
      ∃ p, f.predicate (.mapping .plain [(.text "search", .text "ann")]) =
        .ok p ∧
        s.condition (.mapping .plain [(.text "search", .text "ann")]) =
          pure (some (.any [
            .leaf ⟨.icontains, ⟨"email", .table none "people", "email", .text⟩,
              .text "ann"⟩,
            .leaf ⟨.eq, ⟨"age", .table none "people", "age", .integer⟩,
              .text "ann"⟩])) ∧
        p (.ofFields [("email", .text "Ann@example"), ("age", .int 30)]) =
          pure true := by
  have hcallbacks : ∀ entry ∈ peopleEntries, entry.2.callback? = none := by
    intro entry hmem
    simp only [peopleEntries, List.mem_cons, List.not_mem_nil, or_false] at hmem
    rcases hmem with rfl | rfl <;> rfl
  have hundotted :
      ∀ entry ∈ peopleEntries,
        ∀ path ∈ Declared.paths entry.1.text? entry.2, '.' ∉ path.toList := by
    intro entry hmem path hpath
    simp only [peopleEntries, List.mem_cons, List.not_mem_nil, or_false] at hmem
    rcases hmem with rfl | rfl
    · cases List.mem_singleton.mp hpath
      decide
    · change path ∈ ["email", "age"] at hpath
      simp only [List.mem_cons, List.not_mem_nil, or_false] at hpath
      rcases hpath with rfl | rfl <;> decide
  refine ⟨_, _, rfl, rfl, ?_⟩
  obtain ⟨p, condition?, hp, hcondition, hrun⟩ :=
    @condition_agrees_with_predicate builtinMeaning
      (fun _ _ _ => .ok none) people (.mapping .plain peopleEntries)
      peopleEntries _ "memory" "tables" .absent (fun _ _ _ => .ok true) _ rfl
      hcallbacks hundotted rfl rfl .plain [(.text "search", .text "ann")]
  refine ⟨p, hp, rfl, ?_⟩
  rw [hrun]
  cases hcondition
  rfl

end SqlFilter
end RecordFilter
