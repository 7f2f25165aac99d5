import RecordFilter.Proofs.Conditions

/-!
# Dual groups

The dual of a group has the other kind of a group, and for each condition the
condition of the complementary kind.  This module shows that it is the negation
of the group.

**Complements.**  The kinds `eq` and `neq` are complements of each other, and so
are `isNull` and `isNotNull`.  A condition of one of these kinds fails in the
way of its dual, or else has the opposite answer.

**Groups.**  A group of the kind `and` ends at the first no, its dual at the
first yes.  These are answers of the same condition, so both runs end at the
same place, also where a comparison fails.

**Main result.**
* `MemoryFilter.dual_negates`: for every accepted group of conditions with
  complements, the dual is accepted and has the opposite answers and the
  same failures.
-/

namespace RecordFilter

open Grammar

/-! ## Kinds -/

namespace Kind

/-- The complement of a comparison, and the other kind of a group. -/
def dual : Kind → Kind
  | .eq => .neq
  | .neq => .eq
  | .isNull => .isNotNull
  | .isNotNull => .isNull
  | .and => .or
  | .or => .and
  | k => k

/-- Has the comparison a complement? -/
def hasComplement : Kind → Bool
  | .eq | .neq | .isNull | .isNotNull => true
  | _ => false

@[simp] theorem isGroup_dual
    (k : Kind) :
    k.dual.isGroup = k.isGroup := by
  cases k <;> rfl

@[simp] theorem hasComplement_dual
    (k : Kind) :
    k.dual.hasComplement = k.hasComplement := by
  cases k <;> rfl

theorem isGroup_of_hasComplement
    (k : Kind)
    (h : k.hasComplement = true) :
    k.isGroup = false := by
  cases k <;> first | rfl | cases h

theorem dual_eq_contains_iff
    (k : Kind) :
    k.dual = .contains ↔ k = .contains := by
  cases k <;> decide

end Kind

/-- Complementary operators give opposite answers and fail in the same way. -/
theorem Memory.evaluate_dual
    {k : Kind}
    {flag : Bool}
    {op op' : Operator}
    (h : k.hasComplement = true)
    (hop : k.operator? flag = some op)
    (hop' : k.dual.operator? flag = some op')
    (field input : Value) :
    evaluate op' field input = not <$> evaluate op field input := by
  cases k with
  | eq =>
      cases hop
      cases hop'
      rfl
  | neq =>
      cases hop
      cases hop'
      simp only [evaluate]
      cases field.strictEq input with
      | error e => rfl
      | ok b => exact congrArg Except.ok (Bool.not_not b).symm
  | isNull | isNotNull =>
      cases hop
      cases hop'
      simp only [evaluate, nullCheck]
      cases field.isNone <;> cases input.truth <;> rfl
  | _ => cases h

/-! ## The dual of a group -/

namespace Value

/-- The dual of what declares a kind. -/
def dualKind (v : Value) : Value :=
  match v.kind? with
  | some k => .kind k.dual
  | Option.none => v

@[simp] theorem kind?_dualKind
    (v : Value) :
    v.dualKind.kind? = v.kind?.map Kind.dual := by
  unfold dualKind
  cases h : v.kind? with
  | some k => rfl
  | none => exact h

/-- The entries of a mapping, with another value under a text. -/
def mapField (name : String) (g : Value → Value)
    (entries : List (Value × Value)) : List (Value × Value) :=
  entries.map fun entry =>
    if entry.1.text? = some name then (entry.1, g entry.2) else entry

theorem field?_mapField
    (name other : String)
    (g : Value → Value)
    (entries : List (Value × Value)) :
    field? other (mapField name g entries) =
      if other = name then (field? other entries).map g
      else field? other entries := by
  unfold mapField
  induction entries with
  | nil => simp
  | cons entry rest ih =>
      have hkey :
          (if entry.1.text? = some name then (entry.1, g entry.2)
            else entry).1 = entry.1 := by
        split <;> rfl
      rw [List.map_cons, field?_cons, field?_cons, hkey, ih]
      by_cases hother : entry.1.text? = some other
      · by_cases hsame : other = name <;> simp [hother, hsame]
      · simp [hother]

/-- The filter with the dual kind. -/
def withDualKind : Value → Value
  | .comparison k field flag => .comparison k.dualKind field flag
  | .group k conditions => .group k.dualKind conditions
  | .mapping form entries => .mapping form (mapField "kind" dualKind entries)
  | v => v

/-- The elements of a list or of a tuple, each changed. -/
def mapListed (g : Value → Value) : Value → Value
  | .sequence form items => .sequence form (items.map g)
  | v => v

/-- A group with its conditions changed. -/
def mapConditions (g : Value → Value) : Value → Value
  | .group k conditions => .group k (conditions.map g)
  | .mapping form entries =>
      .mapping form (mapField "conditions" (mapListed g) entries)
  | v => v

/-- The dual of a group, in the same form. -/
def dual (group : Value) : Value :=
  group.withDualKind.mapConditions withDualKind

end Value

namespace Declared

variable (raw : Value)

@[simp] theorem kind?_withDualKind :
    kind? raw.withDualKind = (kind? raw).map Kind.dual := by
  cases raw with
  | mapping form entries =>
      simp only [Value.withDualKind, kind?, Value.field?_mapField, if_true]
      cases Value.field? "kind" entries with
      | none => rfl
      | some v => exact v.kind?_dualKind
  | comparison k field flag => exact k.kind?_dualKind
  | group k conditions => exact k.kind?_dualKind
  | _ => rfl

@[simp] theorem field?_withDualKind :
    field? raw.withDualKind = field? raw := by
  cases raw with
  | mapping form entries =>
      simp [Value.withDualKind, field?, Value.field?_mapField]
  | _ => rfl

@[simp] theorem ignoresCase_withDualKind :
    ignoresCase raw.withDualKind = ignoresCase raw := by
  cases raw with
  | mapping form entries =>
      simp [Value.withDualKind, ignoresCase, Value.field?_mapField]
  | _ => rfl

@[simp] theorem canCompare_withDualKind :
    canCompare raw.withDualKind = canCompare raw := by
  cases raw <;> rfl

@[simp] theorem isComparison_withDualKind :
    isComparison raw.withDualKind = isComparison raw := by
  rw [isComparison, isComparison, canCompare_withDualKind, kind?_withDualKind]
  cases kind? raw with
  | none => rfl
  | some k => simp

@[simp] theorem kind?_dual :
    kind? raw.dual = (kind? raw).map Kind.dual := by
  have hkind :
      ∀ g,
        kind? (raw.withDualKind.mapConditions g) =
          kind? raw.withDualKind := by
    intro g
    cases raw with
    | mapping form entries =>
        simp [Value.withDualKind, Value.mapConditions, kind?,
          Value.field?_mapField]
    | _ => rfl
  rw [Value.dual, hkind, kind?_withDualKind]

@[simp] theorem conditions?_dual :
    conditions? raw.dual =
      (conditions? raw).map (List.map Value.withDualKind) := by
  cases raw with
  | mapping form entries =>
      simp only [Value.dual, Value.withDualKind, Value.mapConditions,
        conditions?, Value.field?_mapField, if_true]
      rw [if_neg (by decide)]
      cases Value.field? "conditions" entries with
      | none => rfl
      | some items =>
          cases items with
          | sequence form items => cases form <;> rfl
          | _ => rfl
  | _ => rfl

end Declared

theorem Filter.isSettled_dual
    (raw : Value) :
    isSettled raw.dual = isSettled raw := by
  have hform :
      ∀ v : Value,
        v.withDualKind.comparison?.isSome = v.comparison?.isSome := by
    intro v
    cases v <;> rfl
  cases raw with
  | group k conditions =>
      simp only [Value.dual, Value.withDualKind, Value.mapConditions, isSettled,
        List.all_map]
      exact congrArg conditions.all (funext hform)
  | _ => rfl

/-! ## Groups with a dual -/

namespace Declared

/-- A comparison of a kind that has a complement. -/
def hasComplement (raw : Value) : Bool :=
  canCompare raw && (kind? raw).any Kind.hasComplement

theorem isComparison_of_hasComplement
    {raw : Value}
    (h : hasComplement raw = true) :
    isComparison raw = true := by
  rw [hasComplement, Bool.and_eq_true, Option.any_eq_true] at h
  obtain ⟨hform, k, hkind, hk⟩ := h
  rw [isComparison, hform, hkind, Option.any_some,
    k.isGroup_of_hasComplement hk]
  rfl

@[simp] theorem hasComplement_withDualKind
    (raw : Value) :
    hasComplement raw.withDualKind = hasComplement raw := by
  rw [hasComplement, hasComplement, canCompare_withDualKind, kind?_withDualKind]
  cases kind? raw with
  | none => rfl
  | some k => simp

/-- A group of conditions that all have complements. -/
structure HasDual (group : Value) (conditions : List Value) : Prop where
  kind : ∃ k, kind? group = some k ∧ k.isGroup = true
  declared : conditions? group = some conditions
  complements : ∀ condition ∈ conditions, hasComplement condition = true

theorem HasDual.dual
    {group : Value}
    {conditions : List Value}
    (h : HasDual group conditions) :
    HasDual group.dual (conditions.map Value.withDualKind) where
  kind := by
    obtain ⟨k, hkind, hgroups⟩ := h.kind
    exact ⟨k.dual, by rw [kind?_dual, hkind, Option.map_some],
      by rw [k.isGroup_dual, hgroups]⟩
  declared := by
    rw [conditions?_dual, h.declared, Option.map_some]
  complements := by
    rw [List.forall_mem_map]
    intro condition hmem
    rw [hasComplement_withDualKind, h.complements condition hmem]

end Declared

/-! ## Validation -/

namespace Validation

variable (scope : Scope)

theorem fieldOf_withDualKind
    (raw : Value) :
    fieldOf raw.withDualKind = fieldOf raw := by
  cases raw with
  | mapping form entries =>
      simp [Value.withDualKind, fieldOf, Value.field?_mapField]
  | _ => rfl

theorem flagProblems_withDualKind
    (raw : Value) :
    flagProblems raw.withDualKind = .ok [] ↔ flagProblems raw = .ok [] := by
  rw [flagProblems_eq_ok_nil_iff, flagProblems_eq_ok_nil_iff,
    Declared.ignoresCase_withDualKind, Declared.kind?_withDualKind]
  cases Declared.kind? raw with
  | none => rfl
  | some k => simp [Kind.dual_eq_contains_iff]

/-- A condition has no problem exactly if its dual has none. -/
theorem conditionProblems_withDualKind
    {raw : Value}
    (h : Declared.isComparison raw = true) :
    conditionProblems scope raw.withDualKind = .ok [] ↔
      conditionProblems scope raw = .ok [] := by
  have hdual : Declared.isComparison raw.withDualKind = true := by
    rw [Declared.isComparison_withDualKind, h]
  rw [conditionProblems_of_isComparison h,
    conditionProblems_of_isComparison hdual]
  exact comparisonProblems_eq_ok_nil_congr (fieldOf_withDualKind raw)
    (flagProblems_withDualKind raw) none

/-- A group passes as an entry exactly if its dual does. -/
theorem entryViolations_dual
    {key group : Value}
    {name : Name}
    {conditions : List Value}
    (h : Declared.HasDual group conditions)
    (hname : key.name? = some name)
    (hne : name.content ≠ "")
    (hnonempty : conditions ≠ []) :
    entryViolations scope (key, group.dual) = .ok [] ↔
      entryViolations scope (key, group) = .ok [] := by
  obtain ⟨k, hkind, hgroups⟩ := h.kind
  obtain ⟨k', hkind', hgroups'⟩ := h.dual.kind
  have hnonempty' : conditions.map Value.withDualKind ≠ [] := by
    simpa using hnonempty
  rw [entryViolations_of_isGroup hname hne hkind hgroups h.declared hnonempty,
    entryViolations_of_isGroup hname hne hkind' hgroups' h.dual.declared
      hnonempty',
    List.forall_mem_map]
  exact forall₂_congr fun condition hmem =>
    conditionProblems_withDualKind scope
      (Declared.isComparison_of_hasComplement (h.complements condition hmem))

end Validation

/-! ## The interpretation of the dual -/

namespace Interpretation

variable {name : Option String} {raw record input : Value}
variable {conditions : List Value}

theorem comparison_withDualKind
    (h : Declared.hasComplement raw = true)
    (record input : Value) :
    comparison Memory.evaluate name raw.withDualKind record input =
      not <$> comparison Memory.evaluate name raw record input := by
  rw [Declared.hasComplement, Bool.and_eq_true, Option.any_eq_true] at h
  obtain ⟨-, k, hkind, hk⟩ := h
  obtain ⟨op, hop⟩ :
      ∃ op, k.operator? (Declared.ignoresCase raw) = some op := by
    cases k <;> first | exact ⟨_, rfl⟩ | cases hk
  obtain ⟨op', hop'⟩ :
      ∃ op', k.dual.operator? (Declared.ignoresCase raw) = some op' := by
    cases k <;> first | exact ⟨_, rfl⟩ | cases hk
  have hpath :
      Declared.path? name raw.withDualKind = Declared.path? name raw := by
    rw [Declared.path?, Declared.path?, Declared.field?_withDualKind]
  simp only [comparison, Declared.operator?, Declared.kind?_withDualKind,
    Declared.ignoresCase_withDualKind, hkind, hpath, Option.map_some,
    Option.bind_some, hop, hop']
  cases Declared.path? name raw with
  | none => rfl
  | some path => exact Memory.evaluate_dual hk hop hop' _ input

/-- The run over the duals that goes on after the opposite answer ends at the
same condition, with the opposite answer or the same failure. -/
theorem RunsWhile.withDualKind
    {onward : Bool}
    {run run' : List Value → Except Failure Bool}
    (hrun : RunsWhile Memory.evaluate onward record input run)
    (hrun' : RunsWhile Memory.evaluate (!onward) record input run')
    (h : ∀ condition ∈ conditions, Declared.hasComplement condition = true) :
    run' (conditions.map Value.withDualKind) = not <$> run conditions := by
  induction conditions with
  | nil => rw [List.map_nil, hrun.nil, hrun'.nil]; rfl
  | cons raw rest ih =>
      have hfirst :=
        @comparison_withDualKind none raw (h raw List.mem_cons_self)
          record input
      have hrest := ih fun other hmem => h other (List.mem_cons_of_mem raw hmem)
      rw [List.map_cons, hrun.cons, hrun'.cons, hfirst, hrest]
      cases comparison Memory.evaluate none raw record input with
      | error e => rfl
      | ok b => cases b <;> cases onward <;> rfl

theorem declared_dual
    (h : Declared.HasDual raw conditions)
    (record input : Value) :
    declared Memory.evaluate name raw.dual record input =
      not <$> declared Memory.evaluate name raw record input := by
  obtain ⟨k, hkind, hgroups⟩ := h.kind
  have hand := allOf_runsWhile Memory.evaluate record input
  have hor := anyOf_runsWhile Memory.evaluate record input
  unfold declared
  rw [Declared.kind?_dual, h.dual.declared, hkind, h.declared]
  cases k with
  | and => exact hand.withDualKind hor h.complements
  | or => exact hor.withDualKind hand h.complements
  | _ => cases hgroups

end Interpretation

/-! ## Definitions of one group -/

namespace MemoryFilter

variable {callbacks : Callbacks} {shape : Shape} {form : MappingForm}
variable {f : MemoryFilter}
variable {key group given v : Value} {inputs : List (Value × Value)}
variable {conditions : List Value}

/-- A group that is accepted has some condition. -/
theorem conditions_ne_nil
    {name : String}
    (hgroup : Declared.HasDual group conditions)
    (h : IsFilter shape name group) :
    conditions ≠ [] := by
  have hform : Validation.isFilterForm group = true := by
    have hconditions := hgroup.declared
    cases group <;> first | rfl | cases hconditions
  obtain ⟨k, hkind, hgroups⟩ := hgroup.kind
  rw [Validation.isFilter_iff hform hkind, hgroups] at h
  obtain ⟨found, hfound, hne, -⟩ := h.conditions
  cases hgroup.declared.symm.trans hfound
  exact hne

/-- If a definition of one group is accepted, then so is the one of its dual. -/
theorem exists_define_dual
    (hgroup : Declared.HasDual group conditions)
    (h :
      define Memory.defaultRegistry callbacks shape
        (.mapping form [(key, group)]) = .ok f) :
    ∃ f', define Memory.defaultRegistry callbacks shape
      (.mapping form [(key, group.dual)]) = .ok f' := by
  obtain ⟨text, hkey, hne, hfilter⟩ :=
    isEntry_of_define rfl h _ List.mem_cons_self
  obtain ⟨name, hname, rfl⟩ := Option.map_eq_some_iff.mp hkey
  have hvalid :
      Validation.violations (.mapping form [(key, group.dual)]) shape none =
        .ok [] := by
    have hfound := (define_eq_ok_iff.mp h).1
    rw [Validation.violations_eq_ok_nil_iff rfl] at hfound ⊢
    simpa only [List.forall_mem_singleton,
      Validation.entryViolations_dual _ hgroup hname hne
      (conditions_ne_nil hgroup hfilter)] using hfound
  have hsettled : Filter.isSettled group.dual = true := by
    obtain ⟨named, -, hcompiles⟩ :=
      Outcome.forall₂_mem_left (compiles_checkers rfl h) List.mem_cons_self
    rw [Filter.isSettled_dual]
    exact hcompiles.isSettled
  obtain ⟨answers, rfl⟩ := callbacks.exists_answers
  obtain ⟨d, compiled, hparse, hdefinition, -⟩ :=
    @Memory.exists_definition Memory.backend Memory.evaluate answers shape
      (.mapping form [(key, group.dual)]) _ rfl
      (Validation.isEntry_of_no_violations rfl hvalid)
      (List.forall_mem_singleton.mpr hsettled)
  refine ⟨⟨shape, d, compiled⟩, ?_⟩
  rw [define_of_valid hvalid hparse, Memory.defaultRegistry_eq, hdefinition]
  rfl

/-- With a group as its one entry, the predicate is the interpretation
of the group. -/
theorem exists_predicate_of_group
    (hgroup : Declared.HasDual group conditions)
    (h :
      define Memory.defaultRegistry callbacks shape
        (.mapping form [(key, group)]) = .ok f)
    (hinputs : given.inputs = .ok inputs)
    (hgiven : Interpretation.given? key.text? inputs = some v) :
    ∃ p, f.predicate given = .ok p ∧ ∀ record,
      p record = .ofExcept
        (Interpretation.declared Memory.evaluate key.text? group record v) := by
  have hcallback : group.callback? = none := by
    have hconditions := hgroup.declared
    cases group <;> first | rfl | cases hconditions
  obtain ⟨answers, rfl⟩ := callbacks.exists_answers
  rw [Memory.defaultRegistry_eq] at h
  obtain ⟨entries, hentries, hinterprets⟩ := interprets_of_define h
  cases hentries
  refine ⟨_, predicate_eq_passes hinputs, fun record => ?_⟩
  rw [active, passes_eq_definition hinterprets]
  simp only [Interpretation.definition, hgiven, Interpretation.filter,
    hcallback]
  cases Interpretation.declared Memory.evaluate key.text? group record v with
  | error e => rfl
  | ok b => cases b <;> rfl

/-- **The dual of a group negates it**, and fails where the group does, in the
same way. -/
theorem dual_negates
    (hgroup : Declared.HasDual group conditions)
    (h :
      define Memory.defaultRegistry callbacks shape
        (.mapping form [(key, group)]) = .ok f)
    (hinputs : given.inputs = .ok inputs)
    (hgiven : Interpretation.given? key.text? inputs = some v) :
    ∃ f' p p',
      define Memory.defaultRegistry callbacks shape
        (.mapping form [(key, group.dual)]) = .ok f' ∧
      f.predicate given = .ok p ∧ f'.predicate given = .ok p' ∧
      ∀ record, p' record = not <$> p record := by
  obtain ⟨f', hf'⟩ := exists_define_dual hgroup h
  obtain ⟨p, hp, hrun⟩ := exists_predicate_of_group hgroup h hinputs hgiven
  obtain ⟨p', hp', hrun'⟩ :=
    exists_predicate_of_group hgroup.dual hf' hinputs hgiven
  refine ⟨f', p, p', hf', hp, hp', fun record => ?_⟩
  rw [hrun, hrun', Interpretation.declared_dual hgroup]
  cases Interpretation.declared Memory.evaluate key.text? group record v <;> rfl

/-! ## A sample -/

/-- A group with conditions in both forms. -/
def unclaimed : Value :=
  .ofFields [
    ("kind", .text "or"),
    ("conditions", .list [
      .comparison (.kind .neq) (.text "owner") (.bool false),
      .ofFields [("kind", .text "isNull"), ("field", .text "price")]])]

/-- A record with the owner that is looked for. -/
def claimedRecord : Value := .ofFields [("owner", .int 1), ("price", .int 5)]

/-- A record whose owner cannot be compared, and without a price. -/
def brokenRecord : Value := .ofFields [("owner", .decimal (.nan false true 0))]

/-- The dual accepts a record that the group refuses.  Where the first
comparison fails, both fail, although the second condition has an answer. -/
theorem unclaimed_negated :
    ∃ f f' p p',
      define Memory.defaultRegistry (fun _ _ _ => .ok true) .absent
        (.mapping .plain [(.text "item", unclaimed)]) = .ok f ∧
      define Memory.defaultRegistry (fun _ _ _ => .ok true) .absent
        (.mapping .plain [(.text "item", unclaimed.dual)]) = .ok f' ∧
      f.predicate (.mapping .plain [(.text "item", .int 1)]) = .ok p ∧
      f'.predicate (.mapping .plain [(.text "item", .int 1)]) = .ok p' ∧
      (p claimedRecord).result = .ok false ∧
      (p' claimedRecord).result = .ok true ∧
      (p brokenRecord).result = .error .signalingNaN ∧
      (p' brokenRecord).result = .error .signalingNaN := by
  obtain ⟨f, hf⟩ :
      ∃ f, define Memory.defaultRegistry (fun _ _ _ => .ok true) .absent
        (.mapping .plain [(.text "item", unclaimed)]) = .ok f := ⟨_, rfl⟩
  have hgroup :
      Declared.HasDual unclaimed
        [.comparison (.kind .neq) (.text "owner") (.bool false),
          .ofFields [("kind", .text "isNull"), ("field", .text "price")]] := by
    refine ⟨⟨.or, rfl, rfl⟩, rfl, ?_⟩
    simp only [List.forall_mem_cons]
    exact ⟨rfl, rfl, nofun⟩
  obtain ⟨f', p, p', hf', hp, hp', hnegates⟩ :=
    @dual_negates _ _ _ _ _ _ (.mapping .plain [(.text "item", .int 1)])
      (.int 1) _ _ hgroup hf rfl rfl
  refine ⟨f, f', p, p', hf, hf', hp, hp', ?_⟩
  rw [hnegates, hnegates]
  cases hf
  cases hp
  exact ⟨rfl, rfl, rfl, rfl⟩

end MemoryFilter
end RecordFilter
