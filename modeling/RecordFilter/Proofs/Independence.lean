import RecordFilter.Proofs.Duality

/-!
# Independence of entries and conditions

Validation walks along the entries of a definition and along the conditions of a
group.  This module shows that what it finds at one place does not depend on
what stands at the others.

**Parts.**  An entry alone is a definition with that entry only.  A
condition alone is its group with that condition in the place of all
conditions; there it is the first one, so its violations have to be moved to
its place in the whole group.

**Method.**  `Outcome.Joins` says of a walk that it joins what the elements
give, each changed by its place.  One induction takes the result of such a walk
apart; the walks along entries and along conditions are two cases of it.

**Main results.**
* `Validation.violations_collected`: the violations of a definition are those
  of its entries alone, and the violations of a group are those of its
  conditions alone.
* `Validation.unnamed_group_reported_once`: under a name that is empty there is
  one violation, however many conditions the group has.
-/

namespace RecordFilter

/-! ## Walks that join results -/

namespace Outcome

variable {α β : Type}

/-- The walk joins what each element gives, changed by the place of
the element. -/
structure Joins (change : Nat → β → β) (step : α → Except Failure (List β))
    (walk : Nat → List α → Except Failure (List β)) : Prop where
  nil : ∀ i, walk i [] = .ok []
  cons :
    ∀ i x xs, walk i (x :: xs) =
      (do return (← (step x).map (List.map (change i))) ++ (← walk (i + 1) xs))

/-- A walk succeeds exactly if each element does, and then finds what they
give, in order.  Counted from `i + 1`, the others have their places in the
whole list. -/
theorem Joins.eq_ok_iff
    {change : Nat → β → β}
    {step : α → Except Failure (List β)}
    {walk : Nat → List α → Except Failure (List β)}
    (h : Joins change step walk)
    {i : Nat}
    {xs : List α}
    {found : List β} :
    walk i xs = .ok found ↔
      ∃ parts, List.Forall₂ (fun x part => step x = .ok part) xs parts ∧
        found =
          (parts.mapIdx fun j part => part.map (change (i + j))).flatten := by
  induction xs generalizing i found with
  | nil =>
      rw [h.nil]
      constructor
      · intro hfound
        cases hfound
        exact ⟨[], .nil, rfl⟩
      · rintro ⟨parts, hparts, rfl⟩
        cases hparts
        rfl
  | cons x xs ih =>
      have hplaces :
          ∀ (part : List β) (parts : List (List β)),
            ((part :: parts).mapIdx fun j part =>
              part.map (change (i + j))).flatten =
              part.map (change i) ++
                (parts.mapIdx fun j part =>
                  part.map (change (i + 1 + j))).flatten := by
        intro part parts
        simp only [List.mapIdx_cons, List.flatten_cons, Nat.add_zero,
          Nat.add_assoc, Nat.add_comm 1]
      rw [h.cons]
      constructor
      · intro hfound
        obtain ⟨first, others, hfirst, hrest, rfl⟩ := append_eq_ok_iff.mp hfound
        obtain ⟨parts, hparts, rfl⟩ := ih.mp hrest
        cases hstep : step x with
        | error e =>
            rw [hstep] at hfirst
            cases hfirst
        | ok part =>
            rw [hstep] at hfirst
            cases hfirst
            exact ⟨part :: parts, .cons hstep hparts, (hplaces part parts).symm⟩
      · rintro ⟨parts, hparts, rfl⟩
        cases hparts with
        | @cons _ part _ parts hstep hrest =>
            rw [hstep, ih.mpr ⟨parts, hrest, rfl⟩, hplaces]
            rfl

end Outcome

/-! ## Parts of a definition -/

namespace Value

/-- The definition with one entry only. -/
def alone (entry : Value × Value) : Value := .mapping .plain [entry]

/-- A group with other conditions in the place of its own. -/
def withConditions (conditions : List Value) : Value → Value
  | .group k _ => .group k conditions
  | .mapping form entries =>
      .mapping form (mapField "conditions" (fun _ => .list conditions) entries)
  | v => v

end Value

theorem Declared.kind?_withConditions
    (conditions : List Value)
    (raw : Value) :
    kind? (raw.withConditions conditions) = kind? raw := by
  cases raw with
  | mapping form entries =>
      simp [Value.withConditions, kind?, Value.field?_mapField]
  | _ => rfl

theorem Declared.conditions?_withConditions
    {raw : Value}
    {given : List Value}
    (h : conditions? raw = some given)
    (conditions : List Value) :
    conditions? (raw.withConditions conditions) = some conditions := by
  cases raw with
  | mapping form entries =>
      obtain ⟨items, hitems, -⟩ := Option.bind_eq_some_iff.mp h
      simp [Value.withConditions, conditions?, Value.field?_mapField, hitems,
        listed?]
  | group k own => rfl
  | _ => cases h

/-- The value is a group of these conditions, of which there is at least one. -/
structure Declared.IsGroupOf (conditions : List Value) (raw : Value) :
    Prop where
  kind : ∃ k, kind? raw = some k ∧ k.isGroup = true
  declared : conditions? raw = some conditions
  nonempty : conditions ≠ []

/-- A violation at the first condition of a group, moved to the condition
at a place. -/
def Violation.moveTo (index : Nat) (v : Violation) : Violation :=
  if v.path = some (Validation.conditionPath 0) then
    { v with path := some (Validation.conditionPath index) }
  else v

namespace Validation

variable {scope : Scope} {shape : Shape} {owner : Option String}
variable {found : List Violation}

/-! ## Entries -/

theorem entriesViolations_joins :
    Outcome.Joins (fun _ v => v) (entryViolations scope)
      (fun _ entries => entriesViolations scope entries) where
  nil _ := rfl
  cons _ entry rest := by
    simp only [entriesViolations, List.map_id_fun']
    cases entryViolations scope entry <;> rfl

/-- The violations of entries are those of each entry, in order. -/
theorem entriesViolations_eq_ok_iff
    {entries : List (Value × Value)} :
    entriesViolations scope entries = .ok found ↔
      ∃ parts, List.Forall₂
        (fun entry part => entryViolations scope entry = .ok part)
          entries parts ∧
        found = parts.flatten := by
  have hunchanged :
      ∀ parts : List (List Violation),
        (parts.mapIdx fun _ part => part.map fun v => v) = parts := by
    intro parts
    refine List.ext_getElem? fun i => ?_
    simp
  have hjoined :=
    @Outcome.Joins.eq_ok_iff _ _ _ _ _ (@entriesViolations_joins scope) 0
      entries found
  simpa only [hunchanged] using hjoined

/-- An entry alone is checked as it is in a whole definition. -/
theorem violations_alone
    (entry : Value × Value) :
    violations (.alone entry) shape owner =
      (do
        let fields ← shape.fields?
        entryViolations ⟨fields, ownerName owner shape.label?⟩ entry) := by
  simp only [violations, Value.alone, Value.entries?, entriesViolations]
  cases shape.fields? with
  | error e => rfl
  | ok fields =>
      simp only [Outcome.ok_bind]
      cases entryViolations ⟨fields, ownerName owner shape.label?⟩ entry with
      | error e => rfl
      | ok part => exact congrArg Except.ok (List.append_nil part)

/-! ## Conditions -/

theorem moveTo_condition
    (name : Name)
    (problem : Problem)
    (index : Nat) :
    (⟨name, problem, some (conditionPath 0)⟩ : Violation).moveTo index =
      ⟨name, problem, some (conditionPath index)⟩ := by
  simp [Violation.moveTo]

/-- A condition has the same problems at every place of a group. -/
theorem conditionViolations_moveTo
    (name : Name)
    (index : Nat)
    (condition : Value) :
    conditionViolations scope name index condition =
      (conditionViolations scope name 0 condition).map
        (List.map (Violation.moveTo index)) := by
  refine Outcome.bind_eq_map fun problems _ => ?_
  simp only [Outcome.pure_eq_ok, Except.map, List.map_map, Function.comp_def,
    moveTo_condition]

theorem conditionsViolations_joins
    (name : Name) :
    Outcome.Joins Violation.moveTo (conditionViolations scope name 0)
      (conditionsViolations scope name) where
  nil _ := rfl
  cons index condition rest := by
    rw [conditionsViolations, conditionViolations_moveTo name index]

/-- A group with one condition has the violations of that condition. -/
theorem entryViolations_withConditions
    {key raw : Value}
    {name : Name}
    {conditions : List Value}
    (hname : key.name? = some name)
    (hne : name.content ≠ "")
    (h : Declared.IsGroupOf conditions raw)
    (condition : Value) :
    entryViolations scope (key, raw.withConditions [condition]) =
      conditionViolations scope name 0 condition := by
  obtain ⟨k, hkind, hgroups⟩ := h.kind
  have hkind' : Declared.kind? (raw.withConditions [condition]) = some k := by
    rw [Declared.kind?_withConditions, hkind]
  have hconditions' :=
    Declared.conditions?_withConditions h.declared [condition]
  rw [entryViolations_eq_conditionsViolations hname hne hkind' hgroups
    hconditions'
    (List.cons_ne_nil condition []), conditionsViolations, conditionsViolations]
  cases conditionViolations scope name 0 condition with
  | error e => rfl
  | ok part => exact congrArg Except.ok (List.append_nil part)

/-- The violations of a group with a name are those of its conditions, moved to
their places. -/
theorem entryViolations_group_eq_ok_iff
    {key raw : Value}
    {name : Name}
    {conditions : List Value}
    (hname : key.name? = some name)
    (hne : name.content ≠ "")
    (h : Declared.IsGroupOf conditions raw) :
    entryViolations scope (key, raw) = .ok found ↔
      ∃ parts,
        List.Forall₂
          (fun condition part =>
            entryViolations scope (key, raw.withConditions [condition]) =
              .ok part)
          conditions parts ∧
        found =
          (parts.mapIdx fun i part =>
            part.map (Violation.moveTo i)).flatten := by
  obtain ⟨k, hkind, hgroups⟩ := h.kind
  have hjoined :=
    @Outcome.Joins.eq_ok_iff _ _ _ _ _ (@conditionsViolations_joins scope name)
      0 conditions found
  simp only [Nat.zero_add] at hjoined
  simp only [entryViolations_withConditions hname hne h]
  rw [entryViolations_eq_conditionsViolations hname hne hkind hgroups h.declared
    h.nonempty,
    hjoined]

/-- An entry without a name, or with an empty one, is reported for that and not
looked into. -/
theorem entryViolations_of_unnamed
    {key raw : Value}
    (hunnamed : ∀ name, key.text? = some name → name = "")
    (h : entryViolations scope (key, raw) = .ok found) :
    ∃ shown, ∀ raw',
      entryViolations scope (key, raw') = .ok [⟨shown, .badName, none⟩] := by
  cases hname : key.name? with
  | none =>
      simp only [entryViolations, hname] at h ⊢
      obtain ⟨text, htext, -⟩ := Outcome.bind_eq_ok.mp h
      rw [htext]
      exact ⟨.text text, fun _ => rfl⟩
  | some name =>
      have hempty : name.content = "" :=
        hunnamed name.content (by rw [Value.text?, hname]; rfl)
      exact ⟨name, fun raw' => by simp [entryViolations, hname, hempty]⟩

/-! ## Definitions -/

/-- **Violations are collected part by part.**  Those of a definition are those
of its entries alone, in order.  An entry under no name, or an empty one, has
just the violation of its name, whatever it holds.  Those of a group under a
name are those of its conditions alone, in order and each at its place. -/
theorem violations_collected
    {form : MappingForm}
    {entries : List (Value × Value)}
    (h : violations (.mapping form entries) shape owner = .ok found) :
    (∃ parts,
      List.Forall₂
        (fun entry part => violations (.alone entry) shape owner = .ok part)
        entries parts ∧
      found = parts.flatten) ∧
    ∀ key raw, (key, raw) ∈ entries →
      ((∀ name, key.text? = some name → name = "") →
        ∃ shown, ∀ raw',
          violations (.alone (key, raw')) shape owner =
            .ok [⟨shown, .badName, none⟩]) ∧
      ∀ name conditions, key.text? = some name → name ≠ "" →
        Declared.IsGroupOf conditions raw →
        ∃ parts,
          List.Forall₂
            (fun condition part =>
              violations (.alone (key, raw.withConditions [condition])) shape
                owner = .ok part)
            conditions parts ∧
          violations (.alone (key, raw)) shape owner =
            .ok (parts.mapIdx fun i part =>
              part.map (Violation.moveTo i)).flatten := by
  obtain ⟨fields, hfields, hentries⟩ := Outcome.bind_eq_ok.mp h
  obtain ⟨parts, hparts, hfound⟩ := entriesViolations_eq_ok_iff.mp hentries
  simp only [violations_alone, hfields, Outcome.ok_bind]
  refine ⟨⟨parts, hparts, hfound⟩, ?_⟩
  intro key raw hmem
  obtain ⟨part, -, hpart⟩ := Outcome.forall₂_mem_left hparts hmem
  constructor
  · intro hunnamed
    exact entryViolations_of_unnamed hunnamed hpart
  · intro text conditions hkey hne hgroup
    obtain ⟨name, hname, rfl⟩ := Option.map_eq_some_iff.mp hkey
    obtain ⟨ofConditions, hconditions, rfl⟩ :=
      (entryViolations_group_eq_ok_iff hname hne hgroup).mp hpart
    exact ⟨ofConditions, hconditions, hpart⟩

/-- A group of three conditions, of which the second is fine. -/
def choice : Value :=
  .ofFields [("kind", .text "or"), ("conditions", .list [
    .text "age",
    .comparison (.kind .eq) (.text "age") (.bool false),
    .comparison (.kind .eq) .none (.bool false)])]

/-- A definition with an entry of an unknown kind, and with a group under a name
and under an empty one. -/
def mistaken : List (Value × Value) := [
  (.text "kind", .ofFields [("kind", .text "between")]),
  (.text "either", choice),
  (.text "", choice)]

theorem violations_mistaken :
    violations (.mapping .plain mistaken) .absent none = .ok [
      ⟨.text "kind", .unknownKind "between", none⟩,
      ⟨.text "either", .notAComparison "str", some "conditions[0]"⟩,
      ⟨.text "either", .missingConditionField, some "conditions[2]"⟩,
      ⟨.text "", .badName, none⟩] := by
  rfl

theorem isGroupOf_choice :
    Declared.IsGroupOf [
      .text "age",
      .comparison (.kind .eq) (.text "age") (.bool false),
      .comparison (.kind .eq) .none (.bool false)] choice where
  kind := ⟨.or, rfl, rfl⟩
  declared := rfl
  nonempty := List.cons_ne_nil _ _

/-- The four violations of the definition above come from its three entries, and
two of them from the conditions of the group that has a name. -/
theorem mistakes_collected :
    (∃ parts,
      List.Forall₂
        (fun entry part => violations (.alone entry) .absent none = .ok part)
        mistaken parts ∧
      parts.flatten.length = 4) ∧
    (∃ parts,
      List.Forall₂
        (fun condition part =>
          violations (.alone
            (.text "either", choice.withConditions [condition])) .absent none =
            .ok part)
        [.text "age", .comparison (.kind .eq) (.text "age") (.bool false),
          .comparison (.kind .eq) .none (.bool false)] parts ∧
      violations (.alone (.text "either", choice)) .absent none =
        .ok (parts.mapIdx fun i part =>
          part.map (Violation.moveTo i)).flatten) ∧
    ∃ shown, ∀ raw',
      violations (.alone (.text "", raw')) .absent none =
        .ok [⟨shown, .badName, none⟩] := by
  obtain ⟨⟨parts, hparts, hfound⟩, hgroups⟩ :=
    violations_collected violations_mistaken
  have hnamed := hgroups (.text "either") choice (by simp [mistaken])
  have hunnamed := hgroups (.text "") choice (by simp [mistaken])
  refine ⟨⟨parts, hparts, ?_⟩,
    hnamed.2 "either" _ rfl (by decide) isGroupOf_choice, hunnamed.1 ?_⟩
  · rw [← hfound]
    rfl
  · intro name hname
    exact (Option.some.inj hname).symm

/-- A group of two conditions without a field. -/
def fieldless : Value :=
  .ofFields [("kind", .text "and"), ("conditions", .list [
    .ofFields [("kind", .text "eq")],
    .ofFields [("kind", .text "eq")]])]

/-- Under an empty name, the group above has one violation, and each of its
conditions alone has one as well, so that the group does not have those of its
conditions. -/
theorem unnamed_group_reported_once :
    Declared.IsGroupOf
      [.ofFields [("kind", .text "eq")], .ofFields [("kind", .text "eq")]]
      fieldless ∧
    violations (.alone (.text "", fieldless)) .absent none =
      .ok [⟨.text "", .badName, none⟩] ∧
    ¬ ∃ parts,
      List.Forall₂
        (fun condition part =>
          violations (.alone (.text "", fieldless.withConditions [condition]))
            .absent none = .ok part)
        [.ofFields [("kind", .text "eq")],
          .ofFields [("kind", .text "eq")]] parts ∧
      violations (.alone (.text "", fieldless)) .absent none =
        .ok (parts.mapIdx fun i part =>
          part.map (Violation.moveTo i)).flatten := by
  have hgroup :
      violations (.alone (.text "", fieldless)) .absent none =
        .ok [⟨.text "", .badName, none⟩] := by
    rfl
  have halone :
      violations (.alone
        (.text "", fieldless.withConditions [.ofFields [("kind", .text "eq")]]))
        .absent none = .ok [⟨.text "", .badName, none⟩] := by
    rfl
  refine ⟨⟨⟨.and, rfl, rfl⟩, rfl, List.cons_ne_nil _ _⟩, hgroup, ?_⟩
  rintro ⟨parts, hparts, hfound⟩
  obtain ⟨first, others, hfirst, hothers, rfl⟩ :=
    List.forall₂_cons_left_iff.mp hparts
  obtain ⟨second, none, hsecond, hnone, rfl⟩ :=
    List.forall₂_cons_left_iff.mp hothers
  obtain rfl := List.forall₂_nil_left_iff.mp hnone
  rw [halone] at hfirst hsecond
  obtain rfl := Except.ok.inj hfirst
  obtain rfl := Except.ok.inj hsecond
  rw [hgroup] at hfound
  exact absurd (congrArg List.length (Except.ok.inj hfound)) (by decide)

end Validation
end RecordFilter
