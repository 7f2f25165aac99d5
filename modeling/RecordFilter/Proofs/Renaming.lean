import RecordFilter.Proofs.Acceptance

/-!
# Renaming the entries of a definition

This module renames the entries of a definition, and follows the new names
through validation.

**Renaming.**  Keys that are texts count as their contents, so a renaming goes
from contents to names.  It changes the keys of a mapping and nothing else.

**Labels.**  An entry is labelled if it has a name and, being a comparison,
states its field.  Then the name is not needed as a field, and violations show
it without depending on it.

**Main result.**
* `Validation.violations_rename`: a renamed definition has the same violations
  under new names.
-/

namespace RecordFilter

open Grammar

/-! ## Renamings -/

/-- The name as a value. -/
def Name.toValue : Name → Value
  | .text s => .text s
  | .kind k => .kind k
  | .operator op => .operator op

@[simp] theorem Name.name?_toValue
    (name : Name) :
    name.toValue.name? = some name := by
  cases name <;> rfl

namespace Value

/-- The new key of an entry; keys that are no texts stay. -/
def renameKey (r : String → Name) (key : Value) : Value :=
  match key.text? with
  | some s => (r s).toValue
  | Option.none => key

/-- Entries under new keys. -/
def renameEntries {α : Type} (r : String → Name) (entries : List (Value × α)) :
    List (Value × α) :=
  entries.map fun entry => (entry.1.renameKey r, entry.2)

/-- A mapping under new keys. -/
def rename (r : String → Name) : Value → Value
  | .mapping form entries => .mapping form (renameEntries r entries)
  | v => v

/-- The texts among the keys. -/
def labels {α : Type} (entries : List (Value × α)) : List String :=
  entries.filterMap fun entry => entry.1.text?

theorem name?_renameKey
    (r : String → Name)
    (key : Value) :
    (key.renameKey r).name? = key.name?.map fun name => r name.content := by
  unfold renameKey text?
  cases hname : key.name? with
  | none => exact hname
  | some name => exact Name.name?_toValue _

theorem text?_renameKey
    (r : String → Name)
    (key : Value) :
    (key.renameKey r).text? = key.text?.map fun s => (r s).content := by
  rw [text?, name?_renameKey, text?, Option.map_map, Option.map_map]
  rfl

theorem mem_labels
    {α : Type}
    {entries : List (Value × α)}
    {entry : Value × α}
    {s : String}
    (hmem : entry ∈ entries)
    (hs : entry.1.text? = some s) :
    s ∈ labels entries := by
  exact List.mem_filterMap.mpr ⟨entry, hmem, hs⟩

end Value

/-- The names given to labels are not empty and tell the labels apart. -/
structure IsRenaming (r : String → Name) (labels : List String) : Prop where
  nonempty : ∀ s ∈ labels, (r s).content ≠ ""
  injective : ∀ s ∈ labels, ∀ t ∈ labels, (r s).content = (r t).content → s = t

/-! ## Labelled entries -/

/-- Is the value a comparison in either form, by the kind that it declares? -/
def Declared.isComparison (raw : Value) : Bool :=
  canCompare raw && (kind? raw).any fun kind => !kind.isGroup

/-- The name of the entry is not empty, and is not needed as a field. -/
structure IsLabelled (entry : Value × Value) : Prop where
  name : ∃ name, entry.1.name? = some name ∧ name.content ≠ ""
  field :
    Declared.isComparison entry.2 = true →
      (Declared.field? entry.2).isSome = true

/-! ## Violations under new names -/

/-- The violation of the renamed entry. -/
def Violation.rename (r : String → Name) (v : Violation) : Violation :=
  { v with name := r v.name.content }

namespace Validation

variable (r : String → Name) (scope : Scope)

/-- Problems become violations of the renamed entry. -/
theorem map_rename
    (name : Name)
    (path : Option String)
    (problems : List Problem) :
    (problems.map fun problem =>
      (⟨r name.content, problem, path⟩ : Violation)) =
      (problems.map fun problem => ⟨name, problem, path⟩).map
        (Violation.rename r) := by
  rw [List.map_map]
  rfl

theorem conditionViolations_rename
    (name : Name)
    (index : Nat)
    (condition : Value) :
    conditionViolations scope (r name.content) index condition =
      (conditionViolations scope name index condition).map
        (List.map (Violation.rename r)) := by
  refine Outcome.bind_eq_map fun problems _ => ?_
  exact congrArg Except.ok (map_rename r name _ problems)

theorem conditionsViolations_rename
    (name : Name)
    (index : Nat)
    (conditions : List Value) :
    conditionsViolations scope (r name.content) index conditions =
      (conditionsViolations scope name index conditions).map
        (List.map (Violation.rename r)) := by
  induction conditions generalizing index with
  | nil => rfl
  | cons condition rest ih =>
      simp only [conditionsViolations]
      rw [Outcome.map_append, conditionViolations_rename, ih]

theorem groupViolations_rename
    (name : Name)
    (raw : Value) :
    groupViolations scope (r name.content) raw =
      (groupViolations scope name raw).map (List.map (Violation.rename r)) := by
  unfold groupViolations
  split
  · exact Outcome.bind_eq_map fun _ _ => rfl
  · exact Outcome.bind_eq_map fun _ _ => rfl
  · exact conditionsViolations_rename r scope name 0 _

/-- A comparison with a field has the same problems under every name. -/
theorem comparisonProblems_of_field
    {raw : Value}
    (h : (Declared.field? raw).isSome = true)
    (name other : Option Name) :
    comparisonProblems scope name raw = comparisonProblems scope other raw := by
  have hfield : (fieldOf raw).isNone = false := by
    cases hnone : (fieldOf raw).isNone with
    | false => rfl
    | true =>
        rw [field?_eq, if_pos hnone] at h
        cases h
  unfold comparisonProblems
  simp only [hfield, Bool.false_eq_true, if_false]

/-- Only a comparison gets as far as the check of comparisons. -/
theorem isComparison_of_formProblem
    {raw : Value}
    (hform : isFilterForm raw = true)
    (hproblem : formProblem? raw (kindOf raw) = .ok none)
    (hgroup : (kindOf raw).isGroupKind = .ok false)
    (hcomparison : (kindOf raw).isComparisonKind = .ok true) :
    Declared.isComparison raw = true := by
  obtain ⟨k, hk, hcompares⟩ := Value.exists_kind_of_isKindAmong hcomparison
  rw [kind?_kindOf] at hk
  have hcan : Declared.canCompare raw = true := by
    cases raw with
    | group kind conditions =>
        simp only [formProblem?, hgroup, Outcome.ok_bind, Bool.false_eq_true,
          if_false] at hproblem
        obtain ⟨text, -, htext⟩ := Outcome.bind_eq_ok.mp hproblem
        cases htext
    | comparison kind field flag => rfl
    | mapping form entries => rfl
    | _ => cases hform
  rw [Declared.isComparison, hcan, hk, Option.any_some, hcompares]
  rfl

theorem filterViolations_rename
    (name : Name)
    {raw : Value}
    (hform : isFilterForm raw = true)
    (hfield :
      Declared.isComparison raw = true → (Declared.field? raw).isSome = true) :
    filterViolations scope (r name.content) raw =
      (filterViolations scope name raw).map
        (List.map (Violation.rename r)) := by
  refine Outcome.bind_eq_map fun problem? hproblem => ?_
  cases problem? with
  | some problem => rfl
  | none =>
      refine Outcome.bind_eq_map fun isGroup hgroup => ?_
      cases isGroup with
      | true => exact groupViolations_rename r scope name raw
      | false =>
          refine Outcome.bind_eq_map fun isComparison hcomparison => ?_
          cases isComparison with
          | false => exact Outcome.bind_eq_map fun _ _ => rfl
          | true =>
              have hexplicit := hfield
                (isComparison_of_formProblem hform hproblem hgroup hcomparison)
              simp only [if_true]
              rw [comparisonProblems_of_field scope hexplicit _ (some name)]
              refine Outcome.bind_eq_map fun problems _ => ?_
              exact congrArg Except.ok (map_rename r name none problems)

theorem entryViolations_rename
    {entry : Value × Value}
    (h : IsLabelled entry)
    (hnonempty : ∀ s, entry.1.text? = some s → (r s).content ≠ "") :
    entryViolations scope (entry.1.renameKey r, entry.2) =
      (entryViolations scope entry).map (List.map (Violation.rename r)) := by
  obtain ⟨name, hname, hne⟩ := h.name
  have hne' : (r name.content).content ≠ "" :=
    hnonempty _ (by rw [Value.text?, hname]; rfl)
  simp only [entryViolations, Value.name?_renameKey, hname, Option.map_some,
    hne, hne', if_false]
  split
  · rfl
  · split
    · next hform => exact filterViolations_rename r scope name hform h.field
    · rfl

theorem entriesViolations_rename
    {entries : List (Value × Value)}
    (h : ∀ entry ∈ entries, IsLabelled entry)
    (hnonempty : ∀ s ∈ Value.labels entries, (r s).content ≠ "") :
    entriesViolations scope (Value.renameEntries r entries) =
      (entriesViolations scope entries).map
        (List.map (Violation.rename r)) := by
  induction entries with
  | nil => rfl
  | cons entry rest ih =>
      have hfirst := entryViolations_rename r scope (h entry List.mem_cons_self)
        fun s hs => hnonempty s (Value.mem_labels List.mem_cons_self hs)
      have hrest :=
        ih (fun entry' hmem => h entry' (List.mem_cons_of_mem entry hmem))
          fun s hs => hnonempty s (by
          obtain ⟨entry', hmem, hs⟩ := List.mem_filterMap.mp hs
          exact Value.mem_labels (List.mem_cons_of_mem entry hmem) hs)
      rw [Value.renameEntries, List.map_cons, ← Value.renameEntries]
      simp only [entriesViolations]
      rw [Outcome.map_append, hfirst, hrest]

/-- **Violations do not depend on names** but for showing them, if all entries
are labelled. -/
theorem violations_rename
    {form : MappingForm}
    {entries : List (Value × Value)}
    (h : ∀ entry ∈ entries, IsLabelled entry)
    (hnonempty : ∀ s ∈ Value.labels entries, (r s).content ≠ "")
    (shape : Shape)
    (owner : Option String) :
    violations ((Value.mapping form entries).rename r) shape owner =
      (violations (.mapping form entries) shape owner).map
        (List.map (Violation.rename r)) := by
  simp only [violations, Value.rename, Value.entries?]
  cases shape.fields? with
  | error e => rfl
  | ok fields => exact entriesViolations_rename r _ h hnonempty

end Validation
end RecordFilter
