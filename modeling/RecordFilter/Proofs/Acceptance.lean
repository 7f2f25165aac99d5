import RecordFilter.Proofs.Grammar
import RecordFilter.Proofs.Outcome
import RecordFilter.Validation

/-!
# What validation accepts

Validation lists the violations of a definition.  This module shows that the
list is empty exactly for the definitions of the grammar.

**Method.**  Each check is compared with the part of the grammar that it guards:
the walk along a path, the comparison, the group, the entry.  A check may have
no result at all, because a value cannot be looked at in the way that is needed;
everything here is said of the checks that have a result.

**Main result.**
* `violations_eq_nil_iff`: there are no violations exactly if the value
  is a definition.
-/

namespace RecordFilter

/-! ## Kinds -/

namespace Value

/-- A kind that is declared by its text is the same kind. -/
@[simp] theorem kind?_kindDeclaration
    (v : Value) :
    v.kindDeclaration.kind? = v.kind? := by
  cases v with
  | kind k => exact Kind.ofText?_text k
  | _ => rfl

theorem isKindAmong_of_kind?
    {v : Value}
    {k : Kind}
    (kinds : Kind → Bool)
    (h : v.kind? = some k) :
    v.isKindAmong kinds = .ok (kinds k) := by
  unfold isKindAmong
  rw [h]

theorem isGroupKind_of_kind?
    {v : Value}
    {k : Kind}
    (h : v.kind? = some k) :
    v.isGroupKind = .ok k.isGroup :=
  isKindAmong_of_kind? Kind.isGroup h

theorem isComparisonKind_of_kind?
    {v : Value}
    {k : Kind}
    (h : v.kind? = some k) :
    v.isComparisonKind = .ok !k.isGroup :=
  isKindAmong_of_kind? (fun k => !k.isGroup) h

/-- Only a kind can be one of some kinds. -/
theorem exists_kind_of_isKindAmong
    {kinds : Kind → Bool}
    {v : Value}
    (h : v.isKindAmong kinds = .ok true) :
    ∃ k, v.kind? = some k ∧ kinds k = true := by
  cases hk : v.kind? with
  | some k =>
      rw [isKindAmong_of_kind? kinds hk] at h
      exact ⟨k, rfl, Except.ok.inj h⟩
  | none =>
      exfalso
      simp only [isKindAmong, hk] at h
      split at h
      · cases h
      · split at h <;> cases h

/-- The branch that a check takes after asking whether a kind is that of a
group or that of a comparison; a value that is no kind is neither, if it
can be asked. -/
theorem kind_branches
    {α : Type}
    {v : Value}
    {ofGroup ofComparison ofOther : Except Failure α}
    {result : α}
    (h :
      (do
        if ← v.isGroupKind then ofGroup
        else if ← v.isComparisonKind then ofComparison
        else ofOther) = .ok result) :
    (∃ k, v.kind? = some k ∧ k.isGroup = true ∧ ofGroup = .ok result) ∨
      (∃ k, v.kind? = some k ∧ k.isGroup = false ∧ ofComparison = .ok result) ∨
        (v.kind? = Option.none ∧ ofOther = .ok result) := by
  cases hk : v.kind? with
  | some k =>
      rw [isGroupKind_of_kind? hk, isComparisonKind_of_kind? hk] at h
      cases hgroup : k.isGroup with
      | true =>
          rw [hgroup] at h
          exact Or.inl ⟨k, rfl, hgroup, h⟩
      | false =>
          rw [hgroup] at h
          exact Or.inr (Or.inl ⟨k, rfl, hgroup, h⟩)
  | none =>
      obtain ⟨isGroup, hgroup, hrest⟩ := Outcome.bind_eq_ok.mp h
      cases isGroup with
      | true =>
          obtain ⟨k, hsome, -⟩ := exists_kind_of_isKindAmong hgroup
          rw [hk] at hsome
          cases hsome
      | false =>
          obtain ⟨isComparison, hcomparison, hother⟩ :=
            Outcome.bind_eq_ok.mp hrest
          cases isComparison with
          | true =>
              obtain ⟨k, hsome, -⟩ := exists_kind_of_isKindAmong hcomparison
              rw [hk] at hsome
              cases hsome
          | false => exact Or.inr (Or.inr ⟨rfl, hother⟩)

end Value

/-! ## Kinds in the grammar -/

/-- What some declared kind satisfies, the declared kind does. -/
theorem Declared.of_kind?
    {satisfies : Kind → Prop}
    {raw : Value}
    {k : Kind}
    (h : ∃ k, kind? raw = some k ∧ satisfies k)
    (hk : kind? raw = some k) :
    satisfies k := by
  obtain ⟨k', hk', hsatisfies⟩ := h
  rw [hk] at hk'
  cases hk'
  exact hsatisfies

theorem Grammar.IsComparison.isGroup_eq_false
    {shape : Shape}
    {name : Option String}
    {raw : Value}
    {k : Kind}
    (h : IsComparison shape name raw)
    (hk : Declared.kind? raw = some k) :
    k.isGroup = false :=
  Declared.of_kind? h.kind hk

theorem Grammar.IsGroup.isGroup_eq_true
    {shape : Shape}
    {raw : Value}
    {k : Kind}
    (h : IsGroup shape raw)
    (hk : Declared.kind? raw = some k) :
    k.isGroup = true :=
  Declared.of_kind? h.kind hk

namespace Validation

open Grammar

/-! ## Declarations -/

theorem kind?_kindOf
    (raw : Value) :
    (kindOf raw).kind? = Declared.kind? raw := by
  cases raw with
  | mapping form entries =>
      simp only [kindOf, Declared.kind?]
      cases Value.field? "kind" entries <;> rfl
  | comparison k field flag => exact Value.kind?_kindDeclaration k
  | group k conditions => exact Value.kind?_kindDeclaration k
  | _ => rfl

/-- A field that is left out and one that is missing are the same
declaration. -/
theorem field?_eq
    (raw : Value) :
    Declared.field? raw =
      if (fieldOf raw).isNone then none else some (fieldOf raw) := by
  cases raw with
  | mapping form entries =>
      cases hfield : Value.field? "field" entries with
      | none => simp [Declared.field?, fieldOf, hfield, Value.isNone]
      | some field =>
          cases hnone : field.isNone <;>
            simp [Declared.field?, fieldOf, hfield, hnone]
  | _ => rfl

/-- In a mapping the first of the two spellings of the flag counts. -/
theorem ignoresCase_mapping
    (form : MappingForm)
    (entries : List (Value × Value)) :
    Declared.ignoresCase (.mapping form entries) =
      ((Comparison.flag? entries).map Value.truth).getD false := by
  simp only [Declared.ignoresCase, Comparison.flag?]
  cases Value.field? "caseInsensitive" entries with
  | some flag => rfl
  | none => cases Value.field? "case_insensitive" entries <;> rfl

theorem ignoresCase_eq
    (raw : Value) :
    ignoresCase raw = Declared.ignoresCase raw := by
  cases raw with
  | mapping form entries =>
      rw [ignoresCase_mapping, ignoresCase]
      cases Comparison.flag? entries <;> rfl
  | _ => rfl

theorem conditionsOf?_eq
    (raw : Value) :
    conditionsOf? raw = Declared.conditions? raw := by
  cases raw with
  | mapping form entries =>
      simp only [conditionsOf?, Declared.conditions?]
      cases Value.field? "conditions" entries with
      | none => rfl
      | some items =>
          cases items with
          | sequence form items => cases form <;> rfl
          | _ => rfl
  | _ => rfl

/-- A condition is refused by its form exactly if it cannot be a comparison. -/
theorem cannotCompare_eq
    (raw : Value) :
    (raw.comparison?.isNone && raw.entries?.isNone) =
      !Declared.canCompare raw := by
  cases raw <;> rfl

/-! ## Paths -/

/-- A walk meets a problem where a field is missing, behind a field that is a
single datum, or further on among the fields of a field. -/
theorem pathProblem_cases
    {path : Name}
    {root owner part : String}
    {fields : Fields}
    {rest : List String}
    {problem : Problem}
    (h :
      pathProblem path root fields owner (part :: rest) = .ok (some problem)) :
    (∃ report, fields.find? part = none ∧
      problem = .noSuchField path root report) ∨
      (∃ type typeName, fields.find? part = some type ∧
        type.unwrapOptional.fields? = .ok none ∧ rest ≠ [] ∧
        problem = .notTraversable part path.content typeName) ∨
      ∃ type nested owner', fields.find? part = some type ∧
        type.unwrapOptional.fields? = .ok (some nested) ∧
        pathProblem path root nested owner' rest = .ok (some problem) := by
  rw [pathProblem] at h
  cases hfound : fields.find? part with
  | none =>
      simp only [hfound] at h
      obtain ⟨report, -, hreport⟩ := Outcome.bind_eq_ok.mp h
      cases hreport
      exact .inl ⟨report, rfl, rfl⟩
  | some type =>
      simp only [hfound] at h
      obtain ⟨nested?, hfields, hrest⟩ := Outcome.bind_eq_ok.mp h
      cases nested? with
      | some nested => exact .inr (.inr ⟨type, nested, _, rfl, hfields, hrest⟩)
      | none =>
          simp only [] at hrest
          split at hrest
          · cases hrest
          · split at hrest
            · rename_i typeName _
              cases rest with
              | nil => cases hrest
              | cons next rest =>
                  cases hrest
                  exact .inr (.inl
                    ⟨type, typeName, rfl, hfields, List.cons_ne_nil next rest,
                      rfl⟩)
            · cases hrest

/-- A walk meets no problem exactly if it ends well. -/
theorem pathProblem_eq_none_iff
    {path : Name}
    {root owner : String}
    {fields : Fields}
    {parts : List String}
    {problem : Option Problem}
    (h : pathProblem path root fields owner parts = .ok problem) :
    problem = none ↔ Walk fields parts := by
  induction parts generalizing fields owner with
  | nil =>
      cases h
      exact ⟨fun _ => .done, fun _ => rfl⟩
  | cons part rest ih =>
      rw [pathProblem] at h
      cases hfound : fields.find? part with
      | none =>
          simp only [hfound] at h
          obtain ⟨report, -, hsome⟩ := Outcome.bind_eq_ok.mp h
          cases hsome
          constructor
          · intro hnone
            cases hnone
          · intro walk
            exact absurd walk (Walk.not_of_missing hfound)
      | some type =>
          simp only [hfound] at h
          obtain ⟨nested?, hfields, hrest⟩ := Outcome.bind_eq_ok.mp h
          cases nested? with
          | some nested =>
              rw [Walk.iff_of_known hfound hfields]
              exact ih hrest
          | none =>
              rw [Walk.iff_of_unknown hfound hfields]
              simp only [] at hrest
              split at hrest
              · cases hrest
              · cases hscalar : type.unwrapOptional.scalar? with
                | none =>
                    simp only [hscalar] at hrest
                    cases hrest
                    simp
                | some typeName =>
                    simp only [hscalar] at hrest
                    cases hrest
                    cases rest <;> simp

/-- A path has no problem exactly if the shape accepts it. -/
theorem checkPath_eq_none_iff
    {shape : Shape}
    {fields : Fields}
    {path : Name}
    {root : String}
    {problem : Option Problem}
    (hshape : shape.fields? = .ok (some fields))
    (h : checkPath path root fields = .ok problem) :
    problem = none ↔ Accepts shape path.content := by
  have haccepts :
      Accepts shape path.content ↔
        (∃ type, fields.find? path.content = some type) ∨
          Walk fields (Path.segments path.content) := by
    constructor
    · intro accepted
      cases accepted with
      | unknown hnone =>
          rw [hshape] at hnone
          cases hnone
      | declared hsome found =>
          rw [hshape] at hsome
          cases hsome
          exact Or.inl ⟨_, found⟩
      | walked hsome walk =>
          rw [hshape] at hsome
          cases hsome
          exact Or.inr walk
    · rintro (⟨type, found⟩ | walk)
      · exact .declared hshape found
      · exact .walked hshape walk
  rw [haccepts]
  unfold checkPath at h
  cases hfound : fields.find? path.content with
  | some type =>
      simp only [hfound] at h
      cases h
      simp
  | none =>
      simp only [hfound] at h
      simpa using pathProblem_eq_none_iff h

/-- The problems of a path in a scope, compared with the shape that the scope
comes from. -/
theorem pathProblems_eq_nil_iff
    {shape : Shape}
    {scope : Scope}
    {path : Name}
    {problems : List Problem}
    (hshape : shape.fields? = .ok scope.fields)
    (h : pathProblems scope path = .ok problems) :
    problems = [] ↔ Accepts shape path.content := by
  unfold pathProblems at h
  cases hfields : scope.fields with
  | none =>
      simp only [hfields] at h
      cases h
      rw [hfields] at hshape
      exact ⟨fun _ => .unknown hshape, fun _ => rfl⟩
  | some fields =>
      simp only [hfields] at h
      rw [hfields] at hshape
      obtain ⟨problem, hproblem, hlist⟩ := Outcome.bind_eq_ok.mp h
      cases hlist
      rw [← checkPath_eq_none_iff hshape hproblem]
      cases problem <;> simp

/-! ## Comparisons -/

theorem flagProblems_eq_nil_iff
    {raw : Value}
    {problems : List Problem}
    (h : flagProblems raw = .ok problems) :
    problems = [] ↔
      (Declared.ignoresCase raw = true →
        Declared.kind? raw = some .contains) := by
  simp only [flagProblems, ignoresCase_eq, kind?_kindOf] at h
  cases hflag : Declared.ignoresCase raw with
  | false =>
      simp only [hflag, Bool.false_and, Bool.false_eq_true, if_false] at h
      cases h
      simp
  | true =>
      by_cases hkind : Declared.kind? raw = some .contains
      · simp only [hflag, hkind, ne_eq, not_true_eq_false, decide_false,
          Bool.and_false, Bool.false_eq_true, if_false] at h
        cases h
        simp [hkind]
      · simp only [hflag, hkind, ne_eq, not_false_eq_true, decide_true,
          Bool.and_true, if_true] at h
        obtain ⟨text, -, hlist⟩ := Outcome.bind_eq_ok.mp h
        cases hlist
        simp [hkind]

theorem flagAndPath_eq_nil_iff
    {shape : Shape}
    {scope : Scope}
    {raw : Value}
    {path : Name}
    {problems : List Problem}
    (hshape : shape.fields? = .ok scope.fields)
    (h :
      (do return (← flagProblems raw) ++ (← pathProblems scope path)) =
        .ok problems) :
    problems = [] ↔
      (Declared.ignoresCase raw = true → Declared.kind? raw = some .contains) ∧
        Accepts shape path.content := by
  obtain ⟨ofFlag, ofPath, hflag, hpath, rfl⟩ := Outcome.append_eq_ok_iff.mp h
  rw [List.append_eq_nil_iff, flagProblems_eq_nil_iff hflag,
    pathProblems_eq_nil_iff hshape hpath]

/-- A value in a form of a comparison, of the kind of a comparison, has no
problem exactly if it is a comparison. -/
theorem comparisonProblems_eq_nil_iff
    {shape : Shape}
    {scope : Scope}
    {name : Option Name}
    {raw : Value}
    {problems : List Problem}
    (hshape : shape.fields? = .ok scope.fields)
    (hname : ∀ n, name = some n → n.content ≠ "")
    (hform : Declared.canCompare raw = true)
    (hkind : ∃ kind, Declared.kind? raw = some kind ∧ kind.isGroup = false)
    (h : comparisonProblems scope name raw = .ok problems) :
    problems = [] ↔ IsComparison shape (name.map Name.content) raw := by
  have hmeans :
      ∀ path : Option String,
        Declared.path? (name.map Name.content) raw = path →
        (IsComparison shape (name.map Name.content) raw ↔
          (Declared.ignoresCase raw = true →
            Declared.kind? raw = some .contains) ∧
            ∃ p, path = some p ∧ p ≠ "" ∧ Accepts shape p) := by
    rintro path rfl
    exact ⟨fun hc => ⟨hc.flag, hc.path⟩, fun hc => ⟨hform, hkind, hc.1, hc.2⟩⟩
  unfold comparisonProblems at h
  cases hmissing : (fieldOf raw).isNone with
  | true =>
      simp only [hmissing, if_true] at h
      have hpath :
          Declared.path? (name.map Name.content) raw =
            name.map Name.content := by
        rw [Declared.path?, field?_eq, if_pos hmissing]
      rw [hmeans _ hpath]
      cases name with
      | none =>
          cases h
          simp
      | some n =>
          rw [flagAndPath_eq_nil_iff hshape h]
          simp [hname n rfl]
  | false =>
      simp only [hmissing, Bool.false_eq_true, if_false] at h
      have hpath :
          Declared.path? (name.map Name.content) raw = (fieldOf raw).text? := by
        rw [Declared.path?, field?_eq,
          if_neg (Bool.eq_false_iff.mp hmissing)]
      rw [hmeans _ hpath, Value.text?]
      cases hfield : (fieldOf raw).name? with
      | none =>
          simp only [hfield] at h
          cases h
          simp
      | some path =>
          simp only [hfield] at h
          by_cases hempty : path.content = ""
          · rw [if_pos hempty] at h
            cases h
            simp [hempty]
          · rw [if_neg hempty] at h
            rw [flagAndPath_eq_nil_iff hshape h]
            simp [hempty]

/-! ## Groups -/

/-- A condition of a group, which has no name to fall back on, has no problem
exactly if it is a comparison that names its field. -/
theorem conditionProblems_eq_nil_iff
    {shape : Shape}
    {scope : Scope}
    {condition : Value}
    {problems : List Problem}
    (hshape : shape.fields? = .ok scope.fields)
    (h : conditionProblems scope condition = .ok problems) :
    problems = [] ↔ IsComparison shape none condition := by
  rw [conditionProblems, cannotCompare_eq] at h
  cases hform : Declared.canCompare condition with
  | false =>
      rw [hform, if_pos (by rfl)] at h
      cases h
      refine iff_of_false (List.cons_ne_nil _ _) fun hcomparison => ?_
      rw [hcomparison.form] at hform
      cases hform
  | true =>
      rw [hform, if_neg (by simp)] at h
      rcases Value.kind_branches h with
        ⟨k, hk, hgroups, hnested⟩ | ⟨k, hk, hcompares, hproblems⟩ | ⟨hunknown,
          hproblem⟩
      · cases hnested
        rw [kind?_kindOf] at hk
        refine iff_of_false (List.cons_ne_nil _ _) fun hcomparison => ?_
        rw [hcomparison.isGroup_eq_false hk] at hgroups
        cases hgroups
      · rw [kind?_kindOf] at hk
        have hname : ∀ n : Name, none = some n → n.content ≠ "" := by
          intro n hn
          cases hn
        exact comparisonProblems_eq_nil_iff hshape hname hform
          ⟨k, hk, hcompares⟩ hproblems
      · obtain ⟨problem, -, hlist⟩ := Outcome.bind_eq_ok.mp hproblem
        cases hlist
        rw [kind?_kindOf] at hunknown
        refine iff_of_false (List.cons_ne_nil _ _) fun hcomparison => ?_
        obtain ⟨k, hk, -⟩ := hcomparison.kind
        rw [hunknown] at hk
        cases hk

/-- The conditions of a group are checked one by one, wherever the
counting starts. -/
theorem conditionsViolations_eq_nil_iff
    {shape : Shape}
    {scope : Scope}
    {name : Name}
    {index : Nat}
    {conditions : List Value}
    {found : List Violation}
    (hshape : shape.fields? = .ok scope.fields)
    (h : conditionsViolations scope name index conditions = .ok found) :
    found = [] ↔
      ∀ condition ∈ conditions, IsComparison shape none condition := by
  induction conditions generalizing index found with
  | nil =>
      cases h
      simp
  | cons condition rest ih =>
      obtain ⟨first, others, hfirst, hrest, rfl⟩ :=
        Outcome.append_eq_ok_iff.mp h
      obtain ⟨problems, hproblems, hmap⟩ := Outcome.bind_eq_ok.mp hfirst
      cases hmap
      rw [List.append_eq_nil_iff, List.map_eq_nil_iff,
        conditionProblems_eq_nil_iff hshape hproblems, ih hrest,
        List.forall_mem_cons]

/-- A value in a form of a group, of the kind of a group, has no violation
exactly if it is a group. -/
theorem groupViolations_eq_nil_iff
    {shape : Shape}
    {scope : Scope}
    {name : Name}
    {raw : Value}
    {found : List Violation}
    (hshape : shape.fields? = .ok scope.fields)
    (hform : Declared.canGroup raw = true)
    (hkind : ∃ kind, Declared.kind? raw = some kind ∧ kind.isGroup = true)
    (h : groupViolations scope name raw = .ok found) :
    found = [] ↔ IsGroup shape raw := by
  rw [groupViolations, conditionsOf?_eq] at h
  have hmeans :
      ∀ conditions? : Option (List Value),
        Declared.conditions? raw = conditions? →
        (IsGroup shape raw ↔
          ∃ conditions, conditions? = some conditions ∧ conditions ≠ [] ∧
            ∀ condition ∈ conditions, IsComparison shape none condition) := by
    rintro conditions? rfl
    exact ⟨fun hg => hg.conditions, fun hg => ⟨hform, hkind, hg⟩⟩
  rw [hmeans _ rfl]
  cases hconditions : Declared.conditions? raw with
  | none =>
      simp only [hconditions] at h
      obtain ⟨text, -, hlist⟩ := Outcome.bind_eq_ok.mp h
      cases hlist
      simp
  | some conditions =>
      cases conditions with
      | nil =>
          simp only [hconditions] at h
          obtain ⟨text, -, hlist⟩ := Outcome.bind_eq_ok.mp h
          cases hlist
          simp
      | cons condition rest =>
          simp only [hconditions] at h
          rw [conditionsViolations_eq_nil_iff hshape h]
          simp

/-! ## Entries -/

/-- Of a value with a known kind, the kind tells whether it can be a comparison
or a group. -/
theorem isFilter_iff
    {shape : Shape}
    {name : String}
    {raw : Value}
    {k : Kind}
    (hform : isFilterForm raw = true)
    (hkind : Declared.kind? raw = some k) :
    IsFilter shape name raw ↔
      if k.isGroup then IsGroup shape raw
      else IsComparison shape (some name) raw := by
  constructor
  · intro hfilter
    cases hfilter with
    | custom hcallback => cases raw <;> cases hform <;> cases hcallback
    | comparison hcomparison =>
        rw [hcomparison.isGroup_eq_false hkind, if_neg (by simp)]
        exact hcomparison
    | group hgroup =>
        rw [hgroup.isGroup_eq_true hkind, if_pos rfl]
        exact hgroup
  · intro h
    split at h
    · exact .group h
    · exact .comparison h

/-- A value whose kind is not known is neither a comparison nor a group. -/
theorem not_isFilter_of_unknown
    {shape : Shape}
    {name : String}
    {raw : Value}
    (hform : isFilterForm raw = true)
    (hkind : Declared.kind? raw = none) :
    ¬ IsFilter shape name raw := by
  intro hfilter
  cases hfilter with
  | custom hcallback => cases raw <;> cases hform <;> cases hcallback
  | comparison hcomparison =>
      obtain ⟨k, hk, -⟩ := hcomparison.kind
      rw [hkind] at hk
      cases hk
  | group hgroup =>
      obtain ⟨k, hk, -⟩ := hgroup.kind
      rw [hkind] at hk
      cases hk

/-- The form has no problem exactly if it fits the kind. -/
theorem formProblem?_eq_none_iff
    {raw : Value}
    {k : Kind}
    {problem : Option Problem}
    (hform : isFilterForm raw = true)
    (hkind : Declared.kind? raw = some k)
    (h : formProblem? raw (kindOf raw) = .ok problem) :
    problem = none ↔
      if k.isGroup then Declared.canGroup raw = true
      else Declared.canCompare raw = true := by
  have hgroupKind : (kindOf raw).isGroupKind = .ok k.isGroup := by
    rw [← kind?_kindOf] at hkind
    exact Value.isGroupKind_of_kind? hkind
  cases raw with
  | comparison k' field flag =>
      simp only [formProblem?, hgroupKind, Outcome.ok_bind] at h
      cases hgroup : k.isGroup with
      | true =>
          simp only [hgroup, if_true] at h
          obtain ⟨text, -, hsome⟩ := Outcome.bind_eq_ok.mp h
          cases hsome
          simp [Declared.canGroup]
      | false =>
          simp only [hgroup, Bool.false_eq_true, if_false] at h
          cases h
          simp [Declared.canCompare]
  | group k' conditions =>
      simp only [formProblem?, hgroupKind, Outcome.ok_bind] at h
      cases hgroup : k.isGroup with
      | true =>
          simp only [hgroup, if_true] at h
          cases h
          simp [Declared.canGroup]
      | false =>
          simp only [hgroup, Bool.false_eq_true, if_false] at h
          obtain ⟨text, -, hsome⟩ := Outcome.bind_eq_ok.mp h
          cases hsome
          simp [Declared.canCompare]
  | mapping form entries =>
      cases h
      simp [Declared.canGroup, Declared.canCompare]
  | _ => cases hform

theorem not_isFilter_of_formProblem
    {shape : Shape}
    {name : String}
    {raw : Value}
    {problem : Problem}
    (hform : isFilterForm raw = true)
    (h : formProblem? raw (kindOf raw) = .ok (some problem)) :
    ¬ IsFilter shape name raw := by
  cases hkind : Declared.kind? raw with
  | none => exact not_isFilter_of_unknown hform hkind
  | some k =>
      have hfits := formProblem?_eq_none_iff hform hkind h
      rw [isFilter_iff hform hkind]
      cases hgroup : k.isGroup with
      | true =>
          rw [hgroup] at hfits
          intro hisGroup
          cases hfits.mpr hisGroup.form
      | false =>
          rw [hgroup] at hfits
          intro hisComparison
          cases hfits.mpr hisComparison.form

/-- A value in a form of a filter has no violation exactly if it is a filter. -/
theorem filterViolations_eq_nil_iff
    {shape : Shape}
    {scope : Scope}
    {name : Name}
    {raw : Value}
    {found : List Violation}
    (hshape : shape.fields? = .ok scope.fields)
    (hname : name.content ≠ "")
    (hform : isFilterForm raw = true)
    (h : filterViolations scope name raw = .ok found) :
    found = [] ↔ IsFilter shape name.content raw := by
  obtain ⟨problem, hproblem, hrest⟩ := Outcome.bind_eq_ok.mp h
  cases problem with
  | some problem =>
      cases hrest
      exact iff_of_false (List.cons_ne_nil _ _)
        (not_isFilter_of_formProblem hform hproblem)
  | none =>
      rcases Value.kind_branches hrest with
        ⟨k, hk, hgroups, hfound⟩ | ⟨k, hk, hcompares, hfound⟩ | ⟨hunknown,
          hfound⟩
      · rw [kind?_kindOf] at hk
        have hfit := (formProblem?_eq_none_iff hform hk hproblem).mp rfl
        rw [isFilter_iff hform hk]
        rw [hgroups] at hfit ⊢
        exact groupViolations_eq_nil_iff hshape hfit ⟨k, hk, hgroups⟩ hfound
      · rw [kind?_kindOf] at hk
        have hfit := (formProblem?_eq_none_iff hform hk hproblem).mp rfl
        have hnonempty : ∀ n : Name, some name = some n → n.content ≠ "" := by
          intro n hn
          cases hn
          exact hname
        obtain ⟨problems, hproblems, hmap⟩ := Outcome.bind_eq_ok.mp hfound
        cases hmap
        rw [isFilter_iff hform hk, List.map_eq_nil_iff]
        rw [hcompares] at hfit ⊢
        exact comparisonProblems_eq_nil_iff hshape hnonempty hfit
          ⟨k, hk, hcompares⟩ hproblems
      · rw [kind?_kindOf] at hunknown
        obtain ⟨problem, -, hlist⟩ := Outcome.bind_eq_ok.mp hfound
        cases hlist
        exact iff_of_false (List.cons_ne_nil _ _)
          (not_isFilter_of_unknown hform hunknown)

theorem isFilterForm_of_isFilter
    {shape : Shape}
    {name : String}
    {raw : Value}
    (hcallback : raw.callback?.isSome = false)
    (h : IsFilter shape name raw) :
    isFilterForm raw = true := by
  cases h with
  | custom hyes =>
      rw [hcallback] at hyes
      cases hyes
  | comparison hcomparison =>
      have hform := hcomparison.form
      cases raw <;> first | rfl | cases hform
  | group hgroup =>
      have hform := hgroup.form
      cases raw <;> first | rfl | cases hform

theorem entryViolations_eq_nil_iff
    {shape : Shape}
    {scope : Scope}
    {entry : Value × Value}
    {found : List Violation}
    (hshape : shape.fields? = .ok scope.fields)
    (h : entryViolations scope entry = .ok found) :
    found = [] ↔ IsEntry shape entry := by
  unfold entryViolations at h
  cases hname : entry.1.name? with
  | none =>
      simp only [hname] at h
      obtain ⟨text, -, hlist⟩ := Outcome.bind_eq_ok.mp h
      cases hlist
      simp [IsEntry, Value.text?, hname]
  | some name =>
      simp only [hname] at h
      have hmeans :
          IsEntry shape entry ↔
            name.content ≠ "" ∧ IsFilter shape name.content entry.2 := by
        simp [IsEntry, Value.text?, hname]
      rw [hmeans]
      by_cases hempty : name.content = ""
      · rw [if_pos hempty] at h
        cases h
        simp [hempty]
      · rw [if_neg hempty] at h
        cases hcallback : entry.2.callback?.isSome with
        | true =>
            rw [if_pos hcallback] at h
            cases h
            exact ⟨fun _ => ⟨hempty, .custom hcallback⟩, fun _ => rfl⟩
        | false =>
            rw [hcallback, if_neg (by simp)] at h
            cases hform : isFilterForm entry.2 with
            | true =>
                rw [if_pos hform] at h
                rw [filterViolations_eq_nil_iff hshape hempty hform h]
                simp [hempty]
            | false =>
                rw [hform, if_neg (by simp)] at h
                cases h
                refine iff_of_false (List.cons_ne_nil _ _) ?_
                rintro ⟨-, hfilter⟩
                rw [isFilterForm_of_isFilter hcallback hfilter] at hform
                cases hform

theorem entriesViolations_eq_nil_iff
    {shape : Shape}
    {scope : Scope}
    {entries : List (Value × Value)}
    {found : List Violation}
    (hshape : shape.fields? = .ok scope.fields)
    (h : entriesViolations scope entries = .ok found) :
    found = [] ↔ ∀ entry ∈ entries, IsEntry shape entry := by
  induction entries generalizing found with
  | nil =>
      cases h
      simp
  | cons entry rest ih =>
      obtain ⟨first, others, hfirst, hrest, rfl⟩ :=
        Outcome.append_eq_ok_iff.mp h
      rw [List.append_eq_nil_iff, entryViolations_eq_nil_iff hshape hfirst,
        ih hrest, List.forall_mem_cons]

/-- The entries of a definition without violations. -/
theorem isEntry_of_no_violations
    {raw : Value}
    {shape : Shape}
    {owner : Option String}
    {entries : List (Value × Value)}
    (hentries : raw.entries? = some entries)
    (h : violations raw shape owner = .ok []) :
    ∀ entry ∈ entries, IsEntry shape entry := by
  simp only [violations, hentries] at h
  obtain ⟨fields, hfields, hrest⟩ := Outcome.bind_eq_ok.mp h
  exact (entriesViolations_eq_nil_iff hfields hrest).mp rfl

/-- **Validation accepts exactly the grammar.** -/
theorem violations_eq_nil_iff
    {raw : Value}
    {shape : Shape}
    {owner : Option String}
    {found : List Violation}
    (h : violations raw shape owner = .ok found) :
    found = [] ↔ IsDefinition shape raw := by
  unfold violations at h
  cases hentries : raw.entries? with
  | none =>
      simp only [hentries] at h
      cases h
      simp [IsDefinition, hentries]
  | some entries =>
      simp only [hentries] at h
      obtain ⟨fields, hfields, hrest⟩ := Outcome.bind_eq_ok.mp h
      rw [entriesViolations_eq_nil_iff hfields hrest]
      simp [IsDefinition, hentries]

/-- A definition with every form of entry and a path into a nested field is
accepted. -/
theorem isDefinition_sample :
    violations sample sampleShape none = .ok [] ∧
      IsDefinition sampleShape sample := by
  have hnone : violations sample sampleShape none = .ok [] := by
    rfl
  exact ⟨hnone, (violations_eq_nil_iff hnone).mp rfl⟩

end Validation
end RecordFilter
