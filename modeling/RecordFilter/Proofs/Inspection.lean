import RecordFilter.Proofs.Acceptance
import RecordFilter.Proofs.Occurrence

/-!
# When validation has a result

Validation lists violations, but to do so it has to look at values and shapes
that anybody may have written.  This module says exactly when that is possible.

**Defects.**  A kind has to be hashable, or a set, before it is looked up, and
it has to have a text before it is reported; so does a name that is none.  A
report on a missing field sorts the known names, which have to be texts.  A type
without known fields has to be hashable.  The names in a collection have to be
hashable, and the types of a class have to be readable.

**Method.**  `FailsBy` says of a run that it fails exactly if there is a defect,
and then with the failure of one.  It goes through runs of two steps, so each
check needs one lemma.

**Main results.**
* `Validation.violations_or_defect`: validation has a result exactly if
  there is no defect.
* `Validation.violations_unreadable`: there are definitions and
  shapes with defects.
-/

namespace RecordFilter

open Grammar

/-! ## Runs that fail by a defect -/

namespace Outcome

variable {α β : Type} {defect other : Failure → Prop}

/-- The run fails if there is a defect, and then with the failure of one;
otherwise it has a result. -/
def FailsBy (defect : Failure → Prop) (run : Except Failure α) : Prop :=
  (∃ a, run = .ok a) ∧ (∀ e, ¬ defect e) ∨ ∃ e, run = .error e ∧ defect e

namespace FailsBy

theorem ok
    (a : α)
    (h : ∀ e, ¬ defect e) :
    FailsBy defect (.ok a) := by
  exact .inl ⟨⟨a, rfl⟩, h⟩

theorem error
    {e : Failure}
    (h : defect e) :
    FailsBy defect (.error e : Except Failure α) := by
  exact .inr ⟨e, rfl, h⟩

theorem congr
    {x : Except Failure α}
    (hx : FailsBy defect x)
    (h : ∀ e, other e ↔ defect e) :
    FailsBy other x := by
  rw [show other = defect from funext fun e => propext (h e)]
  exact hx

/-- A run of two steps has the defects of both; those of the second one may
depend on the result of the first. -/
theorem bind
    {x : Except Failure α}
    {f : α → Except Failure β}
    (hx : FailsBy defect x)
    (other : Failure → Prop)
    (hf : ∀ a, x = .ok a → FailsBy other (f a)) :
    FailsBy (fun e => defect e ∨ other e) (x >>= f) := by
  rcases hx with ⟨⟨a, ha⟩, hnone⟩ | ⟨e, he, hdefect⟩
  · rw [ha, ok_bind]
    exact (hf a ha).congr fun e => or_iff_right (hnone e)
  · rw [he, error_bind]
    exact .error (.inl hdefect)

theorem map
    {x : Except Failure α}
    (hx : FailsBy defect x)
    (f : α → β) :
    FailsBy defect (x >>= fun a => pure (f a)) := by
  rcases hx with ⟨⟨a, ha⟩, hnone⟩ | ⟨e, he, hdefect⟩
  · rw [ha, ok_bind]
    exact .ok (f a) hnone
  · rw [he, error_bind]
    exact .error hdefect

/-- A run that fails in one way and for one reason has that defect alone. -/
theorem of_failsIff
    {x : Except Failure α}
    {e : Failure}
    {reason : Prop}
    (hx : FailsIff e reason x) :
    FailsBy (fun e' => e' = e ∧ reason) x := by
  rcases hx with ⟨⟨a, ha⟩, hreason⟩ | ⟨herror, hreason⟩
  · rw [ha]
    exact .ok a fun e' h => hreason h.2
  · rw [herror]
    exact .error ⟨rfl, hreason⟩

end FailsBy
end Outcome

open Outcome

/-! ## Shapes -/

namespace Shape

/-- Why the fields of a shape cannot be listed. -/
inductive Defect : Shape → Failure → Prop
  /-- A collection of names holds one that cannot be a key. -/
  | names
      {v : Value}
      {names : List Value}
      (collection : v.collection? = some names)
      (refused : ∃ name ∈ names, name.hashable = false) :
      Defect (.constant v) .unhashable
  /-- A type of a class cannot be read, and not because a name in it is unknown
  or is no type. -/
  | types
      {form : RecordForm}
      {name : String}
      {base : Shape}
      {own : List (String × Shape)}
      {e : Failure}
      (plainer : form? (.record form name base own) ≠ some .model)
      (unreadable : hints (.record form name base own) = .error e)
      (final : leavesOpen e = false) :
      Defect (.record form name base own) e
  /-- A type of a validating model cannot be read; such a model cannot be
  declared. -/
  | modelTypes
      {form : RecordForm}
      {name : String}
      {base : Shape}
      {own : List (String × Shape)}
      {e : Failure}
      (validating : form? (.record form name base own) = some .model)
      (unreadable : modelFields (.record form name base own) = .error e) :
      Defect (.record form name base own) e

theorem fieldsOfNames_failsIff
    (names : List Value) :
    FailsIff .unhashable (∃ name ∈ names, name.hashable = false)
      (fieldsOfNames names) := by
  have hall :
      names.all Value.hashable = true ↔
        ¬ ∃ name ∈ names, name.hashable = false := by
    simp [List.all_eq_true]
  unfold fieldsOfNames
  split
  · rename_i hhashable
    exact .ok _ (hall.mp hhashable)
  · rename_i hrefused
    exact .inr ⟨rfl, not_not.mp (mt hall.mpr hrefused)⟩

/-- The types of a class are read, or stay as they are written, unless they fail
for good. -/
theorem hintsOr_failsBy
    (own : List (String × Shape))
    (s : Shape) :
    FailsBy (fun e => s.hints = .error e ∧ leavesOpen e = false)
      (s.hintsOr own) := by
  unfold hintsOr
  cases hhints : s.hints with
  | ok fields => exact .ok _ (by simp)
  | error e =>
      cases hopen : leavesOpen e with
      | true =>
          simp only [hopen, if_true]
          refine .ok _ fun e' h => ?_
          cases h.1
          rw [hopen] at h
          cases h.2
      | false =>
          simp only [hopen, Bool.false_eq_true, if_false]
          exact .error ⟨rfl, hopen⟩

theorem recordFields?_failsBy
    (form : RecordForm)
    (name : String)
    (base : Shape)
    (own : List (String × Shape)) :
    FailsBy (Defect (.record form name base own))
      (recordFields? own (.record form name base own)) := by
  have htypes := hintsOr_failsBy own (.record form name base own)
  unfold recordFields?
  split
  · rename_i hmodel
    have hfields :
        FailsBy
          (fun e => modelFields (.record form name base own) = .error e)
          (modelFields (.record form name base own)) := by
      cases hresult : modelFields (.record form name base own) with
      | ok fields => exact .ok _ (by simp)
      | error e => exact .error rfl
    refine (hfields.map _).congr fun e => ?_
    constructor
    · intro h
      cases h with
      | types plainer => exact absurd hmodel plainer
      | modelTypes _ unreadable => exact unreadable
    · exact fun h => .modelTypes hmodel h
  all_goals
    rename_i hplainer
    refine (htypes.map _).congr fun e => ?_
    constructor
    · intro h
      cases h with
      | types _ unreadable final => exact ⟨unreadable, final⟩
      | modelTypes validating => simp_all
    · exact fun h => .types (by simp_all) h.1 h.2

/-- The fields of a shape can be listed exactly if it has no defect. -/
theorem fields?_failsBy
    (s : Shape) :
    FailsBy s.Defect s.fields? := by
  cases s with
  | constant v =>
      cases hcollection : v.collection? with
      | none =>
          simp only [fields?, hcollection]
          refine .ok _ fun e h => ?_
          cases h with
          | names collection => rw [hcollection] at collection; cases collection
      | some names =>
          simp only [fields?, hcollection]
          have hnames := FailsBy.of_failsIff (fieldsOfNames_failsIff names)
          refine (hnames.map some).congr fun e => ?_
          constructor
          · intro h
            cases h with
            | names collection refused =>
                rw [hcollection] at collection
                cases collection
                exact ⟨rfl, refused⟩
          · rintro ⟨rfl, refused⟩
            exact .names hcollection refused
  | record form name base own =>
      exact (recordFields?_failsBy form name base own).map _
  | _ => exact .ok _ nofun

end Shape

/-! ## Kinds -/

namespace Value

/-- Can it be asked whether the value is among the kinds?  Sets are compared
with frozen ones. -/
def isAskable : Value → Bool
  | .set _ _ => true
  | v => v.hashable

theorem isAskable_of_kind?
    {v : Value}
    {k : Kind}
    (h : v.kind? = some k) :
    v.isAskable = true := by
  cases v <;> first | rfl | cases h

theorem not_has_of_kind?
    {v : Value}
    {k : Kind}
    (h : v.kind? = some k) :
    ¬ Has isOversized v := by
  cases v with
  | text | kind | operator => exact not_has rfl rfl
  | _ => cases h

theorem not_has_of_isNone
    {v : Value}
    (h : v.isNone = true) :
    ¬ Has isOversized v := by
  cases v with
  | none => exact not_has rfl rfl
  | _ => cases h

theorem isGroupKind_failsIff
    (v : Value) :
    FailsIff .unhashable (v.isAskable = false) v.isGroupKind := by
  cases hkind : v.kind? with
  | some k =>
      rw [isGroupKind_of_kind? hkind]
      exact .ok _ (by simp [isAskable_of_kind? hkind])
  | none =>
      unfold isGroupKind isKindAmong
      simp only [hkind]
      cases v with
      | set frozen items => exact .ok false (by simp [isAskable])
      | _ =>
          simp only [isAskable]
          split
          · rename_i hhashable
            exact .ok false (by simp [hhashable])
          · rename_i hrefused
            exact .inr ⟨rfl, Bool.eq_false_iff.mpr hrefused⟩

/-- Being asked for a group and for a comparison is the same question
to a value. -/
theorem isComparisonKind_of_isGroupKind
    {v : Value}
    {b : Bool}
    (h : v.isGroupKind = .ok b) :
    v.isComparisonKind = .ok (v.kind?.isSome && !b) := by
  unfold isGroupKind isKindAmong at h
  unfold isComparisonKind isKindAmong
  cases hkind : v.kind? with
  | some k =>
      simp only [hkind] at h ⊢
      cases h
      simp
  | none =>
      simp only [hkind] at h ⊢
      split at h
      · cases h
        rfl
      · split at h
        · rename_i hhashable
          cases h
          simp only [hhashable, if_true]
          rfl
        · cases h

end Value

namespace Validation

/-- Why a kind cannot be looked up or reported. -/
inductive KindDefect (kind : Value) : Failure → Prop
  | unhashable
      (refused : kind.isAskable = false) :
      KindDefect kind .unhashable
  | oversized
      (occurs : kind.Has Value.isOversized) :
      KindDefect kind .oversizedInteger

theorem kindDefect_iff
    {kind : Value}
    {e : Failure} :
    KindDefect kind e ↔
      e = .unhashable ∧ kind.isAskable = false ∨
        e = .oversizedInteger ∧ kind.Has Value.isOversized := by
  constructor
  · intro h
    cases h with
    | unhashable refused => exact .inl ⟨rfl, refused⟩
    | oversized occurs => exact .inr ⟨rfl, occurs⟩
  · rintro (⟨rfl, refused⟩ | ⟨rfl, occurs⟩)
    · exact .unhashable refused
    · exact .oversized occurs

theorem not_kindDefect_of_kind?
    {kind : Value}
    {k : Kind}
    {e : Failure}
    (h : kind.kind? = some k) :
    ¬ KindDefect kind e := by
  rw [kindDefect_iff, Value.isAskable_of_kind? h]
  simp [Value.not_has_of_kind? h]

theorem kindProblem_failsIff
    (kind : Value) :
    FailsIff .oversizedInteger (kind.Has Value.isOversized)
      (kindProblem kind) := by
  unfold kindProblem
  split
  · rename_i hnone
    exact .ok _ (Value.not_has_of_isNone hnone)
  · exact (Value.plainText_failsIff kind).map _

/-- A check that goes on by the kind has the defects of the kind and of the
branch it takes; without a kind, it can only ask for one and report it. -/
theorem kindBranches_failsBy
    {α : Type}
    {kind : Value}
    {ofGroup ofComparison : Except Failure α}
    {grouped compared : Failure → Prop}
    (ofOther : Problem → α)
    (hgroup :
      ∀ k, kind.kind? = some k → k.isGroup = true → FailsBy grouped ofGroup)
    (hcomparison : ∀ k, kind.kind? = some k → k.isGroup = false →
      FailsBy compared ofComparison) :
    FailsBy
      (fun e => KindDefect kind e ∨
        (∃ k, kind.kind? = some k ∧ k.isGroup = true) ∧ grouped e ∨
        (∃ k, kind.kind? = some k ∧ k.isGroup = false) ∧ compared e)
      (do
        if ← kind.isGroupKind then ofGroup
        else if ← kind.isComparisonKind then ofComparison
        else return ofOther (← kindProblem kind)) := by
  cases hk : kind.kind? with
  | some k =>
      have hnone : ∀ e, ¬ KindDefect kind e :=
        fun e => not_kindDefect_of_kind? hk
      rw [Value.isGroupKind_of_kind? hk, Value.isComparisonKind_of_kind? hk]
      cases hsort : k.isGroup with
      | true =>
          exact (hgroup k hk hsort).congr fun e => by simp [hnone e, hsort]
      | false =>
          exact (hcomparison k hk hsort).congr fun e => by simp [hnone e, hsort]
  | none =>
      have hasked := FailsBy.of_failsIff (Value.isGroupKind_failsIff kind)
      have hreport :=
        (FailsBy.of_failsIff (kindProblem_failsIff kind)).map ofOther
      refine (hasked.bind
        (fun e => e = .oversizedInteger ∧ kind.Has Value.isOversized)
        fun b hb => ?_).congr fun e => by simp [kindDefect_iff]
      have hcompares := Value.isComparisonKind_of_isGroupKind hb
      rw [hk] at hcompares
      cases b with
      | true =>
          obtain ⟨k, hsome, -⟩ := Value.exists_kind_of_isKindAmong hb
          rw [hk] at hsome
          cases hsome
      | false =>
          rw [hcompares]
          exact hreport

/-! ## Paths -/

/-- Why a walk along parts of a path cannot be finished. -/
inductive PathDefect : Fields → List String → Failure → Prop
  /-- A part is missing, and the known names cannot be sorted and shown. -/
  | names
      {fields : Fields}
      {part : String}
      {rest : List String}
      (missing : fields.find? part = none)
      (mixed : ∃ field ∈ fields, field.1.text? = none) :
      PathDefect fields (part :: rest) .notText
  /-- The fields of the type of a part cannot be listed. -/
  | shape
      {fields : Fields}
      {part : String}
      {rest : List String}
      {type : Shape}
      {e : Failure}
      (found : fields.find? part = some type)
      (defect : type.unwrapOptional.Defect e) :
      PathDefect fields (part :: rest) e
  /-- The type of a part has no known fields, and cannot be looked up among the
  single data. -/
  | type
      {fields : Fields}
      {part : String}
      {rest : List String}
      {type : Shape}
      (found : fields.find? part = some type)
      (unknown : type.unwrapOptional.fields? = .ok none)
      (refused : type.unwrapOptional.hashable = false) :
      PathDefect fields (part :: rest) .unhashable
  /-- The walk goes on among the fields of a part, and cannot be
  finished there. -/
  | inside
      {fields nested : Fields}
      {part : String}
      {rest : List String}
      {type : Shape}
      {e : Failure}
      (found : fields.find? part = some type)
      (known : type.unwrapOptional.fields? = .ok (some nested))
      (onward : PathDefect nested rest e) :
      PathDefect fields (part :: rest) e

theorem names?_eq_none_iff
    {fields : Fields} :
    fields.names? = none ↔ ∃ field ∈ fields, field.1.text? = none := by
  unfold Fields.names?
  induction fields with
  | nil => simp
  | cons field rest ih =>
      rw [List.mapM_cons]
      cases hname : field.1.text? with
      | none => simp [hname]
      | some name =>
          have hrest :
              (∃ f ∈ field :: rest, f.1.text? = none) ↔
                ∃ f ∈ rest, f.1.text? = none := by
            simp [hname]
          rw [hrest, ← ih]
          cases rest.mapM fun entry => entry.1.text? <;> simp

theorem missingField_failsIff
    (part owner path : String)
    (fields : Fields) :
    FailsIff .notText (∃ field ∈ fields, field.1.text? = none)
      (missingField part owner path fields) := by
  unfold missingField
  rw [← names?_eq_none_iff]
  cases fields.names? with
  | none => exact .inr ⟨rfl, rfl⟩
  | some names => exact .ok _ nofun

theorem pathDefect_of_missing
    {fields : Fields}
    {part : String}
    {rest : List String}
    {e : Failure}
    (h : fields.find? part = none) :
    PathDefect fields (part :: rest) e ↔
      e = .notText ∧ ∃ field ∈ fields, field.1.text? = none := by
  constructor
  · intro hdefect
    cases hdefect with
    | names missing mixed => exact ⟨rfl, mixed⟩
    | shape found | type found | inside found => rw [h] at found; cases found
  · rintro ⟨rfl, mixed⟩
    exact .names h mixed

/-- What can go wrong behind a type depends on what is known about
its fields. -/
theorem pathDefect_of_found
    {fields : Fields}
    {part : String}
    {rest : List String}
    {type : Shape}
    {e : Failure}
    (h : fields.find? part = some type) :
    PathDefect fields (part :: rest) e ↔
      type.unwrapOptional.Defect e ∨
        (type.unwrapOptional.fields? = .ok none ∧
          type.unwrapOptional.hashable = false ∧
          e = .unhashable) ∨
        ∃ nested, type.unwrapOptional.fields? = .ok (some nested) ∧
          PathDefect nested rest e := by
  constructor
  · intro hdefect
    cases hdefect with
    | names missing => rw [h] at missing; cases missing
    | shape found defect =>
        rw [h] at found
        cases found
        exact .inl defect
    | type found unknown refused =>
        rw [h] at found
        cases found
        exact .inr (.inl ⟨unknown, refused, rfl⟩)
    | inside found known onward =>
        rw [h] at found
        cases found
        exact .inr (.inr ⟨_, known, onward⟩)
  · rintro (defect | ⟨unknown, refused, rfl⟩ | ⟨nested, known, onward⟩)
    · exact .shape h defect
    · exact .type h unknown refused
    · exact .inside h known onward

/-- A walk is finished exactly if it has no defect. -/
theorem pathProblem_failsBy
    {path : Name}
    {root owner : String}
    {fields : Fields}
    {parts : List String} :
    FailsBy (PathDefect fields parts)
      (pathProblem path root fields owner parts) := by
  induction parts generalizing fields owner with
  | nil => exact .ok none nofun
  | cons part rest ih =>
      rw [pathProblem]
      cases hfound : fields.find? part with
      | none =>
          have hreport :=
            FailsBy.of_failsIff
              (missingField_failsIff part owner path.content fields)
          have hfailing :=
            hreport.map fun report =>
              some (Problem.noSuchField path root report)
          exact hfailing.congr fun e => pathDefect_of_missing hfound
      | some type =>
          have hfields := type.unwrapOptional.fields?_failsBy
          refine (hfields.bind _ fun nested? hnested => ?_).congr fun e =>
            pathDefect_of_found hfound
          cases nested? with
          | some nested => exact ih.congr fun e => by simp [hnested]
          | none =>
              simp only [hnested, true_and]
              cases hhashable : type.unwrapOptional.hashable with
              | false => exact .error (.inl ⟨rfl, rfl⟩)
              | true =>
                  cases type.unwrapOptional.scalar? <;> exact .ok _ (by simp)

/-! ## Comparisons -/

/-- Why a path cannot be checked against a shape: it is not declared as a whole,
and the walk along its parts cannot be finished. -/
def UncheckedPath (shape : Shape) (path : String) (e : Failure) : Prop :=
  ∃ fields, shape.fields? = .ok (some fields) ∧ fields.find? path = none ∧
    PathDefect fields (Path.segments path) e

theorem pathProblems_failsBy
    {shape : Shape}
    {scope : Scope}
    {path : Name}
    (hshape : shape.fields? = .ok scope.fields) :
    FailsBy (UncheckedPath shape path.content) (pathProblems scope path) := by
  unfold pathProblems UncheckedPath
  rw [hshape]
  cases scope.fields with
  | none => exact .ok [] (by simp)
  | some fields =>
      refine FailsBy.map ?_ _
      unfold checkPath
      cases hfound : fields.find? path.content with
      | some type => exact .ok none (by simp [hfound])
      | none => exact pathProblem_failsBy.congr fun e => by simp [hfound]

/-- The flag is reported with the kind, which has a text because it is known. -/
theorem exists_flagProblems
    {raw : Value}
    {k : Kind}
    (hkind : (kindOf raw).kind? = some k) :
    ∃ problems, flagProblems raw = .ok problems := by
  have hreport := (Value.plainText_failsIff (kindOf raw)).map fun text =>
    [Problem.caseFlag text]
  simp only [flagProblems]
  split
  · rcases hreport with ⟨hok, -⟩ | ⟨-, hlong⟩
    · exact hok
    · exact absurd hlong (Value.not_has_of_kind? hkind)
  · exact ⟨[], rfl⟩

/-- A comparison of a known kind is checked exactly if its path is. -/
theorem comparisonProblems_failsBy
    {shape : Shape}
    {scope : Scope}
    {name : Option Name}
    {raw : Value}
    {k : Kind}
    (hshape : shape.fields? = .ok scope.fields)
    (hname : ∀ n, name = some n → n.content ≠ "")
    (hkind : (kindOf raw).kind? = some k) :
    FailsBy
      (fun e =>
        ∃ path, Declared.path? (name.map Name.content) raw = some path ∧
          path ≠ "" ∧
          UncheckedPath shape path e)
      (comparisonProblems scope name raw) := by
  obtain ⟨flags, hflags⟩ := exists_flagProblems hkind
  have hcheck :
      ∀ path : Name, FailsBy (UncheckedPath shape path.content)
        (do return (← flagProblems raw) ++ (← pathProblems scope path)) := by
    intro path
    rw [hflags, ok_bind]
    exact (pathProblems_failsBy hshape).map _
  unfold comparisonProblems Declared.path?
  cases hmissing : (fieldOf raw).isNone with
  | true =>
      rw [field?_eq, if_pos hmissing]
      cases name with
      | none => exact .ok _ (by simp)
      | some n => exact (hcheck n).congr fun e => by simp [hname n rfl]
  | false =>
      rw [field?_eq, if_neg (Bool.eq_false_iff.mp hmissing)]
      simp only [Value.text?]
      cases hfield : (fieldOf raw).name? with
      | none => exact .ok _ (by simp)
      | some path =>
          by_cases hempty : path.content = ""
          · simp only [Bool.false_eq_true, if_false, hempty, if_true]
            exact .ok _ (by simp [hempty])
          · simp only [Bool.false_eq_true, if_false, hempty]
            exact (hcheck path).congr fun e => by simp [hempty]

/-- Why a filter cannot be checked: for its kind, or for its path if it is a
comparison. -/
inductive FilterDefect (shape : Shape) (name : Option String) (raw : Value) :
    Failure → Prop
  | kind
      {e : Failure}
      (defect : KindDefect (kindOf raw) e) :
      FilterDefect shape name raw e
  | path
      {path : String}
      {e : Failure}
      (form : Declared.canCompare raw = true)
      (compares : ∃ k, Declared.kind? raw = some k ∧ k.isGroup = false)
      (named : Declared.path? name raw = some path)
      (nonempty : path ≠ "")
      (unchecked : UncheckedPath shape path e) :
      FilterDefect shape name raw e

theorem filterDefect_iff
    {shape : Shape}
    {name : Option String}
    {raw : Value}
    {e : Failure}
    (hform : Declared.canCompare raw = true) :
    FilterDefect shape name raw e ↔
      KindDefect (kindOf raw) e ∨
        (∃ k, (kindOf raw).kind? = some k ∧ k.isGroup = false) ∧
          ∃ path, Declared.path? name raw = some path ∧ path ≠ "" ∧
            UncheckedPath shape path e := by
  rw [kind?_kindOf]
  constructor
  · intro h
    cases h with
    | kind defect => exact .inl defect
    | path _ compares named nonempty unchecked =>
        exact .inr ⟨compares, _, named, nonempty, unchecked⟩
  · rintro (defect | ⟨compares, path, named, nonempty, unchecked⟩)
    · exact .kind defect
    · exact .path hform compares named nonempty unchecked

/-! ## Groups -/

theorem conditionProblems_failsBy
    {shape : Shape}
    {scope : Scope}
    {condition : Value}
    (hshape : shape.fields? = .ok scope.fields) :
    FailsBy
      (fun e => Declared.canCompare condition = true ∧
        FilterDefect shape none condition e)
      (conditionProblems scope condition) := by
  rw [conditionProblems, cannotCompare_eq]
  cases hform : Declared.canCompare condition with
  | false => exact .ok _ (by simp)
  | true =>
      have hunnamed : ∀ name : Name, none = some name → name.content ≠ "" := by
        intro name hname
        cases hname
      have hcomparison := fun k hkind (_ : k.isGroup = false) =>
        @comparisonProblems_failsBy shape scope none condition k hshape
          hunnamed hkind
      have hnested : FailsBy (fun _ => False) (.ok [Problem.nestedGroup]) :=
        .ok _ (by simp)
      refine (kindBranches_failsBy (fun problem => [problem])
        (fun _ _ _ => hnested) hcomparison).congr fun e => ?_
      simp [filterDefect_iff hform]

theorem conditionsViolations_failsBy
    {shape : Shape}
    {scope : Scope}
    {name : Name}
    {index : Nat}
    {conditions : List Value}
    (hshape : shape.fields? = .ok scope.fields) :
    FailsBy
      (fun e => ∃ condition ∈ conditions,
        Declared.canCompare condition = true ∧
        FilterDefect shape none condition e)
      (conditionsViolations scope name index conditions) := by
  induction conditions generalizing index with
  | nil => exact .ok [] (by simp)
  | cons condition rest ih =>
      have hfirst :
          FailsBy _ (conditionViolations scope name index condition) :=
        (conditionProblems_failsBy hshape).map _
      refine (hfirst.bind _ fun first _ => ih.map _).congr fun e => ?_
      simp

/-- A group is checked exactly if each of its conditions is. -/
theorem groupViolations_failsBy
    {shape : Shape}
    {scope : Scope}
    {name : Name}
    {raw : Value}
    {k : Kind}
    (hshape : shape.fields? = .ok scope.fields)
    (hkind : (kindOf raw).kind? = some k) :
    FailsBy
      (fun e => ∃ conditions, Declared.conditions? raw = some conditions ∧
        ∃ condition ∈ conditions,
          Declared.canCompare condition = true ∧
          FilterDefect shape none condition e)
      (groupViolations scope name raw) := by
  have hreport :
      ∀ (make : String → List Violation),
        FailsBy (fun _ => False) (do return make (← (kindOf raw).plainText)) :=
          fun make =>
    ((FailsBy.of_failsIff (Value.plainText_failsIff (kindOf raw))).map
      make).congr
      fun e => by simp [Value.not_has_of_kind? hkind]
  rw [groupViolations, conditionsOf?_eq]
  cases hconditions : Declared.conditions? raw with
  | none =>
      exact (hreport fun text => [⟨name, .missingConditions text, none⟩]).congr
        (by simp)
  | some conditions =>
      cases conditions with
      | nil =>
          exact (hreport fun text => [⟨name, .noConditions text, none⟩]).congr
            (by simp)
      | cons condition rest =>
          exact (conditionsViolations_failsBy hshape).congr fun e => by simp

/-! ## Entries -/

/-- Comparing the form with the kind fails only where asking for the kind or
reporting it does. -/
theorem kindDefect_of_formProblem
    {raw : Value}
    {e : Failure}
    (h : formProblem? raw (kindOf raw) = .error e) :
    KindDefect (kindOf raw) e := by
  have hasked :
      ∀ {e' : Failure}, (kindOf raw).isGroupKind = .error e' →
        KindDefect (kindOf raw) e' := by
    intro e' herror
    obtain ⟨rfl, hrefused⟩ := (Value.isGroupKind_failsIff _).iff_error.mp herror
    exact .unhashable hrefused
  have hreported :
      ∀ {make : String → Option Problem} {e' : Failure},
        (do return make (← (kindOf raw).plainText)) = Except.error e' →
        KindDefect (kindOf raw) e' := by
    intro make e' herror
    obtain ⟨rfl, hlong⟩ :=
      ((Value.plainText_failsIff _).map make).iff_error.mp herror
    exact .oversized hlong
  cases hresult : (kindOf raw).isGroupKind with
  | error e' =>
      cases raw with
      | comparison | group =>
          simp only [formProblem?, hresult, error_bind] at h
          cases h
          exact hasked hresult
      | _ => cases h
  | ok b =>
      cases raw with
      | comparison | group =>
          simp only [formProblem?, hresult, ok_bind] at h
          split at h <;> first | exact hreported h | cases h
      | _ => cases h

/-- A form with a problem has a kind without defects: only the kind of a group
is wrong for a comparison. -/
theorem not_kindDefect_of_formProblem
    {raw : Value}
    {problem : Problem}
    (h : formProblem? raw (kindOf raw) = .ok (some problem)) :
    ∀ e, ¬ KindDefect (kindOf raw) e := by
  intro e hdefect
  cases hk : (kindOf raw).kind? with
  | some k => exact not_kindDefect_of_kind? hk hdefect
  | none =>
      cases raw with
      | comparison k field flag =>
          obtain ⟨b, hb, hrest⟩ := bind_eq_ok.mp h
          cases b with
          | true =>
              obtain ⟨k', hsome, -⟩ := Value.exists_kind_of_isKindAmong hb
              rw [hk] at hsome
              cases hsome
          | false => cases hrest
      | group k conditions =>
          obtain ⟨b, hb, hrest⟩ := bind_eq_ok.mp h
          cases b with
          | true => cases hrest
          | false =>
              obtain ⟨text, htext, -⟩ := bind_eq_ok.mp hrest
              cases hdefect with
              | unhashable refused =>
                  have herror :=
                    (Value.isGroupKind_failsIff _).iff_error.mpr ⟨rfl, refused⟩
                  rw [herror] at hb
                  cases hb
              | oversized occurs =>
                  have herror :=
                    (Value.plainText_failsIff _).iff_error.mpr ⟨rfl, occurs⟩
                  rw [herror] at htext
                  cases htext
      | _ => cases h

/-- Why a group cannot be checked: one of its conditions cannot. -/
inductive GroupDefect (shape : Shape) (raw : Value) : Failure → Prop
  | condition
      {conditions : List Value}
      {condition : Value}
      {e : Failure}
      (form : Declared.canGroup raw = true)
      (groups : ∃ k, Declared.kind? raw = some k ∧ k.isGroup = true)
      (found : Declared.conditions? raw = some conditions)
      (member : condition ∈ conditions)
      (compares : Declared.canCompare condition = true)
      (defect : FilterDefect shape none condition e) :
      GroupDefect shape raw e

/-- A filter of a form that does not fit its kind is not looked into. -/
theorem not_defect_of_formProblem
    {shape : Shape}
    {name : Option String}
    {raw : Value}
    {problem : Problem}
    (hform : isFilterForm raw = true)
    (hproblem : formProblem? raw (kindOf raw) = .ok (some problem))
    (e : Failure) :
    ¬ (FilterDefect shape name raw e ∨ GroupDefect shape raw e) := by
  have hmisfit :=
    fun k hk => formProblem?_eq_none_iff hform (k := k) hk hproblem
  rintro (hfilter | hgroup)
  · cases hfilter with
    | kind defect => exact not_kindDefect_of_formProblem hproblem e defect
    | path form compares =>
        obtain ⟨k, hk, hcompares⟩ := compares
        have := hmisfit k hk
        simp [hcompares, form] at this
  · cases hgroup with
    | condition form groups =>
        obtain ⟨k, hk, hgroups⟩ := groups
        have := hmisfit k hk
        simp [hgroups, form] at this

/-- In a filter of a form that fits its kind, the kind says where to look. -/
theorem defect_iff_of_formProblem
    {shape : Shape}
    {name : Option String}
    {raw : Value}
    {e : Failure}
    (hform : isFilterForm raw = true)
    (hproblem : formProblem? raw (kindOf raw) = .ok none) :
    FilterDefect shape name raw e ∨ GroupDefect shape raw e ↔
      KindDefect (kindOf raw) e ∨
        (∃ k, (kindOf raw).kind? = some k ∧ k.isGroup = true) ∧
          (∃ conditions, Declared.conditions? raw = some conditions ∧
            ∃ condition ∈ conditions,
              Declared.canCompare condition = true ∧
              FilterDefect shape none condition e) ∨
        (∃ k, (kindOf raw).kind? = some k ∧ k.isGroup = false) ∧
          ∃ path, Declared.path? name raw = some path ∧ path ≠ "" ∧
            UncheckedPath shape path e := by
  have hfits :=
    fun k hk => (formProblem?_eq_none_iff hform (k := k) hk hproblem).mp rfl
  rw [kind?_kindOf]
  constructor
  · rintro (hfilter | hgroup)
    · cases hfilter with
      | kind defect => exact .inl defect
      | path _ compares named nonempty unchecked =>
          exact .inr (.inr ⟨compares, _, named, nonempty, unchecked⟩)
    · cases hgroup with
      | condition _ groups found member compares defect =>
          exact .inr (.inl ⟨groups, _, found, _, member, compares, defect⟩)
  · rintro (defect | ⟨⟨k, hk, hgroups⟩, conditions, found, condition, member,
      compares, defect⟩ |
      ⟨⟨k, hk, hcompares⟩, path, named, nonempty, unchecked⟩)
    · exact .inl (.kind defect)
    · have hcan := hfits k hk
      rw [hgroups] at hcan
      exact .inr (.condition hcan ⟨k, hk, hgroups⟩ found member compares defect)
    · have hcan := hfits k hk
      rw [hcompares] at hcan
      exact .inl (.path hcan ⟨k, hk, hcompares⟩ named nonempty unchecked)

theorem filterViolations_failsBy
    {shape : Shape}
    {scope : Scope}
    {name : Name}
    {raw : Value}
    (hshape : shape.fields? = .ok scope.fields)
    (hname : name.content ≠ "")
    (hform : isFilterForm raw = true) :
    FailsBy (fun e => FilterDefect shape (some name.content) raw e ∨
      GroupDefect shape raw e)
      (filterViolations scope name raw) := by
  cases hproblem : formProblem? raw (kindOf raw) with
  | error e =>
      simp only [filterViolations, hproblem, error_bind]
      exact .error (.inl (.kind (kindDefect_of_formProblem hproblem)))
  | ok problem =>
      simp only [filterViolations, hproblem, ok_bind]
      cases problem with
      | some problem => exact .ok _ (not_defect_of_formProblem hform hproblem)
      | none =>
          have hnonempty : ∀ n : Name, some name = some n → n.content ≠ "" := by
            rintro n ⟨rfl⟩
            exact hname
          have hgroup := fun k hk (_ : k.isGroup = true) =>
            @groupViolations_failsBy shape scope name raw k hshape hk
          have hcomparison := fun k hk (_ : k.isGroup = false) =>
            (@comparisonProblems_failsBy shape scope (some name) raw k hshape
              hnonempty hk).map
              fun problems => problems.map fun problem =>
                (⟨name, problem, none⟩ : Violation)
          exact (kindBranches_failsBy (fun problem => [⟨name, problem, none⟩])
            hgroup hcomparison).congr fun e =>
              defect_iff_of_formProblem hform hproblem

/-- Why an entry of a definition cannot be checked. -/
inductive EntryDefect (shape : Shape) (entry : Value × Value) : Failure → Prop
  /-- The name is no text, and has no text either that it could be
  reported by. -/
  | name
      (unnamed : entry.1.text? = none)
      (occurs : entry.1.Has Value.isOversized) :
      EntryDefect shape entry .oversizedInteger
  | filter
      {name : String}
      {e : Failure}
      (named : entry.1.text? = some name)
      (nonempty : name ≠ "")
      (form : isFilterForm entry.2 = true)
      (defect : FilterDefect shape (some name) entry.2 e ∨
        GroupDefect shape entry.2 e) :
      EntryDefect shape entry e

theorem entryDefect_of_unnamed
    {shape : Shape}
    {entry : Value × Value}
    {e : Failure}
    (h : entry.1.text? = none) :
    EntryDefect shape entry e ↔
      e = .oversizedInteger ∧ entry.1.Has Value.isOversized := by
  constructor
  · intro hdefect
    cases hdefect with
    | name _ occurs => exact ⟨rfl, occurs⟩
    | filter named => rw [h] at named; cases named
  · rintro ⟨rfl, occurs⟩
    exact .name h occurs

theorem entryDefect_of_named
    {shape : Shape}
    {entry : Value × Value}
    {name : String}
    {e : Failure}
    (h : entry.1.text? = some name) :
    EntryDefect shape entry e ↔
      name ≠ "" ∧ isFilterForm entry.2 = true ∧
        (FilterDefect shape (some name) entry.2 e ∨
          GroupDefect shape entry.2 e) := by
  constructor
  · intro hdefect
    cases hdefect with
    | name unnamed => rw [h] at unnamed; cases unnamed
    | filter named nonempty form defect =>
        rw [h] at named
        cases named
        exact ⟨nonempty, form, defect⟩
  · rintro ⟨nonempty, form, defect⟩
    exact .filter h nonempty form defect

theorem entryViolations_failsBy
    {shape : Shape}
    {scope : Scope}
    {entry : Value × Value}
    (hshape : shape.fields? = .ok scope.fields) :
    FailsBy (EntryDefect shape entry) (entryViolations scope entry) := by
  unfold entryViolations
  cases hname : entry.1.name? with
  | none =>
      have hunnamed : entry.1.text? = none := by
        rw [Value.text?, hname, Option.map_none]
      have hreport := FailsBy.of_failsIff (Value.plainText_failsIff entry.1)
      have hfailing :=
        hreport.map fun text => [(⟨.text text, .badName, none⟩ : Violation)]
      exact hfailing.congr fun e => entryDefect_of_unnamed hunnamed
  | some name =>
      have hnamed : entry.1.text? = some name.content := by
        rw [Value.text?, hname, Option.map_some]
      refine FailsBy.congr ?_ fun e => entryDefect_of_named hnamed
      by_cases hempty : name.content = ""
      · simp only [hempty, if_true]
        exact .ok _ (by simp)
      · simp only [hempty, if_false]
        cases hform : isFilterForm entry.2 with
        | true =>
            have hcallback : entry.2.callback?.isSome = false := by
              cases hraw : entry.2 <;> rw [hraw] at hform <;>
                first | rfl | cases hform
            simp only [hcallback, Bool.false_eq_true, if_false, if_true]
            exact (filterViolations_failsBy hshape hempty hform).congr
              fun e => by simp [hempty]
        | false =>
            simp only [Bool.false_eq_true, if_false]
            split
            · exact .ok _ (by simp)
            · exact .ok _ (by simp)

theorem entriesViolations_failsBy
    {shape : Shape}
    {scope : Scope}
    {entries : List (Value × Value)}
    (hshape : shape.fields? = .ok scope.fields) :
    FailsBy (fun e => ∃ entry ∈ entries, EntryDefect shape entry e)
      (entriesViolations scope entries) := by
  induction entries with
  | nil => exact .ok [] (by simp)
  | cons entry rest ih =>
      have hfirst := @entryViolations_failsBy shape scope entry hshape
      refine (hfirst.bind _ fun first _ => ih.map _).congr fun e => ?_
      simp

/-! ## Definitions -/

/-- Why a definition cannot be checked against a shape: for the shape, or for
one of its entries. -/
inductive Defect (shape : Shape) (definition : Value) : Failure → Prop
  | shape
      {entries : List (Value × Value)}
      {e : Failure}
      (mapping : definition.entries? = some entries)
      (defect : shape.Defect e) :
      Defect shape definition e
  | entry
      {entries : List (Value × Value)}
      {entry : Value × Value}
      {e : Failure}
      (mapping : definition.entries? = some entries)
      (member : entry ∈ entries)
      (defect : EntryDefect shape entry e) :
      Defect shape definition e

/-- **Validation has a result exactly if there is no defect.**  With defects, it
fails with the failure of one of them. -/
theorem violations_or_defect
    (definition : Value)
    (shape : Shape)
    (owner : Option String) :
    ((∃ found, violations definition shape owner = .ok found) ∧
      ∀ e, ¬ Defect shape definition e) ∨
    ∃ e, violations definition shape owner = .error e ∧
      Defect shape definition e := by
  change FailsBy (Defect shape definition) _
  unfold violations
  cases hentries : definition.entries? with
  | none =>
      refine .ok _ fun e h => ?_
      cases h with
      | shape mapping | entry mapping => rw [hentries] at mapping; cases mapping
  | some entries =>
      have hfields := shape.fields?_failsBy
      refine (hfields.bind _ fun fields hshape =>
        @entriesViolations_failsBy shape ⟨fields, _⟩ entries hshape).congr
          fun e => ?_
      constructor
      · intro h
        cases h with
        | shape _ defect => exact .inl defect
        | entry mapping member defect =>
            rw [hentries] at mapping
            cases mapping
            exact .inr ⟨_, member, defect⟩
      · rintro (defect | ⟨entry, member, defect⟩)
        · exact .shape hentries defect
        · exact .entry hentries member defect

/-- Two definitions whose mistakes cannot be reported: a kind that is a list
cannot be looked up, and a field that is missing cannot be shown beside the
names of a shape if one of them is no text. -/
theorem violations_unreadable :
    violations (.ofFields [("x", .ofFields [("kind", .list [])])])
      .absent none =
        .error .unhashable ∧
      violations (.ofFields
        [("x", .comparison (.kind .eq) (.text "b") (.bool false))])
        (.mapping [(.text "a", .builtin .int), (.int 1, .builtin .int)]) none =
        .error .notText := by
  exact ⟨rfl, rfl⟩

end Validation
end RecordFilter
