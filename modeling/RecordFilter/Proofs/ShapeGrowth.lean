import RecordFilter.Proofs.Acceptance
import RecordFilter.Proofs.RelatedRuns

/-!
# Growing shapes

A shape grows when it gets further fields and keeps those that it has, with
their types.  This module shows that a growing shape never invalidates a
definition, and that a shape adds nothing to the violations of a definition but
those about fields.

**Method.**  Two runs of validation are related as their problems of paths are.
This is used for two relations: `Forgets` takes away what is about fields, and
`Improves` finds nothing new about them.

**Main result.**
* `Validation.violations_grown`: without a shape there are the violations that
  are not about fields; in a grown shape no place has a new violation about its
  field, and no violations stay none.
-/

namespace RecordFilter

/-- Further fields may be declared, and all that are declared keep
their types. -/
def Fields.Grows (fields fields' : Fields) : Prop :=
  ∀ name type, fields.find? name = some type → fields'.find? name = some type

theorem Fields.grows_append
    (fields more : Fields) :
    fields.Grows (fields ++ more) := by
  intro name type h
  obtain ⟨entry, hentry, rfl⟩ := Option.map_eq_some_iff.mp h
  simp only [find?, List.find?_append, hentry, Option.some_or, Option.map_some]

namespace Validation

/-! ## Paths -/

variable {fields fields' : Fields} {path : Name} {root : String}

theorem isAboutField_of_pathProblem
    {owner : String}
    {parts : List String}
    {problem : Problem}
    (h : pathProblem path root fields owner parts = .ok (some problem)) :
    problem.isAboutField = true := by
  induction parts generalizing fields owner with
  | nil => cases h
  | cons part rest ih =>
      rcases pathProblem_cases h with
        ⟨report, -, rfl⟩ | ⟨type, typeName, -, -, -, rfl⟩ |
          ⟨type, nested, owner', -, -, hrest⟩
      · rfl
      · rfl
      · exact ih hrest

theorem isAboutField_of_checkPath
    {problem : Problem}
    (h : checkPath path root fields = .ok (some problem)) :
    problem.isAboutField = true := by
  unfold checkPath at h
  split at h
  · cases h
  · exact isAboutField_of_pathProblem h

/-- A walk from a field that is kept goes on as before, since the types on the
way are the same. -/
theorem pathProblem_grown
    (hgrows : fields.Grows fields')
    {owner : String}
    {parts : List String}
    (h : pathProblem path root fields owner parts = .ok none) :
    pathProblem path root fields' owner parts = .ok none := by
  cases parts with
  | nil => rfl
  | cons part rest =>
      rw [pathProblem] at h ⊢
      cases hfound : fields.find? part with
      | none =>
          simp only [hfound] at h
          obtain ⟨report, -, hreport⟩ := Outcome.bind_eq_ok.mp h
          cases hreport
      | some type =>
          rw [hgrows part type hfound]
          simpa only [hfound] using h

/-- A path that has no problem has none when the shape grows. -/
theorem checkPath_grown
    (hgrows : fields.Grows fields')
    (h : checkPath path root fields = .ok none) :
    checkPath path root fields' = .ok none := by
  unfold checkPath at h ⊢
  cases hfound : fields.find? path.content with
  | some type => rw [hgrows path.content type hfound]
  | none =>
      simp only [hfound] at h
      split
      · rfl
      · exact pathProblem_grown hgrows h

/-! ## Without fields -/

/-- The second run finds what the first one does, but for what is
about fields. -/
def Forgets (x y : Except Failure (List Violation)) : Prop :=
  ∀ found, x = .ok found →
    y = .ok (found.filter fun v => !v.problem.isAboutField)

theorem forgets_respects :
    Respects Forgets where
  plain := by
    intro x hplain found h
    rw [h, List.filter_eq_self.mpr]
    intro v hmem
    rw [hplain found h v hmem]
    rfl
  joined := by
    intro x x' y y' hx hy found h
    obtain ⟨first, second, hfirst, hsecond, rfl⟩ :=
      Outcome.append_eq_ok_iff.mp h
    exact Outcome.append_eq_ok_iff.mpr
      ⟨_, _, hx first hfirst, hy second hsecond, List.filter_append _ _⟩

theorem forgets_paths
    (owner : String)
    (name : Name)
    (place : Option String)
    (path : Name) :
    Forgets (located name place (pathProblems ⟨some fields, owner⟩ path))
      (located name place (pathProblems ⟨none, owner⟩ path)) := by
  intro found h
  simp only [pathProblems] at h ⊢
  cases hcheck : checkPath path owner fields with
  | error e =>
      rw [hcheck] at h
      cases h
  | ok problem =>
      rw [hcheck] at h
      cases h
      cases problem with
      | none => rfl
      | some problem =>
          simp [located, Except.map, isAboutField_of_checkPath hcheck]

/-! ## With further fields -/

/-- Is there a violation at a place that is about its field? -/
def ReportsField (found : List Violation) (name : Name)
    (place : Option String) : Prop :=
  ∃ v ∈ found, v.name = name ∧ v.path = place ∧ v.problem.isAboutField = true

theorem reportsField_append
    {first second : List Violation}
    {name : Name}
    {place : Option String} :
    ReportsField (first ++ second) name place ↔
      ReportsField first name place ∨ ReportsField second name place := by
  simp only [ReportsField, List.mem_append, or_and_right, exists_or]

/-- The second run has no violation about a field at a place where the first one
has none, and it finds nothing if the first one does. -/
structure Improves (x y : Except Failure (List Violation)) : Prop where
  clean : x = .ok [] → y = .ok []
  fewer :
    ∀ {found found'}, x = .ok found → y = .ok found' →
      ∀ {name place}, ReportsField found' name place →
        ReportsField found name place

theorem improves_respects :
    Respects Improves where
  plain := by
    intro x _
    refine ⟨id, fun hx hx' _ _ h => ?_⟩
    rw [hx] at hx'
    cases hx'
    exact h
  joined := by
    intro x x' y y' hx hy
    constructor
    · intro h
      obtain ⟨hfirst, hsecond⟩ := Outcome.append_eq_ok_nil_iff.mp h
      exact Outcome.append_eq_ok_nil_iff.mpr ⟨hx.clean hfirst, hy.clean hsecond⟩
    · intro found found' h h' name place hreports
      obtain ⟨first, second, hfirst, hsecond, rfl⟩ :=
        Outcome.append_eq_ok_iff.mp h
      obtain ⟨first', second', hfirst', hsecond', rfl⟩ :=
        Outcome.append_eq_ok_iff.mp h'
      rw [reportsField_append] at hreports ⊢
      exact hreports.imp (hx.fewer hfirst hfirst') (hy.fewer hsecond hsecond')

/-- Violations that come from one place name that place. -/
theorem place_of_located
    {run : Except Failure (List Problem)}
    {name : Name}
    {place : Option String}
    {found : List Violation}
    (h : located name place run = .ok found)
    {v : Violation}
    (hmem : v ∈ found) :
    v.name = name ∧ v.path = place := by
  cases run with
  | error e => cases h
  | ok problems =>
      cases h
      obtain ⟨problem, -, rfl⟩ := List.mem_map.mp hmem
      exact ⟨rfl, rfl⟩

/-- A path has no new problem among further fields: without one, both runs
find nothing. -/
theorem improves_paths
    (hgrows : fields.Grows fields')
    (owner : String)
    (name : Name)
    (place : Option String)
    (path : Name) :
    Improves (located name place (pathProblems ⟨some fields, owner⟩ path))
      (located name place (pathProblems ⟨some fields', owner⟩ path)) := by
  simp only [pathProblems]
  cases hcheck : checkPath path owner fields with
  | error e =>
      constructor <;> intros <;> contradiction
  | ok problem =>
      cases problem with
      | none =>
          rw [checkPath_grown hgrows hcheck]
          exact improves_respects.plain .nil
      | some problem =>
          constructor
          · intro h
            cases h
          · intro found found' h h' name' place' hreports
            obtain ⟨v, hmem, hname, hplace, -⟩ := hreports
            obtain ⟨rfl, rfl⟩ := place_of_located h' hmem
            cases h
            exact ⟨_, List.mem_singleton.mpr rfl, hname, hplace,
              isAboutField_of_checkPath hcheck⟩

/-! ## Definitions -/

/-- **A growing shape invalidates no definition.**  Let a definition be checked
against a mapping of names to types.  Without it, exactly the violations that
are not about fields are found.  When the mapping grows, paths without a problem
have none; a violation about a field is found only at a place that had one
before; and a definition without violations has none. -/
theorem violations_grown
    {definition : Value}
    {owner : Option String}
    {found : List Violation}
    (hgrows : fields.Grows fields')
    (h : violations definition (.mapping fields) owner = .ok found) :
    (violations definition .absent owner =
      .ok (found.filter fun v => !v.problem.isAboutField)) ∧
    (∀ path root,
      checkPath path root fields = .ok none →
      checkPath path root fields' = .ok none) ∧
    (∀ found', violations definition (.mapping fields') owner = .ok found' →
      ∀ name place, ReportsField found' name place →
        ReportsField found name place) ∧
    (found = [] → violations definition (.mapping fields') owner = .ok []) := by
  cases hentries : definition.entries? with
  | none =>
      simp only [violations, hentries] at h ⊢
      cases h
      refine ⟨rfl, fun path root => checkPath_grown hgrows, ?_,
        fun hnil => by cases hnil⟩
      intro found' h' name place hreports
      cases h'
      exact hreports
  | some entries =>
      simp only [violations, hentries] at h ⊢
      have hforgets :=
        entries_kept forgets_respects
          (@forgets_paths fields (ownerName owner none)) entries
      have himproves :=
        entries_kept improves_respects
          (improves_paths hgrows (ownerName owner none)) entries
      refine ⟨hforgets found h, fun path root => checkPath_grown hgrows, ?_, ?_⟩
      · intro found' h' name place
        exact himproves.fewer h h'
      · rintro rfl
        exact himproves.clean h

/-- The fields of a member of staff. -/
def staffFields : Fields := [
  (.text "name", .builtin .text),
  (.text "team", .mapping [(.text "city", .builtin .text)])]

/-- The fields that such a member gets later. -/
def addedFields : Fields := [(.text "age", .builtin .int)]

/-- Filters on fields that are known, that are added and that are missing. -/
def staffFilters : Value := .ofFields [
  ("name", .comparison (.kind .contains) .none (.bool true)),
  ("age", .comparison (.kind .gte) .none (.bool true)),
  ("either", .ofFields [("kind", .text "or"), ("conditions", .list [
    .comparison (.kind .eq) (.text "team.city") (.bool false),
    .comparison (.kind .eq) (.text "team.floor") (.bool false)])])]

/-- The first of these filters, which has no violations. -/
def nameFilter : Value := .ofFields [
  ("name", .comparison (.kind .contains) .none (.bool true))]

/-- Without a shape only the flag of one filter is wrong; with one, a field that
is added later is missing until then. -/
theorem violations_grown_staff :
    staffFields.Grows (staffFields ++ addedFields) ∧
    (∃ found, violations staffFilters (.mapping staffFields) none = .ok found ∧
      ReportsField found (.text "age") none ∧
      violations staffFilters .absent none =
        .ok (found.filter fun v => !v.problem.isAboutField) ∧
      ∃ found', violations staffFilters (.mapping (staffFields ++ addedFields))
        none = .ok found' ∧
        ¬ ReportsField found' (.text "age") none ∧
        ∀ name place, ReportsField found' name place →
          ReportsField found name place) ∧
    violations nameFilter (.mapping staffFields) none = .ok [] ∧
    violations nameFilter (.mapping (staffFields ++ addedFields)) none =
      .ok [] := by
  have hgrows := Fields.grows_append staffFields addedFields
  obtain ⟨found, hfound⟩ :
      ∃ found, violations staffFilters (.mapping staffFields) none =
        .ok found := ⟨_, rfl⟩
  obtain ⟨found', hfound'⟩ :
      ∃ found', violations staffFilters
        (.mapping (staffFields ++ addedFields)) none = .ok found' := ⟨_, rfl⟩
  obtain ⟨hforgets, -, hfewer, -⟩ := violations_grown hgrows hfound
  have hclean : violations nameFilter (.mapping staffFields) none = .ok [] :=
    rfl
  obtain ⟨-, -, -, hstays⟩ := violations_grown hgrows hclean
  refine ⟨hgrows, ⟨found, hfound, ?_, hforgets, found', hfound', ?_,
    hfewer found' hfound'⟩, hclean, hstays rfl⟩
  · cases hfound
    exact ⟨_, .tail _ (.head _), rfl, rfl, rfl⟩
  · cases hfound'
    rintro ⟨v, hmem, hname, -, habout⟩
    obtain rfl | hmem := List.mem_cons.mp hmem
    · cases habout
    · obtain rfl := List.mem_singleton.mp hmem
      simp at hname

end Validation
end RecordFilter
