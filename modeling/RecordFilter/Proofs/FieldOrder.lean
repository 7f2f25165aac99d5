import RecordFilter.Proofs.RelatedRuns

/-!
# The order of fields

A shape lists its fields in some order, which for a set of names means nothing.
This module shows that the violations of a definition do not depend on it.

**Same fields.**  Two collections of names have the same fields if they have the
same elements, however often and in whatever order.  Two mappings have the same
fields if their names are the same up to order, and if under each name are types
that have the same fields.

**Method.**  A check asks for the field under a name, or for the sorted list of
all names, and neither depends on the order.  So a walk along a path goes alike
through both shapes; this is an induction on the parts of the path.  Everything
else reads the shape through such walks only.

**Main result.**
* `Validation.violations_sameFields`: shapes with the same fields give the
  same violations.
-/

namespace RecordFilter

/-! ## Sorted texts -/

theorem pairwise_sortTexts
    (texts : List String) :
    (sortTexts texts).Pairwise (· ≤ ·) := by
  have hsorted :
      (sortTexts texts).Pairwise fun s t => decide (s ≤ t) = true := by
    refine List.pairwise_mergeSort (fun s t u hst htu => ?_)
      (fun s t => ?_) texts
    · exact decide_eq_true
        (String.le_trans (of_decide_eq_true hst) (of_decide_eq_true htu))
    · simpa using String.le_total s t
  exact hsorted.imp of_decide_eq_true

/-- Texts are sorted to the same list from every order. -/
theorem sortTexts_congr
    {texts texts' : List String}
    (h : texts.Perm texts') :
    sortTexts texts = sortTexts texts' := by
  have hperm : (sortTexts texts).Perm (sortTexts texts') :=
    (List.mergeSort_perm texts _).trans
      (h.trans (List.mergeSort_perm texts' _).symm)
  exact List.Perm.eq_of_pairwise (fun s t _ _ => String.le_antisymm)
    (pairwise_sortTexts texts) (pairwise_sortTexts texts') hperm

/-! ## Collections of names -/

namespace Value

/-- The values are these texts. -/
def AreTexts (values : List Value) (texts : List String) : Prop :=
  values.map text? = texts.map some

namespace AreTexts

theorem eq_nil
    {texts : List String}
    (h : AreTexts [] texts) :
    texts = [] :=
  List.map_eq_nil_iff.mp h.symm

theorem cons
    {v : Value}
    {text : String}
    {values : List Value}
    {texts : List String}
    (hv : v.text? = some text)
    (h : AreTexts values texts) :
    AreTexts (v :: values) (text :: texts) :=
  List.cons_eq_cons.mpr ⟨hv, h⟩

theorem exists_cons
    {v : Value}
    {values : List Value}
    {texts : List String}
    (h : AreTexts (v :: values) texts) :
    ∃ text rest, texts = text :: rest ∧ v.text? = some text ∧
      AreTexts values rest := by
  cases texts with
  | nil => cases h
  | cons text rest =>
      obtain ⟨hv, hrest⟩ := List.cons_eq_cons.mp h
      exact ⟨text, rest, rfl, hv, hrest⟩

end AreTexts

theorem occursAmong_iff
    {v : Value}
    {text : String}
    {values : List Value}
    {texts : List String}
    (hv : v.text? = some text)
    (h : AreTexts values texts) :
    occursAmong v values = true ↔ text ∈ texts := by
  induction values generalizing texts with
  | nil =>
      obtain rfl := h.eq_nil
      simp [occursAmong]
  | cons w values ih =>
      obtain ⟨other, texts, rfl, hw, hrest⟩ := h.exists_cons
      rw [List.mem_cons, ← ih hrest, ← eq_iff_of_text? hv hw]
      simp [occursAmong]

/-- One more value adds its text, unless that one was seen already. -/
theorem exists_keep
    {v : Value}
    {text : String}
    {seen : List Value}
    {before : List String}
    (hv : v.text? = some text)
    (hseen : AreTexts seen before)
    (hnodup : before.Nodup) :
    ∃ kept, AreTexts (if occursAmong v seen then seen else seen ++ [v]) kept ∧
      kept.Nodup ∧
      ∀ other, other ∈ kept ↔ other ∈ before ∨ other = text := by
  by_cases hmem : text ∈ before
  · rw [if_pos ((occursAmong_iff hv hseen).mpr hmem)]
    refine ⟨before, hseen, hnodup, fun other => ⟨Or.inl, ?_⟩⟩
    rintro (hold | rfl)
    · exact hold
    · exact hmem
  · rw [if_neg (mt (occursAmong_iff hv hseen).mp hmem)]
    refine ⟨before ++ [text], ?_, ?_, by simp⟩
    · unfold AreTexts at hseen ⊢
      rw [List.map_append, List.map_append, hseen, List.map_singleton,
        List.map_singleton, hv]
    · rw [List.nodup_append]
      refine ⟨hnodup, by simp, fun old hold new hnew => ?_⟩
      rw [List.mem_singleton.mp hnew]
      exact ne_of_mem_of_not_mem hold hmem

/-- Values that are texts are reduced to different texts, and none is lost.
The induction is on the values still to come; those seen so far are
different texts. -/
theorem exists_distinct
    {values : List Value}
    {texts : List String}
    (h : AreTexts values texts) :
    ∃ kept, AreTexts (distinct values) kept ∧ kept.Nodup ∧
      ∀ text, text ∈ kept ↔ text ∈ texts := by
  have hrun :
      ∀ (seen : List Value) (before : List String), AreTexts seen before →
        before.Nodup →
        ∃ kept,
          AreTexts
              (values.foldl
                (fun seen v =>
                  if occursAmong v seen then seen else seen ++ [v]) seen)
              kept ∧
            kept.Nodup ∧
            ∀ text, text ∈ kept ↔ text ∈ before ∨ text ∈ texts := by
    induction values generalizing texts with
    | nil =>
        intro seen before hseen hnodup
        obtain rfl := h.eq_nil
        exact ⟨before, hseen, hnodup, by simp⟩
    | cons v values ih =>
        intro seen before hseen hnodup
        obtain ⟨text, texts, rfl, hv, hrest⟩ := h.exists_cons
        obtain ⟨between, hbetween, hdifferent, hadded⟩ :=
          exists_keep hv hseen hnodup
        obtain ⟨kept, hkept, hkeptDifferent, hsame⟩ :=
          ih hrest _ between hbetween hdifferent
        refine ⟨kept, hkept, hkeptDifferent, fun other => ?_⟩
        rw [hsame, hadded, List.mem_cons, or_assoc]
  obtain ⟨kept, hkept, hnodup, hsame⟩ := hrun [] [] rfl List.nodup_nil
  exact ⟨kept, hkept, hnodup, by simpa using hsame⟩

end Value

/-! ## Fields up to order -/

namespace Fields

/-- The names of the fields, all of which are texts. -/
def AreNamed (fields : Fields) (names : List String) : Prop :=
  Value.AreTexts (fields.map (·.1)) names

namespace AreNamed

variable {fields fields' : Fields} {field : Value × Shape} {names : List String}

theorem exists_cons
    (h : AreNamed (field :: fields) names) :
    ∃ name rest, names = name :: rest ∧ field.1.text? = some name ∧
      fields.AreNamed rest :=
  Value.AreTexts.exists_cons h

theorem cons
    {name : String}
    (hfield : field.1.text? = some name)
    (h : fields.AreNamed names) :
    AreNamed (field :: fields) (name :: names) :=
  Value.AreTexts.cons hfield h

theorem names?_eq
    (h : fields.AreNamed names) :
    fields.names? = some names := by
  unfold names?
  induction fields generalizing names with
  | nil =>
      obtain rfl := Value.AreTexts.eq_nil h
      rfl
  | cons field rest ih =>
      obtain ⟨name, names, rfl, hfield, hrest⟩ := h.exists_cons
      rw [List.mapM_cons, hfield, ih hrest]
      rfl

/-- A field is found under its name, and under no other text. -/
theorem find?_eq_none_iff
    (h : fields.AreNamed names)
    (name : String) :
    fields.find? name = none ↔ name ∉ names := by
  induction fields generalizing names with
  | nil =>
      obtain rfl := Value.AreTexts.eq_nil h
      simp
  | cons field rest ih =>
      obtain ⟨other, names, rfl, hfield, hrest⟩ := h.exists_cons
      rw [find?_cons, hfield, List.mem_cons, not_or, ← ih hrest]
      by_cases hsame : other = name
      · simp [hsame]
      · simp [hsame, Ne.symm hsame]

theorem exists_of_perm
    (h : fields.AreNamed names)
    (hperm : fields.Perm fields') :
    ∃ names', fields'.AreNamed names' ∧ names.Perm names' := by
  induction hperm generalizing names with
  | nil => exact ⟨names, h, .refl names⟩
  | cons field _ ih =>
      obtain ⟨name, names, rfl, hfield, hrest⟩ := h.exists_cons
      obtain ⟨names', hnames', hperm⟩ := ih hrest
      exact ⟨name :: names', hnames'.cons hfield, hperm.cons name⟩
  | swap first second rest =>
      obtain ⟨one, names, rfl, hsecond, hothers⟩ := h.exists_cons
      obtain ⟨other, names, rfl, hfirst, hrest⟩ := hothers.exists_cons
      exact ⟨other :: one :: names, (hrest.cons hsecond).cons hfirst,
        .swap other one names⟩
  | trans _ _ ih ih' =>
      obtain ⟨between, hbetween, hperm⟩ := ih h
      obtain ⟨names', hnames', hperm'⟩ := ih' hbetween
      exact ⟨names', hnames', hperm.trans hperm'⟩

/-- Under different names, the same fields are found in every order. -/
theorem find?_of_perm
    (h : fields.AreNamed names)
    (hperm : fields.Perm fields')
    (hnodup : names.Nodup)
    (name : String) :
    fields.find? name = fields'.find? name := by
  induction hperm generalizing names with
  | nil => rfl
  | cons field _ ih =>
      obtain ⟨other, names, rfl, -, hrest⟩ := h.exists_cons
      rw [find?_cons, find?_cons, ih hrest (List.nodup_cons.mp hnodup).2]
  | swap first second rest =>
      obtain ⟨one, names, rfl, hsecond, hothers⟩ := h.exists_cons
      obtain ⟨other, names, rfl, hfirst, -⟩ := hothers.exists_cons
      have hdifferent : one ≠ other := by
        rintro rfl
        exact (List.nodup_cons.mp hnodup).1 List.mem_cons_self
      simp only [find?_cons, hfirst, hsecond, Option.some.injEq]
      by_cases hone : one = name
      · subst hone
        rw [if_pos rfl, if_neg hdifferent.symm, if_pos rfl]
      · rw [if_neg hone, if_neg hone]
  | trans hperm _ ih ih' =>
      obtain ⟨between, hbetween, hreordered⟩ := h.exists_of_perm hperm
      exact (ih h hnodup).trans (ih' hbetween (hreordered.nodup_iff.mp hnodup))

end AreNamed
end Fields

/-- Shapes with the same fields, listed in any order. -/
inductive Shape.SameFields : Shape → Shape → Prop
  | refl
      (s : Shape) :
      SameFields s s
  | names
      {v v' : Value}
      {values values' : List Value}
      {texts texts' : List String}
      (found : v.collection? = some values)
      (found' : v'.collection? = some values')
      (named : Value.AreTexts values texts)
      (named' : Value.AreTexts values' texts')
      (same : ∀ text, text ∈ texts ↔ text ∈ texts') :
      SameFields (.constant v) (.constant v')
  | mapping
      {fields fields' : Fields}
      {names names' : List String}
      (named : fields.AreNamed names)
      (named' : fields'.AreNamed names')
      (reordered : names.Perm names')
      (types : ∀ name type type', fields.find? name = some type →
        fields'.find? name = some type' → SameFields type type') :
      SameFields (.mapping fields) (.mapping fields')

/-- Mappings with the same items have the same fields. -/
theorem Shape.SameFields.of_perm
    {fields fields' : Fields}
    {names : List String}
    (hperm : fields.Perm fields')
    (hnamed : fields.AreNamed names)
    (hnodup : names.Nodup) :
    SameFields (.mapping fields) (.mapping fields') := by
  obtain ⟨names', hnamed', hreordered⟩ := hnamed.exists_of_perm hperm
  refine .mapping hnamed hnamed' hreordered fun name type type' hfound
    hfound' => ?_
  rw [hnamed.find?_of_perm hperm hnodup, hfound'] at hfound
  cases hfound
  exact .refl type

/-- Fields with the same names up to order, and with types that have the
same fields. -/
structure Fields.Alike (fields fields' : Fields) : Prop where
  names :
    ∃ names names', fields.AreNamed names ∧ fields'.AreNamed names' ∧
      names.Perm names'
  types :
    ∀ {name type type'}, fields.find? name = some type →
      fields'.find? name = some type' → Shape.SameFields type type'

theorem Fields.Alike.find?_eq_none_iff
    {fields fields' : Fields}
    (h : Alike fields fields')
    (name : String) :
    fields.find? name = none ↔ fields'.find? name = none := by
  obtain ⟨names, names', hnamed, hnamed', hperm⟩ := h.names
  rw [hnamed.find?_eq_none_iff, hnamed'.find?_eq_none_iff, hperm.mem_iff]

/-- Both look-ups find nothing, or they find types with the same fields. -/
theorem Fields.Alike.find?_cases
    {fields fields' : Fields}
    (h : Alike fields fields')
    (name : String) :
    (fields.find? name = none ∧ fields'.find? name = none) ∨
      ∃ type type', fields.find? name = some type ∧
        fields'.find? name = some type' ∧
        Shape.SameFields type type' := by
  cases hfound : fields.find? name with
  | none => exact Or.inl ⟨rfl, (h.find?_eq_none_iff name).mp hfound⟩
  | some type =>
      cases hfound' : fields'.find? name with
      | none =>
          rw [(h.find?_eq_none_iff name).mpr hfound'] at hfound
          cases hfound
      | some type' =>
          exact Or.inr ⟨type, type', rfl, rfl, h.types hfound hfound'⟩

namespace Shape

/-- A shape that just lists its fields, without a name of its own. -/
structure Lists (fields : Fields) (s : Shape) : Prop where
  known : s.fields? = .ok (some fields)
  unwrapped : s.unwrapOptional = s
  unlabeled : s.label? = none

/-- The fields that a collection of names has. -/
theorem exists_fieldsOfNames
    {values : List Value}
    {texts : List String}
    (h : Value.AreTexts values texts) :
    ∃ fields names, fieldsOfNames values = .ok fields ∧
      Fields.AreNamed fields names ∧
      names.Nodup ∧ (∀ text, text ∈ names ↔ text ∈ texts) ∧
      ∀ name type, fields.find? name = some type → type = .any := by
  obtain ⟨names, hnames, hnodup, hsame⟩ := Value.exists_distinct h
  refine ⟨(Value.distinct values).map fun name => (name, .any), names, ?_, ?_,
    hnodup, hsame, ?_⟩
  · have hhashable : values.all Value.hashable = true := by
      rw [List.all_eq_true]
      intro v hmem
      have htext : v.text? ∈ texts.map some := h ▸ List.mem_map_of_mem hmem
      obtain ⟨text, -, htext⟩ := List.mem_map.mp htext
      exact Value.hashable_of_text? htext.symm
    rw [fieldsOfNames, if_pos hhashable]
  · unfold Fields.AreNamed
    rw [List.map_map]
    exact (congrArg (Value.AreTexts · names) (List.map_id _)).mpr hnames
  · intro name type hfound
    obtain ⟨entry, hentry, rfl⟩ := Option.map_eq_some_iff.mp hfound
    obtain ⟨v, -, rfl⟩ := List.mem_map.mp (List.mem_of_find?_eq_some hentry)
    rfl

/-- Shapes with the same fields are the same, or list fields that are alike. -/
theorem SameFields.exists_alike
    {s s' : Shape}
    (h : SameFields s s') :
    s = s' ∨ ∃ fields fields', Lists fields s ∧ Lists fields' s' ∧
      fields.Alike fields' := by
  cases h with
  | refl => exact Or.inl rfl
  | @names v v' values values' texts texts' found found' named named' same =>
      obtain ⟨fields, names, hfields, hnamed, hnodup, hmem, hany⟩ :=
        exists_fieldsOfNames named
      obtain ⟨fields', names', hfields', hnamed', hnodup', hmem', hany'⟩ :=
        exists_fieldsOfNames named'
      have hperm : names.Perm names' := by
        rw [List.perm_ext_iff_of_nodup hnodup hnodup']
        intro text
        rw [hmem, hmem', same]
      refine Or.inr ⟨fields, fields', ⟨?_, rfl, rfl⟩, ⟨?_, rfl, rfl⟩,
        ⟨names, names', hnamed, hnamed', hperm⟩, ?_⟩
      · rw [fields?, found]
        exact congrArg (Except.map some) hfields
      · rw [fields?, found']
        exact congrArg (Except.map some) hfields'
      · intro name type type' hfound hfound'
        rw [hany name type hfound, hany' name type' hfound']
        exact .refl .any
  | @mapping fields fields' names names' named named' reordered types =>
      exact Or.inr ⟨fields, fields', ⟨rfl, rfl, rfl⟩, ⟨rfl, rfl, rfl⟩,
        ⟨names, names', named, named', reordered⟩, @types⟩

end Shape

/-! ## Checks -/

namespace Validation

variable {fields fields' : Fields} {scope scope' : Scope}

theorem missingField_congr
    (h : fields.Alike fields')
    (part owner path : String) :
    missingField part owner path fields =
      missingField part owner path fields' := by
  obtain ⟨names, names', hnamed, hnamed', hperm⟩ := h.names
  simp only [missingField, hnamed.names?_eq, hnamed'.names?_eq,
    MissingField.make, sortTexts_congr hperm]

/-- A walk along a path goes alike through fields in any order. -/
theorem pathProblem_congr
    (h : fields.Alike fields')
    (path : Name)
    (root owner : String)
    (parts : List String) :
    pathProblem path root fields owner parts =
      pathProblem path root fields' owner parts := by
  induction parts generalizing fields fields' owner with
  | nil => rfl
  | cons part rest ih =>
      rcases h.find?_cases part with
          ⟨hnone, hnone'⟩ | ⟨type, type', hfound, hfound', hsame⟩
      · simp only [pathProblem, hnone, hnone', missingField_congr h]
      · rcases hsame.exists_alike with
            rfl | ⟨nested, nested', hlists, hlists', halike⟩
        · simp only [pathProblem, hfound, hfound']
        · simp only [pathProblem, hfound, hfound', hlists.unwrapped,
            hlists'.unwrapped, hlists.known, hlists'.known, hlists.unlabeled,
            hlists'.unlabeled, Outcome.ok_bind,
            Option.getD_none]
          exact ih halike part

theorem checkPath_congr
    (h : fields.Alike fields')
    (path : Name)
    (root : String) :
    checkPath path root fields = checkPath path root fields' := by
  unfold checkPath
  rcases h.find?_cases path.content with
      ⟨hnone, hnone'⟩ | ⟨type, type', hfound, hfound', -⟩
  · rw [hnone, hnone']
    exact pathProblem_congr h path root root _
  · rw [hfound, hfound']

theorem pathProblems_congr
    (h : fields.Alike fields')
    (owner : String) :
    pathProblems ⟨some fields, owner⟩ = pathProblems ⟨some fields', owner⟩ := by
  funext path
  simp only [pathProblems, checkPath_congr h]

/-- Everything else reads a scope through the problems of paths. -/
theorem entriesViolations_congr
    (h : pathProblems scope = pathProblems scope')
    (entries : List (Value × Value)) :
    entriesViolations scope entries = entriesViolations scope' entries :=
  entries_kept .eq (fun name place path => by rw [h]) entries

/-- **Violations do not depend on the order of fields.**  Shapes with the same
fields give the same result for every definition: the same violations in the
same order, with the same texts, known fields and suggestions. -/
theorem violations_sameFields
    {s s' : Shape}
    (h : s.SameFields s')
    (definition : Value)
    (owner : Option String) :
    violations definition s owner = violations definition s' owner := by
  rcases h.exists_alike with rfl | ⟨fields, fields', hlists, hlists', halike⟩
  · rfl
  · unfold violations
    cases definition.entries? with
    | none => rfl
    | some entries =>
        simp only [hlists.known, hlists'.known, hlists.unlabeled,
          hlists'.unlabeled, Outcome.ok_bind]
        exact entriesViolations_congr (pathProblems_congr halike _) entries

/-- A shape with nested fields and with a list of names. -/
def storedShape : Shape :=
  .mapping [
    (.text "owner", .mapping
      [(.text "name", .any), (.text "age", .builtin .int)]),
    (.text "tags", .constant (.list [.text "new", .text "old", .text "new"]))]

/-- The same fields in another order, and with a set of names. -/
def shuffledShape : Shape :=
  .mapping [
    (.text "tags", .constant (.set false [.text "old", .text "new"])),
    (.text "owner", .mapping
      [(.text "age", .builtin .int), (.text "name", .any)])]

theorem sameFields_shuffled :
    storedShape.SameFields shuffledShape := by
  refine @Shape.SameFields.mapping _ _ ["owner", "tags"]
    ["tags", "owner"] rfl rfl (.swap "tags" "owner" []) ?_
  intro name type type' hfound hfound'
  simp only [Fields.find?_cons, Value.text?_text,
    Option.some.injEq] at hfound hfound'
  by_cases howner : "owner" = name
  · subst howner
    cases hfound
    cases hfound'
    exact @Shape.SameFields.of_perm _ _ ["name", "age"] (.swap _ _ []) rfl
      (by decide)
  · rw [if_neg howner] at hfound hfound'
    by_cases htags : "tags" = name
    · subst htags
      cases hfound
      cases hfound'
      exact @Shape.SameFields.names _ _ _ _ ["new", "old", "new"] ["old", "new"]
        rfl rfl rfl rfl (by grind)
    · rw [if_neg htags] at hfound hfound'
      cases hfound

/-- A definition with a wrong field behind each of the fields above. -/
def misspelled : Value :=
  .ofFields [
    ("owner", .ofFields [("kind", .text "eq"), ("field", .text "owner.nam")]),
    ("tag", .ofFields [("kind", .text "eq"), ("field", .text "tags.odl")])]

/-- Both shapes give two violations, and the same ones. -/
theorem violations_shuffled :
    ∃ first second,
      violations misspelled storedShape none = .ok [first, second] ∧
      violations misspelled shuffledShape none = .ok [first, second] := by
  obtain ⟨first, second, hfound⟩ :
      ∃ first second, violations misspelled storedShape none =
        .ok [first, second] :=
    ⟨_, _, rfl⟩
  refine ⟨first, second, hfound, ?_⟩
  rw [← violations_sameFields sameFields_shuffled]
  exact hfound

end Validation
end RecordFilter
