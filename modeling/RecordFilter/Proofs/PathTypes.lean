import RecordFilter.Proofs.Acceptance

/-!
# Types along paths

A path is walked along a shape twice: when a definition is checked, and when
the type of an input is looked up.  The check keeps the fields that it is
among, the other walk keeps the type of the field that it came from.  This
module compares them.

**Declared parts.**  Parts lead to a field of a type if each of them is declared
among the fields that the type of the one before has, once the missing value is
stripped from it.  The type at the end is the one that was declared, with the
missing value.

**Method.**  Both walks read the same fields in the same order.  What the
parts lead to decides about the type, whatever is left over; and a check that
meets no problem has been led to a field, with parts left over only where no
fields are known.

**Main result.**
* `Shape.typeAt_of_checkPath`: a path with a violation has any type; a path
  without one has the type that its parts lead to, or any type if it goes on
  behind a field without known fields.
-/

namespace RecordFilter
namespace Grammar

/-- Parts that lead, one by one, to a declared field of a type. -/
inductive Leads : Fields → List String → Shape → Prop
  | last
      {fields : Fields}
      {part : String}
      {type : Shape}
      (found : fields.find? part = some type) :
      Leads fields [part] type
  | into
      {fields nested : Fields}
      {part : String}
      {rest : List String}
      {type target : Shape}
      (found : fields.find? part = some type)
      (known : type.unwrapOptional.fields? = .ok (some nested))
      (onward : Leads nested rest target) :
      Leads fields (part :: rest) target

/-- Parts that lead to a field without known fields, with further
ones left over. -/
inductive StopsAt (fields : Fields) (parts : List String) : Prop
  | leftOver
      {names more : List String}
      {type : Shape}
      (split : parts = names ++ more)
      (nonempty : more ≠ [])
      (leads : Leads fields names type)
      (unknown : type.unwrapOptional.fields? = .ok none) :
      StopsAt fields parts

variable {fields nested : Fields} {part : String} {parts rest : List String}
variable {type : Shape}

theorem StopsAt.into
    (found : fields.find? part = some type)
    (known : type.unwrapOptional.fields? = .ok (some nested))
    (h : StopsAt nested parts) :
    StopsAt fields (part :: parts) := by
  obtain ⟨rfl, nonempty, leads, unknown⟩ := h
  exact .leftOver rfl nonempty (.into found known leads) unknown

/-- A walk that ends well is led to a declared field, with or without
parts left over. -/
theorem Walk.leads_or_stops
    (walk : Walk fields (part :: rest)) :
    (∃ target, Leads fields (part :: rest) target) ∨
      StopsAt fields (part :: rest) := by
  induction rest generalizing fields part with
  | nil =>
      left
      cases walk with
      | into found => exact ⟨_, .last found⟩
      | last found => exact ⟨_, .last found⟩
      | stop found => exact ⟨_, .last found⟩
  | cons next rest ih =>
      cases walk with
      | into found known onward =>
          rcases ih onward with ⟨target, hleads⟩ | hstops
          · exact .inl ⟨target, .into found known hleads⟩
          · exact .inr (hstops.into found known)
      | stop found unknown =>
          have hsplit : part :: next :: rest = [part] ++ next :: rest := rfl
          exact .inr (.leftOver hsplit (List.cons_ne_nil next rest)
            (.last found) unknown)

end Grammar

namespace Shape

open Grammar

variable {fields : Fields} {path : Name} {root owner : String}
variable {names parts : List String}
variable {s type target : Shape}

/-- Nothing is known about what stands behind a field without known fields. -/
theorem typeAlong_unknown
    (hne : parts ≠ []) :
    typeAlong none type parts = .ok .any := by
  cases parts with
  | nil => exact absurd rfl hne
  | cons part rest => rfl

/-- Where a check meets a problem, nothing is known about the type. -/
theorem typeAlong_of_problem
    {problem : Problem}
    (h :
      Validation.pathProblem path root fields owner parts =
        .ok (some problem)) :
    typeAlong (some fields) type parts = .ok .any := by
  induction parts generalizing fields owner type with
  | nil => cases h
  | cons part rest ih =>
      rw [typeAlong]
      rcases Validation.pathProblem_cases h with
        ⟨report, hmissing, -⟩ | ⟨type, typeName, hfound, hfields, hleft, -⟩ |
        ⟨type, nested, owner', hfound, hfields, hrest⟩
      · rw [hmissing]
      · simp only [hfound, hfields, Outcome.ok_bind]
        exact typeAlong_unknown hleft
      · simp only [hfound, hfields, Outcome.ok_bind]
        exact ih hrest

/-- Behind parts that lead to a field, the walk goes on from the type of
that field. -/
theorem typeAlong_of_leads
    (h : Leads fields names target)
    (more : List String) :
    typeAlong (some fields) type (names ++ more) =
      (do typeAlong (← target.unwrapOptional.fields?) target more) := by
  induction h generalizing type with
  | last found =>
      rw [List.singleton_append, typeAlong, found]
  | into found known onward ih =>
      rw [List.cons_append, typeAlong, found]
      simp only [known, Outcome.ok_bind]
      exact ih

/-- **Both walks along a path agree.**  Let a shape have known fields.  A path
with a violation has any type.  The parts of a path without one lead to a
declared field, with or without parts left over behind a field without known
fields, unless the path is itself a name with a dot.  Where the parts lead to a
field, the path has the type declared there, provided that its fields can be
looked at; where parts are left over, it has any type. -/
theorem typeAt_of_checkPath
    (hknown : s.fields? = .ok (some fields))
    (path : Name)
    (root : String) :
    (∀ problem, Validation.checkPath path root fields = .ok (some problem) →
      s.typeAt path.content = .ok .any) ∧
    (('.' ∈ path.content.toList → fields.find? path.content = none) →
      Validation.checkPath path root fields = .ok none →
      (∃ target, Leads fields (Path.segments path.content) target) ∨
        StopsAt fields (Path.segments path.content)) ∧
    (∀ target known, Leads fields (Path.segments path.content) target →
      target.unwrapOptional.fields? = .ok known →
      s.typeAt path.content = .ok target) ∧
    (∀ target e, Leads fields (Path.segments path.content) target →
      target.unwrapOptional.fields? = .error e →
      s.typeAt path.content = .error e) ∧
    (StopsAt fields (Path.segments path.content) →
      s.typeAt path.content = .ok .any) := by
  have htype :
      s.typeAt path.content =
        typeAlong (some fields) .any (Path.segments path.content) := by
    rw [typeAt, hknown, Outcome.ok_bind]
  have hleads :
      ∀ target, Leads fields (Path.segments path.content) target →
        s.typeAt path.content =
          (do typeAlong (← target.unwrapOptional.fields?) target []) := by
    intro target hleads
    rw [htype, ← typeAlong_of_leads hleads [], List.append_nil]
  refine ⟨?_, ?_, ?_, ?_, ?_⟩
  · intro problem h
    rw [htype]
    unfold Validation.checkPath at h
    split at h
    · cases h
    · exact typeAlong_of_problem h
  · intro hundotted h
    unfold Validation.checkPath at h
    cases hfound : fields.find? path.content with
    | some declared =>
        have hsegments : Path.segments path.content = [path.content] := by
          refine Path.segments_of_undotted fun hdot => ?_
          rw [hundotted hdot] at hfound
          cases hfound
        rw [hsegments]
        exact .inl ⟨declared, .last hfound⟩
    | none =>
        simp only [hfound] at h
        have walk : Walk fields (Path.segments path.content) :=
          (Validation.pathProblem_eq_none_iff h).mp rfl
        obtain ⟨part, parts, hparts⟩ :=
          List.exists_cons_of_ne_nil (Path.segments_ne_nil path.content)
        rw [hparts] at walk ⊢
        exact walk.leads_or_stops
  · intro target known hpath hfields
    rw [hleads target hpath, hfields]
    cases known <;> rfl
  · intro target e hpath hfields
    rw [hleads target hpath, hfields]
    rfl
  · rintro ⟨hsplit, hne, hpath, hunknown⟩
    rw [htype, hsplit, typeAlong_of_leads hpath, hunknown, Outcome.ok_bind,
      typeAlong_unknown hne]

/-- A shape whose owner may be missing, with a field that may be missing and
with a list. -/
def ownedFields : Fields := [
  (.text "owner", .union false [
    .record .data "Owner" .absent [
      ("email", .union true [.builtin .text, .noneType]),
      ("tags", .list (.builtin .text))],
    .noneType]),
  (.text "codes", .constant (.list [.text "zip"]))]

/-- The fields of the owner, with their types as they are declared. -/
theorem leads_owner
    {part : String}
    (type : Shape)
    (found :
      Fields.find? part [
        (.text "email", .union true [.builtin .text, .noneType]),
        (.text "tags", .list (.builtin .text))] = some type) :
    Leads ownedFields ["owner", part] type :=
  .into rfl rfl (.last found)

/-- A field that may be missing, one that is misspelled, and one with a part
left over. -/
theorem typeAt_owned :
    (mapping ownedFields).fields? = .ok (some ownedFields) ∧
      Validation.checkPath (.text "owner.email") "entity" ownedFields =
        .ok none ∧
      (mapping ownedFields).typeAt "owner.email" =
        .ok (.union true [.builtin .text, .noneType]) ∧
      (∃ problem, Validation.checkPath (.text "owner.mail") "entity"
        ownedFields = .ok (some problem)) ∧
      (mapping ownedFields).typeAt "owner.mail" = .ok .any ∧
      Validation.checkPath (.text "owner.tags.first") "entity" ownedFields =
        .ok none ∧
      (mapping ownedFields).typeAt "owner.tags.first" = .ok .any := by
  have hknown : (mapping ownedFields).fields? = .ok (some ownedFields) := rfl
  obtain ⟨problem, hproblem⟩ :
      ∃ problem, Validation.checkPath (.text "owner.mail") "entity"
        ownedFields = .ok (some problem) := ⟨_, rfl⟩
  obtain ⟨-, -, hemail, -⟩ :=
    typeAt_of_checkPath hknown (.text "owner.email") "entity"
  obtain ⟨hmail, -⟩ := typeAt_of_checkPath hknown (.text "owner.mail") "entity"
  obtain ⟨-, -, -, -, hfirst⟩ :=
    typeAt_of_checkPath hknown (.text "owner.tags.first") "entity"
  have hsplit :
      Path.segments "owner.tags.first" = ["owner", "tags"] ++ ["first"] := rfl
  have hstops : StopsAt ownedFields (Path.segments "owner.tags.first") :=
    .leftOver hsplit (List.cons_ne_nil "first" []) (leads_owner _ rfl) rfl
  exact ⟨hknown, rfl, hemail _ none (leads_owner _ rfl) rfl,
    ⟨problem, hproblem⟩, hmail problem hproblem, rfl, hfirst hstops⟩

end Shape
end RecordFilter
