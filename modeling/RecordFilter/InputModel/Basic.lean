import RecordFilter.Input
import RecordFilter.InputModel.Coercion
import RecordFilter.InputModel.Names
import RecordFilter.InputModel.Typing

/-!
# Input models

An input model describes the inputs of a definition: one field for each filter,
of the type that the filter expects or missing.

**Validation.**  Data is a mapping.  Each field is looked up under the name of
its filter and then under its attribute; unknown keys are ignored, and a field
without data is missing.
-/

namespace RecordFilter

/-- A field of an input model. -/
structure InputField where
  attributeName : String
  filterName : String
  type : Shape

/-- A model of the inputs of a definition. -/
structure InputModel where
  name : String
  fields : List InputField

namespace Shape

/-- Is some part of the type still given by a text? -/
def isOpen : Shape → Bool
  | .forward _ | .reference _ => true
  | .union _ ms => anyOpen ms
  | .list item => isOpen item
  | .mapOf key value => isOpen key || isOpen value
  | .applied _ args => anyOpen args
  | .annotated type => isOpen type
  | _ => false
where
  /-- Is some type of the list still given by a text? -/
  anyOpen : List Shape → Bool
    | [] => false
    | s :: rest => isOpen s || anyOpen rest

end Shape

namespace InputModel

/-- The type of a field that expects inputs of a type: they may be
missing as well. -/
def fieldType (type : Shape) : Except Failure Shape := do
  let optional ← Shape.union? [type, .noneType]
  Shape.modelType (fun _ => none) optional

/-- The names of a definition, which have to be texts. -/
def filterNames (d : Definition) : Except Failure (List String) :=
  d.mapM fun entry =>
    match entry.1.text? with
    | some name => .ok name
    | none => .error .missingAttribute

/-- The model of the inputs of a definition. -/
def build (signatures : Signatures) (types : FieldTypes) (name : String)
    (d : Definition) : Except Failure InputModel := do
  let names ← filterNames d
  let expected ← d.mapM fun entry => inputType signatures types entry.1 entry.2
  let types ← expected.mapM fieldType
  return {
    name := name
    fields :=
      ((attributeNames reserved.contains names).zip types).map fun field =>
        ⟨field.1.2, field.1.1, field.2⟩ }

/-- Are all types of the model known? -/
def isComplete (m : InputModel) : Bool := m.fields.all fun f => !f.type.isOpen

/-- The datum of a field, or the missing value. -/
def datum (entries : List (Value × Value)) (f : InputField) : Value :=
  ((Value.field? f.filterName entries).or
    (Value.field? f.attributeName entries)).getD .none

/-- Coerces the data of all fields, and collects the errors of all. -/
def coerceFields (entries : List (Value × Value)) :
    List InputField → List (String × Option String × Value) × Coercion.Errors
  | [] => ([], [])
  | f :: rest =>
      let (values, errors) := coerceFields entries rest
      match Coercion.coerce f.type (datum entries f) with
      | .ok v => ((f.attributeName, some f.filterName, v) :: values, errors)
      | .error found =>
          (values, Coercion.locate (.inl f.filterName) found ++ errors)

/-- An instance of the model with the given data. -/
def validate (m : InputModel) (data : Value) : Except Failure Value :=
  if !m.isComplete then .error .incompleteModel
  else
    match data.entries? with
    | none => .error (.invalidFields [⟨[], "model_type"⟩])
    | some entries =>
        let (values, errors) := coerceFields entries m.fields
        if errors.isEmpty then .ok (.model 0 values)
        else .error (.invalidFields errors)

end InputModel
end RecordFilter
