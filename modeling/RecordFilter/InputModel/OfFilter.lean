import RecordFilter.InputModel.Basic
import RecordFilter.Memory.Filter
import RecordFilter.Sql.Filter

/-!
# Input models of filters

A filter in memory types its inputs by the shape of the records, a filter on a
table by the columns.  Unless a name is given, the model is called after the
shape or the table.
-/

namespace RecordFilter

namespace InputModel

/-- The given name, or the name of the owner with an ending. -/
def nameOr (owner : String) (given : Option String) : String :=
  (given.filter (· ≠ "")).getD (owner ++ "FilterInput")

/-- The types of fields that a shape declares. -/
def shapeTypes (shape : Shape) : FieldTypes := fun field =>
  match field.text? with
  | some path => shape.typeAt path
  | none => .error .missingAttribute

/-- The types in a list, of which the last for a field counts; other fields have
any type. -/
def listedTypes (types : List (Value × Shape)) : FieldTypes := fun field =>
  if field.hashable then
    let found :=
      types.reverse.find? fun entry => (entry.1.eq field).toOption = some true
    .ok ((found.map (·.2)).getD .any)
  else .error .unhashable

/-- The types of the columns of a table. -/
def columnTypes (table : Sql.Table) : FieldTypes := fun field =>
  match field.text? with
  | some key => .ok (((table.column? key).map fun c => c.type.shape).getD .any)
  | none => if field.hashable then .ok .any else .error .unhashable

end InputModel

/-- The model of the inputs of a filter in memory. -/
def MemoryFilter.inputModel (f : MemoryFilter) (signatures : Signatures)
    (name : Option String) : Except Failure InputModel :=
  InputModel.build signatures (InputModel.shapeTypes f.shape)
    (InputModel.nameOr (f.shape.label?.getD "Entity") name) f.definition

/-- The model of the inputs of a filter on a table. -/
def SqlFilter.inputModel {φ : Type} (f : SqlFilter φ) (signatures : Signatures)
    (name : Option String) : Except Failure InputModel :=
  InputModel.build signatures (InputModel.columnTypes f.table)
    (InputModel.nameOr f.table.name name) f.definition

end RecordFilter
