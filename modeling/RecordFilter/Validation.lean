import RecordFilter.Filter
import RecordFilter.Shape.Fields
import RecordFilter.Traced

/-!
# Validation of definitions

A definition is checked once, before it is compiled.

**Results.**  `Validation.violations` lists every violation, entry by entry in
the order of the definition and, in a group, condition by condition.  It has no
result only when a value in the definition or the shape cannot be looked at in
the way that is needed.
-/

namespace RecordFilter
namespace Validation

/-- What definitions are checked against: the known fields and the name of
their owner. -/
structure Scope where
  fields : Option Fields
  owner : String

/-- The report on a missing field; the known names have to be texts. -/
def missingField (part owner path : String) (fields : Fields) :
    Except Failure MissingField :=
  match fields.names? with
  | some names =>
      .ok (.make Similarity.usualCutoff (.text part) owner names (some path))
  | none => .error .notText

/--
Walks along a path.  A part has to be a known field; the walk ends well at a
field without known fields, except that a single datum has nothing behind it.
-/
def pathProblem (path : Name) (root : String) : Fields → String → List String →
    Except Failure (Option Problem)
  | _, _, [] => .ok none
  | fields, owner, part :: rest =>
      match fields.find? part with
      | none => do
          return some (.noSuchField path root
            (← missingField part owner path.content fields))
      | some type => do
          let type := type.unwrapOptional
          match ← type.fields? with
          | some nested =>
              pathProblem path root nested (type.label?.getD part) rest
          | none =>
              if !type.hashable then .error .unhashable
              else
                match type.scalar? with
                | some typeName =>
                    return if rest.isEmpty then none
                      else some (.notTraversable part path.content typeName)
                | none => return none

/-- Checks a path against known fields; a field may be known under the
whole path. -/
def checkPath (path : Name) (root : String) (fields : Fields) :
    Except Failure (Option Problem) :=
  match fields.find? path.content with
  | some _ => .ok none
  | none => pathProblem path root fields root (Path.segments path.content)

/-- The kind that a filter declares; a comparison or group shows it
by its text. -/
def kindOf (raw : Value) : Value :=
  match raw with
  | .comparison k _ _ => k.kindDeclaration
  | .group k _ => k.kindDeclaration
  | .mapping _ entries => (Value.field? "kind" entries).getD .none
  | _ => .none

/-- The explicit field of a comparison in either form. -/
def fieldOf (raw : Value) : Value :=
  match raw with
  | .comparison _ field _ => field
  | .mapping _ entries => (Value.field? "field" entries).getD .none
  | _ => .none

/-- Is a comparison in either form asked to ignore case? -/
def ignoresCase (raw : Value) : Bool :=
  match raw with
  | .comparison _ _ ignoreCase => ignoreCase.truth
  | .mapping _ entries => ((Comparison.flag? entries).getD .none).truth
  | _ => false

/-- The conditions of a group in either form, if they are a list or a tuple. -/
def conditionsOf? (raw : Value) : Option (List Value) :=
  match raw with
  | .group _ conditions => some conditions
  | .mapping _ entries =>
      match Value.field? "conditions" entries with
      | some (.sequence .list items) => some items
      | some (.sequence .tuple items) => some items
      | _ => none
  | _ => none

/-- The problem of a kind that is none of the known ones. -/
def kindProblem (kind : Value) : Except Failure Problem :=
  if kind.isNone then .ok .missingKind
  else do return .unknownKind (← kind.plainText)

/-- The problem of a flag that the kind does not take. -/
def flagProblems (raw : Value) : Except Failure (List Problem) :=
  let kind := kindOf raw
  if ignoresCase raw && kind.kind? ≠ some .contains then do
    return [.caseFlag (← kind.plainText)]
  else .ok []

/-- The problems of a path in a scope. -/
def pathProblems (scope : Scope) (path : Name) :
    Except Failure (List Problem) :=
  match scope.fields with
  | none => .ok []
  | some fields => do return (← checkPath path scope.owner fields).toList

/-- The problems of a comparison of a known kind, whose field is named or
required. -/
def comparisonProblems (scope : Scope) (name : Option Name) (raw : Value) :
    Except Failure (List Problem) :=
  let check (path : Name) : Except Failure (List Problem) := do
    return (← flagProblems raw) ++ (← pathProblems scope path)
  if (fieldOf raw).isNone then
    match name with
    | some name => check name
    | none => .ok [.missingConditionField]
  else
    match (fieldOf raw).name? with
    | some path => if path.content = "" then .ok [.badField] else check path
    | none => .ok [.badField]

/-- The problems of one condition of a group. -/
def conditionProblems (scope : Scope) (condition : Value) :
    Except Failure (List Problem) :=
  if condition.comparison?.isNone && condition.entries?.isNone then
    .ok [.notAComparison condition.typeName]
  else do
    let kind := kindOf condition
    if ← kind.isGroupKind then return [.nestedGroup]
    else if ← kind.isComparisonKind then comparisonProblems scope none condition
    else return [← kindProblem kind]

/-- The place of a condition in its group. -/
def conditionPath (index : Nat) : String :=
  "conditions[" ++ Nat.repr index ++ "]"

/-- The violations of one condition of a group. -/
def conditionViolations (scope : Scope) (name : Name) (index : Nat)
    (condition : Value) : Except Failure (List Violation) := do
  return (← conditionProblems scope condition).map
    fun problem => ⟨name, problem, some (conditionPath index)⟩

/-- The violations of conditions, which are counted from `index`. -/
def conditionsViolations (scope : Scope) (name : Name) :
    Nat → List Value → Except Failure (List Violation)
  | _, [] => .ok []
  | index, condition :: rest => do
      return (← conditionViolations scope name index condition)
        ++ (← conditionsViolations scope name (index + 1) rest)

/-- The violations of a group. -/
def groupViolations (scope : Scope) (name : Name) (raw : Value) :
    Except Failure (List Violation) :=
  match conditionsOf? raw with
  | none => do
      return [⟨name, .missingConditions (← (kindOf raw).plainText), none⟩]
  | some [] => do
      return [⟨name, .noConditions (← (kindOf raw).plainText), none⟩]
  | some conditions => conditionsViolations scope name 0 conditions

/-- A comparison cannot have the kind of a group, nor a group any other. -/
def formProblem? (raw kind : Value) : Except Failure (Option Problem) :=
  match raw with
  | .comparison .. => do
      if ← kind.isGroupKind then
        return some (.needsConditions (← kind.plainText))
      else return none
  | .group .. => do
      if ← kind.isGroupKind then return none
      else return some (.notAGroupKind (← kind.plainText))
  | _ => .ok none

/-- The violations of a filter in either form. -/
def filterViolations (scope : Scope) (name : Name) (raw : Value) :
    Except Failure (List Violation) := do
  let kind := kindOf raw
  match ← formProblem? raw kind with
  | some problem => return [⟨name, problem, none⟩]
  | none =>
      if ← kind.isGroupKind then groupViolations scope name raw
      else if ← kind.isComparisonKind then
        return (← comparisonProblems scope (some name) raw).map
          fun problem => ⟨name, problem, none⟩
      else return [⟨name, ← kindProblem kind, none⟩]

/-- Can the value be a filter, whatever is in it? -/
def isFilterForm : Value → Bool
  | .comparison .. | .group .. | .mapping .. => true
  | _ => false

/-- The violations of one entry of a definition. -/
def entryViolations (scope : Scope) (entry : Value × Value) :
    Except Failure (List Violation) :=
  match entry.1.name? with
  | none => do return [⟨.text (← entry.1.plainText), .badName, none⟩]
  | some name =>
      if name.content = "" then .ok [⟨name, .badName, none⟩]
      else if entry.2.callback?.isSome then .ok []
      else if isFilterForm entry.2 then filterViolations scope name entry.2
      else .ok [⟨name, .notAFilter entry.2.typeName, none⟩]

/-- The violations of entries, in their order. -/
def entriesViolations (scope : Scope) :
    List (Value × Value) → Except Failure (List Violation)
  | [] => .ok []
  | entry :: rest => do
      return (← entryViolations scope entry) ++ (← entriesViolations scope rest)

/-- The name of a shape in reports: the given one, its own, or just `entity`. -/
def ownerName (given own : Option String) : String :=
  match given.filter (· ≠ "") with
  | some name => name
  | none => (own.filter (· ≠ "")).getD "entity"

/-- All violations of a definition against a shape. -/
def violations (definition : Value) (shape : Shape) (owner : Option String) :
    Except Failure (List Violation) :=
  match definition.entries? with
  | none => .ok [⟨.text "<root>", .notAMapping definition.typeName, none⟩]
  | some entries => do
      let fields ← shape.fields?
      entriesViolations ⟨fields, ownerName owner shape.label?⟩ entries

/-- A definition without violations passes; any other is refused with
all of them. -/
def ensure (definition : Value) (shape : Shape) (owner : Option String) :
    Except Failure Unit := do
  let found ← violations definition shape owner
  if found.isEmpty then return () else throw (.invalidDefinition found)

end Validation
end RecordFilter
