import RecordFilter.InputModel.OfFilter
import RecordFilter.Proofs.Matching

/-!
# Inputs of the expected types

Each filter of a definition expects inputs of a type.  This module says when
inputs of these types are safe from the failure of a wrong input.

**Types at run time.**  `Shape.admits` tells which values are instances of a
type.  The types of elements do not show at run time, and neither do those of
most classes; such types admit more values than they should, which only makes
the results stronger.

**Groups.**  The one input of a group goes to all its conditions, but its type
is that of the first one.  A group is mixed if it asks for membership, though
not in its first condition.

**Main results.**
* `MemoryFilter.not_wrongInput_of_typed`: inputs of the expected types are never
  refused, if the inputs of mixed groups are collections.
* `MemoryFilter.wrongInput_mixed`: an input of a mixed group can have the
  expected type and be refused.
-/

namespace RecordFilter

open Grammar

/-! ## Instances of types -/

/-- Is the value an instance of the type? -/
def Builtin.admits : Builtin → Value → Bool
  | .text, v => v.text?.isSome
  | .int, .int _ | .int, .bool _ => true
  | .float, .float _ => true
  | .bool, .bool _ => true
  | .bytes, .bytes isMutable _ => !isMutable
  | .complex, .complex .. => true
  | .decimal, .decimal _ => true
  | .date, .date _ | .date, .moment _ => true
  | .moment, .moment _ => true
  | .clock, .clock _ => true
  | .duration, .duration _ => true
  | .list, .sequence .list _ => true
  | .mapping, .mapping form _ => form ≠ .proxy
  | .object, _ => true
  | _, _ => false

/-- Is the value an instance of the type, as far as it shows at run time? -/
def Shape.admits (v : Value) : Shape → Bool
  | .builtin b => b.admits v
  | .noneType => v.isNone
  | .list _ => Builtin.list.admits v
  | .mapOf _ _ => Builtin.mapping.admits v
  | .annotated type => admits v type
  | .union _ members => anyAdmits members
  | _ => true
where
  /-- Is the value an instance of one of the types? -/
  anyAdmits : List Shape → Bool
    | [] => false
    | type :: rest => admits v type || anyAdmits rest

theorem Shape.isSome_collection?_of_admits
    {item : Shape}
    {v : Value}
    (h : (Shape.list item).admits v = true) :
    v.collection?.isSome = true := by
  change Builtin.list.admits v = true at h
  cases v with
  | sequence => rfl
  | _ => cases h

/-! ## Filters that ask for membership -/

/-- Does a condition ask for membership? -/
def Value.asksMembership (condition : Value) : Bool :=
  (condition.comparison?.bind fun c => c.kind.kind?) = some .inArray

namespace Filter

/-- The comparisons of a filter: its conditions if it is a group. -/
def conditions : Filter → List Value
  | .comparison c => [c.toValue]
  | .group _ conditions => conditions
  | .custom _ => []

/-- Does a filter ask for membership, though not in its first condition? -/
def isMixed (f : Filter) : Bool :=
  match f.conditions with
  | [] => false
  | first :: rest => !first.asksMembership && rest.any Value.asksMembership

end Filter

namespace InputModel

variable {signatures : Signatures} {types : FieldTypes}

/-- Every input that is present has the type that its filter expects. -/
def Typed (signatures : Signatures) (types : FieldTypes) (d : Definition)
    (inputs : List (Value × Value)) : Prop :=
  ∀ named ∈ d, ∀ input,
    Interpretation.given? named.1.text? inputs = some input →
    ∃ type, inputType signatures types named.1 named.2 = .ok type ∧
      type.admits input = true

/-- Every input that is present and goes to a mixed group is a collection. -/
def CollectedIfMixed (d : Definition) (inputs : List (Value × Value)) : Prop :=
  ∀ named ∈ d, named.2.isMixed = true →
    ∀ input, Interpretation.given? named.1.text? inputs = some input →
      input.collection?.isSome = true

theorem inputType_of_conditions
    {f : Filter}
    {first : Value}
    {rest : List Value}
    (h : f.conditions = first :: rest)
    (name : Value) :
    inputType signatures types name f = conditionType types name first := by
  cases f with
  | comparison c =>
      cases h
      rfl
  | group kind conditions =>
      cases h
      rfl
  | custom callback => cases h

/-- A condition that asks for membership expects a list. -/
theorem exists_list_of_asksMembership
    {name condition : Value}
    {type : Shape}
    (hasks : condition.asksMembership = true)
    (htype : conditionType types name condition = .ok type) :
    ∃ item, type = .list item := by
  unfold Value.asksMembership at hasks
  rw [decide_eq_true_iff] at hasks
  obtain ⟨c, hcomparison, hkind⟩ := Option.bind_eq_some_iff.mp hasks
  simp only [conditionType, hcomparison] at htype
  obtain ⟨target, -, htarget⟩ := Outcome.bind_eq_ok.mp htype
  simp only [hkind] at htarget
  cases htarget
  exact ⟨_, rfl⟩

/-- An input of the expected type is a collection where the filter asks for
membership. -/
theorem isSome_collection?_of_typed
    {f : Filter}
    {name input : Value}
    {type : Shape}
    (hasks : f.conditions.any Value.asksMembership = true)
    (htype : inputType signatures types name f = .ok type)
    (hadmits : type.admits input = true)
    (hmixed : f.isMixed = true → input.collection?.isSome = true) :
    input.collection?.isSome = true := by
  cases hconditions : f.conditions with
  | nil =>
      rw [hconditions] at hasks
      cases hasks
  | cons first rest =>
      cases hfirst : first.asksMembership with
      | true =>
          rw [inputType_of_conditions hconditions] at htype
          obtain ⟨item, rfl⟩ := exists_list_of_asksMembership hfirst htype
          exact Shape.isSome_collection?_of_admits hadmits
      | false =>
          rw [hconditions, List.any_cons, hfirst, Bool.false_or] at hasks
          refine hmixed ?_
          simp only [Filter.isMixed, hconditions, hfirst, hasks, Bool.not_false,
            Bool.and_self]

end InputModel

/-! ## Questions of membership -/

theorem Declared.kind?_of_membership
    {raw : Value}
    (h : operator? raw = some .inArray) :
    kind? raw = some .inArray := by
  obtain ⟨k, hkind, hoperator⟩ := Option.bind_eq_some_iff.mp h
  cases k with
  | inArray => exact hkind
  | contains =>
      cases hflag : ignoresCase raw <;>
        simp [Kind.operator?, hflag] at hoperator
  | _ => cases hoperator

theorem Comparison.Agrees.asksMembership
    {raw : Value}
    {c : Comparison}
    (h : c.Agrees raw)
    (hoperator : Declared.operator? raw = some .inArray) :
    c.toValue.asksMembership = true := by
  have hkind : c.kind.kind? = some .inArray :=
    h.kind.trans (Declared.kind?_of_membership hoperator)
  exact decide_eq_true hkind

/-- A question of membership comes from a filter that asks for it, and has the
filter's input. -/
theorem Filter.Agrees.asksMembership
    {evaluate : Operator → MemoryBehaviour}
    {shape : Shape}
    {name : String}
    {raw record input : Value}
    {f : Filter}
    {q : Question}
    (h : Agrees shape name raw f)
    (hcallback : raw.callback? = none)
    (hq : q ∈ Interpretation.askedBy evaluate (some name) raw record input)
    (hmembership : q.operator = .inArray) :
    q.input = input ∧ f.conditions.any Value.asksMembership = true := by
  cases h with
  | custom same =>
      rw [hcallback] at same
      cases same
  | @comparison c declared agrees =>
      rw [Interpretation.askedBy_of_comparison declared] at hq
      obtain ⟨hoperator, hinput⟩ :=
        Interpretation.operator?_of_question? (Option.mem_toList.mp hq)
      rw [hmembership] at hoperator
      refine ⟨hinput, ?_⟩
      rw [conditions, List.any_cons, agrees.asksMembership hoperator,
        Bool.true_or]
  | @group kind k raws cs declared sameKind found nonempty each agree =>
      have hasked :
          ∃ onward, q ∈ Interpretation.askedWhile evaluate onward record input
            raws := by
        unfold Interpretation.askedBy at hq
        rw [declared.1, found, Option.getD_some] at hq
        cases k with
        | and => exact ⟨true, hq⟩
        | or => exact ⟨false, hq⟩
        | _ => cases declared.2
      obtain ⟨onward, hwhile⟩ := hasked
      obtain ⟨condition, hcondition, hquestion⟩ :=
        Interpretation.exists_of_mem_askedWhile hwhile
      obtain ⟨hoperator, hinput⟩ :=
        Interpretation.operator?_of_question? hquestion
      obtain ⟨c, hc, hagrees⟩ := Outcome.forall₂_mem_left agree hcondition
      rw [hmembership] at hoperator
      refine ⟨hinput, ?_⟩
      rw [conditions, List.any_eq_true]
      exact ⟨c.toValue, List.mem_map_of_mem hc,
        hagrees.asksMembership hoperator⟩

namespace MemoryFilter

variable {callbacks : Callbacks} {registry : Registry MemoryBehaviour}
variable {shape : Shape} {raw : Value} {f : MemoryFilter}

/-- Each entry of an accepted definition agrees with a filter of the parsed
definition. -/
theorem exists_agrees_of_define
    {entries : List (Value × Value)}
    (hentries : raw.entries? = some entries)
    (h : define registry callbacks shape raw = .ok f) :
    ∀ entry ∈ entries, ∃ name filter, entry.1.text? = some name ∧
      (entry.1, filter) ∈ f.definition ∧
      Filter.Agrees shape name entry.2 filter := by
  have hparsed :=
    (Definition.parse_eq_ok_iff hentries).mp (define_eq_ok_iff.mp h).2.1
  intro entry hentry
  obtain ⟨name, hname, -, hfilter⟩ := isEntry_of_define hentries h entry hentry
  obtain ⟨named, -, hcompiles⟩ :=
    Outcome.forall₂_mem_left (compiles_checkers hentries h) hentry
  obtain ⟨⟨key, filter⟩, hmember, rfl, hparse⟩ :=
    Outcome.forall₂_mem_left hparsed hentry
  obtain ⟨other, hother, hagrees⟩ :=
    Filter.exists_agrees hfilter hcompiles.isSettled
  rw [hparse] at hother
  cases hother
  exact ⟨name, filter, hname, hmember, hagrees⟩

/-- **Inputs of the expected types are not refused**, if mixed groups are given
collections. -/
theorem not_wrongInput_of_typed
    {signatures : Signatures}
    {types : InputModel.FieldTypes}
    {given : Value}
    {entries inputs : List (Value × Value)}
    (hentries : raw.entries? = some entries)
    (hcallbacks : ∀ entry ∈ entries, entry.2.callback? = none)
    (h : define Memory.defaultRegistry callbacks shape raw = .ok f)
    (hgiven : given.inputs = .ok inputs)
    (htyped : InputModel.Typed signatures types f.definition inputs)
    (hmixed : InputModel.CollectedIfMixed f.definition inputs) :
    ∃ p, f.predicate given = .ok p ∧
      ∀ record problem filter,
        (p record).result ≠ .error (.wrongInput problem filter) := by
  have hagrees := exists_agrees_of_define hentries h
  rw [Memory.defaultRegistry_eq] at h
  obtain ⟨p, hp, hfails⟩ := result_eq_error_iff hentries hcallbacks h hgiven
  refine ⟨p, hp, fun record problem filter hwrong => ?_⟩
  obtain ⟨q, hq, hanswer⟩ := (hfails record _).mp hwrong
  cases Question.defect_of_answer hanswer with
  | misuse membership single =>
      obtain ⟨entry, hentry, input, hgiven, hasked⟩ :=
        Interpretation.exists_of_mem_asked hq
      obtain ⟨name, parsed, hname, hmember, hagree⟩ := hagrees entry hentry
      obtain ⟨type, htype, hadmits⟩ := htyped _ hmember input hgiven
      rw [hname] at hasked
      obtain ⟨hinput, hasks⟩ :=
        hagree.asksMembership (hcallbacks entry hentry) hasked membership
      have hcollection :=
        InputModel.isSome_collection?_of_typed hasks htype hadmits
          fun hmix => hmixed _ hmember hmix input hgiven
      rw [← hinput, single] at hcollection
      cases hcollection

/-- A shape for the samples. -/
def taggedShape : Shape :=
  .mapping [(.text "age", .builtin .int), (.text "tags", .builtin .list)]

/-- A membership, and two groups; the second one is mixed. -/
def picks : Definition :=
  [(.text "ages", .comparison ⟨.kind .inArray, .text "age", .bool false⟩),
    (.text "either", .group (.kind .or)
      [.comparison (.kind .inArray) (.text "age") (.bool false),
        .comparison (.kind .eq) (.text "age") (.bool false)]),
    (.text "marks", .group (.kind .or)
      [.comparison (.kind .eq) (.text "tags") (.bool false),
        .comparison (.kind .inArray) (.text "tags") (.bool false)])]

/-- Lists for all entries. -/
def pickedInputs : List (Value × Value) :=
  [(.text "ages", .list [.int 30]), (.text "either", .list [.int 30, .int 40]),
    (.text "marks", .list [.text "new"])]

theorem picks_typed :
    InputModel.Typed (fun _ => none) (InputModel.shapeTypes taggedShape) picks
      pickedInputs := by
  intro named hnamed input hinput
  simp only [picks, List.mem_cons, List.not_mem_nil, or_false] at hnamed
  rcases hnamed with rfl | rfl | rfl
  · obtain rfl : Value.list [.int 30] = input := Option.some.inj hinput
    exact ⟨.list (.builtin .int), rfl, rfl⟩
  · obtain rfl : Value.list [.int 30, .int 40] = input := Option.some.inj hinput
    exact ⟨.list (.builtin .int), rfl, rfl⟩
  · obtain rfl : Value.list [.text "new"] = input := Option.some.inj hinput
    exact ⟨.builtin .list, rfl, rfl⟩

theorem picks_collected :
    InputModel.CollectedIfMixed picks pickedInputs := by
  intro named hnamed hmixed input hinput
  simp only [picks, List.mem_cons, List.not_mem_nil, or_false] at hnamed
  rcases hnamed with rfl | rfl | rfl
  · cases hmixed
  · cases hmixed
  · obtain rfl : Value.list [.text "new"] = input := Option.some.inj hinput
    rfl

theorem picks_not_refused :
    InputModel.Typed (fun _ => none) (InputModel.shapeTypes taggedShape) picks
      pickedInputs ∧
      InputModel.CollectedIfMixed picks pickedInputs ∧
      ∃ f, define Memory.defaultRegistry (fun _ _ _ => .ok true) taggedShape
        picks.toValue =
          .ok f ∧ f.definition = picks ∧
        ∃ p, f.predicate (.mapping .plain pickedInputs) = .ok p ∧
          ∀ record problem filter,
            (p record).result ≠ .error (.wrongInput problem filter) := by
  obtain ⟨f, hf, hdefinition⟩ :
      ∃ f, define Memory.defaultRegistry (fun _ _ _ => .ok true) taggedShape
        picks.toValue = .ok f ∧ f.definition = picks := ⟨_, rfl, rfl⟩
  have hcallbacks :
      ∀ entry ∈ picks.map (fun named => (named.1, named.2.toValue)),
        entry.2.callback? = none := by
    simp [picks, Filter.toValue, Comparison.toValue, Value.callback?]
  refine ⟨picks_typed, picks_collected, f, hf, hdefinition, ?_⟩
  exact not_wrongInput_of_typed rfl hcallbacks hf rfl
    (hdefinition ▸ picks_typed) (hdefinition ▸ picks_collected)

/-- A group that takes a number for equality and then for membership. -/
def eitherAge : Definition :=
  [(.text "either", .group (.kind .or)
    [.comparison (.kind .eq) (.text "age") (.bool false),
      .comparison (.kind .inArray) (.text "age") (.bool false)])]

/-- A number has the type that a mixed group expects, and is refused. -/
theorem wrongInput_mixed :
    InputModel.Typed (fun _ => none) (InputModel.shapeTypes taggedShape)
      eitherAge
        [(.text "either", .int 5)] ∧
      ∃ f, define Memory.defaultRegistry (fun _ _ _ => .ok true) taggedShape
        eitherAge.toValue =
          .ok f ∧ f.definition = eitherAge ∧
        ∃ p, f.predicate (.mapping .plain [(.text "either", .int 5)]) = .ok p ∧
          (p (.ofFields [("age", .int 7)])).result =
            .error (.wrongInput (.notACollection "int") none) := by
  refine ⟨?_, _, rfl, rfl, _, rfl, rfl⟩
  intro named hnamed input hinput
  obtain rfl := List.mem_singleton.mp hnamed
  obtain rfl : Value.int 5 = input := Option.some.inj hinput
  exact ⟨.builtin .int, rfl, rfl⟩

end MemoryFilter
end RecordFilter
