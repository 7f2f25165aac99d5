import RecordFilter.Proofs.Normalisation

/-!
# What a definition requires of a registry

A comparison is compiled with the operator that the registry has under its key.
This module says which keys a definition uses, and shows that it depends on
nothing else in the registry.

**Keys.**  The key of a comparison is its kind, except that `contains` goes by
`icontains` if it is blind to case.  Keys are listed in the order in which they
are asked for: entry by entry and, in a group, condition by condition.

**Refusals.**  A run over comparisons fails at the first key that is missing,
and a list of lists of keys is refused as the first of them that is.  So the
failure of a run is read off its keys, for comparisons, then for conditions,
entries and definitions.

**Main results.**
* `MemoryFilter.failure_of_define`: a valid definition is refused for its first
  missing key only.
* `MemoryFilter.define_requires`: this, and registries that agree on the keys of
  the definition give filters that do the same.
-/

namespace RecordFilter

open Grammar

/-! ## Keys -/

/-- The key of the operator that a comparison is compiled with. -/
def Comparison.key? (c : Comparison) : Option String :=
  match c.kind.kind? with
  | some .contains =>
      some (if c.ignoreCase.truth then "icontains" else "contains")
  | some k => if k.isGroup then none else some k.text
  | none => none

/-- The keys that a filter uses, in the order of its conditions; a
callback uses none. -/
def Filter.keys : Filter → List String
  | .comparison c => c.key?.toList
  | .group _ conditions =>
      conditions.flatMap fun raw =>
        (raw.comparison?.bind Comparison.key?).toList
  | .custom _ => []

/-- The keys that a definition uses, in the order of its entries. -/
def Definition.keys (d : Definition) : List String :=
  d.flatMap fun entry => entry.2.keys

theorem Comparison.key?_of_operator
    {c : Comparison}
    {op : Operator}
    (h : c.operator = .ok op) :
    c.key? = some op.text := by
  unfold operator at h
  unfold key?
  cases hkind : c.kind.kind? with
  | none =>
      rw [hkind] at h
      cases h
  | some k =>
      rw [hkind, Option.bind_some] at h
      cases k with
      | contains =>
          cases h
          cases c.ignoreCase.truth <;> rfl
      | and | or => cases h
      | _ =>
          cases h
          rfl

/-! ## Refusals -/

namespace Registry

variable {ε : Type} (registry : Registry ε)

/-- How a registry refuses keys: for the first one under which there is no
operator. -/
def refusal? (keys : List String) : Option Failure :=
  (keys.find? fun key => !registry.has key).map
    (.unsupportedOperator registry.backend)

theorem refusal?_singleton
    (key : String) :
    registry.refusal? [key] = Outcome.failure? (registry.require key) := by
  unfold refusal? require has
  cases h : registry.get? key with
  | none => simp [h]
  | some op => simp [h]

/-- Lists of keys, one after the other, are refused as the first of
them that is. -/
theorem refusal?_flatMap
    {α : Type}
    (keys : α → List String)
    (xs : List α) :
    registry.refusal? (xs.flatMap keys) =
      xs.findSome? fun x => registry.refusal? (keys x) := by
  unfold refusal?
  rw [List.find?_flatMap, List.map_findSome?]
  rfl

end Registry

/-! ## Failures of compiling -/

theorem Strategy.exists_named
    {γ : Type}
    {pairs : List (Value × γ)}
    (h : ∀ pair ∈ pairs, ∃ text, pair.1.text? = some text) :
    ∃ checkers, named pairs = .ok checkers := by
  have hnames :
      ∀ pair ∈ pairs, ∃ entry : Name × γ,
        pair.1.name? = some entry.1 ∧ pair.2 = entry.2 := by
    intro pair hmem
    obtain ⟨text, hkey⟩ := h pair hmem
    obtain ⟨name, hname, -⟩ := Option.map_eq_some_iff.mp hkey
    exact ⟨(name, pair.2), hname, rfl⟩
  obtain ⟨checkers, hcheckers⟩ := Outcome.exists_forall₂ hnames
  exact ⟨checkers, named_eq_ok_iff.mpr hcheckers⟩

namespace Memory

open Outcome

variable {registry : Registry MemoryBehaviour} {shape : Shape}

/-- A comparison is refused if the registry has nothing under its key. -/
theorem failure_of_comparisonChecker
    {name : Option String}
    {raw key : Value}
    {c : Comparison}
    (h : IsComparison shape name raw)
    (hagrees : c.Agrees raw)
    (hpath : Declared.path? key.text? raw = Declared.path? name raw) :
    failure? (comparisonChecker registry (c.fieldOr key) c) =
      registry.refusal? c.key?.toList := by
  obtain ⟨op, hop⟩ := h.exists_operator
  obtain ⟨path, hread, -⟩ := h.path
  have hoperator : c.operator = .ok op := hagrees.operator_eq hop
  have hpathOf : pathOf (c.fieldOr key) = .ok path := by
    unfold pathOf
    rw [hagrees.path, hpath, hread]
  unfold comparisonChecker
  rw [hoperator, ok_bind, hpathOf, Comparison.key?_of_operator hoperator,
    Option.toList_some, Registry.refusal?_singleton]
  exact failure?_bind_of_ok fun found _ => ⟨_, rfl⟩

/-- Conditions are refused for the first of their keys that is missing. -/
theorem failure_of_conditions
    {conditions : List Value}
    {cs : List Comparison}
    (callbacks : Callbacks)
    (key kind : Value)
    (h : ∀ condition ∈ conditions, IsComparison shape none condition)
    (hagree : List.Forall₂ Comparison.Agrees conditions cs) :
    failure? ((cs.map Comparison.toValue).mapM
      ((strategy registry callbacks).condition key)) = registry.refusal?
        (Filter.group kind (cs.map Comparison.toValue)).keys := by
  rw [Filter.keys, Registry.refusal?_flatMap]
  refine failure?_mapM (List.forall_mem_map.mpr fun c hc => ?_)
  obtain ⟨condition, hmem, hagrees⟩ := Outcome.forall₂_mem_right hagree hc
  have hcondition := h condition hmem
  exact failure_of_comparisonChecker hcondition hagrees
    (hcondition.path?_of_none key.text?)

/-- A parsed filter is refused for the first of its keys that is missing. -/
theorem failure_of_filter
    {name : String}
    {raw key : Value}
    {f : Filter}
    (callbacks : Callbacks)
    (hkey : key.text? = some name)
    (h : Filter.Agrees shape name raw f) :
    failure? ((strategy registry callbacks).filter key f) =
      registry.refusal? f.keys := by
  cases h with
  | custom same => rfl
  | comparison declared agrees =>
      exact failure_of_comparisonChecker declared agrees (by rw [hkey])
  | @group kind k conditions cs declared sameKind found nonempty each agree =>
      have hcombines :
          ∀ checkers : List Checker, ∃ checker,
            groupChecker kind checkers = .ok checker := by
        intro checkers
        unfold groupChecker
        rw [sameKind]
        obtain ⟨-, hgroups⟩ := declared
        cases k with
        | and | or => exact ⟨_, rfl⟩
        | _ => cases hgroups
      refine Eq.trans ?_ (failure_of_conditions callbacks key kind each agree)
      exact failure?_bind_of_ok fun checkers _ => hcombines checkers

/-- A definition whose names are texts is refused as the first of its
filters that is. -/
theorem failure_of_definition
    {d : Definition}
    (callbacks : Callbacks)
    (h : ∀ entry ∈ d, ∃ name raw, entry.1.text? = some name ∧
      Filter.Agrees shape name raw entry.2) :
    failure? ((strategy registry callbacks).definition d) =
      registry.refusal? d.keys := by
  have hnamed :
      ∀ pairs : List (Value × Checker),
        (d.mapM fun entry => do
          return (entry.1,
            ← (strategy registry callbacks).filter entry.1 entry.2)) =
            .ok pairs →
        ∃ checkers, Strategy.named pairs = .ok checkers := by
    intro pairs hpairs
    refine Strategy.exists_named fun pair hmem => ?_
    obtain ⟨entry, hentry, hpair⟩ :=
      Outcome.forall₂_mem_right (Outcome.mapM_eq_ok_iff.mp hpairs) hmem
    obtain ⟨checker, -, hpair⟩ := Outcome.bind_eq_ok.mp hpair
    cases hpair
    obtain ⟨name, -, hkey, -⟩ := h entry hentry
    exact ⟨name, hkey⟩
  unfold Strategy.definition Definition.keys
  rw [failure?_bind_of_ok hnamed, Registry.refusal?_flatMap]
  refine failure?_mapM fun entry hmem => ?_
  obtain ⟨name, raw, hkey, hagrees⟩ := h entry hmem
  refine Eq.trans ?_ (failure_of_filter callbacks hkey hagrees)
  exact failure?_bind_of_ok fun checker _ => ⟨_, rfl⟩

end Memory

/-! ## Registries that agree -/

/-- Both registries have an operator under the key, and the two do the same. -/
def Registry.AgreeOn {ε : Type} (registry other : Registry ε) (key : String) :
    Prop :=
  ∃ op op', registry.get? key = some op ∧ other.get? key = some op' ∧
    op.behaviour = op'.behaviour

theorem Registry.agreeOn_of_has
    {ε : Type}
    {registry other : Registry ε}
    {key : String}
    (hhas : registry.has key = true)
    (hsame : (other.get? key).map Registered.behaviour =
      (registry.get? key).map Registered.behaviour) :
    other.AgreeOn registry key := by
  obtain ⟨op, hop⟩ := Option.isSome_iff_exists.mp hhas
  rw [hop, Option.map_some] at hsame
  obtain ⟨op', hop', hbehaviour⟩ := Option.map_eq_some_iff.mp hsame
  exact ⟨op', op, hop', hop, hbehaviour⟩

namespace Memory

variable {registry other : Registry MemoryBehaviour} {callbacks : Callbacks}

/-- What a comparison compiles to depends on the operator under its key. -/
theorem comparisonChecker_congr
    {field : Value}
    {c : Comparison}
    (h : ∀ key ∈ c.key?.toList, registry.AgreeOn other key) :
    comparisonChecker registry field c = comparisonChecker other field c := by
  unfold comparisonChecker
  cases hoperator : c.operator with
  | error e => rfl
  | ok op =>
      rw [Comparison.key?_of_operator hoperator] at h
      obtain ⟨found, found', hfound, hfound', hsame⟩ :=
        h op.text (List.mem_singleton_self _)
      rw [Outcome.ok_bind, Outcome.ok_bind,
        Registry.require_eq_ok_iff.mpr hfound,
        Registry.require_eq_ok_iff.mpr hfound', Outcome.ok_bind,
        Outcome.ok_bind, hsame]

theorem condition_congr
    {name raw : Value}
    (h : ∀ key ∈ (raw.comparison?.bind Comparison.key?).toList,
      registry.AgreeOn other key) :
    (strategy registry callbacks).condition name raw =
      (strategy other callbacks).condition name raw := by
  unfold Strategy.condition
  cases hcomparison : raw.comparison? with
  | none => rfl
  | some c =>
      rw [hcomparison] at h
      exact comparisonChecker_congr h

/-- What a filter compiles to depends on the operators under its keys. -/
theorem filter_congr
    {name : Value}
    {f : Filter}
    (h : ∀ key ∈ f.keys, registry.AgreeOn other key) :
    (strategy registry callbacks).filter name f =
      (strategy other callbacks).filter name f := by
  cases f with
  | comparison c => exact comparisonChecker_congr h
  | custom callback => rfl
  | group kind conditions =>
      have hconditions :
          conditions.mapM ((strategy registry callbacks).condition name) =
            conditions.mapM ((strategy other callbacks).condition name) := by
        refine Outcome.mapM_congr fun raw hmem =>
          condition_congr fun key hkey => ?_
        exact h key (List.mem_flatMap.mpr ⟨raw, hmem, hkey⟩)
      rw [Strategy.filter, Strategy.filter, hconditions]
      rfl

theorem definition_congr
    {d : Definition}
    (h : ∀ key ∈ d.keys, registry.AgreeOn other key) :
    (strategy registry callbacks).definition d =
      (strategy other callbacks).definition d := by
  have hentries :
      (d.mapM fun entry => do
        return (entry.1,
          ← (strategy registry callbacks).filter entry.1 entry.2)) =
        d.mapM fun entry => do
          return (entry.1,
            ← (strategy other callbacks).filter entry.1 entry.2) := by
    refine Outcome.mapM_congr fun entry hmem => ?_
    rw [filter_congr fun key hkey =>
      h key (List.mem_flatMap.mpr ⟨entry, hmem, hkey⟩)]
  rw [Strategy.definition, hentries]
  rfl

end Memory

/-! ## Defining -/

/-- Are the conditions of all groups comparisons? -/
def Definition.isSettled (d : Definition) : Bool :=
  d.all fun entry => Filter.isSettled entry.2.toValue

theorem Filter.isSettled_of_parse
    {raw : Value}
    {f : Filter}
    (hparse : parse raw = .ok f)
    (h : isSettled f.toValue = true) :
    isSettled raw = true := by
  cases raw with
  | group kind conditions =>
      cases hparse
      exact h
  | _ => rfl

/-- The filters of a valid definition agree with its entries. -/
theorem Definition.exists_agrees
    {shape : Shape}
    {owner : Option String}
    {raw : Value}
    {d : Definition}
    (hvalid : Validation.violations raw shape owner = .ok [])
    (hparse : parse raw = .ok d)
    (hsettled : d.isSettled = true) :
    ∀ entry ∈ d, ∃ name raw', entry.1.text? = some name ∧
      Filter.Agrees shape name raw' entry.2 := by
  obtain ⟨entries, hentries⟩ := exists_entries hparse
  intro entry hmem
  obtain ⟨⟨key, raw'⟩, hentry, hkey, hfilter⟩ :=
    Outcome.forall₂_mem_right ((parse_eq_ok_iff hentries).mp hparse) hmem
  obtain ⟨name, hname, -, hgrammar⟩ :=
    Validation.isEntry_of_no_violations hentries hvalid _ hentry
  have hparsed := List.all_eq_true.mp hsettled entry hmem
  obtain ⟨f, hf, hagrees⟩ :=
    Filter.exists_agrees hgrammar (Filter.isSettled_of_parse hfilter hparsed)
  rw [hfilter] at hf
  cases hf
  exact ⟨name, raw', by rw [hkey, hname], hagrees⟩

namespace MemoryFilter

variable {registry : Registry MemoryBehaviour} {callbacks : Callbacks}
variable {shape : Shape}
variable {raw : Value} {d : Definition}

/-- A valid definition is refused for the first of its keys that is missing, and
only for this. -/
theorem failure_of_define
    (hvalid : Validation.violations raw shape none = .ok [])
    (hparse : Definition.parse raw = .ok d)
    (hsettled : d.isSettled = true) :
    Outcome.failure? (define registry callbacks shape raw) =
      registry.refusal? d.keys := by
  have hagrees := Definition.exists_agrees hvalid hparse hsettled
  rw [define_of_valid hvalid hparse]
  refine Eq.trans ?_ (Memory.failure_of_definition callbacks hagrees)
  exact Outcome.failure?_bind_of_ok fun checkers _ => ⟨_, rfl⟩

/-- **A definition requires the keys it uses, and nothing else.**  A valid one
is refused for the first of its keys that is missing, and only for this.  With
all of them it is accepted, and any registry with the same behaviours under them
gives a filter that does the same. -/
theorem define_requires
    (hvalid : Validation.violations raw shape none = .ok [])
    (hparse : Definition.parse raw = .ok d)
    (hsettled : d.isSettled = true)
    (registry : Registry MemoryBehaviour)
    (callbacks : Callbacks) :
    (∀ e, define registry callbacks shape raw = .error e ↔
      ∃ key, d.keys.find? (fun key => !registry.has key) = some key ∧
        e = .unsupportedOperator registry.backend key) ∧
    ((∀ key ∈ d.keys, registry.has key = true) →
      ∃ f, define registry callbacks shape raw = .ok f ∧
        ∀ other : Registry MemoryBehaviour,
          (∀ key ∈ d.keys,
            (other.get? key).map Registered.behaviour =
              (registry.get? key).map Registered.behaviour) →
          ∃ f', define other callbacks shape raw = .ok f' ∧ f'.names = f.names ∧
            ∀ given, f'.predicate given = f.predicate given) := by
  have hfailure :=
    @failure_of_define registry callbacks shape raw d hvalid hparse hsettled
  constructor
  · intro e
    rw [← Outcome.failure?_eq_some_iff, hfailure, Registry.refusal?,
      Option.map_eq_some_iff]
    simp only [eq_comm]
  · intro hall
    have hnone : registry.refusal? d.keys = none := by
      unfold Registry.refusal?
      rw [List.find?_eq_none.mpr fun key hkey => by simp [hall key hkey],
        Option.map_none]
    rw [hnone] at hfailure
    cases hdefine : define registry callbacks shape raw with
    | error e =>
        rw [hdefine] at hfailure
        cases hfailure
    | ok f =>
        refine ⟨f, rfl, fun other hsame => ⟨f, ?_, rfl, fun _ => rfl⟩⟩
        have hagree : ∀ key ∈ d.keys, other.AgreeOn registry key :=
          fun key hkey =>
            Registry.agreeOn_of_has (hall key hkey) (hsame key hkey)
        rw [define_of_valid hvalid hparse, Memory.definition_congr hagree,
          ← define_of_valid hvalid hparse, hdefine]

/-- A definition that looks for texts in both ways, and asks for membership
in between. -/
def inquiry : Value :=
  .ofFields [
    ("either", .ofFields [("kind", .text "or"), ("conditions", .list [
      .ofFields [("kind", .text "contains"), ("field", .text "name"),
        ("caseInsensitive", .bool true)],
      .comparison (.text "inArray") (.text "tags") (.bool false)])]),
    ("own", .callback 0 "own" []),
    ("name", .ofFields [("kind", .text "contains")])]

/-- The operators that the definition above uses. -/
def inquired : List Operator := [.icontains, .inArray, .contains]

/-- Without the operator for membership, the definition above is refused for it,
although the one for `contains` is missing as well.  With just the operators it
uses, it is accepted, and the registry of all operators gives a filter that does
the same. -/
theorem inquiry_requires :
    ∃ d f f',
      Definition.parse inquiry = .ok d ∧
      d.keys = ["icontains", "inArray", "contains"] ∧
      define (Memory.registryOf [.icontains, .eq]) (fun _ _ _ => .ok true)
        .absent inquiry =
        .error (.unsupportedOperator Memory.backend "inArray") ∧
      define (Memory.registryOf inquired) (fun _ _ _ => .ok true) .absent
        inquiry = .ok f ∧
      define Memory.defaultRegistry (fun _ _ _ => .ok true) .absent
        inquiry = .ok f' ∧
      f'.names = f.names ∧ ∀ given, f'.predicate given = f.predicate given := by
  have hvalid : Validation.violations inquiry .absent none = .ok [] := by
    rfl
  obtain ⟨d, hparse, hkeys, hsettled⟩ :
      ∃ d, Definition.parse inquiry = .ok d ∧
        d.keys = ["icontains", "inArray", "contains"] ∧
        d.isSettled = true :=
    ⟨_, rfl, rfl, rfl⟩
  have hrefused :=
    (define_requires hvalid hparse hsettled
      (Memory.registryOf [.icontains, .eq])
      fun _ _ _ => .ok true).1 (.unsupportedOperator Memory.backend "inArray")
  have haccepted :=
    (define_requires hvalid hparse hsettled (Memory.registryOf inquired)
      fun _ _ _ => .ok true).2
  rw [hkeys] at hrefused haccepted
  obtain ⟨f, hf, hothers⟩ := haccepted (by decide)
  obtain ⟨f', hf', hnames, hpredicates⟩ := hothers Memory.defaultRegistry (by
    simp only [List.forall_mem_cons]
    exact ⟨rfl, rfl, rfl, nofun⟩)
  exact ⟨d, f, f', hparse, hkeys, hrefused.mpr ⟨"inArray", rfl, rfl⟩, hf, hf',
    hnames, hpredicates⟩

end MemoryFilter
end RecordFilter
