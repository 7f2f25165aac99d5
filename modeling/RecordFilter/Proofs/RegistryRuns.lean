import RecordFilter.Memory.Session
import RecordFilter.Proofs.RegistryHistory
import Mathlib.Data.Option.Defs
import Mathlib.Logic.Function.Basic

/-!
# Runs with registries and filters

This module says what all registries of a session hold after any run of
commands, and that filters do not depend on what happens to their
registries later.

**Histories.**  Each registry has a history of its own.  A new registry starts
with the operators it is given, a copy with the history of its source, and each
command adds its changes to the history of one registry.

**References.**  The store of a session could be shared, so a change of one
registry could show in another one.  `Separate` excludes this, since no two
names come to refer to one object.

**Main result.**
* `registries_isolated_filters_fixed`: each registry answers by its own
  history, a command changes no registry but its target, and a filter stays as
  it was defined.
-/

namespace RecordFilter

/-! ## Histories of a session -/

/-- The histories of all registries, under their names. -/
abbrev Histories (ε : Type) := String → Option (List (Change ε))

namespace Histories

variable {ε : Type}

/-- The histories after a command: only that of its target is another one. -/
def step (h : Histories ε) : RegistryCommand ε → Histories ε
  | .construct name _ ops => Function.update h name (some (ops.map .registered))
  | .register name ops =>
      Function.update h name ((h name).map (· ++ ops.map .registered))
  | .unregister name key =>
      Function.update h name ((h name).map (· ++ key.text?.toList.map .removed))
  | .copy name target => Function.update h target ((h name).or (h target))
  | _ => h

/-- The histories after some commands, from the first one on. -/
def after (cs : List (RegistryCommand ε)) : Histories ε :=
  cs.foldl step fun _ => none

end Histories

namespace RegistrySession

variable {ε : Type} {s s' : RegistrySession ε}

/-! ## Names and objects -/

/-- No two names refer to one object. -/
def Separate (s : RegistrySession ε) : Prop :=
  ∀ name other place,
    s.places.lookup name = some place → s.places.lookup other = some place →
    name = other

theorem lt_length_of_lookup
    {name : String}
    {place : Nat}
    (h : s.places.lookup name = some place) :
    place < s.objects.length := by
  obtain ⟨before, after, hplaces, -⟩ := List.lookup_eq_some_iff.mp h
  exact s.inStore (name, place) (by rw [hplaces]; simp)

theorem places_lookup_create
    (name other : String)
    (r : Registry ε) :
    (s.create name r).places.lookup other =
      if other = name then some s.objects.length
      else s.places.lookup other := by
  unfold create
  by_cases h : other = name
  · simp [h]
  · have hname : (other == name) = false := by simp [h]
    simp [List.lookup_cons, hname, h]

theorem lookup_create
    (name : String)
    (r : Registry ε) :
    (s.create name r).lookup = Function.update s.lookup name (some r) := by
  funext other
  rw [Function.update_apply]
  unfold lookup
  rw [places_lookup_create]
  split
  · simp [create]
  · cases hplace : s.places.lookup other with
    | none => rfl
    | some place =>
        change (s.objects ++ [r])[place]? = s.objects[place]?
        exact List.getElem?_append_left (lt_length_of_lookup hplace)

namespace Separate

theorem empty :
    Separate (.empty : RegistrySession ε) :=
  nofun

theorem create
    (h : s.Separate)
    (name : String)
    (r : Registry ε) :
    (s.create name r).Separate := by
  intro first second place hfirst hsecond
  rw [places_lookup_create] at hfirst hsecond
  split at hfirst <;> split at hsecond
  · rename_i hleft hright
    exact hleft.trans hright.symm
  · cases hfirst
    exact absurd (lt_length_of_lookup hsecond) (Nat.lt_irrefl _)
  · cases hsecond
    exact absurd (lt_length_of_lookup hfirst) (Nat.lt_irrefl _)
  · exact h first second place hfirst hsecond

theorem assign
    (h : s.Separate)
    (name : String)
    (r : Registry ε) :
    (s.assign name r).Separate :=
  h

/-- Without sharing, a change of an object shows under one name. -/
theorem lookup_assign
    (h : s.Separate)
    {name : String}
    {old : Registry ε}
    (hold : s.lookup name = some old)
    (r : Registry ε) :
    (s.assign name r).lookup = Function.update s.lookup name (some r) := by
  obtain ⟨place, hplace, hobject⟩ := Option.bind_eq_some_iff.mp hold
  have hbound := lt_length_of_lookup hplace
  funext other
  rw [Function.update_apply]
  unfold lookup RegistrySession.assign
  simp only [hplace]
  split
  · rename_i hother
    rw [hother, hplace]
    exact List.getElem?_set_self hbound
  · rename_i hother
    cases hplace' : s.places.lookup other with
    | none => rfl
    | some place' =>
        have hne : place ≠ place' := by
          rintro rfl
          exact hother (h other name place hplace' hplace)
        exact List.getElem?_set_ne hne

end Separate

/-! ## Commands -/

theorem step_of_asking
    {c : RegistryCommand ε}
    (h : c.target? = none) :
    s.step c = s := by
  unfold step
  split
  · rename_i answer s' hrun
    cases c with
    | construct | register | unregister | copy => cases h
    | get | require | has =>
        obtain ⟨r, -, hrun⟩ := Outcome.bind_eq_ok.mp hrun
        obtain ⟨found, -, hrun⟩ := Outcome.bind_eq_ok.mp hrun
        cases hrun
        rfl
    | list | size | keys =>
        obtain ⟨r, -, hrun⟩ := Outcome.bind_eq_ok.mp hrun
        cases hrun
        rfl
  · rfl

theorem step_register
    (name : String)
    (ops : List (Registered ε)) :
    s.step (.register name ops) =
      (s.lookup name).elim s fun r => s.assign name (r.registerAll ops) := by
  cases h : s.lookup name <;> simp [step, run, registry, h]

theorem step_unregister
    (name : String)
    (key : Value) :
    s.step (.unregister name key) =
      ((s.lookup name).bind fun r => (r.unregisterValue key).toOption).elim s
        (s.assign name) := by
  cases h : s.lookup name with
  | none => simp [step, run, registry, h]
  | some r =>
      cases hr : r.unregisterValue key <;>
        simp [step, run, registry, h, hr, Except.toOption]

theorem step_copy
    (name target : String) :
    s.step (.copy name target) =
      (s.lookup name).elim s fun r => s.create target r.copy := by
  cases h : s.lookup name <;> simp [step, run, registry, h]

theorem Separate.step
    (h : s.Separate)
    (c : RegistryCommand ε) :
    (s.step c).Separate := by
  cases c with
  | construct name backend ops => exact h.create name _
  | register name ops =>
      rw [step_register]
      cases s.lookup name with
      | none => exact h
      | some r => exact h.assign name _
  | unregister name key =>
      rw [step_unregister]
      cases (s.lookup name).bind fun r => (r.unregisterValue key).toOption with
      | none => exact h
      | some r' => exact h.assign name r'
  | copy name target =>
      rw [step_copy]
      cases s.lookup name with
      | none => exact h
      | some r => exact h.create target _
  | get | require | has | list | size | keys =>
      rw [step_of_asking rfl]
      exact h

/-! ## Registries by their names -/

/-- The registries after a command, each as a value under its name. -/
def changed (registries : String → Option (Registry ε)) :
    RegistryCommand ε → String → Option (Registry ε)
  | .construct name backend ops =>
      Function.update registries name (some (.ofList backend ops))
  | .register name ops =>
      Function.update registries name
        ((registries name).map fun r => r.registerAll ops)
  | .unregister name key =>
      Function.update registries name
        ((registries name).map fun r => (r.unregisterValue key).toOption.getD r)
  | .copy name target =>
      Function.update registries target
        ((registries name).or (registries target))
  | _ => registries

/-- A session without sharing works as if each name had a value of its own. -/
theorem lookup_step
    (h : s.Separate)
    (c : RegistryCommand ε) :
    (s.step c).lookup = changed s.lookup c := by
  have hkept :
      ∀ {name r?}, s.lookup name = r? →
        s.lookup = Function.update s.lookup name r? := by
    rintro name _ rfl
    exact (Function.update_eq_self name s.lookup).symm
  cases c with
  | construct name backend ops => exact lookup_create name _
  | register name ops =>
      rw [step_register, changed]
      cases hfound : s.lookup name with
      | none => exact hkept hfound
      | some r => exact h.lookup_assign hfound _
  | unregister name key =>
      rw [step_unregister, changed]
      cases hfound : s.lookup name with
      | none => exact hkept hfound
      | some r =>
          cases hremoved : r.unregisterValue key with
          | error e => simpa [hremoved, Except.toOption] using hkept hfound
          | ok r' =>
              simpa [hremoved, Except.toOption] using h.lookup_assign hfound r'
  | copy name target =>
      rw [step_copy, changed]
      cases hfound : s.lookup name with
      | none => exact hkept rfl
      | some r => exact lookup_create target r
  | get | require | has | list | size | keys =>
      rw [step_of_asking rfl]
      rfl

/-- A command changes no registry but its target. -/
theorem lookup_step_of_ne
    (h : s.Separate)
    {c : RegistryCommand ε}
    {name : String}
    (hname : c.target? ≠ some name) :
    (s.step c).lookup name = s.lookup name := by
  rw [lookup_step h]
  cases c with
  | construct | register | unregister | copy =>
      exact Function.update_of_ne
        (fun hsame => hname (congrArg some hsame.symm)) _ _
  | get | require | has | list | size | keys => rfl

/-- The registries have the given histories, name by name. -/
def Follow (h : Histories ε) (registries : String → Option (Registry ε)) :
    Prop :=
  ∀ name, Option.Rel Registry.Reflects (h name) (registries name)

namespace Follow

variable {h : Histories ε} {registries : String → Option (Registry ε)}

theorem update
    (hfollow : Follow h registries)
    (name : String)
    {past? : Option (List (Change ε))}
    {r? : Option (Registry ε)}
    (hrel : Option.Rel Registry.Reflects past? r?) :
    Follow (Function.update h name past?)
      (Function.update registries name r?) := by
  intro other
  rw [Function.update_apply, Function.update_apply]
  split
  · exact hrel
  · exact hfollow other

theorem map
    (hfollow : Follow h registries)
    (name : String)
    {new : List (Change ε)}
    {f : Registry ε → Registry ε}
    (hf : ∀ {past r}, r.Reflects past → (f r).Reflects (past ++ new)) :
    Follow (Function.update h name ((h name).map (· ++ new)))
      (Function.update registries name ((registries name).map f)) := by
  refine hfollow.update name ?_
  have hname := hfollow name
  generalize h name = past?, registries name = r? at hname
  cases hname with
  | some hr => exact .some (hf hr)
  | none => exact .none

theorem step
    (hfollow : Follow h registries)
    (c : RegistryCommand ε) :
    Follow (h.step c) (changed registries c) := by
  cases c with
  | construct name backend ops =>
      exact hfollow.update name
        (.some ((Registry.Reflects.empty backend).registerAll ops))
  | register name ops => exact hfollow.map name fun hr => hr.registerAll ops
  | unregister name key =>
      exact hfollow.map name fun hr => hr.unregisterValue key
  | copy name target =>
      refine hfollow.update target ?_
      have hname := hfollow name
      generalize h name = past?, registries name = r? at hname
      cases hname with
      | some hr => exact .some hr
      | none => exact hfollow target
  | get | require | has | list | size | keys => exact hfollow

end Follow

/-! ## Runs -/

theorem Separate.after
    (h : s.Separate)
    (cs : List (RegistryCommand ε)) :
    (s.after cs).Separate := by
  induction cs generalizing s with
  | nil => exact h
  | cons c rest ih => exact ih (h.step c)

theorem Follow.after
    {h : Histories ε}
    (hseparate : s.Separate)
    (hfollow : Follow h s.lookup)
    (cs : List (RegistryCommand ε)) :
    Follow (cs.foldl Histories.step h) (s.after cs).lookup := by
  induction cs generalizing s h with
  | nil => exact hfollow
  | cons c rest ih =>
      refine ih (hseparate.step c) ?_
      rw [lookup_step hseparate]
      exact hfollow.step c

end RegistrySession

/-! ## Runs with filters -/

namespace MemorySession

variable {callbacks : Callbacks} {s : MemorySession}

/-- The command on registries alone. -/
def registryCommand? : MemoryCommand → Option (RegistryCommand MemoryBehaviour)
  | .registry c => some c
  | _ => none

theorem step_registry
    (c : RegistryCommand MemoryBehaviour) :
    s.step callbacks (.registry c) = ⟨s.registries.step c, s.filters⟩ := by
  cases hrun : s.registries.run c <;>
    simp [step, run, RegistrySession.step, hrun]

theorem step_define
    {registry filter : String}
    {shape : Shape}
    {raw : Value}
    {r : Registry MemoryBehaviour}
    (hr : s.registries.lookup registry = some r) :
    s.step callbacks (.define registry filter shape raw) =
      (MemoryFilter.define r callbacks shape raw).toOption.elim s fun f =>
        ⟨s.registries, (filter, f) :: s.filters⟩ := by
  cases hf : MemoryFilter.define r callbacks shape raw <;>
    simp [step, run, RegistrySession.registry, hr, hf, Except.toOption]

theorem step_define_of_none
    {registry : String}
    (hr : s.registries.lookup registry = none)
    (filter : String)
    (shape : Shape)
    (raw : Value) :
    s.step callbacks (.define registry filter shape raw) = s := by
  simp [step, run, RegistrySession.registry, hr]

theorem step_call
    (filter : String)
    (input record : Value) :
    s.step callbacks (.call filter input record) = s := by
  unfold step
  split
  · rename_i answer s' hrun
    obtain ⟨f, -, hrun⟩ := Outcome.bind_eq_ok.mp hrun
    obtain ⟨p, -, hrun⟩ := Outcome.bind_eq_ok.mp hrun
    cases hrun
    rfl
  · rfl

/-- Definitions and calls of filters change no registry. -/
theorem registries_step
    (c : MemoryCommand) :
    (s.step callbacks c).registries =
      (registryCommand? c).elim s.registries s.registries.step := by
  cases c with
  | registry c => rw [step_registry]; rfl
  | define registry filter shape raw =>
      cases hr : s.registries.lookup registry with
      | none => rw [step_define_of_none hr]; rfl
      | some r =>
          rw [step_define hr]
          cases (MemoryFilter.define r callbacks shape raw).toOption <;> rfl
  | call filter input record => rw [step_call]; rfl

theorem registries_after
    (cs : List MemoryCommand) :
    (s.after callbacks cs).registries =
      s.registries.after (cs.filterMap registryCommand?) := by
  induction cs generalizing s with
  | nil => rfl
  | cons c rest ih =>
      refine (@ih (s.step callbacks c)).trans ?_
      rw [registries_step, List.filterMap_cons]
      cases registryCommand? c <;> rfl

/-- A filter stays the same as long as no other one is defined
under its name. -/
theorem lookup_filters_step
    {c : MemoryCommand}
    {filter : String}
    (h : c.defined? ≠ some filter) :
    (s.step callbacks c).filters.lookup filter = s.filters.lookup filter := by
  cases c with
  | registry c => rw [step_registry]
  | define registry other shape raw =>
      have hother : (filter == other) = false :=
        beq_false_of_ne fun hsame => h (congrArg some hsame.symm)
      cases hr : s.registries.lookup registry with
      | none => rw [step_define_of_none hr]
      | some r =>
          rw [step_define hr]
          cases (MemoryFilter.define r callbacks shape raw).toOption with
          | none => rfl
          | some f => exact (List.lookup_cons ..).trans (by rw [hother])
  | call other input record => rw [step_call]

theorem lookup_filters_after
    {filter : String}
    (cs : List MemoryCommand)
    (h : ∀ c ∈ cs, c.defined? ≠ some filter) :
    (s.after callbacks cs).filters.lookup filter = s.filters.lookup filter := by
  induction cs generalizing s with
  | nil => rfl
  | cons c rest ih =>
      obtain ⟨hfirst, hrest⟩ := List.forall_mem_cons.mp h
      exact (ih hrest).trans (lookup_filters_step hfirst)

theorem answer_call
    {filter : String}
    {f : MemoryFilter}
    (h : s.filters.lookup filter = some f)
    (input record : Value) :
    (s.run callbacks (.call filter input record)).map Prod.fst =
      (f.predicate input).map fun p => .verdict (p record) := by
  cases hp : f.predicate input <;>
    simp [run, MemorySession.filter, h, hp, Except.map]

open RegistrySession

/-- **Registries stay apart, and filters stay as they were defined.**  After any
run of commands, each registry answers by its own history, and a command changes
no registry but its target.  Whatever happens to the registry after a filter was
defined with it, the filter answers as its definition says. -/
theorem registries_isolated_filters_fixed :
    (∀ {ε : Type} (cs : List (RegistryCommand ε)) (name : String),
      Option.Rel Registry.Answers (Histories.after cs name)
        ((RegistrySession.empty.after cs).lookup name)) ∧
    (∀ {ε : Type} (cs : List (RegistryCommand ε)) (c : RegistryCommand ε)
      (name : String),
      c.target? ≠ some name →
        ((RegistrySession.empty.after cs).step c).lookup name =
          (RegistrySession.empty.after cs).lookup name) ∧
    ∀ (callbacks : Callbacks) (earlier : List MemoryCommand),
      (MemorySession.empty.after callbacks earlier).registries =
        RegistrySession.empty.after (earlier.filterMap registryCommand?) ∧
      ∀ (registry filter : String) (shape : Shape) (raw : Value)
        (r : Registry MemoryBehaviour) (f : MemoryFilter)
        (later : List MemoryCommand),
        (MemorySession.empty.after callbacks earlier).registries.lookup
          registry = some r →
        MemoryFilter.define r callbacks shape raw = .ok f →
        (∀ c ∈ later, c.defined? ≠ some filter) →
        ∀ input record,
          ((MemorySession.empty.after callbacks
              (earlier ++ .define registry filter shape raw :: later)).run
              callbacks
            (.call filter input record)).map Prod.fst =
          (f.predicate input).map fun p => .verdict (p record) := by
  refine ⟨?registries, ?isolation,
    fun callbacks earlier => ⟨?commands, ?filters⟩⟩
  case registries =>
    intro ε cs name
    have hfollow :
        Follow (fun _ => none)
          (RegistrySession.empty : RegistrySession ε).lookup :=
      fun _ => .none
    have hname := hfollow.after .empty cs name
    unfold Histories.after
    generalize cs.foldl Histories.step _ name = past?,
      lookup _ name = r? at hname
    cases hname with
    | some hr => exact .some hr.answers
    | none => exact .none
  case isolation =>
    exact fun cs c name => lookup_step_of_ne (Separate.empty.after cs)
  case commands => exact registries_after earlier
  case filters =>
    intro registry filter shape raw r f later hr hf hlater input record
    refine answer_call ?_ input record
    unfold MemorySession.after
    rw [List.foldl_append]
    refine (lookup_filters_after later hlater).trans ?_
    rw [show earlier.foldl (step callbacks) .empty =
        MemorySession.empty.after callbacks earlier from rfl,
      step_define hr, hf]
    simp [Except.toOption]

/-- An operator with a constant answer. -/
def constant (key : String) (answer : Bool) : Registered MemoryBehaviour :=
  ⟨key, "Constant", fun _ _ => .ok answer⟩

/-- A registry is copied, and then one of its operators is removed and
registered again. -/
def replacements : List MemoryCommand := [
  .registry (.construct "r" Memory.backend
    [constant "eq" true, constant "gt" true]),
  .registry (.copy "r" "s"),
  .registry (.unregister "r" (.text "eq")),
  .registry (.register "r" [constant "eq" false])]

/-- A definition that asks for equality. -/
def equality : Value :=
  .ofFields [("a", .comparison (.kind .eq) .none .none)]

/-- The operator that came back is the last one of its registry, the copy keeps
its order, and the filter says no even after its operator is gone. -/
theorem registries_isolated_replacements :
    let s :=
      RegistrySession.empty.after (replacements.filterMap registryCommand?)
    (∃ r, s.lookup "r" = some r ∧ r.keys = ["gt", "eq"] ∧
      r.requireValue (.operator .eq) = .ok (constant "eq" false) ∧
      r.lookup (.operator .lt) = .ok none) ∧
    (∃ r, s.lookup "s" = some r ∧ r.keys = ["eq", "gt"] ∧
      r.requireValue (.operator .eq) = .ok (constant "eq" true)) ∧
    (s.step (.unregister "s" (.text "gt"))).lookup "r" = s.lookup "r" ∧
    ((MemorySession.empty.after (fun _ _ _ => .ok true)
        (replacements ++ .define "r" "f" .any equality ::
          [.registry (.unregister "r" (.operator .eq))])).run
      (fun _ _ _ => .ok true) (.call "f" (.ofFields [("a", .int 1)]) .none)).map
      Prod.fst =
        .ok (.verdict (.ofExcept (.ok false))) := by
  obtain ⟨hanswers, hothers, hfilters⟩ := registries_isolated_filters_fixed
  have hr := hanswers (replacements.filterMap registryCommand?) "r"
  have hs := hanswers (replacements.filterMap registryCommand?) "s"
  refine ⟨⟨_, rfl, rfl, ?_, ?_⟩, ⟨_, rfl, rfl, ?_⟩, ?_, ?_⟩
  · cases hr with
    | some h => exact (h.required _ _).mpr rfl
  · cases hr with
    | some h => exact (h.unsupported _).mpr ⟨rfl, by decide⟩
  · cases hs with
    | some h => exact (h.required _ _).mpr rfl
  · exact hothers _ _ _ (by decide)
  · exact (hfilters _ replacements).2 "r" "f" .any equality _ _
      [.registry (.unregister "r" (.operator .eq))] rfl rfl
      (List.forall_mem_singleton.mpr (by decide)) _ _

end MemorySession
end RecordFilter
