import RecordFilter.Proofs.Occurrence
import RecordFilter.Registry
import Mathlib.Data.List.Induction

/-!
# What a registry holds after its history

This module says what is in a registry, and in which order, from the changes
that it has seen.

**History.**  An operator was registered, or a key was removed.  The last change
of a key decides what is under it.

**Order.**  A key has entered with the registration before which it was absent
and since which it was not removed.  Operators are listed in the order in which
their keys entered.

**Method.**  `Reflects` ties a registry to its history, and each operation on
registries keeps it up with the changes that it makes.

**Results.**
* `Registry.Reflects.answers`: what a registry lists, finds and refuses.
-/

namespace RecordFilter

/-! ## Keys -/

namespace Value

open Outcome

theorem operatorKey?_of_hashable
    {v : Value}
    (h : v.hashable) :
    v.operatorKey? = .ok v.text? := by
  unfold operatorKey?
  rw [if_pos h]

theorem operatorKey?_of_not_hashable
    {v : Value}
    (h : ¬ v.hashable) :
    v.operatorKey? = .error .unhashable := by
  unfold operatorKey?
  rw [if_neg h]

theorem operatorLabel_failsOnly
    (v : Value) :
    (∃ label, v.operatorLabel = .ok label) ∨
      v.operatorLabel = .error .oversizedInteger := by
  rcases plainText_failsIff ((v.attribute? "value").getD v) with
      ⟨hok, -⟩ | ⟨herror, -⟩
  · exact .inl hok
  · exact .inr herror

end Value

/-! ## Histories -/

/-- A change of a registry. -/
inductive Change (ε : Type) where
  | registered (op : Registered ε)
  | removed (key : String)

namespace Change

variable {ε : Type}

/-- The key that changes. -/
def key : Change ε → String
  | .registered op => op.key
  | .removed key => key

/-- The operator under the key after the change. -/
def operator? : Change ε → Option (Registered ε)
  | .registered op => some op
  | .removed _ => none

end Change

namespace Registry

variable {ε : Type} {past : List (Change ε)} {key other : String} {c : Change ε}

/-- The operator under a key after some changes: the last change of the
key decides. -/
def last? (key : String) (past : List (Change ε)) : Option (Registered ε) :=
  (past.filter fun c => c.key = key).getLast?.bind Change.operator?

/-- The change at a position let the key in: before, it was absent, and it was
not removed since. -/
def EnteredAt (key : String) (past : List (Change ε)) (i : Nat) : Prop :=
  ∃ before op since, past = before ++ .registered op :: since ∧
    before.length = i ∧
    op.key = key ∧ last? key before = none ∧ .removed key ∉ since

theorem last?_append
    (past : List (Change ε))
    (c : Change ε)
    (key : String) :
    last? key (past ++ [c]) =
      if c.key = key then c.operator? else last? key past := by
  unfold last?
  by_cases h : c.key = key
  · simp [List.filter_append, h]
  · simp [List.filter_append, h]

namespace EnteredAt

variable {i j : Nat}

theorem lt_length
    (h : EnteredAt key past i) :
    i < past.length := by
  obtain ⟨before, op, since, rfl, rfl, -⟩ := h
  simp

theorem append
    (h : EnteredAt key past i)
    (hc : c ≠ .removed key) :
    EnteredAt key (past ++ [c]) i := by
  obtain ⟨before, op, since, rfl, hlength, hkey, habsent, hsince⟩ := h
  refine ⟨before, op, since ++ [c], by simp, hlength, hkey, habsent, ?_⟩
  simp [hsince, hc.symm]

theorem new
    {op : Registered ε}
    (h : last? op.key past = none) :
    EnteredAt op.key (past ++ [.registered op]) past.length :=
  ⟨past, op, [], rfl, rfl, rfl, h, List.not_mem_nil⟩

/-- A key that was registered and not removed since is not absent. -/
theorem last?_ne_none
    {op : Registered ε}
    {before since : List (Change ε)}
    (hsince : .removed op.key ∉ since) :
    last? op.key (before ++ .registered op :: since) ≠ none := by
  induction since using List.reverseRecOn with
  | nil => simp [last?_append, Change.key, Change.operator?]
  | append_singleton since c ih =>
      rw [List.mem_append, not_or] at hsince
      have hsplit :
          before ++ .registered op :: (since ++ [c]) =
            (before ++ .registered op :: since) ++ [c] := by simp
      rw [hsplit, last?_append]
      split
      · rename_i hkey
        cases c with
        | registered other => simp [Change.operator?]
        | removed removed =>
            rw [Change.key] at hkey
            simp [hkey] at hsince
      · exact ih hsince.1

/-- A key entered at one position only. -/
theorem unique
    (hi : EnteredAt key past i)
    (hj : EnteredAt key past j) :
    i = j := by
  have hlater :
      ∀ {before mid since since' : List (Change ε)} {op op' : Registered ε},
        op.key = key → .removed key ∉ since → last? key (before ++ mid) = none →
        .registered op :: since = mid ++ .registered op' :: since' →
        mid = [] := by
    intro before mid since since' op op' hkey hsince habsent hsplit
    subst hkey
    cases mid with
    | nil => rfl
    | cons first mid =>
        injection hsplit with hfirst hrest
        subst hfirst
        have hmid : .removed op.key ∉ mid := fun hmem =>
          hsince (hrest ▸ List.mem_append_left _ hmem)
        exact absurd habsent (last?_ne_none hmid)
  obtain ⟨before, op, since, hpast, rfl, hkey, habsent, hsince⟩ := hi
  obtain ⟨before', op', since', hpast', rfl, hkey', habsent', hsince'⟩ := hj
  rw [hpast] at hpast'
  rcases List.append_eq_append_iff.mp hpast' with
      ⟨mid, rfl, hsplit⟩ | ⟨mid, rfl, hsplit⟩
  · rw [hlater hkey hsince habsent' hsplit, List.append_nil]
  · rw [hlater hkey' hsince' habsent hsplit, List.append_nil]

end EnteredAt

/-! ## Keys of registries -/

theorem keys_insert
    (op : Registered ε)
    (ops : List (Registered ε)) :
    (insert op ops).map Registered.key =
      if op.key ∈ ops.map Registered.key then ops.map Registered.key
      else ops.map Registered.key ++ [op.key] := by
  induction ops with
  | nil => rfl
  | cons first rest ih =>
      unfold insert
      by_cases h : first.key = op.key
      · simp [h]
      · simp only [h, if_false, List.map_cons, ih, List.mem_cons, Ne.symm h,
          false_or]
        split <;> rfl

theorem keys_unregister
    (r : Registry ε)
    (removed : String) :
    (r.unregister removed).keys = r.keys.filter fun key => key ≠ removed := by
  unfold keys unregister
  rw [List.filter_map]
  rfl

theorem get?_eq_none_iff
    {r : Registry ε} :
    r.get? key = none ↔ key ∉ r.keys := by
  simp [get?, keys, List.find?_eq_none]

/-- Each operator is found under its own key. -/
theorem get?_of_mem
    {r : Registry ε}
    {op : Registered ε}
    (h : op ∈ r.operators) :
    r.get? op.key = some op := by
  obtain ⟨backend, operators, hnodup⟩ := r
  unfold get?
  change op ∈ operators at h
  change operators.find? (fun other => other.key = op.key) = some op
  induction operators with
  | nil => cases h
  | cons first rest ih =>
      rw [List.map_cons, List.nodup_cons] at hnodup
      rcases List.mem_cons.mp h with rfl | hrest
      · simp
      · have hother : first.key ≠ op.key := by
          rintro hsame
          exact hnodup.1 (hsame ▸ List.mem_map_of_mem hrest)
        simp only [List.find?_cons, hother, decide_false]
        exact ih hnodup.2 hrest

theorem unregister_of_empty
    {r : Registry ε}
    (h : r.operators = [])
    (key : String) :
    r.unregister key = r := by
  obtain ⟨backend, operators, hnodup⟩ := r
  change operators = [] at h
  subst h
  rfl

/-- Only a value that names a key removes anything; all others leave the
registry as it is. -/
theorem unregisterValue_getD
    (r : Registry ε)
    (v : Value) :
    (r.unregisterValue v).toOption.getD r = v.text?.elim r r.unregister := by
  unfold unregisterValue
  cases htext : v.text? with
  | none =>
      split
      · rfl
      · by_cases hv : v.hashable
        · rw [Value.operatorKey?_of_hashable hv, htext]
          rfl
        · rw [Value.operatorKey?_of_not_hashable hv]
          rfl
  | some key =>
      split
      · rename_i hempty
        exact (unregister_of_empty (List.isEmpty_iff.mp hempty) key).symm
      · rw [Value.operatorKey?_of_hashable (Value.hashable_of_text? htext),
          htext]
        rfl

/-! ## Registries and their histories -/

/-- A registry after some changes. -/
structure Reflects (past : List (Change ε)) (r : Registry ε) : Prop where
  found : ∀ key, r.get? key = last? key past
  entered : ∀ key ∈ r.keys, ∃ i, EnteredAt key past i
  ordered : r.keys.Pairwise fun key key' =>
    ∀ i j, EnteredAt key past i → EnteredAt key' past j → i < j

namespace Reflects

variable {r : Registry ε}

theorem empty
    (backend : String) :
    Reflects ([] : List (Change ε)) (.empty backend) where
  found _ := rfl
  entered := nofun
  ordered := .nil

/-- A key that is not removed stays where it entered. -/
theorem entered_append_iff
    (h : r.Reflects past)
    (hkey : key ∈ r.keys)
    (hc : c ≠ .removed key)
    {i : Nat} :
    EnteredAt key (past ++ [c]) i ↔ EnteredAt key past i := by
  refine ⟨fun hi => ?_, fun hi => hi.append hc⟩
  obtain ⟨j, hj⟩ := h.entered key hkey
  rw [hi.unique (hj.append hc)]
  exact hj

/-- Keys that are not removed stay in their order. -/
theorem ordered_append
    (h : r.Reflects past)
    {keys : List String}
    (hkeys : keys.Sublist r.keys)
    (hkept : ∀ key ∈ keys, c ≠ .removed key) :
    keys.Pairwise fun key key' =>
      ∀ i j, EnteredAt key (past ++ [c]) i → EnteredAt key' (past ++ [c]) j →
        i < j := by
  refine (h.ordered.sublist hkeys).imp_of_mem fun {key key'} hkey hkey' hlt i j
    hi hj => ?_
  exact hlt i j
    ((h.entered_append_iff (hkeys.subset hkey) (hkept key hkey)).mp hi)
    ((h.entered_append_iff (hkeys.subset hkey') (hkept key' hkey')).mp hj)

/-- A key that was absent enters with the registration of its operator. -/
theorem entered_register
    (h : r.Reflects past)
    {op : Registered ε}
    (hnew : op.key ∉ r.keys) :
    EnteredAt op.key (past ++ [.registered op]) past.length :=
  .new ((h.found _).symm.trans (get?_eq_none_iff.mpr hnew))

/-- Registering under a key enters it behind everything that has
happened so far. -/
theorem register
    (h : r.Reflects past)
    (op : Registered ε) :
    (r.register op).Reflects (past ++ [.registered op]) := by
  have hkept : ∀ key, Change.registered op ≠ .removed key := nofun
  have hstays :
      ∀ key ∈ r.keys, ∃ i, EnteredAt key (past ++ [.registered op]) i :=
    fun key hkey => (h.entered key hkey).imp fun i hi => hi.append (hkept key)
  have hordered := h.ordered_append (.refl _) fun key _ => hkept key
  have hkeys :
      (r.register op).keys =
        if op.key ∈ r.keys then r.keys else r.keys ++ [op.key] :=
    keys_insert op r.operators
  constructor
  case found =>
    intro key
    rw [get?_register, last?_append, h.found]
    rfl
  case entered =>
    rw [hkeys]
    split
    · exact hstays
    · rename_i hnew
      exact List.forall_mem_append.mpr
        ⟨hstays, List.forall_mem_singleton.mpr ⟨_, h.entered_register hnew⟩⟩
  case ordered =>
    rw [hkeys]
    split
    · exact hordered
    · rename_i hnew
      refine List.pairwise_append.mpr
        ⟨hordered, List.pairwise_singleton _ _, ?_⟩
      intro key hkey last hlast i j hi hj
      cases List.mem_singleton.mp hlast
      rw [hj.unique (h.entered_register hnew)]
      exact ((h.entered_append_iff hkey (hkept key)).mp hi).lt_length

theorem registerAll
    (h : r.Reflects past)
    (ops : List (Registered ε)) :
    (r.registerAll ops).Reflects (past ++ ops.map .registered) := by
  induction ops generalizing r past with
  | nil => simpa [Registry.registerAll] using h
  | cons op rest ih =>
      have hrest := ih (h.register op)
      rw [List.append_assoc] at hrest
      exact hrest

theorem unregister
    (h : r.Reflects past)
    (removed : String) :
    (r.unregister removed).Reflects (past ++ [.removed removed]) := by
  have hkeys : (r.unregister removed).keys.Sublist r.keys := by
    rw [keys_unregister]
    exact List.filter_sublist
  have hkept :
      ∀ key ∈ (r.unregister removed).keys,
        Change.removed removed ≠ (.removed key : Change ε) := by
    rintro key hkey ⟨rfl⟩
    rw [keys_unregister] at hkey
    simp at hkey
  constructor
  case found =>
    intro key
    rw [get?_unregister, last?_append, h.found]
    rfl
  case entered =>
    intro key hkey
    obtain ⟨i, hi⟩ := h.entered key (hkeys.subset hkey)
    exact ⟨i, hi.append (hkept key hkey)⟩
  case ordered => exact h.ordered_append hkeys hkept

theorem unregisterValue
    (h : r.Reflects past)
    (v : Value) :
    ((r.unregisterValue v).toOption.getD r).Reflects
      (past ++ v.text?.toList.map .removed) := by
  rw [unregisterValue_getD]
  cases v.text? with
  | none => simpa using h
  | some key => exact h.unregister key

end Reflects

/-! ## Answers -/

/-- How a registry refuses a value without an operator; the value is named if it
has a text. -/
inductive Refusal (r : Registry ε) (v : Value) : Failure → Prop
  | unsupported
      {label : String}
      (named : v.operatorLabel = .ok label) :
      Refusal r v (.unsupportedOperator r.backend label)
  | oversized
      (unnamed : v.operatorLabel = .error .oversizedInteger) :
      Refusal r v .oversizedInteger

/-- What a registry holds and answers after some changes. -/
structure Answers (past : List (Change ε)) (r : Registry ε) : Prop where
  stored : ∀ op ∈ r.operators, r.get? op.key = some op
  required : ∀ v op,
    r.requireValue v = .ok op ↔
      (v.text?.bind fun key => last? key past) = some op
  refused : ∀ v,
    (∃ e, r.requireValue v = .error e ∧ Refusal r v e) ↔ r.lookup v = .ok none
  unsupported : ∀ v,
    r.lookup v = .ok none ↔ v.hashable ∧ ∀ key ∈ r.keys, v.text? ≠ some key
  counted : r.size = r.keys.length ∧ r.keys.Nodup
  listed : ∀ key, key ∈ r.keys ↔ ∃ i, EnteredAt key past i
  ordered : r.operators.Pairwise fun op op' =>
    ∀ i j, EnteredAt op.key past i → EnteredAt op'.key past j → i < j

section Lookups

variable {r : Registry ε} {v : Value}

theorem lookup_of_hashable
    (h : v.hashable) :
    r.lookup v = .ok (v.text?.bind r.get?) := by
  unfold lookup
  rw [Value.operatorKey?_of_hashable h]
  rfl

theorem lookup_of_not_hashable
    (h : ¬ v.hashable) :
    r.lookup v = .error .unhashable := by
  unfold lookup
  rw [Value.operatorKey?_of_not_hashable h]
  rfl

theorem requireValue_eq_ok_iff
    {op : Registered ε} :
    r.requireValue v = .ok op ↔ r.lookup v = .ok (some op) := by
  unfold requireValue
  cases h : r.lookup v with
  | error e => simp
  | ok found =>
      cases found with
      | some other => simp
      | none =>
          rcases v.operatorLabel_failsOnly with
              ⟨label, hlabel⟩ | hlabel <;> simp [hlabel]

/-- The failures to find an operator are told apart from the failures to
look for one. -/
theorem requireValue_refused_iff :
    (∃ e, r.requireValue v = .error e ∧ Refusal r v e) ↔
      r.lookup v = .ok none := by
  constructor
  · rintro ⟨e, herror, hrefusal⟩
    by_cases hv : v.hashable
    · rw [lookup_of_hashable hv]
      cases hfound : v.text?.bind r.get? with
      | none => rfl
      | some op =>
          have hok :=
            requireValue_eq_ok_iff.mpr
              ((lookup_of_hashable hv).trans (congrArg _ hfound))
          rw [hok] at herror
          cases herror
    · unfold requireValue at herror
      rw [lookup_of_not_hashable hv] at herror
      cases herror
      cases hrefusal
  · intro hnone
    unfold requireValue
    rw [hnone]
    rcases v.operatorLabel_failsOnly with ⟨label, hlabel⟩ | hlabel
    · exact ⟨_, by rw [hlabel]; rfl, .unsupported hlabel⟩
    · exact ⟨_, by rw [hlabel]; rfl, .oversized hlabel⟩

theorem lookup_eq_none_iff :
    r.lookup v = .ok none ↔
      v.hashable ∧ ∀ key ∈ r.keys, v.text? ≠ some key := by
  by_cases hv : v.hashable
  · rw [lookup_of_hashable hv]
    simp only [Except.ok.injEq, hv, true_and, Option.bind_eq_none_iff,
      get?_eq_none_iff]
    exact ⟨fun h key hkey htext => h key htext hkey,
      fun h key htext hkey => h key hkey htext⟩
  · simp [lookup_of_not_hashable hv, hv]

end Lookups

theorem Reflects.answers
    {r : Registry ε}
    (h : r.Reflects past) :
    Answers past r := by
  constructor
  case stored => exact fun op => get?_of_mem
  case required =>
    intro v op
    rw [requireValue_eq_ok_iff, show (fun key => last? key past) = r.get? from
      funext fun key => (h.found key).symm]
    constructor
    · intro hfound
      by_cases hv : v.hashable
      · rw [lookup_of_hashable hv] at hfound
        exact Except.ok.inj hfound
      · rw [lookup_of_not_hashable hv] at hfound
        cases hfound
    · intro hfound
      obtain ⟨key, htext, -⟩ := Option.bind_eq_some_iff.mp hfound
      rw [lookup_of_hashable (Value.hashable_of_text? htext), hfound]
  case refused => exact fun v => requireValue_refused_iff
  case unsupported => exact fun v => lookup_eq_none_iff
  case counted => exact ⟨(List.length_map _).symm, r.nodup⟩
  case listed =>
    intro key
    constructor
    · exact h.entered key
    · rintro ⟨i, before, op, since, rfl, -, rfl, -, hsince⟩
      by_contra hkey
      exact EnteredAt.last?_ne_none hsince
        ((h.found _).symm.trans (get?_eq_none_iff.mpr hkey))
  case ordered =>
    exact List.pairwise_map.mp h.ordered

end Registry
end RecordFilter
