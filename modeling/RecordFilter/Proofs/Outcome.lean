import RecordFilter.Traced
import Mathlib.Data.List.Forall2

/-!
# Outcomes

Parsing, checking and compiling run in steps that may fail.  This module takes
such runs apart: a run of two steps succeeds when both do, and a run over a list
succeeds when every element does.

**Results.**
* `bind_eq_ok`: what a successful run of two steps went through.
* `append_eq_ok_iff`: two runs with joined results succeed if both do.
* `mapM_eq_ok_iff`: a run over a list gives one result for each element.
* `failure?_mapM`: a run over a list fails as the first of its
  elements that fails.
* `mapM_eq_error`: a run whose elements fail in one way only fails in that way.
* `bind_eq_map`, `mapM_map`: a run whose steps give changed results gives
  changed results.
-/

namespace RecordFilter
namespace Outcome

variable {α β : Type}

@[simp] theorem ok_bind
    (a : α)
    (f : α → Except Failure β) :
    (Except.ok a >>= f) = f a := by
  rfl

@[simp] theorem error_bind
    (e : Failure)
    (f : α → Except Failure β) :
    (Except.error e >>= f) = .error e := by
  rfl

@[simp] theorem pure_eq_ok
    (a : α) :
    (pure a : Except Failure α) = .ok a := by
  rfl

/-- How a run fails, if it does. -/
def failure? : Except Failure α → Option Failure
  | .ok _ => none
  | .error e => some e

@[simp] theorem failure?_ok
    (a : α) :
    failure? (.ok a) = none := by
  rfl

@[simp] theorem failure?_error
    (e : Failure) :
    failure? (.error e : Except Failure α) = some e := by
  rfl

theorem failure?_eq_some_iff
    {x : Except Failure α}
    {e : Failure} :
    failure? x = some e ↔ x = .error e := by
  cases x with
  | error e' => simp
  | ok a => simp

/-- A run of two steps succeeds when the first one does and then the
second one. -/
theorem bind_eq_ok
    {x : Except Failure α}
    {f : α → Except Failure β}
    {b : β} :
    (x >>= f) = .ok b ↔
      ∃ a, x = .ok a ∧ f a = .ok b := by
  cases x with
  | error e =>
      constructor
      · intro h
        cases h
      · rintro ⟨a, ha, -⟩
        cases ha
  | ok a =>
      constructor
      · intro h
        exact ⟨a, rfl, h⟩
      · rintro ⟨a', ha, h⟩
        cases ha
        exact h

/-- A run of two steps whose second step gives changed results gives
changed results. -/
theorem bind_eq_map
    {γ : Type}
    {x : Except Failure α}
    {f : α → Except Failure β}
    {f' : α → Except Failure γ}
    {g : β → γ}
    (h : ∀ a, x = .ok a → f' a = (f a).map g) :
    (x >>= f') = (x >>= f).map g := by
  cases x with
  | error e => rfl
  | ok a => exact h a rfl

/-- Two runs have joined results exactly if both succeed. -/
theorem append_eq_ok_iff
    {x y : Except Failure (List α)}
    {as : List α} :
    (do return (← x) ++ (← y) : Except Failure (List α)) = .ok as ↔
      ∃ bs cs, x = .ok bs ∧ y = .ok cs ∧ as = bs ++ cs := by
  constructor
  · intro h
    obtain ⟨bs, hx, hrest⟩ := bind_eq_ok.mp h
    obtain ⟨cs, hy, hlist⟩ := bind_eq_ok.mp hrest
    exact ⟨bs, cs, hx, hy, (Except.ok.inj hlist).symm⟩
  · rintro ⟨bs, cs, rfl, rfl, rfl⟩
    rfl

/-- Two runs have joined results that are empty only if both are empty. -/
theorem append_eq_ok_nil_iff
    {x y : Except Failure (List α)} :
    (do return (← x) ++ (← y) : Except Failure (List α)) = .ok [] ↔
      x = .ok [] ∧ y = .ok [] := by
  rw [append_eq_ok_iff]
  constructor
  · rintro ⟨bs, cs, hx, hy, hlist⟩
    obtain ⟨rfl, rfl⟩ := List.append_eq_nil_iff.mp hlist.symm
    exact ⟨hx, hy⟩
  · rintro ⟨hx, hy⟩
    exact ⟨[], [], hx, hy, rfl⟩

/-- Joined results change element by element. -/
theorem map_append
    (g : α → β)
    (x y : Except Failure (List α)) :
    (do return (← x) ++ (← y) : Except Failure (List α)).map (List.map g) =
      (do return (← x.map (List.map g)) ++ (← y.map (List.map g))) := by
  cases x with
  | error e => rfl
  | ok as =>
      cases y with
      | error e => rfl
      | ok bs => exact congrArg Except.ok List.map_append

theorem mapM_congr
    {f f' : α → Except Failure β}
    {xs : List α}
    (h : ∀ x ∈ xs, f x = f' x) :
    xs.mapM f = xs.mapM f' := by
  induction xs with
  | nil => rfl
  | cons x xs ih =>
      have hrest := ih fun x' hx' => h x' (List.mem_cons_of_mem x hx')
      rw [List.mapM_cons, List.mapM_cons, h x List.mem_cons_self, hrest]

/-- A run over changed elements that gives changed results gives them in the
same order. -/
theorem mapM_map
    {γ δ : Type}
    {f : α → Except Failure β}
    {f' : γ → Except Failure δ}
    {g : α → γ}
    {k : β → δ}
    {xs : List α}
    (h : ∀ x ∈ xs, f' (g x) = (f x).map k) :
    (xs.map g).mapM f' = (xs.mapM f).map (List.map k) := by
  induction xs with
  | nil => rfl
  | cons x xs ih =>
      have hrest := ih fun x' hx' => h x' (List.mem_cons_of_mem x hx')
      rw [List.map_cons, List.mapM_cons, List.mapM_cons, h x List.mem_cons_self,
        hrest]
      cases f x with
      | error e => rfl
      | ok y => cases xs.mapM f <;> rfl

/-- A run over a list succeeds with one result for each element, in order. -/
theorem mapM_eq_ok_iff
    {f : α → Except Failure β}
    {xs : List α}
    {ys : List β} :
    xs.mapM f = .ok ys ↔
      List.Forall₂ (fun x y => f x = .ok y) xs ys := by
  induction xs generalizing ys with
  | nil =>
      rw [List.mapM_nil, pure_eq_ok, List.forall₂_nil_left_iff]
      constructor
      · intro h
        cases h
        rfl
      · rintro rfl
        rfl
  | cons x xs ih =>
      rw [List.mapM_cons]
      constructor
      · intro h
        obtain ⟨y, hy, hrest⟩ := bind_eq_ok.mp h
        obtain ⟨zs, hzs, hlist⟩ := bind_eq_ok.mp hrest
        cases hlist
        exact .cons hy (ih.mp hzs)
      · intro h
        cases h with
        | cons hy hrest =>
            rw [hy, ok_bind, ih.mpr hrest]
            rfl

theorem length_of_mapM
    {f : α → Except Failure β}
    {xs : List α}
    {ys : List β}
    (h : xs.mapM f = .ok ys) :
    xs.length = ys.length := by
  exact (mapM_eq_ok_iff.mp h).length_eq

/-- A run of two steps fails as the first one does, if the second one
never fails. -/
theorem failure?_bind_of_ok
    {x : Except Failure α}
    {f : α → Except Failure β}
    (h : ∀ a, x = .ok a → ∃ b, f a = .ok b) :
    failure? (x >>= f) = failure? x := by
  cases x with
  | error e => rfl
  | ok a =>
      obtain ⟨b, hb⟩ := h a rfl
      rw [ok_bind, hb]
      rfl

/-- A run over a list fails as the first of its elements that fails. -/
theorem failure?_mapM
    {f : α → Except Failure β}
    {g : α → Option Failure}
    {xs : List α}
    (h : ∀ x ∈ xs, failure? (f x) = g x) :
    failure? (xs.mapM f) = xs.findSome? g := by
  induction xs with
  | nil => rfl
  | cons x xs ih =>
      have hrest := ih fun x' hx' => h x' (List.mem_cons_of_mem x hx')
      rw [List.mapM_cons, List.findSome?_cons, ← h x List.mem_cons_self,
        ← hrest]
      cases f x with
      | error e => rfl
      | ok y => exact failure?_bind_of_ok fun ys _ => ⟨y :: ys, rfl⟩

/-- A run fails in the one way in which its elements fail, if one
of them does. -/
theorem mapM_eq_error
    {f : α → Except Failure β}
    {e : Failure}
    {xs : List α}
    (hall : ∀ x ∈ xs, (∃ y, f x = .ok y) ∨ f x = .error e)
    (hsome : ∃ x ∈ xs, f x = .error e) :
    xs.mapM f = .error e := by
  induction xs with
  | nil =>
      obtain ⟨x, hx, -⟩ := hsome
      cases hx
  | cons x xs ih =>
      rw [List.mapM_cons]
      rcases hall x List.mem_cons_self with ⟨y, hy⟩ | he
      · have hrest : ∃ x' ∈ xs, f x' = .error e := by
          obtain ⟨x', hx', he'⟩ := hsome
          rcases List.mem_cons.mp hx' with rfl | hx'
          · rw [hy] at he'
            cases he'
          · exact ⟨x', hx', he'⟩
        rw [hy, ok_bind,
          ih (fun x' hx' => hall x' (List.mem_cons_of_mem x hx')) hrest]
        rfl
      · rw [he]
        rfl

/-! ## Lists of results -/

section Related

variable {γ : Type} {R : α → β → Prop} {S : β → γ → Prop}

theorem exists_forall₂
    {xs : List α}
    (h : ∀ x ∈ xs, ∃ y, R x y) :
    ∃ ys, List.Forall₂ R xs ys := by
  induction xs with
  | nil =>
      exact ⟨[], .nil⟩
  | cons x xs ih =>
      obtain ⟨y, hy⟩ := h x List.mem_cons_self
      obtain ⟨ys, hys⟩ := ih fun x' hx' => h x' (List.mem_cons_of_mem x hx')
      exact ⟨y :: ys, .cons hy hys⟩

theorem forall₂_mem_right
    {xs : List α}
    {ys : List β}
    {y : β}
    (h : List.Forall₂ R xs ys)
    (hy : y ∈ ys) :
    ∃ x ∈ xs, R x y := by
  induction h with
  | nil => cases hy
  | cons hR _ ih =>
      rcases List.mem_cons.mp hy with rfl | hy
      · exact ⟨_, List.mem_cons_self, hR⟩
      · obtain ⟨x, hx, hR⟩ := ih hy
        exact ⟨x, List.mem_cons_of_mem _ hx, hR⟩

theorem forall₂_mem_left
    {xs : List α}
    {ys : List β}
    {x : α}
    (h : List.Forall₂ R xs ys)
    (hx : x ∈ xs) :
    ∃ y ∈ ys, R x y := by
  have hflip : List.Forall₂ (flip R) ys xs := List.Forall₂.flip h
  exact forall₂_mem_right hflip hx

/-- Two runs over a list, one after the other, are one run. -/
theorem forall₂_comp
    {xs : List α}
    {zs : List γ} :
    (∃ ys, List.Forall₂ R xs ys ∧ List.Forall₂ S ys zs) ↔
      List.Forall₂ (fun x z => ∃ y, R x y ∧ S y z) xs zs := by
  constructor
  · rintro ⟨ys, hR, hS⟩
    induction hR generalizing zs with
    | nil =>
        cases hS
        exact .nil
    | cons hxy _ ih =>
        cases hS with
        | cons hyz hrest => exact .cons ⟨_, hxy, hyz⟩ (ih hrest)
  · intro h
    induction h with
    | nil =>
        exact ⟨[], .nil, .nil⟩
    | cons hxz _ ih =>
        obtain ⟨y, hxy, hyz⟩ := hxz
        obtain ⟨ys, hR, hS⟩ := ih
        exact ⟨y :: ys, .cons hxy hR, .cons hyz hS⟩

end Related
end Outcome
end RecordFilter
