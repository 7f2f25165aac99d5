import RecordFilter.Failure

/-!
# Traced results

A computation that may fail and leaves a trace.  The trace is kept
when it fails.
-/

namespace RecordFilter

/-- A result with the events on the way to it. -/
structure Traced (ε α : Type) where
  trace : List ε
  result : Except Failure α

namespace Traced

variable {ε α β : Type}

/-- Goes on with the result, if there is one. -/
def andThen (x : Traced ε α) (f : α → Traced ε β) : Traced ε β :=
  match x.result with
  | .error e => ⟨x.trace, .error e⟩
  | .ok a => ⟨x.trace ++ (f a).trace, (f a).result⟩

instance : Monad (Traced ε) where
  pure a := ⟨[], .ok a⟩
  bind := andThen

/-- A result without events. -/
def ofExcept (r : Except Failure α) : Traced ε α := ⟨[], r⟩

/-- One event. -/
def emit (event : ε) : Traced ε Unit := ⟨[event], .ok ()⟩

@[simp] theorem pure_def
    (a : α) :
    (pure a : Traced ε α) = ⟨[], .ok a⟩ := by
  rfl

@[simp] theorem bind_error
    (t : List ε)
    (e : Failure)
    (f : α → Traced ε β) :
    ((⟨t, .error e⟩ : Traced ε α) >>= f) = ⟨t, .error e⟩ := by
  rfl

@[simp] theorem bind_ok
    (t : List ε)
    (a : α)
    (f : α → Traced ε β) :
    ((⟨t, .ok a⟩ : Traced ε α) >>= f) = ⟨t ++ (f a).trace, (f a).result⟩ := by
  rfl

/-- The result is that of the steps; the trace takes no part in it. -/
theorem result_bind
    (x : Traced ε α)
    (f : α → Traced ε β) :
    (x >>= f).result = x.result >>= fun a => (f a).result := by
  rcases x with ⟨t, r⟩
  cases r <;> rfl

instance : LawfulMonad (Traced ε) := LawfulMonad.mk' _
  (by
    rintro α ⟨t, r⟩
    cases r <;> simp [Functor.map, andThen])
  (by
    intro α β a f
    simp [bind, andThen, pure])
  (by
    rintro α β γ ⟨t, r⟩ f g
    cases r with
    | error e => rfl
    | ok a =>
        rcases h : f a with ⟨u, s⟩
        cases s <;> simp [bind, andThen, h])

end Traced
end RecordFilter
