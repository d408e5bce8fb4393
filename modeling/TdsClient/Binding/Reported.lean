import TdsClient.Error

/-!
# Results with warnings

Binding a value can lose something and still succeed, so its outcome is a
list of warnings beside a result. A later step runs only if the earlier
one succeeded, and its warnings follow the earlier ones.

## Main results

* `warnings_bind_ok`, `warnings_bind_error` — the warnings of two steps.
-/

namespace TdsClient

/-- A result and the warnings reported on the way, the earliest first. -/
structure Reported (α : Type) where
  warnings : List BindingWarning
  result : Except Error α

namespace Reported

variable {α β : Type}

/-- A result without warnings. -/
def ofExcept (result : Except Error α) : Reported α := ⟨[], result⟩

/-- A failure without warnings. -/
def fail (error : Error) : Reported α := ⟨[], .error error⟩

/-- A failure of the caller. -/
def misuse (cause : Misuse) : Reported α := fail (.misuse cause)

/-- Warnings and nothing else. -/
def warn (warnings : List BindingWarning) : Reported Unit := ⟨warnings, .ok ()⟩

instance : Monad Reported where
  pure a := ⟨[], .ok a⟩
  bind x f :=
    match x.result with
    | .ok a => ⟨x.warnings ++ (f a).warnings, (f a).result⟩
    | .error e => ⟨x.warnings, .error e⟩

/-- A step that succeeds is followed by the next one. -/
theorem bind_ok {x : Reported α} {a : α} (f : α → Reported β) (h : x.result = .ok a) :
    x >>= f = ⟨x.warnings ++ (f a).warnings, (f a).result⟩ := by
  simp only [bind, h]

/-- A step that fails is the last one. -/
theorem bind_error {x : Reported α} {e : Error} (f : α → Reported β) (h : x.result = .error e) :
    x >>= f = ⟨x.warnings, .error e⟩ := by
  simp only [bind, h]

/-- The warnings of two steps follow each other. -/
theorem warnings_bind_ok {x : Reported α} {a : α} (f : α → Reported β) (h : x.result = .ok a) :
    (x >>= f).warnings = x.warnings ++ (f a).warnings := by
  rw [bind_ok f h]

/-- After a failure only its own warnings remain. -/
theorem warnings_bind_error {x : Reported α} {e : Error} (f : α → Reported β)
    (h : x.result = .error e) : (x >>= f).warnings = x.warnings := by
  rw [bind_error f h]

end Reported

end TdsClient
