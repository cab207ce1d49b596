/-!
# `EntitlementClient.Proofs.Outcome`: outcomes of steps in a row

A step that can fail and what follows it succeed together when the step succeeds and the
rest does with its result (`bind_eq_ok_iff`). They fail when the step fails or the rest
does (`bind_eq_error_iff`). Both take a chain of steps apart from the front.
-/

set_option autoImplicit false

namespace EntitlementClient

universe u v

variable {ε : Type u} {α β : Type v}

/-- A step and what follows it succeed when both do. -/
theorem bind_eq_ok_iff {x : Except ε α} {f : α → Except ε β} {b : β} :
    (x >>= f) = .ok b ↔ ∃ a, x = .ok a ∧ f a = .ok b := by
  cases x with
  | ok a => simp [bind, Except.bind]
  | error e => simp [bind, Except.bind]

/-- A step and what follows it fail when the step fails, or the rest with its result. -/
theorem bind_eq_error_iff {x : Except ε α} {f : α → Except ε β} {e : ε} :
    (x >>= f) = .error e ↔ x = .error e ∨ ∃ a, x = .ok a ∧ f a = .error e := by
  cases x with
  | ok a => simp [bind, Except.bind]
  | error e' => simp [bind, Except.bind]

end EntitlementClient
