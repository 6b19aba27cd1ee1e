/-!
# Computations that can fault

The serial reassembler and the option loop of the drivers run in `Except`, and
the result of a UBX decoder run is an `Except` value, each with a fault type of
its own: the fault stands for the point where the C code has no defined
outcome.  These are the lemmas about `Except` all three use: the monad's
equations as `simp` lemmas, and the inversion of a bind that returned a value.
-/

namespace Craggy

@[simp] theorem except_ok_bind {ε α β : Type} (a : α) (f : α → Except ε β) :
    (Except.ok a >>= f : Except ε β) = f a := rfl

@[simp] theorem except_error_bind {ε α β : Type} (e : ε) (f : α → Except ε β) :
    (Except.error e >>= f : Except ε β) = .error e := rfl

@[simp] theorem except_pure {ε α : Type} (a : α) : (pure a : Except ε α) = .ok a := rfl

@[simp] theorem except_ok_map {ε α β : Type} (a : α) (f : α → β) :
    (f <$> Except.ok a : Except ε β) = .ok (f a) := rfl

/-- A bind that returned a value ran both of its parts to a value. -/
theorem except_bind_eq_ok {ε α β : Type} {x : Except ε α} {f : α → Except ε β} {r : β}
    (h : (x >>= f) = .ok r) : ∃ a, x = .ok a ∧ f a = .ok r := by
  cases x with
  | error e => cases h
  | ok a => exact ⟨a, rfl, h⟩

/-- A mapped computation that returned a value returned the value it maps. -/
theorem except_map_eq_ok {ε α β : Type} {x : Except ε α} {f : α → β} {b : β}
    (h : x.map f = .ok b) : ∃ a, x = .ok a ∧ f a = b := by
  cases x with
  | error e => cases h
  | ok a => exact ⟨a, rfl, Except.ok.inj h⟩

/-- Relabelling the faults of a computation that returned a value changes nothing. -/
theorem except_mapError_eq_ok {ε ε' α : Type} {x : Except ε α} {f : ε → ε'} {a : α}
    (h : x.mapError f = .ok a) : x = .ok a := by
  cases x with
  | error e => cases h
  | ok b =>
    cases h
    rfl

end Craggy
