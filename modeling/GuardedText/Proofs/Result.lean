/-! Taking successful results apart. -/

namespace GuardedText

variable {α β ε : Type}

theorem map_eq_ok {f : α → β} {x : Except ε α} {b : β} (h : x.map f = .ok b) :
    ∃ a, x = .ok a ∧ f a = b := by
  cases x with
  | error e => cases h
  | ok a => exact ⟨a, rfl, Except.ok.inj h⟩

theorem map_eq_error_iff {f : α → β} {x : Except ε α} {e : ε} :
    x.map f = .error e ↔ x = .error e := by
  cases x with
  | error e' => exact ⟨fun h => congrArg Except.error (Except.error.inj h),
      fun h => congrArg Except.error (Except.error.inj h)⟩
  | ok a => exact iff_of_false (fun h => by cases h) (fun h => by cases h)

theorem bind_eq_ok {f : α → Except ε β} {x : Except ε α} {b : β} (h : x.bind f = .ok b) :
    ∃ a, x = .ok a ∧ f a = .ok b := by
  cases x with
  | error e => cases h
  | ok a => exact ⟨a, rfl, h⟩

theorem mapError_eq_ok_iff {ε' : Type} {f : ε → ε'} {x : Except ε α} {a : α} :
    x.mapError f = .ok a ↔ x = .ok a := by
  cases x with
  | error e => exact iff_of_false (fun h => by cases h) (fun h => by cases h)
  | ok b =>
    constructor
    · intro h
      exact congrArg Except.ok (Except.ok.inj h)
    · intro h
      exact congrArg Except.ok (Except.ok.inj h)

theorem mapError_eq_error {ε' : Type} {f : ε → ε'} {x : Except ε α} {e' : ε'}
    (h : x.mapError f = .error e') : ∃ e, x = .error e ∧ f e = e' := by
  cases x with
  | error e => exact ⟨e, rfl, Except.error.inj h⟩
  | ok a => cases h

theorem mapError_bind {ε' : Type} (f : ε → ε') (x : Except ε α) (g : α → Except ε β) :
    (x.bind g).mapError f = (x.mapError f).bind fun a => (g a).mapError f := by
  cases x <;> rfl

/-- Results that agree as far as `f` looks at errors. -/
theorem of_mapError_eq {ε' : Type} {f : ε → ε'} {x y : Except ε α}
    (h : x.mapError f = y.mapError f) :
    (∃ a, x = .ok a ∧ y = .ok a) ∨ ∃ e e', x = .error e ∧ y = .error e' ∧ f e = f e' := by
  cases x with
  | error e =>
    cases y with
    | error e' => exact .inr ⟨e, e', rfl, rfl, Except.error.inj h⟩
    | ok b => cases h
  | ok a =>
    cases y with
    | error e' => cases h
    | ok b =>
      cases h
      exact .inl ⟨a, rfl, rfl⟩

end GuardedText
