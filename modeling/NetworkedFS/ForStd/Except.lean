/-!
# `Except` lemmas for the standard library

Inversion of the monadic operations of `Except` at a successful result, and the comparison of
two computations that succeed or fail together.
-/

namespace Except

variable {ε : Type u} {α α' β β' : Type v}

/-- A bind succeeds exactly when both of its parts do. -/
theorem bind_eq_ok_iff {x : Except ε α} {f : α → Except ε β} {b : β} :
    (x >>= f) = .ok b ↔ ∃ a, x = .ok a ∧ f a = .ok b := by
  cases x with
  | error e => simp only [bind, Except.bind, reduceCtorEq, false_and, exists_false]
  | ok a => simp only [bind, Except.bind, Except.ok.injEq, exists_eq_left']

/-- A map succeeds exactly when its argument does. -/
theorem map_eq_ok_iff {f : α → β} {x : Except ε α} {b : β} :
    x.map f = .ok b ↔ ∃ a, x = .ok a ∧ f a = b := by
  cases x with
  | error e => simp only [Except.map, reduceCtorEq, false_and, exists_false]
  | ok a => simp only [Except.map, Except.ok.injEq, exists_eq_left']

/-- A result whose first part is mapped by an injective function is known by what it is
    mapped to. -/
theorem exists_map_fst_eq_ok_iff {f : α → α'} (hf : Function.Injective f) {x : Except ε (α × β)}
    {a : α} : (∃ b, x.map (fun r => (f r.1, r.2)) = .ok (f a, b)) ↔ ∃ b, x = .ok (a, b) := by
  constructor
  · intro h
    obtain ⟨b, h⟩ := h
    obtain ⟨r, hr, h⟩ := map_eq_ok_iff.mp h
    obtain ⟨hfirst, -⟩ := Prod.mk.inj h
    exact ⟨r.2, hf hfirst ▸ hr⟩
  · intro h
    obtain ⟨b, h⟩ := h
    rw [h]
    exact ⟨b, rfl⟩

/-- A bind fails when its first part does, or the rest after it. -/
theorem bind_eq_error_iff {x : Except ε α} {f : α → Except ε β} {e : ε} :
    x >>= f = .error e ↔ x = .error e ∨ ∃ a, x = .ok a ∧ f a = .error e := by
  cases x <;> simp [bind, Except.bind]

/-- A computation has one result. -/
theorem unique_of_eq_ok {x : Except ε (α × β)} {a a' : α} {b b' : β} (h : x = .ok (a, b))
    (h' : x = .ok (a', b')) : a = a' ∧ b = b' := by
  rw [h, Except.ok.injEq, Prod.mk.injEq] at h'
  exact h'

/-! ## Two computations -/

/-- Both computations succeed, with related results, or both fail in the same way. -/
def Agree (R : α → α' → Prop) (x : Except ε α) (y : Except ε α') : Prop :=
  (∃ a a', x = .ok a ∧ y = .ok a' ∧ R a a') ∨ ∃ e, x = .error e ∧ y = .error e

theorem Agree.ok {R : α → α' → Prop} {a : α} {a' : α'} (h : R a a') :
    Agree R (.ok a : Except ε α) (.ok a') := .inl ⟨a, a', rfl, rfl, h⟩

theorem Agree.error (R : α → α' → Prop) (e : ε) :
    Agree R (.error e : Except ε α) (.error e) := .inr ⟨e, rfl, rfl⟩

/-- Agreement on an image of the result is equality after a map. -/
theorem agree_iff_map_eq {f : α → β} {x : Except ε α} {y : Except ε β} :
    Agree (fun a b => f a = b) x y ↔ x.map f = y := by
  constructor
  · intro h
    cases h with
    | inl hok =>
      obtain ⟨a, b, rfl, rfl, rfl⟩ := hok
      rfl
    | inr herror =>
      obtain ⟨e, rfl, rfl⟩ := herror
      rfl
  · intro h
    cases x with
    | error e => exact .inr ⟨e, rfl, h.symm⟩
    | ok a => exact .inl ⟨a, f a, rfl, h.symm, rfl⟩

/-- Agreement on what is seen of the results is equality after the maps that show it. -/
theorem agree_iff_map_eq_map {γ : Type v} {f : α → γ} {g : β → γ} {x : Except ε α}
    {y : Except ε β} : Agree (fun a b => f a = g b) x y ↔ x.map f = y.map g := by
  rw [← agree_iff_map_eq]
  constructor
  · intro h
    cases h with
    | inl hok =>
      obtain ⟨a, b, rfl, rfl, hab⟩ := hok
      exact .inl ⟨a, g b, rfl, rfl, hab⟩
    | inr herror =>
      obtain ⟨e, rfl, rfl⟩ := herror
      exact .error _ e
  · intro h
    cases h with
    | inl hok =>
      obtain ⟨a, c, rfl, hy, hac⟩ := hok
      obtain ⟨b, rfl, hb⟩ := map_eq_ok_iff.mp hy
      exact .inl ⟨a, b, rfl, rfl, hac.trans hb.symm⟩
    | inr herror =>
      obtain ⟨e, rfl, hy⟩ := herror
      cases y with
      | error e' =>
        cases hy
        exact .error _ e
      | ok b => cases hy

/-- What is computed from related results agrees if the rest does. -/
theorem Agree.bind {R : α → α' → Prop} {S : β → β' → Prop} {x : Except ε α} {y : Except ε α'}
    {f : α → Except ε β} {g : α' → Except ε β'} (h : Agree R x y)
    (hrest : ∀ a a', R a a' → Agree S (f a) (g a')) : Agree S (x >>= f) (y >>= g) := by
  cases h with
  | inl hok =>
    obtain ⟨a, a', hx, hy, hR⟩ := hok
    rw [hx, hy]
    exact hrest a a' hR
  | inr herror =>
    obtain ⟨e, hx, hy⟩ := herror
    rw [hx, hy]
    exact .inr ⟨e, rfl, rfl⟩

/-- Two computations with the same first part. -/
theorem Agree.bind_same {S : β → β' → Prop} (x : Except ε α) {f : α → Except ε β}
    {g : α → Except ε β'} (hrest : ∀ a, Agree S (f a) (g a)) : Agree S (x >>= f) (x >>= g) := by
  cases x with
  | error e => exact .error S e
  | ok a => exact hrest a

theorem Agree.map {R : α → α' → Prop} {S : β → β' → Prop} {x : Except ε α} {y : Except ε α'}
    {f : α → β} {g : α' → β'} (h : Agree R x y) (hrest : ∀ a a', R a a' → S (f a) (g a')) :
    Agree S (x.map f) (y.map g) := by
  cases h with
  | inl hok =>
    obtain ⟨a, a', hx, hy, hR⟩ := hok
    rw [hx, hy]
    exact .inl ⟨f a, g a', rfl, rfl, hrest a a' hR⟩
  | inr herror =>
    obtain ⟨e, hx, hy⟩ := herror
    rw [hx, hy]
    exact .inr ⟨e, rfl, rfl⟩

end Except
