import NetworkedFS.ForStd.Finmap

/-!
# Changes of single table entries

What a table gives for each key, and how one change of an entry affects it: when the new
value replaces the old one, and when an entry that is there stays, as with the `emplace` of
the C++ standard library.  The two differ exactly when something else is there already.
-/

/-- A change of at most one entry of a table. -/
inductive TableChange (κ ν : Type*) where
  | keep
  | set (a : κ) (b : ν)
  | wipe (a : κ)

namespace TableChange

variable {κ ν ω : Type*} [DecidableEq κ]

/-- The new value replaces what is there. -/
def overwrite (f : κ → Option ν) : TableChange κ ν → κ → Option ν
  | keep => f
  | set a b => Function.update f a (some b)
  | wipe a => Function.update f a none

/-- What is there stays. -/
def emplace (f : κ → Option ν) : TableChange κ ν → κ → Option ν
  | keep => f
  | set a b => Function.update f a (some ((f a).getD b))
  | wipe a => Function.update f a none

/-- A value is set only where nothing is there, or the same value. -/
def Fresh (f : κ → Option ν) : TableChange κ ν → Prop
  | set a b => f a = none ∨ f a = some b
  | _ => True

/-- The change that `g` makes of the values. -/
def map (g : ν → ω) : TableChange κ ν → TableChange κ ω
  | keep => keep
  | set a b => set a (g b)
  | wipe a => wipe a

/-- Keeping what is there is replacing it exactly when the value is fresh. -/
theorem emplace_eq_overwrite_iff (f : κ → Option ν) (c : TableChange κ ν) :
    c.emplace f = c.overwrite f ↔ c.Fresh f := by
  cases c with
  | keep => exact iff_of_true rfl trivial
  | wipe a => exact iff_of_true rfl trivial
  | set a b =>
    simp only [emplace, overwrite, Fresh]
    rw [(Function.update_injective f a).eq_iff]
    cases f a with
    | none => simp
    | some c => simp

/-- A change of the values commutes with what `g` makes of them. -/
theorem emplace_map (f : κ → Option ν) (g : ν → ω) (c : TableChange κ ν) :
    (c.map g).emplace (fun a => (f a).map g) = fun a => (c.emplace f a).map g := by
  funext x
  cases c with
  | keep => rfl
  | wipe a =>
    by_cases hx : x = a
    · simp [map, emplace, hx]
    · simp [map, emplace, hx]
  | set a b =>
    by_cases hx : x = a
    · cases h : f a <;> simp [map, emplace, hx, h]
    · simp [map, emplace, hx]

/-- A value that is there after a change was there before, or is the one that was set. -/
theorem eq_some_of_emplace {f : κ → Option ν} {c : TableChange κ ν}
    {x : κ} {b : ν} (h : c.emplace f x = some b) : f x = some b ∨ c = .set x b := by
  cases c with
  | keep => exact .inl h
  | wipe a =>
    by_cases hx : x = a
    · simp [emplace, hx] at h
    · simp only [emplace, Function.update_of_ne hx] at h
      exact .inl h
  | set a b' =>
    by_cases hx : x = a
    · subst hx
      cases hf : f x with
      | none =>
        simp only [emplace, Function.update_self, hf, Option.getD_none,
          Option.some.injEq] at h
        exact .inr (by rw [h])
      | some b₀ =>
        simp only [emplace, Function.update_self, hf, Option.getD_some] at h
        exact .inl h
    · simp only [emplace, Function.update_of_ne hx] at h
      exact .inl h

/-- Wiping changes nothing exactly where nothing is. -/
theorem emplace_wipe_eq_iff (f : κ → Option ν) (a : κ) : (wipe a).emplace f = f ↔ f a = none := by
  rw [emplace, Function.update_eq_self_iff, eq_comm]

/-- What is there already is not set. -/
theorem emplace_set_of_ne_none {f : κ → Option ν} {a : κ} (h : f a ≠ none) (b : ν) :
    (set a b).emplace f = f := by
  obtain ⟨c, hc⟩ := Option.ne_none_iff_exists'.mp h
  rw [emplace, hc, Option.getD_some, ← hc, Function.update_eq_self]

/-- Of two keys either may be set to the other, when they are the same or both have values
    already. -/
theorem emplace_set_comm_iff (f : κ → Option κ) (a b : κ) :
    (set a b).emplace f = (set b a).emplace f ↔ a = b ∨ f a ≠ none ∧ f b ≠ none := by
  by_cases hab : a = b
  · simp [hab]
  simp only [hab, false_or]
  constructor
  · intro heq
    -- each side sets its own key and leaves the other as it is
    have ha := congrFun heq a
    have hb := congrFun heq b
    simp only [emplace, Function.update_self, Function.update_of_ne hab] at ha
    simp only [emplace, Function.update_self, Function.update_of_ne (Ne.symm hab)] at hb
    exact ⟨Option.ne_none_iff_exists'.mpr ⟨_, ha.symm⟩, Option.ne_none_iff_exists'.mpr ⟨_, hb⟩⟩
  · intro hset
    rw [emplace_set_of_ne_none hset.1, emplace_set_of_ne_none hset.2]

end TableChange

namespace UMap

variable {κ ν : Type*} [DecidableEq κ]

/-- What the map gives for each key. -/
def get (m : UMap κ ν) (a : κ) : Option ν := m.lookup a

/-- `emplace` sets an entry where none is. -/
theorem get_emplace (m : UMap κ ν) (a : κ) (b : ν) :
    (m.emplace a b).get = (TableChange.set a b).emplace m.get := by
  funext x
  simp only [get, lookup_emplace_eq_ite, TableChange.emplace, Function.update_apply]

/-- `erase` wipes an entry. -/
theorem get_erase (m : UMap κ ν) (a : κ) :
    get (m.erase a) = (TableChange.wipe a).emplace m.get := by
  funext x
  simp only [get, lookup_erase_eq_ite, TableChange.emplace, Function.update_apply]

end UMap
