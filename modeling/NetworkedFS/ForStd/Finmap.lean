import Mathlib.Data.Finmap

/-!
# Maps with values of one type

An `unordered_map` or `map` of the C++ standard library is a finite map without an
order of its own.  `UMap` is Mathlib's `Finmap` at a constant family.
-/

/-- A finite map from `κ` to `ν`. -/
abbrev UMap (κ ν : Type*) := Finmap (fun _ : κ => ν)

namespace UMap

variable {κ ν : Type*} [DecidableEq κ]

/-- Insertion, as a case split on the key. -/
theorem lookup_insert_eq_ite (m : UMap κ ν) (a x : κ) (b : ν) :
    (m.insert a b).lookup x = if x = a then some b else m.lookup x := by
  split
  · next h => rw [h, Finmap.lookup_insert]
  · next h => rw [Finmap.lookup_insert_of_ne m h]

/-- Erasure, as a case split on the key. -/
theorem lookup_erase_eq_ite (m : UMap κ ν) (a x : κ) :
    (m.erase a).lookup x = if x = a then none else m.lookup x := by
  split
  · next h => rw [h, Finmap.lookup_erase]
  · next h => rw [Finmap.lookup_erase_ne h]

/-- What a function of the entries is after an insertion. -/
theorem map_lookup_insert {γ : Type*} (f : ν → γ) (m : UMap κ ν) (a : κ) (b : ν) :
    (fun x => ((m.insert a b).lookup x).map f) =
      Function.update (fun x => (m.lookup x).map f) a (some (f b)) := by
  funext x
  rw [Function.update_apply, lookup_insert_eq_ite]
  split
  · rfl
  · rfl

/-- What it is after an erasure. -/
theorem map_lookup_erase {γ : Type*} (f : ν → γ) (m : UMap κ ν) (a : κ) :
    (fun x => ((m.erase a).lookup x).map f) =
      Function.update (fun x => (m.lookup x).map f) a none := by
  funext x
  rw [Function.update_apply, lookup_erase_eq_ite]
  split
  · rfl
  · rfl

/-- An insertion does not come between a map and the erasure of its key. -/
theorem erase_insert (m : UMap κ ν) (a : κ) (b : ν) : (m.insert a b).erase a = m.erase a := by
  apply Finmap.ext_lookup
  intro x
  rw [lookup_erase_eq_ite, lookup_erase_eq_ite, lookup_insert_eq_ite]
  split
  · rfl
  · rfl

/-- Inserting what is there already changes nothing. -/
theorem insert_of_lookup {m : UMap κ ν} {a : κ} {b : ν} (h : m.lookup a = some b) :
    m.insert a b = m := by
  apply Finmap.ext_lookup
  intro x
  rw [lookup_insert_eq_ite]
  split
  · next hx => rw [hx, h]
  · rfl

/-- `emplace`: an entry that is there already stays as it is. -/
def emplace (m : UMap κ ν) (a : κ) (b : ν) : UMap κ ν :=
  match m.lookup a with
  | some _ => m
  | none => m.insert a b

/-- `emplace`, as a case split on the key. -/
theorem lookup_emplace_eq_ite (m : UMap κ ν) (a x : κ) (b : ν) :
    (m.emplace a b).lookup x = if x = a then some ((m.lookup a).getD b) else m.lookup x := by
  cases ha : m.lookup a with
  | none => simp only [emplace, ha, lookup_insert_eq_ite, Option.getD_none]
  | some c =>
    simp only [emplace, ha, Option.getD_some]
    split
    · next hx => rw [hx, ha]
    · rfl

/-- A map that is not empty has a key. -/
theorem exists_lookup_of_ne_empty {m : UMap κ ν} (h : m ≠ ∅) : ∃ a b, m.lookup a = some b := by
  by_contra hnone
  apply h
  apply Finmap.ext_lookup
  intro a
  cases ha : m.lookup a with
  | none => rfl
  | some b => exact absurd ⟨a, b, ha⟩ hnone

end UMap
