import Mathlib.Data.List.Nodup
import Mathlib.Logic.Function.Basic

/-!
# Lists that are searched by a key

A list whose elements have keys stands for the map that gives the first element of each
key.  When no key occurs twice, appending an element of a new key and erasing the element
of a key update this map at one key.
-/

namespace List

variable {β κ : Type*} [DecidableEq κ] (key : β → κ)

/-- The first element with a key. -/
def lookupBy (l : List β) (k : κ) : Option β :=
  l.find? fun b => key b = k

variable {key}

omit [DecidableEq κ] in
/-- Appending keeps the keys apart exactly when the new key does not occur. -/
theorem nodup_map_concat_iff {l : List β} {c : β} :
    ((l ++ [c]).map key).Nodup ↔ (l.map key).Nodup ∧ ∀ b ∈ l, key b ≠ key c := by
  rw [map_append, map_singleton, nodup_append]
  constructor
  · intro h
    exact ⟨h.1, fun b hb heq => h.2.2 _ (mem_map_of_mem hb) _ (mem_singleton_self _) heq⟩
  · intro h
    refine ⟨h.1, nodup_singleton _, ?_⟩
    intro a ha a' ha'
    obtain ⟨b, hb, rfl⟩ := mem_map.mp ha
    rw [mem_singleton.mp ha']
    exact h.2 b hb

/-- A new key stands for the element that is appended. -/
theorem lookupBy_concat {l : List β} {c : β} (hfresh : ∀ b ∈ l, key b ≠ key c) :
    (l ++ [c]).lookupBy key = Function.update (l.lookupBy key) (key c) (some c) := by
  funext k
  rw [Function.update_apply, lookupBy, find?_append]
  split
  · next hk =>
    have hnone : l.find? (fun b => key b = k) = none := by
      rw [find?_eq_none]
      intro b hb
      simpa [hk] using hfresh b hb
    rw [hnone, Option.none_or, find?_cons_of_pos (by simpa using hk.symm)]
  · next hk => simp [lookupBy, Ne.symm hk]

/-- Erasing keeps the keys apart. -/
theorem nodup_map_eraseP {l : List β} (hl : (l.map key).Nodup) (k : κ) :
    ((l.eraseP fun b => key b = k).map key).Nodup :=
  hl.sublist (eraseP_sublist.map key)

/-- The key of the element that is erased stands for nothing. -/
theorem lookupBy_eraseP {l : List β} (hl : (l.map key).Nodup) (k : κ) :
    (l.eraseP fun b => key b = k).lookupBy key = Function.update (l.lookupBy key) k none := by
  funext k'
  rw [Function.update_apply]
  -- the list is gone through until the key is found; behind it the key does not occur
  induction l with
  | nil => simp [lookupBy]
  | cons b l ih =>
    rw [map_cons, nodup_cons] at hl
    by_cases hb : key b = k
    · rw [eraseP_cons_of_pos (by simpa using hb)]
      split
      · next hk =>
        rw [lookupBy, find?_eq_none]
        intro c hc
        have hne : key c ≠ key b := fun heq => hl.1 (heq ▸ mem_map_of_mem hc)
        simpa [hk, ← hb] using hne
      · next hk =>
        have hne : ¬ key b = k' := fun heq => hk (heq.symm.trans hb)
        simp [lookupBy, hne]
    · rw [eraseP_cons_of_neg (by simpa using hb)]
      by_cases hk : key b = k'
      · rw [if_neg (fun heq => hb (hk.trans heq))]
        simp [lookupBy, hk]
      · simpa [lookupBy, hk] using ih hl.2

end List
