import Mathlib.Data.List.Nodup
import Mathlib.Data.Set.Function

/-!
# Identifiers that are used again

An allocator hands out identifiers `fresh 0`, `fresh 1`, … and keeps those that were given
back on a stack: an identifier is taken from the stack if there is one, and only else a
new one is made, namely `fresh n` while `n` are held.  Then the identifiers held and
those on the stack are together always the first ones, each of them once.
-/

namespace IdPool

variable {ι : Type*} {fresh : ℕ → ι}

/-- The identifiers held and those given back are together the first ones. -/
def Covers (fresh : ℕ → ι) (held free : List ι) : Prop :=
  (held ++ free).Perm ((List.range (held.length + free.length)).map fresh)

/-- In the beginning there are no identifiers. -/
theorem covers_nil (fresh : ℕ → ι) : Covers fresh [] [] := List.Perm.nil

/-- In which order identifiers are held does not matter. -/
theorem Covers.perm {held held' free : List ι} (h : Covers fresh held free)
    (hperm : held'.Perm held) : Covers fresh held' free := by
  unfold Covers
  rw [hperm.length_eq]
  exact (hperm.append_right free).trans h

/-- An identifier is taken from the stack. -/
theorem Covers.reuse {held free : List ι} {x : ι} (h : Covers fresh held (x :: free)) :
    Covers fresh (x :: held) free := by
  have hlength : (x :: held).length + free.length = held.length + (x :: free).length := by
    simp only [List.length_cons]
    omega
  unfold Covers
  rw [hlength]
  exact List.perm_middle.symm.trans h

/-- An identifier goes back on the stack. -/
theorem Covers.giveBack {held free : List ι} {x : ι} (h : Covers fresh (x :: held) free) :
    Covers fresh held (x :: free) := by
  have hlength : held.length + (x :: free).length = (x :: held).length + free.length := by
    simp only [List.length_cons]
    omega
  unfold Covers
  rw [hlength]
  exact List.perm_middle.trans h

/-- With an empty stack a new identifier is made. -/
theorem Covers.extend {held : List ι} (h : Covers fresh held []) :
    Covers fresh (fresh held.length :: held) [] := by
  have hsnoc : (List.range (held.length + 1)).map fresh =
      (List.range held.length).map fresh ++ [fresh held.length] := by
    rw [List.range_succ, List.map_append, List.map_singleton]
  unfold Covers at h ⊢
  simp only [List.append_nil, List.length_nil, Nat.add_zero, List.length_cons] at h ⊢
  rw [hsnoc]
  exact (h.cons _).trans (List.perm_append_singleton _ _).symm

/-- No identifier is there twice, as long as `fresh` does not repeat. -/
theorem Covers.nodup {held free : List ι} (h : Covers fresh held free) {n : ℕ}
    (hinj : Set.InjOn fresh {k | k < n}) (hle : held.length + free.length ≤ n) :
    (held ++ free).Nodup := by
  rw [h.nodup_iff]
  apply List.Nodup.map_on _ List.nodup_range
  intro j hj k hk heq
  exact hinj (lt_of_lt_of_le (List.mem_range.mp hj) hle) (lt_of_lt_of_le (List.mem_range.mp hk) hle)
    heq

/-- The identifiers in use or free are those that were made. -/
theorem Covers.mem_iff {held free : List ι} (h : Covers fresh held free) (x : ι) :
    x ∈ held ++ free ↔ ∃ k < held.length + free.length, fresh k = x := by
  rw [List.Perm.mem_iff h]
  simp only [List.mem_map, List.mem_range]

end IdPool
