import Mathlib.Data.List.Nodup

/-!
# List lemmas for the standard library

`updateFirst`, the in-place update through the iterator that `find_if` gives, and
facts about `find?` together with `eraseP`, the erasure at that iterator.  Both are
cases of `alterFirst`, and changes of the first elements of two disjoint kinds commute.

Then what the parts of a split list hold.
-/

namespace List

variable {α β : Type*}

/-- Applies `f` to the first element that satisfies `p`. -/
def updateFirst (p : α → Bool) (f : α → α) : List α → List α
  | [] => []
  | a :: as => if p a then f a :: as else a :: updateFirst p f as

/-- A column that `f` keeps is kept by `updateFirst p f`. -/
theorem map_updateFirst (g : α → β) (p : α → Bool) {f : α → α} (hf : ∀ a, g (f a) = g a)
    (l : List α) : (l.updateFirst p f).map g = l.map g := by
  induction l with
  | nil => rfl
  | cons a as ih =>
    simp only [updateFirst]
    split
    · simp only [map_cons, hf]
    · simp only [map_cons, ih]

/-- A map that neither the test nor the update sees can be made before or after the update. -/
theorem map_updateFirst_comm {g : α → α} {p : α → Bool} {f : α → α} (hp : ∀ a, p (g a) = p a)
    (hf : ∀ a, g (f a) = f (g a)) (l : List α) :
    (l.updateFirst p f).map g = (l.map g).updateFirst p f := by
  induction l with
  | nil => rfl
  | cons a as ih =>
    simp only [updateFirst, map_cons, hp]
    split
    · simp only [map_cons, hf]
    · simp only [map_cons, ih]

/-- Replaces the first element that satisfies `p` by what `f` gives for it, if anything. -/
def alterFirst (p : α → Bool) (f : α → Option α) : List α → List α
  | [] => []
  | a :: as => if p a then (f a).toList ++ as else a :: alterFirst p f as

/-- Nothing changes when `f` gives every element back. -/
theorem alterFirst_some (p : α → Bool) (l : List α) : l.alterFirst p some = l := by
  induction l with
  | nil => rfl
  | cons a as ih =>
    simp only [alterFirst, ih]
    split <;> rfl

theorem updateFirst_eq_alterFirst (p : α → Bool) (f : α → α) (l : List α) :
    l.updateFirst p f = l.alterFirst p fun a => some (f a) := by
  induction l with
  | nil => rfl
  | cons a as ih => simp only [updateFirst, alterFirst, ih, Option.toList_some, singleton_append]

theorem eraseP_eq_alterFirst (p : α → Bool) (l : List α) :
    l.eraseP p = l.alterFirst p fun _ => none := by
  induction l with
  | nil => rfl
  | cons a as ih =>
    simp only [eraseP_cons, alterFirst, ih, Option.toList_none, nil_append]
    cases p a <;> rfl

/-- Elements in front that fail `p` are passed over. -/
theorem alterFirst_append_of_forall {p : α → Bool} {f : α → Option α} {front : List α}
    (h : ∀ a ∈ front, p a = false) (l : List α) :
    (front ++ l).alterFirst p f = front ++ l.alterFirst p f := by
  induction front with
  | nil => rfl
  | cons a as ih =>
    rw [cons_append, alterFirst, if_neg (by rw [h a mem_cons_self]; decide),
      ih fun b hb => h b (mem_cons_of_mem a hb), cons_append]

/-- Changes of the first elements of two kinds commute, when no element is of both kinds
    and neither change gives one of the other kind. -/
theorem alterFirst_comm {p q : α → Bool} {f g : α → Option α}
    (hpq : ∀ a, p a = true → q a = false)
    (hf : ∀ a, p a = true → ∀ b ∈ (f a).toList, q b = false)
    (hg : ∀ a, q a = true → ∀ b ∈ (g a).toList, p b = false) (l : List α) :
    (l.alterFirst p f).alterFirst q g = (l.alterFirst q g).alterFirst p f := by
  induction l with
  | nil => rfl
  | cons a as ih =>
    cases hp : p a with
    | true =>
      have hq : q a = false := hpq a hp
      simp only [alterFirst, hp, hq, if_true, Bool.false_eq_true, if_false]
      rw [alterFirst_append_of_forall (hf a hp)]
    | false =>
      cases hq : q a with
      | true =>
        simp only [alterFirst, hp, hq, if_true, Bool.false_eq_true, if_false]
        rw [alterFirst_append_of_forall (hg a hq)]
      -- the element is of neither kind, and both changes are further back
      | false => simp only [alterFirst, hp, hq, Bool.false_eq_true, if_false, ih]

/-- What fails `r` may change without a trace in the part that satisfies it. -/
theorem filter_alterFirst {p r : α → Bool} {f : α → Option α}
    (hp : ∀ a, p a = true → r a = false)
    (hf : ∀ a, p a = true → ∀ b ∈ (f a).toList, r b = false) (l : List α) :
    (l.alterFirst p f).filter r = l.filter r := by
  induction l with
  | nil => rfl
  | cons a as ih =>
    cases ha : p a with
    | true =>
      have hnone : (f a).toList.filter r = [] := filter_eq_nil_iff.mpr (by simpa using hf a ha)
      simp only [alterFirst, ha, if_true, filter_append, hnone, nil_append, filter_cons, hp a ha,
        Bool.false_eq_true, if_false]
    | false => simp only [alterFirst, ha, Bool.false_eq_true, if_false, filter_cons, ih]

/-- The first element of one kind stays first when one of another kind is changed. -/
theorem find?_alterFirst {p q : α → Bool} {f : α → Option α}
    (hpq : ∀ a, p a = true → q a = false)
    (hf : ∀ a, p a = true → ∀ b ∈ (f a).toList, q b = false) (l : List α) :
    (l.alterFirst p f).find? q = l.find? q := by
  rw [← head?_filter, ← head?_filter, filter_alterFirst hpq hf]

/-- The first element of a kind is replaced by one of the same kind. -/
theorem find?_alterFirst_self {p : α → Bool} {f : α → Option α} {l : List α} {a b : α}
    (ha : l.find? p = some a) (hf : f a = some b) (hb : p b = true) :
    (l.alterFirst p f).find? p = some b := by
  induction l with
  | nil => cases ha
  | cons x l ih =>
    cases hx : p x with
    | true =>
      rw [find?_cons_of_pos hx, Option.some.injEq] at ha
      rw [alterFirst, if_pos hx, ha, hf, Option.toList_some, singleton_append,
        find?_cons_of_pos hb]
    | false =>
      have hneg : ¬ p x = true := by rw [hx]; decide
      rw [find?_cons_of_neg hneg] at ha
      rw [alterFirst, if_neg hneg, find?_cons_of_neg hneg]
      exact ih ha

/-- The element that `find?` gives splits the list, and `eraseP` takes it out. -/
theorem eraseP_of_find?_eq_some {p : α → Bool} {l : List α} {b : α} (h : l.find? p = some b) :
    p b = true ∧ ∃ as bs, l = as ++ b :: bs ∧ l.eraseP p = as ++ bs ∧ ∀ a ∈ as, p a = false := by
  obtain ⟨hb, as, bs, hl, has⟩ := find?_eq_some_iff_append.mp h
  have has' : ∀ a ∈ as, p a = false := fun a ha => by simpa using has a ha
  refine ⟨hb, as, bs, hl, ?_, has'⟩
  rw [hl, eraseP_append_right _ (by simpa using has'), eraseP_cons_of_pos hb]

/-- Erasing an element that fails `p` does not change what `find? p` gives. -/
theorem find?_eraseP_of_disjoint {p q : α → Bool} (h : ∀ a, q a = true → p a = false)
    (l : List α) : (l.eraseP q).find? p = l.find? p := by
  rw [eraseP_eq_alterFirst]
  exact find?_alterFirst h (fun a _ b hb => absurd hb not_mem_nil) l

/-- In a list without duplicates the element found is gone after the erasure. -/
theorem not_mem_eraseP_of_find?_eq_some {p : α → Bool} {l : List α} {b : α} (hl : l.Nodup)
    (h : l.find? p = some b) : b ∉ l.eraseP p := by
  obtain ⟨-, as, bs, hsplit, herase, -⟩ := eraseP_of_find?_eq_some h
  rw [herase]
  rw [hsplit] at hl
  exact (nodup_cons.mp (nodup_middle.mp hl)).1

/-! ## Splitting -/

/-- A part of a split list has elements of the list in it, and no separator. -/
theorem forall_of_mem_splitOnP {p : α → Bool} {l part : List α} (hpart : part ∈ l.splitOnP p) :
    ∀ a ∈ part, a ∈ l ∧ p a = false := by
  induction l generalizing part with
  | nil =>
    rw [splitOnP_nil, mem_singleton] at hpart
    rw [hpart]
    exact forall_mem_nil _
  -- a separator starts a new part, any other element joins the first one
  | cons b l ih =>
    have htail : ∀ part ∈ l.splitOnP p, ∀ a ∈ part, a ∈ b :: l ∧ p a = false :=
      fun part hpart a ha => ⟨mem_cons_of_mem _ (ih hpart a ha).1, (ih hpart a ha).2⟩
    rw [splitOnP_cons_eq_if_modifyHead] at hpart
    split at hpart
    · cases mem_cons.mp hpart with
      | inl hnil => rw [hnil]; exact forall_mem_nil _
      | inr hrest => exact htail part hrest
    · rename_i hb
      cases hparts : l.splitOnP p with
      | nil => exact absurd hparts (splitOnP_ne_nil _ _)
      | cons first parts =>
        rw [hparts] at hpart htail
        cases mem_cons.mp hpart with
        | inl hfirst =>
          rw [hfirst]
          exact forall_mem_cons.mpr
            ⟨⟨mem_cons_self, Bool.eq_false_iff.mpr hb⟩, htail first mem_cons_self⟩
        | inr hrest => exact htail part (mem_cons_of_mem _ hrest)

end List
