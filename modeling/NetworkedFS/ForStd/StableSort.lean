import Mathlib.Data.List.Perm.Basic
import Mathlib.Order.Defs.Unbundled

/-!
# Stable sorts by a comparison

What a sort that takes a strict comparison, such as `std::list::sort`, promises: for a
strict weak ordering of the elements it gives a sorted permutation in which tied elements
keep their order.  For any other comparison it promises nothing.

## Key results

- `IsStableSort.eq_partition`: sorting by a comparison that only tells two classes apart is
  the stable partition into them;
- `isStableSort_mergeSortBy`: there is such a sort.
-/

namespace StableSort

variable {α : Type*}

/-- The comparison is a strict weak ordering of the elements of `l`. -/
def StrictWeakOn (less : α → α → Bool) (l : List α) : Prop :=
  IsStrictWeakOrder {a // a ∈ l} fun a b => less a b = true

/-- Neither element goes before the other. -/
def tied (less : α → α → Bool) (a b : α) : Bool := !less a b && !less b a

/-- The sort does what is asked of it for every strict weak ordering. -/
structure IsStableSort (sort : (α → α → Bool) → List α → List α) : Prop where
  perm : ∀ less l, StrictWeakOn less l → (sort less l).Perm l
  sorted : ∀ less l, StrictWeakOn less l → (sort less l).Pairwise fun a b => less b a = false
  stable : ∀ less l, StrictWeakOn less l → ∀ a ∈ l,
    (sort less l).filter (tied less a) = l.filter (tied less a)

/-! ## Comparisons that tell two classes apart -/

/-- Putting one class of elements before the others is a strict weak ordering. -/
theorem strictWeakOn_of_classes {less : α → α → Bool} {p : α → Bool} {l : List α}
    (hless : ∀ a ∈ l, ∀ b ∈ l, less a b = (p a && !p b)) : StrictWeakOn less l := by
  have hiff : ∀ a b : {a // a ∈ l}, less a b = true ↔ p a = true ∧ p b = false := by
    intro a b
    rw [hless a a.2 b b.2, Bool.and_eq_true, Bool.not_eq_true']
  refine { irrefl := ?_, trans := ?_, incomp_trans := ?_ }
  · intro a h
    obtain ⟨ha, ha'⟩ := (hiff a a).mp h
    rw [ha] at ha'
    cases ha'
  · intro a b c hab hbc
    exact (hiff a c).mpr ⟨((hiff a b).mp hab).1, ((hiff b c).mp hbc).2⟩
  · intro a b c
    simp only [hiff]
    cases p a <;> cases p b <;> cases p c <;> simp

/-- A list in which nothing of a class comes after something outside of it is that class
    followed by the rest. -/
theorem eq_filter_append_filter {p : α → Bool} {l : List α}
    (h : l.Pairwise fun a b => (p b && !p a) = false) :
    l = l.filter p ++ l.filter fun a => !p a := by
  induction l with
  | nil => rfl
  | cons a l ih =>
    obtain ⟨hfirst, hrest⟩ := List.pairwise_cons.mp h
    cases hp : p a with
    | true => simpa [hp] using ih hrest
    | false =>
      -- everything after `a` is outside of the class too
      have hall : ∀ b ∈ l, p b = false := by
        intro b hb
        simpa [hp] using hfirst b hb
      have hnone : l.filter p = [] := List.filter_eq_nil_iff.mpr (by simpa using hall)
      have hevery : (l.filter fun a => !p a) = l := List.filter_eq_self.mpr (by simpa using hall)
      simp [hp, hnone, hevery]

/-- A stable sort leaves each of the two classes as it was. -/
theorem IsStableSort.filter_class {sort : (α → α → Bool) → List α → List α}
    (hsort : IsStableSort sort) {less : α → α → Bool} {p q : α → Bool} {l : List α}
    (hless : ∀ a ∈ l, ∀ b ∈ l, less a b = (p a && !p b))
    (hq : (∀ a, q a = p a) ∨ ∀ a, q a = !p a) : (sort less l).filter q = l.filter q := by
  have hweak := strictWeakOn_of_classes hless
  have hmem : ∀ a, a ∈ sort less l ↔ a ∈ l := fun a => (hsort.perm less l hweak).mem_iff
  by_cases hany : ∃ a ∈ l, q a = true
  · obtain ⟨a, ha, hqa⟩ := hany
    -- the class of `a` is what is tied with it
    have htied : ∀ b ∈ l, q b = tied less a b := by
      intro b hb
      rw [tied, hless a ha b hb, hless b hb a ha]
      rcases hq with hq | hq <;> rw [hq] at hqa ⊢ <;> cases hpa : p a <;> cases p b <;>
        simp_all
    rw [List.filter_congr fun b hb => htied b ((hmem b).mp hb), List.filter_congr htied]
    exact hsort.stable less l hweak a ha
  · have hnone : ∀ a ∈ l, ¬ q a = true := fun a ha hqa => hany ⟨a, ha, hqa⟩
    rw [List.filter_eq_nil_iff.mpr hnone, List.filter_eq_nil_iff]
    exact fun a ha => hnone a ((hmem a).mp ha)

/-- Sorting by a comparison that only tells two classes apart is the stable partition. -/
theorem IsStableSort.eq_partition {sort : (α → α → Bool) → List α → List α}
    (hsort : IsStableSort sort) {less : α → α → Bool} {p : α → Bool} {l : List α}
    (hless : ∀ a ∈ l, ∀ b ∈ l, less a b = (p a && !p b)) :
    sort less l = l.filter p ++ l.filter fun a => !p a := by
  have hweak := strictWeakOn_of_classes hless
  have hpairwise : (sort less l).Pairwise fun a b => (p b && !p a) = false := by
    refine (hsort.sorted less l hweak).imp_of_mem ?_
    intro a b ha hb hab
    have hsub := (hsort.perm less l hweak).subset
    rw [← hless b (hsub hb) a (hsub ha)]
    exact hab
  rw [eq_filter_append_filter hpairwise, hsort.filter_class hless (.inl fun _ => rfl),
    hsort.filter_class hless (.inr fun _ => rfl)]

/-! ## Merge sort -/

/-- In a strict weak ordering, not going before is transitive. -/
theorem not_less_trans {β : Type*} {lt : β → β → Prop} (hweak : IsStrictWeakOrder β lt)
    {a b c : β} (hba : ¬ lt b a) (hcb : ¬ lt c b) : ¬ lt c a := by
  intro hca
  -- `a` and `b` are tied, and so are `b` and `c`, hence `a` and `c`
  have hab : ¬ lt a b := fun hab => hcb (hweak.trans c a b hca hab)
  have hbc : ¬ lt b c := fun hbc => hba (hweak.trans b c a hbc hca)
  exact (hweak.incomp_trans a b c ⟨hab, hba⟩ ⟨hbc, hcb⟩).2 hca

/-- Merge sort leaves elements that are all below each other in their order. -/
theorem filter_mergeSort {β : Type*} {le : β → β → Bool} {q : β → Bool}
    (htrans : ∀ a b c, le a b = true → le b c = true → le a c = true)
    (htotal : ∀ a b, (le a b || le b a) = true)
    (hq : ∀ a b, q a = true → q b = true → le a b = true) (l : List β) :
    (l.mergeSort le).filter q = l.filter q := by
  have hpairwise : (l.filter q).Pairwise fun a b => le a b = true := by
    refine List.pairwise_iff_forall_sublist.mpr ?_
    intro a b hab
    have hmem := hab.subset
    have ha : a ∈ l.filter q := hmem (by simp)
    have hb : b ∈ l.filter q := hmem (by simp)
    exact hq a b (List.mem_filter.mp ha).2 (List.mem_filter.mp hb).2
  have hsublist : (l.filter q).Sublist ((l.mergeSort le).filter q) := by
    have hsorted := List.sublist_mergeSort htrans htotal hpairwise List.filter_sublist
    have := hsorted.filter q
    simpa only [List.filter_filter, Bool.and_self] using this
  -- both have as many elements
  exact (hsublist.eq_of_length ((List.mergeSort_perm l le).filter q).length_eq.symm).symm

/-- Merge sort for a strict comparison. -/
def mergeSortBy (less : α → α → Bool) (l : List α) : List α := l.mergeSort fun a b => !less b a

theorem mergeSortBy_perm (less : α → α → Bool) (l : List α) : (mergeSortBy less l).Perm l :=
  List.mergeSort_perm l _

/-- The comparison of merge sort is transitive and total on the elements of the list. -/
theorem StrictWeakOn.trans_total {less : α → α → Bool} {l : List α} (h : StrictWeakOn less l) :
    (∀ a b c : {a // a ∈ l}, (!less b a) = true → (!less c b) = true → (!less c a) = true) ∧
      ∀ a b : {a // a ∈ l}, (!less b a || !less a b) = true := by
  have hweak : IsStrictWeakOrder {a // a ∈ l} fun a b => less a b = true := h
  simp only [Bool.not_eq_true', Bool.or_eq_true, ← Bool.not_eq_true]
  refine ⟨fun a b c hba hcb => not_less_trans hweak hba hcb, ?_⟩
  intro a b
  by_contra hboth
  rw [not_or, not_not, not_not] at hboth
  exact hweak.irrefl a (hweak.trans a b a hboth.2 hboth.1)

/-- Sorting the elements together with their membership is sorting them. -/
theorem map_mergeSort_attach (less : α → α → Bool) (l : List α) :
    (l.attach.mergeSort fun a b => !less b a).map Subtype.val = mergeSortBy less l := by
  rw [List.map_mergeSort (s := fun a b => !less b a) fun a _ b _ => rfl,
    List.attach_map_subtype_val, mergeSortBy]

/-- Merge sort is a stable sort. -/
theorem isStableSort_mergeSortBy :
    IsStableSort (mergeSortBy : (α → α → Bool) → List α → List α) where
  perm less l _ := mergeSortBy_perm less l
  sorted less l hweak := by
    obtain ⟨htrans, htotal⟩ := hweak.trans_total
    rw [← map_mergeSort_attach, List.pairwise_map]
    simpa using List.pairwise_mergeSort htrans htotal l.attach
  stable less l hweak a ha := by
    obtain ⟨htrans, htotal⟩ := hweak.trans_total
    -- what is tied with `a` is tied with each other
    have htied : ∀ b c : {a // a ∈ l}, tied less a b = true → tied less a c = true →
        (!less c b) = true := by
      intro b c hb hc
      rw [tied, Bool.and_eq_true] at hb hc
      exact htrans b ⟨a, ha⟩ c hb.1 hc.2
    have hattach := filter_mergeSort htrans htotal htied l.attach
    rw [← map_mergeSort_attach, List.filter_map]
    calc
      _ = (l.attach.filter (tied less a ∘ Subtype.val)).map Subtype.val :=
        congrArg (List.map Subtype.val) hattach
      _ = l.filter (tied less a) := by rw [← List.filter_map, List.attach_map_subtype_val]

end StableSort
