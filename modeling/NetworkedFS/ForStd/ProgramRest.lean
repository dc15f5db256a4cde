import Mathlib.Algebra.BigOperators.Group.Finset.Piecewise
import NetworkedFS.ForStd.LockProgram

/-!
# Where calls are in their programs

A call under way has made some of the actions of its program and has the rest of it before
it.  What is left after given actions is found from the program alone, so that an invariant
of threads may speak of the actions made instead of the program that is left.

## Key results

- `rest_ret`, `rest_lock`, `rest_unlock`, `rest_act`: what is left of each kind of program;
- `Acts.rest`: what holds of all actions of a program holds of those that are left;
- `Follows.start`, `Follows.advance`: every call stays on its program;
- `underWay_start`, `underWay_update`: how the number of calls in a certain place changes.
-/

variable {ι κ σ μ ε α β : Type}

namespace LockProg

/-- What is left of a program that has made the actions `steps`, the latest first. -/
inductive Rest (p : LockProg σ μ ε α) : List (σ × σ) → LockProg σ μ ε α → Prop
  | start : Rest p [] p
  | lock {steps : List (σ × σ)} {m : μ} {next : LockProg σ μ ε α}
      (h : Rest p steps (.lock m next)) : Rest p steps next
  | unlock {steps : List (σ × σ)} {m : μ} {next : LockProg σ μ ε α}
      (h : Rest p steps (.unlock m next)) : Rest p steps next
  | act {β : Type} {steps : List (σ × σ)} {f : σ → Except ε (β × σ)}
      {next : β → LockProg σ μ ε α} {b : β} {s s' : σ} (h : Rest p steps (.act f next))
      (hok : f s = .ok (b, s')) : Rest p ((s, s') :: steps) (next b)

variable {steps : List (σ × σ)} {q : LockProg σ μ ε α}

/-- What is left of what is left. -/
theorem Rest.trans {p r : LockProg σ μ ε α} {later : List (σ × σ)} (h : p.Rest steps q)
    (h' : q.Rest later r) : p.Rest (later ++ steps) r := by
  induction h' with
  | start => exact h
  | lock _ ih => exact ih.lock
  | unlock _ ih => exact ih.unlock
  | act _ hok ih => exact ih.act hok

@[simp] theorem rest_ret {a : α} :
    (.ret a : LockProg σ μ ε α).Rest steps q ↔ steps = [] ∧ q = .ret a := by
  constructor
  · intro h
    induction h with
    | start => exact ⟨rfl, rfl⟩
    | lock _ ih => cases ih.2
    | unlock _ ih => cases ih.2
    | act _ _ ih => cases ih.2
  · intro h
    obtain ⟨rfl, rfl⟩ := h
    exact .start

@[simp] theorem rest_lock {m : μ} {next : LockProg σ μ ε α} :
    (.lock m next : LockProg σ μ ε α).Rest steps q ↔
      (steps = [] ∧ q = .lock m next) ∨ next.Rest steps q := by
  constructor
  · -- the first step of what was run is this one, and the others are those of `next`
    intro h
    induction h with
    | start => exact .inl ⟨rfl, rfl⟩
    | lock _ ih =>
      cases ih with
      | inl hfirst =>
        obtain ⟨rfl, heq⟩ := hfirst
        cases heq
        exact .inr .start
      | inr hrest => exact .inr hrest.lock
    | unlock _ ih =>
      cases ih with
      | inl hfirst => cases hfirst.2
      | inr hrest => exact .inr hrest.unlock
    | act _ hok ih =>
      cases ih with
      | inl hfirst => cases hfirst.2
      | inr hrest => exact .inr (hrest.act hok)
  · intro h
    cases h with
    | inl hfirst =>
      obtain ⟨rfl, rfl⟩ := hfirst
      exact .start
    | inr hrest =>
      have hfirst : (LockProg.lock m next).Rest [] next := .lock .start
      have h := hfirst.trans hrest
      rwa [List.append_nil] at h

@[simp] theorem rest_unlock {m : μ} {next : LockProg σ μ ε α} :
    (.unlock m next : LockProg σ μ ε α).Rest steps q ↔
      (steps = [] ∧ q = .unlock m next) ∨ next.Rest steps q := by
  constructor
  · -- as for `lock`
    intro h
    induction h with
    | start => exact .inl ⟨rfl, rfl⟩
    | lock _ ih =>
      cases ih with
      | inl hfirst => cases hfirst.2
      | inr hrest => exact .inr hrest.lock
    | unlock _ ih =>
      cases ih with
      | inl hfirst =>
        obtain ⟨rfl, heq⟩ := hfirst
        cases heq
        exact .inr .start
      | inr hrest => exact .inr hrest.unlock
    | act _ hok ih =>
      cases ih with
      | inl hfirst => cases hfirst.2
      | inr hrest => exact .inr (hrest.act hok)
  · intro h
    cases h with
    | inl hfirst =>
      obtain ⟨rfl, rfl⟩ := hfirst
      exact .start
    | inr hrest =>
      have hfirst : (LockProg.unlock m next).Rest [] next := .unlock .start
      have h := hfirst.trans hrest
      rwa [List.append_nil] at h

@[simp] theorem rest_act {f : σ → Except ε (β × σ)} {next : β → LockProg σ μ ε α} :
    (.act f next : LockProg σ μ ε α).Rest steps q ↔
      (steps = [] ∧ q = .act f next) ∨
      ∃ b s s' later, f s = .ok (b, s') ∧ steps = later ++ [(s, s')] ∧ (next b).Rest later q := by
  constructor
  · intro h
    induction h with
    | start => exact .inl ⟨rfl, rfl⟩
    | lock _ ih =>
      cases ih with
      | inl hfirst => cases hfirst.2
      | inr hrest =>
        obtain ⟨b, s, s', later, hok, rfl, hlater⟩ := hrest
        exact .inr ⟨b, s, s', later, hok, rfl, hlater.lock⟩
    | unlock _ ih =>
      cases ih with
      | inl hfirst => cases hfirst.2
      | inr hrest =>
        obtain ⟨b, s, s', later, hok, rfl, hlater⟩ := hrest
        exact .inr ⟨b, s, s', later, hok, rfl, hlater.unlock⟩
    -- an action is the first one if nothing was run before it, and one of `next b` otherwise
    | @act γ steps g k c s s' _ hok ih =>
      cases ih with
      | inl hfirst =>
        obtain ⟨rfl, heq⟩ := hfirst
        cases heq
        exact .inr ⟨c, s, s', [], hok, rfl, .start⟩
      | inr hrest =>
        obtain ⟨b, t, t', later, hok', rfl, hlater⟩ := hrest
        exact .inr ⟨b, t, t', (s, s') :: later, hok', rfl, hlater.act hok⟩
  · intro h
    cases h with
    | inl hfirst =>
      obtain ⟨rfl, rfl⟩ := hfirst
      exact .start
    | inr hrest =>
      obtain ⟨b, s, s', later, hok, rfl, hlater⟩ := hrest
      exact Rest.trans (.act .start hok) hlater

/-- Whatever an action of the program meets and does is in `R`. -/
def Acts (R : σ → σ → Prop) : LockProg σ μ ε α → Prop
  | .ret _ => True
  | .lock _ next => Acts R next
  | .unlock _ next => Acts R next
  | .act f next => (∀ s b s', f s = .ok (b, s') → R s s') ∧ ∀ b, Acts R (next b)

/-- The actions that are left are actions of the program. -/
theorem Acts.rest {R : σ → σ → Prop} {p : LockProg σ μ ε α} (hp : p.Acts R)
    (h : p.Rest steps q) : q.Acts R := by
  induction h with
  | start => exact hp
  | lock _ ih => exact ih
  | unlock _ ih => exact ih
  | act _ _ ih => exact ih.2 _

end LockProg

/-- A sum over all threads, after the value of one has changed. -/
theorem Finset.sum_update_add {β : Type*} [Fintype ι] [DecidableEq ι] (a : ι → β) (g : β → Nat)
    (t : ι) (b : β) : ∑ u, g (Function.update a t b u) + g (a t) = ∑ u, g (a u) + g b := by
  have hcomp : (fun u => g (Function.update a t b u)) =
      Function.update (fun u => g (a u)) t (g b) := by
    funext u
    simp only [Function.update_apply]
    split <;> rfl
  have hnew : ∑ u, g (Function.update a t b u) = g b + ∑ u ∈ Finset.univ \ {t}, g (a u) := by
    rw [hcomp, Finset.sum_update_of_mem (Finset.mem_univ t)]
  have hold : ∑ u ∈ Finset.univ \ {t}, g (a u) + g (a t) = ∑ u, g (a u) := by
    rw [← Finset.sum_sdiff (Finset.singleton_subset_iff.mpr (Finset.mem_univ t)),
      Finset.sum_singleton]
  omega

namespace Threads

/-- Every call under way is one of `P`, and on its program. -/
def Follows (program : κ → LockProg σ μ ε α) (P : κ → Prop) (w : Threads ι κ σ μ ε α) : Prop :=
  ∀ t, ∀ f ∈ w.stack t, P f.call ∧ (program f.call).Rest f.steps f.prog

/-- How many calls under way have a property. -/
def underWay [Fintype ι] (p : Frame κ σ μ ε α → Bool) (w : Threads ι κ σ μ ε α) : Nat :=
  ∑ t, (w.stack t).countP p

variable {program : κ → LockProg σ μ ε α} {P : κ → Prop}

theorem follows_idle (shared : σ) :
    Follows program P (Threads.idle shared : Threads ι κ σ μ ε α) :=
  fun _ _ hf => absurd hf List.not_mem_nil

variable [DecidableEq ι]

/-- A call begins with the whole of its program. -/
theorem Follows.start {w : Threads ι κ σ μ ε α} (hw : w.Follows program P) (t : ι) {call : κ}
    (hcall : P call) : (w.start t call (program call)).Follows program P := by
  intro u f hf
  simp only [Threads.start, Function.update_apply] at hf
  split at hf
  · rcases List.mem_cons.mp hf with rfl | hold
    · exact ⟨hcall, .start⟩
    · exact hw t f hold
  · exact hw u f hf

variable [DecidableEq μ]

/-- A step goes on with the program. -/
theorem Follows.advance {w w' : Threads ι κ σ μ ε α} (hw : w.Follows program P) {t : ι}
    {o : Option α} (h : Advance w t o w') : w'.Follows program P := by
  -- it is enough to look at the frames that take the place of the top one
  have htop : ∀ {f rest} top, w.stack t = f :: rest →
      (∀ g ∈ top, P g.call ∧ (program g.call).Rest g.steps g.prog) →
      ∀ u, ∀ g ∈ Function.update w.stack t (top ++ rest) u,
        P g.call ∧ (program g.call).Rest g.steps g.prog := by
    intro f rest top hstack htop u g hg
    rw [Function.update_apply] at hg
    split at hg
    · rcases List.mem_append.mp hg with hnew | hold
      · exact htop g hnew
      · exact hw t g (hstack ▸ List.mem_cons_of_mem f hold)
    · exact hw u g hg
  have hf : ∀ {f rest}, w.stack t = f :: rest →
      P f.call ∧ (program f.call).Rest f.steps f.prog :=
    fun {f rest} hstack => hw t f (hstack ▸ List.mem_cons_self)
  -- each step leaves in the frame what remains of its program
  cases h with
  | @returns f rest a hstack hprog => exact htop [] hstack nofun
  | @locks f rest m next hstack hprog hfree =>
    obtain ⟨hP, hrest⟩ := hf hstack
    rw [hprog] at hrest
    exact htop [_] hstack (List.forall_mem_singleton.mpr ⟨hP, hrest.lock⟩)
  | @unlocks f rest m next hstack hprog howner =>
    obtain ⟨hP, hrest⟩ := hf hstack
    rw [hprog] at hrest
    exact htop [_] hstack (List.forall_mem_singleton.mpr ⟨hP, hrest.unlock⟩)
  | @acts f rest β g next b s hstack hprog hok =>
    obtain ⟨hP, hrest⟩ := hf hstack
    rw [hprog] at hrest
    exact htop [_] hstack (List.forall_mem_singleton.mpr ⟨hP, hrest.act hok⟩)

omit [DecidableEq μ] in
/-- The calls of one thread are others than before. -/
theorem underWay_update [Fintype ι] {w w' : Threads ι κ σ μ ε α} {t : ι}
    {f : Frame κ σ μ ε α} {top rest : List (Frame κ σ μ ε α)} (hstack : w.stack t = f :: rest)
    (hstack' : w'.stack = Function.update w.stack t (top ++ rest))
    (p : Frame κ σ μ ε α → Bool) :
    w'.underWay p + (if p f then 1 else 0) = w.underWay p + top.countP p := by
  have hsum := Finset.sum_update_add w.stack (List.countP p) t (top ++ rest)
  rw [hstack, List.countP_cons, List.countP_append] at hsum
  unfold underWay
  rw [hstack']
  omega

omit [DecidableEq μ] in
/-- One call more. -/
theorem underWay_start [Fintype ι] (w : Threads ι κ σ μ ε α) (t : ι) (call : κ)
    (prog : LockProg σ μ ε α) (p : Frame κ σ μ ε α → Bool) :
    (w.start t call prog).underWay p = w.underWay p + if p { call, prog } then 1 else 0 := by
  have hsum := Finset.sum_update_add w.stack (List.countP p) t ({ call, prog } :: w.stack t)
  rw [List.countP_cons] at hsum
  unfold underWay
  show ∑ u, (Function.update w.stack t ({ call, prog } :: w.stack t) u).countP p = _
  omega

omit [DecidableEq ι] [DecidableEq μ] in
theorem underWay_idle [Fintype ι] (shared : σ) (p : Frame κ σ μ ε α → Bool) :
    (Threads.idle shared : Threads ι κ σ μ ε α).underWay p = 0 :=
  Finset.sum_eq_zero fun _ _ => rfl

end Threads
