import Mathlib.Order.Defs.Unbundled
import NetworkedFS.ForStd.LockProgram

/-!
# Calls that rely on what other threads leave alone

A call that carries a value from one of its actions to a later one relies on the other
threads not to change what the value stands for.  `Meets` says that a call whose
reliance, a relation between states, is respected does not fail for the reasons named and
returns with the property named.  What a call relies on may depend on the actions that it
has made so far.

## Key results

- `Relies.start`, `Relies.advance`: threads whose reliance is respected go on to meet
  their properties;
- `Relies.not_bad`, `Relies.result`: what that gives for a single step.
-/

variable {ι κ σ μ ε α β : Type}

namespace LockProg

/-- From a state of the shared data on, and with the actions `steps` made, no action of the
    program fails for a `bad` reason and it returns with `Q`, as long as other threads act
    by steps in `R` only. -/
def Meets (R : List (σ × σ) → σ → σ → Prop) (Q : α → List (σ × σ) → Prop) (bad : ε → Prop) :
    List (σ × σ) → σ → LockProg σ μ ε α → Prop
  | steps, _, .ret a => Q a steps
  | steps, s, .lock _ next => Meets R Q bad steps s next
  | steps, s, .unlock _ next => Meets R Q bad steps s next
  | steps, s, .act f next => ∀ s₁, R steps s s₁ →
    (∀ e, f s₁ = .error e → ¬ bad e) ∧
    ∀ b s₂, f s₁ = .ok (b, s₂) → Meets R Q bad ((s₁, s₂) :: steps) s₂ (next b)

/-- No action of the program fails for a `bad` reason in any state. -/
def Avoids (bad : ε → Prop) : LockProg σ μ ε α → Prop
  | .ret _ => True
  | .lock _ next => Avoids bad next
  | .unlock _ next => Avoids bad next
  | .act f next => (∀ s e, f s = .error e → ¬ bad e) ∧ ∀ b, Avoids bad (next b)

variable {R : List (σ × σ) → σ → σ → Prop} {Q : α → List (σ × σ) → Prop} {bad : ε → Prop}

/-- Steps that a call relies on do not spoil it. -/
theorem Meets.mono [∀ steps, IsTrans σ (R steps)] {steps : List (σ × σ)} {s s' : σ}
    {p : LockProg σ μ ε α} (h : p.Meets R Q bad steps s) (hs : R steps s s') :
    p.Meets R Q bad steps s' := by
  induction p with
  | ret a => exact h
  | lock m next ih => exact ih h
  | unlock m next ih => exact ih h
  | act f next ih =>
    intro s₁ h₁
    exact h s₁ (IsTrans.trans s s' s₁ hs h₁)

/-- A weaker property of the results. -/
theorem Meets.imp {Q' : α → List (σ × σ) → Prop} {steps : List (σ × σ)} {s : σ}
    {p : LockProg σ μ ε α} (h : p.Meets R Q bad steps s)
    (hQ : ∀ a steps, Q a steps → Q' a steps) : p.Meets R Q' bad steps s := by
  induction p generalizing steps s with
  | ret a => exact hQ a steps h
  | lock m next ih => exact ih h
  | unlock m next ih => exact ih h
  | act f next ih =>
    intro s₁ h₁
    exact ⟨(h s₁ h₁).1, fun b s₂ hok => ih b ((h s₁ h₁).2 b s₂ hok)⟩

/-- A program that relies on nothing, of which nothing is asked. -/
theorem Avoids.meets {p : LockProg σ μ ε α} (h : p.Avoids bad) (hQ : ∀ a steps, Q a steps)
    (steps : List (σ × σ)) (s : σ) : p.Meets R Q bad steps s := by
  induction p generalizing steps s with
  | ret a => exact hQ a steps
  | lock m next ih => exact ih h steps s
  | unlock m next ih => exact ih h steps s
  | act f next ih =>
    intro s₁ _
    exact ⟨h.1 s₁, fun b s₂ _ => ih b (h.2 b) _ s₂⟩

/-- Two programs in a row. -/
theorem Avoids.bind {p : LockProg σ μ ε α} {k : α → LockProg σ μ ε β} (hp : p.Avoids bad)
    (hk : ∀ a, (k a).Avoids bad) : (p >>= k).Avoids bad := by
  induction p with
  | ret a => exact hk a
  | lock m next ih => exact ih hp
  | unlock m next ih => exact ih hp
  | act f next ih => exact ⟨hp.1, fun b => ih b (hp.2 b)⟩

end LockProg

namespace Threads

/-- The calls under way are such that, if what they rely on is respected, they do not fail
    for a `bad` reason and return with their property. -/
def Relies (R : κ → List (σ × σ) → σ → σ → Prop) (Q : κ → α → List (σ × σ) → Prop)
    (bad : ε → Prop) (w : Threads ι κ σ μ ε α) : Prop :=
  ∀ t, ∀ f ∈ w.stack t, f.prog.Meets (R f.call) (Q f.call) bad f.steps w.shared

/-- The calls under way of a thread, without the one that makes a step of `t`. -/
def disturbed [DecidableEq ι] (w : Threads ι κ σ μ ε α) (t u : ι) : List (Frame κ σ μ ε α) :=
  if u = t then (w.stack u).tail else w.stack u

variable {R : κ → List (σ × σ) → σ → σ → Prop} {Q : κ → α → List (σ × σ) → Prop}
  {bad : ε → Prop}

/-- Threads without calls rely on nothing. -/
theorem relies_idle (shared : σ) :
    Relies R Q bad (Threads.idle shared : Threads ι κ σ μ ε α) :=
  fun _ _ hf => absurd hf List.not_mem_nil

variable [DecidableEq ι]

/-- A call begins. -/
theorem Relies.start {w : Threads ι κ σ μ ε α} (hw : w.Relies R Q bad) {t : ι} {call : κ}
    {p : LockProg σ μ ε α} (hp : p.Meets (R call) (Q call) bad [] w.shared) :
    (w.start t call p).Relies R Q bad := by
  intro u f hf
  simp only [Threads.start, Function.update_apply] at hf
  split at hf
  · rcases List.mem_cons.mp hf with rfl | hold
    · exact hp
    · exact hw t f hold
  · exact hw u f hf

variable [DecidableEq μ]

/-- A step of a thread that respects what the other calls rely on. -/
theorem Relies.advance [∀ k steps, IsPreorder σ (R k steps)] {w w' : Threads ι κ σ μ ε α}
    (hw : w.Relies R Q bad) {t : ι} {o : Option α} (h : Advance w t o w')
    (hR : ∀ u, ∀ f ∈ w.disturbed t u, R f.call f.steps w.shared w'.shared) :
    w'.Relies R Q bad := by
  -- the calls that did not make the step
  have hothers : ∀ u, ∀ f ∈ w.disturbed t u,
      f.prog.Meets (R f.call) (Q f.call) bad f.steps w'.shared := by
    intro u f hf
    have hmem : f ∈ w.stack u := by
      unfold disturbed at hf
      split at hf
      · exact List.mem_of_mem_tail hf
      · exact hf
    exact (hw u f hmem).mono (hR u f hf)
  -- so it is enough to look at the one that did
  have htop : ∀ {f rest} top, w.stack t = f :: rest →
      (∀ g ∈ top, g.prog.Meets (R g.call) (Q g.call) bad g.steps w'.shared) →
      ∀ u, ∀ g ∈ Function.update w.stack t (top ++ rest) u,
        g.prog.Meets (R g.call) (Q g.call) bad g.steps w'.shared := by
    intro f rest top hstack htop u g hg
    rw [Function.update_apply] at hg
    split at hg
    · rcases List.mem_append.mp hg with hnew | hold
      · exact htop g hnew
      · apply hothers t
        rw [disturbed, if_pos rfl, hstack]
        exact hold
    · next hu =>
      apply hothers u
      rw [disturbed, if_neg hu]
      exact hg
  cases h with
  | @returns f rest a hstack hprog => exact htop [] hstack nofun
  | @locks f rest m next hstack hprog hfree =>
    have hf := hw t f (hstack ▸ List.mem_cons_self)
    rw [hprog] at hf
    exact htop [_] hstack (List.forall_mem_singleton.mpr hf)
  | @unlocks f rest m next hstack hprog howner =>
    have hf := hw t f (hstack ▸ List.mem_cons_self)
    rw [hprog] at hf
    exact htop [_] hstack (List.forall_mem_singleton.mpr hf)
  | @acts f rest β g next b s hstack hprog hok =>
    have hf := hw t f (hstack ▸ List.mem_cons_self)
    rw [hprog] at hf
    exact htop [_] hstack
      (List.forall_mem_singleton.mpr ((hf w.shared (refl_of _ _)).2 b s hok))

/-- A step does not fail for a `bad` reason. -/
theorem Relies.not_bad [∀ k steps, IsPreorder σ (R k steps)] {w : Threads ι κ σ μ ε α}
    (hw : w.Relies R Q bad) {t : ι} {e : ε} (h : w.advance t = .error (.fault e)) : ¬ bad e := by
  cases advance_eq_error_iff.mp h with
  | @fault f rest β g next _ hstack hprog herror =>
    have hf := hw t f (hstack ▸ List.mem_cons_self)
    rw [hprog] at hf
    exact (hf w.shared (refl_of _ _)).1 e herror

omit [DecidableEq ι] [DecidableEq μ] in
/-- A call that returns has its property. -/
theorem Relies.result {w : Threads ι κ σ μ ε α} (hw : w.Relies R Q bad) {t : ι}
    {f : Frame κ σ μ ε α} (hf : f ∈ w.stack t) {a : α} (hprog : f.prog = .ret a) :
    Q f.call a f.steps := by
  have h := hw t f hf
  rw [hprog] at h
  exact h

end Threads
