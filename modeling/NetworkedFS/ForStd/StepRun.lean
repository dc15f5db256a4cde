import Mathlib.Logic.Basic
import NetworkedFS.ForStd.Except

/-!
# Runs of partial step functions

A component whose operations may fail to return is a step function
`step : σ → α → Except ε (ω × σ)`: from a state and an operation it gives the
operation's output and the next state, or the reason why the call does not
return.  This file defines the run of a list of operations and the rules that
proofs about whole runs use:

- `Reachable.invariant`: what holds at first and is kept by every step holds in
  every reachable state;
- `forall_calls_iff`: when, under an invariant, a law of single calls is
  equivalent to a condition that keeps the invariant, the law holds along a
  whole run exactly when the condition does;
- `count_ledger`: what goes into a stock along a run, and what is still there at its end;
- `final_agree`, `outputs_agree`: two runs whose calls agree end in related states, and give
  back what looks the same;
- `Reachable.record`: what the states of a run have to do with a record of its calls.
-/

namespace StepRun

variable {σ α ε ω : Type*} (step : σ → α → Except ε (ω × σ))

/-- The calls of a run, each with the state it is made in.  A call that does not
    return is the last one of its run. -/
def calls : σ → List α → List (σ × α)
  | _, [] => []
  | s, a :: as => (s, a) :: match step s a with
    | .ok (_, s') => calls s' as
    | .error _ => []

/-- The states a run goes through, the first one included. -/
def visited : σ → List α → List σ
  | s, [] => [s]
  | s, a :: as => s :: match step s a with
    | .ok (_, s') => visited s' as
    | .error _ => []

/-- What the returning calls of a run give back, in order. -/
def outputs : σ → List α → List ω
  | _, [] => []
  | s, a :: as => match step s a with
    | .ok (o, s') => o :: outputs s' as
    | .error _ => []

/-- The last state a run reaches. -/
def final : σ → List α → σ
  | s, [] => s
  | s, a :: as => match step s a with
    | .ok (_, s') => final s' as
    | .error _ => s

/-- The states that some run from `init` reaches. -/
inductive Reachable (init : σ) : σ → Prop
  | init : Reachable init init
  | step {s : σ} {a : α} {o : ω} {s' : σ} :
      Reachable init s → step s a = .ok (o, s') → Reachable init s'

variable {step}

/-- An invariant of the steps holds in every reachable state. -/
theorem Reachable.invariant {I : σ → Prop} {init s : σ} (hs : Reachable step init s)
    (hinit : I init) (hstep : ∀ s a o s', I s → step s a = .ok (o, s') → I s') : I s := by
  induction hs with
  | init => exact hinit
  | step _ hok ih => exact hstep _ _ _ _ ih hok

/-- A run leads from reachable states to reachable states. -/
theorem Reachable.final {init s : σ} (hs : Reachable step init s) (as : List α) :
    Reachable step init (final step s as) := by
  induction as generalizing s with
  | nil => exact hs
  | cons a as ih =>
    simp only [StepRun.final]
    cases hok : step s a with
    -- a call that does not return leaves the run where it was
    | error e => exact hs
    | ok r => exact ih (hs.step hok)

/-- What each step from a state with the invariant `I` does to a state, a run does. -/
theorem final_of_steps {I : σ → Prop} {R : σ → σ → Prop} (hrefl : ∀ s, R s s)
    (htrans : ∀ s t u, R s t → R t u → R s u)
    (hstep : ∀ s a o s', I s → step s a = .ok (o, s') → I s' ∧ R s s') {s : σ} (hs : I s)
    (as : List α) : R s (final step s as) := by
  induction as generalizing s with
  | nil => exact hrefl s
  | cons a as ih =>
    simp only [final]
    cases hok : step s a with
    | error e => exact hrefl s
    | ok r =>
      obtain ⟨o, s'⟩ := r
      have hfirst := hstep s a o s' hs hok
      exact htrans s s' _ hfirst.2 (ih hfirst.1)

/-- The last state of a run is visited. -/
theorem final_mem_visited (s : σ) (as : List α) : final step s as ∈ visited step s as := by
  induction as generalizing s with
  | nil => exact List.mem_singleton_self s
  | cons a as ih =>
    simp only [final, visited]
    cases hok : step s a with
    | error e => exact List.mem_cons_self
    | ok r => exact List.mem_cons_of_mem _ (ih r.2)

/-- Two runs, call by call: where each pair of calls agrees, related states stay related. -/
theorem final_agree {β : Type*} {R : σ → σ → Prop} {f g : β → α}
    (hstep : ∀ s t b, R s t →
      Except.Agree (fun r r' => R r.2 r'.2) (step s (f b)) (step t (g b)))
    {s t : σ} (h : R s t) (bs : List β) :
    R (final step s (bs.map f)) (final step t (bs.map g)) := by
  induction bs generalizing s t with
  | nil => exact h
  | cons b bs ih =>
    simp only [List.map_cons, final]
    cases hstep s t b h with
    | inl hok =>
      obtain ⟨r, r', hs, ht, hR⟩ := hok
      simp only [hs, ht]
      exact ih hR
    -- neither call returns, so both runs end here
    | inr herror =>
      obtain ⟨e, hs, ht⟩ := herror
      simp only [hs, ht]
      exact h

/-- What two such runs give back looks the same, if what each pair of calls gives back does. -/
theorem outputs_agree {β ω' : Type*} {R : σ → σ → Prop} {f g : β → α} (see : ω → ω')
    (hstep : ∀ s t b, R s t →
      Except.Agree (fun r r' => see r.1 = see r'.1 ∧ R r.2 r'.2) (step s (f b)) (step t (g b)))
    {s t : σ} (h : R s t) (bs : List β) :
    (outputs step s (bs.map f)).map see = (outputs step t (bs.map g)).map see := by
  induction bs generalizing s t with
  | nil => rfl
  | cons b bs ih =>
    simp only [List.map_cons, outputs]
    cases hstep s t b h with
    | inl hok =>
      obtain ⟨r, r', hs, ht, hsee, hR⟩ := hok
      simp only [hs, ht, List.map_cons, hsee, ih hR]
    | inr herror =>
      obtain ⟨e, hs, ht⟩ := herror
      simp only [hs, ht]

/-- A property holds in every visited state when it holds at first and after
    every call that returns. -/
theorem forall_visited_iff {P : σ → Prop} (s : σ) (as : List α) :
    (∀ t ∈ visited step s as, P t) ↔
      P s ∧ ∀ c ∈ calls step s as, ∀ o s', step c.1 c.2 = .ok (o, s') → P s' := by
  induction as generalizing s with
  | nil => simp only [visited, calls, List.mem_singleton, forall_eq, List.not_mem_nil,
      false_implies, implies_true, and_true]
  | cons a as ih =>
    simp only [visited, calls, List.forall_mem_cons]
    cases hok : step s a with
    | error e => simp only [List.not_mem_nil, false_implies, implies_true, and_true, reduceCtorEq]
    | ok r =>
      obtain ⟨o, s'⟩ := r
      simp only [ih s']
      constructor
      · rintro ⟨hs, hs', hrest⟩
        refine ⟨hs, ?_, hrest⟩
        intro o₁ s₁ heq
        cases heq
        exact hs'
      · rintro ⟨hs, hfirst, hrest⟩
        exact ⟨hs, hfirst o s' rfl, hrest⟩

/-- What holds at first and is kept by every call that meets a condition holds throughout a
    run whose calls all meet it. -/
theorem forall_visited_of_calls {I : σ → Prop} {Cond : σ → α → Prop}
    (hkeep : ∀ s a o s', I s → Cond s a → step s a = .ok (o, s') → I s') {s : σ} (hs : I s)
    (as : List α) (hcond : ∀ c ∈ calls step s as, Cond c.1 c.2) :
    ∀ t ∈ visited step s as, I t := by
  induction as generalizing s with
  | nil => simpa only [visited, List.mem_singleton, forall_eq] using hs
  | cons a as ih =>
    simp only [calls, List.forall_mem_cons] at hcond
    simp only [visited, List.forall_mem_cons]
    refine ⟨hs, ?_⟩
    cases hok : step s a with
    | error e => simp only [List.not_mem_nil, false_implies, implies_true]
    | ok r =>
      obtain ⟨o, s'⟩ := r
      simp only [hok] at hcond
      exact ih (hkeep s a o s' hs hcond.1 hok) hcond.2

/-- The calls of a run are its first one, and those of the rest if that returns. -/
theorem forall_mem_calls_cons_iff {P : σ × α → Prop} (s : σ) (a : α) (as : List α) :
    (∀ c ∈ calls step s (a :: as), P c) ↔
      P (s, a) ∧ ∀ o s', step s a = .ok (o, s') → ∀ c ∈ calls step s' as, P c := by
  rw [calls, List.forall_mem_cons]
  cases hok : step s a with
  | error e => simp only [List.not_mem_nil, false_implies, implies_true, reduceCtorEq]
  | ok r =>
    apply and_congr_right
    intro _
    constructor
    · intro hrest o s' heq
      cases heq
      exact hrest
    · intro hrest
      exact hrest r.1 r.2 rfl

/-- The calls of a run are among the operations that it is a run of. -/
theorem mem_of_mem_calls {s : σ} {as : List α} {c : σ × α} (hc : c ∈ calls step s as) :
    c.2 ∈ as := by
  induction as generalizing s with
  | nil => exact absurd hc List.not_mem_nil
  | cons a as ih =>
    rcases List.mem_cons.mp hc with rfl | hrest
    · exact List.mem_cons_self
    · cases hok : step s a with
      | error e => simp only [hok, List.not_mem_nil] at hrest
      | ok r =>
        simp only [hok] at hrest
        exact List.mem_cons_of_mem a (ih hrest)

/-- The state that a call is made in is visited. -/
theorem mem_visited_of_mem_calls {s : σ} {as : List α} {c : σ × α} (hc : c ∈ calls step s as) :
    c.1 ∈ visited step s as := by
  induction as generalizing s with
  | nil => exact absurd hc List.not_mem_nil
  | cons a as ih =>
    rcases List.mem_cons.mp hc with rfl | hrest
    · exact List.mem_cons_self
    · cases hok : step s a with
      | error e => simp only [hok, List.not_mem_nil] at hrest
      | ok r =>
        simp only [hok] at hrest
        simp only [visited, hok]
        exact List.mem_cons_of_mem s (ih hrest)

/-- What such calls keep under a condition on the operations alone. -/
theorem forall_visited_of_ops {I : σ → Prop} {P : α → Prop}
    (hkeep : ∀ s a o s', I s → P a → step s a = .ok (o, s') → I s') {s : σ} (hs : I s)
    {as : List α} (has : ∀ a ∈ as, P a) : ∀ t ∈ visited step s as, I t :=
  forall_visited_of_calls hkeep hs as fun c hc => has c.2 (mem_of_mem_calls hc)

/-- What a call does under an invariant and a condition, each call does in a run whose calls all
    meet the condition. -/
theorem forall_calls_of_calls {I : σ → Prop} {C : σ → α → Prop} {Q : σ → α → ω × σ → Prop}
    (hstep : ∀ s a r, I s → C s a → step s a = .ok r → I r.2 ∧ Q s a r) {s : σ} (hs : I s)
    {as : List α} (hcond : ∀ c ∈ calls step s as, C c.1 c.2) :
    ∀ c ∈ calls step s as, ∀ r, step c.1 c.2 = .ok r → Q c.1 c.2 r := by
  intro c hc r hok
  have hkeep : ∀ s a o s', I s → C s a → step s a = .ok (o, s') → I s' :=
    fun s a o s' hs ha hok => (hstep s a (o, s') hs ha hok).1
  have hvisited := forall_visited_of_calls hkeep hs as hcond c.1 (mem_visited_of_mem_calls hc)
  exact (hstep c.1 c.2 r hvisited (hcond c hc) hok).2

/-- The same for a condition on the operations alone. -/
theorem forall_calls_of_ops {I : σ → Prop} {P : α → Prop} {Q : σ → α → ω × σ → Prop}
    (hstep : ∀ s a r, I s → P a → step s a = .ok r → I r.2 ∧ Q s a r) {s : σ} (hs : I s)
    {as : List α} (has : ∀ a ∈ as, P a) :
    ∀ c ∈ calls step s as, ∀ r, step c.1 c.2 = .ok r → Q c.1 c.2 r :=
  forall_calls_of_calls (C := fun _ a => P a) hstep hs fun c hc => has c.2 (mem_of_mem_calls hc)

/-- A condition on all states of a run may be used at every step: what holds at first, and
    after each call that leads to a state with `P`, holds throughout a run with `P`. -/
theorem forall_visited_of_step {I P : σ → Prop}
    (hstep : ∀ s a o s', I s → step s a = .ok (o, s') → P s' → I s') {s : σ} (hs : I s)
    (as : List α) (hP : ∀ t ∈ visited step s as, P t) : ∀ t ∈ visited step s as, I t := by
  induction as generalizing s with
  | nil => simpa only [visited, List.mem_singleton, forall_eq] using hs
  | cons a as ih =>
    simp only [visited, List.forall_mem_cons] at hP ⊢
    refine ⟨hs, ?_⟩
    cases hok : step s a with
    | error e => simp only [List.not_mem_nil, false_implies, implies_true]
    | ok r =>
      obtain ⟨o, s'⟩ := r
      simp only [hok] at hP
      have hs' : P s' := ((forall_visited_iff s' as).mp hP.2).1
      exact ih (hstep s a o s' hs hok hs') hP.2

/-- The states that a run goes through are reachable. -/
theorem Reachable.of_mem_visited {init s t : σ} (hs : Reachable step init s) {as : List α}
    (ht : t ∈ visited step s as) : Reachable step init t :=
  forall_visited_of_step (P := fun _ => True) (fun _ _ _ _ hs hok _ => hs.step hok) hs as
    (fun _ _ => trivial) t ht

/-- Along a run that starts under the invariant `I`, a law of single calls holds
    throughout exactly when a condition does, provided that the two are equivalent
    under `I` and that the condition keeps `I`. -/
theorem forall_calls_iff {I : σ → Prop} {Law Cond : σ → α → Prop}
    (hlaw : ∀ s a, I s → (Law s a ↔ Cond s a))
    (hkeep : ∀ s a o s', I s → Cond s a → step s a = .ok (o, s') → I s')
    {s : σ} (hs : I s) (as : List α) :
    (∀ c ∈ calls step s as, Law c.1 c.2) ↔ (∀ c ∈ calls step s as, Cond c.1 c.2) := by
  induction as generalizing s with
  | nil => simp only [calls, List.not_mem_nil, false_implies, implies_true]
  | cons a as ih =>
    simp only [calls, List.forall_mem_cons, hlaw s a hs]
    -- the rest of the run starts under `I`, as the first call met the condition
    apply and_congr_right
    intro hcond
    cases hok : step s a with
    | error e => simp only [List.not_mem_nil, false_implies, implies_true]
    | ok r =>
      obtain ⟨o, s'⟩ := r
      exact ih (hkeep s a o s' hs hcond hok)

/-- A ledger along a run: when each call adds to a stock what it gains and takes out what
    it loses, the calls that gain are as many as those that lose and what is left. -/
theorem count_ledger {I : σ → Prop} {Cond : σ → α → Prop} (gain loss : σ × α → Bool)
    (stock : σ → Nat)
    (hkeep : ∀ s a o s', I s → Cond s a → step s a = .ok (o, s') → I s')
    (hstep : ∀ s a o s', I s → Cond s a → step s a = .ok (o, s') →
      stock s + (if gain (s, a) then 1 else 0) = stock s' + if loss (s, a) then 1 else 0)
    (hstuck : ∀ s a e, step s a = .error e → gain (s, a) = false ∧ loss (s, a) = false)
    {s : σ} (hs : I s) (as : List α) (hcond : ∀ c ∈ calls step s as, Cond c.1 c.2) :
    stock s + (calls step s as).countP gain =
      stock (final step s as) + (calls step s as).countP loss := by
  induction as generalizing s with
  | nil => rfl
  | cons a as ih =>
    simp only [calls, List.forall_mem_cons] at hcond
    simp only [calls, final, List.countP_cons]
    cases hok : step s a with
    | error e =>
      -- a call that does not return is the last one and moves nothing
      obtain ⟨hgain, hloss⟩ := hstuck s a e hok
      simp only [hgain, hloss, List.countP_nil]
    | ok r =>
      obtain ⟨o, s'⟩ := r
      simp only [hok] at hcond
      -- the first call balances its own books, the rest does by induction
      have hfirst := hstep s a o s' hs hcond.1 hok
      have hrest := ih (hkeep s a o s' hs hcond.1 hok) hcond.2
      simp only
      omega

/-! ## Records -/

variable (step) in
/-- The steps together with a record of the calls, which no step reads. -/
def recorded {ρ : Type*} (note : α → ω → ρ → ρ) (c : σ × ρ) (a : α) :
    Except ε (ω × (σ × ρ)) :=
  match step c.1 a with
  | .ok (o, s') => .ok (o, (s', note a o c.2))
  | .error e => .error e

theorem recorded_eq_ok {ρ : Type*} {note : α → ω → ρ → ρ} {c c' : σ × ρ} {a : α} {o : ω}
    (h : recorded step note c a = .ok (o, c')) :
    step c.1 a = .ok (o, c'.1) ∧ c'.2 = note a o c.2 := by
  unfold recorded at h
  cases hok : step c.1 a with
  | error e =>
    rw [hok] at h
    cases h
  | ok r =>
    rw [hok] at h
    cases h
    exact ⟨rfl, rfl⟩

/-- A relation of states to records that holds at first and is kept by every step, in states
    with the invariant `I`, holds of every reachable state with the record of a run that
    leads to it. -/
theorem Reachable.record {ρ : Type*} {note : α → ω → ρ → ρ} {I : σ → Prop} {R : σ → ρ → Prop}
    {init : σ} {empty : ρ} {s : σ} {r : ρ}
    (hs : Reachable (recorded step note) (init, empty) (s, r))
    (hI : ∀ t, Reachable step init t → I t) (hinit : R init empty)
    (hstep : ∀ t r a o t', I t → R t r → step t a = .ok (o, t') → R t' (note a o r)) :
    Reachable step init s ∧ R s r := by
  apply hs.invariant (I := fun c => Reachable step init c.1 ∧ R c.1 c.2)
  · exact ⟨.init, hinit⟩
  · intro c a o c' hc hok
    obtain ⟨hstep', hnote⟩ := recorded_eq_ok hok
    refine ⟨hc.1.step hstep', ?_⟩
    rw [hnote]
    exact hstep c.1 c.2 a o c'.1 (hI c.1 hc.1) hc.2 hstep'

end StepRun
