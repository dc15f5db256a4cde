import Mathlib.Data.Set.Finite.Lemmas
import Mathlib.Order.Defs.Unbundled
import NetworkedFS.ForStd.LockProgram

/-!
# Deadlock freedom from a lock order

When every thread locks a mutex only if it ranks above those that the thread has locked
and not unlocked, in interrupted calls too, no state has all its threads wait for each
other.

What a program locks may depend on what it reads.  So the rule for programs (`Ordered`)
speaks of a state of the shared data, and allows other threads to change that state by
steps that are in a relation `R`.

## Key results

- `LockInv.start`, `LockInv.advance`: steps keep the invariant of lock-ordered threads;
- `LockInv.not_deadlocked`: under the invariant there is no deadlock;
- `LockInv.run`: a thread that is alone ends its call, and does what the program does
  sequentially.
-/

variable {ι κ σ μ ε α β : Type} [DecidableEq μ]

namespace LockProg

/-- From a state of the shared data on, a program that holds the mutexes `held` locks only
    mutexes that rank above those and above the mutexes `base` of interrupted calls, and
    unlocks only what it holds.  It acts by steps in `R`, while other threads may do so
    too, and ends with `Q`. -/
def Ordered (rank : μ → Nat) (R : σ → σ → Prop) (base : List μ) (Q : α → List μ → σ → Prop) :
    List μ → σ → LockProg σ μ ε α → Prop
  | held, s, .ret a => Q a held s
  | held, s, .lock m next =>
    (∀ x ∈ held ++ base, rank x < rank m) ∧ Ordered rank R base Q (m :: held) s next
  | held, s, .unlock m next => m ∈ held ∧ Ordered rank R base Q (held.erase m) s next
  | held, s, .act f next => ∀ s₁, R s s₁ → ∀ b s₂, f s₁ = .ok (b, s₂) →
    R s₁ s₂ ∧ Ordered rank R base Q held s₂ (next b)

/-- An ordered call gives back what it has locked. -/
abbrev OrderedCall (rank : μ → Nat) (R : σ → σ → Prop) (base held : List μ) (s : σ)
    (p : LockProg σ μ ε α) : Prop :=
  p.Ordered rank R base (fun _ held _ => held = []) held s

variable {rank : μ → Nat} {R : σ → σ → Prop} {base : List μ}

/-- Of two programs in a row, the first one has to lead to where the second is ordered. -/
theorem ordered_bind {Q : β → List μ → σ → Prop} {held : List μ} {s : σ}
    {p : LockProg σ μ ε α} {k : α → LockProg σ μ ε β} :
    (p >>= k).Ordered rank R base Q held s ↔
      p.Ordered rank R base (fun a held s => (k a).Ordered rank R base Q held s) held s := by
  induction p generalizing held s with
  | ret a => rfl
  | lock m next ih => exact and_congr_right fun _ => ih
  | unlock m next ih => exact and_congr_right fun _ => ih
  | act f next ih =>
    exact forall₂_congr fun s₁ _ => forall₃_congr fun b s₂ _ => and_congr_right fun _ => ih b

/-- A weaker end. -/
theorem Ordered.imp {Q Q' : α → List μ → σ → Prop} {held : List μ} {s : σ}
    {p : LockProg σ μ ε α} (h : p.Ordered rank R base Q held s)
    (hQ : ∀ a held s, Q a held s → Q' a held s) : p.Ordered rank R base Q' held s := by
  induction p generalizing held s with
  | ret a => exact hQ a held s h
  | lock m next ih => exact ⟨h.1, ih h.2⟩
  | unlock m next ih => exact ⟨h.1, ih h.2⟩
  | act f next ih =>
    intro s₁ h₁ b s₂ hok
    exact ⟨(h s₁ h₁ b s₂ hok).1, ih b (h s₁ h₁ b s₂ hok).2⟩

/-- Changing the result of a call locks nothing. -/
theorem OrderedCall.map {held : List μ} {s : σ} {p : LockProg σ μ ε α}
    (h : p.OrderedCall rank R base held s) (f : α → β) :
    (f <$> p).OrderedCall rank R base held s :=
  ordered_bind.mpr (h.imp fun _ _ _ hend => hend)

/-- A critical section: what follows it holds the same mutexes as before. -/
theorem ordered_section {Q : α → List μ → σ → Prop} {held : List μ} {s : σ} {m : μ}
    {f : σ → Except ε (β × σ)} {next : β → LockProg σ μ ε α}
    (hm : ∀ x ∈ held ++ base, rank x < rank m)
    (hnext : ∀ s₁, R s s₁ → ∀ b s₂, f s₁ = .ok (b, s₂) →
      R s₁ s₂ ∧ (next b).Ordered rank R base Q held s₂) :
    (LockProg.lock m (.act f fun b => .unlock m (next b))).Ordered rank R base Q held s := by
  refine ⟨hm, fun s₁ h₁ b s₂ hok => ⟨(hnext s₁ h₁ b s₂ hok).1, List.mem_cons_self, ?_⟩⟩
  rw [List.erase_cons_head]
  exact (hnext s₁ h₁ b s₂ hok).2

/-- Other threads do not spoil the order of a program. -/
theorem OrderedCall.mono [IsTrans σ R] {held : List μ} {s s' : σ} {p : LockProg σ μ ε α}
    (h : p.OrderedCall rank R base held s) (hs : R s s') :
    p.OrderedCall rank R base held s' := by
  induction p generalizing held s with
  | ret a => exact h
  | lock m next ih => exact ⟨h.1, ih h.2 hs⟩
  | unlock m next ih => exact ⟨h.1, ih h.2 hs⟩
  | act f next ih =>
    intro s₁ h₁
    exact h s₁ (IsTrans.trans s s' s₁ hs h₁)

end LockProg

namespace Threads

/-- A thread waits for a mutex. -/
def Waiting [DecidableEq ι] (w : Threads ι κ σ μ ε α) (t : ι) : Prop :=
  w.advance t = .error .waiting

/-- Some calls are under way, and all threads that have one wait for a mutex. -/
def Deadlocked [DecidableEq ι] (w : Threads ι κ σ μ ε α) : Prop :=
  (∃ t, w.stack t ≠ []) ∧ ∀ t, w.stack t ≠ [] → w.Waiting t

/-- The calls of a thread are ordered, each one above the mutexes of those below it. -/
def Stacked (rank : μ → Nat) (R : σ → σ → Prop) (s : σ) : List (Frame κ σ μ ε α) → Prop
  | [] => True
  | f :: rest =>
    f.prog.OrderedCall rank R (Frame.heldBy rest) f.held s ∧ Stacked rank R s rest

/-- All threads are lock-ordered, and a mutex belongs to the thread with the call that has
    taken it. -/
structure LockInv (rank : μ → Nat) (R : σ → σ → Prop) (w : Threads ι κ σ μ ε α) : Prop where
  stacked : ∀ t, Stacked rank R w.shared (w.stack t)
  owner_iff : ∀ m t, w.owner m = some t ↔ m ∈ Frame.heldBy (w.stack t)
  nodup : ∀ t, (Frame.heldBy (w.stack t)).Nodup

variable {rank : μ → Nat} {R : σ → σ → Prop}

/-- What the calls of a stack rely on goes on holding. -/
theorem Stacked.mono [IsTrans σ R] {s s' : σ} {stack : List (Frame κ σ μ ε α)}
    (h : Stacked rank R s stack) (hs : R s s') : Stacked rank R s' stack := by
  induction stack with
  | nil => trivial
  | cons f rest ih => exact ⟨h.1.mono hs, ih h.2⟩

/-- Threads without calls are ordered. -/
theorem lockInv_idle (shared : σ) :
    LockInv rank R (Threads.idle shared : Threads ι κ σ μ ε α) where
  stacked _ := trivial
  owner_iff m t := by simp [idle, Frame.heldBy]
  nodup _ := List.nodup_nil

/-- A mutex that is free is held by nobody. -/
theorem LockInv.not_mem_of_free {w : Threads ι κ σ μ ε α} (hw : LockInv rank R w) {m : μ}
    (hm : w.owner m = none) (t : ι) : m ∉ Frame.heldBy (w.stack t) := by
  rw [← hw.owner_iff m t, hm]
  nofun

/-- A call that returns has given back what it has taken. -/
theorem LockInv.held_eq_nil {w : Threads ι κ σ μ ε α} (hw : LockInv rank R w) {t : ι}
    {f : Frame κ σ μ ε α} {rest : List (Frame κ σ μ ε α)} {a : α} (hstack : w.stack t = f :: rest)
    (hprog : f.prog = .ret a) : f.held = [] := by
  obtain ⟨hcall, -⟩ := hstack ▸ hw.stacked t
  rw [hprog] at hcall
  exact hcall

variable [DecidableEq ι]

/-- A call keeps the invariant if it is ordered above what its thread has locked. -/
theorem LockInv.start {w : Threads ι κ σ μ ε α} (hw : LockInv rank R w) {t : ι} {call : κ}
    {p : LockProg σ μ ε α}
    (hp : p.OrderedCall rank R (Frame.heldBy (w.stack t)) [] w.shared) :
    LockInv rank R (w.start t call p) := by
  have hheld : ∀ u, Frame.heldBy ((w.start t call p).stack u) = Frame.heldBy (w.stack u) := by
    intro u
    simp only [Threads.start, Function.update_apply]
    split
    · next hu =>
      rw [hu]
      rfl
    · rfl
  refine ⟨fun u => ?_, fun m u => ?_, fun u => ?_⟩
  · simp only [Threads.start, Function.update_apply]
    split
    · exact ⟨hp, hw.stacked t⟩
    · exact hw.stacked u
  · rw [hheld]
    exact hw.owner_iff m u
  · rw [hheld]
    exact hw.nodup u

/-- The invariant after a change of one thread's calls. -/
private theorem LockInv.update [IsTrans σ R] {w : Threads ι κ σ μ ε α} (hw : LockInv rank R w)
    {t : ι} {s : σ} {owner : μ → Option ι} {stack : List (Frame κ σ μ ε α)}
    (hs : R w.shared s) (hstacked : Stacked rank R s stack)
    (hown : ∀ m, owner m = some t ↔ m ∈ Frame.heldBy stack)
    (hother : ∀ m u, u ≠ t → (owner m = some u ↔ w.owner m = some u))
    (hnodup : (Frame.heldBy stack).Nodup) :
    LockInv rank R { shared := s, owner, stack := Function.update w.stack t stack } := by
  refine ⟨fun u => ?_, fun m u => ?_, fun u => ?_⟩
  all_goals
    simp only [Function.update_apply]
    split
  · exact hstacked
  · exact (hw.stacked u).mono hs
  · next hu => exact hu ▸ hown m
  · next hu => rw [hother m u hu, hw.owner_iff]
  · exact hnodup
  · exact hw.nodup u

/-- Every step of a thread keeps the invariant, and acts in `R`. -/
theorem LockInv.advance [IsPreorder σ R] {w w' : Threads ι κ σ μ ε α} (hw : LockInv rank R w)
    {t : ι} {o : Option α} (h : Advance w t o w') :
    LockInv rank R w' ∧ R w.shared w'.shared := by
  have hrefl : R w.shared w.shared := refl_of R w.shared
  cases h with
  | @returns f rest a hstack hprog =>
    obtain ⟨hcall, hrest⟩ := hstack ▸ hw.stacked t
    rw [hprog] at hcall
    have hempty : f.held = [] := hcall
    -- the call has nothing to give back
    have hheld : Frame.heldBy (w.stack t) = Frame.heldBy rest := by
      rw [hstack, Frame.heldBy_cons, hempty, List.nil_append]
    exact ⟨hw.update hrefl hrest (fun m => hheld ▸ hw.owner_iff m t) (fun _ _ _ => Iff.rfl)
      (hheld ▸ hw.nodup t), hrefl⟩
  | @locks f rest m next hstack hprog hfree =>
    obtain ⟨hcall, hrest⟩ := hstack ▸ hw.stacked t
    rw [hprog] at hcall
    have hheld : Frame.heldBy (w.stack t) = f.held ++ Frame.heldBy rest := by rw [hstack]; rfl
    have hnew : m ∉ f.held ++ Frame.heldBy rest := hheld ▸ hw.not_mem_of_free hfree t
    have hnodup : (f.held ++ Frame.heldBy rest).Nodup := hheld ▸ hw.nodup t
    -- the owner of the mutex is now the thread, and nothing else has changed
    refine ⟨hw.update hrefl ⟨hcall.2, hrest⟩ (fun x => ?_) (fun x u hu => ?_) ?_, hrefl⟩
    · rw [Function.update_apply, Frame.heldBy_cons, List.cons_append, List.mem_cons, ← hheld,
        ← hw.owner_iff]
      split
      · next hx => simp [hx]
      · next hx => simp [hx]
    -- no other thread has it
    · rw [Function.update_apply]
      split
      · next hx =>
        rw [hx, hfree]
        simp [hu.symm]
      · rfl
    · exact List.nodup_cons.mpr ⟨hnew, hnodup⟩
  | @unlocks f rest m next hstack hprog howner =>
    obtain ⟨hcall, hrest⟩ := hstack ▸ hw.stacked t
    rw [hprog] at hcall
    have hheld : Frame.heldBy (w.stack t) = f.held ++ Frame.heldBy rest := by rw [hstack]; rfl
    -- the call gives back a mutex of its own, not one of a call below it
    have herase : f.held.erase m ++ Frame.heldBy rest = (Frame.heldBy (w.stack t)).erase m := by
      rw [hheld, List.erase_append_left _ hcall.1]
    refine ⟨hw.update hrefl ⟨hcall.2, hrest⟩ (fun x => ?_) (fun x u hu => ?_) ?_, hrefl⟩
    · rw [Function.update_apply, Frame.heldBy_cons, herase, (hw.nodup t).mem_erase_iff,
        ← hw.owner_iff]
      split
      · next hx => simp [hx]
      · next hx => simp [hx]
    -- no other thread had it
    · rw [Function.update_apply]
      split
      · next hx =>
        rw [hx, howner]
        simp [hu.symm]
      · rfl
    · rw [Frame.heldBy_cons, herase]
      exact (hw.nodup t).erase m
  | @acts f rest β g next b s hstack hprog hok =>
    obtain ⟨hcall, hrest⟩ := hstack ▸ hw.stacked t
    rw [hprog] at hcall
    -- the step keeps what the other calls rely on
    obtain ⟨hs, hnext⟩ := hcall w.shared hrefl b s hok
    have hheld : Frame.heldBy (w.stack t) = f.held ++ Frame.heldBy rest := by rw [hstack]; rfl
    have hnodup : (f.held ++ Frame.heldBy rest).Nodup := hheld ▸ hw.nodup t
    exact ⟨hw.update hs ⟨hnext, hrest.mono hs⟩ (fun x => by rw [hw.owner_iff, hheld]; rfl)
      (fun _ _ _ => Iff.rfl) hnodup, hs⟩

/-- What a waiting thread waits for belongs to a thread with a call under way, and ranks
    above all that the waiting thread has locked. -/
theorem LockInv.waiting {w : Threads ι κ σ μ ε α} (hw : LockInv rank R w) {t : ι}
    (h : w.Waiting t) : ∃ m u, m ∈ Frame.heldBy (w.stack u) ∧
      ∀ x ∈ Frame.heldBy (w.stack t), rank x < rank m := by
  cases advance_eq_error_iff.mp h with
  | @waiting f rest m u next hstack hprog howner =>
    obtain ⟨hcall, -⟩ := hstack ▸ hw.stacked t
    rw [hprog] at hcall
    refine ⟨m, u, (hw.owner_iff m u).mp howner, fun x hx => hcall.1 x ?_⟩
    rw [hstack] at hx
    exact hx

/-- Lock-ordered threads are not deadlocked. -/
theorem LockInv.not_deadlocked [Finite μ] {w : Threads ι κ σ μ ε α} (hw : LockInv rank R w) :
    ¬ w.Deadlocked := by
  rintro ⟨⟨t, ht⟩, hall⟩
  have hunfinished : ∀ {m u}, m ∈ Frame.heldBy (w.stack u) → w.stack u ≠ [] := by
    intro m u hm hempty
    rw [hempty] at hm
    cases hm
  -- from a mutex that is waited for, its holder leads to one of a greater rank
  obtain ⟨m, u, hm, -⟩ := hw.waiting (hall t ht)
  obtain ⟨x, ⟨v, hx⟩, hmax⟩ := Set.exists_max_image {m | ∃ u, m ∈ Frame.heldBy (w.stack u)} rank
    (Set.toFinite _) ⟨m, u, hm⟩
  obtain ⟨y, v', hy, hlt⟩ := hw.waiting (hall v (hunfinished hx))
  exact absurd (hmax y ⟨v', hy⟩) (Nat.not_le.mpr (hlt x hx))

/-- Lock-ordered threads unlock only what is theirs. -/
theorem LockInv.not_unowned {w : Threads ι κ σ μ ε α} (hw : LockInv rank R w) (t : ι) :
    w.advance t ≠ .error .unowned := by
  intro h
  cases advance_eq_error_iff.mp h with
  | @unowned f rest m next hstack hprog howner =>
    obtain ⟨hcall, -⟩ := hstack ▸ hw.stacked t
    rw [hprog] at hcall
    apply howner
    rw [hw.owner_iff, hstack]
    exact List.mem_append_left _ hcall.1

/-! ## A thread that is alone -/

omit [DecidableEq ι] in
/-- When no call is under way any more, nothing is locked. -/
theorem LockInv.eq_idle {w : Threads ι κ σ μ ε α} (hw : LockInv rank R w)
    (hstack : ∀ t, w.stack t = []) : w = idle w.shared := by
  have howner : w.owner = fun _ => none := by
    funext m
    cases h : w.owner m with
    | none => rfl
    | some t =>
      have hm := (hw.owner_iff m t).mp h
      rw [hstack] at hm
      cases hm
  obtain ⟨shared, owner, stack⟩ := w
  cases howner
  rw [show stack = fun _ => [] from funext hstack]
  rfl

omit [DecidableEq ι] in
/-- A thread that is alone does not find a mutex locked. -/
theorem LockInv.free_of_alone {w : Threads ι κ σ μ ε α} (hw : LockInv rank R w) {t : ι}
    {f : Frame κ σ μ ε α} (hstack : w.stack t = [f]) (halone : ∀ u, u ≠ t → w.stack u = [])
    {m : μ} {next : LockProg σ μ ε α} (hprog : f.prog = .lock m next) : w.owner m = none := by
  cases howner : w.owner m with
  | none => rfl
  | some u =>
    have hm := (hw.owner_iff m u).mp howner
    by_cases hu : u = t
    · -- the thread's own mutexes rank below the one it locks
      obtain ⟨hcall, -⟩ := hstack ▸ hw.stacked t
      rw [hprog] at hcall
      rw [hu, hstack] at hm
      exact absurd (hcall.1 m hm) (Nat.lt_irrefl _)
    · rw [halone u hu] at hm
      cases hm

/-- A thread that is alone with one call ends it, and does what its program does
    sequentially. -/
theorem LockInv.run [IsPreorder σ R] {w : Threads ι κ σ μ ε α} (hw : LockInv rank R w) {t : ι}
    {f : Frame κ σ μ ε α} (hstack : w.stack t = [f]) (halone : ∀ u, u ≠ t → w.stack u = [])
    {a : α} {s : σ} (hrun : f.prog.run w.shared = .ok (a, s)) :
    Relation.ReflTransGen (fun w w' => ∃ o, w.advance t = .ok (o, w')) w (idle s) := by
  obtain ⟨call, held, steps, p⟩ := f
  -- the other threads stay without calls
  have hothers : ∀ {v : Threads ι κ σ μ ε α} {l}, (∀ u, u ≠ t → v.stack u = []) →
      ∀ u, u ≠ t → Function.update v.stack t l u = [] := by
    intro v l hv u hu
    rw [Function.update_of_ne hu, hv u hu]
  induction p generalizing w held steps with
  | ret b =>
    cases hrun
    have h := Advance.returns hstack rfl
    refine .head ⟨_, advance_eq_ok_iff.mpr h⟩ ?_
    rw [(hw.advance h).1.eq_idle fun u => ?_]
    by_cases hu : u = t
    · rw [hu]
      exact Function.update_self ..
    · exact hothers halone u hu
  | lock m next ih =>
    have h := Advance.locks hstack rfl (hw.free_of_alone hstack halone rfl)
    exact .head ⟨_, advance_eq_ok_iff.mpr h⟩
      (ih (hw.advance h).1 (hothers halone) _ _ (Function.update_self ..) hrun)
  | unlock m next ih =>
    have howner : w.owner m = some t := by
      obtain ⟨hcall, -⟩ := hstack ▸ hw.stacked t
      rw [hw.owner_iff, hstack]
      exact List.mem_append_left _ hcall.1
    have h := Advance.unlocks hstack rfl howner
    exact .head ⟨_, advance_eq_ok_iff.mpr h⟩
      (ih (hw.advance h).1 (hothers halone) _ _ (Function.update_self ..) hrun)
  | act g next ih =>
    simp only [LockProg.run] at hrun
    cases hok : g w.shared with
    | error e =>
      simp only [hok] at hrun
      cases hrun
    | ok r =>
      obtain ⟨b, s'⟩ := r
      simp only [hok] at hrun
      have h := Advance.acts hstack rfl hok
      exact .head ⟨_, advance_eq_ok_iff.mpr h⟩
        (ih b (hw.advance h).1 (hothers halone) _ _ (Function.update_self ..) hrun)

/-- An ordered call that starts when nothing else is under way ends, and does what its
    program does sequentially. -/
theorem run_of_orderedCall [IsPreorder σ R] (t : ι) (call : κ) {p : LockProg σ μ ε α} {s s' : σ}
    {a : α} (hp : p.OrderedCall rank R [] [] s) (hrun : p.run s = .ok (a, s')) :
    Relation.ReflTransGen (fun w w' => ∃ o, w.advance t = .ok (o, w'))
      ((idle s : Threads ι κ σ μ ε α).start t call p) (idle s') := by
  have hidle : LockInv rank R (idle s : Threads ι κ σ μ ε α) := lockInv_idle s
  have hw : LockInv rank R ((idle s : Threads ι κ σ μ ε α).start t call p) := hidle.start hp
  refine hw.run (Function.update_self ..) ?_ hrun
  intro u hu
  exact Function.update_of_ne hu ..

end Threads
