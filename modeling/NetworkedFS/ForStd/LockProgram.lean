import Mathlib.Logic.Function.Basic
import Mathlib.Logic.Relation

/-!
# Threads that run programs with mutexes

A call is a program: a tree of steps, each of which locks or unlocks a mutex or acts on
the shared state.  Any number of threads run such calls, interleaved step by step.  Every
thread has a stack of calls, so that a call can be interrupted by another one, which has
to return before it goes on.

With each call the threads keep a record of the mutexes it has taken and not released
and of the steps in which it has acted on the shared state.  No step depends on the record.

## Key results

- `advance_eq_ok_iff`, `advance_eq_error_iff`: what one step of a thread does, and why it
  makes none;
- `LockProg.run_bind`: the sequential meaning of a program;
- `Alone.advance`, `Alone.fault`: a call that is the only one under way does what its program
  does sequentially.
-/

/-- The program of a call.  `σ` is the shared state, `μ` are the mutexes, `ε` the reasons
    why an action does not return, and `α` the results of calls. -/
inductive LockProg (σ μ ε α : Type) : Type 1 where
  | ret (result : α)
  | lock (m : μ) (next : LockProg σ μ ε α)
  | unlock (m : μ) (next : LockProg σ μ ε α)
  | act {β : Type} (f : σ → Except ε (β × σ)) (next : β → LockProg σ μ ε α)

namespace LockProg

variable {σ μ ε α β γ : Type}

/-- One program after the other. -/
protected def bind : LockProg σ μ ε α → (α → LockProg σ μ ε β) → LockProg σ μ ε β
  | .ret a, k => k a
  | .lock m next, k => .lock m (next.bind k)
  | .unlock m next, k => .unlock m (next.bind k)
  | .act f next, k => .act f fun b => (next b).bind k

instance : Monad (LockProg σ μ ε) where
  pure := .ret
  bind := .bind

/-- `m.lock()`. -/
def lockMutex (m : μ) : LockProg σ μ ε Unit := .lock m (.ret ())

/-- `m.unlock()`. -/
def unlockMutex (m : μ) : LockProg σ μ ε Unit := .unlock m (.ret ())

/-- An action on the shared state, without interruption. -/
def atomic (f : σ → Except ε (α × σ)) : LockProg σ μ ε α := .act f .ret

/-- Reads the shared state. -/
protected def read (f : σ → Except ε α) : LockProg σ μ ε α := atomic fun s => (f s).map (·, s)

@[simp] theorem pure_eq_ret (a : α) : (pure a : LockProg σ μ ε α) = .ret a := rfl

@[simp] theorem ret_bind (a : α) (k : α → LockProg σ μ ε β) : (.ret a >>= k) = k a := rfl

@[simp] theorem lock_bind (m : μ) (next : LockProg σ μ ε α) (k : α → LockProg σ μ ε β) :
    (.lock m next >>= k) = .lock m (next >>= k) := rfl

@[simp] theorem unlock_bind (m : μ) (next : LockProg σ μ ε α) (k : α → LockProg σ μ ε β) :
    (.unlock m next >>= k) = .unlock m (next >>= k) := rfl

@[simp] theorem act_bind (f : σ → Except ε (γ × σ)) (next : γ → LockProg σ μ ε α)
    (k : α → LockProg σ μ ε β) : (.act f next >>= k) = .act f fun c => next c >>= k := rfl

@[simp] theorem lockMutex_bind (m : μ) (k : Unit → LockProg σ μ ε α) :
    (lockMutex m >>= k) = .lock m (k ()) := rfl

@[simp] theorem unlockMutex_bind (m : μ) (k : Unit → LockProg σ μ ε α) :
    (unlockMutex m >>= k) = .unlock m (k ()) := rfl

@[simp] theorem atomic_bind (f : σ → Except ε (α × σ)) (k : α → LockProg σ μ ε β) :
    (atomic f >>= k) = .act f k := rfl

@[simp] theorem read_bind (f : σ → Except ε α) (k : α → LockProg σ μ ε β) :
    (LockProg.read f >>= k) = .act (fun s => (f s).map (·, s)) k := rfl

/-- What a program does when nothing else happens. -/
def run : LockProg σ μ ε α → σ → Except ε (α × σ)
  | .ret a, s => .ok (a, s)
  | .lock _ next, s => next.run s
  | .unlock _ next, s => next.run s
  | .act f next, s =>
    match f s with
    | .ok (b, s) => (next b).run s
    | .error e => .error e

/-- Two programs after each other run after each other. -/
theorem run_bind (p : LockProg σ μ ε α) (k : α → LockProg σ μ ε β) (s : σ) :
    (p >>= k).run s = p.run s >>= fun r => (k r.1).run r.2 := by
  induction p generalizing s with
  | ret a => rfl
  | lock m next ih => exact ih s
  | unlock m next ih => exact ih s
  | act f next ih =>
    show (LockProg.act f fun b => next b >>= k).run s = _
    simp only [run]
    cases f s with
    | error e => rfl
    | ok r => exact ih r.1 r.2

@[simp] theorem map_eq_bind (f : α → β) (p : LockProg σ μ ε α) :
    f <$> p = p >>= fun a => .ret (f a) := rfl

end LockProg

/-- A call under way: which call it is, the mutexes it has taken and not released, the
    shared state before and after each of its actions, the latest first, and the rest of
    its program. -/
structure Frame (κ σ μ ε α : Type) : Type 1 where
  call : κ
  held : List μ := []
  steps : List (σ × σ) := []
  prog : LockProg σ μ ε α

/-- The mutexes that the calls of a stack have taken. -/
def Frame.heldBy {κ σ μ ε α : Type} (stack : List (Frame κ σ μ ε α)) : List μ :=
  stack.flatMap Frame.held

@[simp] theorem Frame.heldBy_cons {κ σ μ ε α : Type} (f : Frame κ σ μ ε α)
    (rest : List (Frame κ σ μ ε α)) : heldBy (f :: rest) = f.held ++ heldBy rest := rfl

/-- The shared state, the thread that has locked each mutex, and the calls of each
    thread, the interrupting ones first. -/
structure Threads (ι κ σ μ ε α : Type) : Type 1 where
  shared : σ
  owner : μ → Option ι
  stack : ι → List (Frame κ σ μ ε α)

/-- Why a thread does not make a step. -/
inductive Halt (ε : Type) where
  /-- It has no call under way. -/
  | finished
  /-- The mutex that it locks is taken. -/
  | waiting
  /-- It unlocks a mutex that it has not locked. -/
  | unowned
  | fault (e : ε)
  deriving DecidableEq

namespace Threads

variable {ι κ σ μ ε α : Type}

/-- No call is under way. -/
def idle (shared : σ) : Threads ι κ σ μ ε α where
  shared := shared
  owner := fun _ => none
  stack := fun _ => []

variable [DecidableEq ι] [DecidableEq μ]

/-- A thread begins a call, on top of those it has under way. -/
def start (w : Threads ι κ σ μ ε α) (t : ι) (call : κ) (prog : LockProg σ μ ε α) :
    Threads ι κ σ μ ε α :=
  { w with stack := Function.update w.stack t ({ call, prog } :: w.stack t) }

/-- The next step of a thread, and the result of the call that it returns from. -/
def advance (w : Threads ι κ σ μ ε α) (t : ι) :
    Except (Halt ε) (Option α × Threads ι κ σ μ ε α) :=
  match w.stack t with
  | [] => .error .finished
  | f :: rest =>
    let goOn (f : Frame κ σ μ ε α) := Function.update w.stack t (f :: rest)
    match f.prog with
    | .ret a => .ok (some a, { w with stack := Function.update w.stack t rest })
    | .lock m next =>
      match w.owner m with
      | none => .ok (none, { w with
          owner := Function.update w.owner m (some t)
          stack := goOn { f with held := m :: f.held, prog := next } })
      | some _ => .error .waiting
    | .unlock m next =>
      if w.owner m = some t then .ok (none, { w with
        owner := Function.update w.owner m none
        stack := goOn { f with held := f.held.erase m, prog := next } })
      else .error .unowned
    | .act g next =>
      match g w.shared with
      | .ok (b, s) => .ok (none, { w with
          shared := s
          stack := goOn { f with steps := (w.shared, s) :: f.steps, prog := next b } })
      | .error e => .error (.fault e)

/-- What a step of a thread is: the call at the top of its stack returns, locks or unlocks
    a mutex, or acts. -/
inductive Advance (w : Threads ι κ σ μ ε α) (t : ι) : Option α → Threads ι κ σ μ ε α → Prop
  | returns {f : Frame κ σ μ ε α} {rest : List (Frame κ σ μ ε α)} {a : α}
      (hstack : w.stack t = f :: rest) (hprog : f.prog = .ret a) :
      Advance w t (some a) { w with stack := Function.update w.stack t rest }
  | locks {f : Frame κ σ μ ε α} {rest : List (Frame κ σ μ ε α)} {m : μ}
      {next : LockProg σ μ ε α} (hstack : w.stack t = f :: rest)
      (hprog : f.prog = .lock m next) (hfree : w.owner m = none) :
      Advance w t none { w with
        owner := Function.update w.owner m (some t)
        stack := Function.update w.stack t
          ({ f with held := m :: f.held, prog := next } :: rest) }
  | unlocks {f : Frame κ σ μ ε α} {rest : List (Frame κ σ μ ε α)} {m : μ}
      {next : LockProg σ μ ε α} (hstack : w.stack t = f :: rest)
      (hprog : f.prog = .unlock m next) (howner : w.owner m = some t) :
      Advance w t none { w with
        owner := Function.update w.owner m none
        stack := Function.update w.stack t
          ({ f with held := f.held.erase m, prog := next } :: rest) }
  | acts {f : Frame κ σ μ ε α} {rest : List (Frame κ σ μ ε α)} {β : Type}
      {g : σ → Except ε (β × σ)} {next : β → LockProg σ μ ε α} {b : β} {s : σ}
      (hstack : w.stack t = f :: rest) (hprog : f.prog = .act g next)
      (hok : g w.shared = .ok (b, s)) :
      Advance w t none { w with
        shared := s
        stack := Function.update w.stack t
          ({ f with steps := (w.shared, s) :: f.steps, prog := next b } :: rest) }

/-- Why a thread makes no step. -/
inductive Stops (w : Threads ι κ σ μ ε α) (t : ι) : Halt ε → Prop
  | finished (hstack : w.stack t = []) : Stops w t .finished
  | waiting {f : Frame κ σ μ ε α} {rest : List (Frame κ σ μ ε α)} {m : μ} {u : ι}
      {next : LockProg σ μ ε α} (hstack : w.stack t = f :: rest)
      (hprog : f.prog = .lock m next) (howner : w.owner m = some u) : Stops w t .waiting
  | unowned {f : Frame κ σ μ ε α} {rest : List (Frame κ σ μ ε α)} {m : μ}
      {next : LockProg σ μ ε α} (hstack : w.stack t = f :: rest)
      (hprog : f.prog = .unlock m next) (howner : w.owner m ≠ some t) : Stops w t .unowned
  | fault {f : Frame κ σ μ ε α} {rest : List (Frame κ σ μ ε α)} {β : Type}
      {g : σ → Except ε (β × σ)} {next : β → LockProg σ μ ε α} {e : ε}
      (hstack : w.stack t = f :: rest) (hprog : f.prog = .act g next)
      (herror : g w.shared = .error e) : Stops w t (.fault e)

/-- A thread makes a step of one of the four kinds, or has one of the four reasons for making
    none. -/
theorem advance_spec (w : Threads ι κ σ μ ε α) (t : ι) :
    match w.advance t with
    | .ok (o, w') => Advance w t o w'
    | .error halt => Stops w t halt := by
  unfold advance
  match hstack : w.stack t with
  | [] => exact Stops.finished hstack
  | f :: rest =>
    simp only
    -- the program at the top decides which kind it is
    match hprog : f.prog with
    | .ret a => exact Advance.returns hstack hprog
    | .lock m next =>
      simp only
      cases howner : w.owner m with
      | none => exact Advance.locks hstack hprog howner
      | some u => exact Stops.waiting hstack hprog howner
    | .unlock m next =>
      by_cases howner : w.owner m = some t
      · simp only [howner, if_true]
        exact Advance.unlocks hstack hprog howner
      · simp only [howner, if_false]
        exact Stops.unowned hstack hprog howner
    | .act g next =>
      simp only
      match hok : g w.shared with
      | .ok (b, s) => exact Advance.acts hstack hprog hok
      | .error e => exact Stops.fault hstack hprog hok

/-- Every step is of one of the four kinds. -/
theorem advance_eq_ok_iff {w w' : Threads ι κ σ μ ε α} {t : ι} {o : Option α} :
    w.advance t = .ok (o, w') ↔ Advance w t o w' := by
  constructor
  · intro h
    have hspec := w.advance_spec t
    rw [h] at hspec
    exact hspec
  · intro h
    cases h with
    | returns hstack hprog => simp only [advance, hstack, hprog]
    | locks hstack hprog hfree => simp only [advance, hstack, hprog, hfree]
    | unlocks hstack hprog howner => simp only [advance, hstack, hprog, howner, if_true]
    | acts hstack hprog hok => simp only [advance, hstack, hprog, hok]

/-- Every thread that makes no step has one of the four reasons. -/
theorem advance_eq_error_iff {w : Threads ι κ σ μ ε α} {t : ι} {halt : Halt ε} :
    w.advance t = .error halt ↔ Stops w t halt := by
  constructor
  · intro h
    have hspec := w.advance_spec t
    rw [h] at hspec
    exact hspec
  · intro h
    cases h with
    | finished hstack => simp only [advance, hstack]
    | waiting hstack hprog howner => simp only [advance, hstack, hprog, howner]
    | unowned hstack hprog howner => simp only [advance, hstack, hprog, howner, if_false]
    | fault hstack hprog herror => simp only [advance, hstack, hprog, herror]

/-! ## One call at a time -/

/-- No call is under way. -/
def AtRest (w : Threads ι κ σ μ ε α) : Prop := ∀ t, w.stack t = []

/-- One call is under way, and no other. -/
structure Alone (w : Threads ι κ σ μ ε α) (t : ι) (f : Frame κ σ μ ε α) : Prop where
  stack : w.stack t = [f]
  others : ∀ u, u ≠ t → w.stack u = []

omit [DecidableEq μ] in
theorem AtRest.start {w : Threads ι κ σ μ ε α} (h : w.AtRest) (t : ι) (call : κ)
    (prog : LockProg σ μ ε α) : (w.start t call prog).Alone t { call, prog } where
  stack := by simp only [Threads.start, Function.update_self, h t]
  others u hu := by simp only [Threads.start, Function.update_of_ne hu, h u]

omit [DecidableEq μ] in
/-- Only the thread with the call has something to do. -/
theorem Alone.eq_of_stack {w : Threads ι κ σ μ ε α} {t u : ι} {f g : Frame κ σ μ ε α}
    {rest : List (Frame κ σ μ ε α)} (h : w.Alone t f) (hstack : w.stack u = g :: rest) :
    u = t ∧ g = f ∧ rest = [] := by
  by_cases hu : u = t
  · subst hu
    rw [h.stack] at hstack
    cases hstack
    exact ⟨rfl, rfl, rfl⟩
  · rw [h.others u hu] at hstack
    cases hstack

omit [DecidableEq μ] in
/-- The call is the only one still. -/
theorem Alone.update {w : Threads ι κ σ μ ε α} {t : ι} {f : Frame κ σ μ ε α} (h : w.Alone t f)
    (shared : σ) (owner : μ → Option ι) (f' : Frame κ σ μ ε α) :
    Alone ⟨shared, owner, Function.update w.stack t [f']⟩ t f' where
  stack := Function.update_self t [f'] w.stack
  others u hu := (Function.update_of_ne hu [f'] w.stack).trans (h.others u hu)

/-- A step of a call that is alone leaves what the rest of its program does; when it returns,
    it gives back what the program gives. -/
theorem Alone.advance {w w' : Threads ι κ σ μ ε α} {t u : ι} {f : Frame κ σ μ ε α}
    {o : Option α} (h : w.Alone t f) (hadvance : Advance w u o w') :
    match o with
    | some a => w'.AtRest ∧ f.prog.run w.shared = .ok (a, w'.shared)
    | none => ∃ f', w'.Alone t f' ∧ f'.prog.run w'.shared = f.prog.run w.shared := by
  cases hadvance with
  | returns hstack hprog =>
    obtain ⟨rfl, rfl, rfl⟩ := h.eq_of_stack hstack
    refine ⟨fun v => ?_, by rw [hprog]; rfl⟩
    by_cases hv : v = u
    · rw [hv]
      exact Function.update_self u [] w.stack
    · exact (Function.update_of_ne hv [] w.stack).trans (h.others v hv)
  | locks hstack hprog hfree =>
    obtain ⟨rfl, rfl, rfl⟩ := h.eq_of_stack hstack
    exact ⟨_, h.update _ _ _, by rw [hprog]; rfl⟩
  | unlocks hstack hprog howner =>
    obtain ⟨rfl, rfl, rfl⟩ := h.eq_of_stack hstack
    exact ⟨_, h.update _ _ _, by rw [hprog]; rfl⟩
  | acts hstack hprog hok =>
    obtain ⟨rfl, rfl, rfl⟩ := h.eq_of_stack hstack
    refine ⟨_, h.update _ _ _, ?_⟩
    rw [hprog]
    simp only [LockProg.run, hok]

omit [DecidableEq μ] in
/-- A fault of a call that is alone is one of its program. -/
theorem Alone.fault {w : Threads ι κ σ μ ε α} {t u : ι} {f : Frame κ σ μ ε α} {e : ε}
    (h : w.Alone t f) (hstops : Stops w u (.fault e)) : f.prog.run w.shared = .error e := by
  cases hstops with
  | fault hstack hprog herror =>
    obtain ⟨rfl, rfl, rfl⟩ := h.eq_of_stack hstack
    rw [hprog]
    simp only [LockProg.run, herror]

end Threads
