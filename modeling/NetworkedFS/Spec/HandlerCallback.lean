import NetworkedFS.Native.Handler

/-!
# What a callback runs

A flag, a pointer and a bound function of `handler_callback` say together which function is
installed and whether its arguments can be replaced.  `Holds` relates the three to the
function that was installed last, and every call but one keeps it: the constructor clears
the flag for a function that is not null although it stores no pointer, so that
`setParameters` binds an indeterminate one.

## Key results

- `Holds.call`: what a call does to a callback that holds an installed function;
- `Holds.calls`: what any sequence of calls does;
- `faithful_iff`: the callbacks that run what was installed last.
-/

namespace NetworkedFS

namespace HandlerCallback

variable {Fn Args : Type}

/-- The calls that set a callback. -/
inductive Call (Fn Args : Type) where
  | setFunction (functionPointer : Option Fn) (args : Args)
  | setBoundOrFreeFunction (functionPointer : FormattedFunction Fn Args)
  | setParameters (args : Args)
  deriving DecidableEq, Repr

def call (h : HandlerCallback Fn Args) : Call Fn Args → Except Fault (HandlerCallback Fn Args)
  | .setFunction f a => .ok (h.setFunction f a)
  | .setBoundOrFreeFunction f => .ok (h.setBoundOrFreeFunction f)
  | .setParameters a => h.setParameters a

def calls (h : HandlerCallback Fn Args) (cs : List (Call Fn Args)) :
    Except Fault (HandlerCallback Fn Args) :=
  cs.foldlM call h

/-! ## The installed function -/

/-- The function that was installed last. -/
inductive Installed (Fn Args : Type) where
  /-- It came without arguments, or bound to them already. -/
  | given (function : FormattedFunction Fn Args)
  /-- It came with the arguments that were supplied last. -/
  | unbound (functionPointer : Option Fn) (args : Args)
  deriving DecidableEq, Repr

namespace Installed

def after : Installed Fn Args → Call Fn Args → Installed Fn Args
  | _, .setFunction f a => .unbound f a
  | _, .setBoundOrFreeFunction f => .given f
  | .unbound f _, .setParameters a => .unbound f a
  | .given f, .setParameters _ => .given f

/-- After a sequence of calls on a callback constructed with `first`. -/
def last (first : FormattedFunction Fn Args) (cs : List (Call Fn Args)) : Installed Fn Args :=
  cs.foldl after (.given first)

def function : Installed Fn Args → FormattedFunction Fn Args
  | .given f => f
  | .unbound f a => .bound f a

/-- The invocation of the installed function with its arguments, if there is a function. -/
def invocation (i : Installed Fn Args) : Option (Invocation Fn Args) :=
  match i.function with
  | .empty => none
  | .free f => some (.free f)
  | .bound f a => f.map fun f => .bound f a

/-- A null pointer was bound to arguments. -/
def BindsNull (i : Installed Fn Args) : Prop := ∃ a, i.function = .bound none a

end Installed

/-- The three fields of a callback say that a function is installed. -/
inductive Holds : HandlerCallback Fn Args → Installed Fn Args → Prop
  | given (pointer : Option (Option Fn)) (f : FormattedFunction Fn Args) :
    Holds ⟨true, pointer, f⟩ (.given f)
  | unbound (f : Option Fn) (a : Args) : Holds ⟨false, some f, .bound f a⟩ (.unbound f a)

/-- A callback constructed with a null function. -/
theorem holds_construct : (construct .empty : HandlerCallback Fn Args).Holds (.given .empty) :=
  .given none .empty

theorem holds_setFunction (h : HandlerCallback Fn Args) (f : Option Fn) (a : Args) :
    (h.setFunction f a).Holds (.unbound f a) :=
  .unbound f a

theorem holds_setBoundOrFreeFunction (h : HandlerCallback Fn Args)
    (f : FormattedFunction Fn Args) : (h.setBoundOrFreeFunction f).Holds (.given f) :=
  .given h.unboundFunctionPointer f

/-- A callback holds what it runs. -/
theorem Holds.formattedFunction {h : HandlerCallback Fn Args} {i : Installed Fn Args}
    (hi : h.Holds i) : h.formattedFunction = i.function := by
  cases hi with
  | given pointer f => rfl
  | unbound f a => rfl

/-- The function of a callback with a clear flag is the stored pointer. -/
theorem Holds.pointer {h : HandlerCallback Fn Args} {i : Installed Fn Args} (hi : h.Holds i)
    (hflag : h.functionParameterFree = false) :
    ∃ f a, i = .unbound f a ∧ h.unboundFunctionPointer = some f := by
  cases hi with
  | given pointer f => cases hflag
  | unbound f a => exact ⟨f, a, rfl, rfl⟩

/-- Only the assertion of `setParameters` can stop a call, and what returns holds the
    function that is installed then. -/
theorem Holds.call {h : HandlerCallback Fn Args} {i : Installed Fn Args} (hi : h.Holds i)
    {c : Call Fn Args} (hassert : h.call c ≠ .error .assertion) :
    ∃ h', h.call c = .ok h' ∧ h'.Holds (i.after c) := by
  cases c with
  | setFunction f a => exact ⟨_, rfl, holds_setFunction h f a⟩
  | setBoundOrFreeFunction f => exact ⟨_, rfl, holds_setBoundOrFreeFunction h f⟩
  | setParameters a =>
    cases hi with
    | given pointer f => exact absurd rfl hassert
    | unbound f b => exact ⟨_, rfl, .unbound f a⟩

/-- So it is with any number of calls. -/
theorem Holds.calls {cs : List (Call Fn Args)} {h : HandlerCallback Fn Args}
    {i : Installed Fn Args} (hi : h.Holds i) (hassert : h.calls cs ≠ .error .assertion) :
    ∃ h', h.calls cs = .ok h' ∧ h'.Holds (cs.foldl Installed.after i) := by
  induction cs generalizing h i with
  | nil => exact ⟨h, rfl, hi⟩
  | cons c cs ih =>
    have hfirst : h.call c ≠ .error .assertion := by
      intro hc
      apply hassert
      simp only [HandlerCallback.calls, List.foldlM_cons, hc]
      rfl
    obtain ⟨h', hc, hi'⟩ := hi.call hfirst
    have hrest : h.calls (c :: cs) = h'.calls cs := by
      simp only [HandlerCallback.calls, List.foldlM_cons, hc]
      rfl
    rw [hrest] at hassert ⊢
    exact ih hi' hassert

/-! ## Faithful callbacks -/

/-- Each `setParameters` binds a pointer that `setFunction` has stored and that belongs to
    the function installed last. -/
def Rebinds (first : FormattedFunction Fn Args) (cs : List (Call Fn Args)) : Prop :=
  ∀ before a after, cs = before ++ .setParameters a :: after →
    ∃ h f b, (construct first).calls before = .ok h ∧
      Installed.last first before = .unbound f b ∧ h.unboundFunctionPointer = some f

/-- `run()` invokes the function installed last with the arguments supplied last, and
    `setParameters` binds the pointer of this function. -/
structure Faithful (first : FormattedFunction Fn Args) (cs : List (Call Fn Args)) : Prop where
  runs : ∃ h, (construct first).calls cs = .ok h ∧
    h.run = match (Installed.last first cs).invocation with
      | some invocation => .ok invocation
      -- without a function the assertion of `run()` fails
      | none => .error .assertion
  rebinds : Rebinds first cs

/-- Running is faithful unless a null pointer was bound. -/
theorem run_eq_invocation_iff {h : HandlerCallback Fn Args} {i : Installed Fn Args}
    (hfunction : h.formattedFunction = i.function) :
    (h.run = match i.invocation with
      | some invocation => .ok invocation
      | none => .error .assertion) ↔ ¬ i.BindsNull := by
  simp only [run, Installed.invocation, Installed.BindsNull, hfunction]
  cases i.function with
  | empty => simp
  | free f => simp
  | bound f a => cases f <;> simp

/-- What comes before a call has returned. -/
theorem calls_append (h : HandlerCallback Fn Args) (before after : List (Call Fn Args)) :
    h.calls (before ++ after) = h.calls before >>= fun h' => h'.calls after :=
  List.foldlM_append

/-- After any calls on a callback that holds a function, `setParameters` binds the pointer
    of the one installed last. -/
theorem Holds.rebinds {h : HandlerCallback Fn Args} {i : Installed Fn Args} (hi : h.Holds i)
    {before after : List (Call Fn Args)} {a : Args}
    (hassert : h.calls (before ++ .setParameters a :: after) ≠ .error .assertion) :
    ∃ h' f b, h.calls before = .ok h' ∧ before.foldl Installed.after i = .unbound f b ∧
      h'.unboundFunctionPointer = some f := by
  have hbefore : h.calls before ≠ .error .assertion := by
    intro hc
    apply hassert
    rw [calls_append, hc]
    rfl
  obtain ⟨h', hok, hi'⟩ := hi.calls hbefore
  have hflag : h'.functionParameterFree = false := by
    -- with the flag set, the assertion of `setParameters` would have failed
    rw [Bool.eq_false_iff]
    intro htrue
    apply hassert
    rw [calls_append, hok]
    show h'.call (.setParameters a) >>= _ = _
    simp only [HandlerCallback.call, setParameters, htrue, if_true]
    rfl
  obtain ⟨f, b, heq, hpointer⟩ := hi'.pointer hflag
  exact ⟨h', f, b, hok, heq, hpointer⟩

/-- A first call that is not `setParameters` makes a callback hold a function. -/
theorem holds_call_construct (first : FormattedFunction Fn Args) {c : Call Fn Args}
    (hc : ∀ a, c ≠ .setParameters a) :
    ∃ h, (construct first).call c = .ok h ∧ h.Holds ((Installed.given first).after c) := by
  cases c with
  | setFunction f a => exact ⟨_, rfl, holds_setFunction _ f a⟩
  | setBoundOrFreeFunction f => exact ⟨_, rfl, holds_setBoundOrFreeFunction _ f⟩
  | setParameters a => exact absurd rfl (hc a)

/-- The callbacks that never bind an indeterminate pointer. -/
def StartsWell (first : FormattedFunction Fn Args) (cs : List (Call Fn Args)) : Prop :=
  first = .empty ∨ ∀ a rest, cs ≠ .setParameters a :: rest

/-- Such a callback has the function installed last, and rebinds its pointer. -/
theorem StartsWell.sound {first : FormattedFunction Fn Args} {cs : List (Call Fn Args)}
    (hstart : StartsWell first cs)
    (hassert : (construct first).calls cs ≠ .error .assertion) :
    (∃ h, (construct first).calls cs = .ok h ∧
      h.formattedFunction = (Installed.last first cs).function) ∧ Rebinds first cs := by
  cases hstart with
  | inl hempty =>
    subst hempty
    obtain ⟨h, hok, hi⟩ := holds_construct.calls hassert
    refine ⟨⟨h, hok, hi.formattedFunction⟩, ?_⟩
    rintro before a after rfl
    exact holds_construct.rebinds hassert
  -- otherwise the first call, if there is one, installs a function
  | inr hcs =>
    cases cs with
    | nil =>
      refine ⟨⟨construct first, rfl, rfl⟩, ?_⟩
      intro before a after h
      cases before <;> cases h
    | cons c cs =>
      obtain ⟨h₁, hc, hi₁⟩ := holds_call_construct first fun a heq => hcs a cs (heq ▸ rfl)
      have hcons : ∀ l, (construct first).calls (c :: l) = h₁.calls l := by
        intro l
        simp only [calls, List.foldlM_cons, hc]
        rfl
      rw [hcons] at hassert ⊢
      obtain ⟨h, hok, hi⟩ := hi₁.calls hassert
      refine ⟨⟨h, hok, hi.formattedFunction⟩, ?_⟩
      intro before a after h
      cases before with
      -- the first call does not only set parameters
      | nil => exact absurd h (hcs a after)
      | cons d before =>
        cases h
        rw [hcons]
        exact hi₁.rebinds hassert

/-- When the assertions pass, a callback is faithful exactly when it is not constructed with
    a function and then given parameters, and when no null pointer is bound in the end. -/
theorem faithful_iff {first : FormattedFunction Fn Args} {cs : List (Call Fn Args)}
    (hassert : (construct first).calls cs ≠ .error .assertion) :
    Faithful first cs ↔ StartsWell first cs ∧ ¬ (Installed.last first cs).BindsNull := by
  constructor
  · intro hfaithful
    have hstart : StartsWell first cs := by
      refine Or.inr fun a rest hcs => ?_
      -- nothing was installed by a call that the parameters could belong to
      obtain ⟨h, f, b, -, hlast, -⟩ := hfaithful.rebinds [] a rest hcs
      cases hlast
    obtain ⟨⟨h, hok, hfunction⟩, -⟩ := hstart.sound hassert
    obtain ⟨h', hok', hrun⟩ := hfaithful.runs
    rw [hok] at hok'
    cases hok'
    exact ⟨hstart, (run_eq_invocation_iff hfunction).mp hrun⟩
  · rintro ⟨hstart, hnull⟩
    obtain ⟨⟨h, hok, hfunction⟩, hrebinds⟩ := hstart.sound hassert
    exact ⟨⟨h, hok, (run_eq_invocation_iff hfunction).mpr hnull⟩, hrebinds⟩

/-- A function is installed and gets new parameters. -/
theorem faithful_rebound :
    Faithful (.empty : FormattedFunction Nat Nat) [.setFunction (some 7) 1, .setParameters 2] :=
  (faithful_iff (by intro h; cases h)).mpr ⟨Or.inl rfl, by rintro ⟨a, ha⟩; cases ha⟩

/-- A callback constructed with a function binds an indeterminate pointer. -/
theorem constructed_not_faithful :
    ¬ ∀ (first : FormattedFunction Unit Unit) (cs : List (Call Unit Unit)),
      (construct first).calls cs ≠ .error .assertion → Faithful first cs := by
  intro hall
  obtain ⟨h, hok, -⟩ := (hall (.free ()) [.setParameters ()] nofun).runs
  cases hok

end HandlerCallback

end NetworkedFS
