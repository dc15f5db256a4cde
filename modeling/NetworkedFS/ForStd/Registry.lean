import Mathlib.Logic.Function.Basic
import NetworkedFS.ForStd.Finmap
import NetworkedFS.ForStd.List

/-!
# Registries with several queues

A registry keeps tickets in named queues and a map `home` that says, for every
registered key, which queue holds its ticket.  This file gives the ways in which a
registry can change (`Act`, `Step`) and the invariants of runs:

- `Clean`: every ticket is where its key's home says, and no key has two tickets;
- `Housed`: every key with a home has a ticket there;
- `Numbered`: every serial number belongs to one ticket in one place;
- `LiveOrHaunted`: every ticket is the one its key's registration stands for, or there is
  a one-time ticket that is not;
- `Accounted D`: every ticket either is the one its key's registration stands for,
  or is a one-time ticket whose serial number is in the list `D` of spent ones.

Only `expire`, which takes a key out of `home` but leaves the ticket in its queue,
breaks `Clean`.  `Housed` is the half of it that every act keeps.
-/

/-- A queued ticket: its key, whether it is for one use, and a number that no other
    ticket has. -/
structure Ticket (κ : Type*) where
  key : κ
  once : Bool
  serial : Nat
  deriving DecidableEq

/-- Queues of tickets named by `ρ`, the home queue of every registered key, and the
    next serial number. -/
structure Registry (κ ρ : Type*) where
  queues : ρ → List (Ticket κ)
  home : UMap κ ρ
  next : Nat

namespace Registry

variable {κ ρ : Type*} [DecidableEq κ] [DecidableEq ρ]

/-- Whether a ticket has the key. -/
def hasKey (k : κ) (t : Ticket κ) : Bool := t.key == k

omit [DecidableEq ρ] in
@[simp] theorem hasKey_iff {k : κ} {t : Ticket κ} : hasKey k t = true ↔ t.key = k := by
  simp only [hasKey, beq_iff_eq]

/-- Adds a new ticket at the front of queue `r`. -/
def enroll (g : Registry κ ρ) (k : κ) (r : ρ) (once : Bool) : Registry κ ρ where
  queues := Function.update g.queues r (⟨k, once, g.next⟩ :: g.queues r)
  home := g.home.insert k r
  next := g.next + 1

/-- Takes the first ticket of a key out of queue `r`, and the key out of `home`. -/
def withdraw (g : Registry κ ρ) (k : κ) (r : ρ) : Registry κ ρ :=
  { g with
    queues := Function.update g.queues r ((g.queues r).eraseP (hasKey k))
    home := g.home.erase k }

/-- Moves the first ticket `t` of a key from queue `r` to the front of queue `r'`. -/
def transfer (g : Registry κ ρ) (k : κ) (t : Ticket κ) (r r' : ρ) : Registry κ ρ :=
  { g with
    queues := Function.update (Function.update g.queues r' (t :: g.queues r')) r
      ((g.queues r).eraseP (hasKey k))
    home := g.home.insert k r' }

/-- Takes a key out of `home` only. -/
def expire (g : Registry κ ρ) (k : κ) : Registry κ ρ := { g with home := g.home.erase k }

/-- Empties the registry. -/
def clear (g : Registry κ ρ) : Registry κ ρ := { g with queues := fun _ => [], home := ∅ }

/-- The ways in which a registry changes. -/
inductive Act (κ ρ : Type*) where
  | quiet
  | enroll (k : κ) (r : ρ) (once : Bool)
  | withdraw (k : κ)
  | transfer (k : κ) (r : ρ)
  | expire (r : ρ) (t : Ticket κ)
  | clear

/-- The ticket that an act spends, with its queue. -/
def Act.expired : Act κ ρ → Option (ρ × Ticket κ)
  | .expire r t => some (r, t)
  | _ => none

/-- What each act demands and does. -/
def Step (g : Registry κ ρ) : Act κ ρ → Registry κ ρ → Prop
  | .quiet, g' => g' = g
  | .enroll k r once, g' => g.home.lookup k = none ∧ g' = g.enroll k r once
  | .withdraw k, g' => ∃ r t, g.home.lookup k = some r ∧
      (g.queues r).find? (hasKey k) = some t ∧ g' = g.withdraw k r
  | .transfer k r', g' => ∃ r t, g.home.lookup k = some r ∧ r ≠ r' ∧
      (g.queues r).find? (hasKey k) = some t ∧ g' = g.transfer k t r r'
  | .expire r t, g' => (g.queues r).getLast? = some t ∧ t.once = true ∧ g' = g.expire t.key
  | .clear, g' => g' = g.clear

/-! ## Registries without ghosts -/

/-- Every ticket is at home, and no key has two tickets in a queue. -/
structure Clean (g : Registry κ ρ) : Prop where
  named : ∀ r, ∀ t ∈ g.queues r, g.home.lookup t.key = some r
  nodup : ∀ r, ((g.queues r).map Ticket.key).Nodup

omit [DecidableEq ρ] in
/-- A clean queue has no ticket of a key whose home it is not. -/
theorem Clean.key_ne {g : Registry κ ρ} (hg : g.Clean) {k : κ} {r : ρ}
    (hk : g.home.lookup k ≠ some r) {t : Ticket κ} (ht : t ∈ g.queues r) : t.key ≠ k := by
  rintro rfl
  exact hk (hg.named r t ht)

omit [DecidableEq ρ] in
/-- Once its first ticket is erased, a clean queue has none left for the key. -/
theorem Clean.key_ne_of_mem_eraseP {g : Registry κ ρ} (hg : g.Clean) {k : κ} {r : ρ}
    {t u : Ticket κ} (hfind : (g.queues r).find? (hasKey k) = some t)
    (hu : u ∈ (g.queues r).eraseP (hasKey k)) : u.key ≠ k := by
  obtain ⟨ht, as, bs, hsplit, herase, -⟩ := List.eraseP_of_find?_eq_some hfind
  have hnodup := hg.nodup r
  rw [hsplit, List.map_append, List.map_cons, List.nodup_middle, List.nodup_cons,
    ← List.map_append] at hnodup
  rw [herase] at hu
  intro hk
  apply hnodup.1
  rw [hasKey_iff.mp ht, ← hk]
  exact List.mem_map_of_mem hu

omit [DecidableEq ρ] in
/-- Erasing a ticket makes no key appear twice. -/
theorem Clean.nodup_eraseP {g : Registry κ ρ} (hg : g.Clean) (k : κ) (r : ρ) :
    (((g.queues r).eraseP (hasKey k)).map Ticket.key).Nodup :=
  (hg.nodup r).sublist (List.eraseP_sublist.map _)

/-- The new ticket is the only one of its key, in the queue that becomes its home. -/
theorem Clean.enroll {g : Registry κ ρ} (hg : g.Clean) {k : κ} (hk : g.home.lookup k = none)
    (r : ρ) (once : Bool) : (g.enroll k r once).Clean := by
  -- a key without a home has no ticket
  have hne : ∀ x, ∀ t ∈ g.queues x, t.key ≠ k := fun x t ht =>
    hg.key_ne (by simp [hk]) ht
  constructor
  · intro x t ht
    simp only [Registry.enroll, Function.update_apply] at ht ⊢
    by_cases hx : x = r
    · rw [if_pos hx] at ht
      rcases List.mem_cons.mp ht with rfl | ht
      · rw [hx, Finmap.lookup_insert]
      · rw [Finmap.lookup_insert_of_ne _ (hne r t ht), hx, hg.named r t ht]
    · rw [if_neg hx] at ht
      rw [Finmap.lookup_insert_of_ne _ (hne x t ht), hg.named x t ht]
  · intro x
    simp only [Registry.enroll, Function.update_apply]
    split
    · rw [List.map_cons, List.nodup_cons]
      refine ⟨?_, hg.nodup r⟩
      intro hmem
      obtain ⟨t, ht, htk⟩ := List.mem_map.mp hmem
      exact hne r t ht htk
    · exact hg.nodup x

/-- The ticket goes together with the home. -/
theorem Clean.withdraw {g : Registry κ ρ} (hg : g.Clean) {k : κ} {r : ρ} {t : Ticket κ}
    (hk : g.home.lookup k = some r) (hfind : (g.queues r).find? (hasKey k) = some t) :
    (g.withdraw k r).Clean := by
  constructor
  · intro x u hu
    simp only [Registry.withdraw, Function.update_apply] at hu ⊢
    by_cases hx : x = r
    · rw [if_pos hx] at hu
      rw [Finmap.lookup_erase_ne (hg.key_ne_of_mem_eraseP hfind hu), hx]
      exact hg.named r u (List.mem_of_mem_eraseP hu)
    · rw [if_neg hx] at hu
      have hne : u.key ≠ k := hg.key_ne (by simpa [hk] using Ne.symm hx) hu
      rw [Finmap.lookup_erase_ne hne, hg.named x u hu]
  · intro x
    simp only [Registry.withdraw, Function.update_apply]
    split
    · exact hg.nodup_eraseP k r
    · exact hg.nodup x

/-- The ticket moves together with the home. -/
theorem Clean.transfer {g : Registry κ ρ} (hg : g.Clean) {k : κ} {r r' : ρ} {t : Ticket κ}
    (hk : g.home.lookup k = some r) (hr : r ≠ r')
    (hfind : (g.queues r).find? (hasKey k) = some t) : (g.transfer k t r r').Clean := by
  have ht : t.key = k := hasKey_iff.mp (List.find?_some hfind)
  -- only the home of `k` has tickets of it
  have hother : ∀ x, x ≠ r → ∀ u ∈ g.queues x, u.key ≠ k := fun x hx u hu =>
    hg.key_ne (by simpa [hk] using hx.symm) hu
  constructor
  · intro x u hu
    simp only [Registry.transfer, Function.update_apply] at hu ⊢
    by_cases hx : x = r
    · rw [if_pos hx] at hu
      rw [Finmap.lookup_insert_of_ne _ (hg.key_ne_of_mem_eraseP hfind hu), hx]
      exact hg.named r u (List.mem_of_mem_eraseP hu)
    · rw [if_neg hx] at hu
      by_cases hx' : x = r'
      · rw [if_pos hx'] at hu
        rcases List.mem_cons.mp hu with rfl | hu
        · rw [ht, Finmap.lookup_insert, hx']
        · rw [Finmap.lookup_insert_of_ne _ (hother r' hr.symm u hu), hx', hg.named r' u hu]
      · rw [if_neg hx'] at hu
        rw [Finmap.lookup_insert_of_ne _ (hother x hx u hu), hg.named x u hu]
  · intro x
    simp only [Registry.transfer, Function.update_apply]
    split
    · exact hg.nodup_eraseP k r
    · split
      · rw [List.map_cons, List.nodup_cons, ht]
        refine ⟨?_, hg.nodup r'⟩
        intro hmem
        obtain ⟨u, hu, huk⟩ := List.mem_map.mp hmem
        exact hother r' hr.symm u hu huk
      · exact hg.nodup x

omit [DecidableEq ρ] in
/-- Empty queues have no ghosts. -/
theorem clean_clear (g : Registry κ ρ) : g.clear.Clean :=
  ⟨fun _ _ ht => absurd ht List.not_mem_nil, fun _ => List.nodup_nil⟩

omit [DecidableEq ρ] in
/-- A ticket that stays queued without its registration is a ghost. -/
theorem not_clean_expire {g : Registry κ ρ} {r : ρ} {t : Ticket κ} (ht : t ∈ g.queues r) :
    ¬ (g.expire t.key).Clean := by
  intro hg
  have hnamed := hg.named r t ht
  rw [expire, Finmap.lookup_erase] at hnamed
  cases hnamed

/-- From a clean registry exactly the acts other than `expire` lead to a clean one. -/
theorem Clean.step_iff {g g' : Registry κ ρ} (hg : g.Clean) {act : Act κ ρ}
    (hstep : g.Step act g') : g'.Clean ↔ act.expired = none := by
  cases act with
  | quiet =>
    obtain rfl := hstep
    simp only [Act.expired, hg]
  | enroll k r once =>
    obtain ⟨hk, rfl⟩ := hstep
    simp only [Act.expired, hg.enroll hk r once]
  | withdraw k =>
    obtain ⟨r, t, hk, hfind, rfl⟩ := hstep
    simp only [Act.expired, hg.withdraw hk hfind]
  | transfer k r' =>
    obtain ⟨r, t, hk, hr, hfind, rfl⟩ := hstep
    simp only [Act.expired, hg.transfer hk hr hfind]
  | expire r t =>
    obtain ⟨hlast, -, rfl⟩ := hstep
    simp only [Act.expired, reduceCtorEq, iff_false]
    -- the ticket stays at the back of its queue, but its key has no home any more
    exact not_clean_expire (List.mem_of_getLast? hlast)
  | clear =>
    obtain rfl := hstep
    simp only [Act.expired, clean_clear g]

/-! ## Housed keys -/

/-- Every key with a home has a ticket in it. -/
def Housed (g : Registry κ ρ) : Prop :=
  ∀ k r, g.home.lookup k = some r → ∃ t ∈ g.queues r, t.key = k

omit [DecidableEq ρ] in
/-- A ticket of another key is passed over. -/
theorem hasKey_of_ne {k : κ} {t : Ticket κ} (h : t.key ≠ k) : hasKey k t = false := by
  simpa [hasKey] using h

omit [DecidableEq ρ] in
/-- Erasing the first ticket of one key leaves the tickets of the others. -/
theorem mem_eraseP_hasKey {k : κ} {l : List (Ticket κ)} {t : Ticket κ} (hne : t.key ≠ k)
    (ht : t ∈ l) : t ∈ l.eraseP (hasKey k) :=
  (List.mem_eraseP_of_neg (by rw [hasKey_of_ne hne]; decide)).mpr ht

/-- The new ticket houses its key, and no other ticket goes. -/
theorem Housed.enroll {g : Registry κ ρ} (hg : g.Housed) (k : κ) (r : ρ) (once : Bool) :
    (g.enroll k r once).Housed := by
  intro k' r' hk'
  simp only [Registry.enroll, UMap.lookup_insert_eq_ite] at hk'
  simp only [Registry.enroll, Function.update_apply]
  split at hk'
  · next hkey =>
    cases hk'
    rw [if_pos rfl]
    exact ⟨_, List.mem_cons_self, hkey.symm⟩
  · obtain ⟨t, ht, htk⟩ := hg k' r' hk'
    refine ⟨t, ?_, htk⟩
    split
    · next hr => exact List.mem_cons_of_mem _ (hr ▸ ht)
    · exact ht

/-- Only the withdrawn key loses a ticket, and with it its home. -/
theorem Housed.withdraw {g : Registry κ ρ} (hg : g.Housed) (k : κ) (r : ρ) :
    (g.withdraw k r).Housed := by
  intro k' r' hk'
  simp only [Registry.withdraw, UMap.lookup_erase_eq_ite] at hk'
  simp only [Registry.withdraw, Function.update_apply]
  split at hk'
  · cases hk'
  · next hkey =>
    obtain ⟨t, ht, htk⟩ := hg k' r' hk'
    refine ⟨t, ?_, htk⟩
    split
    · next hr => exact mem_eraseP_hasKey (htk.trans_ne hkey) (hr ▸ ht)
    · exact ht

/-- The ticket is put where the key's home then is. -/
theorem Housed.transfer {g : Registry κ ρ} (hg : g.Housed) {k : κ} {r r' : ρ} {t : Ticket κ}
    (hr : r ≠ r') (htk : t.key = k) : (g.transfer k t r r').Housed := by
  intro k' x hk'
  simp only [Registry.transfer, UMap.lookup_insert_eq_ite] at hk'
  simp only [Registry.transfer, Function.update_apply]
  split at hk'
  · next hkey =>
    -- the moved ticket is at the front of its new home
    cases hk'
    rw [if_neg hr.symm, if_pos rfl]
    exact ⟨t, List.mem_cons_self, htk.trans hkey.symm⟩
  · next hkey =>
    obtain ⟨u, hu, huk⟩ := hg k' x hk'
    refine ⟨u, ?_, huk⟩
    split
    · next hx => exact mem_eraseP_hasKey (huk.trans_ne hkey) (hx ▸ hu)
    · split
      · next hx => exact List.mem_cons_of_mem _ (hx ▸ hu)
      · exact hu

omit [DecidableEq ρ] in
/-- A key that loses its home need not be housed. -/
theorem Housed.expire {g : Registry κ ρ} (hg : g.Housed) (k : κ) : (g.expire k).Housed := by
  intro k' r hk'
  simp only [Registry.expire, UMap.lookup_erase_eq_ite] at hk'
  split at hk'
  · cases hk'
  · exact hg k' r hk'

/-- Every act keeps the registered keys housed. -/
theorem Housed.step {g g' : Registry κ ρ} (hg : g.Housed) {act : Act κ ρ}
    (hstep : g.Step act g') : g'.Housed := by
  cases act with
  | quiet => exact hstep ▸ hg
  | enroll k r once => exact hstep.2 ▸ hg.enroll k r once
  | withdraw k =>
    obtain ⟨r, t, -, -, rfl⟩ := hstep
    exact hg.withdraw k r
  | transfer k r' =>
    obtain ⟨r, t, -, hr, hfind, rfl⟩ := hstep
    exact hg.transfer hr (hasKey_iff.mp (List.find?_some hfind))
  | expire r t =>
    obtain ⟨-, -, rfl⟩ := hstep
    exact hg.expire t.key
  | clear =>
    obtain rfl := hstep
    intro k r hk
    cases hk

/-! ## Live tickets -/

/-- The ticket that the registration of its key stands for: the one `find?` gives in
    the key's home queue. -/
def Live (g : Registry κ ρ) (r : ρ) (t : Ticket κ) : Prop :=
  g.home.lookup t.key = some r ∧ (g.queues r).find? (hasKey t.key) = some t

omit [DecidableEq ρ] in
/-- Whether a ticket is live depends on its own key only. -/
theorem live_congr {g g' : Registry κ ρ} {r : ρ} {t : Ticket κ}
    (hhome : g'.home.lookup t.key = g.home.lookup t.key)
    (hfind : (g'.queues r).find? (hasKey t.key) = (g.queues r).find? (hasKey t.key)) :
    g'.Live r t ↔ g.Live r t := by
  simp only [Live, hhome, hfind]

omit [DecidableEq ρ] in
/-- The ticket found for a registered key is live. -/
theorem live_of_find? {g : Registry κ ρ} {k : κ} {r : ρ} {t : Ticket κ}
    (hk : g.home.lookup k = some r) (hfind : (g.queues r).find? (hasKey k) = some t) :
    t.key = k ∧ g.Live r t := by
  have ht : t.key = k := hasKey_iff.mp (List.find?_some hfind)
  exact ⟨ht, by rw [ht, hk], by rw [ht, hfind]⟩

omit [DecidableEq ρ] in
/-- No two live tickets have one key. -/
theorem Live.unique {g : Registry κ ρ} {r r' : ρ} {t t' : Ticket κ} (h : g.Live r t)
    (h' : g.Live r' t') (hkey : t'.key = t.key) : r' = r ∧ t' = t := by
  obtain ⟨hhome, hfind⟩ := h
  obtain ⟨hhome', hfind'⟩ := h'
  have hr : r' = r := by
    rw [hkey, hhome] at hhome'
    exact (Option.some.inj hhome').symm
  rw [hkey, hr, hfind] at hfind'
  exact ⟨hr, (Option.some.inj hfind').symm⟩

omit [DecidableEq ρ] in
/-- Erasing the first ticket of one key leaves the first ticket of every other key. -/
theorem find?_hasKey_eraseP {k k' : κ} (h : k' ≠ k) (l : List (Ticket κ)) :
    (l.eraseP (hasKey k)).find? (hasKey k') = l.find? (hasKey k') := by
  refine List.find?_eraseP_of_disjoint (fun a ha => hasKey_of_ne ?_) l
  rw [hasKey_iff.mp ha]
  exact h.symm

/-- The new ticket is live, and so is what was live before. -/
theorem live_enroll_iff {g : Registry κ ρ} {k : κ} (hk : g.home.lookup k = none) {r x : ρ}
    {once : Bool} {u : Ticket κ} :
    (g.enroll k r once).Live x u ↔ (x = r ∧ u = ⟨k, once, g.next⟩) ∨ g.Live x u := by
  by_cases huk : u.key = k
  · -- the registered ticket of `k` is at the front of its home
    have hfirst : (g.enroll k r once).Live r ⟨k, once, g.next⟩ := by
      refine ⟨Finmap.lookup_insert _, ?_⟩
      simp only [Registry.enroll, Function.update_self]
      exact List.find?_cons_of_pos (by simp)
    have hnot : ¬ g.Live x u := by
      rintro ⟨hhome, -⟩
      rw [huk, hk] at hhome
      cases hhome
    rw [or_iff_left hnot]
    refine ⟨fun h => hfirst.unique h huk, ?_⟩
    rintro ⟨rfl, rfl⟩
    exact hfirst
  · have hold : (g.enroll k r once).Live x u ↔ g.Live x u := by
      apply live_congr (Finmap.lookup_insert_of_ne _ huk)
      simp only [Registry.enroll, Function.update_apply]
      split
      · next hx => rw [List.find?_cons_of_neg (by simpa using Ne.symm huk), hx]
      · rfl
    rw [hold, or_iff_right]
    rintro ⟨-, rfl⟩
    exact huk rfl

/-- A key that is taken out has no live ticket any more. -/
theorem live_withdraw_iff {g : Registry κ ρ} {k : κ} {r x : ρ} {u : Ticket κ} :
    (g.withdraw k r).Live x u ↔ g.Live x u ∧ u.key ≠ k := by
  by_cases huk : u.key = k
  · refine iff_of_false ?_ fun h => h.2 huk
    rintro ⟨hhome, -⟩
    rw [huk, Registry.withdraw, Finmap.lookup_erase] at hhome
    cases hhome
  · rw [and_iff_left huk]
    apply live_congr (Finmap.lookup_erase_ne huk)
    simp only [Registry.withdraw, Function.update_apply]
    split
    · next hx => rw [find?_hasKey_eraseP huk, hx]
    · rfl

/-- The ticket that moves is live in its new queue. -/
theorem live_transfer_iff {g : Registry κ ρ} {k : κ} {t u : Ticket κ} (htk : t.key = k)
    {r r' x : ρ} (hr : r ≠ r') :
    (g.transfer k t r r').Live x u ↔ (x = r' ∧ u = t) ∨ (g.Live x u ∧ u.key ≠ k) := by
  by_cases huk : u.key = k
  · have hnew : (g.transfer k t r r').Live r' t := by
      refine ⟨by rw [htk]; exact Finmap.lookup_insert _, ?_⟩
      simp only [Registry.transfer, Function.update_of_ne hr.symm, Function.update_self]
      exact List.find?_cons_of_pos (by simp)
    rw [or_iff_left fun h => h.2 huk]
    refine ⟨fun h => hnew.unique h (huk.trans htk.symm), ?_⟩
    rintro ⟨rfl, rfl⟩
    exact hnew
  · have hold : (g.transfer k t r r').Live x u ↔ g.Live x u := by
      apply live_congr (Finmap.lookup_insert_of_ne _ huk)
      simp only [Registry.transfer, Function.update_apply]
      split
      · next hx => rw [find?_hasKey_eraseP huk, hx]
      · split
        · next hx' => rw [List.find?_cons_of_neg (by simpa [htk] using Ne.symm huk), hx']
        · rfl
    rw [hold, and_iff_left huk, or_iff_right]
    rintro ⟨-, rfl⟩
    exact huk htk

omit [DecidableEq ρ] in
/-- A key that loses its home has no live ticket any more. -/
theorem live_expire_iff {g : Registry κ ρ} {k : κ} {x : ρ} {u : Ticket κ} :
    (g.expire k).Live x u ↔ g.Live x u ∧ u.key ≠ k := by
  by_cases huk : u.key = k
  · refine iff_of_false ?_ fun h => h.2 huk
    rintro ⟨hhome, -⟩
    rw [huk, Registry.expire, Finmap.lookup_erase] at hhome
    cases hhome
  · rw [and_iff_left huk]
    exact live_congr (Finmap.lookup_erase_ne huk) rfl

/-! ## Numbered tickets -/

/-- Every serial number given out belongs to one ticket in one place. -/
structure Numbered (g : Registry κ ρ) : Prop where
  serial_inj : ∀ r r', ∀ t ∈ g.queues r, ∀ t' ∈ g.queues r', t.serial = t'.serial → r = r' ∧ t = t'
  nodup : ∀ r, (g.queues r).Nodup
  serial_lt : ∀ r, ∀ t ∈ g.queues r, t.serial < g.next

/-- A queue has the new ticket and what it had before. -/
theorem mem_enroll_iff {g : Registry κ ρ} {k : κ} {r x : ρ} {once : Bool} {u : Ticket κ} :
    u ∈ (g.enroll k r once).queues x ↔ (x = r ∧ u = ⟨k, once, g.next⟩) ∨ u ∈ g.queues x := by
  simp only [Registry.enroll, Function.update_apply]
  split
  · next hx => simp only [hx, List.mem_cons, true_and]
  · next hx => simp only [hx, false_and, false_or]

/-- The ticket that was found is gone, and no other one. -/
theorem Numbered.mem_withdraw_iff {g : Registry κ ρ} (hg : g.Numbered) {k : κ} {r x : ρ}
    {t u : Ticket κ} (hfind : (g.queues r).find? (hasKey k) = some t) :
    u ∈ (g.withdraw k r).queues x ↔ u ∈ g.queues x ∧ ¬ (x = r ∧ u = t) := by
  simp only [Registry.withdraw, Function.update_apply]
  split
  · next hx =>
    rw [hx]
    simp only [true_and]
    refine ⟨fun hu => ⟨List.mem_of_mem_eraseP hu, ?_⟩, ?_⟩
    · rintro rfl
      exact List.not_mem_eraseP_of_find?_eq_some (hg.nodup r) hfind hu
    · rintro ⟨hu, hne⟩
      obtain ⟨-, as, bs, hsplit, herase, -⟩ := List.eraseP_of_find?_eq_some hfind
      rw [hsplit, List.mem_append, List.mem_cons] at hu
      rw [herase, List.mem_append]
      exact hu.imp id fun h => h.resolve_left hne
  · next hx => simp only [hx, false_and, not_false_eq_true, and_true]

/-- The ticket that was found is at the front of its new queue, and no other one moved. -/
theorem Numbered.mem_transfer_iff {g : Registry κ ρ} (hg : g.Numbered) {k : κ} {r r' x : ρ}
    {t u : Ticket κ} (hr : r ≠ r') (hfind : (g.queues r).find? (hasKey k) = some t) :
    u ∈ (g.transfer k t r r').queues x ↔
      (x = r' ∧ u = t) ∨ (u ∈ g.queues x ∧ ¬ (x = r ∧ u = t)) := by
  have hwithdraw := hg.mem_withdraw_iff (x := x) (u := u) hfind
  simp only [Registry.withdraw, Function.update_apply] at hwithdraw
  simp only [Registry.transfer, Function.update_apply]
  by_cases hx : x = r
  · rw [if_pos hx] at hwithdraw ⊢
    rw [hwithdraw, or_iff_right fun h => hr (hx.symm.trans h.1)]
  · rw [if_neg hx]
    simp only [hx, false_and, not_false_eq_true, and_true]
    split
    · next hx' => simp only [hx', List.mem_cons, true_and]
    · next hx' => simp only [hx', false_and, false_or]

/-- The new ticket has a serial number that was not given out before. -/
theorem Numbered.enroll {g : Registry κ ρ} (hg : g.Numbered) (k : κ) (r : ρ) (once : Bool) :
    (g.enroll k r once).Numbered := by
  refine ⟨?_, ?_, ?_⟩
  · intro x x' t ht t' ht' heq
    rcases mem_enroll_iff.mp ht with ⟨rfl, rfl⟩ | htold <;>
      rcases mem_enroll_iff.mp ht' with ⟨rfl, rfl⟩ | htold'
    · exact ⟨rfl, rfl⟩
    · exact absurd heq (Nat.ne_of_gt (hg.serial_lt x' t' htold'))
    · exact absurd heq (Nat.ne_of_lt (hg.serial_lt x t htold))
    · exact hg.serial_inj x x' t htold t' htold' heq
  · intro x
    simp only [Registry.enroll, Function.update_apply]
    split
    · refine List.nodup_cons.mpr ⟨?_, hg.nodup r⟩
      intro hmem
      exact Nat.lt_irrefl _ (hg.serial_lt r _ hmem)
    · exact hg.nodup x
  · intro x t ht
    rcases mem_enroll_iff.mp ht with ⟨-, rfl⟩ | ht
    · exact Nat.lt_succ_self _
    · exact Nat.lt_succ_of_lt (hg.serial_lt x t ht)

/-- A ticket is taken out of one queue. -/
theorem Numbered.withdraw {g : Registry κ ρ} (hg : g.Numbered) {k : κ} {r : ρ} {t : Ticket κ}
    (hfind : (g.queues r).find? (hasKey k) = some t) : (g.withdraw k r).Numbered := by
  have hmem : ∀ x, ∀ u ∈ (g.withdraw k r).queues x, u ∈ g.queues x :=
    fun x u hu => ((hg.mem_withdraw_iff hfind).mp hu).1
  refine ⟨?_, ?_, fun x u hu => hg.serial_lt x u (hmem x u hu)⟩
  · intro x x' u hu u' hu'
    exact hg.serial_inj x x' u (hmem x u hu) u' (hmem x' u' hu')
  · intro x
    simp only [Registry.withdraw, Function.update_apply]
    split
    · exact (hg.nodup r).eraseP _
    · exact hg.nodup x

/-- A ticket that moves keeps its serial number, and is in one queue as before. -/
theorem Numbered.transfer {g : Registry κ ρ} (hg : g.Numbered) {k : κ} {r r' : ρ} {t : Ticket κ}
    (hr : r ≠ r') (hfind : (g.queues r).find? (hasKey k) = some t) :
    (g.transfer k t r r').Numbered := by
  have htmem : t ∈ g.queues r := List.mem_of_find?_eq_some hfind
  refine ⟨?_, ?_, ?_⟩
  · intro x x' u hu u' hu' heq
    rcases (hg.mem_transfer_iff hr hfind).mp hu with ⟨rfl, rfl⟩ | ⟨hmem₁, hut⟩ <;>
      rcases (hg.mem_transfer_iff hr hfind).mp hu' with ⟨rfl, rfl⟩ | ⟨hmem₂, hut'⟩
    · exact ⟨rfl, rfl⟩
    · obtain ⟨hx, hu''⟩ := hg.serial_inj r x' u htmem u' hmem₂ heq
      exact absurd ⟨hx.symm, hu''.symm⟩ hut'
    · exact absurd (hg.serial_inj x r u hmem₁ u' htmem heq) hut
    · exact hg.serial_inj x x' u hmem₁ u' hmem₂ heq
  · intro x
    simp only [Registry.transfer, Function.update_apply]
    split
    · exact (hg.nodup r).eraseP _
    · split
      · refine List.nodup_cons.mpr ⟨?_, hg.nodup r'⟩
        intro hmem
        exact hr (hg.serial_inj r r' t htmem t hmem rfl).1
      · exact hg.nodup x
  · intro x u hu
    rcases (hg.mem_transfer_iff hr hfind).mp hu with ⟨-, rfl⟩ | ⟨hu, -⟩
    · exact hg.serial_lt r u htmem
    · exact hg.serial_lt x u hu

omit [DecidableEq κ] [DecidableEq ρ] in
/-- Without tickets there is nothing to number. -/
theorem numbered_of_forall_eq_nil {g : Registry κ ρ} (h : ∀ r, g.queues r = []) : g.Numbered := by
  refine ⟨fun r _ t ht => ?_, fun r => ?_, fun r t ht => ?_⟩
  · rw [h r] at ht
    cases ht
  · rw [h r]
    exact List.nodup_nil
  · rw [h r] at ht
    cases ht

/-- Every act keeps the tickets numbered. -/
theorem Numbered.step {g g' : Registry κ ρ} (hg : g.Numbered) {act : Act κ ρ}
    (hstep : g.Step act g') : g'.Numbered := by
  cases act with
  | quiet => exact hstep ▸ hg
  | enroll k r once => exact hstep.2 ▸ hg.enroll k r once
  | withdraw k =>
    obtain ⟨r, t, -, hfind, rfl⟩ := hstep
    exact hg.withdraw hfind
  | transfer k r' =>
    obtain ⟨r, t, -, hr, hfind, rfl⟩ := hstep
    exact hg.transfer hr hfind
  | expire r t =>
    obtain ⟨-, -, rfl⟩ := hstep
    exact ⟨hg.serial_inj, hg.nodup, hg.serial_lt⟩
  | clear =>
    obtain rfl := hstep
    exact numbered_of_forall_eq_nil fun _ => rfl

/-! ## Haunted registries -/

/-- Some one-time ticket is queued that no registration stands for. -/
def Haunted (g : Registry κ ρ) : Prop := ∃ r, ∃ t ∈ g.queues r, t.once = true ∧ ¬ g.Live r t

/-- All tickets are live, or a one-time ticket haunts the registry. -/
def LiveOrHaunted (g : Registry κ ρ) : Prop := (∀ r, ∀ t ∈ g.queues r, g.Live r t) ∨ g.Haunted

/-- A registry that no one-time ticket haunts keeps this until a ticket expires. -/
theorem LiveOrHaunted.step {g g' : Registry κ ρ} (hg : g.LiveOrHaunted) (hnumbered : g.Numbered)
    {act : Act κ ρ} (hstep : g.Step act g') : g'.LiveOrHaunted := by
  cases act with
  | quiet => exact hstep ▸ hg
  | enroll k r once =>
    obtain ⟨hk, rfl⟩ := hstep
    refine hg.imp (fun hall x u hu => ?_) ?_
    · rw [live_enroll_iff hk]
      exact (mem_enroll_iff.mp hu).imp id (hall x u)
    -- a ticket that haunts is older than the new one
    · rintro ⟨x, u, hu, honce, hnot⟩
      refine ⟨x, u, mem_enroll_iff.mpr (Or.inr hu), honce, ?_⟩
      rw [live_enroll_iff hk]
      rintro (⟨rfl, rfl⟩ | hlive)
      · exact Nat.lt_irrefl _ (hnumbered.serial_lt x _ hu)
      · exact hnot hlive
  | withdraw k =>
    obtain ⟨r, t, hk, hfind, rfl⟩ := hstep
    obtain ⟨htk, htlive⟩ := live_of_find? hk hfind
    refine hg.imp (fun hall x u hu => ?_) ?_
    · obtain ⟨hu, hne⟩ := (hnumbered.mem_withdraw_iff hfind).mp hu
      -- the live ticket of `k` is the one that was taken out
      exact live_withdraw_iff.mpr ⟨hall x u hu, fun huk =>
        hne (htlive.unique (hall x u hu) (huk.trans htk.symm))⟩
    · rintro ⟨x, u, hu, honce, hnot⟩
      refine ⟨x, u, (hnumbered.mem_withdraw_iff hfind).mpr ⟨hu, ?_⟩, honce,
        fun h => hnot (live_withdraw_iff.mp h).1⟩
      rintro ⟨rfl, rfl⟩
      exact hnot htlive
  | transfer k r' =>
    obtain ⟨r, t, hk, hr, hfind, rfl⟩ := hstep
    obtain ⟨htk, htlive⟩ := live_of_find? hk hfind
    have htmem : t ∈ g.queues r := List.mem_of_find?_eq_some hfind
    refine hg.imp (fun hall x u hu => ?_) ?_
    · refine (live_transfer_iff htk hr).mpr (((hnumbered.mem_transfer_iff hr hfind).mp hu).imp id ?_)
      rintro ⟨hu, hne⟩
      exact ⟨hall x u hu, fun huk => hne (htlive.unique (hall x u hu) (huk.trans htk.symm))⟩
    · rintro ⟨x, u, hu, honce, hnot⟩
      -- the ticket that moves is live, so it is not the one that haunts
      have hne : u ≠ t := by
        rintro rfl
        exact hnot ((hnumbered.serial_inj x r u hu u htmem rfl).1 ▸ htlive)
      refine ⟨x, u, (hnumbered.mem_transfer_iff hr hfind).mpr (Or.inr ⟨hu, fun h => hne h.2⟩),
        honce, fun h => ?_⟩
      exact ((live_transfer_iff htk hr).mp h).elim (fun h => hne h.2) fun h => hnot h.1
  | expire r t =>
    obtain ⟨hlast, honce, rfl⟩ := hstep
    -- the ticket that expires is spent, and nothing keeps it from being found
    exact Or.inr ⟨r, t, List.mem_of_getLast? hlast, honce, fun h => (live_expire_iff.mp h).2 rfl⟩
  | clear =>
    obtain rfl := hstep
    exact Or.inl fun _ _ ht => absurd ht List.not_mem_nil

/-! ## Spent tickets -/

/-- The tickets of a registry, when the serial numbers in `spent` are used up. -/
structure Accounted (spent : List Nat) (g : Registry κ ρ) : Prop where
  live_or_spent : ∀ r, ∀ t ∈ g.queues r, g.Live r t ∨ (t.once = true ∧ t.serial ∈ spent)
  live_not_spent : ∀ r, ∀ t ∈ g.queues r, g.Live r t → t.serial ∉ spent
  serial_inj : ∀ r r', ∀ t ∈ g.queues r, ∀ t' ∈ g.queues r', t.serial = t'.serial → r = r' ∧ t = t'
  nodup : ∀ r, (g.queues r).Nodup
  serial_lt : ∀ r, ∀ t ∈ g.queues r, t.serial < g.next
  spent_lt : ∀ n ∈ spent, n < g.next

omit [DecidableEq ρ] in
/-- The tickets of an account are numbered. -/
theorem Accounted.numbered {spent : List Nat} {g : Registry κ ρ} (hg : g.Accounted spent) :
    g.Numbered := ⟨hg.serial_inj, hg.nodup, hg.serial_lt⟩

/-- The new ticket is not spent. -/
theorem Accounted.enroll {spent : List Nat} {g : Registry κ ρ} (hg : g.Accounted spent) {k : κ}
    (hk : g.home.lookup k = none) (r : ρ) (once : Bool) :
    (g.enroll k r once).Accounted spent := by
  obtain ⟨hinj, hnodup, hlt⟩ := hg.numbered.enroll k r once
  refine ⟨?_, ?_, hinj, hnodup, hlt, fun n hn => Nat.lt_succ_of_lt (hg.spent_lt n hn)⟩
  · intro x t ht
    rw [live_enroll_iff hk]
    rcases mem_enroll_iff.mp ht with hnew | ht
    · exact Or.inl (Or.inl hnew)
    · exact (hg.live_or_spent x t ht).imp Or.inr id
  · intro x t ht hl hspent
    rcases mem_enroll_iff.mp ht with ⟨-, rfl⟩ | ht
    · exact Nat.lt_irrefl _ (hg.spent_lt _ hspent)
    · -- the number of the new ticket was not given out, so this one was live before
      rcases (live_enroll_iff hk).mp hl with ⟨-, rfl⟩ | hl
      · exact Nat.lt_irrefl _ (hg.serial_lt x _ ht)
      · exact hg.live_not_spent x t ht hl hspent

/-- A ticket that is taken out was live, and is not queued again. -/
theorem Accounted.withdraw {spent : List Nat} {g : Registry κ ρ} (hg : g.Accounted spent) {k : κ}
    {r : ρ} {t : Ticket κ} (hk : g.home.lookup k = some r)
    (hfind : (g.queues r).find? (hasKey k) = some t) : (g.withdraw k r).Accounted spent := by
  obtain ⟨htk, htlive⟩ := live_of_find? hk hfind
  obtain ⟨hinj, hnodup, hlt⟩ := hg.numbered.withdraw hfind
  refine ⟨?_, ?_, hinj, hnodup, hlt, hg.spent_lt⟩
  · intro x u hu
    obtain ⟨hu, hne⟩ := (hg.numbered.mem_withdraw_iff hfind).mp hu
    -- the only live ticket of `k` is the one that was found, and it is gone
    exact (hg.live_or_spent x u hu).imp (fun h => live_withdraw_iff.mpr
      ⟨h, fun huk => hne (htlive.unique h (huk.trans htk.symm))⟩) id
  · intro x u hu hl
    obtain ⟨hu, -⟩ := (hg.numbered.mem_withdraw_iff hfind).mp hu
    exact hg.live_not_spent x u hu (live_withdraw_iff.mp hl).1

/-- A ticket that moves stays live. -/
theorem Accounted.transfer {spent : List Nat} {g : Registry κ ρ} (hg : g.Accounted spent) {k : κ}
    {r r' : ρ} {t : Ticket κ} (hk : g.home.lookup k = some r) (hr : r ≠ r')
    (hfind : (g.queues r).find? (hasKey k) = some t) :
    (g.transfer k t r r').Accounted spent := by
  obtain ⟨htk, htlive⟩ := live_of_find? hk hfind
  obtain ⟨hinj, hnodup, hlt⟩ := hg.numbered.transfer hr hfind
  have htmem : t ∈ g.queues r := List.mem_of_find?_eq_some hfind
  refine ⟨?_, ?_, hinj, hnodup, hlt, hg.spent_lt⟩
  · intro x u hu
    rw [live_transfer_iff htk hr]
    rcases (hg.numbered.mem_transfer_iff hr hfind).mp hu with hmoved | ⟨hu, hne⟩
    · exact Or.inl (Or.inl hmoved)
    · exact (hg.live_or_spent x u hu).imp (fun h => Or.inr
        ⟨h, fun huk => hne (htlive.unique h (huk.trans htk.symm))⟩) id
  · intro x u hu hl
    rcases (live_transfer_iff htk hr).mp hl with ⟨-, rfl⟩ | ⟨hl, huk⟩
    · exact hg.live_not_spent r u htmem htlive
    · rcases (hg.numbered.mem_transfer_iff hr hfind).mp hu with ⟨-, rfl⟩ | ⟨hu, -⟩
      · exact absurd htk huk
      · exact hg.live_not_spent x u hu hl

omit [DecidableEq ρ] in
/-- What was spent stays spent. -/
theorem Accounted.clear {spent : List Nat} {g : Registry κ ρ} (hg : g.Accounted spent) :
    g.clear.Accounted spent :=
  ⟨fun _ _ ht => absurd ht List.not_mem_nil, fun _ _ ht => absurd ht List.not_mem_nil,
    fun _ _ _ ht => absurd ht List.not_mem_nil, fun _ => List.nodup_nil,
    fun _ _ ht => absurd ht List.not_mem_nil, hg.spent_lt⟩

/-- The ticket at the back of a queue is the one its registration stands for, by what
    can be seen of the queue: the key's home is this queue, and no ticket in front has
    the key. -/
def Registered (g : Registry κ ρ) (r : ρ) (t : Ticket κ) : Prop :=
  g.home.lookup t.key = some r ∧ ∀ u ∈ (g.queues r).dropLast, u.key ≠ t.key

omit [DecidableEq ρ] in
/-- At the back of a queue without duplicates, registered tickets are the live ones. -/
theorem registered_iff_live {g : Registry κ ρ} {r : ρ} {t : Ticket κ}
    (hnodup : (g.queues r).Nodup) (hlast : (g.queues r).getLast? = some t) :
    g.Registered r t ↔ g.Live r t := by
  obtain ⟨front, hfront⟩ := List.getLast?_eq_some_iff.mp hlast
  apply and_congr_right
  intro _
  rw [hfront, List.dropLast_concat]
  constructor
  · intro hne
    rw [List.find?_append, List.find?_eq_none.mpr (by simpa using hne)]
    simp
  · intro hfind u hu huk
    -- a ticket of the key in front would be found first
    rw [hfront] at hnodup
    obtain ⟨v, hv⟩ : ∃ v, front.find? (hasKey t.key) = some v :=
      Option.isSome_iff_exists.mp (List.find?_isSome.mpr ⟨u, hu, by simpa using huk⟩)
    rw [List.find?_append, hv, Option.some_or] at hfind
    have hvt := Option.some.inj hfind
    exact (List.nodup_append.mp hnodup).2.2 v (List.mem_of_find?_eq_some hv) t
      (List.mem_singleton_self t) hvt

omit [DecidableEq ρ] in
/-- Expiring a registered ticket spends it. -/
theorem Accounted.expire {spent : List Nat} {g : Registry κ ρ} (hg : g.Accounted spent) {r : ρ}
    {t : Ticket κ} (hlast : (g.queues r).getLast? = some t) (honce : t.once = true)
    (hreg : g.Registered r t) : (g.expire t.key).Accounted (t.serial :: spent) := by
  have htmem : t ∈ g.queues r := List.mem_of_getLast? hlast
  have htlive : g.Live r t := (registered_iff_live (hg.nodup r) hlast).mp hreg
  refine ⟨?_, ?_, hg.serial_inj, hg.nodup, hg.serial_lt, ?_⟩
  · intro x u hu
    by_cases huk : u.key = t.key
    · apply Or.inr
      rcases hg.live_or_spent x u hu with hlive | ⟨ho, hs⟩
      · -- the live ticket of this key is `t` itself
        obtain ⟨-, rfl⟩ := htlive.unique hlive huk
        exact ⟨honce, List.mem_cons_self⟩
      · exact ⟨ho, List.mem_cons_of_mem _ hs⟩
    · exact (hg.live_or_spent x u hu).imp (fun h => live_expire_iff.mpr ⟨h, huk⟩)
        fun h => ⟨h.1, List.mem_cons_of_mem _ h.2⟩
  · intro x u hu hl hspent
    obtain ⟨hlive, huk⟩ := live_expire_iff.mp hl
    rcases List.mem_cons.mp hspent with heq | hspent
    · exact huk (congrArg Ticket.key (hg.serial_inj x r u hu t htmem heq).2)
    · exact hg.live_not_spent x u hu hlive hspent
  · intro n hn
    rcases List.mem_cons.mp hn with rfl | hn
    · exact hg.serial_lt r t htmem
    · exact hg.spent_lt n hn

omit [DecidableEq ρ] in
/-- A one-time ticket at the back is registered exactly when it is not spent. -/
theorem Accounted.registered_iff {spent : List Nat} {g : Registry κ ρ} (hg : g.Accounted spent)
    {r : ρ} {t : Ticket κ} (hlast : (g.queues r).getLast? = some t) :
    (t.once = true → g.Registered r t) ↔ (t.once = true → t.serial ∉ spent) := by
  have htmem : t ∈ g.queues r := List.mem_of_getLast? hlast
  apply forall_congr'
  intro _
  rw [registered_iff_live (hg.nodup r) hlast]
  constructor
  · exact hg.live_not_spent r t htmem
  · intro hspent
    exact (hg.live_or_spent r t htmem).resolve_right fun h => hspent h.2

/-- The serial number that an act spends. -/
def Act.spends (act : Act κ ρ) : List Nat := (act.expired.map fun x => x.2.serial).toList

omit [DecidableEq κ] [DecidableEq ρ] in
theorem Act.spends_of_none {act : Act κ ρ} (h : act.expired = none) : act.spends = [] := by
  simp only [spends, h, Option.map_none, Option.toList_none]

omit [DecidableEq κ] [DecidableEq ρ] in
theorem Act.spends_of_some {act : Act κ ρ} {r : ρ} {t : Ticket κ}
    (h : act.expired = some (r, t)) : act.spends = [t.serial] := by
  simp only [spends, h, Option.map_some, Option.toList_some]

/-- Acts keep the account, as long as only registered tickets expire. -/
theorem Accounted.step {spent : List Nat} {g g' : Registry κ ρ} (hg : g.Accounted spent)
    {act : Act κ ρ} (hstep : g.Step act g')
    (hreg : ∀ r t, act.expired = some (r, t) → g.Registered r t) :
    g'.Accounted (act.spends ++ spent) := by
  cases act with
  | quiet => exact hstep ▸ hg
  | enroll k r once => exact hstep.2 ▸ hg.enroll hstep.1 r once
  | withdraw k =>
    obtain ⟨r, t, hk, hfind, rfl⟩ := hstep
    exact hg.withdraw hk hfind
  | transfer k r' =>
    obtain ⟨r, t, hk, hr, hfind, rfl⟩ := hstep
    exact hg.transfer hk hr hfind
  | expire r t =>
    obtain ⟨hlast, honce, rfl⟩ := hstep
    exact hg.expire hlast honce (hreg r t rfl)
  | clear => exact hstep ▸ hg.clear

end Registry
