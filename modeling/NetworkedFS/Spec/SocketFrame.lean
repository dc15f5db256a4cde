import NetworkedFS.Spec.ConnectionLifecycle

/-!
# Sockets that an instance does not hold

A process has other sockets than those of one `network_instance`, and an instance loses those
whose variables it overwrites.  Up to its first transfer, whatever is called on it, and whatever
the rest of the process does to its own descriptors in between, it leaves alone a socket that
neither of its two variables holds.  A transfer reads or writes past a buffer that stands in
front of the two variables (see `SizeBuffer.lean`), and is the end of a run.

- `Spares.apply`: what a call that returns does to such a socket;
- `untouched_while_apart`: and a whole run.
-/

namespace NetworkedFS

namespace Kernel

variable {kernel : Kernel} {d : Int}

theorem sockets_set_of_ne {e : Int} (h : d ≠ e) (entry : Option SocketState) :
    (kernel.set e entry).sockets d = kernel.sockets d := by
  simp only [set, Function.update_of_ne h]

/-- `socket` gives a descriptor that is not open yet, or fails. -/
theorem socket_spares (hopen : kernel.isOpen d = true) (hd : 0 ≤ d) (answer : Int) :
    (kernel.socket answer).2.sockets d = kernel.sockets d ∧ (kernel.socket answer).1 ≠ d := by
  unfold socket
  by_cases hgives : kernel.gives answer = true
  · have hne := ne_of_gives hgives hopen
    rw [if_pos hgives]
    exact ⟨sockets_set_of_ne hne _, hne.symm⟩
  · rw [if_neg hgives]
    exact ⟨rfl, by omega⟩

/-- So does `accept`. -/
theorem accept_spares (hopen : kernel.isOpen d = true) (hd : 0 ≤ d) (descriptor answer : Int) :
    (kernel.accept descriptor answer).2.sockets d = kernel.sockets d ∧
      (kernel.accept descriptor answer).1 ≠ d := by
  unfold accept
  by_cases hgives : (kernel.isOpen descriptor && kernel.gives answer) = true
  · have hne := ne_of_gives (Bool.and_eq_true_iff.mp hgives).2 hopen
    rw [if_pos hgives]
    exact ⟨sockets_set_of_ne hne _, hne.symm⟩
  · rw [if_neg hgives]
    exact ⟨rfl, by omega⟩

theorem connect_spares {descriptor : Int} (hne : d ≠ descriptor) (success : Bool) :
    (kernel.connect descriptor success).2.sockets d = kernel.sockets d := by
  unfold connect
  split
  · exact sockets_set_of_ne hne _
  · rfl

end Kernel

namespace NetworkConnection

variable {s s' : NetworkConnection} {d : Int}

/-- An open socket that neither variable holds. -/
structure Apart (s : NetworkConnection) (d : Int) : Prop where
  isOpen : s.kernel.isOpen d = true
  nonneg : 0 ≤ d
  socket : s.socketDescriptor ≠ some d
  established : s.establishedSocketDescriptor ≠ some d

/-- The socket is as it was, and neither variable holds it now. -/
structure Spares (d : Int) (s s' : NetworkConnection) : Prop where
  entry : s'.kernel.sockets d = s.kernel.sockets d
  socket : s'.socketDescriptor ≠ some d
  established : s'.establishedSocketDescriptor ≠ some d

/-- Such a socket stays apart. -/
theorem Apart.of_spares (h : s.Apart d) (hspares : Spares d s s') : s'.Apart d where
  isOpen := by
    rw [Kernel.isOpen, hspares.entry]
    exact h.isOpen
  nonneg := h.nonneg
  socket := hspares.socket
  established := hspares.established

/-- A report is only recorded. -/
theorem Spares.report {s₁ : NetworkConnection} (h : Spares d s s₁) {error : NetworkError}
    (hok : s₁.report error = .ok s') : Spares d s s' := by
  obtain ⟨status, -, rfl⟩ := Except.map_eq_ok_iff.mp hok
  exact ⟨h.entry, h.socket, h.established⟩

/-! ## What each call does -/

theorem Apart.initConnection (h : s.Apart d) {answer : Int} {ready : Bool}
    (hok : s.initConnection answer = .ok (ready, s')) : Spares d s s' := by
  obtain ⟨hentry, hne⟩ := Kernel.socket_spares h.isOpen h.nonneg answer
  unfold NetworkConnection.initConnection at hok
  cases hsocket : s.kernel.socket answer with
  | mk descriptor kernel =>
    rw [hsocket] at hok hentry hne
    have hspares : Spares d s ({ s with kernel }.setSocket descriptor) :=
      ⟨hentry, fun heq => hne (Option.some.inj heq), h.established⟩
    simp only at hok
    split at hok
    · obtain ⟨s₁, hreport, heq⟩ := Except.map_eq_ok_iff.mp hok
      cases heq
      exact hspares.report hreport
    · cases hok
      exact hspares

theorem Apart.setParameters (h : s.Apart d) {clientFound serverFound : Bool} {answer : Int}
    (hok : s.setParameters clientFound serverFound answer = .ok s') : Spares d s s' := by
  unfold NetworkConnection.setParameters at hok
  cases hfound : clientFound && serverFound with
  | false =>
    rw [hfound] at hok
    obtain ⟨r, hr, hreport⟩ := Except.bind_eq_ok_iff.mp hok
    cases hr
    have hspares : Spares d s { s with connectionReady := false } :=
      ⟨rfl, h.socket, h.established⟩
    exact hspares.report hreport
  | true =>
    rw [hfound] at hok
    obtain ⟨r, hr, hreport⟩ := Except.bind_eq_ok_iff.mp hok
    have hinit : Spares d s r.2 := h.initConnection hr
    have hspares : Spares d s { r.2 with connectionReady := r.1 } :=
      ⟨hinit.entry, hinit.socket, hinit.established⟩
    exact hspares.report hreport

theorem Apart.acceptConnection (h : s.Apart d) {bound : Bool} {answer : Int}
    (hok : s.acceptConnection bound answer = .ok s') : Spares d s s' := by
  unfold NetworkConnection.acceptConnection at hok
  split at hok
  case isFalse => cases hok
  case isTrue =>
    simp only at hok
    split at hok
    case h_1 => cases hok
    case h_2 socketDescriptor hsocket =>
      split at hok
      -- nothing was bound, so that nothing is adopted
      case isFalse =>
        have hspares : Spares d s
            { s with connectionEstablished := false, connectionIsClient := false } :=
          ⟨rfl, h.socket, h.established⟩
        exact hspares.report hok
      case isTrue =>
        -- the kernel gives a descriptor that was not open, and so another one
        obtain ⟨hentry, hne⟩ := Kernel.accept_spares h.isOpen h.nonneg socketDescriptor answer
        have hspares : ∀ established, Spares d s
            { { s with
                kernel := (s.kernel.accept socketDescriptor answer).2
                connectionIsClient := false
                connectionEstablished := false }.setEstablishedSocket
                  (s.kernel.accept socketDescriptor answer).1 with
              connectionEstablished := established } :=
          fun _ => ⟨hentry, h.socket, fun heq => hne (Option.some.inj heq)⟩
        split at hok
        · cases hok
          exact hspares true
        · exact (hspares false).report hok

theorem Apart.startConnection (h : s.Apart d) {success : Bool}
    (hok : s.startConnection success = .ok s') : Spares d s s' := by
  unfold NetworkConnection.startConnection at hok
  split at hok
  case isFalse => cases hok
  case isTrue =>
    simp only at hok
    split at hok
    case h_1 => cases hok
    case h_2 socketDescriptor hsocket =>
      have hne : d ≠ socketDescriptor := fun heq => h.socket (heq ▸ hsocket)
      have hspares : ∀ established, Spares d s
          { s with
            connectionIsClient := true
            kernel := (s.kernel.connect socketDescriptor success).2
            connectionEstablished := established } :=
        fun _ => ⟨Kernel.connect_spares hne success, h.socket, h.established⟩
      split at hok
      · exact (hspares s.connectionEstablished).report hok
      · cases hok
        exact hspares true

/-- What is closed is held by a variable. -/
theorem Apart.closeSocket (h : s.Apart d) (hok : s.closeSocket = .ok s') : Spares d s s' := by
  unfold NetworkConnection.closeSocket at hok
  split at hok
  case h_1 => cases hok
  case h_2 descriptor hsocket =>
    cases hok
    have hne : d ≠ descriptor := fun heq => h.socket (heq ▸ hsocket)
    exact ⟨Kernel.sockets_set_of_ne hne none, h.socket, h.established⟩

theorem Apart.closeEstablishedSocket (h : s.Apart d)
    (hok : s.closeEstablishedSocket = .ok s') : Spares d s s' := by
  unfold NetworkConnection.closeEstablishedSocket at hok
  split at hok
  case h_1 => cases hok
  case h_2 descriptor hestablished =>
    cases hok
    have hne : d ≠ descriptor := fun heq => h.established (heq ▸ hestablished)
    exact ⟨Kernel.sockets_set_of_ne hne none, h.socket, h.established⟩

theorem Apart.terminateConnection (h : s.Apart d) (hok : s.terminateConnection = .ok s') :
    Spares d s s' := by
  unfold NetworkConnection.terminateConnection at hok
  split at hok
  case isFalse => cases hok
  case isTrue =>
    obtain ⟨s₁, hfirst, hrest⟩ := Except.bind_eq_ok_iff.mp hok
    have hspares₁ := h.closeSocket hfirst
    have hapart₁ := h.of_spares hspares₁
    split at hrest
    -- an accepted connection has a second socket
    case isTrue =>
      obtain ⟨s₂, hsecond, hlast⟩ := Except.bind_eq_ok_iff.mp hrest
      have hspares₂ := hapart₁.closeEstablishedSocket hsecond
      cases hlast
      exact ⟨hspares₂.entry.trans hspares₁.entry, hspares₂.socket, hspares₂.established⟩
    case isFalse =>
      cases hrest
      exact ⟨hspares₁.entry, hspares₁.socket, hspares₁.established⟩

/-- No call that returns touches a socket that neither variable holds. -/
theorem Apart.apply (h : s.Apart d) {op : Op} (hok : op.apply s = .ok s') : Spares d s s' := by
  cases op with
  | setParameters clientFound serverFound answer => exact h.setParameters hok
  | acceptConnection bound answer => exact h.acceptConnection hok
  | startConnection success => exact h.startConnection hok
  | terminateConnection => exact h.terminateConnection hok
  | sendToConnection limit link payload size =>
    rw [apply_sendToConnection] at hok
    cases hok
  | receiveFromConnection limit link =>
    rw [apply_receiveFromConnection] at hok
    cases hok

/-! ## Runs -/

/-- A call, or what the rest of the process does to a descriptor. -/
inductive SharedOp where
  | call (op : Op)
  | others (descriptor : Int) (entry : Option SocketState)

/-- One step of the process. -/
def sharedStep (s : NetworkConnection) : SharedOp → Except Fault (Unit × NetworkConnection)
  | .call op => (op.apply s).map fun s' => ((), s')
  | .others descriptor entry => .ok ((), { s with kernel := s.kernel.set descriptor entry })

/-- A socket that neither variable holds when a run begins is left alone up to the first transfer,
    as long as the rest of the process leaves it alone, whatever happens to other descriptors in
    between. -/
theorem untouched_while_apart (h : s.Apart d) (ops : List SharedOp)
    (hops : ∀ entry, SharedOp.others d entry ∉ ops) :
    ∀ t ∈ StepRun.visited sharedStep s ops, t.kernel.sockets d = s.kernel.sockets d := by
  have hkeep : ∀ t op o t', (t.Apart d ∧ t.kernel.sockets d = s.kernel.sockets d) →
      (∀ entry, op ≠ SharedOp.others d entry) → sharedStep t op = .ok (o, t') →
      t'.Apart d ∧ t'.kernel.sockets d = s.kernel.sockets d := by
    intro t op o t' ht hop hok
    have hspares : Spares d t t' := by
      cases op with
      | call op =>
        obtain ⟨t₁, happly, heq⟩ := Except.map_eq_ok_iff.mp hok
        cases heq
        exact ht.1.apply happly
      | others descriptor entry =>
        cases hok
        have hne : d ≠ descriptor := fun heq => hop entry (heq ▸ rfl)
        exact ⟨Kernel.sockets_set_of_ne hne entry, ht.1.socket, ht.1.established⟩
    exact ⟨ht.1.of_spares hspares, hspares.entry.trans ht.2⟩
  have hother : ∀ op ∈ ops, ∀ entry, op ≠ SharedOp.others d entry :=
    fun op hop entry heq => hops entry (heq ▸ hop)
  intro t ht
  exact (StepRun.forall_visited_of_ops hkeep ⟨h, rfl⟩ hother t ht).2

/-- A new instance in a process that has a connection of its own. -/
def besideAnother : NetworkConnection where
  kernel := ⟨fun descriptor => if descriptor = 7 then some .connected else none⟩

/-- A session, in which the process opens another socket. -/
def sessionBeside : List SharedOp :=
  [.call (.setParameters true true 3), .others 4 (some .unconnected),
    .call (.startConnection true), .call .terminateConnection]

/-- All of its calls return, and the connection is there throughout. -/
theorem untouched_while_apart_session :
    (StepRun.outputs sharedStep besideAnother sessionBeside).length = 4 ∧
      ∀ t ∈ StepRun.visited sharedStep besideAnother sessionBeside,
        t.kernel.sockets 7 = some .connected := by
  have h : besideAnother.Apart 7 :=
    ⟨rfl, by decide, (Option.some_ne_none 7).symm, (Option.some_ne_none 7).symm⟩
  exact ⟨rfl, untouched_while_apart h sessionBeside (by simp [sessionBeside])⟩

end NetworkConnection

end NetworkedFS
