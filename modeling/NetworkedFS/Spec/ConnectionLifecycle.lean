import NetworkedFS.Native.NetworkConnection
import NetworkedFS.Spec.NetworkFraming

/-!
# The lifecycle of connections

What the flags of a `network_instance` say about its descriptors, and what happens to the
descriptors.  Terminating leaves the connection ready with a closed socket, setting up again
overwrites a socket that may be open, and so does accepting with a connection; a transfer is
undefined.

## Key results

- `Consistent.sound_iff_harmless`: which calls keep flags and descriptors together;
- `Consistent.apply`: a harmless call keeps the invariant;
- `runSound_iff_harmless`: a run keeps flags and descriptors together exactly when all its
  calls are harmless.
-/

namespace NetworkedFS

/-- A variable holds a descriptor that is open, if it was not closed. -/
def Kernel.HoldsOpen (kernel : Kernel) (variable_ : Option Int) (closes : Nat) : Prop :=
  ∀ d, variable_ = some d → 0 ≤ d ∧ (closes = 0 → kernel.isOpen d = true)

namespace NetworkConnection

/-! ## What the flags say -/

/-- The flags tell what is open, and what was overwritten had been closed once. -/
structure Accounted (s : NetworkConnection) : Prop where
  ready : s.connectionReady = true →
    ∃ descriptor, s.socketDescriptor = some descriptor ∧ s.kernel.isOpen descriptor = true
  established : s.connectionEstablished = true →
    ∃ descriptor, s.networkDescriptor = some descriptor ∧ s.kernel.isConnected descriptor = true
  overwritten : ∀ closes ∈ s.overwritten, closes = 1
  socketCloses : s.socketCloses ≤ 1
  establishedSocketCloses : s.establishedSocketCloses ≤ 1

/-- A call stops at an assertion, or leads to a state with `P`. -/
def LeadsTo (P : NetworkConnection → Prop) : Except Fault NetworkConnection → Prop
  | .error fault => fault = .assertion
  | .ok s' => P s'

/-- A call stops at an assertion, or leads to a state that is accounted for. -/
def Sound (s : NetworkConnection) (op : Op) : Prop := LeadsTo Accounted (op.apply s)

/-- The calls that do no harm: no descriptor is overwritten before it is closed, a connection
    is not terminated while it is ready, and nothing is transferred. -/
def Harmless (s : NetworkConnection) : Op → Prop
  | .setParameters clientFound serverFound answer =>
    clientFound = true → serverFound = true → s.kernel.gives answer = true →
      s.socketDescriptor = none ∨ s.socketCloses = 1
  | .acceptConnection bound answer =>
    s.connectionReady = true → bound = true → s.kernel.gives answer = true →
      s.establishedSocketDescriptor = none ∨ s.establishedSocketCloses = 1
  | .startConnection _ => True
  | .terminateConnection => s.connectionEstablished = true → s.connectionReady = false
  | .sendToConnection .. => s.connectionEstablished = false
  | .receiveFromConnection .. => s.connectionEstablished = false

/-- The invariant: descriptors that were not closed are open, they are two different ones, and
    a connection holds those that it needs. -/
structure Consistent (s : NetworkConnection) : Prop where
  accounted : s.Accounted
  socket_open : s.kernel.HoldsOpen s.socketDescriptor s.socketCloses
  established_open : s.kernel.HoldsOpen s.establishedSocketDescriptor s.establishedSocketCloses
  apart : ∀ d e, s.socketDescriptor = some d → s.establishedSocketDescriptor = some e →
    s.socketCloses = 0 → s.establishedSocketCloses = 0 → d ≠ e
  socket_held : s.connectionReady = true ∨ s.connectionEstablished = true →
    s.socketCloses = 0 ∧ s.socketDescriptor ≠ none
  established_held : s.connectionEstablished = true → s.connectionIsClient = false →
    s.establishedSocketCloses = 0

/-- Nothing is open at first. -/
theorem consistent_fresh : ({} : NetworkConnection).Consistent where
  accounted :=
    { ready := nofun
      established := nofun
      overwritten := nofun
      socketCloses := Nat.zero_le 1
      establishedSocketCloses := Nat.zero_le 1 }
  socket_open := nofun
  established_open := nofun
  apart := nofun
  socket_held h := by cases h with
    | inl h => cases h
    | inr h => cases h
  established_held := nofun

end NetworkConnection

/-! ## The kernel -/

namespace Kernel

variable {kernel : Kernel} {d e : Int} {entry : Option SocketState}

/-- A descriptor is open exactly when its entry is one. -/
@[simp] theorem isOpen_set_self : (kernel.set d entry).isOpen d = entry.isSome := by
  simp only [isOpen, set, Function.update_self]

/-- A descriptor is connected exactly when its entry is. -/
@[simp] theorem isConnected_set_self :
    (kernel.set d entry).isConnected d = decide (entry = some .connected) := by
  simp only [isConnected, set, Function.update_self]

/-- The other descriptors stay as they are. -/
theorem isOpen_set_of_ne (h : e ≠ d) : (kernel.set d entry).isOpen e = kernel.isOpen e := by
  simp only [isOpen, set, Function.update_of_ne h]

/-- A socket that gets an entry is open, and the others stay open. -/
theorem isOpen_set_some (state : SocketState) (h : kernel.isOpen e = true) :
    (kernel.set d (some state)).isOpen e = true := by
  by_cases he : e = d
  · rw [he, isOpen_set_self]
    rfl
  · rw [isOpen_set_of_ne he, h]

/-- A variable goes on holding an open descriptor when some descriptor gets an entry. -/
theorem HoldsOpen.set_some {variable_ : Option Int} {closes : Nat}
    (h : kernel.HoldsOpen variable_ closes) (d : Int) (state : SocketState) :
    (kernel.set d (some state)).HoldsOpen variable_ closes := by
  intro e he
  obtain ⟨hnonneg, hopen⟩ := h e he
  exact ⟨hnonneg, fun hcloses => isOpen_set_some state (hopen hcloses)⟩

/-- A descriptor that was closed need not be open. -/
theorem HoldsOpen.close {variable_ : Option Int} {closes : Nat}
    (h : kernel.HoldsOpen variable_ closes) (kernel' : Kernel) :
    kernel'.HoldsOpen variable_ (closes + 1) :=
  fun d hd => ⟨(h d hd).1, nofun⟩

/-- A new descriptor is none of those that are open. -/
theorem ne_of_gives (h : kernel.gives d = true) (he : kernel.isOpen e = true) : e ≠ d := by
  rintro rfl
  rw [gives, he] at h
  simp at h

/-- A new descriptor is not negative. -/
theorem nonneg_of_gives (h : kernel.gives d = true) : 0 ≤ d := by
  rw [gives, Bool.and_eq_true] at h
  exact of_decide_eq_true h.1

/-- A variable that is assigned a new descriptor holds it. -/
theorem holdsOpen_of_gives (h : kernel.gives d = true) (state : SocketState) (closes : Nat) :
    (kernel.set d (some state)).HoldsOpen (some d) closes := by
  rintro e ⟨⟩
  exact ⟨nonneg_of_gives h, fun _ => isOpen_set_self⟩

end Kernel

/-! ## What each call does -/

namespace NetworkConnection

variable {s : NetworkConnection}

/-- The errors about the hosts have codes that the assertion lets pass. -/
theorem report_host (s : NetworkConnection) (clientFound : Bool) :
    ∃ status, s.report (if clientFound then .cannotObtainServerAddress
      else .cannotObtainClientAddress) = .ok { s with status } := by
  cases clientFound with
  | false => exact ⟨_, rfl⟩
  | true => exact ⟨_, rfl⟩

/-- Without both hosts there is only a report. -/
theorem setParameters_of_not_found {clientFound serverFound : Bool}
    (hfound : (clientFound && serverFound) = false) (answer : Int) :
    ∃ status, s.setParameters clientFound serverFound answer =
      .ok { s with connectionReady := false, status } := by
  obtain ⟨status, hreport⟩ := report_host { s with connectionReady := false } clientFound
  refine ⟨status, ?_⟩
  simp only [setParameters, hfound, Bool.false_eq_true, if_false, pure_bind, hreport]

/-- With both hosts a new socket is stored. -/
theorem setParameters_of_gives {answer : Int} (hgives : s.kernel.gives answer = true) :
    ∃ status, s.setParameters true true answer = .ok
      { { s with kernel := s.kernel.set answer (some .unconnected) }.setSocket answer with
        connectionReady := true
        status } := by
  obtain ⟨status, hreport⟩ := report_host
    { { s with kernel := s.kernel.set answer (some .unconnected) }.setSocket answer with
      connectionReady := true } true
  refine ⟨status, ?_⟩
  have hnonneg : ¬ answer < 0 := not_lt.mpr (Kernel.nonneg_of_gives hgives)
  simp only [setParameters, initConnection, Kernel.socket, hgives, Bool.and_self, if_true,
    if_neg hnonneg, bind, Except.bind]
  exact hreport

/-- Without a new socket the report stops. -/
theorem setParameters_of_not_gives {answer : Int} (hgives : s.kernel.gives answer = false) :
    s.setParameters true true answer = .error .assertion := by
  simp only [setParameters, initConnection, Kernel.socket, hgives, Bool.and_self, if_true,
    Bool.false_eq_true, if_false, if_pos (by decide : (-1 : Int) < 0)]
  rfl

/-- A connection that is ready accepts when everything is answered so, and stops otherwise. -/
theorem acceptConnection_eq {d : Int} (hready : s.connectionReady = true)
    (hsocket : s.socketDescriptor = some d) (hopen : s.kernel.isOpen d = true) (bound : Bool)
    (answer : Int) :
    s.acceptConnection bound answer =
      if bound && s.kernel.gives answer then .ok
        { { s with
            connectionIsClient := false
            kernel := s.kernel.set answer (some .connected) }.setEstablishedSocket answer with
          connectionEstablished := true }
      else .error .assertion := by
  -- the descriptor is -1 unless both the bind and the accept succeed
  cases bound with
  | false =>
    simp only [acceptConnection, hready, if_true, hsocket, Kernel.bind, Bool.and_false,
      Bool.false_eq_true, if_false, Bool.false_and, ge_iff_le,
      if_neg (by decide : ¬ 0 ≤ (-1 : Int))]
    rfl
  | true =>
    cases hgives : s.kernel.gives answer with
    | false =>
      simp only [acceptConnection, hready, if_true, hsocket, Kernel.bind, Kernel.accept, hopen,
        hgives, Bool.and_self, Bool.and_false, Bool.false_eq_true, if_false, ge_iff_le, le_refl,
        if_neg (by decide : ¬ 0 ≤ (-1 : Int))]
      rfl
    | true =>
      simp only [acceptConnection, hready, if_true, hsocket, Kernel.bind, Kernel.accept, hopen,
        hgives, Bool.and_self, ge_iff_le, le_refl, if_pos (Kernel.nonneg_of_gives hgives)]
      rfl

/-- A connection that is ready and not established connects, or stops. -/
theorem startConnection_eq {d : Int} (hready : s.connectionReady = true)
    (hestablished : s.connectionEstablished = false) (hsocket : s.socketDescriptor = some d)
    (hopen : s.kernel.isOpen d = true) (success : Bool) :
    s.startConnection success =
      if success then .ok { s with
        connectionIsClient := true
        connectionEstablished := true
        kernel := s.kernel.set d (some .connected) }
      else .error .assertion := by
  cases success with
  | false =>
    simp only [startConnection, hready, hestablished, Bool.not_false, Bool.and_self, if_true,
      hsocket, Kernel.connect, Bool.and_false, Bool.false_eq_true, if_false,
      if_pos (by decide : (-1 : Int) < 0)]
    rfl
  | true =>
    simp only [startConnection, hready, hestablished, Bool.not_false, Bool.and_self, if_true,
      hsocket, Kernel.connect, hopen, if_neg (by decide : ¬ (0 : Int) < 0)]

/-- The client closes its socket. -/
theorem terminateConnection_of_client {d : Int} (hestablished : s.connectionEstablished = true)
    (hclient : s.connectionIsClient = true) (hsocket : s.socketDescriptor = some d) :
    s.terminateConnection = .ok { s with
      kernel := s.kernel.close d
      socketCloses := s.socketCloses + 1
      connectionEstablished := false } := by
  simp only [terminateConnection, hestablished, if_true, closeSocket, hsocket, bind, Except.bind,
    hclient, Bool.not_true, Bool.false_eq_true, if_false, pure, Except.pure]

/-- The server closes both sockets. -/
theorem terminateConnection_of_server {d e : Int} (hestablished : s.connectionEstablished = true)
    (hclient : s.connectionIsClient = false) (hsocket : s.socketDescriptor = some d)
    (haccepted : s.establishedSocketDescriptor = some e) :
    s.terminateConnection = .ok { s with
      kernel := (s.kernel.close d).close e
      socketCloses := s.socketCloses + 1
      establishedSocketCloses := s.establishedSocketCloses + 1
      connectionEstablished := false } := by
  simp only [terminateConnection, hestablished, if_true, closeSocket, hsocket, bind, Except.bind,
    hclient, Bool.not_false, closeEstablishedSocket, haccepted, pure, Except.pure]

/-- A send reads behind the end of the buffer. -/
theorem apply_sendToConnection (s : NetworkConnection) (limit : Nat → Nat) (link : Link)
    (payload : List UInt8) (size : Int) :
    (Op.sendToConnection limit link payload size).apply s =
      .error (if s.connectionEstablished then .undefined else .assertion) := by
  rw [Op.apply, NetworkInstance.sendToConnection_of_short limit (by decide)]
  rfl

/-- A receive writes behind the end of the buffer. -/
theorem apply_receiveFromConnection (s : NetworkConnection) (limit : Nat → Nat) (link : Link) :
    (Op.receiveFromConnection limit link).apply s =
      .error (if s.connectionEstablished then .undefined else .assertion) := by
  rw [Op.apply, NetworkInstance.receiveFromConnection_of_short limit (by decide)]
  rfl

/-- A transfer is sound only without a connection. -/
theorem not_established_of_leadsTo {P : NetworkConnection → Prop} {established : Bool}
    (h : LeadsTo P (.error (if established then .undefined else .assertion))) :
    established = false := by
  cases established with
  | false => rfl
  | true => cases h

/-! ## Overwriting -/

/-- Overwriting is fine when there was no descriptor or it was closed. -/
theorem eq_one_of_mem_overwrite {variable_ : Option Int} {closes : Nat}
    (h : variable_ = none ∨ closes = 1) : ∀ n ∈ overwrite variable_ closes, n = 1 := by
  intro n hn
  cases variable_ with
  | none => cases hn
  | some d =>
    rw [overwrite] at hn
    split at hn
    · cases hn
    · rw [List.mem_singleton.mp hn]
      exact h.resolve_left nofun

/-- Overwriting a descriptor says how often it was closed. -/
theorem eq_none_or_eq_one_of_overwrite {variable_ : Option Int} {closes : Nat}
    (hnonneg : ∀ d, variable_ = some d → 0 ≤ d) (h : ∀ n ∈ overwrite variable_ closes, n = 1) :
    variable_ = none ∨ closes = 1 := by
  cases variable_ with
  | none => exact .inl rfl
  | some d =>
    rw [overwrite, if_neg (not_lt.mpr (hnonneg d rfl))] at h
    exact .inr (h closes (List.mem_singleton_self closes))

/-! ## Steps -/

namespace Consistent

/-- A new socket takes the place of one that was closed. -/
theorem setParameters (hs : s.Consistent) {clientFound serverFound : Bool} {answer : Int}
    (h : s.Harmless (.setParameters clientFound serverFound answer)) :
    LeadsTo Consistent (s.setParameters clientFound serverFound answer) := by
  cases hfound : clientFound && serverFound with
  | false =>
    -- without both hosts no socket is opened
    obtain ⟨status, hok⟩ := setParameters_of_not_found (s := s) hfound answer
    rw [hok]
    exact { hs with
      accounted := { hs.accounted with ready := nofun }
      socket_held := fun hheld => hs.socket_held (hheld.imp nofun id) }
  | true =>
    obtain ⟨rfl, rfl⟩ := (Bool.and_eq_true _ _).mp hfound
    cases hgives : s.kernel.gives answer with
    | false =>
      rw [setParameters_of_not_gives hgives]
      exact rfl
    | true =>
      obtain ⟨status, hok⟩ := setParameters_of_gives hgives
      rw [hok]
      have hclosed : s.socketDescriptor = none ∨ s.socketCloses = 1 := h rfl rfl hgives
      -- with a connection the last socket would still be open
      have hestablished : s.connectionEstablished ≠ true := by
        intro hestablished
        obtain ⟨hcloses, hne⟩ := hs.socket_held (.inr hestablished)
        exact hclosed.elim hne (by omega)
      -- the new descriptor replaces one that was closed, once
      exact
        { accounted :=
            { ready := fun _ => ⟨answer, rfl, Kernel.isOpen_set_self⟩
              established := fun hheld => absurd hheld hestablished
              overwritten := List.forall_mem_append.mpr
                ⟨eq_one_of_mem_overwrite hclosed, hs.accounted.overwritten⟩
              socketCloses := Nat.zero_le 1
              establishedSocketCloses := hs.accounted.establishedSocketCloses }
          socket_open := Kernel.holdsOpen_of_gives hgives _ _
          established_open := hs.established_open.set_some _ _
          apart := by
            rintro d e ⟨⟩ he - hcloses
            exact (Kernel.ne_of_gives hgives ((hs.established_open e he).2 hcloses)).symm
          socket_held := fun _ => ⟨rfl, nofun⟩
          established_held := fun hheld => absurd hheld hestablished }

/-- A connection that is ready has an open socket. -/
theorem exists_socket (hs : s.Consistent)
    (h : s.connectionReady = true ∨ s.connectionEstablished = true) :
    ∃ d, s.socketDescriptor = some d ∧ s.socketCloses = 0 ∧ s.kernel.isOpen d = true := by
  obtain ⟨hcloses, hne⟩ := hs.socket_held h
  obtain ⟨d, hd⟩ := Option.ne_none_iff_exists'.mp hne
  exact ⟨d, hd, hcloses, (hs.socket_open d hd).2 hcloses⟩

/-- An accepted connection takes the place of one that was closed. -/
theorem acceptConnection (hs : s.Consistent) {bound : Bool} {answer : Int}
    (h : s.Harmless (.acceptConnection bound answer)) :
    LeadsTo Consistent (s.acceptConnection bound answer) := by
  by_cases hready : s.connectionReady = true
  · obtain ⟨d, hd, hcloses, hopen⟩ := hs.exists_socket (.inl hready)
    rw [acceptConnection_eq hready hd hopen]
    by_cases hanswers : (bound && s.kernel.gives answer) = true
    · rw [if_pos hanswers]
      obtain ⟨hbound, hgives⟩ := (Bool.and_eq_true _ _).mp hanswers
      -- the descriptor that is written over is one that was closed
      have hclosed := h hready hbound hgives
      have hstill : (s.kernel.set answer (some .connected)).isOpen d = true :=
        Kernel.isOpen_set_some _ hopen
      exact
        { accounted :=
            { ready := fun _ => ⟨d, hd, hstill⟩
              established := fun _ => ⟨answer, rfl, Kernel.isConnected_set_self⟩
              overwritten := List.forall_mem_append.mpr
                ⟨eq_one_of_mem_overwrite hclosed, hs.accounted.overwritten⟩
              socketCloses := hs.accounted.socketCloses
              establishedSocketCloses := Nat.zero_le 1 }
          socket_open := hs.socket_open.set_some _ _
          established_open := Kernel.holdsOpen_of_gives hgives _ _
          apart := by
            rintro e _ he ⟨⟩ hcloses -
            exact Kernel.ne_of_gives hgives ((hs.socket_open e he).2 hcloses)
          socket_held := fun _ => hs.socket_held (.inl hready)
          established_held := fun _ _ => rfl }
    · -- no connection: the report fails its assertion
      rw [if_neg hanswers]
      exact rfl
  · rw [NetworkConnection.acceptConnection, if_neg hready]
    exact rfl

/-- Connecting changes nothing but the state of the socket. -/
theorem startConnection (hs : s.Consistent) (success : Bool) :
    LeadsTo Consistent (s.startConnection success) := by
  by_cases hguard : (s.connectionReady && !s.connectionEstablished) = true
  · obtain ⟨hready, hestablished⟩ := (Bool.and_eq_true _ _).mp hguard
    obtain ⟨d, hd, hcloses, hopen⟩ := hs.exists_socket (.inl hready)
    rw [startConnection_eq hready ((Bool.not_eq_true' _).mp hestablished) hd hopen]
    cases success with
    | false => exact rfl
    | true =>
      exact
        { accounted := { hs.accounted with
            ready := fun _ => ⟨d, hd, Kernel.isOpen_set_self⟩
            established := fun _ => ⟨d, hd, Kernel.isConnected_set_self⟩ }
          socket_open := hs.socket_open.set_some _ _
          established_open := hs.established_open.set_some _ _
          apart := hs.apart
          socket_held := fun _ => hs.socket_held (.inl hready)
          established_held := nofun }
  · rw [NetworkConnection.startConnection, if_neg hguard]
    exact rfl

/-- A connection that was accepted is open. -/
theorem exists_establishedSocket (hs : s.Consistent) (hestablished : s.connectionEstablished = true)
    (hclient : s.connectionIsClient = false) :
    ∃ e, s.establishedSocketDescriptor = some e := by
  obtain ⟨e, he, -⟩ := hs.accounted.established hestablished
  rw [NetworkInstance.networkDescriptor, hclient, if_neg Bool.false_ne_true] at he
  exact ⟨e, he⟩

/-- A connection that is not ready any more is closed. -/
theorem terminateConnection (hs : s.Consistent) (h : s.Harmless .terminateConnection) :
    LeadsTo Consistent s.terminateConnection := by
  by_cases hestablished : s.connectionEstablished = true
  -- the one socket that the connection holds has not been closed yet
  · obtain ⟨d, hd, hcloses, -⟩ := hs.exists_socket (.inr hestablished)
    have hready : s.connectionReady = false := h hestablished
    have hnot_ready : s.connectionReady ≠ true := by
      rw [hready]
      exact Bool.false_ne_true
    have hclosed : s.socketCloses + 1 ≤ 1 := by omega
    cases hclient : s.connectionIsClient with
    | true =>
      rw [terminateConnection_of_client hestablished hclient hd]
      exact
        { accounted := { hs.accounted with
            ready := fun hheld => absurd hheld hnot_ready
            established := nofun
            socketCloses := hclosed }
          socket_open := hs.socket_open.close _
          -- what was accepted before is another descriptor
          established_open := fun e he => (hs.established_open e he).imp id
            fun hopen hopened => by
              have hne : d ≠ e := hs.apart d e hd he hcloses hopened
              rw [Kernel.close, Kernel.isOpen_set_of_ne hne.symm]
              exact hopen hopened
          apart := nofun
          socket_held := fun hheld => hheld.elim (absurd · hnot_ready) nofun
          established_held := nofun }
    | false =>
      -- a server has two sockets, and closes both
      obtain ⟨e, he⟩ := hs.exists_establishedSocket hestablished hclient
      rw [terminateConnection_of_server hestablished hclient hd he]
      have hheld : s.establishedSocketCloses = 0 := hs.established_held hestablished hclient
      have haccepted : s.establishedSocketCloses + 1 ≤ 1 := by omega
      exact
        { accounted := { hs.accounted with
            ready := fun hheld => absurd hheld hnot_ready
            established := nofun
            socketCloses := hclosed
            establishedSocketCloses := haccepted }
          socket_open := hs.socket_open.close _
          established_open := hs.established_open.close _
          apart := nofun
          socket_held := fun hheld => hheld.elim (absurd · hnot_ready) nofun
          established_held := nofun }
  -- without a connection nothing is closed
  · rw [NetworkConnection.terminateConnection, if_neg hestablished]
    exact rfl

/-- A harmless call keeps the invariant. -/
theorem apply (hs : s.Consistent) {op : Op} (h : s.Harmless op) :
    LeadsTo Consistent (op.apply s) := by
  cases op with
  | setParameters clientFound serverFound answer => exact hs.setParameters h
  | acceptConnection bound answer => exact hs.acceptConnection h
  | startConnection success => exact hs.startConnection success
  | terminateConnection => exact hs.terminateConnection h
  | sendToConnection limit link payload size =>
    have hestablished : s.connectionEstablished = false := h
    rw [apply_sendToConnection, hestablished]
    exact rfl
  | receiveFromConnection limit link =>
    have hestablished : s.connectionEstablished = false := h
    rw [apply_receiveFromConnection, hestablished]
    exact rfl

/-- A termination leaves no open socket. -/
theorem exists_closed (hs : s.Consistent) (hestablished : s.connectionEstablished = true) :
    ∃ d s', s.terminateConnection = .ok s' ∧ s'.connectionReady = s.connectionReady ∧
      s'.socketDescriptor = some d ∧ s'.kernel.isOpen d = false := by
  obtain ⟨d, hd, -, -⟩ := hs.exists_socket (.inr hestablished)
  refine ⟨d, ?_⟩
  cases hclient : s.connectionIsClient with
  | true =>
    exact ⟨_, terminateConnection_of_client hestablished hclient hd, rfl, hd,
      Kernel.isOpen_set_self⟩
  | false =>
    obtain ⟨e, he⟩ := hs.exists_establishedSocket hestablished hclient
    refine ⟨_, terminateConnection_of_server hestablished hclient hd he, rfl, hd, ?_⟩
    by_cases hne : d = e
    · rw [hne]
      exact Kernel.isOpen_set_self
    · rw [Kernel.close, Kernel.isOpen_set_of_ne hne]
      exact Kernel.isOpen_set_self

/-- Only a harmless call is sound. -/
theorem harmless_of_sound (hs : s.Consistent) {op : Op} (h : s.Sound op) : s.Harmless op := by
  cases op with
  -- a descriptor that is written over stays in the account, so it was none or a closed one
  | setParameters clientFound serverFound answer =>
    rintro rfl rfl hgives
    obtain ⟨status, hok⟩ := setParameters_of_gives hgives
    rw [Sound, Op.apply, hok] at h
    have hoverwritten := (List.forall_mem_append.mp (Accounted.overwritten h)).1
    exact eq_none_or_eq_one_of_overwrite (fun d hd => (hs.socket_open d hd).1) hoverwritten
  | acceptConnection bound answer =>
    rintro hready rfl hgives
    obtain ⟨d, hd, -, hopen⟩ := hs.exists_socket (.inl hready)
    rw [Sound, Op.apply, acceptConnection_eq hready hd hopen, hgives] at h
    have hoverwritten := (List.forall_mem_append.mp (Accounted.overwritten h)).1
    exact eq_none_or_eq_one_of_overwrite (fun e he => (hs.established_open e he).1) hoverwritten
  | startConnection success => exact trivial
  | terminateConnection =>
    intro hestablished
    -- otherwise it is still ready afterwards, with a socket that was closed
    by_contra hready
    obtain ⟨d, s', hok, hready', hd, hclosed⟩ := hs.exists_closed hestablished
    rw [Sound, Op.apply, hok] at h
    obtain ⟨e, he, hopen⟩ := Accounted.ready h (hready'.trans (Bool.of_not_eq_false hready))
    rw [hd] at he
    cases he
    rw [hclosed] at hopen
    cases hopen
  -- a transfer leaves its buffer, so that no connection can have been established
  | sendToConnection limit link payload size =>
    rw [Sound, apply_sendToConnection] at h
    exact not_established_of_leadsTo h
  | receiveFromConnection limit link =>
    rw [Sound, apply_receiveFromConnection] at h
    exact not_established_of_leadsTo h

/-- Under the invariant, the sound calls are the harmless ones. -/
theorem sound_iff_harmless (hs : s.Consistent) (op : Op) : s.Sound op ↔ s.Harmless op := by
  refine ⟨hs.harmless_of_sound, fun h => ?_⟩
  have hkeeps := hs.apply h
  rw [Sound]
  cases hresult : op.apply s with
  | error fault =>
    rw [hresult] at hkeeps
    exact hkeeps
  | ok s' =>
    rw [hresult] at hkeeps
    exact Consistent.accounted hkeeps

end Consistent

/-! ## Runs -/

/-- One call of a run. -/
def step (s : NetworkConnection) (op : Op) : Except Fault (Unit × NetworkConnection) :=
  (op.apply s).map fun s' => ((), s')

/-- A harmless call that returns keeps the invariant. -/
theorem Consistent.step {s' : NetworkConnection} (hs : s.Consistent) {op : Op}
    (h : s.Harmless op) {o : Unit} (hok : s.step op = .ok (o, s')) : s'.Consistent := by
  obtain ⟨s₁, happly, heq⟩ := Except.map_eq_ok_iff.mp hok
  cases heq
  have hkeeps := hs.apply h
  rw [happly] at hkeeps
  exact hkeeps

/-- All calls of a run on a new object are sound exactly when all are harmless. -/
theorem runSound_iff_harmless (ops : List Op) :
    (∀ c ∈ StepRun.calls step {} ops, c.1.Sound c.2) ↔
      ∀ c ∈ StepRun.calls step {} ops, c.1.Harmless c.2 :=
  StepRun.forall_calls_iff (fun _ op hs => Consistent.sound_iff_harmless hs op)
    (fun _ _ _ _ hs hharmless hok => hs.step hharmless hok) consistent_fresh ops

/-- A client that connects and terminates. -/
def session : List Op := [.setParameters true true 3, .startConnection true, .terminateConnection]

/-- Afterwards it is ready, and its socket is closed. -/
theorem session_not_sound : ¬ ∀ c ∈ StepRun.calls step {} session, c.1.Sound c.2 := by
  intro h
  have hlast := h _ (.tail _ (.tail _ (.head _)))
  obtain ⟨d, hd, hopen⟩ := Accounted.ready hlast rfl
  cases hd
  cases hopen

end NetworkConnection

end NetworkedFS
