import NetworkedFS.ForStd.Except
import NetworkedFS.ForStd.StepRun
import NetworkedFS.Native.Network

/-!
# Framing of payloads on a connection

Payloads go through `sendToConnection` on one end of an established connection and
`receiveFromConnection` on the other.  The header transfers ask for 256 bytes of an
array that is declared with the length of the error table, so the first call that
touches it is undefined.

What the two functions could do with an array of the length they use is said as well:
they deliver every payload when no transfer is shortened, and a shortened transfer of a
payload loses its end, as nothing asks for the missing bytes again.

## Key results

- `delivers_iff`: what is delivered with the buffer as it is declared;
- `delivers_of_unshortened`: delivery with a buffer of 256 bytes and whole transfers;
- `not_delivers_of_short_body`: a shortened `write` of a payload is not made up for.
-/

namespace NetworkedFS

open CString (Cell)

/-- A payload whose length is an `int`. -/
structure Payload where
  bytes : List UInt8
  length_le : (bytes.length : Int) ≤ CString.maxInt

/-- What receiving exactly this payload gives. -/
def Payload.received (payload : Payload) : Received where
  bytes := payload.bytes.map some
  size := payload.bytes.length

/-- The two parties and the direction of the connection between them that is used. -/
structure Connection (capacity : Nat) where
  sender : NetworkInstance capacity
  receiver : NetworkInstance capacity
  link : Link

/-- A call of one of the parties. -/
inductive Transfer where
  | send (payload : Payload)
  | receive

namespace Connection

variable {capacity : Nat} (limit : Nat → Nat)

/-- A call and what it receives. -/
def step (c : Connection capacity) :
    Transfer → Except Fault (Option Received × Connection capacity)
  | .send payload => do
    let (sender, link) ←
      c.sender.sendToConnection limit c.link payload.bytes payload.bytes.length
    return (none, { c with sender := sender, link := link })
  | .receive => do
    let (received, receiver, link) ← c.receiver.receiveFromConnection limit c.link
    return (some received, { c with receiver := receiver, link := link })

/-- Both parties are established on the ends of the link. -/
structure Ready (c : Connection capacity) : Prop where
  sender_established : c.sender.connectionEstablished = true
  sender_descriptor : c.sender.networkDescriptor = some c.link.writeEnd
  receiver_established : c.receiver.connectionEstablished = true
  receiver_descriptor : c.receiver.networkDescriptor = some c.link.readEnd

end Connection

/-- An established connection on which nothing was sent yet. -/
structure EstablishedConnection (capacity : Nat) extends Connection capacity where
  ready : toConnection.Ready
  nothing_inFlight : link.stream.inFlight = []

/-! ## Exchanges -/

/-- `Interleaving n payloads calls`: with `n` payloads sent and not yet received, the
    calls send the payloads one by one and receive them all, none before it was sent. -/
inductive Interleaving : Nat → List Payload → List Transfer → Prop
  | done : Interleaving 0 [] []
  | send {n : Nat} {payload : Payload} {payloads : List Payload} {calls : List Transfer} :
      Interleaving (n + 1) payloads calls →
      Interleaving n (payload :: payloads) (.send payload :: calls)
  | receive {n : Nat} {payloads : List Payload} {calls : List Transfer} :
      Interleaving n payloads calls → Interleaving (n + 1) payloads (.receive :: calls)

/-- An exchange of `payloads`: an order of their sends and receives. -/
structure Exchange (payloads : List Payload) where
  calls : List Transfer
  interleaved : Interleaving 0 payloads calls

/-- One payload, sent and then received. -/
def Exchange.single (payload : Payload) : Exchange [payload] where
  calls := [.send payload, .receive]
  interleaved := .send (.receive .done)

/-- The values that the receiving calls of an exchange hand back, as far as they return. -/
def Exchange.received {capacity : Nat} {payloads : List Payload} (exchange : Exchange payloads)
    (limit : Nat → Nat) (c : Connection capacity) : List Received :=
  (StepRun.outputs (Connection.step limit) c exchange.calls).filterMap id

/-- The `k`-th receive hands back exactly the `k`-th payload. -/
def Exchange.Delivers {capacity : Nat} {payloads : List Payload} (exchange : Exchange payloads)
    (limit : Nat → Nat) (c : Connection capacity) : Prop :=
  exchange.received limit c = payloads.map Payload.received

/-! ## The buffer as it is declared -/

namespace NetworkInstance

variable {capacity : Nat}

theorem openDescriptor_eq_ok {instance_ : NetworkInstance capacity} {descriptor : Int}
    (hestablished : instance_.connectionEstablished = true)
    (hdescriptor : instance_.networkDescriptor = some descriptor) :
    instance_.openDescriptor = .ok descriptor := by
  simp only [openDescriptor, hestablished, hdescriptor, if_pos]

/-- Without a descriptor to use, the assertion fails or a variable without a value is read. -/
theorem openDescriptor_cases (instance_ : NetworkInstance capacity) :
    (∃ descriptor, instance_.connectionEstablished = true ∧
      instance_.openDescriptor = .ok descriptor) ∨
    instance_.openDescriptor =
      .error (if instance_.connectionEstablished then .undefined else .assertion) := by
  rw [openDescriptor]
  cases instance_.connectionEstablished with
  | false => exact .inr rfl
  | true =>
    cases instance_.networkDescriptor with
    | none => exact .inr rfl
    | some descriptor => exact .inl ⟨descriptor, rfl, rfl⟩

/-- With fewer than 256 bytes in the buffer no send returns. -/
theorem sendToConnection_of_short (limit : Nat → Nat)
    (hcapacity : capacity < networkInstanceSizeBuffer) (instance_ : NetworkInstance capacity)
    (link : Link) (payload : List UInt8) (size : Int) :
    instance_.sendToConnection limit link payload size =
      .error (if instance_.connectionEstablished then .undefined else .assertion) := by
  -- whatever is stored, the header cannot be read out of the buffer
  have hload : ∀ m : Memory capacity, m.load networkInstanceSizeBuffer = .error .undefined :=
    fun m => if_neg (by omega)
  rw [sendToConnection]
  rcases instance_.openDescriptor_cases with ⟨descriptor, hestablished, hopen⟩ | hopen
  · rw [hopen, if_pos hestablished]
    -- the text of the size may be too long already
    by_cases hlength : ((CString.formatInt size).map some ++ [some 0]).length ≤ capacity
    · simp only [Memory.store, dif_pos hlength, bind, Except.bind, hload]
    · simp only [Memory.store, dif_neg hlength, bind, Except.bind]
  · rw [hopen]
    rfl

/-- Nor does a receive. -/
theorem receiveFromConnection_of_short (limit : Nat → Nat)
    (hcapacity : capacity < networkInstanceSizeBuffer) (instance_ : NetworkInstance capacity)
    (link : Link) :
    instance_.receiveFromConnection limit link =
      .error (if instance_.connectionEstablished then .undefined else .assertion) := by
  rw [receiveFromConnection]
  rcases instance_.openDescriptor_cases with ⟨descriptor, hestablished, hopen⟩ | hopen
  · rw [hopen, if_pos hestablished]
    simp only [Link.readInto, if_pos hcapacity, bind, Except.bind]
  · rw [hopen]
    rfl

end NetworkInstance

/-- With the declared buffer an exchange delivers exactly when there is nothing to
    deliver, however the stream splits the transfers. -/
theorem delivers_iff (c : EstablishedConnection sizeBufferCapacity) (payloads : List Payload)
    (exchange : Exchange payloads) (limit : Nat → Nat) :
    exchange.Delivers limit c.toConnection ↔ payloads = [] := by
  obtain ⟨calls, hinterleaved⟩ := exchange
  -- an exchange with a payload begins with a send, as nothing can be received yet
  cases hinterleaved with
  | done => exact ⟨fun _ => rfl, fun _ => rfl⟩
  | @send _ payload payloads calls hrest =>
    have hsend := NetworkInstance.sendToConnection_of_short limit (by decide) c.sender c.link
      payload.bytes payload.bytes.length
    have hstep : ∃ fault, c.toConnection.step limit (.send payload) = .error fault := by
      simp only [Connection.step, hsend, bind, Except.bind, Except.error.injEq, exists_eq']
    obtain ⟨fault, hstep⟩ := hstep
    simp only [Exchange.Delivers, Exchange.received, StepRun.outputs, hstep, List.filterMap_nil,
      List.map_cons, reduceCtorEq]

/-- A client and a server that just connected. -/
def justConnected : EstablishedConnection sizeBufferCapacity where
  sender :=
    { connectionIsClient := true, connectionEstablished := true, socketDescriptor := some 3 }
  receiver :=
    { connectionEstablished := true, socketDescriptor := some 3,
      establishedSocketDescriptor := some 4 }
  link := { writeEnd := 3, readEnd := 4, stream := {} }
  ready := ⟨rfl, rfl, rfl, rfl⟩
  nothing_inFlight := rfl

/-- One byte does not arrive, even though no transfer is shortened. -/
theorem one_byte_not_delivered :
    ByteStream.Unshortened (fun _ => 2147483647) 2147483647 ∧
      ¬ (Exchange.single ⟨[65], by decide⟩).Delivers (fun _ => 2147483647)
        justConnected.toConnection :=
  ⟨fun _ => Nat.le_refl _, by unfold Exchange.Delivers; decide⟩

/-! ## A buffer of the length that is used -/

/-- Data that fits is stored in front of what was there. -/
theorem Memory.store_eq_ok {n : Nat} (m : Memory n) {data : List Cell} (hdata : data.length ≤ n) :
    ∃ m' : Memory n, m.store data = .ok m' ∧ m'.1 = data ++ m.1.drop data.length := by
  unfold store
  rw [dif_pos hdata]
  exact ⟨_, rfl, rfl⟩

/-- A link whose stream holds `cells` after one more transfer. -/
def Link.after (link : Link) (cells : List Cell) : Link :=
  { link with stream := { inFlight := cells, transfers := link.stream.transfers + 1 } }

theorem Link.write_of_le {limit : Nat → Nat} {link : Link} {descriptor : Int} {data : List Cell}
    (hdescriptor : descriptor = link.writeEnd)
    (hlimit : data.length ≤ limit link.stream.transfers) :
    link.write limit descriptor data = link.after (link.stream.inFlight ++ data) := by
  simp only [write, if_pos hdescriptor, ByteStream.write_of_le hlimit, after]

/-- Reads what comes next into the front of an array. -/
theorem Link.readInto_of_le {n : Nat} {limit : Nat → Nat} {link : Link} {data rest : List Cell}
    (hin : link.stream.inFlight = data ++ rest) (hlimit : data.length ≤ limit link.stream.transfers)
    (m : Memory n) (hn : data.length ≤ n) : ∃ m' : Memory n,
      link.readInto limit link.readEnd m data.length = .ok (m', link.after rest) ∧
      m'.1 = data ++ m.1.drop data.length := by
  obtain ⟨m', hstore, hm'⟩ := m.store_eq_ok hn
  refine ⟨m', ?_, hm'⟩
  unfold readInto
  rw [if_neg (by omega), if_pos rfl, ByteStream.read_of_le hin hlimit]
  simp only [hstore, bind, Except.bind, pure, Except.pure]
  rfl

/-- A header: 256 bytes that start with the text of a size. -/
structure IsHeader (size : Int) (header : List Cell) : Prop where
  text : ∃ tail, header = (CString.formatInt size).map some ++ some 0 :: tail
  length : header.length = networkInstanceSizeBuffer

namespace NetworkInstance

variable {capacity : Nat}

/-- With 256 bytes in the buffer a send makes two writes: a header and the payload. -/
theorem sendToConnection_eq_ok (limit : Nat → Nat)
    (hcapacity : networkInstanceSizeBuffer ≤ capacity) {instance_ : NetworkInstance capacity}
    {link : Link}
    (hopen : instance_.openDescriptor = .ok link.writeEnd) (payload : Payload) :
    ∃ header sizeBuffer, IsHeader payload.bytes.length header ∧
      instance_.sendToConnection limit link payload.bytes payload.bytes.length =
        .ok ({ instance_ with sizeBuffer := sizeBuffer },
          (link.write limit link.writeEnd header).write limit link.writeEnd
            (payload.bytes.map some)) := by
  -- the text and its terminator have at most twelve bytes
  have htext := CString.length_formatInt_le (by simp only [CString.minInt]; omega) payload.length_le
  have hcapacity' : 256 ≤ capacity := hcapacity
  have hlength : ((CString.formatInt payload.bytes.length).map some ++ [some 0]).length ≤ 12 := by
    rw [List.length_append, List.length_map, List.length_singleton]
    omega
  obtain ⟨sizeBuffer, hstore, hcells⟩ := instance_.sizeBuffer.store_eq_ok
    (Nat.le_trans hlength (by omega))
  have hload : sizeBuffer.load networkInstanceSizeBuffer = .ok (sizeBuffer.1.take 256) :=
    if_pos hcapacity
  have hpayload : loadPayload payload.bytes payload.bytes.length =
      .ok (payload.bytes.map some) := by
    simp only [loadPayload, Int.toNat_natCast, List.take_length]
    exact if_pos ⟨by omega, by omega⟩
  refine ⟨sizeBuffer.1.take 256, sizeBuffer, ⟨?_, ?_⟩, ?_⟩
  · -- the text and its terminator lie within the first 256 bytes
    rw [hcells, List.take_append, List.take_of_length_le (by omega), List.append_assoc]
    exact ⟨_, rfl⟩
  · rw [List.length_take, sizeBuffer.2]
    show min 256 capacity = 256
    omega
  · simp only [sendToConnection, hopen, hstore, hload, hpayload, bind, Except.bind, pure,
      Except.pure, Link.write]

/-- With 256 bytes in the buffer a whole header gives the size, and the payload is read
    into an array of that size. -/
theorem receiveFromConnection_of_header {limit : Nat → Nat}
    (hcapacity : networkInstanceSizeBuffer ≤ capacity) {instance_ : NetworkInstance capacity}
    {link : Link}
    (hopen : instance_.openDescriptor = .ok link.readEnd) {n : Nat}
    (hn : (n : Int) ≤ CString.maxInt) {header rest : List Cell} (hheader : IsHeader n header)
    (hin : link.stream.inFlight = header ++ rest)
    (hlimit : networkInstanceSizeBuffer ≤ limit link.stream.transfers) :
    ∃ sizeBuffer, instance_.receiveFromConnection limit link =
      ((link.after rest).readInto limit link.readEnd (Memory.fresh n) n).map fun r =>
        (⟨r.1.1, n⟩, { instance_ with sizeBuffer := sizeBuffer }, r.2) := by
  obtain ⟨⟨tail, htext⟩, hlength⟩ := hheader
  obtain ⟨sizeBuffer, hread, hcells⟩ := Link.readInto_of_le hin (hlength.symm ▸ hlimit)
    instance_.sizeBuffer (hlength.symm ▸ hcapacity)
  -- the header fills the front of the buffer, and `atoi` stops at its terminator
  have hatoi : CString.atoi sizeBuffer.1 = some (n : Int) := by
    rw [hcells, htext, List.append_assoc, List.cons_append]
    exact CString.atoi_formatInt (by simp only [CString.minInt]; omega) hn _
  have hpos : ¬ (n : Int) < 0 := by omega
  rw [hlength] at hread
  refine ⟨sizeBuffer, ?_⟩
  simp only [receiveFromConnection, hopen, hread, hatoi, if_neg hpos, Int.toNat_natCast, bind,
    Except.bind, pure, Except.pure]
  cases (link.after rest).readInto limit link.readEnd (Memory.fresh n) n <;> rfl

end NetworkInstance

/-! ## Whole transfers -/

/-- The bytes of a stream that holds whole frames: for each payload its header, then its
    bytes. -/
inductive Frames : List Payload → List Cell → Prop
  | nil : Frames [] []
  | cons {payload : Payload} {payloads : List Payload} {header rest : List Cell} :
      IsHeader payload.bytes.length header → Frames payloads rest →
      Frames (payload :: payloads) (header ++ (payload.bytes.map some ++ rest))

/-- Sending puts one more frame behind those on the stream. -/
theorem Frames.append {payloads : List Payload} {cells : List Cell} (h : Frames payloads cells)
    {payload : Payload} {header : List Cell} (hheader : IsHeader payload.bytes.length header) :
    Frames (payloads ++ [payload]) (cells ++ header ++ payload.bytes.map some) := by
  induction h with
  | nil =>
    have := Frames.cons hheader Frames.nil
    rwa [List.append_nil] at this
  -- the new frame goes behind the other ones
  | cons hfirst _ ih =>
    simp only [List.cons_append, List.append_assoc] at ih ⊢
    exact Frames.cons hfirst ih

/-- When no transfer is shortened, a header is transferred whole. -/
theorem sizeBuffer_le_limit {limit : Nat → Nat} (hlimit : ByteStream.Unshortened limit 2147483647)
    (k : Nat) : networkInstanceSizeBuffer ≤ limit k := by
  have := hlimit k
  show 256 ≤ limit k
  omega

/-- And so is a payload. -/
theorem Payload.length_le_limit {limit : Nat → Nat}
    (hlimit : ByteStream.Unshortened limit 2147483647) (payload : Payload) (k : Nat) :
    (payload.bytes.map (some : UInt8 → Cell)).length ≤ limit k := by
  have := hlimit k
  have hlength := payload.length_le
  simp only [CString.maxInt] at hlength
  rw [List.length_map]
  omega

namespace Connection

variable {capacity : Nat} {limit : Nat → Nat}

/-- A whole send puts the payload's frame on the stream. -/
theorem step_send_of_unshortened (hcapacity : networkInstanceSizeBuffer ≤ capacity)
    (hlimit : ByteStream.Unshortened limit 2147483647) {c : Connection capacity} (hready : c.Ready)
    {pending : List Payload} (hframes : Frames pending c.link.stream.inFlight)
    (payload : Payload) :
    ∃ c', c.step limit (.send payload) = .ok (none, c') ∧ c'.Ready ∧
      Frames (pending ++ [payload]) c'.link.stream.inFlight := by
  have hopen := NetworkInstance.openDescriptor_eq_ok hready.sender_established
    hready.sender_descriptor
  obtain ⟨header, sizeBuffer, hheader, hsend⟩ :=
    NetworkInstance.sendToConnection_eq_ok limit hcapacity hopen payload
  have hlength : header.length ≤ limit c.link.stream.transfers := by
    rw [hheader.length]
    exact sizeBuffer_le_limit hlimit _
  have hwrite : (c.link.after (c.link.stream.inFlight ++ header)).write limit c.link.writeEnd
      (payload.bytes.map some) = _ := Link.write_of_le rfl (payload.length_le_limit hlimit _)
  -- both writes are whole: the header goes behind the pending frames, the payload behind it
  rw [Link.write_of_le rfl hlength, hwrite] at hsend
  refine ⟨_, by simp only [step, hsend, bind, Except.bind, pure, Except.pure]; rfl, ?_, ?_⟩
  · exact ⟨hready.sender_established, hready.sender_descriptor, hready.receiver_established,
      hready.receiver_descriptor⟩
  · exact hframes.append hheader

/-- A whole receive takes the first frame off the stream and hands its payload back. -/
theorem step_receive_of_unshortened (hcapacity : networkInstanceSizeBuffer ≤ capacity)
    (hlimit : ByteStream.Unshortened limit 2147483647) {c : Connection capacity} (hready : c.Ready)
    {payload : Payload} {pending : List Payload}
    (hframes : Frames (payload :: pending) c.link.stream.inFlight) :
    ∃ c', c.step limit .receive = .ok (some payload.received, c') ∧ c'.Ready ∧
      Frames pending c'.link.stream.inFlight := by
  have hopen := NetworkInstance.openDescriptor_eq_ok hready.receiver_established
    hready.receiver_descriptor
  obtain ⟨cells, hcells⟩ : ∃ cells, c.link.stream.inFlight = cells := ⟨_, rfl⟩
  rw [hcells] at hframes
  cases hframes with
  | @cons _ _ header rest hheader hrest =>
    obtain ⟨sizeBuffer, hreceive⟩ := NetworkInstance.receiveFromConnection_of_header hcapacity
      hopen payload.length_le hheader hcells (sizeBuffer_le_limit hlimit _)
    have hbody : (payload.bytes.map some).length ≤
        limit (c.link.after (payload.bytes.map some ++ rest)).stream.transfers :=
      payload.length_le_limit hlimit _
    obtain ⟨m, hread, hm⟩ := Link.readInto_of_le rfl hbody (Memory.fresh payload.bytes.length)
      (Nat.le_of_eq (List.length_map _))
    -- the array has the length of the payload, so nothing of it stays unwritten
    have hbytes : m.1 = payload.bytes.map some := by
      rw [hm, List.drop_of_length_le, List.append_nil]
      rw [List.length_map]
      exact Nat.le_of_eq (Memory.fresh _).2
    rw [List.length_map] at hread
    -- `after` keeps the two ends of the link
    have hread' : (c.link.after (payload.bytes.map some ++ rest)).readInto limit c.link.readEnd
        (Memory.fresh payload.bytes.length) payload.bytes.length = _ := hread
    rw [hread', Except.map, hbytes] at hreceive
    refine ⟨_, by simp only [step, hreceive, bind, Except.bind, pure, Except.pure]; rfl, ?_, ?_⟩
    · exact ⟨hready.sender_established, hready.sender_descriptor, hready.receiver_established,
        hready.receiver_descriptor⟩
    · exact hrest

/-- From a stream of whole frames an interleaving receives what is on the stream and then
    what it sends. -/
theorem received_of_unshortened (hcapacity : networkInstanceSizeBuffer ≤ capacity)
    (hlimit : ByteStream.Unshortened limit 2147483647) {n : Nat} {payloads : List Payload}
    {calls : List Transfer} (hcalls : Interleaving n payloads calls) {c : Connection capacity}
    (hready : c.Ready) {pending : List Payload} (hn : pending.length = n)
    (hframes : Frames pending c.link.stream.inFlight) :
    (StepRun.outputs (step limit) c calls).filterMap id =
      (pending ++ payloads).map Payload.received := by
  -- induction on the interleaving; what is pending are the frames on the stream
  induction hcalls generalizing c pending with
  | done =>
    rw [List.length_eq_zero_iff.mp hn]
    rfl
  | @send n payload payloads calls _ ih =>
    obtain ⟨c', hstep, hready', hframes'⟩ :=
      step_send_of_unshortened hcapacity hlimit hready hframes payload
    have hrest := ih hready' (by rw [List.length_append, hn, List.length_singleton]) hframes'
    rw [List.append_assoc, List.singleton_append] at hrest
    simp only [StepRun.outputs, hstep]
    exact hrest
  | @receive n payloads calls _ ih =>
    cases pending with
    | nil => cases hn
    | cons payload pending =>
      obtain ⟨c', hstep, hready', hframes'⟩ :=
        step_receive_of_unshortened hcapacity hlimit hready hframes
      have hrest := ih hready' (Nat.succ.inj hn) hframes'
      simp only [StepRun.outputs, hstep, List.cons_append, List.map_cons, ← hrest]
      rfl

end Connection

/-- With a buffer of 256 bytes and whole transfers every exchange delivers its payloads. -/
theorem delivers_of_unshortened {capacity : Nat} (hcapacity : networkInstanceSizeBuffer ≤ capacity)
    {limit : Nat → Nat} (hlimit : ByteStream.Unshortened limit 2147483647)
    (c : EstablishedConnection capacity) {payloads : List Payload} (exchange : Exchange payloads) :
    exchange.Delivers limit c.toConnection := by
  have hframes : Frames [] c.link.stream.inFlight := c.nothing_inFlight ▸ Frames.nil
  exact Connection.received_of_unshortened hcapacity hlimit exchange.interleaved c.ready rfl hframes

/-! ## Shortened transfers -/

/-- An array of more bytes than the stream holds is not filled. -/
theorem Link.none_mem_of_readInto {n : Nat} {limit : Nat → Nat} {link link' : Link}
    {descriptor : Int} {m : Memory n} (hscarce : link.stream.inFlight.length < n)
    (hread : link.readInto limit descriptor (Memory.fresh n) n = .ok (m, link')) : none ∈ m.1 := by
  unfold readInto at hread
  rw [if_neg (Nat.lt_irrefl n)] at hread
  split at hread
  · cases hstream : link.stream.read limit n with
    | none =>
      rw [hstream] at hread
      cases hread
    | some r =>
      obtain ⟨data, stream⟩ := r
      obtain ⟨-, hin⟩ := ByteStream.length_of_read hstream
      -- a read gives no more than the stream holds
      have hdata : data.length < n := by
        rw [hin, List.length_append] at hscarce
        omega
      obtain ⟨m', hstore, hm'⟩ := (Memory.fresh n).store_eq_ok (Nat.le_of_lt hdata)
      rw [hstream] at hread
      simp only [hstore, bind, Except.bind, pure, Except.pure] at hread
      cases hread
      rw [hm', Memory.fresh, List.drop_replicate]
      apply List.mem_append_right
      rw [List.mem_replicate]
      exact ⟨by omega, rfl⟩
  · cases hread
    rw [Memory.fresh, List.mem_replicate]
    exact ⟨by omega, rfl⟩

/-- A `write` that transfers only a part of a payload is not made up for: the bytes that
    are missing are never sent, and the receiver does not notice. -/
theorem not_delivers_of_short_body {capacity : Nat}
    (hcapacity : networkInstanceSizeBuffer ≤ capacity) (c : EstablishedConnection capacity)
    (payload : Payload) {limit : Nat → Nat}
    (hheader : networkInstanceSizeBuffer ≤ limit c.link.stream.transfers)
    (hread : networkInstanceSizeBuffer ≤ limit (c.link.stream.transfers + 2))
    (hshort : max 1 (limit (c.link.stream.transfers + 1)) < payload.bytes.length) :
    ¬ (Exchange.single payload).Delivers limit c.toConnection := by
  intro hdelivers
  have hopen := NetworkInstance.openDescriptor_eq_ok c.ready.sender_established
    c.ready.sender_descriptor
  obtain ⟨header, sizeBuffer, hisHeader, hsend⟩ :=
    NetworkInstance.sendToConnection_eq_ok limit hcapacity hopen payload
  rw [Link.write_of_le rfl (hisHeader.length.symm ▸ hheader), c.nothing_inFlight,
    List.nil_append] at hsend
  -- what the second write puts behind the header
  obtain ⟨part, hpart, hwrite⟩ : ∃ part : List Cell, part.length < payload.bytes.length ∧
      (c.link.after header).write limit c.link.writeEnd (payload.bytes.map some) =
        (c.link.after header).after (header ++ part) := by
    refine ⟨(payload.bytes.map some).take _, ?_, if_pos rfl⟩
    rw [List.length_take]
    apply Nat.lt_of_le_of_lt (Nat.min_le_left _ _)
    refine Nat.lt_of_le_of_lt (Nat.min_le_right _ _) hshort
  rw [hwrite] at hsend
  -- the receiver finds the header and takes it for that of the whole payload
  have hreceiver : c.receiver.openDescriptor = .ok c.link.readEnd :=
    NetworkInstance.openDescriptor_eq_ok c.ready.receiver_established c.ready.receiver_descriptor
  obtain ⟨link, hlink⟩ : ∃ link, (c.link.after header).after (header ++ part) = link := ⟨_, rfl⟩
  rw [hlink] at hsend
  have hreadEnd : link.readEnd = c.link.readEnd := by rw [← hlink]; rfl
  have hin : link.stream.inFlight = header ++ part := by rw [← hlink]; rfl
  have htransfers : networkInstanceSizeBuffer ≤ limit link.stream.transfers := by
    rw [← hlink]
    exact hread
  obtain ⟨sizeBuffer', hreceive⟩ := NetworkInstance.receiveFromConnection_of_header hcapacity
    (hreadEnd ▸ hreceiver) payload.length_le hisHeader hin htransfers
  simp only [Exchange.Delivers, Exchange.received, Exchange.single, StepRun.outputs,
    Connection.step, hsend, hreceive, bind, Except.bind, pure, Except.pure] at hdelivers
  cases hbody : (link.after part).readInto limit link.readEnd (Memory.fresh payload.bytes.length)
      payload.bytes.length with
  | error fault =>
    rw [hbody] at hdelivers
    cases hdelivers
  | ok r =>
    -- the array keeps a byte without a value, and a received payload has none
    have hnone : none ∈ r.1.1 := Link.none_mem_of_readInto hpart hbody
    rw [hbody] at hdelivers
    have hbytes : r.1.1 = payload.bytes.map some :=
      congrArg Received.bytes (List.cons.inj hdelivers).1
    rw [hbytes, List.mem_map] at hnone
    obtain ⟨b, -, hb⟩ := hnone
    cases hb

end NetworkedFS
