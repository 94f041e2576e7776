import Tun01.Tunnel.Operations

/-!
# Handlers as sequences of operations

The operations each handler makes.  Nothing is assumed about the messages that
arrive or about the links: a handler that returns has made one of these
sequences, and only its first operation can depend on more than the link it
has at hand.
-/

namespace Tun01

open Operation (apply Valid)

namespace StdioTunnel

variable {t t' : StdioTunnel} {conn id : Short} {c : TunnelConnection} {l l' : ConnectionLink}

theorem run_keyed {ops : List Operation} (run : Run Operation.Step t ops t')
    (keyed : t.Keyed) : t'.Keyed := by
  refine run.invariant keyed fun before taken => ?_
  rw [taken.2]
  exact Operation.keyed taken.1 before

/-! ## Links that are dispatched -/

/-- What `closeLink` does. -/
def closingOps (conn : Short) (l : ConnectionLink) : List Operation :=
  if l.m_closing then [] else [.close conn l, .emit (.link conn l.m_id .close)]

/-- The message `sendData` sends. -/
def dataMessage (c : TunnelConnection) (bytes : List Byte) : LinkMessage :=
  if c.m_spec.ackPackets then .sendForAck bytes else .send bytes

def readingOps (conn : Short) (c : TunnelConnection) (l : ConnectionLink) (bytes : List Byte) :
    List Operation :=
  [.received conn l bytes, .emit (.link conn l.m_id (dataMessage c bytes))] ++
    if c.m_spec.ackPackets then [.acknowledge conn l false] else []

theorem closeLink_run (keyed : t.Keyed) (isConn : c.m_id = conn.val) (stores : t.Stores conn l)
    (result : t.closeLink c l = .ok t') : Run Operation.Step t (closingOps conn l) t' := by
  unfold closeLink at result
  unfold closingOps
  cases closing : l.m_closing with
  | true =>
      rw [closing] at result
      obtain rfl := Except.ok.inj result
      exact .nil
  | false =>
      rw [closing] at result
      have closed : t.setClosing c l = apply t (.close conn l) := by
        unfold setClosing linkPointer apply
        rw [isConn]
      have valid : (Operation.close conn l).Valid t := ⟨stores, closing⟩
      have ready : (apply t (.close conn l)).Ready := (Operation.keyed valid keyed).ready
      have sent := @send_bare _ _ l.m_id _ ready isConn .close rfl
      rw [closed] at result
      obtain rfl := Except.ok.inj (sent.symm.trans result)
      exact .cons ⟨valid, rfl⟩ (.single ⟨trivial, rfl⟩)

theorem setAcknowledged_apply (isConn : c.m_id = conn.val) (l : ConnectionLink) (ack : Bool) :
    (t.setAcknowledged c l ack).1 = apply t (.acknowledge conn l ack) ∧
      (t.setAcknowledged c l ack).2 = { l with m_acknowledged := ack } := by
  unfold setAcknowledged apply setLinkEvents linkPointer
  rw [isConn]
  dsimp only
  split <;> exact ⟨rfl, rfl⟩

/-- A link that an operation writes back is stored. -/
theorem stores_apply {op : Operation} (valid : op.Valid t)
    (stored : op.stores t = some (conn, l.m_id, some l)) : (op.apply t).Stores conn l := by
  unfold Stores
  rw [Operation.link?_apply valid, stored]
  exact if_pos ⟨rfl, rfl⟩

def readingLink (c : TunnelConnection) (l : ConnectionLink) : ConnectionLink :=
  if c.m_spec.ackPackets then { l with m_acknowledged := false } else l

theorem readingLink_same (c : TunnelConnection) (l : ConnectionLink) :
    (readingLink c l).m_id = l.m_id ∧ (readingLink c l).m_socket = l.m_socket ∧
      (readingLink c l).m_closing = l.m_closing ∧ (readingLink c l).m_buffer = l.m_buffer := by
  unfold readingLink
  split <;> exact ⟨rfl, rfl, rfl, rfl⟩

/-- A read without data closes the link. -/
theorem linkRead_closes (keyed : t.Keyed) (isConn : c.m_id = conn.val) (stores : t.Stores conn l)
    {read : SysResult (List Byte)} {closed : Bool} (none : ∀ bytes, read = .ok bytes → bytes = [])
    (result : t.linkRead c l read = .ok (t', l', closed)) :
    closed = true ∧ Run Operation.Step t (closingOps conn l) t' := by
  have closes : (do let t' ← t.closeLink c l; return (t', l, true) : Except Fault _) =
      .ok (t', l', closed) → closed = true ∧ Run Operation.Step t (closingOps conn l) t' := by
    intro result
    obtain ⟨t₁, closing, result⟩ := of_bind_ok result
    obtain ⟨rfl, same⟩ := Prod.mk.inj (Except.ok.inj result)
    exact ⟨(Prod.mk.inj same).2.symm, closeLink_run keyed isConn stores closing⟩
  match read with
  | .fail errno => exact closes result
  | .ok [] => exact closes result
  | .ok (b :: bytes) => cases none _ rfl

/-- A read with data sends the data. -/
theorem linkRead_sends (keyed : t.Keyed) (isConn : c.m_id = conn.val) (stores : t.Stores conn l)
    {bytes : List Byte} {closed : Bool} (some' : bytes ≠ [])
    (result : t.linkRead c l (.ok bytes) = .ok (t', l', closed)) :
    closed = false ∧ t'.Stores conn l' ∧ l' = readingLink c l ∧
      Run Operation.Step t (readingOps conn c l bytes) t' := by
  obtain ⟨b, bytes, rfl⟩ := List.exists_cons_of_ne_nil some'
  have valid : (Operation.received conn l (b :: bytes)).Valid t := stores
  have received := Operation.keyed valid keyed
  have sent := sendData_eq (l := l) received.ready isConn rfl (b :: bytes)
  unfold linkRead at result
  dsimp only at result
  rw [show t.log (.received l.m_socket (b :: bytes)) =
    apply t (.received conn l (b :: bytes)) from rfl, sent, ok_bind] at result
  have first : Run Operation.Step t [.received conn l (b :: bytes),
      .emit (.link conn l.m_id (dataMessage c (b :: bytes)))]
      (apply (apply t (.received conn l (b :: bytes)))
        (.emit (.link conn l.m_id (dataMessage c (b :: bytes))))) :=
    .cons ⟨valid, rfl⟩ (.single ⟨trivial, rfl⟩)
  have stored : (apply (apply t (.received conn l (b :: bytes)))
      (.emit (.link conn l.m_id (dataMessage c (b :: bytes))))).Stores conn l := stores
  unfold readingOps readingLink
  unfold dataMessage at first stored ⊢
  cases acks : c.m_spec.ackPackets with
  | false =>
      simp only [acks] at result first stored ⊢
      obtain ⟨rfl, same⟩ := Prod.mk.inj (Except.ok.inj result)
      obtain ⟨rfl, rfl⟩ := Prod.mk.inj same
      exact ⟨rfl, stored, rfl, first⟩
  | true =>
      simp only [acks, ↓reduceIte] at result first stored ⊢
      obtain ⟨rfl, same⟩ := Prod.mk.inj (Except.ok.inj result)
      obtain ⟨rfl, rfl⟩ := Prod.mk.inj same
      obtain ⟨after, link⟩ := setAcknowledged_apply (t := (apply t
        (.received conn l (b :: bytes))).emit
          (LinkMessage.encode conn l.m_id (.sendForAck (b :: bytes)))) isConn l false
      rw [after, link]
      have acked : (Operation.acknowledge conn l false).Valid
        (apply (apply t (.received conn l (b :: bytes)))
          (.emit (.link conn l.m_id (.sendForAck (b :: bytes))))) := stored
      exact ⟨rfl, stores_apply acked rfl, rfl, first.append (.single ⟨acked, rfl⟩)⟩

theorem linkWrite_run (isConn : c.m_id = conn.val) (stores : t.Stores conn l)
    {write : SysResult Nat} (result : t.linkWrite c l write = .ok (t', l')) :
    ∃ buffer bytes, l.m_buffer.writeData write = (buffer, .ok bytes) ∧
      t'.Stores conn l' ∧ l' = { l with m_buffer := buffer } ∧
      Run Operation.Step t [.written conn l buffer bytes] t' := by
  unfold linkWrite at result
  rcases outcome : l.m_buffer.writeData write with ⟨buffer, written⟩
  rw [outcome] at result
  cases written with
  | error fault => cases result
  | ok bytes =>
      have valid : (Operation.written conn l buffer bytes).Valid t := ⟨stores, write, outcome⟩
      have stored := stores_apply (l := { l with m_buffer := buffer }) valid rfl
      simp only [ok_bind] at result
      have after : (t', l') =
          (apply t (.written conn l buffer bytes), { l with m_buffer := buffer }) := by
        unfold apply setLinkEvents
        dsimp only at result ⊢
        rw [isConn] at result
        split at result
        · rename_i unsent
          rw [if_pos unsent]
          exact (Except.ok.inj result).symm
        · rename_i sent
          rw [if_neg sent]
          unfold linkPointer at result
          rw [isConn] at result
          exact (Except.ok.inj result).symm
      obtain ⟨rfl, rfl⟩ := Prod.mk.inj after
      exact ⟨buffer, bytes, rfl, stored, rfl, .single ⟨valid, rfl⟩⟩

/-- The operations of a link that is dispatched. -/
inductive LinkScript (conn : Short) (c : TunnelConnection) (l : ConnectionLink) :
    List Operation → Prop where
  | closes : LinkScript conn c l (closingOps conn l)
  | goesOn {first second third : List Operation} {l' l'' : ConnectionLink}
      (first' : first = [] ∨ ∃ bytes, first = readingOps conn c l bytes)
      (second' : second = [] ∨
        l'.m_id = l.m_id ∧ ∃ buffer bytes, second = [.written conn l' buffer bytes])
      (third' : third = [] ∨ l''.m_id = l.m_id ∧ third = closingOps conn l'') :
      LinkScript conn c l (first ++ (second ++ third))

/-- What a dispatch of a link does, by what `poll` said and what its calls returned. -/
inductive LinkSteps (conn : Short) (c : TunnelConnection) (l : ConnectionLink)
    (revents : PollEvents) (read : SysResult (List Byte)) (write : SysResult Nat) :
    List Operation → Prop where
  | closes (ready : revents.POLLIN = true) (none : ∀ bytes, read = .ok bytes → bytes = []) :
      LinkSteps conn c l revents read write (closingOps conn l)
  | goesOn {first second : List Operation} {l' l'' : ConnectionLink}
      (reads : revents.POLLIN = false ∧ first = [] ∧ l' = l ∨
        revents.POLLIN = true ∧ ∃ bytes, read = .ok bytes ∧ bytes ≠ [] ∧
          first = readingOps conn c l bytes ∧ l' = readingLink c l)
      (writes : revents.POLLOUT = false ∧ second = [] ∧ l'' = l' ∨
        revents.POLLOUT = true ∧ ∃ buffer bytes, l'.m_buffer.writeData write = (buffer, .ok bytes) ∧
          second = [.written conn l' buffer bytes] ∧ l'' = { l' with m_buffer := buffer }) :
      LinkSteps conn c l revents read write
        (first ++ (second ++ if revents.failure then closingOps conn l'' else []))

theorem linkPolled_steps (keyed : t.Keyed) (isConn : c.m_id = conn.val) (stores : t.Stores conn l)
    {revents : PollEvents} {read : SysResult (List Byte)} {write : SysResult Nat}
    (result : t.linkPolled c l revents read write = .ok t') :
    ∃ ops, Run Operation.Step t ops t' ∧ LinkSteps conn c l revents read write ops := by
  unfold linkPolled at result
  obtain ⟨⟨t₁, l₁, closed⟩, reads, result⟩ := of_bind_ok result
  dsimp only at result
  have first : (closed = true ∧ revents.POLLIN = true ∧ (∀ bytes, read = .ok bytes → bytes = []) ∧
        Run Operation.Step t (closingOps conn l) t₁) ∨
      (closed = false ∧ t₁.Stores conn l₁ ∧ ∃ ops, Run Operation.Step t ops t₁ ∧
        (revents.POLLIN = false ∧ ops = [] ∧ l₁ = l ∨
          revents.POLLIN = true ∧ ∃ bytes, read = .ok bytes ∧ bytes ≠ [] ∧
            ops = readingOps conn c l bytes ∧ l₁ = readingLink c l)) := by
    unfold linkPollIn at reads
    split at reads
    · rename_i ready
      by_cases none : ∀ bytes, read = .ok bytes → bytes = []
      · obtain ⟨isClosed, run⟩ := linkRead_closes keyed isConn stores none reads
        exact Or.inl ⟨isClosed, ready, none, run⟩
      · simp only [not_forall, exists_prop] at none
        obtain ⟨bytes, rfl, nonempty⟩ := none
        obtain ⟨isOpen, stored, same, run⟩ := linkRead_sends keyed isConn stores nonempty reads
        exact Or.inr ⟨isOpen, stored, _, run, Or.inr ⟨ready, bytes, rfl, nonempty, rfl, same⟩⟩
    · rename_i idle
      obtain ⟨rfl, same⟩ := Prod.mk.inj (Except.ok.inj reads)
      obtain ⟨rfl, rfl⟩ := Prod.mk.inj same
      exact Or.inr ⟨rfl, stores, [], .nil, Or.inl ⟨eq_false_of_ne_true idle, rfl, rfl⟩⟩
  rcases first with ⟨rfl, ready, none, run⟩ | ⟨rfl, stored₁, first, run₁, shape₁⟩
  · obtain rfl := Except.ok.inj result
    exact ⟨_, run, .closes ready none⟩
  obtain ⟨⟨t₂, l₂⟩, writes, result⟩ := of_bind_ok result
  dsimp only at result
  obtain ⟨stored₂, second, run₂, shape₂⟩ : t₂.Stores conn l₂ ∧
      ∃ ops, Run Operation.Step t₁ ops t₂ ∧
        (revents.POLLOUT = false ∧ ops = [] ∧ l₂ = l₁ ∨
          revents.POLLOUT = true ∧ ∃ buffer bytes,
            l₁.m_buffer.writeData write = (buffer, .ok bytes) ∧
            ops = [.written conn l₁ buffer bytes] ∧ l₂ = { l₁ with m_buffer := buffer }) := by
    unfold linkPollOut at writes
    split at writes
    · rename_i ready
      obtain ⟨buffer, bytes, outcome, stored, same, run⟩ := linkWrite_run isConn stored₁ writes
      exact ⟨stored, _, run, Or.inr ⟨ready, buffer, bytes, outcome, rfl, same⟩⟩
    · rename_i idle
      obtain ⟨rfl, rfl⟩ := Prod.mk.inj (Except.ok.inj writes)
      exact ⟨stored₁, [], .nil, Or.inl ⟨eq_false_of_ne_true idle, rfl, rfl⟩⟩
  have keyed₂ := run_keyed run₂ (run_keyed run₁ keyed)
  refine ⟨_, run₁.append (run₂.append ?_), .goesOn shape₁ shape₂⟩
  split at result
  · rename_i failed
    rw [if_pos failed]
    exact closeLink_run keyed₂ isConn stored₂ result
  · rename_i fine
    rw [if_neg fine]
    obtain rfl := Except.ok.inj result
    exact .nil

theorem LinkSteps.script {revents : PollEvents} {read : SysResult (List Byte)}
    {write : SysResult Nat} {ops : List Operation}
    (steps : LinkSteps conn c l revents read write ops) : LinkScript conn c l ops := by
  cases steps with
  | closes => exact .closes
  | @goesOn first second l' l'' reads writes =>
      have same : l'.m_id = l.m_id := by
        rcases reads with ⟨_, _, rfl⟩ | ⟨_, _, _, _, _, rfl⟩
        · rfl
        · exact (readingLink_same c l).1
      have same' : l''.m_id = l'.m_id := by
        rcases writes with ⟨_, _, rfl⟩ | ⟨_, _, _, _, _, rfl⟩ <;> rfl
      refine @LinkScript.goesOn _ _ _ _ _ _ l' l'' ?_ ?_ ?_
      · rcases reads with ⟨_, none, _⟩ | ⟨_, bytes, _, _, all, _⟩
        · exact Or.inl none
        · exact Or.inr ⟨bytes, all⟩
      · rcases writes with ⟨_, none, _⟩ | ⟨_, buffer, bytes, _, all, _⟩
        · exact Or.inl none
        · exact Or.inr ⟨same, buffer, bytes, all⟩
      · split
        · exact Or.inr ⟨same'.trans same, rfl⟩
        · exact Or.inl rfl

/-! ## Fields -/

theorem reading_reading (t : StdioTunnel) (first second : List Byte) :
    (t.reading first).reading second = t.reading second := rfl

theorem Keyed.reading (keyed : t.Keyed) (queue : List Byte) : (t.reading queue).Keyed :=
  ⟨⟨keyed.keys, keyed.ids⟩, ⟨keyed.ready.poller, keyed.ready.fields⟩⟩

/-- A `short` that was read was at the front of the queue. -/
theorem readShort_split {s : Short} (result : t.readShort = .ok (s, t')) :
    ∃ rest, splitShort t.m_read_stream.m_queue = some (s, rest) ∧ t' = t.reading rest := by
  unfold readShort ReadStream.readShort ReadStream.popFront at result
  obtain ⟨_, fields, result⟩ := of_bind_ok result
  match queue : t.m_read_stream.m_queue with
  | [] =>
      rw [queue] at fields
      cases fields
  | [x] =>
      rw [queue] at fields
      cases fields
  | x :: y :: rest =>
      rw [queue] at fields
      obtain rfl := Except.ok.inj fields
      obtain ⟨rfl, rfl⟩ := Prod.mk.inj (Except.ok.inj result)
      exact ⟨rest, rfl, rfl⟩

/-- Bytes that were read were at the front of the queue. -/
theorem readBytes_split {length : Int} {bytes : List Byte}
    (result : t.readBytes length = .ok (bytes, t')) :
    ∃ rest, t.m_read_stream.m_queue = bytes ++ rest ∧ (bytes.length : Int) = length ∧
      t' = t.reading rest := by
  unfold readBytes ReadStream.readBytes ReadStream.takeRange at result
  split at result
  · rename_i fits
    obtain ⟨rfl, rfl⟩ := Prod.mk.inj (Except.ok.inj result)
    refine ⟨t.m_read_stream.m_queue.drop length.toNat, (List.take_append_drop _ _).symm, ?_, rfl⟩
    rw [List.length_take]
    omega
  · cases result

/-! ## Messages -/

/-- The fields of a data message: as many bytes as the length announces. -/
def Brings (fields bytes : List Byte) : Prop :=
  ∃ length rest, splitShort fields = some (length, bytes ++ rest) ∧
    (bytes.length : Int) = length.val

/--
The operations for a message; `fields` are the bytes after the link identifier
and `connect` is how far an attempt to connect gets.
-/
inductive Script (conn id : Short) (fields : List Byte) (connect : ConnectResult) :
    Short → List Operation → Prop where
  | nothing {command : Short} : Script conn id fields connect command []
  | push (l : ConnectionLink) (bytes : List Byte) (ids : l.m_id = id)
      (brings : Brings fields bytes) : Script conn id fields connect LINK_SEND [.push conn l bytes]
  | pushForAck (l : ConnectionLink) (bytes : List Byte) (ids : l.m_id = id)
      (brings : Brings fields bytes) : Script conn id fields connect LINK_SEND_FOR_ACK
        [.push conn l bytes, .emit (.link conn id .ack)]
  | acknowledged (l : ConnectionLink) (ids : l.m_id = id) :
      Script conn id fields connect LINK_ACK [.acknowledge conn l true]
  /-- data for a link that is closing counts as an acknowledgement -/
  | ignored (l : ConnectionLink) (ids : l.m_id = id) (closing : l.m_closing = true) :
      Script conn id fields connect LINK_SEND_FOR_ACK [.acknowledge conn l true]
  | close (l : ConnectionLink) (ids : l.m_id = id) :
      Script conn id fields connect LINK_CLOSE [.close conn l, .emit (.link conn id .close),
        .erase conn { l with m_closing := true }]
  | closed (l : ConnectionLink) (ids : l.m_id = id) :
      Script conn id fields connect LINK_CLOSE [.erase conn l]
  | establish (l : ConnectionLink) (ids : l.m_id = id)
      (success : (splitShort fields).map Prod.fst = some LINK_SUCCESS) :
      Script conn id fields connect LINK_CREATE [.establish conn l]
  | refuse (l : ConnectionLink) (ids : l.m_id = id)
      (failure : (splitShort fields).map Prod.fst ≠ some LINK_SUCCESS) :
      Script conn id fields connect LINK_CREATE [.refuse conn l]
  | connect (connected : connect = .connected) : Script conn id fields connect LINK_CREATE
      [.connect conn id, .emit (.link conn id (.created true))]
  | fail {attempt report : List Operation} (attempt' : attempt = [] ∨ attempt = [.attempt conn id])
      (report' : report = [] ∨ ∃ message, report = [.emit (.error message)]) :
      Script conn id fields connect LINK_CREATE
        (attempt ++ (report ++ [.emit (.link conn id (.created false))]))

/-- `receiveData`, whatever the length field says. -/
theorem receiveData_run (isConn : c.m_id = conn.val) (stores : t.Stores conn l)
    (result : t.receiveData c l = .ok (t', l')) :
    ∃ rest bytes, Brings t.m_read_stream.m_queue bytes ∧ ((l.m_closing = true ∧ l' = l ∧ t' = t.reading rest) ∨
      (l.m_closing = false ∧ l' = { l with m_buffer := l.m_buffer.insert bytes } ∧
        Operation.Step (t.reading rest) (.push conn l bytes) t')) := by
  unfold receiveData at result
  obtain ⟨⟨length, t₁⟩, first, result⟩ := of_bind_ok result
  obtain ⟨q, split, rfl⟩ := readShort_split first
  dsimp only at result
  split at result
  · cases result
  obtain ⟨⟨bytes, t₂⟩, second, result⟩ := of_bind_ok result
  obtain ⟨rest, queue, size, rfl⟩ := readBytes_split second
  rw [show (t.reading q).m_read_stream.m_queue = q from rfl] at queue
  rw [queue] at split
  rw [reading_reading] at result
  dsimp only at result
  refine ⟨rest, bytes, ⟨length, rest, split, size⟩, ?_⟩
  split at result
  · rename_i closing
    obtain ⟨rfl, rfl⟩ := Prod.mk.inj (Except.ok.inj result)
    exact Or.inl ⟨closing, rfl, rfl⟩
  · rename_i up
    rw [SockBuffer.pushOnBuffer_whole _ size] at result
    obtain ⟨rfl, rfl⟩ := Prod.mk.inj (Except.ok.inj result)
    have isOpen : l.m_closing = false := eq_false_of_ne_true up
    refine Or.inr ⟨isOpen, rfl, ⟨stores, isOpen⟩, ?_⟩
    unfold apply setLinkEvents linkPointer
    rw [isConn]

/-- `processLinkMessage` for a link that is stored. -/
theorem processLinkMessage_run (connect : ConnectResult) (keyed : t.Keyed) (isConn : c.m_id = conn.val)
    (stores : t.Stores conn l) {command : Short}
    (result : t.processLinkMessage c command l = .ok t') :
    ∃ rest ops, Run Operation.Step (t.reading rest) ops t' ∧
      Script conn l.m_id t.m_read_stream.m_queue connect command ops := by
  unfold processLinkMessage at result
  split at result
  · rename_i isSend
    obtain ⟨⟨t₁, l₁⟩, received, result⟩ := of_bind_ok result
    obtain rfl := Except.ok.inj result
    obtain ⟨rest, bytes, brings, ⟨_, _, rfl⟩ | ⟨_, _, pushed⟩⟩ :=
      receiveData_run isConn stores received
    · exact ⟨rest, [], .nil, .nothing⟩
    · rw [isSend]
      exact ⟨rest, _, .single pushed, .push l bytes rfl brings⟩
  split at result
  · rename_i isClose
    obtain ⟨t₁, closing, result⟩ := of_bind_ok result
    obtain rfl := Except.ok.inj result
    have run := closeLink_run keyed isConn stores closing
    rw [isClose, isConn]
    unfold closingOps at run
    cases up : l.m_closing with
    | true =>
        rw [up] at run
        obtain rfl := run.of_nil
        have valid : (Operation.erase conn l).Valid t₁ := ⟨stores, up⟩
        exact ⟨t₁.m_read_stream.m_queue, _, .single ⟨valid, rfl⟩, .closed l rfl⟩
    | false =>
        rw [up] at run
        have erased : Operation.Step t₁ (.erase conn { l with m_closing := true })
            (t₁.eraseLink conn.val l.m_id) := by
          refine ⟨⟨?_, rfl⟩, rfl⟩
          obtain ⟨t₂, ⟨valid, rfl⟩, later⟩ := run.uncons
          obtain ⟨t₃, ⟨_, rfl⟩, last⟩ := later.uncons
          obtain rfl := last.of_nil
          have stored := stores_apply (l := { l with m_closing := true }) valid rfl
          exact stored
        exact ⟨t.m_read_stream.m_queue, _, run.append (.single erased), .close l rfl⟩
  split at result
  · rename_i isData
    obtain ⟨⟨t₁, l₁⟩, received, result⟩ := of_bind_ok result
    dsimp only at result
    rw [isData]
    obtain ⟨rest, bytes, brings, ⟨closing, rfl, rfl⟩ | ⟨up, rfl, pushed⟩⟩ :=
      receiveData_run isConn stores received
    · rw [closing] at result
      obtain rfl := Except.ok.inj result
      obtain ⟨after, _⟩ := setAcknowledged_apply (t := t.reading rest) isConn l₁ true
      have valid : (Operation.acknowledge conn l₁ true).Valid (t.reading rest) := stores
      rw [after]
      exact ⟨rest, _, .single ⟨valid, rfl⟩, .ignored l₁ rfl closing⟩
    · dsimp only at result
      rw [up] at result
      have ready : t₁.Ready := by
        rw [pushed.2]
        exact (Operation.keyed pushed.1 (keyed.reading rest)).ready
      have sent := @send_bare _ _ l.m_id _ ready isConn .ack rfl
      obtain rfl := Except.ok.inj (sent.symm.trans result)
      have valid : (Operation.emit (.link conn l.m_id .ack)).Valid t₁ := trivial
      exact ⟨rest, _, .cons pushed (.single ⟨valid, rfl⟩), .pushForAck l bytes rfl brings⟩
  split at result
  · rename_i isAck
    obtain rfl := Except.ok.inj result
    obtain ⟨after, _⟩ := setAcknowledged_apply (t := t) isConn l true
    have valid : (Operation.acknowledge conn l true).Valid t := stores
    rw [isAck, after]
    exact ⟨t.m_read_stream.m_queue, _, .single ⟨valid, rfl⟩, .acknowledged l rfl⟩
  · obtain rfl := Except.ok.inj result
    exact ⟨t.m_read_stream.m_queue, [], .nil, .nothing⟩

theorem listenProcessMessage_run (connect : ConnectResult) (keyed : t.Keyed) (isConn : c.m_id = conn.val)
    (listens : t.listens conn.val = true) (result : t.listenProcessMessage c = .ok t') :
    ∃ command q id fields rest ops,
      splitShort t.m_read_stream.m_queue = some (command, q) ∧ splitShort q = some (id, fields) ∧
      Run Operation.Step (t.reading rest) ops t' ∧ Script conn id fields connect command ops := by
  unfold listenProcessMessage at result
  obtain ⟨⟨command, t₁⟩, first, result⟩ := of_bind_ok result
  obtain ⟨q, split₁, rfl⟩ := readShort_split first
  obtain ⟨⟨id, t₂⟩, second, result⟩ := of_bind_ok result
  obtain ⟨fields, split₂, rfl⟩ := readShort_split second
  rw [reading_reading] at result
  dsimp only at result
  rw [isConn] at result
  split at result
  · cases result
  rename_i l found
  have ids := keyed.ids conn.val id l found
  have stores : t.Stores conn l := by
    unfold Stores
    rw [ids]
    exact found
  split at result
  · rename_i isCreate
    obtain ⟨⟨result_code, t₃⟩, third, result⟩ := of_bind_ok result
    obtain ⟨rest, split₃, rfl⟩ := readShort_split third
    rw [reading_reading] at result
    change splitShort fields = _ at split₃
    rw [isCreate] at split₁
    dsimp only at result
    split at result
    · rename_i success
      obtain rfl := Except.ok.inj result
      have valid : (Operation.establish conn l).Valid (t.reading rest) := ⟨stores, listens⟩
      refine ⟨_, q, id, fields, rest, _, split₁, split₂, .single ⟨valid, ?_⟩,
        .establish l ids (by rw [split₃, success]; rfl)⟩
      unfold linkPointer apply
      rw [isConn]
    · rename_i failure
      obtain rfl := Except.ok.inj result
      have valid : (Operation.refuse conn l).Valid (t.reading rest) := ⟨stores, listens⟩
      refine ⟨_, q, id, fields, rest, _, split₁, split₂, .single ⟨valid, ?_⟩,
        .refuse l ids fun same => failure ?_⟩
      · change _ = ((t.reading rest).log (.closed l.m_socket)).eraseLink conn.val l.m_id
        rw [ids]
      · rw [split₃] at same
        exact Option.some.inj same
  · obtain ⟨rest, ops, run, script⟩ :=
      processLinkMessage_run connect (keyed.reading fields) isConn stores result
    rw [ids] at script
    exact ⟨command, q, id, fields, rest, ops, split₁, split₂, run, script⟩

theorem reportError_run (ready : t.Ready) {message : List Byte}
    (result : t.reportError message = .ok t') :
    t' = t ∨ t' = apply t (.emit (.error message)) := by
  unfold reportError at result
  cases side : t.side with
  | localSide =>
      rw [side] at result
      exact Or.inl (Except.ok.inj result).symm
  | remoteSide =>
      rw [side] at result
      have sent := send_writeBytes ready (Message.payload_ne_nil (.error message))
      have whole : (t.writeShort CMD_ERROR).writeString message =
          t.writeBytes (Message.error message).payload := by
        rw [writeShort_eq, writeString_eq, writeBytes_writeBytes]
        rfl
      rw [← whole] at sent
      exact Or.inr (Except.ok.inj (result.symm.trans sent))

/-- The attempt to connect, up to the reply. -/
theorem connectLink_run (keyed : t.Keyed) (known : t.connection? conn.val = some c)
    (role : c.role = .connectSide) {connect : ConnectResult} {success : Bool}
    (result : t.connectLink c id connect = .ok (t', success)) :
    (success = true ∧ connect = .connected ∧ Operation.Step t (.connect conn id) t') ∨
      (success = false ∧ ∃ attempt report, (attempt = [] ∨ attempt = [.attempt conn id]) ∧
        (report = [] ∨ ∃ message, report = [.emit (.error message)]) ∧
        Run Operation.Step t (attempt ++ report) t') := by
  have isConn := (keyed.keys _ c known).1
  have reported : ∀ {message : List Byte} {t₁ : StdioTunnel},
      t.reportError message = .ok t₁ → ∃ report : List Operation,
        (report = [] ∨ ∃ message, report = [.emit (.error message)]) ∧
        Run Operation.Step t ([] ++ report) t₁ := by
    intro message t₁ reports
    rcases reportError_run keyed.ready reports with rfl | rfl
    · exact ⟨[], Or.inl rfl, .nil⟩
    · exact ⟨_, Or.inr ⟨message, rfl⟩, .single ⟨trivial, rfl⟩⟩
  have attempted : ∀ {message : List Byte} {t₁ : StdioTunnel},
      (t.openSocket c.m_id id).reportError message = .ok t₁ → ∃ report : List Operation,
        (report = [] ∨ ∃ message, report = [.emit (.error message)]) ∧
        Run Operation.Step t ([.attempt conn id] ++ report)
          (t₁.log (.closed t.os.next_socket)) := by
    intro message t₁ reports
    have valid : (Operation.attempt conn id).Valid t := ⟨c, known, role⟩
    rw [isConn] at reports
    rcases reportError_run (t := t.openSocket conn.val id)
      ⟨keyed.ready.poller, keyed.ready.fields⟩ reports with rfl | rfl
    · exact ⟨[], Or.inl rfl, .single ⟨valid, rfl⟩⟩
    · exact ⟨_, Or.inr ⟨message, rfl⟩, .cons ⟨valid, rfl⟩ (.single ⟨trivial, rfl⟩)⟩
  cases connect with
  | connected =>
      obtain ⟨rfl, rfl⟩ := Prod.mk.inj (Except.ok.inj result)
      refine Or.inl ⟨rfl, rfl, ⟨c, known, role⟩, ?_⟩
      unfold linkPointer apply
      rw [isConn]
      rfl
  | hostNotFound | noSocket =>
      obtain ⟨t₁, reports, result⟩ := of_bind_ok result
      obtain ⟨rfl, rfl⟩ := Prod.mk.inj (Except.ok.inj result)
      obtain ⟨report, shape, run⟩ := reported reports
      exact Or.inr ⟨rfl, [], report, Or.inl rfl, shape, run⟩
  | connectFailed | fcntlFailed =>
      obtain ⟨t₁, reports, result⟩ := of_bind_ok result
      obtain ⟨rfl, rfl⟩ := Prod.mk.inj (Except.ok.inj result)
      obtain ⟨report, shape, run⟩ := attempted reports
      exact Or.inr ⟨rfl, _, report, Or.inr rfl, shape, run⟩

theorem connectProcessMessage_run (keyed : t.Keyed) (known : t.connection? conn.val = some c)
    (role : c.role = .connectSide) {connect : ConnectResult}
    (result : t.connectProcessMessage c connect = .ok t') :
    ∃ command q id fields rest ops,
      splitShort t.m_read_stream.m_queue = some (command, q) ∧ splitShort q = some (id, fields) ∧
      Run Operation.Step (t.reading rest) ops t' ∧ Script conn id fields connect command ops := by
  have isConn := (keyed.keys _ c known).1
  unfold connectProcessMessage at result
  obtain ⟨⟨command, t₁⟩, first, result⟩ := of_bind_ok result
  obtain ⟨q, split₁, rfl⟩ := readShort_split first
  obtain ⟨⟨id, t₂⟩, second, result⟩ := of_bind_ok result
  obtain ⟨fields, split₂, rfl⟩ := readShort_split second
  rw [reading_reading] at result
  dsimp only at result
  split at result
  · rename_i isCreate
    rw [isCreate] at split₁
    obtain ⟨⟨t₃, success⟩, connects, result⟩ := of_bind_ok result
    dsimp only at result
    have replied : t₃.Ready → t' = apply t₃ (.emit (.link conn id (.created success))) := by
      intro ready
      have sent := @send_message _ _ id _ ready isConn (.created success)
      exact Except.ok.inj (result.symm.trans sent)
    have known' : (t.reading fields).connection? conn.val = some c := known
    rcases connectLink_run (keyed.reading fields) known' role connects with
      ⟨rfl, connected, step⟩ | ⟨rfl, attempt, report, attempt', report', run⟩
    · have ready : t₃.Ready := by
        rw [step.2]
        exact (Operation.keyed step.1 (keyed.reading fields)).ready
      have reply : Operation.Step t₃ (.emit (.link conn id (.created true))) t' :=
        ⟨trivial, replied ready⟩
      exact ⟨_, q, id, fields, fields, _, split₁, split₂, .cons step (.single reply), .connect connected⟩
    · have ready := (run_keyed run (keyed.reading fields)).ready
      have reply : Operation.Step t₃ (.emit (.link conn id (.created false))) t' :=
        ⟨trivial, replied ready⟩
      refine ⟨_, q, id, fields, fields, _, split₁, split₂, ?_, .fail attempt' report'⟩
      rw [← List.append_assoc]
      exact run.append (.single reply)
  · rw [isConn] at result
    split at result
    · obtain rfl := Except.ok.inj result
      exact ⟨command, q, id, fields, fields, [], split₁, split₂, .nil, .nothing⟩
    · rename_i l found
      have ids := keyed.ids conn.val id l found
      have stores : t.Stores conn l := by
        unfold Stores
        rw [ids]
        exact found
      obtain ⟨rest, ops, run, script⟩ :=
        processLinkMessage_run connect (keyed.reading fields) isConn stores result
      rw [ids] at script
      exact ⟨command, q, id, fields, rest, ops, split₁, split₂, run, script⟩

/-! ## Dispatches -/

/-- What an endpoint does with a message for one of its connections. -/
theorem dispatchMessage_run (keyed : t.Keyed) {connect : ConnectResult}
    (result : t.dispatchMessage conn.val connect = .ok t') :
    ∃ command q id fields rest ops,
      splitShort t.m_read_stream.m_queue = some (command, q) ∧ splitShort q = some (id, fields) ∧
      Run Operation.Step (t.reading rest) ops t' ∧ Script conn id fields connect command ops := by
  unfold dispatchMessage at result
  cases known : t.connection? conn.val with
  | none =>
      rw [known] at result
      cases result
  | some c =>
      rw [known] at result
      dsimp only at result
      unfold processMessage at result
      cases role : c.role with
      | listenSide socket n =>
          rw [role] at result
          refine listenProcessMessage_run connect keyed (keyed.keys _ c known).1 ?_ result
          rw [listens_of_connection known, role]
          rfl
      | connectSide =>
          rw [role] at result
          exact connectProcessMessage_run keyed known role result

/-- The operations of a listener or a link that is dispatched. -/
inductive ObjectScript : Polled → List Operation → Prop where
  | listener (conn : Short) (c : TunnelConnection) (socket : Nat) (n : Int) :
      ObjectScript (.listenSide conn.val socket) [.accept conn c socket n,
        .emit (.link conn (Short.ofInt n) .create)]
  | link (conn : Short) (c : TunnelConnection) (l : ConnectionLink) {ops : List Operation}
      (script : LinkScript conn c l ops) :
      ObjectScript (.connectionLink conn.val l.m_id l.m_socket) ops
  | tunnel : ObjectScript .stdioTunnel []

theorem listenPolled_run (keyed : t.Keyed) (known : t.connection? conn.val = some c) {socket : Nat}
    {n : Int} (role : c.role = .listenSide socket n) {accept fcntl : SysResult Unit}
    (result : t.listenPolled c socket n accept fcntl = .ok t') :
    Run Operation.Step t [.accept conn c socket n, .emit (.link conn (Short.ofInt n) .create)]
      t' := by
  have isConn := (keyed.keys _ c known).1
  unfold listenPolled at result
  split at result
  · cases result
  · cases result
  · have valid : (Operation.accept conn c socket n).Valid t := ⟨known, isConn, role⟩
    have sent := @send_bare _ _ (Short.ofInt n) _ (Operation.keyed valid keyed).ready isConn .create
      rfl
    rw [isConn] at result
    exact .cons ⟨valid, rfl⟩ (.single ⟨trivial, Except.ok.inj (result.symm.trans sent)⟩)

/-- What the dispatch of a link does. -/
theorem polledObject_steps (keyed : t.Keyed) {x : Int} {socket : Nat} {poll_struct : Pollfd}
    {calls : Calls} (result : t.polledObject (.connectionLink x id socket) poll_struct calls = .ok t') :
    ∃ conn c l ops, x = conn.val ∧ t.connection? conn.val = some c ∧ t.Stores conn l ∧
      l.m_id = id ∧ l.m_socket = socket ∧ Run Operation.Step t ops t' ∧
      LinkSteps conn c l poll_struct.revents calls.read calls.write ops := by
  unfold polledObject at result
  dsimp only at result
  split at result
  · rename_i c l known found
    obtain ⟨isConn, conn, rfl⟩ := keyed.keys x c known
    have ids := keyed.ids conn.val id l found
    have stores : t.Stores conn l := by
      unfold Stores
      rw [ids]
      exact found
    split at result
    · rename_i same
      obtain ⟨ops, run, steps⟩ := linkPolled_steps keyed isConn stores result
      exact ⟨conn, c, l, ops, rfl, known, stores, ids, same, run, steps⟩
    · cases result
  · cases result

/-- A dispatch of the socks5 server is a call on its descriptor. -/
theorem polledObject_run (keyed : t.Keyed) {polled : Polled} {poll_struct : Pollfd} {calls : Calls}
    (result : t.polledObject polled poll_struct calls = .ok t') :
    (∃ ops, Run Operation.Step t ops t' ∧ ObjectScript polled ops) ∨
      polled = .socks5Server ∧ t' = t.serve (.accepts poll_struct.fd) := by
  cases polled with
  | stdioTunnel =>
      obtain rfl := Except.ok.inj result
      exact Or.inl ⟨[], .nil, .tunnel⟩
  | socks5Server =>
      obtain rfl := Except.ok.inj result
      exact Or.inr ⟨rfl, rfl⟩
  | listenSide x socket =>
      unfold polledObject at result
      dsimp only at result
      split at result
      · rename_i c known
        obtain ⟨isConn, conn, rfl⟩ := keyed.keys x c known
        split at result
        · rename_i s n role
          split at result
          · rename_i same
            rw [same] at role result
            exact Or.inl ⟨_, listenPolled_run keyed known role result, .listener conn c socket n⟩
          · cases result
        · cases result
      · cases result
  | connectionLink x id socket =>
      obtain ⟨conn, c, l, ops, rfl, _, _, rfl, rfl, run, steps⟩ := polledObject_steps keyed result
      exact Or.inl ⟨ops, run, .link conn c l steps.script⟩

end StdioTunnel

end Tun01
