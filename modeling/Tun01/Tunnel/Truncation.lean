import Tun01.Tunnel.Containment
import Tun01.Tunnel.Schedule
import Tun01.Tunnel.Table

/-!
# Data that a close cuts off

An endpoint that is told to close a link closes its socket at once.  What it
received for the link has then been written exactly if nothing is left in the
link's buffer.
-/

namespace Tun01

open StdioTunnel (Aside Brings closingOps)

/-! ## Messages that are handled -/

/-- Two bytes that are read as a `short` are the bytes of that `short`. -/
theorem splitShort_eq {bytes rest : List Byte} {s : Short}
    (split : splitShort bytes = some (s, rest)) : bytes = WriteStream.shortBytes s ++ rest := by
  match bytes with
  | [] | [_] => cases split
  | x :: y :: bytes =>
      obtain ⟨rfl, rfl⟩ := Prod.mk.inj (Option.some.inj split)
      have high := x.isLt
      have low := y.isLt
      have front : WriteStream.shortBytes (Short.ofInt (x.toNat * 256 + y.toNat)) = [x, y] := by
        unfold WriteStream.shortBytes
        simp only [List.cons.injEq, and_true]
        constructor <;>
          (apply BitVec.eq_of_toNat_eq; rw [BitVec.toNat_ofInt, Short.val_ofInt]; omega)
      rw [front]
      rfl

/-- The fields of a message for a link. -/
theorem linkMessage_eq {payload fields : List Byte} {conn command id : Short}
    (is : linkMessage payload = some (conn, command, id, fields)) :
    payload = WriteStream.shortBytes CMD_CONNECTION ++ (WriteStream.shortBytes conn ++
      (WriteStream.shortBytes command ++ (WriteStream.shortBytes id ++ fields))) := by
  unfold linkMessage at is
  simp only [bind, Option.bind_eq_some_iff] at is
  obtain ⟨⟨cmd, q₁⟩, first, is⟩ := is
  dsimp only at is
  split at is
  · rename_i isConnection
    obtain ⟨⟨conn', q₂⟩, second, is⟩ := Option.bind_eq_some_iff.mp is
    obtain ⟨⟨command', q₃⟩, third, is⟩ := Option.bind_eq_some_iff.mp is
    obtain ⟨⟨id', q₄⟩, fourth, is⟩ := Option.bind_eq_some_iff.mp is
    cases is
    dsimp only at third fourth ⊢
    rw [splitShort_eq first, splitShort_eq second, splitShort_eq third, splitShort_eq fourth,
      isConnection]
  · cases is

namespace StdioTunnelLocal

variable {l l' : StdioTunnelLocal} {poll_struct : Pollfd} {calls : Calls} {stream : ReadStream}

/-- After a frame the dispatch changes no link. -/
theorem polledConnected_frame (fd : poll_struct.fd = l.m_read_fd)
    (fills : l.m_read_stream.fill poll_struct calls.header calls.body = .ok stream)
    (more : stream.available = true) (result : l.polledConnected poll_struct calls = .ok l') :
    ∃ l₁, (l.withReader stream).processFrame calls = .ok l₁ ∧
      Aside l₁.toStdioTunnel l'.toStdioTunnel := by
  unfold polledConnected at result
  obtain ⟨l₁, reads, result⟩ := of_bind_ok result
  obtain ⟨l₂, writes, result⟩ := of_bind_ok result
  rw [onFd_self _ _ fd] at reads
  have second : Aside l₁.toStdioTunnel l₂.toStdioTunnel := by
    unfold onFd at writes
    split at writes
    · exact connectedWrite_aside writes
    · obtain rfl := Except.ok.inj writes
      exact .refl _
  have third : Aside l₂.toStdioTunnel l'.toStdioTunnel := by
    unfold onFd at result
    split at result
    · exact connectedStdout_aside result
    · obtain rfl := Except.ok.inj result
      exact .refl _
  unfold connectedRead at reads
  split at reads
  · cases reads
  rw [fills, ok_bind] at reads
  dsimp only at reads
  split at reads
  · exact ⟨l₁, reads, second.trans third⟩
  · rename_i none
    exact absurd more none

end StdioTunnelLocal

namespace StdioTunnelRemote

variable {r r' : StdioTunnelRemote} {poll_struct : Pollfd} {calls : Calls} {stream : ReadStream}

/-- After a frame the dispatch does nothing. -/
theorem polled_completed (fd : poll_struct.fd = STDIN_FD)
    (fills : r.m_read_stream.fill poll_struct calls.header calls.body = .ok stream)
    (more : stream.available = true) (result : r.polled poll_struct calls = .ok r') :
    (r.withReader stream).processFrame calls = .ok r' := by
  unfold polled at result
  obtain ⟨r₁, reads, result⟩ := of_bind_ok result
  rw [onFd_self _ _ fd] at reads
  rw [onFd_of_ne _ _ (by rw [fd]; decide)] at result
  obtain rfl := Except.ok.inj result
  unfold polledStdin at reads
  cases failed : poll_struct.revents.failure with
  | true =>
      rw [failed] at reads
      cases reads
  | false =>
      cases ready : poll_struct.revents.POLLIN with
      | false =>
          rw [failed, ready] at reads
          cases reads
      | true =>
          rw [failed, ready, fills] at reads
          exact (if_pos more).symm.trans reads

end StdioTunnelRemote

namespace Endpoint

variable {e e' : Endpoint} {event : Event} {payload : List Byte}

/-- The frame of a dispatch is processed, and nothing else is done to the links. -/
theorem frame_processed (frame : e.frame event = some payload)
    (result : e.dispatch event = .ok e') :
    e.carriesLinks = true ∧ ∃ stream e₁, stream.m_queue = payload ∧
      (e.withTunnel (e.tunnel.withReader stream)).processFrame event.calls = .ok e₁ ∧
      Aside e₁.tunnel e'.tunnel := by
  unfold Endpoint.frame at frame
  split at frame
  · rename_i ready
    obtain ⟨self, fd, carries⟩ := ready
    cases fills : e.tunnel.m_read_stream.fill event.poll_struct event.calls.header
        event.calls.body with
    | error fault =>
        rw [fills] at frame
        cases frame
    | ok stream =>
        rw [fills] at frame
        dsimp only at frame
        split at frame
        · rename_i more
          obtain ⟨polled, poll_struct, calls⟩ := event
          obtain rfl : polled = .stdioTunnel := self
          refine ⟨carries, stream, ?_⟩
          cases e with
          | localEnd l =>
              obtain ⟨l', dispatched, rfl⟩ := of_map_ok result
              have connected : l.polled poll_struct calls = l.polledConnected poll_struct calls := by
                unfold carriesLinks at carries
                unfold StdioTunnelLocal.polled
                rcases (by simpa using carries : l.m_state = .HAND_SHAKE ∨ l.m_state = .CONNECTED)
                  with state | state <;> rw [state]
              change l.polled poll_struct calls = _ at dispatched
              rw [connected] at dispatched
              obtain ⟨l₁, processed, aside⟩ :=
                StdioTunnelLocal.polledConnected_frame fd fills more dispatched
              exact ⟨.localEnd l₁, Option.some.inj frame, congrArg (Except.map localEnd) processed,
                aside⟩
          | remoteEnd r =>
              obtain ⟨r', dispatched, rfl⟩ := of_map_ok result
              have processed := StdioTunnelRemote.polled_completed fd fills more dispatched
              exact ⟨.remoteEnd r', Option.some.inj frame,
                congrArg (Except.map remoteEnd) processed, .refl _⟩
        · cases frame
  · cases frame

end Endpoint

namespace StdioTunnel

variable {t t' : StdioTunnel} {conn command id : Short} {c : TunnelConnection}
  {l : ConnectionLink} {fields : List Byte}

/-- A message for a link that is stored goes to the link. -/
theorem dispatchMessage_link (keyed : t.Keyed) (stores : t.link? conn.val id = some l)
    (other : command ≠ LINK_CREATE) {connect : ConnectResult}
    (queue : t.m_read_stream.m_queue =
      WriteStream.shortBytes command ++ (WriteStream.shortBytes id ++ fields))
    (result : t.dispatchMessage conn.val connect = .ok t') :
    ∃ c, c.m_id = conn.val ∧ (t.reading fields).processLinkMessage c command l = .ok t' := by
  have first : t.readShort =
      .ok (command, t.reading (WriteStream.shortBytes id ++ fields)) :=
    readShort_found (by rw [queue]; simp)
  have second := readShort_reading t id fields
  unfold dispatchMessage at result
  cases known : t.connection? conn.val with
  | none =>
      rw [known] at result
      cases result
  | some c =>
      obtain ⟨isConn, _⟩ := keyed.keys _ c known
      have found : (t.reading fields).link? c.m_id id = some l := by
        rw [isConn]
        exact stores
      rw [known] at result
      dsimp only at result
      refine ⟨c, isConn, ?_⟩
      unfold processMessage at result
      cases role : c.role with
      | listenSide socket n =>
          rw [role] at result
          dsimp only at result
          unfold listenProcessMessage at result
          rw [first, ok_bind] at result
          dsimp only at result
          rw [second, ok_bind] at result
          dsimp only at result
          rw [found] at result
          dsimp only at result
          rw [if_neg other] at result
          exact result
      | connectSide =>
          rw [role] at result
          dsimp only at result
          unfold connectProcessMessage at result
          rw [first, ok_bind] at result
          dsimp only at result
          rw [second, ok_bind] at result
          dsimp only at result
          rw [if_neg other, found] at result
          exact result

/-- Data for a link that is up ends up in its buffer. -/
theorem processLinkMessage_data (keyed : t.Keyed) (isConn : c.m_id = conn.val)
    (stores : t.Stores conn l) (up : l.m_closing = false)
    (data : command = LINK_SEND ∨ command = LINK_SEND_FOR_ACK)
    (result : t.processLinkMessage c command l = .ok t') :
    ∃ bytes, Brings t.m_read_stream.m_queue bytes ∧ t'.os = t.os ∧
      t'.link? conn.val l.m_id = some { l with m_buffer := l.m_buffer.insert bytes } := by
  -- `receiveData` on a link that is up
  have pushed : ∀ {t₁ : StdioTunnel} {l₁ : ConnectionLink}, t.receiveData c l = .ok (t₁, l₁) →
      t₁.Ready ∧ l₁.m_id = l.m_id ∧ l₁.m_closing = false ∧ ∃ bytes,
        Brings t.m_read_stream.m_queue bytes ∧ t₁.os = t.os ∧ t₁.link? conn.val l.m_id =
          some { l with m_buffer := l.m_buffer.insert bytes } := fun received => by
    obtain ⟨rest, bytes, brings, ⟨closing, _⟩ | ⟨_, rfl, valid, rfl⟩⟩ :=
      receiveData_run isConn stores received
    · rw [up] at closing
      cases closing
    · have stored := (Operation.link?_apply valid conn.val l.m_id).trans (if_pos ⟨rfl, rfl⟩)
      exact ⟨(Operation.keyed valid (keyed.reading rest)).ready, rfl, up, bytes, brings, rfl, stored⟩
  unfold processLinkMessage at result
  rcases data with rfl | rfl
  · rw [if_pos rfl] at result
    obtain ⟨⟨t₁, l₁⟩, received, result⟩ := of_bind_ok result
    obtain rfl := Except.ok.inj result
    exact (pushed received).2.2.2
  · rw [if_neg (by decide), if_neg (by decide), if_pos rfl] at result
    obtain ⟨⟨t₁, l₁⟩, received, result⟩ := of_bind_ok result
    obtain ⟨ready, ids, isOpen, stored⟩ := pushed received
    dsimp only at result
    rw [isOpen, ids] at result
    have sent := @send_bare _ _ l.m_id _ ready isConn .ack rfl
    obtain rfl := Except.ok.inj (sent.symm.trans result)
    exact stored

/-- A link that is up has its socket closed once it is told to close. -/
theorem processLinkMessage_close (keyed : t.Keyed) (isConn : c.m_id = conn.val)
    (stores : t.Stores conn l) (up : l.m_closing = false)
    (result : t.processLinkMessage c LINK_CLOSE l = .ok t') :
    t'.os.trace = t.os.trace ++ [.closed l.m_socket] := by
  unfold processLinkMessage at result
  rw [if_neg (by decide), if_pos rfl] at result
  obtain ⟨t₁, closing, result⟩ := of_bind_ok result
  obtain rfl := Except.ok.inj result
  have run := closeLink_run keyed isConn stores closing
  unfold closingOps at run
  rw [up] at run
  obtain ⟨_, ⟨_, rfl⟩, later⟩ := run.uncons
  obtain ⟨_, ⟨_, rfl⟩, last⟩ := later.uncons
  obtain rfl := last.of_nil
  rfl

end StdioTunnel

namespace Endpoint

variable {e e' : Endpoint} {event : Event} {conn command id : Short} {l : ConnectionLink}
  {fields : List Byte}

/-- A message for a link that is stored is handled by the link. -/
theorem message_processed (waitsEmpty : e.WaitsEmpty)
    (message : e.message event = some (conn, command, id, fields))
    (found : e.tunnel.link? conn.val id = some l) (other : command ≠ LINK_CREATE)
    (result : e.dispatch event = .ok e') :
    ∃ c t t', Aside e.tunnel t ∧ t.m_read_stream.m_queue = fields ∧ c.m_id = conn.val ∧
      t.processLinkMessage c command l = .ok t' ∧ Aside t' e'.tunnel := by
  unfold Endpoint.message at message
  obtain ⟨payload, frame, is⟩ := Option.bind_eq_some_iff.mp message
  obtain ⟨carries, stream, e₁, queue, processed, rest⟩ := frame_processed frame result
  rw [linkMessage_eq is] at queue
  rw [processFrame_message (t := e.tunnel.withReader stream) carries queue] at processed
  obtain ⟨t', dispatched, rfl⟩ := of_map_ok processed
  rw [tunnel_withTunnel] at rest
  have read : Aside e.tunnel ((e.tunnel.withReader stream).reading
      (WriteStream.shortBytes command ++ (WriteStream.shortBytes id ++ fields))) :=
    .withReader _ (stream.withQueue _)
  obtain ⟨c, isConn, handled⟩ := StdioTunnel.dispatchMessage_link (read.keyed waitsEmpty.keyed)
    ((read.link? _ _).trans found) other rfl dispatched
  exact ⟨c, _, t', .withReader _ (stream.withQueue fields), rfl, isConn, handled, rest⟩

end Endpoint

/-! ## Bytes received and written -/

def Kernel.sentTo (os : Kernel) (s : Nat) : List Byte := os.trace.flatMap (Syscall.bytesOut [s])

/-- What was received for a link is written or in its buffer, while it is not closing. -/
structure StdioTunnel.Carried (t : StdioTunnel) (received : Nat → List Byte) : Prop where
  buffers : t.Buffered
  fresh : ∀ s, t.os.next_socket ≤ s → received s = [] ∧ t.os.sentTo s = []
  sockets : ∀ x i l, t.link? x i = some l → l.m_socket < t.os.next_socket
  apart : ∀ x i l x' i' l', t.link? x i = some l → t.link? x' i' = some l' →
    l.m_socket = l'.m_socket → x = x' ∧ i = i'
  bytes : ∀ x i l, t.link? x i = some l → l.m_closing = false →
    received l.m_socket = t.os.sentTo l.m_socket ++ l.m_buffer.pending

namespace Operation

variable {t t' : StdioTunnel} {op : Operation} {received : Nat → List Byte} {x x' : Int}
  {i i' : Short} {l l' : ConnectionLink}

def feed (received : Nat → List Byte) : Operation → Nat → List Byte
  | push _ l bytes => Function.update received l.m_socket (received l.m_socket ++ bytes)
  | _ => received

def writes (s : Nat) : Operation → List Byte
  | written _ l _ bytes => if l.m_socket = s then bytes else []
  | _ => []

theorem sentTo_apply (op : Operation) (t : StdioTunnel) (s : Nat) :
    (op.apply t).os.sentTo s = t.os.sentTo s ++ op.writes s := by
  unfold Kernel.sentTo
  rw [trace_apply, List.flatMap_append]
  congr 1
  cases op with
  | written _ l _ bytes =>
      change (if l.m_socket ∈ [s] then bytes else []) ++ [] = if l.m_socket = s then bytes else []
      rw [List.append_nil]
      simp only [List.mem_singleton]
  | emit _ | acknowledge _ _ _ | push _ _ _ | erase _ _ | establish _ _ | received _ _ _
  | close _ _ | refuse _ _ | accept _ _ _ _ | attempt _ _ | connect _ _ => rfl

/-- A stored link has the socket it had, or one that was just opened. -/
theorem socket_origin (valid : op.Valid t) (found : (op.apply t).link? x i = some l) :
    (∃ l₀, t.link? x i = some l₀ ∧ l.m_socket = l₀.m_socket) ∨
      l.m_socket = t.os.next_socket ∧ ∃ conn stored, op.stores t = some (conn, i, stored) ∧
        x = conn.val := by
  rw [link?_apply valid] at found
  cases op with
  | emit _ | received _ _ _ | establish _ _ | attempt _ _ => exact Or.inl ⟨l, found, rfl⟩
  | acknowledge conn l₀ ack =>
      dsimp only [stores] at found
      split at found
      · rename_i here
        obtain ⟨rfl, rfl⟩ := here
        cases found
        exact Or.inl ⟨l₀, valid, rfl⟩
      · exact Or.inl ⟨l, found, rfl⟩
  | push conn l₀ _ | written conn l₀ _ _ | close conn l₀ =>
      dsimp only [stores] at found
      split at found
      · rename_i here
        obtain ⟨rfl, rfl⟩ := here
        cases found
        exact Or.inl ⟨l₀, valid.1, rfl⟩
      · exact Or.inl ⟨l, found, rfl⟩
  | erase conn l₀ | refuse conn l₀ =>
      dsimp only [stores] at found
      split at found
      · cases found
      · exact Or.inl ⟨l, found, rfl⟩
  | accept conn _ _ _ | connect conn _ =>
      dsimp only [stores] at found
      split at found
      · rename_i here
        obtain ⟨rfl, rfl⟩ := here
        cases found
        exact Or.inr ⟨rfl, conn, _, rfl, rfl⟩
      · exact Or.inl ⟨l, found, rfl⟩

theorem apart_apply (valid : op.Valid t) (carried : t.Carried received)
    (first : (op.apply t).link? x i = some l) (second : (op.apply t).link? x' i' = some l')
    (same : l.m_socket = l'.m_socket) : x = x' ∧ i = i' := by
  rcases socket_origin valid first with ⟨l₀, old, socket⟩ | ⟨new, conn, stored, stores, rfl⟩
  · rcases socket_origin valid second with ⟨l₀', old', socket'⟩ | ⟨new', _⟩
    · exact carried.apart _ _ _ _ _ _ old old' (socket.symm.trans (same.trans socket'))
    · have below := carried.sockets _ _ _ old
      omega
  · rcases socket_origin valid second with ⟨l₀', old', socket'⟩ | ⟨_, conn', stored', stores', rfl⟩
    · have below := carried.sockets _ _ _ old'
      omega
    · rw [stores] at stores'
      cases stores'
      exact ⟨rfl, rfl⟩

theorem bytes_apply (valid : op.Valid t) (measured : op.Measured) (carried : t.Carried received)
    (found : (op.apply t).link? x i = some l) (up : l.m_closing = false) :
    op.feed received l.m_socket = (op.apply t).os.sentTo l.m_socket ++ l.m_buffer.pending := by
  rw [sentTo_apply]
  have old : t.link? x i = some l →
      received l.m_socket = t.os.sentTo l.m_socket ++ [] ++ l.m_buffer.pending := fun found => by
    rw [List.append_nil]
    exact carried.bytes x i l found up
  have elsewhere : ∀ {conn : Short} {l₀ : ConnectionLink}, t.Stores conn l₀ →
      ¬(x = conn.val ∧ i = l₀.m_id) → t.link? x i = some l → l₀.m_socket ≠ l.m_socket :=
    fun stored other found same =>
      other (carried.apart _ _ _ _ _ _ found stored same.symm)
  rw [link?_apply valid] at found
  cases op with
  | emit _ | received _ _ _ | establish _ _ | attempt _ _ => exact old found
  | acknowledge conn l₀ ack =>
      dsimp only [stores] at found
      split at found
      · cases found
        change received l₀.m_socket = t.os.sentTo l₀.m_socket ++ [] ++ l₀.m_buffer.pending
        rw [List.append_nil]
        exact carried.bytes _ _ l₀ valid up
      · exact old found
  | push conn l₀ bytes =>
      dsimp only [stores] at found
      split at found
      · cases found
        change Function.update received l₀.m_socket (received l₀.m_socket ++ bytes) l₀.m_socket =
          t.os.sentTo l₀.m_socket ++ [] ++ (l₀.m_buffer.insert bytes).pending
        rw [Function.update_self, List.append_nil, SockBuffer.insert_pending,
          ← List.append_assoc, ← carried.bytes _ _ l₀ valid.1 valid.2]
      · rename_i other
        have same := elsewhere valid.1 other found
        change Function.update received l₀.m_socket (received l₀.m_socket ++ bytes) l.m_socket = _
        rw [Function.update_of_ne same.symm]
        exact old found
  | written conn l₀ buffer bytes =>
      dsimp only [stores] at found
      split at found
      · cases found
        obtain ⟨write, within, result⟩ := measured
        have pending := ((carried.buffers _ _ l₀ valid.1).writeData within result).2
        change received l₀.m_socket =
          t.os.sentTo l₀.m_socket ++ (if l₀.m_socket = l₀.m_socket then bytes else []) ++
            buffer.pending
        rw [if_pos rfl, List.append_assoc, ← pending]
        exact carried.bytes _ _ l₀ valid.1 up
      · rename_i other
        have same := elsewhere valid.1 other found
        change received l.m_socket = t.os.sentTo l.m_socket ++
          (if l₀.m_socket = l.m_socket then bytes else []) ++ l.m_buffer.pending
        rw [if_neg same]
        exact old found
  | close conn l₀ =>
      dsimp only [stores] at found
      split at found
      · cases found
        cases up
      · exact old found
  | erase conn l₀ | refuse conn l₀ =>
      dsimp only [stores] at found
      split at found
      · cases found
      · exact old found
  | accept conn _ _ _ | connect conn _ =>
      dsimp only [stores] at found
      split at found
      · cases found
        obtain ⟨none, unwritten⟩ := carried.fresh t.os.next_socket (Nat.le_refl _)
        change received t.os.next_socket =
          t.os.sentTo t.os.next_socket ++ [] ++ SockBuffer.fresh.pending
        rw [none, unwritten, SockBuffer.fresh_pending]
        rfl
      · exact old found

theorem fresh_apply (valid : op.Valid t) (carried : t.Carried received) {s : Nat}
    (above : (op.apply t).os.next_socket ≤ s) :
    op.feed received s = [] ∧ (op.apply t).os.sentTo s = [] := by
  have grows := next_socket_apply op t
  obtain ⟨none, unwritten⟩ := carried.fresh s (Nat.le_trans grows above)
  rw [sentTo_apply, unwritten]
  cases op with
  | push conn l₀ bytes =>
      have below := carried.sockets _ _ l₀ valid.1
      refine ⟨?_, rfl⟩
      change Function.update received l₀.m_socket _ s = []
      rw [Function.update_of_ne (by omega)]
      exact none
  | written conn l₀ buffer bytes =>
      have below := carried.sockets _ _ l₀ valid.1
      exact ⟨none, if_neg (by omega)⟩
  | emit _ | acknowledge _ _ _ | erase _ _ | establish _ _ | received _ _ _
  | close _ _ | refuse _ _ | accept _ _ _ _ | attempt _ _ | connect _ _ => exact ⟨none, rfl⟩

theorem carried_apply (valid : op.Valid t) (measured : op.Measured)
    (carried : t.Carried received) : (op.apply t).Carried (op.feed received) where
  buffers := fun _ _ _ found => buffer_stored valid measured carried.buffers found
  fresh := fun _ above => fresh_apply valid carried above
  sockets := fun _ _ _ found => socket_stored valid carried.sockets found
  apart := fun _ _ _ _ _ _ first second same => apart_apply valid carried first second same
  bytes := fun _ _ _ found up => bytes_apply valid measured carried found up

end Operation

namespace StdioTunnel

variable {t t' : StdioTunnel} {received : Nat → List Byte} {conn id : Short}
  {ops : List Operation} {l : ConnectionLink}

theorem Carried.run (carried : t.Carried received) (run : Run Operation.Step t ops t')
    (measured : ∀ op ∈ ops, op.Measured) : t'.Carried (ops.foldl Operation.feed received) := by
  induction run with
  | nil => exact carried
  | snoc earlier last ih =>
      obtain ⟨valid, rfl⟩ := last
      obtain ⟨before, here⟩ := List.forall_mem_append.mp measured
      rw [List.foldl_append]
      exact Operation.carried_apply valid (List.forall_mem_singleton.mp here) (ih before)

/-- The dispatch of a link receives nothing for a socket. -/
theorem feed_on (on : ∀ op ∈ ops, op.On conn id) : ops.foldl Operation.feed received = received := by
  induction ops with
  | nil => rfl
  | cons op ops ih =>
      obtain ⟨here, others⟩ := List.forall_mem_cons.mp on
      have same : op.feed received = received := by
        cases op with
        | push _ _ _ => exact here.elim
        | _ => rfl
      rw [List.foldl_cons, same]
      exact ih others

theorem Carried.aside (carried : t.Carried received) (aside : Aside t t') : t'.Carried received where
  buffers := carried.buffers.aside aside
  fresh := by
    rw [aside.os]
    exact carried.fresh
  sockets := by
    intro x i l found
    rw [aside.link?] at found
    rw [aside.os]
    exact carried.sockets x i l found
  apart := by
    intro x i l x' i' l' first second
    rw [aside.link?] at first second
    exact carried.apart x i l x' i' l' first second
  bytes := by
    intro x i l found up
    rw [aside.link?] at found
    rw [aside.os]
    exact carried.bytes x i l found up

/-- Listening writes nothing to a socket. -/
theorem sentTo_listens {os os' : Kernel} (listens : os.Listens os') (s : Nat) :
    os'.sentTo s = os.sentTo s := by
  obtain ⟨more, trace, calls⟩ := listens.trace
  unfold Kernel.sentTo
  rw [trace, List.flatMap_append]
  refine (congrArg _ (List.flatMap_eq_nil_iff.mpr fun call member => ?_)).trans
    (List.append_nil _)
  obtain ⟨socket, conn, rfl, _⟩ := calls call member
  rfl

/-- Without links nothing is owed to a socket. -/
theorem Linkless.carried (none : t.Linkless)
    (fresh : ∀ s, t.os.next_socket ≤ s → received s = [] ∧ t.os.sentTo s = []) :
    t.Carried received where
  buffers := fun x i l found => by
    rw [none.link] at found
    cases found
  fresh := fresh
  sockets := fun x i l found => by
    rw [none.link] at found
    cases found
  apart := fun x i l _ _ _ found => by
    rw [none.link] at found
    cases found
  bytes := fun x i l found => by
    rw [none.link] at found
    cases found

/-- What comes for a link that is closing does not matter. -/
theorem Carried.ignore (carried : t.Carried received) {x : Int} {i : Short}
    (found : t.link? x i = some l) (closing : l.m_closing = true) (bytes : List Byte) :
    t.Carried (Function.update received l.m_socket bytes) where
  buffers := carried.buffers
  fresh := by
    intro s above
    have below := carried.sockets x i l found
    rw [Function.update_of_ne (by omega)]
    exact carried.fresh s above
  sockets := carried.sockets
  apart := carried.apart
  bytes := by
    intro x' i' l' found' up
    rw [Function.update_of_ne]
    · exact carried.bytes x' i' l' found' up
    · intro same
      obtain ⟨rfl, rfl⟩ := carried.apart _ _ _ _ _ _ found' found same
      rw [found] at found'
      obtain rfl := Option.some.inj found'
      rw [closing] at up
      cases up

/-- Data for a link that is up is received for its socket; nothing else is. -/
theorem Script.feed {command : Short} {fields : List Byte} {connect : ConnectResult}
    (script : Script conn id fields connect command ops) (run : Run Operation.Step t ops t')
    (received : Nat → List Byte) :
    ops.foldl Operation.feed received = received ∨
      ∃ l bytes, (command = LINK_SEND ∨ command = LINK_SEND_FOR_ACK) ∧
        t.link? conn.val id = some l ∧ l.m_closing = false ∧ Brings fields bytes ∧
        ops.foldl Operation.feed received =
          Function.update received l.m_socket (received l.m_socket ++ bytes) := by
  cases script with
  | nothing | acknowledged | ignored | close | closed | establish | refuse | connect =>
      exact Or.inl rfl
  | push l bytes ids brings =>
      obtain ⟨_, ⟨valid, _⟩, _⟩ := run.uncons
      subst ids
      exact Or.inr ⟨l, bytes, Or.inl rfl, valid.1, valid.2, brings, rfl⟩
  | pushForAck l bytes ids brings =>
      obtain ⟨_, ⟨valid, _⟩, _⟩ := run.uncons
      subst ids
      exact Or.inr ⟨l, bytes, Or.inr rfl, valid.1, valid.2, brings, rfl⟩
  | fail attempt report =>
      rcases attempt with rfl | rfl <;> rcases report with rfl | ⟨_, rfl⟩ <;> exact Or.inl rfl

end StdioTunnel

/-! ## What a dispatch writes -/

/-- As many bytes are written as `write` said. -/
theorem SockBuffer.Valid.written_length {b b' : SockBuffer} {count : Nat} {bytes : List Byte}
    (valid : b.Valid) (within : (SysResult.ok count).WritesWithin b.request)
    (result : b.writeData (.ok count) = (b', .ok bytes)) : bytes.length = count := by
  have atMost := within count rfl
  unfold SockBuffer.request at atMost
  unfold SockBuffer.writeData at result
  dsimp only at result
  split at result
  · cases result
  · rename_i inside
    obtain ⟨_, taken⟩ := Prod.mk.inj result
    have size := (valid.refill.resolve_right inside).1.staged_length
    rw [← Except.ok.inj taken, List.length_take]
    omega

instance (revents : PollEvents) (read : SysResult (List Byte)) :
    Decidable (StdioTunnel.Writes revents read) :=
  have : Decidable (∃ bytes, read = .ok bytes ∧ bytes ≠ []) :=
    match read with
    | .ok [] => isFalse fun ⟨bytes, same, some'⟩ => some' (SysResult.ok.inj same).symm
    | .ok (b :: bytes) => isTrue ⟨b :: bytes, rfl, nofun⟩
    | .fail _ => isFalse fun ⟨_, no, _⟩ => by cases no
  inferInstanceAs (Decidable (_ ∧ _))

/-- How many bytes a dispatch writes to a socket, by what `write` said. -/
def Event.taken (event : Event) (s : Nat) : Nat :=
  match event.polled, event.calls.write with
  | .connectionLink _ _ socket, .ok count =>
      if socket = s ∧ StdioTunnel.Writes event.poll_struct.revents event.calls.read then
        count
      else
        0
  | _, _ => 0

namespace StdioTunnel

variable {t t' : StdioTunnel} {conn id : Short} {c : TunnelConnection} {l : ConnectionLink}
  {ops : List Operation}

theorem sentTo_run (run : Run Operation.Step t ops t') (s : Nat) :
    t'.os.sentTo s = t.os.sentTo s ++ ops.flatMap (Operation.writes s) := by
  induction run with
  | nil => exact (List.append_nil _).symm
  | snoc earlier last ih =>
      obtain ⟨_, rfl⟩ := last
      rw [Operation.sentTo_apply, ih, List.flatMap_append, List.flatMap_singleton,
        List.append_assoc]

theorem closingOps_writes (conn : Short) (l : ConnectionLink) (s : Nat) :
    (closingOps conn l).flatMap (Operation.writes s) = [] := by
  unfold closingOps
  split <;> rfl

theorem readingOps_writes (bytes : List Byte) (s : Nat) :
    (readingOps conn c l bytes).flatMap (Operation.writes s) = [] := by
  unfold readingOps
  split <;> rfl

/-- The dispatch of a link writes what `write` takes, to its socket. -/
theorem LinkSteps.taken {event : Event} {x : Int} {i : Short}
    (steps : LinkSteps conn c l event.poll_struct.revents event.calls.read event.calls.write ops)
    (polled : event.polled = .connectionLink x i l.m_socket) (valid : l.m_buffer.Valid)
    (within : event.calls.write.WritesWithin l.m_buffer.request) (s : Nat) :
    (ops.flatMap (Operation.writes s)).length = event.taken s := by
  have none : ¬Writes event.poll_struct.revents event.calls.read → event.taken s = 0 := by
    intro idle
    unfold Event.taken
    rw [polled]
    cases event.calls.write with
    | fail errno => rfl
    | ok count => exact if_neg fun both => idle both.2
  cases steps with
  | closes ready ends =>
      rw [closingOps_writes, none]
      · rfl
      · rintro ⟨_, reads⟩
        obtain ⟨bytes, same, some'⟩ := reads ready
        exact some' (ends bytes same)
  | @goesOn first second l' l'' reads writes =>
      obtain ⟨socket, buffer⟩ : l'.m_socket = l.m_socket ∧ l'.m_buffer = l.m_buffer := by
        rcases reads with ⟨_, _, rfl⟩ | ⟨_, _, _, _, _, rfl⟩
        · exact ⟨rfl, rfl⟩
        · exact ⟨(readingLink_same c l).2.1, (readingLink_same c l).2.2.2⟩
      have input : first.flatMap (Operation.writes s) = [] := by
        rcases reads with ⟨_, rfl, _⟩ | ⟨_, bytes, _, _, rfl, _⟩
        · rfl
        · exact readingOps_writes bytes s
      have last : (if event.poll_struct.revents.failure then closingOps conn l'' else []).flatMap
          (Operation.writes s) = [] := by
        split
        · exact closingOps_writes conn l'' s
        · rfl
      rw [List.flatMap_append, List.flatMap_append, input, last, List.nil_append, List.append_nil]
      rcases writes with ⟨idle, rfl, _⟩ | ⟨writable, b, bytes, outcome, rfl, _⟩
      · rw [none]
        · rfl
        · rintro ⟨writable, _⟩
          rw [idle] at writable
          cases writable
      · have isReady : Writes event.poll_struct.revents event.calls.read := by
          refine ⟨writable, fun ready => ?_⟩
          rcases reads with ⟨silent, _⟩ | ⟨_, bytes, same, some', _⟩
          · rw [silent] at ready
            cases ready
          · exact ⟨bytes, same, some'⟩
        rw [List.flatMap_singleton]
        unfold Event.taken Operation.writes
        rw [polled]
        dsimp only
        rw [socket]
        rw [buffer] at outcome
        cases took : event.calls.write with
        | fail errno =>
            rw [took] at outcome
            unfold SockBuffer.writeData at outcome
            dsimp only at outcome
            split at outcome <;> cases outcome
        | ok count =>
            rw [took] at outcome within
            dsimp only
            have length := valid.written_length within outcome
            by_cases mine : l.m_socket = s
            · rw [if_pos mine, if_pos ⟨mine, isReady⟩, length]
            · rw [if_neg mine, if_neg fun both => mine both.1]
              rfl

theorem Script.writes {fields : List Byte} {connect : ConnectResult} {command : Short}
    (script : Script conn id fields connect command ops) (s : Nat) :
    ops.flatMap (Operation.writes s) = [] := by
  cases script with
  | nothing | push | pushForAck | acknowledged | ignored | close | closed | establish | refuse
  | connect => rfl
  | fail attempt report =>
      rcases attempt with rfl | rfl <;> rcases report with rfl | ⟨_, rfl⟩ <;> rfl

end StdioTunnel

/-- A dispatch writes as many bytes to a socket as `write` took. -/
theorem Endpoint.Step.taken {e e' : Endpoint} {event : Event} (step : e.Step event e')
    (waitsEmpty : e.WaitsEmpty) (buffered : e.tunnel.Buffered) (s : Nat) :
    (e'.tunnel.os.sentTo s).length = (e.tunnel.os.sentTo s).length + event.taken s := by
  by_cases isLink : ∃ x i socket, event.polled = .connectionLink x i socket
  · obtain ⟨x, i, socket, polled⟩ := isLink
    obtain ⟨conn, c, l, ops, rfl, _, stores, rfl, rfl, run, steps⟩ :=
      dispatch_link waitsEmpty.keyed polled step.result
    have within := step.within
    unfold Event.Within at within
    rw [polled] at within
    rw [StdioTunnel.sentTo_run run, List.length_append,
      steps.taken polled (buffered _ _ l stores) (within.2 l stores)]
  · have idle : event.taken s = 0 := by
      unfold Event.taken
      split
      · exact absurd ⟨_, _, _, ‹_›⟩ isLink
      · rfl
    rw [idle, Nat.add_zero]
    refine congrArg List.length ?_
    have turn := dispatch_turn waitsEmpty.keyed step.result
    cases turn with
    | aside same => rw [same.os]
    | object run script =>
        rw [StdioTunnel.sentTo_run run]
        generalize event.polled = polled at script isLink
        cases script with
        | link conn c l script => exact absurd ⟨_, _, _, rfl⟩ isLink
        | listener | tunnel => exact List.append_nil _
    | message handles before run script after =>
        rw [after.os, StdioTunnel.sentTo_run run, script.writes, before.os, List.append_nil]
    | handshake isRemote waits linkless listens keyed joined server =>
        exact StdioTunnel.sentTo_listens listens s

/-! ## Runs -/

def dataBytes (fields : List Byte) : Option (List Byte) :=
  (splitShort fields).map fun (length, rest) => rest.take length.val.toNat

theorem dataBytes_of_brings {fields bytes : List Byte} (brings : Brings fields bytes) :
    dataBytes fields = some bytes := by
  obtain ⟨length, rest, split, size⟩ := brings
  unfold dataBytes
  rw [split]
  have exactly : length.val.toNat = bytes.length := by omega
  simp only [Option.map_some, exactly, List.take_left]

namespace Endpoint

variable {e e' : Endpoint} {event : Event} {conn command id : Short} {l : ConnectionLink}
  {fields bytes : List Byte} {received : Nat → List Byte} {s : Nat}

/-- The link a data message is for, and its bytes. -/
def receipt (e : Endpoint) (event : Event) : Option (ConnectionLink × List Byte) :=
  (e.message event).bind fun (conn, command, id, fields) =>
    if command = LINK_SEND ∨ command = LINK_SEND_FOR_ACK then
      (e.tunnel.link? conn.val id).bind fun l =>
        (dataBytes fields).map fun bytes => (l, bytes)
    else
      none

theorem receipt_of_message (message : e.message event = some (conn, command, id, fields))
    (data : command = LINK_SEND ∨ command = LINK_SEND_FOR_ACK)
    (found : e.tunnel.link? conn.val id = some l) (brings : Brings fields bytes) :
    e.receipt event = some (l, bytes) := by
  unfold receipt
  rw [message, Option.bind_some]
  dsimp only
  rw [if_pos data, found, dataBytes_of_brings brings]
  rfl

theorem message_of_receipt (receipt : e.receipt event = some (l, bytes)) :
    ∃ conn command id fields, e.message event = some (conn, command, id, fields) ∧
      (command = LINK_SEND ∨ command = LINK_SEND_FOR_ACK) ∧
      e.tunnel.link? conn.val id = some l ∧ dataBytes fields = some bytes := by
  unfold Endpoint.receipt at receipt
  obtain ⟨⟨conn, command, id, fields⟩, message, receipt⟩ := Option.bind_eq_some_iff.mp receipt
  dsimp only at receipt
  split at receipt
  · rename_i data
    obtain ⟨l, found, receipt⟩ := Option.bind_eq_some_iff.mp receipt
    obtain ⟨bytes, announced, same⟩ := Option.map_eq_some_iff.mp receipt
    obtain ⟨rfl, rfl⟩ := Prod.mk.inj same
    exact ⟨conn, command, id, fields, message, data, found, announced⟩
  · cases receipt

/-- A dispatch that receives data writes to no socket. -/
theorem taken_of_receipt (receipt : e.receipt event = some (l, bytes)) (s : Nat) :
    event.taken s = 0 := by
  obtain ⟨_, _, _, _, message, _⟩ := message_of_receipt receipt
  unfold Endpoint.message at message
  obtain ⟨_, frame, _⟩ := Option.bind_eq_some_iff.mp message
  unfold Endpoint.frame at frame
  split at frame
  · rename_i ready
    unfold Event.taken
    rw [ready.1]
  · cases frame

/-- A dispatch receives data for a link that is up, or nothing that counts. -/
theorem Step.carried (step : e.Step event e') (waitsEmpty : e.WaitsEmpty)
    (carried : e.tunnel.Carried received) :
    e'.tunnel.Carried received ∨ ∃ conn command id fields l bytes,
      e.message event = some (conn, command, id, fields) ∧
      (command = LINK_SEND ∨ command = LINK_SEND_FOR_ACK) ∧
      e.tunnel.link? conn.val id = some l ∧ l.m_closing = false ∧ Brings fields bytes ∧
      e'.tunnel.Carried
        (Function.update received l.m_socket (received l.m_socket ++ bytes)) := by
  have turn := dispatch_turn waitsEmpty.keyed step.result
  cases turn with
  | aside same => exact Or.inl (carried.aside same)
  | object run script =>
      refine Or.inl ?_
      by_cases isLink : ∃ x i s, event.polled = .connectionLink x i s
      · obtain ⟨x, i, s, polled⟩ := isLink
        obtain ⟨conn, c, l, ops, rfl, _, stores, rfl, rfl, run, steps⟩ :=
          dispatch_link waitsEmpty.keyed polled step.result
        have within := step.within
        unfold Event.Within at within
        rw [polled] at within
        have after := carried.run run (steps.measured (within.2 l stores))
        rw [StdioTunnel.feed_on steps.on] at after
        exact after
      · generalize event.polled = polled at script isLink
        cases script with
        | listener conn c socket n =>
            exact carried.run run
              (List.forall_mem_cons.mpr ⟨trivial, List.forall_mem_singleton.mpr trivial⟩)
        | link conn c l script => exact absurd ⟨_, _, _, rfl⟩ isLink
        | tunnel => exact carried.run run (List.forall_mem_nil _)
  | @message conn command id fields ops t t' handles before run script after =>
      have ran := ((carried.aside before).run run script.measured).aside after
      rcases script.feed run received with same | ⟨l, bytes, data, found, up, brings, same⟩
      · rw [same] at ran
        exact Or.inl ran
      · rw [same] at ran
        rw [before.link?] at found
        exact Or.inr ⟨conn, command, id, fields, l, bytes, handles, data, found, up, brings, ran⟩
  | @handshake r isRemote waits linkless listens keyed joined server =>
      obtain ⟨_, none⟩ := waitsEmpty.waiting r isRemote waits
      obtain rfl := isRemote
      refine Or.inl ((linkless none).carried fun s above => ?_)
      obtain ⟨nothing, unwritten⟩ := carried.fresh s (Nat.le_trans listens.next above)
      exact ⟨nothing, (StdioTunnel.sentTo_listens listens s).trans unwritten⟩

/-- A dispatch that receives no data. -/
theorem Step.silent (step : e.Step event e') (waitsEmpty : e.WaitsEmpty)
    (carried : e.tunnel.Carried received) (none : e.receipt event = none) :
    e'.tunnel.Carried received := by
  rcases step.carried waitsEmpty carried with
    same | ⟨conn, command, id, fields, l, bytes, message, data, found, up, brings, _⟩
  · exact same
  · rw [receipt_of_message message data found brings] at none
    cases none

/-- A dispatch that receives data for a link that is closing. -/
theorem Step.ignores (step : e.Step event e') (waitsEmpty : e.WaitsEmpty)
    (carried : e.tunnel.Carried received) (receipt : e.receipt event = some (l, bytes))
    (closing : l.m_closing = true) (any : List Byte) :
    e'.tunnel.Carried (Function.update received l.m_socket any) := by
  obtain ⟨conn, command, id, fields, message, data, found, announced⟩ :=
    message_of_receipt receipt
  rcases step.carried waitsEmpty (carried.ignore found closing any) with
    same | ⟨_, _, _, _, l', _, message', _, found', up, _⟩
  · exact same
  · rw [message] at message'
    cases message'
    rw [found] at found'
    cases found'
    rw [closing] at up
    cases up

/-- A dispatch that receives data for a link that is up. -/
theorem Step.receives (step : e.Step event e') (waitsEmpty : e.WaitsEmpty)
    (carried : e.tunnel.Carried received) (receipt : e.receipt event = some (l, bytes))
    (up : l.m_closing = false) :
    e'.tunnel.Carried (Function.update received l.m_socket (received l.m_socket ++ bytes)) := by
  obtain ⟨conn, command, id, fields, message, data, found, announced⟩ :=
    message_of_receipt receipt
  rcases step.carried waitsEmpty carried with
    same | ⟨_, _, _, _, l', bytes', message', _, found', _, brings, ran⟩
  · -- nothing was pushed, so the message brought nothing
    have other : command ≠ LINK_CREATE := by
      rcases data with rfl | rfl <;> decide
    obtain ⟨c, t, t', before, queue, isConn, processed, after⟩ :=
      message_processed waitsEmpty message found other step.result
    have ids := waitsEmpty.keyed.ids _ _ l found
    have stores : t.Stores conn l := by
      unfold StdioTunnel.Stores
      rw [before.link?, ids]
      exact found
    obtain ⟨more, brings, os, stored⟩ := StdioTunnel.processLinkMessage_data
      (before.keyed waitsEmpty.keyed) isConn stores up data processed
    rw [queue] at brings
    obtain rfl := Option.some.inj ((dataBytes_of_brings brings).symm.trans announced)
    have later := same.bytes conn.val l.m_id _ ((after.link? _ _).trans stored) up
    have earlier := carried.bytes conn.val id l found up
    rw [after.os, os, before.os, SockBuffer.insert_pending, ← List.append_assoc,
      ← earlier] at later
    have none : more = [] := List.self_eq_append_right.mp later
    rw [none, List.append_nil, Function.update_eq_self]
    exact same
  · rw [message] at message'
    cases message'
    rw [found] at found'
    cases found'
    obtain rfl := Option.some.inj ((dataBytes_of_brings brings).symm.trans announced)
    exact ran

end Endpoint

/--
An endpoint with what it has received for each socket; how much was in the
link's buffer right after the last data message for it, and how much `write`
has taken from it since.
-/
structure Metered where
  endpoint : Endpoint
  received : Nat → List Byte
  buffered : Nat → Nat
  taken : Nat → Nat

namespace Metered

variable {m m' : Metered} {e : Endpoint} {event : Event} {events : List Event} {conn id : Short}
  {l : ConnectionLink} {fields : List Byte}

def start (e : Endpoint) : Metered := ⟨e, fun _ => [], fun _ => 0, fun _ => 0⟩

/-- The next endpoint: a data message starts the count of what `write` takes again. -/
def next (m : Metered) (event : Event) (e' : Endpoint) : Metered :=
  match m.endpoint.receipt event with
  | some (l, bytes) =>
      ⟨e', Function.update m.received l.m_socket (m.received l.m_socket ++ bytes),
        Function.update m.buffered l.m_socket (l.m_buffer.insert bytes).pending.length,
        Function.update m.taken l.m_socket 0⟩
  | none => ⟨e', m.received, m.buffered, fun s => m.taken s + event.taken s⟩

@[simp] theorem next_endpoint (m : Metered) (event : Event) (e : Endpoint) :
    (m.next event e).endpoint = e := by
  unfold next
  split <;> rfl

/-- A dispatch, measured. -/
structure Step (m : Metered) (event : Event) (m' : Metered) : Prop where
  step : m.endpoint.Step event m'.endpoint
  counts : m' = m.next event m'.endpoint

def sent (m : Metered) (s : Nat) : List Byte := m.endpoint.tunnel.os.sentTo s

/-- What was received and not written is what the last data message left, less what was taken. -/
def Counted (m : Metered) (received : Nat → List Byte) : Prop :=
  ∀ s, (received s).length + m.taken s = (m.sent s).length + m.buffered s

theorem Step.carried (step : m.Step event m') (waitsEmpty : m.endpoint.WaitsEmpty)
    (carried : m.endpoint.tunnel.Carried m.received) :
    m'.endpoint.tunnel.Carried m'.received := by
  obtain ⟨dispatched, counts⟩ := step
  rw [counts, next_endpoint]
  cases receipt : m.endpoint.receipt event with
  | none =>
      unfold next
      rw [receipt]
      exact dispatched.silent waitsEmpty carried receipt
  | some entry =>
      obtain ⟨l, bytes⟩ := entry
      unfold next
      rw [receipt]
      cases closing : l.m_closing with
      | true => exact dispatched.ignores waitsEmpty carried receipt closing _
      | false => exact dispatched.receives waitsEmpty carried receipt closing

/-- The counts stay right for what the links that are up have received. -/
theorem Step.counted (step : m.Step event m') (waitsEmpty : m.endpoint.WaitsEmpty)
    {received : Nat → List Byte} (carried : m.endpoint.tunnel.Carried received)
    (counted : m.Counted received) :
    ∃ received', m'.endpoint.tunnel.Carried received' ∧ m'.Counted received' := by
  obtain ⟨dispatched, counts⟩ := step
  have written : ∀ s, (m'.sent s).length = (m.sent s).length + event.taken s :=
    dispatched.taken waitsEmpty carried.buffers
  cases receipt : m.endpoint.receipt event with
  | none =>
      refine ⟨received, dispatched.silent waitsEmpty carried receipt, fun s => ?_⟩
      have before := counted s
      rw [written, counts]
      unfold next
      rw [receipt]
      dsimp only
      omega
  | some entry =>
      obtain ⟨l, bytes⟩ := entry
      have unwritten : ∀ s, (m'.sent s).length = (m.sent s).length := fun s => by
        rw [written, Endpoint.taken_of_receipt receipt, Nat.add_zero]
      have reset : ∀ s, m'.taken s = Function.update m.taken l.m_socket 0 s ∧
          m'.buffered s = Function.update m.buffered l.m_socket
            (l.m_buffer.insert bytes).pending.length s := fun s => by
        rw [counts]
        unfold next
        rw [receipt]
        exact ⟨rfl, rfl⟩
      -- the other sockets keep their counts, whatever this one has received
      have others : ∀ (more : List Byte),
          more.length = (m.sent l.m_socket).length + (l.m_buffer.insert bytes).pending.length →
          m'.Counted (Function.update received l.m_socket more) := by
        intro more size s
        rw [unwritten, (reset s).1, (reset s).2]
        by_cases mine : s = l.m_socket
        · subst mine
          rw [Function.update_self, Function.update_self, Function.update_self]
          exact size
        · rw [Function.update_of_ne mine, Function.update_of_ne mine, Function.update_of_ne mine]
          exact counted s
      cases closing : l.m_closing with
      | true =>
          let filler := List.replicate
            ((m.sent l.m_socket).length + (l.m_buffer.insert bytes).pending.length) (0 : Byte)
          exact ⟨_, dispatched.ignores waitsEmpty carried receipt closing filler,
            others filler List.length_replicate⟩
      | false =>
          refine ⟨_, dispatched.receives waitsEmpty carried receipt closing, others _ ?_⟩
          obtain ⟨_, _, _, _, _, _, found, _⟩ := Endpoint.message_of_receipt receipt
          have whole := carried.bytes _ _ l found closing
          rw [whole, SockBuffer.insert_pending, List.append_assoc, List.length_append]
          rfl

/-- Along every run what was received for a link is written or in its buffer. -/
theorem run_carried (started : e.Started) (run : Run Step (start e) events m) :
    m.endpoint.WaitsEmpty ∧ m.endpoint.tunnel.Carried m.received ∧
      ∃ received, m.endpoint.tunnel.Carried received ∧ m.Counted received := by
  obtain ⟨side, listens⟩ := started.listens
  have unwritten : ∀ s, (start e).sent s = [] := fun s => StdioTunnel.sentTo_listens listens s
  have none : e.tunnel.Carried fun _ => [] := started.keyed.2.carried fun s _ => ⟨rfl, unwritten s⟩
  refine @Run.invariant _ _ _ _ _ _
    (fun m => m.endpoint.WaitsEmpty ∧ m.endpoint.tunnel.Carried m.received ∧
      ∃ received, m.endpoint.tunnel.Carried received ∧ m.Counted received)
    ⟨started.waitsEmpty, none, _, none, fun s => ?_⟩ ?_ run
  · rw [unwritten]
    rfl
  · rintro m event m' ⟨waitsEmpty, carried, received, same, counted⟩ step
    exact ⟨waitsEmpty.step step.step.result, step.carried waitsEmpty carried,
      step.counted waitsEmpty same counted⟩

/-- A link that is up and told to close: its socket is closed, and nothing else is done to sockets. -/
theorem Step.closes (step : m.Step event m') (waitsEmpty : m.endpoint.WaitsEmpty)
    (message : m.endpoint.message event = some (conn, LINK_CLOSE, id, fields))
    (found : m.endpoint.tunnel.link? conn.val id = some l) (up : l.m_closing = false) :
    m'.endpoint.tunnel.os.trace = m.endpoint.tunnel.os.trace ++ [.closed l.m_socket] := by
  obtain ⟨c, t, t', before, _, isConn, processed, after⟩ :=
    Endpoint.message_processed waitsEmpty message found (by decide) step.step.result
  have stores : t.Stores conn l := by
    unfold StdioTunnel.Stores
    rw [before.link?, waitsEmpty.keyed.ids _ _ l found]
    exact found
  rw [after.os, ← before.os]
  exact StdioTunnel.processLinkMessage_close (before.keyed waitsEmpty.keyed) isConn stores up processed

/--
In every state a run reaches, a link that is up and told to close closes its
socket at once.  All that was received for it has then been written, and its
buffer is empty, exactly when `write` has taken, in the dispatches since the
last data message for the link, as many bytes as that message left in the
buffer.
-/
theorem close_truncates_iff (started : e.Started) (run : Run Step (start e) events m)
    (step : m.Step event m')
    (message : m.endpoint.message event = some (conn, LINK_CLOSE, id, fields))
    (found : m.endpoint.tunnel.link? conn.val id = some l) (up : l.m_closing = false) :
    m'.endpoint.tunnel.os.trace = m.endpoint.tunnel.os.trace ++ [.closed l.m_socket] ∧
      m.received l.m_socket = m.sent l.m_socket ++ l.m_buffer.pending ∧
      (m.received l.m_socket = m.sent l.m_socket ∧ l.m_buffer.unsentData = false ↔
        m.taken l.m_socket = m.buffered l.m_socket) := by
  obtain ⟨waitsEmpty, carried, received, same, counted⟩ := run_carried started run
  have whole := carried.bytes conn.val id l found up
  have valid := carried.buffers conn.val id l found
  refine ⟨step.closes waitsEmpty message found up, whole, ?_⟩
  -- what the counts say of the link's buffer
  have left : m.taken l.m_socket + l.m_buffer.pending.length = m.buffered l.m_socket := by
    have sizes := counted l.m_socket
    rw [same.bytes conn.val id l found up, List.length_append] at sizes
    unfold sent at sizes
    omega
  constructor
  · rintro ⟨_, empty⟩
    have none : l.m_buffer.pending = [] := by
      by_contra some'
      rw [valid.unsentData_iff.mpr some'] at empty
      cases empty
    rw [none] at left
    exact left
  · intro all
    have none : l.m_buffer.pending = [] := List.eq_nil_of_length_eq_zero (by omega)
    refine ⟨?_, ?_⟩
    · rw [whole, none, List.append_nil]
      rfl
    · refine eq_false_of_ne_true fun unsent => valid.unsentData_iff.mp unsent none

def after (m : Metered) (event : Event) : Metered := m.next event (m.endpoint.after event)

def plays : Metered → List Event → Bool
  | _, [] => true
  | m, event :: events => m.endpoint.takes event && (m.after event).plays events

theorem step_after (takes : m.endpoint.takes event = true) : m.Step event (m.after event) := by
  unfold after
  refine ⟨?_, ?_⟩
  · rw [next_endpoint]
    exact Endpoint.step_takes takes
  · rw [next_endpoint]

theorem run_plays (plays : m.plays events = true) : Run Step m events (events.foldl after m) := by
  induction events generalizing m with
  | nil => exact .nil
  | cons event events ih =>
      unfold Metered.plays at plays
      rw [Bool.and_eq_true] at plays
      exact .cons (step_after plays.1) (ih plays.2)

def feeding : List Event :=
  [arrives oneConnection, arrives firstClient, Endpoint.tellsFirst (.send [120])]

def fed : Metered := feeding.foldl after (start (.remoteEnd .waiting))

def flushing : List Event :=
  feeding ++ [Endpoint.tellsFirst (.send [121, 122]),
    Endpoint.firstReady POLLOUT { write := .ok 2 }, Endpoint.firstReady POLLOUT { write := .ok 1 }]

def flushed : Metered := flushing.foldl after (start (.remoteEnd .waiting))

def closes : Event := Endpoint.tellsFirst .close

theorem fed_facts :
    (start (.remoteEnd .waiting)).plays feeding = true ∧ fed.endpoint.takes closes = true ∧
      fed.endpoint.message closes = some (Short.ofInt 0, LINK_CLOSE, Short.ofInt 501, []) ∧
      (fed.endpoint.tunnel.link? 0 (Short.ofInt 501)).map
        (fun l => (l.m_socket, l.m_closing)) = some (0, false) ∧
      fed.received 0 = [120] ∧ fed.sent 0 = [] := by
  decide +kernel

theorem flushed_facts :
    (start (.remoteEnd .waiting)).plays flushing = true ∧ flushed.endpoint.takes closes = true ∧
      flushed.endpoint.message closes = some (Short.ofInt 0, LINK_CLOSE, Short.ofInt 501, []) ∧
      (flushed.endpoint.tunnel.link? 0 (Short.ofInt 501)).map
        (fun l => (l.m_socket, l.m_closing)) = some (0, false) ∧
      flushed.taken 0 = 3 ∧ flushed.buffered 0 = 3 := by
  decide +kernel

/-- After the socket has taken the three bytes nothing is lost. -/
theorem close_truncates_flushed :
    ∃ m' l, flushed.Step closes m' ∧ flushed.endpoint.tunnel.link? 0 (Short.ofInt 501) = some l ∧
      m'.endpoint.tunnel.os.trace = flushed.endpoint.tunnel.os.trace ++ [.closed l.m_socket] ∧
      flushed.received l.m_socket = flushed.sent l.m_socket ∧ l.m_buffer.unsentData = false := by
  obtain ⟨plays, takes, message, stored, taken, buffered⟩ := flushed_facts
  obtain ⟨l, found, same⟩ := Option.map_eq_some_iff.mp stored
  obtain ⟨socket, up⟩ := Prod.mk.inj same
  have run : Run Step (start (.remoteEnd .waiting)) flushing flushed := run_plays plays
  have step : flushed.Step closes (flushed.after closes) := step_after takes
  obtain ⟨closed, _, whole⟩ :=
    close_truncates_iff Endpoint.waiting_started run step message found up
  have counts : flushed.taken l.m_socket = flushed.buffered l.m_socket := by
    rw [socket, taken, buffered]
  exact ⟨_, l, step, found, closed, whole.mpr counts⟩

/-- A close that comes before the socket takes the byte loses it. -/
theorem not_close_truncates :
    ¬ ∀ (e : Endpoint) (m m' : Metered) (events : List Event) (event : Event) (conn id : Short)
      (fields : List Byte) (l : ConnectionLink), e.Started → Run Step (start e) events m →
        m.Step event m' → m.endpoint.message event = some (conn, LINK_CLOSE, id, fields) →
        m.endpoint.tunnel.link? conn.val id = some l → l.m_closing = false →
        m.received l.m_socket = m.sent l.m_socket ∧ l.m_buffer.unsentData = false := by
  intro always
  obtain ⟨plays, takes, message, stored, received, sent⟩ := fed_facts
  obtain ⟨l, found, same⟩ := Option.map_eq_some_iff.mp stored
  obtain ⟨socket, up⟩ := Prod.mk.inj same
  obtain ⟨all, _⟩ := always _ fed _ _ closes _ _ _ l Endpoint.waiting_started (run_plays plays)
    (step_after takes) message found up
  rw [socket, received, sent] at all
  cases all

end Metered

end Tun01
