import Tun01.Tunnel.Asking
import Tun01.Tunnel.Carrying
import Tun01.Tunnel.Leaks
import Tun01.Tunnel.Requests

/-!
# Tunnels at rest

When neither clients nor hosts send anything, the two endpoints only carry what
is under way.  They are never stuck before everything has arrived, and however
`poll` and the kernel go about it they are done after finitely many dispatches.
-/

namespace Tun01

/-! ## Pipes -/

theorem drop_length_ne {α : Type} {bytes got : List α} (some : bytes ≠ []) (positive : got ≠ []) :
    bytes.drop got.length ≠ bytes := by
  intro same
  have length := congrArg List.length same
  rw [List.length_drop] at length
  have full := List.length_pos_iff.mpr some
  have taken := List.length_pos_iff.mpr positive
  omega

namespace Pipeline

variable {p : Pipeline} {next part : List Byte} {more : List (List Byte)}

/-- Any read of a pipe that is not empty may return all that was asked for. -/
theorem Reads.all {pipe : List Byte} {request : Nat} (some : pipe ≠ []) (positive : 0 < request) :
    Reads pipe request (.ok (pipe.take request)) (pipe.take request) := by
  refine .data (List.take_append_drop request pipe).symm (fun none => ?_) (List.length_take_le _ _)
  rcases List.take_eq_nil_iff.mp none with zero | empty
  · exact absurd zero (Nat.ne_of_gt positive)
  · exact some empty

/-- When all packets are written, the oldest frame that was not read is in the pipe. -/
theorem Inv.readable (inv : Inv p (next :: more) part) (written : p.pending = []) :
    ∃ header body got, FillReads p.reader p.pipe header body got ∧
      p.pipe.drop got.length ≠ p.pipe := by
  have short := inv.short next more rfl
  have whole := inv.whole
  have some : p.pipe ≠ [] := by
    intro none
    have length := congrArg List.length whole
    rw [none, written] at length
    simp only [List.append_nil, List.length_append] at length
    omega
  by_cases missing : p.reader.m_read_count < 4
  · have head := @Reads.all p.pipe p.reader.headerRequest some (Nat.sub_pos_of_lt missing)
    have moves := drop_length_ne some head.spec.2.2.1
    by_cases still : (p.reader.received (p.pipe.take p.reader.headerRequest)).m_read_count < 4
    · exact ⟨_, .fail .EAGAIN, _, .header missing head still, moves⟩
    · refine ⟨_, _, _, .both missing head still .again, ?_⟩
      rw [List.append_nil]
      exact moves
  · have count := inv.holds.count
    have started : part <+: frame next := by
      have first := prefix_frame whole List.nil_prefix
        (by rw [List.append_nil]; exact Nat.le_of_lt short)
      rw [List.append_nil] at first
      exact first
    have small : next.length < 2 ^ 32 := by
      refine (inv.payloads next ?_).2
      rw [inv.sent]
      exact List.mem_append_right _ List.mem_cons_self
    have length := inv.holds.length_of_started (by omega) started small
    rw [frame_length] at short
    have positive : 0 < p.reader.bodyRequest := by
      unfold ReadStream.bodyRequest
      omega
    have body := @Reads.all p.pipe p.reader.bodyRequest some positive
    exact ⟨.fail .EAGAIN, _, _, .body missing (.data body), drop_length_ne some body.spec.2.2.1⟩

/-- The kernel may take the rest of the packet at the front. -/
theorem empty_all {ws : WriteStream} {poll_struct : Pollfd} {front : WritePacket}
    {rest : List WritePacket} (packets : PacketsOpen ws) (queue : ws.m_packet_queue = front :: rest)
    (ready : poll_struct.revents = POLLOUT) :
    ∃ stream after taken, ws.empty poll_struct (.ok front.request) = .ok (stream, after, taken) ∧
      taken ≠ [] := by
  obtain ⟨size, left⟩ := packets front (by rw [queue]; exact List.mem_cons_self)
  have request : front.request = front.m_size - front.m_written := rfl
  unfold WriteStream.empty
  rw [queue, ready]
  refine ⟨_, _, _, rfl, fun none => ?_⟩
  have length := congrArg List.length none
  rw [List.length_take, WritePacket.unwritten, List.length_drop] at length
  simp only [List.length_nil] at length
  omega

end Pipeline

namespace System

variable {s s' : System} {side : Side} {event : Event}

/-! ## Nothing is stuck -/

/-- What holds while bytes are carried. -/
structure Carrying (s : System) : Prop extends ServesWaiting s where
  polling : ∀ x, (s.ends x).Polling
  answerable : s.Answerable
  keeping : ∀ x, (s.ends x).Keeping

/-- Nothing is read from clients and hosts, and none is accepted. -/
theorem Carry.inert (carry : Carry s (side, event) s') : Step s (side, event) s' ∧
    (s.tunnel side).Asked event ∧ Clear (s.tunnel side) event ∧ (s.tunnel side).Free event := by
  cases carry with
  | pipe step asked moved =>
      have own : event.polled = .stdioTunnel := by
        obtain ⟨x, moved⟩ := moved
        cases step with
        | object other step => exact absurd (pipe_acted s side _ x) moved
        | read | write | console => rfl
      refine ⟨step, asked, ?_, ?_⟩
      · intro conn socket c n k listener
        rw [own] at listener
        cases listener
      · intro conn l link
        rw [own] at link
        cases link
  | socket step asked ready writes some =>
      refine ⟨step, asked, ?_, ?_⟩
      · intro conn socket c n k listener
        cases listener
      · intro conn l link found up input
        dsimp only at input
        rw [ready] at input
        cases input

theorem Carry.carrying (carry : Carry s (side, event) s') (carrying : s.Carrying) :
    s'.Carrying := by
  obtain ⟨step, ⟨record, member, fd, events, _⟩, clear, free⟩ := carry.inert
  have serving : ∀ x, (s'.tunnel x).Serving := by
    obtain ⟨e, dispatched, after⟩ := step.ends
    intro x
    unfold tunnel
    rw [after]
    rcases side_cases side x with rfl | rfl
    · rw [Function.update_self]
      exact Endpoint.Fair.serving ⟨dispatched, step.candid carrying.inv carrying.waiting⟩
        (carrying.waitsEmpty.ends x) (carrying.serving x)
    · rw [Function.update_of_ne side.other_ne]
      exact carrying.serving side.other
  exact ⟨⟨step.inv carrying.inv clear, step.waitsEmpty carrying.waitsEmpty, serving,
    step.waiting carrying.inv clear free carrying.waiting⟩,
    step.polling carrying.waitsEmpty ⟨record, member, fd, events⟩ carrying.polling,
    step.answerable carrying.waitsEmpty carrying.answerable,
    step.keeping carrying.inv clear carrying.keeping⟩

namespace Carrying

variable (carrying : s.Carrying)

include carrying

theorem armed (x : Side) : (s.tunnel x).Armed := by
  have framed := (carrying.inv.healthy x).framed
  refine (carrying.polling x).piped.armed fun l isLocal passing => ?_
  rw [isLocal] at framed
  cases framed with
  | localEnd state pipes read write => rcases state with no | no <;> (rw [passing] at no; cases no)

/-- A packet that waits can be written. -/
theorem flushes {front : WritePacket} {rest : List WritePacket}
    (queue : (s.writer side).m_packet_queue = front :: rest) : ∃ label s', Carry s label s' := by
  have own := carrying.inv.healthy side
  obtain ⟨_, _, framed⟩ := own.intact
  obtain ⟨record, one, asks⟩ := carrying.armed side
  have pending : (s.tunnel side).m_write_stream.pendingWrite = true := by
    change WriteStream.pendingWrite (s.writer side) = true
    unfold WriteStream.pendingWrite
    rw [queue]
    rfl
  have mine : record ∈ (s.tunnel side).own (s.tunnel side).m_write_stream.m_fd := by
    rw [one]
    exact List.mem_cons_self
  have member := (List.mem_filter.mp mine).1
  have fd : record.fd = (s.ends side).writeFd :=
    (StdioTunnel.own_fd mine).trans (carrying.polling side).piped.fd
  obtain ⟨told, same, events, ready⟩ : ∃ told : Pollfd, record.fd = told.fd ∧
      record.events = told.events ∧ told.revents = POLLOUT :=
    ⟨{ record with revents := POLLOUT }, rfl, rfl, rfl⟩
  obtain ⟨calls, writes⟩ : ∃ calls : Calls, calls.write = .ok front.request :=
    ⟨{ write := .ok front.request }, rfl⟩
  rw [same] at fd
  obtain ⟨stream, after, taken, empties, positive⟩ :=
    Pipeline.empty_all framed.packets queue ready
  rw [← writes] at empties
  obtain ⟨t, handled, _⟩ := Endpoint.dispatch_write own.framed fd ready empties
  have within : ∀ front' rest', (s.writer side).m_packet_queue = front' :: rest' →
      front.request ≤ front'.request := by
    intro front' rest' queue'
    rw [queue] at queue'
    rw [(List.cons.inj queue').1]
  refine ⟨_, _, .pipe (.write fd ready writes within empties
    ⟨⟨record, member, same⟩, trivial, handled⟩) ⟨record, member, same, events, ?_, ?_⟩ ⟨side, ?_⟩⟩
  · dsimp only
    rw [ready]
    exact fun no => by cases no
  · exact fun _ => asks pending
  · dsimp only
    rw [Function.update_self]
    exact fun same => positive (List.append_right_eq_self.mp same)

/-- A frame that was written can be read. -/
theorem fetches {next : List Byte} {more : List (List Byte)}
    (written : (s.writer side.other).m_packet_queue = [])
    (underWay : (s.wires side.other).underWay = next :: more)
    (bounded : next.length ≤ 50000000) : ∃ label s', Carry s label s' := by
  obtain ⟨rest, part, inv⟩ := (carrying.inv.healthy side.other).intact
  have isReader : (s.pipeline side.other).reader = s.reader side := by
    unfold pipeline
    rw [Side.other_other]
  obtain rfl : rest = next :: more := by
    have sent : (s.wires side.other).sent = (s.wires side.other).appended ++ rest := inv.sent
    unfold Wire.underWay at underWay
    rw [sent, List.drop_left] at underWay
    exact underWay
  have pending : (s.pipeline side.other).pending = [] := by
    unfold Pipeline.pending
    change ((s.writer side.other).m_packet_queue.map _).flatten = _
    rw [written]
    rfl
  obtain ⟨header, body, got, reads, moves⟩ := inv.readable pending
  obtain ⟨_, record, mine, asks⟩ := (carrying.polling side).toListening
  have member := (List.mem_filter.mp mine).1
  have fd : record.fd = (s.ends side).readFd := StdioTunnel.own_fd mine
  obtain ⟨told, same, events, ready⟩ : ∃ told : Pollfd, record.fd = told.fd ∧
      record.events = told.events ∧ told.revents = POLLIN :=
    ⟨{ record with revents := POLLIN }, rfl, rfl, rfl⟩
  obtain ⟨calls, isHeader, isBody, succeed⟩ : ∃ calls : Calls, calls.header = header ∧
      calls.body = body ∧ calls.Succeed :=
    ⟨{ header := header, body := body, getsockname := some 1080 }, rfl, rfl, fun _ => rfl,
      ⟨0, rfl⟩, rfl, 1080, rfl⟩
  rw [same] at fd
  rw [isReader, ← isHeader, ← isBody] at reads
  obtain ⟨next', more', oldest, _, _, fills⟩ :=
    inv.fill (show told.revents.POLLIN = true by rw [ready]; rfl) (isReader ▸ reads)
  rw [← (List.cons.inj oldest).1] at fills
  obtain ⟨stream, filled⟩ := fills.returns bounded
  rw [isReader] at filled
  have delivers : s.Delivers side told calls got stream := ⟨fd, ready, reads, filled⟩
  obtain ⟨e, handled⟩ := delivers.handled carrying.inv carrying.answerable succeed
  refine ⟨_, _, .pipe (.read fd ready reads filled ⟨⟨record, member, same⟩, trivial, handled⟩)
    ⟨record, member, same, events, ?_, ?_⟩ ⟨side.other, ?_⟩⟩
  · exact fun _ => asks
  · dsimp only
    rw [ready]
    exact fun no => by cases no
  · rw [pipe_acted]
    unfold System.filled
    dsimp only
    rw [Function.update_self]
    exact moves

/-- A link with unsent data can write some of it. -/
theorem drains {conn id : Short} {l : ConnectionLink}
    (found : (s.tunnel side).link? conn.val id = some l) (up : l.m_closing = false)
    (unsent : l.m_buffer.unsentData = true) (fits : ¬ l.m_buffer.Overfull) :
    ∃ label s', Carry s label s' := by
  have serving := carrying.serving side
  obtain ⟨refillable, positive⟩ := (serving.buffers conn.val id l found).asks unsent fits
  have served := serving.served conn.val id l found up
  generalize records : (s.tunnel side).registrations (.connectionLink conn.val id l.m_socket) =
    registered at served
  cases served with
  | waiting idle acked =>
      rw [unsent] at idle
      cases idle
  | @polled record fd output input quiet =>
      have member : record ∈
          (s.tunnel side).registrations (.connectionLink conn.val id l.m_socket) := by
        rw [records]
        exact List.mem_cons_self
      obtain ⟨told, same, events, ready⟩ : ∃ told : Pollfd, record.fd = told.fd ∧
          record.events = told.events ∧ told.revents = POLLOUT :=
        ⟨{ record with revents := POLLOUT }, rfl, rfl, rfl⟩
      obtain ⟨calls, reads, writes⟩ : ∃ calls : Calls, calls.read = .fail .EAGAIN ∧
          calls.write = .ok l.m_buffer.request :=
        ⟨{ write := .ok l.m_buffer.request }, rfl, rfl⟩
      obtain ⟨t, handled⟩ := StdioTunnel.polledObject_drains (carrying.inv.healthy side).sound
        found refillable ready writes
      have dispatched : (s.ends side).dispatch
          ⟨.connectionLink conn.val id l.m_socket, told, calls⟩ =
            .ok ((s.ends side).withTunnel t) := by
        rw [Endpoint.dispatch_object fun no => by cases no]
        exact congrArg (Except.map (s.ends side).withTunnel) handled
      refine ⟨_, _, .socket (.object (fun no => by cases no)
        ⟨⟨record, member, same⟩, ⟨?_, ?_⟩, dispatched⟩) ⟨record, member, same, events, ?_, ?_⟩
          ready writes positive⟩
      · intro bytes result
        rw [reads] at result
        cases result
      · intro l' found' count result
        obtain rfl := Option.some.inj (found.symm.trans found')
        rw [writes] at result
        exact Nat.le_of_eq (SysResult.ok.inj result).symm
      · dsimp only
        rw [ready]
        exact fun no => by cases no
      · intro _
        rw [output]
        exact unsent

end Carrying

/-! ## Rest -/

/--
The handshake is over and nothing is under way: each link is up at both ends,
which may send and hold nothing, or at neither; the sockets that are open are
those of these links, and one with an identifier of its own has had all that was
read at the other end.
-/
structure AtRest (s : System) : Prop where
  silent : ∀ x, (s.wires x).underWay = []
  connected : (s.ends .remoteSide).Connected
  agreed : ∀ conn id : Short, (∀ x, (s.tunnel x).link? conn.val id = none) ∨
    ∀ x, ∃ l, (s.tunnel x).link? conn.val id = some l ∧ l.m_closing = false ∧
      l.m_acknowledged = true ∧ l.m_buffer.unsentData = false
  freed : ∀ (conn id : Short) (x : Side) (fd : Nat),
    .opened fd conn.val id ∈ (s.tunnel x).os.trace → ¬ (s.tunnel x).os.Closed fd →
      ∃ l, (s.tunnel x).link? conn.val id = some l ∧ l.m_socket = fd ∧
        (s.tunnel x.other).link? conn.val id ≠ none
  arrived : ∀ (conn id : Short) (x : Side) (l : ConnectionLink), (s.link conn id).accepts ≤ 1 →
    (s.tunnel x).link? conn.val id = some l →
      (s.tunnel x.other).os.input conn.val id = (s.tunnel x).os.output conn.val id

/--
The next frame is the request or an error report, and too long to be read, or
the queue of a link is too long to be written.
-/
inductive Refused (s : System) : Prop where
  | request {connections : List (Short × ConnectionSpec)} {more : List (List Byte)}
      (underWay : (s.wires .localSide).underWay = (Message.handshake connections).payload :: more)
      (long : 50000000 < (Message.handshake connections).payload.length)
  | report {message : List Byte} {more : List (List Byte)}
      (underWay : (s.wires .remoteSide).underWay = (Message.error message).payload :: more)
      (long : 50000000 < (Message.error message).payload.length)
  | queue {x : Side} {conn id : Short} {l : ConnectionLink}
      (found : (s.tunnel x).link? conn.val id = some l) (overfull : l.m_buffer.Overfull)

/-- No other message is as long. -/
theorem Expected.refused {x : Side} {next : List Byte} {more : List (List Byte)}
    (expected : Expected x (s.wires x).underWay) (underWay : (s.wires x).underWay = next :: more)
    (long : 50000000 < next.length) : s.Refused := by
  obtain ⟨m, rfl, sendable⟩ := expected next (by rw [underWay]; exact List.mem_cons_self)
  cases m with
  | error message =>
      obtain ⟨rfl, _⟩ := sendable
      exact .report underWay long
  | agreed => exact absurd long (by decide)
  | handshake _ => exact sendable.elim
  | link conn id m =>
      have bound : LINK_BUFFER_SIZE = 4096 := rfl
      have fields : m.fields.length ≤ 4100 := by
        cases m with
        | create | created _ | ack | close => simp [LinkMessage.fields]
        | send bytes | sendForAck bytes =>
            have fits := of_decide_eq_true sendable
            simp only [LinkMessage.fields, List.length_append, WriteStream.shortBytes_length]
            omega
      simp only [Message.payload, LinkMessage.encode, List.length_append,
        WriteStream.shortBytes_length] at long
      omega

namespace Carrying

variable (carrying : s.Carrying)

include carrying

/-- When nothing is under way, a link is up at both ends and may send, or is at neither. -/
theorem agree (silent : ∀ x, (s.wires x).underWay = []) (conn id : Short) :
    (∀ x, (s.tunnel x).link? conn.val id = none) ∨ ∀ x, ∃ l,
      (s.tunnel x).link? conn.val id = some l ∧ l.m_closing = false ∧ l.m_acknowledged = true := by
  have none : ∀ x, (s.half x conn id).inFlight = [] := by
    intro x
    unfold half
    dsimp only
    rw [silent, List.filterMap_nil]
  refine (carrying.inv.settles none).imp_right fun up x => ?_
  obtain ⟨l, found, isUp⟩ := up x
  refine ⟨l, found, isUp, ?_⟩
  have acked : (s.window x conn id).acked = some l.m_acknowledged :=
    StdioTunnel.acked?_of_up found isUp
  have back : (s.window x conn id).back = [] := none x.other
  have idle : (s.window x conn id).outstanding = 0 := by
    unfold Window.outstanding
    rw [back, show (s.window x conn id).out = [] from none x]
    rfl
  by_contra waits
  rcases (carrying.waiting.fine x conn id _ acked).answered (eq_false_of_ne_true waits) with
    one | closing
  · rw [idle] at one
    cases one
  · rw [back] at closing
    cases closing

theorem rests (silent : ∀ x, (s.wires x).underWay = [])
    (drained : ∀ x (conn id : Short) l, (s.tunnel x).link? conn.val id = some l →
      l.m_buffer.unsentData = false) : s.AtRest := by
  have joined : s.Joined := by
    refine carrying.inv.stage.resolve_left fun greeting => ?_
    obtain ⟨_, _, request, _⟩ := greeting.request
    rw [silent] at request
    cases request
  refine ⟨silent, joined.connected, fun conn id => ?_, fun conn id x fd inTrace isOpen => ?_, ?_⟩
  · refine (carrying.agree silent conn id).imp_right fun up x => ?_
    obtain ⟨l, found, isUp, acked⟩ := up x
    exact ⟨l, found, isUp, acked, drained x conn id l found⟩
  · obtain ⟨l, found, socket, _⟩ := (carrying.keeping x).tight fd conn.val id inTrace isOpen
    refine ⟨l, found, socket, ?_⟩
    obtain ⟨l', found', _⟩ := ((carrying.agree silent conn id).resolve_left fun absent => by
      cases (absent x).symm.trans found) x.other
    rw [found']
    exact Option.some_ne_none l'
  · intro conn id x l once found
    obtain ⟨l', found', isUp, _⟩ := ((carrying.agree silent conn id).resolve_left fun absent => by
      rw [absent x] at found
      cases found) x
    obtain rfl := Option.some.inj (found.symm.trans found')
    have none : (s.half x.other conn id).inFlight = [] := by
      unfold half
      dsimp only
      rw [silent, List.filterMap_nil]
    have empty : l.m_buffer.pending = [] := by
      by_contra some
      have unsent := ((carrying.serving x).buffers conn.val id l found).unsentData_iff.mpr some
      rw [drained x conn id l found] at unsent
      cases unsent
    have flow := flow_of_orderly ((carrying.inv.links conn id).2 once) x.other
    rw [Side.other_other] at flow
    have kept := flow.kept (takes_of_link found isUp)
    rw [show (s.half x conn id).held = _ from StdioTunnel.held_of_link found, empty, none,
      LinkMessage.payloads_nil, List.append_nil, List.append_nil] at kept
    exact kept

/-- A frame that is too long is the request or an error report. -/
theorem refused {x : Side} {next : List Byte} {more : List (List Byte)}
    (underWay : (s.wires x).underWay = next :: more) (long : 50000000 < next.length) :
    s.Refused := by
  rcases carrying.inv.stage with greeting | joined
  · cases x with
    | localSide =>
        obtain ⟨connections, later, request, _⟩ := greeting.request
        rw [(List.cons.inj (underWay.symm.trans request)).1] at long
        exact .request request long
    | remoteSide =>
        unfold Wire.underWay at underWay
        rw [greeting.silent, List.drop_nil] at underWay
        cases underWay
  · exact (joined.expected x).refused underWay long

/-- Until the tunnels are at rest there is something to carry. -/
theorem progress : (s.AtRest ∨ s.Refused) ∨ ∃ label s', Carry s label s' := by
  by_cases written : ∀ x, (s.writer x).m_packet_queue = []
  · by_cases silent : ∀ x, (s.wires x).underWay = []
    · by_cases drained : ∀ x (conn id : Short) l, (s.tunnel x).link? conn.val id = some l →
          l.m_buffer.unsentData = false
      · exact Or.inl (Or.inl (carrying.rests silent drained))
      · simp only [not_forall] at drained
        obtain ⟨x, conn, id, l, found, unsent⟩ := drained
        obtain ⟨l', found', up, _⟩ := ((carrying.agree silent conn id).resolve_left fun absent => by
          rw [absent x] at found
          cases found) x
        obtain rfl := Option.some.inj (found.symm.trans found')
        by_cases fits : l.m_buffer.Overfull
        · exact Or.inl (Or.inr (.queue found fits))
        · exact Or.inr (carrying.drains found up (eq_true_of_ne_false unsent) fits)
    · obtain ⟨x, some⟩ := not_forall.mp silent
      obtain ⟨next, more, underWay⟩ := List.exists_cons_of_ne_nil some
      by_cases bounded : next.length ≤ 50000000
      · rw [← Side.other_other x] at underWay
        exact Or.inr (carrying.fetches (written _) underWay bounded)
      · exact Or.inl (Or.inr (carrying.refused underWay (Nat.lt_of_not_le bounded)))
  · obtain ⟨x, some⟩ := not_forall.mp written
    obtain ⟨front, rest, queue⟩ := List.exists_cons_of_ne_nil some
    exact Or.inr (carrying.flushes queue)

end Carrying

/--
From every state that both loops reach: while the pipes are polled, and links
for output only, and each dispatch carries some bytes on, the two endpoints come
to rest after finitely many dispatches, whichever they are, and are never stuck
before; unless a frame or a queue is too long.
-/
theorem comes_to_rest {ticks : List Tick} (opened : s.Opened) (fits : s.Fits) (apart : s.Apart)
    (ports : ∀ c ∈ (s.tunnel .localSide).connections, c.2.m_connect_port ≤ 65535)
    (run : Run LoopStep s ticks s') : Inevitable Carry (fun t => t.AtRest ∨ t.Refused) s' := by
  have looping := opened.looping_run fits run
  have carrying : s'.Carrying :=
    ⟨looping.toServesWaiting, opened.polling_run fits apart run, opened.answerable_run fits ports run,
      opened.keeping_run fits run⟩
  exact Inevitable.of_descent rank (fun {_ label _} held carry => carry.carrying held)
    (fun {_ label _} held carry => carry.lowers held.inv) (fun held => held.progress) carrying

theorem patients_apart : (patients.ends .localSide).readFd ≠ STDIN_FD ∧
    (patients.ends .localSide).writeFd ≠ STDIN_FD ∧
    (∀ c ∈ (patients.tunnel .localSide).connections, c.2.m_connect_port ≤ 65535) ∧
    (patients.beatAll? waitsForAck).any (fun result =>
      !(result.2.wires .localSide).underWay.isEmpty) = true := by
  decide +kernel

/-- The packet of a client is under way, and arrives. -/
theorem comes_to_rest_packet : ∃ s : System, (s.wires .localSide).underWay ≠ [] ∧
    ∃ labels t, Run Carry s labels t ∧ (t.AtRest ∨ t.Refused) := by
  obtain ⟨read, write, ports, beats⟩ := patients_apart
  obtain ⟨⟨ticks, s⟩, beaten, some⟩ := (Option.any_eq_true _ _).mp beats
  refine ⟨s, fun none => ?_, (comes_to_rest patients_opened patients_fits ⟨read, write⟩ ports
    (beatAll?_run beaten)).run⟩
  dsimp only at some
  rw [none] at some
  cases some

end System

end Tun01
