import Tun01.Tunnel.Asking
import Tun01.Tunnel.Table

/-!
# Links that are polled for what there is to do

While the clients with links are spaced, the record of a link asks for output
exactly as long as the link has some.  A link that takes the place of another
one gets the data meant for that before it has a record, and keeps it.
-/

namespace Tun01

/-! ## Spaced clients -/

namespace System

variable {s s' : System} {ticks : List Tick} {side : Side}

/--
In every state that both loops reach while the clients with links are spaced,
every registered link that is not closing is polled for output exactly while it
has some, and for input and for nothing only as its acknowledgement allows.
-/
theorem links_served (opened : s.Opened) (fits : s.Fits) (run : Run LoopStep s ticks s') :
    ∀ side conn id l, (s'.tunnel side).link? conn id = some l → l.m_closing = false →
      ∀ record ∈ (s'.tunnel side).registrations (.connectionLink conn id l.m_socket),
        Endpoint.AsksRightly l record := by
  intro side conn id l found up
  exact ((opened.looping_run fits run).serving side).asksRightly found up

theorem acknowledged_unsent : (patients.beatAll? acknowledged).any (fun result =>
    let t := result.2.tunnel .remoteSide
    (t.link? 0 (Short.ofInt 501)).any fun l => !l.m_closing && l.m_buffer.unsentData &&
      !(t.registrations (.connectionLink 0 (Short.ofInt 501) l.m_socket)).isEmpty) = true := by
  decide +kernel

/-- The bytes of the client wait for the host, and the link of the host is polled for output. -/
theorem links_served_packet : ∃ (s : System) (l : ConnectionLink) (record : Pollfd),
    (s.tunnel .remoteSide).link? 0 (Short.ofInt 501) = some l ∧ l.m_buffer.unsentData = true ∧
      record ∈ (s.tunnel .remoteSide).registrations
        (.connectionLink 0 (Short.ofInt 501) l.m_socket) ∧
      record.events.POLLOUT = true ∧ Endpoint.AsksRightly l record := by
  obtain ⟨⟨ticks, s⟩, beaten, known⟩ := (Option.any_eq_true _ _).mp acknowledged_unsent
  obtain ⟨l, found, polled⟩ := (Option.any_eq_true _ _).mp known
  rw [Bool.and_eq_true, Bool.and_eq_true, Bool.not_eq_true', Bool.not_eq_true'] at polled
  obtain ⟨⟨up, unsent⟩, some'⟩ := polled
  obtain ⟨record, member⟩ := List.exists_mem_of_ne_nil _ fun none =>
    Bool.false_ne_true (some'.symm.trans (List.isEmpty_iff.mpr none))
  have served := links_served patients_opened patients_fits (beatAll?_run beaten) .remoteSide 0
    (Short.ofInt 501) l found up record member
  exact ⟨s, l, record, found, unsent, member, served.1.mpr unsent, served⟩

end System

/-! ## A frame that arrives in one piece -/

namespace ReadStream

/-- A frame that is read at once is queued. -/
theorem fill_whole {rs : ReadStream} {payload : List Byte} {poll_struct : Pollfd}
    (holds : rs.Holds []) (ready : poll_struct.revents.POLLIN = true)
    (bounded : payload.length ≤ 50000000) :
    ∃ rs', rs.fill poll_struct (.ok (frameHeader payload.length)) (.ok payload) = .ok rs' ∧
      rs'.Holds [] ∧ rs'.m_queue = rs.m_queue ++ payload := by
  have empty : rs.m_read_count = 0 := holds.count
  have header : (rs.received (frameHeader payload.length)).Holds (frameHeader payload.length) :=
    @ReadStream.Holds.received _ [] (frameHeader payload.length) holds
      (by rw [frameHeader_length]; exact holds.roomy)
  obtain ⟨rs', returned, filled⟩ := @fillBody_filled _ _ payload payload (.ok payload) header
    (Nat.le_refl 4) bounded (List.prefix_refl _) (Or.inl rfl)
  refine ⟨rs', ?_, ?_⟩
  · unfold fill
    rw [if_pos ready, if_pos (by omega)]
    have read : rs.readHeader (.ok (frameHeader payload.length)) =
        .ok (rs.received (frameHeader payload.length)) := rfl
    rw [read, ok_bind, if_neg (by rw [header.count, frameHeader_length]; omega)]
    exact returned
  · cases filled with
    | unfinished _ _ short => exact absurd short (Nat.lt_irrefl _)
    | finished _ holds' queue _ => exact ⟨holds', queue⟩

end ReadStream

namespace StdioTunnel

variable {t : StdioTunnel} {conn id : Short} {c : TunnelConnection} {l : ConnectionLink}
  {socket : Nat} {n : Int} {connect : ConnectResult}

section Listening

variable (known : t.connection? conn.val = some c) (isConn : c.m_id = conn.val)
  (role : c.role = .listenSide socket n) (found : t.link? conn.val id = some l)

include known isConn role found

/-- A message for a link of a listener that is there. -/
theorem dispatchMessage_listens (m : LinkMessage) :
    (t.reading (linkFields id m)).dispatchMessage conn.val connect =
      if m.command = LINK_CREATE then do
        let (result_code, t) ← (t.reading m.fields).readShort
        if result_code = LINK_SUCCESS then
          return t.addPolled (linkPointer c l) l.m_socket POLLIN
        else
          return (t.log (.closed l.m_socket)).eraseLink c.m_id id
      else
        (t.reading m.fields).processLinkMessage c m.command l := by
  have known' : (t.reading (linkFields id m)).connection? conn.val = some c := known
  have stored : (t.reading m.fields).link? c.m_id id = some l := by
    rw [isConn]
    exact found
  unfold dispatchMessage processMessage
  rw [known']
  dsimp only
  rw [role]
  dsimp only
  unfold listenProcessMessage linkFields
  rw [readShort_reading, ok_bind]
  dsimp only
  rw [readShort_reading, ok_bind]
  dsimp only
  rw [stored]

/-- Data for a link of a listener. -/
theorem arrives_send (up : l.m_closing = false) {bytes : List Byte}
    (small : bytes.length ≤ LINK_BUFFER_SIZE) :
    (t.reading (linkFields id (.send bytes))).dispatchMessage conn.val connect =
      .ok ((Operation.push conn l bytes).apply (t.reading [])) := by
  have received := @receiveData_read t c l bytes small
  rw [if_neg (by rw [up]; exact Bool.false_ne_true)] at received
  unfold linkPointer at received
  rw [isConn] at received
  rw [dispatchMessage_listens known isConn role found]
  change ((t.reading (WriteStream.shortBytes (Short.ofInt bytes.length) ++ bytes)).receiveData c l
    >>= fun result => Except.ok result.1) = _
  rw [received, ok_bind]
  rfl

/-- The reply to a request of a listener. -/
theorem arrives_created :
    (t.reading (linkFields id (.created true))).dispatchMessage conn.val connect =
      .ok ((Operation.establish conn l).apply (t.reading [])) := by
  rw [dispatchMessage_listens known isConn role found]
  change ((t.reading (WriteStream.shortBytes LINK_SUCCESS)).readShort >>= _) = _
  rw [readShort_reading_last, linkPointer, isConn]
  rfl

end Listening

end StdioTunnel

namespace Endpoint

open StdioTunnel (linkFields opens_openSocket)

theorem payload_link (conn id : Short) (m : LinkMessage) :
    (Message.link conn id m).payload.length = 8 + m.fields.length := by
  change (m.encode conn id).length = _
  unfold LinkMessage.encode
  simp only [List.length_append, WriteStream.shortBytes_length]
  omega

/-- The frame of a link message goes to its connection. -/
theorem dispatch_arrives {r : StdioTunnelRemote} (state : r.m_state = .CONNECTED)
    (holds : r.m_read_stream.Holds []) (empty : r.m_read_stream.m_queue = []) {conn id : Short}
    {m : LinkMessage} (bounded : (Message.link conn id m).payload.length ≤ 50000000) :
    ∃ stream : ReadStream, stream.Holds [] ∧
      (remoteEnd r).dispatch (arrives (.link conn id m)) =
        (((r.toStdioTunnel.withReader stream).reading (linkFields id m)).dispatchMessage conn.val
          (arrives (.link conn id m)).calls.connect).map (remoteEnd r).withTunnel := by
  let event := arrives (.link conn id m)
  obtain ⟨stream, fills, holds', queue⟩ := @ReadStream.fill_whole _ _ event.poll_struct holds rfl
    bounded
  rw [empty, List.nil_append] at queue
  refine ⟨stream, holds', ?_⟩
  have more : stream.available = true := by
    unfold ReadStream.available
    rw [queue]
    rfl
  have carries : (remoteEnd r).carriesLinks = true := decide_eq_true state
  have processed := @processFrame_message (remoteEnd r) (r.toStdioTunnel.withReader stream) conn
    (linkFields id m) event.calls carries queue
  change (r.polled event.poll_struct event.calls).map remoteEnd = _
  rw [← processed, StdioTunnelRemote.polled_read rfl rfl fills, if_pos more]
  rfl

/-- The message that arrives is the one of the frame. -/
theorem message_arrives {r : StdioTunnelRemote} (state : r.m_state = .CONNECTED)
    (holds : r.m_read_stream.Holds []) (empty : r.m_read_stream.m_queue = []) {conn id : Short}
    {m : LinkMessage} (bounded : (Message.link conn id m).payload.length ≤ 50000000) :
    (remoteEnd r).message (arrives (.link conn id m)) = some (conn, m.command, id, m.fields) := by
  let event := arrives (.link conn id m)
  obtain ⟨stream, fills, _, queue⟩ := @ReadStream.fill_whole _ _ event.poll_struct holds rfl bounded
  rw [empty, List.nil_append] at queue
  have more : stream.available = true := by
    unfold ReadStream.available
    rw [queue]
    rfl
  have frame : (remoteEnd r).frame event = some (Message.link conn id m).payload := by
    unfold Endpoint.frame
    rw [if_pos ⟨rfl, rfl, decide_eq_true state⟩, show (remoteEnd r).tunnel.m_read_stream.fill event.poll_struct event.calls.header
      event.calls.body = .ok stream from fills]
    dsimp only
    rw [if_pos more, queue]
  unfold Endpoint.message
  rw [frame, Option.bind_some, linkMessage_payload]

/-! ## A listener and its peer -/

/-- The listener of connection 0 waits for clients and for frames. -/
structure Attends (e : Endpoint) (n : Int) : Prop where
  waitsEmpty : e.WaitsEmpty
  listening : e.Listening
  hears : ∃ r, e = .remoteEnd r ∧ r.m_state = .CONNECTED ∧ r.m_read_stream.Holds [] ∧
    r.m_read_stream.m_queue = []
  record : (0 : Int) ∈ (e.tunnel.registrations (.listenSide 0 0)).map Pollfd.fd
  role : ∃ spec i, e.tunnel.bare? 0 = some (spec, i, .listenSide 0 n)
  sockets : ∀ x i l, e.tunnel.link? x i = some l → l.m_socket < e.tunnel.os.next_socket
  handedOut : ∀ x i s, e.tunnel.os.next_socket ≤ s →
    e.tunnel.registrations (.connectionLink x i s) = []

variable {e : Endpoint} {n : Int}

theorem Attends.apart (attends : e.Attends n) : e.Apart := by
  rintro l rfl
  obtain ⟨r, no, _⟩ := attends.hears
  cases no

/-- One more client. -/
theorem Attends.client (attends : e.Attends n) :
    ∃ e', e.Step client e' ∧ e'.Attends (int32 (n + 1)) ∧
      e'.tunnel.link? 0 (Short.ofInt n) =
        some (.create (Short.ofInt n) e.tunnel.os.next_socket) ∧
      e'.tunnel.registrations (.connectionLink 0 (Short.ofInt n) e.tunnel.os.next_socket) = [] ∧
      e'.tunnel.os.opens 0 = e.tunnel.os.opens 0 ++ [(e.tunnel.os.next_socket, Short.ofInt n)] := by
  obtain ⟨spec, i, role⟩ := attends.role
  obtain ⟨e', result⟩ := client_returns attends.waitsEmpty role
  obtain ⟨record, member, fd⟩ := List.mem_map.mp attends.record
  obtain ⟨spec', i', n', same, next, records, links⟩ := accepts attends.waitsEmpty (x := 0) rfl result
  rw [role] at same
  cases same
  have listening := attends.listening.step attends.waitsEmpty.keyed attends.apart result
  obtain ⟨conn, c, n₁, m, isConn, valid, rfl⟩ := accepts_eq attends.waitsEmpty rfl result
  have same : n₁ = n := by
    have bare : e.tunnel.bare? conn.val = some (c.m_spec, c.m_id, .listenSide 0 n₁) := by
      unfold StdioTunnel.bare?
      rw [valid.1, ← valid.2.2]
      rfl
    rw [← isConn, role] at bare
    cases bare
    rfl
  subst same
  obtain ⟨r, rfl, state, holds, empty⟩ := attends.hears
  have opens := opens_openSocket r.toStdioTunnel conn.val (Short.ofInt n₁) 0
  rw [if_pos isConn.symm] at opens
  refine ⟨_, ⟨⟨record, member, fd⟩, trivial, result⟩, ⟨attends.waitsEmpty.step result, listening,
    ⟨_, rfl, state, holds, empty⟩, ?_, ⟨spec, i, next⟩, ?_, ?_⟩, ?_, ?_, opens⟩
  · rw [records (.listenSide 0 0) nofun]
    exact attends.record
  · intro x i l found
    rw [links] at found
    change l.m_socket < r.os.next_socket + 1
    split at found
    · obtain rfl := Option.some.inj found
      exact Nat.lt_succ_self _
    · exact Nat.lt_succ_of_lt (attends.sockets x i l found)
  · intro x i s above
    rw [records (.connectionLink x i s) nofun]
    exact attends.handedOut x i s (Nat.le_of_succ_le above)
  · rw [links, if_pos ⟨rfl, rfl⟩]
  · rw [records (.connectionLink _ _ _) nofun]
    exact attends.handedOut _ _ _ (Nat.le_refl _)

/-- A message for the connection of the listener is handled. -/
theorem Attends.told {id : Short} {m : LinkMessage} {op : Operation} (attends : e.Attends n)
    (bounded : (Message.link (Short.ofInt 0) id m).payload.length ≤ 50000000)
    (valid : ∀ stream, op.Valid ((e.tunnel.withReader stream).reading []))
    (client : ∀ conn c s n, op ≠ .accept conn c s n)
    (handled : ∀ stream, ((e.tunnel.withReader stream).reading
        (linkFields id m)).dispatchMessage (Short.ofInt 0).val
          (arrives (.link (Short.ofInt 0) id m)).calls.connect =
      .ok (op.apply ((e.tunnel.withReader stream).reading []))) :
    ∃ stream e', e.Step (arrives (.link (Short.ofInt 0) id m)) e' ∧ e'.Attends n ∧
      e.message (arrives (.link (Short.ofInt 0) id m)) =
        some (Short.ofInt 0, m.command, id, m.fields) ∧
      e'.tunnel = op.apply ((e.tunnel.withReader stream).reading []) := by
  obtain ⟨record, member, _⟩ := attends.listening.record
  have keyed := attends.waitsEmpty.keyed
  have listens := fun {e'} => @Listening.step _ e' (arrives (.link (Short.ofInt 0) id m))
    attends.listening keyed attends.apart
  obtain ⟨r, rfl, state, holds, empty⟩ := attends.hears
  obtain ⟨stream, holds', result⟩ := dispatch_arrives state holds empty bounded
  have answered : ((r.toStdioTunnel.withReader stream).reading (linkFields id m)).dispatchMessage
      (Short.ofInt 0).val (arrives (.link (Short.ofInt 0) id m)).calls.connect =
        .ok (op.apply ((r.toStdioTunnel.withReader stream).reading [])) := handled stream
  rw [answered] at result
  have mine := List.mem_filter.mp member
  let t := op.apply ((r.toStdioTunnel.withReader stream).reading [])
  have reader : t.m_read_stream = stream.withQueue [] := (Operation.kept (valid stream)).reader
  refine ⟨stream, _, ⟨⟨record, mine.1, of_decide_eq_true mine.2⟩, trivial, result⟩,
    ⟨attends.waitsEmpty.step result, listens result, ⟨_, rfl, state, ?_, ?_⟩, ?_, ?_, ?_, ?_⟩,
    message_arrives state holds empty bounded, rfl⟩
  · change t.m_read_stream.Holds []
    rw [reader]
    exact { holds' with }
  · change t.m_read_stream.m_queue = []
    rw [reader]
    rfl
  · rw [show Endpoint.tunnel _ = _ from tunnel_withTunnel _ _, Operation.registrations_listener]
    exact attends.record
  · rw [show Endpoint.tunnel _ = _ from tunnel_withTunnel _ _, Operation.bare_apply client]
    exact attends.role
  · exact fun _ _ _ => Operation.socket_stored (valid stream) attends.sockets
  · exact Operation.records_handedOut (valid stream) attends.sockets attends.handedOut

theorem Attends.listener (attends : e.Attends n) : ∃ c, e.tunnel.connection? 0 = some c ∧
    c.m_id = 0 ∧ c.role = .listenSide 0 n := by
  obtain ⟨spec, i, role⟩ := attends.role
  unfold StdioTunnel.bare? at role
  obtain ⟨c, known, same⟩ := Option.map_eq_some_iff.mp role
  exact ⟨c, known, (attends.waitsEmpty.keyed.keys 0 c known).1, congrArg (fun b => b.2.2) same⟩

/-- The link of a client is registered. -/
theorem Attends.created {id : Short} {l : ConnectionLink} (attends : e.Attends n)
    (found : e.tunnel.link? 0 id = some l) :
    ∃ e', e.Step (arrives (.link (Short.ofInt 0) id (.created true))) e' ∧ e'.Attends n ∧
      e.message (arrives (.link (Short.ofInt 0) id (.created true))) =
        some (Short.ofInt 0, LINK_CREATE, id, (LinkMessage.created true).fields) ∧
      e'.tunnel.os = e.tunnel.os ∧ e'.tunnel.link? 0 id = some l ∧
      e'.tunnel.registrations (.connectionLink 0 id l.m_socket) =
        e.tunnel.registrations (.connectionLink 0 id l.m_socket) ++
          [⟨l.m_socket, POLLIN, .zero⟩] := by
  obtain ⟨c, known, isConn, role⟩ := attends.listener
  obtain rfl := attends.waitsEmpty.keyed.ids 0 id l found
  have listens : e.tunnel.listens 0 = true := by
    unfold StdioTunnel.listens StdioTunnel.kind? StdioTunnel.bare?
    rw [known]
    change c.role.listens = true
    rw [role]
    rfl
  let op := Operation.establish (Short.ofInt 0) l
  have apart : ∀ conn c s n, op ≠ .accept conn c s n := fun _ _ _ _ => Operation.noConfusion
  obtain ⟨stream, e', step, attends', message, same⟩ := @Attends.told _ _ l.m_id (.created true) op
    attends (by rw [payload_link]; decide) (fun _ => ⟨found, listens⟩) apart
    fun stream => @StdioTunnel.arrives_created (e.tunnel.withReader stream) (Short.ofInt 0) l.m_id c
      l 0 n _ known isConn role found
  refine ⟨e', step, attends', message, ?_, ?_, ?_⟩
  · rw [same]
    rfl
  · rw [same]
    exact found
  · rw [same, Operation.registrations_apply op (y := .connectionLink 0 l.m_id l.m_socket) nofun]
    exact if_pos rfl

/-- Data for a link without a record. -/
theorem Attends.sent {id : Short} {l : ConnectionLink} {bytes : List Byte} (attends : e.Attends n)
    (found : e.tunnel.link? 0 id = some l) (up : l.m_closing = false)
    (none : e.tunnel.registrations (.connectionLink 0 id l.m_socket) = [])
    (small : bytes.length ≤ LINK_BUFFER_SIZE) :
    ∃ e', e.Step (arrives (.link (Short.ofInt 0) id (.send bytes))) e' ∧ e'.Attends n ∧
      e.message (arrives (.link (Short.ofInt 0) id (.send bytes))) =
        some (Short.ofInt 0, LINK_SEND, id, (LinkMessage.send bytes).fields) ∧
      e'.tunnel.os = e.tunnel.os ∧
      e'.tunnel.link? 0 id = some { l with m_buffer := l.m_buffer.insert bytes } ∧
      e'.tunnel.registrations (.connectionLink 0 id l.m_socket) = [] := by
  obtain ⟨c, known, isConn, role⟩ := attends.listener
  obtain rfl := attends.waitsEmpty.keyed.ids 0 id l found
  let op := Operation.push (Short.ofInt 0) l bytes
  have valid : ∀ stream, op.Valid ((e.tunnel.withReader stream).reading []) := fun _ => ⟨found, up⟩
  have apart : ∀ conn c s n, op ≠ .accept conn c s n := fun _ _ _ _ => Operation.noConfusion
  have bounded : (Message.link (Short.ofInt 0) l.m_id (.send bytes)).payload.length ≤ 50000000 := by
    rw [payload_link]
    change 8 + (WriteStream.shortBytes _ ++ bytes).length ≤ _
    rw [List.length_append, WriteStream.shortBytes_length]
    unfold LINK_BUFFER_SIZE at small
    omega
  obtain ⟨stream, e', step, attends', message, same⟩ := @Attends.told _ _ l.m_id (.send bytes) op
    attends bounded valid apart
    fun stream => @StdioTunnel.arrives_send (e.tunnel.withReader stream) (Short.ofInt 0) l.m_id c l 0
      n _ known isConn role found up bytes small
  refine ⟨e', step, attends', message, ?_, ?_, ?_⟩
  · rw [same]
    rfl
  · rw [same, Operation.link?_apply (valid stream)]
    exact if_pos ⟨rfl, rfl⟩
  · rw [same, Operation.registrations_apply op (y := .connectionLink 0 l.m_id l.m_socket) nofun]
    exact (if_pos rfl).trans (StdioTunnel.setFirst_eq_nil.mpr none)

theorem dispatch_remote {r : StdioTunnelRemote} {event : Event} {e' : Endpoint}
    (result : (remoteEnd r).dispatch event = .ok e') : ∃ r', e' = remoteEnd r' := by
  obtain ⟨r', _, rfl⟩ := of_map_ok result
  exact ⟨r', rfl⟩

theorem listening_heard :
    (remoteEnd .waiting).message (arrives remoteListens) = none ∧
      (remoteEnd .waiting).completed (arrives remoteListens) = some remoteListens.payload ∧
      listening.tunnel.m_read_stream.m_read_count = 0 ∧
      listening.tunnel.m_read_stream.m_read_buf.length = listening.tunnel.m_read_stream.m_read_size ∧
      4 ≤ listening.tunnel.m_read_stream.m_read_size ∧
      listening.tunnel.m_read_stream.m_queue = [] ∧ listening.carriesLinks = true := by
  decide +kernel

theorem listening_fair : (remoteEnd .waiting).Fair (arrives remoteListens) listening := by
  obtain ⟨none, completed, _⟩ := listening_heard
  refine ⟨listening_step, ⟨?_, ?_, ?_⟩, ?_⟩
  · intro conn id fields no
    cases none.symm.trans no
  · intro conn id fields no
    cases none.symm.trans no
  · intro r payload _ _ arrived
    exact ⟨_, (Option.some.inj (completed.symm.trans arrived)).symm, by decide, by decide, by decide⟩
  · intro conn command id fields no
    cases none.symm.trans no

/-- After the handshake the listener attends. -/
theorem listening_attends : listening.Attends 501 := by
  obtain ⟨_, _, record, role, _⟩ := listening_facts
  obtain ⟨_, _, count, size, roomy, empty, carries⟩ := listening_heard
  have started := waiting_started
  have waitsEmpty := started.waitsEmpty.step listening_step.result
  have serving := listening_fair.serving started.waitsEmpty started.keyed.2.serving
  have apart : (remoteEnd .waiting).Apart := fun l no => by cases no
  refine ⟨waitsEmpty, (started.polling apart fun l no => by cases no).toListening.step started.keyed.1 apart
    listening_step.result, ?_, record, ⟨_, _, role⟩, serving.sockets, serving.handedOut⟩
  obtain ⟨r, same⟩ := dispatch_remote listening_step.result
  rw [same] at count size roomy empty carries
  refine ⟨r, same, of_decide_eq_true carries, ⟨count, ?_, size, roomy⟩, empty⟩
  rw [show r.m_read_stream.m_read_count = 0 from count]
  rfl

end Endpoint

open Endpoint (client)

/-- An endpoint, and how many requests of each connection its peer has answered. -/
structure Correspondence where
  endpoint : Endpoint
  answers : Int → Nat

namespace Correspondence

variable {k k' : Correspondence} {n : Int}

/-- A request was for the link of the identifier. -/
def Asks (k : Correspondence) (conn : Short) (request : Nat) (id : Short) : Prop :=
  ∃ socket, (k.endpoint.tunnel.os.opens conn.val)[request]? = some (socket, id)

/--
A dispatch while the peer keeps the protocol: it grants the requests of a
listener in their order, and sends data for links that it has granted.
-/
inductive Step (k : Correspondence) (event : Event) : Correspondence → Prop where
  | quiet {e : Endpoint} (step : k.endpoint.Step event e)
      (none : k.endpoint.message event = none)
      (opening : ∀ r payload, k.endpoint = .remoteEnd r → r.m_state = .HANDSHAKING →
        k.endpoint.completed event = some payload →
          ∃ connections, Endpoint.Introduces payload connections) : Step k event ⟨e, k.answers⟩
  | grants {e : Endpoint} {conn id : Short} (step : k.endpoint.Step event e)
      (reply : k.endpoint.message event =
        some (conn, LINK_CREATE, id, (LinkMessage.created true).fields))
      (oldest : k.Asks conn (k.answers conn.val) id) :
      Step k event ⟨e, Function.update k.answers conn.val (k.answers conn.val + 1)⟩
  | sends {e : Endpoint} {conn id : Short} {bytes : List Byte} (step : k.endpoint.Step event e)
      (data : k.endpoint.message event =
        some (conn, LINK_SEND, id, (LinkMessage.send bytes).fields))
      (some' : bytes ≠ []) (small : bytes.length ≤ LINK_BUFFER_SIZE)
      (granted : ∃ request < k.answers conn.val, k.Asks conn request id) :
      Step k event ⟨e, k.answers⟩

theorem Asks.append {conn id : Short} {request : Nat} {e : Endpoint} {more : List (Nat × Short)}
    {answers : Int → Nat} (asks : k.Asks conn request id)
    (opens : e.tunnel.os.opens conn.val = k.endpoint.tunnel.os.opens conn.val ++ more) :
    Asks ⟨e, answers⟩ conn request id := by
  obtain ⟨socket, here⟩ := asks
  refine ⟨socket, ?_⟩
  change (e.tunnel.os.opens conn.val)[request]? = _
  rw [opens, List.getElem?_append_left (List.getElem?_eq_some_iff.mp here).1]
  exact here

/-- No request waits for its answer. -/
structure Even (k : Correspondence) (n : Int) : Prop extends k.endpoint.Attends n where
  answered : (k.endpoint.tunnel.os.opens (Short.ofInt 0).val).length =
    k.answers (Short.ofInt 0).val

/-- One more client. -/
theorem Even.client (even : k.Even n) :
    ∃ (e : Endpoint) (socket : Nat), Step k client ⟨e, k.answers⟩ ∧ e.Attends (int32 (n + 1)) ∧
      e.tunnel.link? 0 (Short.ofInt n) = some (.create (Short.ofInt n) socket) ∧
      e.tunnel.registrations (.connectionLink 0 (Short.ofInt n) socket) = [] ∧
      e.tunnel.os.opens 0 = k.endpoint.tunnel.os.opens 0 ++ [(socket, Short.ofInt n)] ∧
      Asks ⟨e, k.answers⟩ (Short.ofInt 0) (k.answers (Short.ofInt 0).val) (Short.ofInt n) := by
  obtain ⟨e, step, attends, found, none, opens⟩ := even.toAttends.client
  refine ⟨e, _, .quiet step ?_ ?_, attends, found, none, opens,
    k.endpoint.tunnel.os.next_socket, ?_⟩
  · unfold Endpoint.message Endpoint.frame
    rw [if_neg fun self => by cases self.1]
    rfl
  · intro r payload _ _ no
    unfold Endpoint.completed at no
    rw [if_neg fun self => by cases self.1] at no
    cases no
  · change (e.tunnel.os.opens 0)[k.answers (Short.ofInt 0).val]? = _
    rw [opens, ← even.answered]
    exact List.getElem?_concat_length

/-- One more client, whose request is granted. -/
theorem Even.exchange (even : k.Even n) :
    ∃ events k', Run Step k events k' ∧ k'.Even (int32 (n + 1)) ∧
      ∃ socket, k'.endpoint.tunnel.os.opens 0 =
        k.endpoint.tunnel.os.opens 0 ++ [(socket, Short.ofInt n)] := by
  obtain ⟨e, socket, client, attends, found, _, opens, asks⟩ := even.client
  obtain ⟨e', step, attends', message, os, _⟩ := attends.created found
  have granted := @Step.grants ⟨e, k.answers⟩ _ e' _ _ step message asks
  refine ⟨_, _, .cons client (.single granted), ⟨attends', ?_⟩, socket, ?_⟩
  · dsimp only
    rw [Function.update_self, ← even.answered, os]
    exact (congrArg List.length opens).trans List.length_append
  · change e'.tunnel.os.opens 0 = _
    rw [os, opens]

/-- A listener without clients, and its first one. -/
theorem first {e : Endpoint} (attends : e.Attends 501) (opened : e.tunnel.os.opened = []) :
    ∃ events k', Run Step ⟨e, fun _ => 0⟩ events k' ∧ k'.Even 502 ∧
      k'.Asks (Short.ofInt 0) 0 (Short.ofInt 501) := by
  have unopened : ∀ x, e.tunnel.os.opens x = [] := by
    intro x
    unfold Kernel.opens
    rw [opened]
    rfl
  have even : Even ⟨e, fun _ => 0⟩ 501 := ⟨attends, congrArg List.length (unopened _)⟩
  obtain ⟨events, k', run, even', socket, opens⟩ := even.exchange
  rw [unopened] at opens
  refine ⟨events, k', run, even', socket, ?_⟩
  change (k'.endpoint.tunnel.os.opens 0)[0]? = _
  rw [opens]
  rfl

/-- Many clients, whose requests are granted. -/
theorem Even.exchanges (even : k.Even 502) {count : Nat} (few : count ≤ 65535) :
    ∃ events k', Run Step k events k' ∧ k'.Even (502 + count) ∧
      ∃ more, k'.endpoint.tunnel.os.opens 0 = k.endpoint.tunnel.os.opens 0 ++ more := by
  induction count with
  | zero => exact ⟨[], k, .nil, even, [], (List.append_nil _).symm⟩
  | succ count ih =>
      obtain ⟨events, k₁, run, even₁, more, opens⟩ := ih (Nat.le_of_succ_le few)
      obtain ⟨later, k₂, again, even₂, socket, opens'⟩ := even₁.exchange
      have counts : int32 (502 + (count : Int) + 1) = 502 + ((count + 1 : Nat) : Int) := by
        rw [int32]
        omega
      rw [counts] at even₂
      exact ⟨_, k₂, run.append again, even₂, _, by rw [opens', opens, List.append_assoc]⟩

end Correspondence

open Endpoint (listening listening_heard listening_facts listening_step listening_attends
  waiting_started)

/--
The peer sends data for the link it has granted to the first client before it
answers the request for the link that has taken its place, and the data stays.
-/
theorem not_links_served :
    ¬ ∀ (k k' : Correspondence) (events : List Event) (conn : Int) (id : Short)
      (l : ConnectionLink) (record : Pollfd), k.endpoint.Started → (∀ x, k.answers x = 0) →
        Run Correspondence.Step k events k' → k'.endpoint.tunnel.link? conn id = some l →
        l.m_closing = false →
        record ∈ k'.endpoint.tunnel.registrations (.connectionLink conn id l.m_socket) →
          Endpoint.AsksRightly l record := by
  intro always
  let start : Correspondence := ⟨.remoteEnd .waiting, fun _ => 0⟩
  let listens : Correspondence := ⟨listening, fun _ => 0⟩
  obtain ⟨none, completed, _⟩ := listening_heard
  have opening : start.Step (arrives remoteListens) listens :=
    .quiet listening_step none fun r payload _ _ arrived =>
      ⟨_, (Option.some.inj (completed.symm.trans arrived)).symm, by decide, by decide, by decide⟩
  obtain ⟨_, k₁, first, even₁, asks⟩ :=
    Correspondence.first listening_attends listening_facts.2.2.2.2
  obtain ⟨_, k₂, more, even₂, _, opens₂⟩ := even₁.exchanges (Nat.le_refl 65535)
  have asks : k₂.Asks (Short.ofInt 0) 0 (Short.ofInt 501) := asks.append opens₂
  obtain ⟨e₃, socket₃, client, attends₃, found, none, opens₃, again⟩ := even₂.client
  have same : Short.ofInt (502 + ((65535 : Nat) : Int)) = Short.ofInt 501 := by decide
  rw [same] at found none again
  obtain ⟨e₄, step₄, attends₄, data, os, found, none⟩ :=
    @Endpoint.Attends.sent _ _ _ _ [120] attends₃ found rfl none (by decide)
  obtain ⟨e₅, step₅, _, reply, _, found, records⟩ := attends₄.created found
  have granted : 0 < k₂.answers (Short.ofInt 0).val := by
    rw [← even₂.answered]
    obtain ⟨_, here⟩ := asks
    exact (List.getElem?_eq_some_iff.mp here).1
  have sends := @Correspondence.Step.sends ⟨e₃, k₂.answers⟩ _ e₄ _ _ _ step₄ data
    (List.cons_ne_nil _ _) (by decide) ⟨0, granted, asks.append opens₃⟩
  have oldest : Correspondence.Asks ⟨e₄, k₂.answers⟩ (Short.ofInt 0) (k₂.answers (Short.ofInt 0).val)
      (Short.ofInt 501) := again.append (by rw [os, List.append_nil])
  have grants := @Correspondence.Step.grants ⟨e₄, k₂.answers⟩ _ e₅ _ _ step₅ reply oldest
  have run := (((Run.single opening).append first).append more).append
    ((Run.single client).append ((Run.single sends).append (Run.single grants)))
  obtain ⟨asked, _⟩ := always start _ _ 0 (Short.ofInt 501) _ ⟨socket₃, POLLIN, .zero⟩
    waiting_started (fun _ => rfl) run found rfl (by
      change _ ∈ e₅.tunnel.registrations _
      rw [records]
      exact List.mem_append_right _ List.mem_cons_self)
  exact Bool.false_ne_true (asked.mpr (by rfl))

end Tun01
