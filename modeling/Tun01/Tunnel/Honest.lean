import Tun01.Tunnel.Clients

/-!
# Honest endpoints

What an endpoint may rely on when the other one keeps the protocol, and that
the two endpoints of a system do: a frame that one of them completes is the
oldest message under way, and the life cycle of its link says in which phase
the endpoint is.
-/

namespace Tun01

/-- The link message in the payload of a message. -/
theorem linkMessage_payload (m : Message) :
    linkMessage m.payload =
      match m with
      | .link conn id m => some (conn, m.command, id, m.fields)
      | .error _ | .handshake _ | .agreed => none := by
  cases m with
  | link conn id m =>
      unfold linkMessage Message.payload LinkMessage.encode
      simp [bind, Option.bind]
  | error message =>
      unfold linkMessage Message.payload
      simp [bind, Option.bind, show CMD_ERROR ≠ CMD_CONNECTION by decide]
  | handshake connections =>
      unfold linkMessage Message.payload
      simp [bind, Option.bind, show CMD_CREATE ≠ CMD_CONNECTION by decide]
  | agreed =>
      unfold linkMessage Message.payload
      simp [bind, Option.bind, show CMD_CREATE ≠ CMD_CONNECTION by decide]

namespace Endpoint

/-- The payload a dispatch completes, whatever the endpoint does with it. -/
def completed (e : Endpoint) (event : Event) : Option (List Byte) :=
  if event.polled = .stdioTunnel ∧ event.poll_struct.fd = e.readFd then
    match e.tunnel.m_read_stream.fill event.poll_struct event.calls.header event.calls.body with
    | .ok stream => if stream.available then some stream.m_queue else none
    | .error _ => none
  else
    none

theorem completed_of_frame {e : Endpoint} {event : Event} {payload : List Byte}
    (frame : e.frame event = some payload) :
    e.carriesLinks = true ∧ e.completed event = some payload := by
  unfold Endpoint.frame at frame
  unfold completed
  split at frame
  · rename_i here
    rw [if_pos ⟨here.1, here.2.1⟩]
    exact ⟨here.2.2, frame⟩
  · cases frame

theorem completed_of_fill {e : Endpoint} {event : Event} {stream : ReadStream}
    (self : event.polled = .stdioTunnel) (fd : event.poll_struct.fd = e.readFd)
    (fills : e.tunnel.m_read_stream.fill event.poll_struct event.calls.header event.calls.body =
      .ok stream) (more : stream.available = true) : e.completed event = some stream.m_queue := by
  unfold completed
  rw [if_pos ⟨self, fd⟩, fills]
  exact if_pos more

/-- The connections of a handshake have identifiers of their own. -/
structure Introduces (payload : List Byte) (connections : List (Short × ConnectionSpec)) :
    Prop where
  payload : payload = (Message.handshake connections).payload
  few : connections.length ≤ 32767
  distinct : (connections.map Prod.fst).Nodup
  small : ∀ c ∈ connections, c.2.m_connect_host.length < 2 ^ 32

/--
The other endpoint keeps the protocol: it answers a request for a link once,
asks for links that are not there, and opens with a handshake.
-/
structure Honest (e : Endpoint) (event : Event) : Prop where
  reply : ∀ conn id fields, e.message event = some (conn, LINK_CREATE, id, fields) →
    e.tunnel.listens conn.val = true → e.tunnel.phase conn.val id = .pending
  request : ∀ conn id fields, e.message event = some (conn, LINK_CREATE, id, fields) →
    e.tunnel.connects conn.val = true → e.tunnel.link? conn.val id = none
  handshake : ∀ r payload, e = .remoteEnd r → r.m_state = .HANDSHAKING →
    e.completed event = some payload → ∃ connections, Introduces payload connections

theorem Framed.fds {e : Endpoint} (framed : e.Framed) : e.readFd ≠ e.writeFd := by
  cases framed with
  | localEnd _ pipes _ _ => exact pipes
  | remoteEnd _ => exact (by decide : STDIN_FD ≠ STDOUT_FD)

end Endpoint

namespace System

variable {s s' : System} {side : Side} {event : Event} {conn command id : Short}
  {fields payload : List Byte}

/-- What is under way to an endpoint that takes frames about links. -/
theorem Inv.expected (inv : s.Inv) (carries : (s.ends side).carriesLinks = true)
    {later : List (List Byte)} (underWay : (s.wires side.other).underWay = payload :: later) :
    ∃ m : Message, payload = m.payload ∧ m.Sendable side.other := by
  rcases inv.stage with greeting | joined
  · exfalso
    cases side with
    | localSide =>
        unfold Wire.underWay at underWay
        rw [show (s.wires Side.localSide.other).sent = [] from greeting.silent,
          List.drop_nil] at underWay
        cases underWay
    | remoteSide =>
        obtain ⟨l, r, _, isRemote⟩ := inv.kinds
        rw [isRemote] at carries
        have connected : r.m_state = .CONNECTED := of_decide_eq_true carries
        rw [greeting.waiting r isRemote] at connected
        cases connected
  · refine joined.expected side.other payload ?_
    rw [underWay]
    exact List.mem_cons_self

/-- A read of the pipe: what the system calls of a dispatch return to a fill. -/
structure Delivers (s : System) (side : Side) (poll_struct : Pollfd) (calls : Calls)
    (got : List Byte) (stream : ReadStream) : Prop where
  fd : poll_struct.fd = (s.ends side).readFd
  ready : poll_struct.revents = POLLIN
  reads : Pipeline.FillReads (s.reader side) (s.wires side.other).pipe calls.header calls.body got
  fills : (s.reader side).fill poll_struct calls.header calls.body = .ok stream

/-- A payload that a fill completes is the oldest one under way. -/
theorem Delivers.front {poll_struct : Pollfd} {calls : Calls} {got : List Byte}
    {stream : ReadStream} (delivers : s.Delivers side poll_struct calls got stream) (inv : s.Inv)
    (completed : (s.ends side).completed ⟨.stdioTunnel, poll_struct, calls⟩ = some payload) :
    (∃ later, (s.wires side.other).underWay = payload :: later) ∧ payload.length ≤ 50000000 := by
  obtain ⟨fd, ready, reads, fills⟩ := delivers
  obtain ⟨outcome, _⟩ := reads_of_fill inv.healthy ready reads fills
  unfold Endpoint.completed at completed
  rw [if_pos ⟨rfl, fd⟩] at completed
  dsimp only at completed
  rw [show (s.ends side).tunnel.m_read_stream.fill poll_struct calls.header calls.body = _
    from fills] at completed
  dsimp only at completed
  split at completed
  · rename_i available
    cases completed
    cases outcome with
    | part queue _ =>
        unfold ReadStream.available at available
        rw [queue] at available
        cases available
    | whole _ queue _ bounded underWay =>
        rw [← queue] at underWay bounded
        exact ⟨⟨_, underWay⟩, bounded⟩
  · cases completed

/-- A payload is completed by a read of the pipe. -/
theorem Step.delivers (step : Step s (side, event) s') (inv : s.Inv)
    (completed : (s.ends side).completed event = some payload) :
    ∃ poll_struct calls got stream, event = ⟨.stdioTunnel, poll_struct, calls⟩ ∧
      s.Delivers side poll_struct calls got stream := by
  have own := inv.healthy side
  unfold Endpoint.completed at completed
  split at completed
  · rename_i here
    obtain ⟨self, fd⟩ := here
    cases step with
    | object other _ => exact absurd self other
    | write fd' _ _ _ _ _ => exact absurd (fd.symm.trans fd') own.framed.fds
    | console notRead _ _ => exact absurd fd notRead
    | @read _ poll_struct calls got stream e _ ready reads fills step =>
        exact ⟨poll_struct, calls, got, stream, rfl, fd, ready, reads, fills⟩
  · cases completed

theorem Step.completed_front (step : Step s (side, event) s') (inv : s.Inv)
    (completed : (s.ends side).completed event = some payload) :
    (∃ later, (s.wires side.other).underWay = payload :: later) ∧ payload.length ≤ 50000000 := by
  obtain ⟨poll_struct, calls, got, stream, rfl, delivers⟩ := step.delivers inv completed
  exact delivers.front inv completed

/-- The message in a payload is at the front of what the other end of its link has sent. -/
theorem Delivers.message_front {poll_struct : Pollfd} {calls : Calls} {got : List Byte}
    {stream : ReadStream} (delivers : s.Delivers side poll_struct calls got stream) (inv : s.Inv)
    (message : (s.ends side).message ⟨.stdioTunnel, poll_struct, calls⟩ =
      some (conn, command, id, fields)) :
    ∃ (m : LinkMessage) (rest : List LinkMessage), command = m.command ∧ fields = m.fields ∧
      m.fits = true ∧ (s.half side.other conn id).inFlight = m :: rest := by
  unfold Endpoint.message at message
  cases frame : (s.ends side).frame ⟨.stdioTunnel, poll_struct, calls⟩ with
  | none =>
      rw [frame] at message
      cases message
  | some payload =>
      rw [frame] at message
      obtain ⟨carries, completed⟩ := Endpoint.completed_of_frame frame
      obtain ⟨⟨later, underWay⟩, _⟩ := delivers.front inv completed
      obtain ⟨m, rfl, sendable⟩ := inv.expected carries underWay
      change linkMessage m.payload = _ at message
      rw [linkMessage_payload] at message
      cases m with
      | error _ | handshake _ | agreed => cases message
      | link conn' id' m =>
          cases message
          refine ⟨m, later.filterMap (LinkMessage.decode conn id), rfl, rfl, sendable, ?_⟩
          change (s.wires side.other).underWay.filterMap _ = _
          rw [underWay]
          exact List.filterMap_cons_some (LinkMessage.decode_encode_self conn id m)

theorem Step.message_front (step : Step s (side, event) s') (inv : s.Inv)
    (message : (s.ends side).message event = some (conn, command, id, fields)) :
    ∃ (m : LinkMessage) (rest : List LinkMessage), command = m.command ∧ fields = m.fields ∧
      m.fits = true ∧ (s.half side.other conn id).inFlight = m :: rest := by
  cases frame : (s.ends side).frame event with
  | none =>
      unfold Endpoint.message at message
      rw [frame] at message
      cases message
  | some payload =>
      obtain ⟨poll_struct, calls, got, stream, rfl, delivers⟩ :=
        step.delivers inv (Endpoint.completed_of_frame frame).2
      exact delivers.message_front inv message

/-! ## Leading operations -/

/-- The listener of a link finds its reply while it waits for it. -/
theorem Inv.told (inv : s.Inv) {m : LinkMessage} {rest : List LinkMessage}
    (listens : (s.tunnel side).listens conn.val = true) (isReply : m.command = LINK_CREATE)
    (front : (s.half side.other conn id).inFlight = m :: rest) :
    (∃ success, m = .created success) ∧ (s.tunnel side).phase conn.val id = .pending := by
  have here := listenerSide_of_listens inv.stage listens
  have lawful := (inv.links conn id).1
  unfold LinkState.Lawful at lawful
  rw [link_of_listener here] at lawful
  dsimp only at lawful
  rw [front] at lawful
  rcases lawful.listenerFinds with ⟨success, reply, pending⟩ | ⟨other, _⟩
  · exact ⟨⟨success, reply⟩, pending⟩
  · exact absurd isReply (LinkMessage.command_ne_create other)

/-- The connector of a link is asked for it while it has none. -/
theorem Inv.asked (inv : s.Inv) {m : LinkMessage} {rest : List LinkMessage}
    (connects : (s.tunnel side).connects conn.val = true) (asks : m.command = LINK_CREATE)
    (front : (s.half side.other conn id).inFlight = m :: rest) :
    m = .create ∧ (s.tunnel side).phase conn.val id = .absent := by
  have lawful := (inv.links conn id).1
  unfold LinkState.Lawful at lawful
  rcases here_or_there s side conn with here | there
  · obtain ⟨c, known, role⟩ := StdioTunnel.connectSide_of_connects connects
    have listens : (s.tunnel side).listens conn.val = true := by
      rcases inv.stage with greeting | joined
      · cases side with
        | localSide =>
            unfold half Wire.underWay at front
            rw [show (s.wires Side.localSide.other).sent = [] from greeting.silent,
              List.drop_nil] at front
            cases front
        | remoteSide =>
            rw [greeting.empty] at known
            cases known
      · exact joined.listens_here here known
    rw [StdioTunnel.listens_of_connection known, role] at listens
    cases listens
  · rw [link_of_connector there] at lawful
    dsimp only at lawful
    rw [front] at lawful
    rcases lawful.connectorFinds with ⟨create, _, absent⟩ | ⟨other, _⟩
    · exact ⟨create, absent⟩
    · exact absurd asks (LinkMessage.command_ne_create other)

/-! ## Both endpoints are honest -/

/-- The handshake that is under way to a remote endpoint that waits for it. -/
theorem Step.introduces (step : Step s (.remoteSide, event) s') (inv : s.Inv)
    {r : StdioTunnelRemote} (isRemote : s.ends .remoteSide = .remoteEnd r)
    (waits : r.m_state = .HANDSHAKING)
    (completed : (s.ends .remoteSide).completed event = some payload) :
    ∃ connections, Endpoint.Introduces payload connections := by
  obtain ⟨⟨later, underWay⟩, bounded⟩ := step.completed_front inv completed
  rcases inv.stage with greeting | joined
  · obtain ⟨connections, more, front, lists, _⟩ := greeting.request
    obtain ⟨rfl, _⟩ := List.cons.inj (underWay.symm.trans front)
    refine ⟨connections, rfl, lists.few, lists.distinct, fun c member => ?_⟩
    have host := Message.host_le member
    omega
  · rw [joined.connected r isRemote] at waits
    cases waits

/-- Each endpoint of a system keeps the protocol towards the other. -/
theorem Step.honest (step : Step s (side, event) s') (inv : s.Inv) :
    (s.ends side).Honest event where
  reply := by
    intro conn id fields message listens
    obtain ⟨m, rest, command, _, _, front⟩ := step.message_front inv message
    exact (inv.told listens command.symm front).2
  request := by
    intro conn id fields message connects
    obtain ⟨m, rest, command, _, _, front⟩ := step.message_front inv message
    obtain ⟨_, absent⟩ := inv.asked connects command.symm front
    exact StdioTunnel.link?_of_absent absent
  handshake := by
    intro r payload isRemote waits completed
    cases side with
    | localSide =>
        obtain ⟨l, _, isLocal, _⟩ := inv.kinds
        rw [isLocal] at isRemote
        cases isRemote
    | remoteSide => exact step.introduces inv isRemote waits completed

end System

end Tun01
