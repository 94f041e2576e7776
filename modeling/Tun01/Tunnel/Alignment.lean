import Tun01.Tunnel.LinkRuns

/-!
# Frames and messages

Every frame that is queued carries one message, and the handler of a frame takes
all of its fields.  The request of the handshake does so as long as the number
of connections can be read as a `short`.
-/

namespace Tun01

namespace System

variable {s s' : System} {labels : List (Side × Event)}

/-- Between two dispatches no message is half written or half read. -/
structure Aligned (s : System) : Prop where
  written : ∀ side, (s.writer side).m_queue = []
  whole : ∀ side, ∀ payload ∈ (s.wires side).sent, ∃ m : Message, payload = m.payload
  consumed : ∀ side, (s.reader side).m_queue = []

theorem Inv.aligned (inv : s.Inv) : s.Aligned where
  written := fun side => (inv.healthy side).sound.ready.fields
  whole := fun side => (inv.healthy side).whole
  consumed := fun side => (inv.healthy side).quiet

/-- A handler is given nothing or one message, and leaves nothing. -/
theorem Inv.handler_aligned (inv : s.Inv) {side : Side} {poll_struct : Pollfd} {calls : Calls}
    {got : List Byte} {stream : ReadStream} {e : Endpoint}
    (delivers : s.Delivers side poll_struct calls got stream)
    (result : (s.ends side).dispatch ⟨.stdioTunnel, poll_struct, calls⟩ = .ok e) :
    (stream.m_queue = [] ∨ ∃ m : Message, stream.m_queue = m.payload) ∧
      e.tunnel.m_read_stream.m_queue = [] := by
  obtain ⟨fd, ready, reads, fills⟩ := delivers
  constructor
  · cases (reads_of_fill inv.healthy ready reads fills).1 with
    | part queue _ => exact Or.inl queue
    | whole payload queue _ _ underWay =>
        have member : payload ∈ (s.wires side.other).sent := by
          refine List.mem_of_mem_drop (i := (s.wires side.other).appended.length) ?_
          change payload ∈ (s.wires side.other).underWay
          rw [underWay]
          exact List.mem_cons_self
        obtain ⟨m, same⟩ := (inv.healthy side.other).whole payload member
        exact Or.inr ⟨m, queue.trans same⟩
  · have quiet := ((inv.read fd ready reads fills result).healthy side).quiet
    unfold reader at quiet
    rw [tunnel_acted_self] at quiet
    exact quiet

/--
Along a run with few clients that begins with a request whose count is a
`short`, every frame is one message and every handler consumes it.
-/
theorem frames_aligned (opened : s.Opened) (fits : s.Fits) (run : Run Step s labels s')
    (few : ∀ conn, s'.clients conn < 65536) :
    s'.Aligned ∧ ∀ side poll_struct calls got stream e,
      s'.Delivers side poll_struct calls got stream →
        (s'.ends side).dispatch ⟨.stdioTunnel, poll_struct, calls⟩ = .ok e →
          (stream.m_queue = [] ∨ ∃ m : Message, stream.m_queue = m.payload) ∧
            e.tunnel.m_read_stream.m_queue = [] := by
  have inv := opened.run_inv fits run few
  exact ⟨inv.aligned, fun _ _ _ _ _ _ delivers result => inv.handler_aligned delivers result⟩

theorem frames_aligned_exchange : (greeted.playAll exchange).Aligned := by
  obtain ⟨⟨labels, run⟩, few⟩ := exchange_run
  exact (frames_aligned greeted_opened greeted_fits run few).1

end System

/-! ## Too many connections -/

namespace StdioTunnelLocal

def crowdSpec : ConnectionSpec := ⟨.LISTEN, text "host", 80, 80, 0⟩

theorem crowdSpec_parses : parseConnection .LISTEN (text "80:host:80") = .ok crowdSpec := by
  decide +kernel

def crowdArgs (count : Nat) : List (List Byte) :=
  List.replicate count (45 :: 82 :: text "80:host:80") ++ [text "ssh"]

theorem configureLoop_crowd (l : StdioTunnelLocal) (count socks5_spec_count : Nat)
    (bindStatus : ConnectionSpec → Int) :
    l.configureLoop socks5_spec_count bindStatus (crowdArgs count) =
      .ok ({ l with
        m_connection_specs := l.m_connection_specs ++ List.replicate count crowdSpec
        m_command := some [text "ssh"] }, socks5_spec_count, List.replicate count .option) := by
  induction count generalizing l with
  | zero =>
      rw [List.replicate_zero, List.append_nil]
      rfl
  | succ count ih =>
      have option : l.applyOption socks5_spec_count bindStatus 82 (text "80:host:80") =
          .ok ({ l with m_connection_specs := l.m_connection_specs ++ [crowdSpec] },
            socks5_spec_count) := by
        unfold applyOption
        rw [if_pos rfl, crowdSpec_parses]
        rfl
      have more : crowdArgs count ≠ [] := by
        unfold crowdArgs
        exact List.append_ne_nil_of_right_ne_nil _ (List.cons_ne_nil _ _)
      obtain ⟨next, rest, same⟩ := List.exists_cons_of_ne_nil more
      have loop := configureLoop.eq_4 l socks5_spec_count bindStatus 82 (text "80:host:80") next
        rest (by decide)
      rw [← same, if_neg (fun both => by cases both.1), option, ok_bind] at loop
      refine loop.trans ((congrArg (Except.map (took [.option])) (ih _)).trans ?_)
      rw [List.append_assoc, List.replicate_succ, List.replicate_succ]
      rfl

/-- The loop of `start` stores the connections under the next identifiers. -/
theorem createConnections_crowd {l : StdioTunnelLocal} {calls : Calls} {first i count : Nat}
    (below : ∀ entry ∈ l.m_connection_map.entries, entry.1 < (first : Int))
    (few : first + count ≤ 32768) :
    ∃ connections, l.createConnections calls (Short.ofInt first) i
        (List.replicate count crowdSpec) =
          .ok { l with m_connection_map := connections } ∧
      connections.size = l.m_connection_map.size + count ∧
      ∀ entry ∈ connections.entries,
        entry ∈ l.m_connection_map.entries ∨ entry.2.m_spec = crowdSpec := by
  induction count generalizing l first i with
  | zero => exact ⟨l.m_connection_map, rfl, rfl, fun _ => Or.inl⟩
  | succ count ih =>
      have number : (Short.ofInt first).val = first :=
        Short.val_ofInt_of_range (by omega) (by omega)
      have next : Short.ofInt ((Short.ofInt first).val + 1) = Short.ofInt (first + 1 : Nat) := by
        rw [number]
        rfl
      let c : TunnelConnection := ⟨crowdSpec, first, .empty, .connectSide⟩
      have entries := OrderedMap.insert_entries_of_lt l.m_connection_map (first : Int) c below
      obtain ⟨connections, created, size, specs⟩ := @ih
        { l with m_connection_map := l.m_connection_map.insert first c } (first + 1) (i + 1)
        (by
          intro entry member
          rw [entries] at member
          rcases List.mem_append.mp member with old | new
          · have := below entry old
            push_cast
            omega
          · rw [List.mem_singleton.mp new]
            push_cast
            omega) (by omega)
      refine ⟨connections, ?_, ?_, fun entry member => ?_⟩
      · have creates : l.toStdioTunnel.CreateConnection crowdSpec true (Short.ofInt first).val
            (calls.listen i) = .ok (l.toStdioTunnel, some c) := by
          rw [number]
          rfl
        rw [List.replicate_succ]
        unfold createConnections
        rw [creates, ok_bind, next]
        exact created
      · rw [size]
        unfold OrderedMap.size
        rw [entries, List.length_append, List.length_singleton]
        omega
      · rcases specs entry member with known | isCrowd
        · rw [entries] at known
          rcases List.mem_append.mp known with old | new
          · exact Or.inl old
          · rw [List.mem_singleton.mp new]
            exact Or.inr rfl
        · exact Or.inr isCrowd

/-- The local endpoint with these connections when its polling loop begins. -/
def crowded (connections : OrderedMap Int TunnelConnection) (specs : List ConnectionSpec) :
    StdioTunnelLocal :=
  (armed { fresh with
    m_connection_specs := specs
    m_command := some [text "ssh"]
    m_read_fd := 3
    m_write_fd := 4
    m_connection_map := connections } 4).registered

theorem crowded_begun {count : Nat} (some' : 0 < count) (few : count ≤ 32768) :
    ∃ connections, Begun (crowded connections (List.replicate count crowdSpec)) ∧
      connections.size = count ∧ ∀ entry ∈ connections.entries, entry.2.m_spec = crowdSpec := by
  let l : StdioTunnelLocal := { fresh with
    m_connection_specs := List.replicate count crowdSpec
    m_command := some [text "ssh"] }
  have configured : fresh.configure (fun _ => 0) (crowdArgs count) = .ok l := by
    unfold configure
    rw [configureLoop_crowd, ok_bind]
    dsimp only
    rw [if_neg, if_neg, if_neg (Nat.not_lt_zero _ : ¬ 0 > 1)]
    · rfl
    · rintro (no | no) <;> cases no
    · rw [List.length_append, List.length_replicate]
      exact Nat.ne_of_gt (Nat.lt_of_lt_of_le some' (Nat.le_add_left _ _))
  obtain ⟨connections, created, size, all⟩ := @createConnections_crowd
    { l with m_read_fd := 3, m_write_fd := 4 } {} 0 0 count (fun _ no => by cases no) (by omega)
  have starts : l.start 3 4 {} = .ok (crowded connections (List.replicate count crowdSpec)) := by
    unfold start
    refine (congrArg (fun result => result >>= _) created).trans ?_
    exact @addSelf_registered (armed { l with
      m_read_fd := 3
      m_write_fd := 4
      m_connection_map := connections } 4) rfl
  refine ⟨connections, .mk configured (by decide : (3 : Int) ≠ 4) starts,
    size.trans (Nat.zero_add _), fun entry member => ?_⟩
  exact (all entry member).resolve_left fun no => by cases no

def heard (d : MagicStringDetector) : MagicStringDetector :=
  { d with
    m_recognized_count := magicString.length
    toSockBuffer := d.toSockBuffer.insert magicString }

def met (l : StdioTunnelLocal) : StdioTunnelLocal :=
  (l.greeting.setDetector fun _ => heard l.m_read_buffer).lift fun t =>
    t.setEvents .stdioTunnel STDOUT_FD POLLOUT

/-- The magic string is read. -/
theorem dispatch_greet {l : StdioTunnelLocal} (state : l.m_state = .PASS_THROUGH)
    (ready : l.Ready) (buffer : l.m_read_buffer = ⟨.fresh, 0, magicString, 0, [], []⟩)
    (read : l.m_read_fd = 3) (write : l.m_write_fd = 4) (daemon : l.m_daemon = false) :
    l.dispatch Watched.greet.polled Watched.greet.poll_struct Watched.greet.calls = .ok l.met := by
  have starts : l.startHandshaking Watched.greet.calls = .ok l.greeting := by
    unfold startHandshaking
    dsimp only
    rw [StdioTunnel.send_handshake ready, ok_bind]
    refine if_neg ?_
    rw [daemon]
    exact Bool.false_ne_true
  obtain ⟨found, calls⟩ : (l.m_read_buffer.detect magicString).1 =
        { l.m_read_buffer with m_recognized_count := magicString.length } ∧
      (l.m_read_buffer.detect magicString).2 = [.startHandshaking] := by
    rw [buffer]
    exact ⟨rfl, rfl⟩
  have chunk : l.processReadData Watched.greet.calls magicString =
      .ok (l.greeting.setDetector fun _ =>
        { l.m_read_buffer with m_recognized_count := magicString.length }) := by
    rw [processReadData_performs, calls, found, List.foldlM_cons]
    unfold perform
    rw [starts, ok_bind]
    rfl
  have reads : l.readDetected Watched.greet.calls [.ok magicString] =
      .ok (l.greeting.setDetector fun _ => heard l.m_read_buffer, magicString.length) := by
    unfold readDetected detectLoop
    have added : SockBuffer.addCount 0 magicString.length = .ok (magicString.length : Int) := rfl
    rw [chunk, ok_bind]
    dsimp only
    rw [added, ok_bind, if_neg (by decide)]
    rfl
  have unsent : (heard l.m_read_buffer).unsentData = true := by
    rw [buffer]
    rfl
  have passes : l.passRead Watched.greet.calls = .ok l.met := by
    unfold passRead
    rw [show Watched.greet.calls.reads = [.ok magicString] from rfl, reads, ok_bind]
    dsimp only
    rw [if_neg (by decide)]
    exact if_pos unsent
  change l.polled Watched.greet.poll_struct Watched.greet.calls = _
  unfold polled
  rw [state]
  dsimp only
  unfold polledPassThrough
  rw [onFd_self _ _ (by rw [read]; rfl), passes, ok_bind]
  rw [onFd_of_ne _ _ (by
    rw [show l.met.m_write_fd = l.m_write_fd from rfl, write]
    exact (by decide : (3 : Int) ≠ 4)), ok_bind]
  rw [onFd_of_ne _ _ (by decide : (3 : Int) ≠ STDIN_FD), ok_bind]
  exact onFd_of_ne _ _ (by decide : (3 : Int) ≠ STDOUT_FD)

/-- The records of the endpoint itself are still those for the four descriptors. -/
theorem met_records (connections : OrderedMap Int TunnelConnection)
    (specs : List ConnectionSpec) :
    ((crowded connections specs).registrations .stdioTunnel).map Pollfd.fd = [0, 1, 3, 4] ∧
      ((crowded connections specs).met.registrations .stdioTunnel).map Pollfd.fd = [1, 3, 4] :=
  ⟨rfl, rfl⟩

theorem crowded_greets (connections : OrderedMap Int TunnelConnection)
    (specs : List ConnectionSpec) :
    ∃ queued, Watched.Step (.start (crowded connections specs)) Watched.greet
      ⟨(crowded connections specs).met, 1, queued⟩ := by
  have result := dispatch_greet (l := crowded connections specs) rfl ⟨rfl, rfl⟩ rfl rfl rfl rfl
  have member : (3 : Int) ∈ ((crowded connections specs).registrations .stdioTunnel).map
      Pollfd.fd := by
    rw [(met_records connections specs).1]
    decide
  obtain ⟨record, registered, fd⟩ := List.mem_map.mp member
  exact ⟨_, ⟨⟨record, registered, fd⟩, trivial, congrArg (Except.map Endpoint.localEnd) result⟩,
    rfl, rfl⟩

end StdioTunnelLocal

/-! ## The request that is too long -/

/-- The request for such connections takes 18 bytes for each of them. -/
theorem StdioTunnel.crowd_length {t : StdioTunnel}
    (same : ∀ entry ∈ t.m_connection_map.entries, entry.2.m_spec = StdioTunnelLocal.crowdSpec) :
    (Message.handshake t.connections).payload.length = 4 + 18 * t.m_connection_map.size := by
  have each : ∀ c ∈ t.connections, (Message.connection c).length = 18 := by
    intro c member
    obtain ⟨entry, stored, rfl⟩ := List.mem_map.mp member
    unfold Message.connection
    dsimp only
    rw [same entry stored]
    rfl
  have all : (t.connections.flatMap Message.connection).length = 18 * t.connections.length := by
    generalize t.connections = connections at each
    induction connections with
    | nil => rfl
    | cons c connections ih =>
        obtain ⟨here, others⟩ := List.forall_mem_cons.mp each
        rw [List.flatMap_cons, List.length_append, here, ih others, List.length_cons]
        omega
  unfold Message.payload
  rw [List.length_append, List.length_append, all,
    show t.connections.length = t.m_connection_map.size from List.length_map _]
  simp only [WriteStream.shortBytes_length]
  omega

namespace StdioTunnelRemote

/-- A count that is negative as a `short` reads no connection. -/
theorem processFrame_crowd {r : StdioTunnelRemote} {calls : Calls}
    {connections : List (Short × ConnectionSpec)} (ready : r.Ready)
    (state : r.m_state = .HANDSHAKING) (many : 32767 < connections.length)
    (below : connections.length ≤ 65536) :
    ∃ r', (r.reading (Message.handshake connections).payload).processFrame calls = .ok r' ∧
      r'.os = r.os ∧ r'.m_read_stream.m_queue = connections.flatMap Message.connection ∧
      ∀ x, r'.connection? x = r.connection? x := by
  have none : (Short.ofInt connections.length).val.toNat = 0 := by
    rw [Short.val_ofInt]
    omega
  have sent := @send_agreed (r.toStdioTunnel.reading (connections.flatMap Message.connection))
    ⟨ready.poller, ready.fields⟩
  refine ⟨⟨(r.toStdioTunnel.reading (connections.flatMap Message.connection)).emit
    Message.agreed.payload, .CONNECTED, r.m_socks5_server⟩, ?_, rfl, rfl, fun _ => rfl⟩
  rw [processFrame_counted connections state, none]
  unfold createConnections
  rw [ok_bind]
  change (do
    let t ← ((r.toStdioTunnel.reading _).writeShort CMD_CREATE).send
    return _) = _
  rw [sent]
  rfl

end StdioTunnelRemote

namespace System

open StdioTunnelLocal (crowded crowdSpec crowded_begun crowded_greets met_records)

/-- The local endpoint has queued a frame, and the remote endpoint waits for it. -/
def asking (w : Watched) : System where
  ends := fun
    | .localSide => .localEnd w.endpoint
    | .remoteSide => .remoteEnd .waiting
  wires := fun
    | .localSide => ⟨[], w.queued, [], []⟩
    | .remoteSide => .empty
  brought := fun _ _ => []

/-- One frame in the pipe is read by one fill. -/
theorem fresh_fills {payload : List Byte} (nonempty : payload ≠ [])
    (bounded : payload.length ≤ 50000000) :
    ∃ stream, Pipeline.FillReads .fresh (frame payload) (.ok (frameHeader payload.length))
        (.ok payload) (frame payload) ∧
      ReadStream.fresh.fill ⟨STDIN_FD, POLLIN, POLLIN⟩ (.ok (frameHeader payload.length))
        (.ok payload) = .ok stream ∧ stream.m_queue = payload := by
  have small : payload.length < 2 ^ 32 := by omega
  have headed := @ReadStream.Holds.received _ _ (frameHeader payload.length)
    ReadStream.fresh_holds ReadStream.fresh_holds.roomy
  rw [List.nil_append] at headed
  have length : (ReadStream.fresh.received (frameHeader payload.length)).length =
      payload.length := headed.length_of_started (Nat.le_refl 4) (List.prefix_append _ _) small
  have reads : Pipeline.FillReads .fresh (frame payload) (.ok (frameHeader payload.length))
      (.ok payload) (frame payload) := by
    refine .both (by decide) (.data rfl (List.cons_ne_nil _ _) (Nat.le_refl 4)) (Nat.lt_irrefl 4)
      (.data (@Pipeline.Reads.data _ _ _ [] ?_ nonempty ?_))
    · rw [List.append_nil]
      rfl
    · unfold ReadStream.bodyRequest
      rw [length, headed.count, frameHeader_length]
      exact Nat.le_refl _
  obtain ⟨fills, _⟩ := @Pipeline.fill_fills .fresh ⟨STDIN_FD, POLLIN, POLLIN⟩ _ _ [] _ []
    (frame payload) payload [] rfl ReadStream.fresh_holds (by rw [frame_length]; exact Nat.succ_pos _)
    small (by rw [List.nil_append]) reads
  obtain ⟨stream, returned⟩ := fills.returns bounded
  refine ⟨stream, reads, returned, ?_⟩
  cases fills.filled stream returned with
  | unfinished holds queue short =>
      rw [List.nil_append] at short
      exact absurd short (Nat.lt_irrefl _)
  | finished done holds queue bounded => exact queue

/-- The local endpoint after its frame has gone to the pipe. -/
def asked (t : StdioTunnel) (w : Watched) (payload : List Byte) : System :=
  { asking w with
    ends := Function.update (asking w).ends .localSide ((Endpoint.localEnd w.endpoint).withTunnel t)
    wires := Function.update (asking w).wires .localSide
      (((asking w).wires .localSide).gave (frame payload)) }

/-- A frame that waits alone leaves in one write. -/
theorem flush_step {w : Watched} {payload : List Byte}
    (framed : (Endpoint.localEnd w.endpoint).Framed)
    (packets : w.endpoint.m_write_stream.toWriteStream = ⟨[], [.padded payload]⟩)
    (registered : ∃ record ∈ w.endpoint.registrations .stdioTunnel,
      record.fd = w.endpoint.m_write_fd) :
    ∃ t event, Step (asking w) (.localSide, event) (asked t w payload) ∧
      t.os = w.endpoint.os := by
  let poll_struct : Pollfd := ⟨w.endpoint.m_write_fd, POLLOUT, POLLOUT⟩
  let calls : Calls := { write := .ok (payload.length + 4) }
  have sent : (WritePacket.padded payload).sendPacket calls.write =
      .ok ({ WritePacket.padded payload with m_written := 0 + (payload.length + 4) }, true) := by
    have done : ((0 + (payload.length + 4) : Nat) == payload.length + 4) = true := by
      rw [Nat.zero_add]
      exact beq_self_eq_true _
    exact congrArg (fun finished => Except.ok (_, finished)) done
  have taken : (WritePacket.padded payload).unwritten.take (0 + (payload.length + 4) - 0) =
      frame payload := by
    rw [WritePacket.padded_unwritten, Nat.zero_add, Nat.sub_zero, ← frame_length,
      List.take_length]
  have empties : ∃ after, w.endpoint.m_write_stream.toWriteStream.empty poll_struct calls.write =
      .ok (⟨[], []⟩, after, frame payload) := by
    rw [packets, ← taken]
    unfold WriteStream.empty
    dsimp only
    rw [if_pos (show poll_struct.revents.POLLOUT = true from rfl), sent, ok_bind]
    exact ⟨_, rfl⟩
  obtain ⟨after, empties⟩ := empties
  obtain ⟨t, written, beside⟩ := @Endpoint.dispatch_write (.localEnd w.endpoint) poll_struct calls
    framed rfl rfl _ _ _ empties
  have within : ∀ front rest, w.endpoint.m_write_stream.m_packet_queue = front :: rest →
      payload.length + 4 ≤ front.request := by
    intro front rest queue
    rw [congrArg WriteStream.m_packet_queue packets] at queue
    obtain ⟨rfl, _⟩ := List.cons.inj queue
    exact Nat.le_refl _
  exact ⟨t, ⟨.stdioTunnel, poll_struct, calls⟩, @Step.write (asking w) .localSide poll_struct after
    calls _ _ _ _ rfl rfl rfl within empties ⟨registered, trivial, written⟩, beside.os⟩

theorem asked_remote (t : StdioTunnel) (w : Watched) (payload : List Byte) :
    (asked t w payload).ends .remoteSide = .remoteEnd .waiting ∧
      (asked t w payload).reader .remoteSide = .fresh ∧
      ((asked t w payload).wires .localSide).pipe = frame payload := by
  have remote : (asked t w payload).ends .remoteSide = .remoteEnd .waiting :=
    Function.update_of_ne (Side.other_ne .localSide)
      ((Endpoint.localEnd w.endpoint).withTunnel t) (asking w).ends
  refine ⟨remote, ?_, rfl⟩
  unfold reader tunnel
  rw [remote]
  rfl

/-- The request in the pipe is read, and a count that is no `short` leaves its connections. -/
theorem fetch_step {t : StdioTunnel} {w : Watched} {connections : List (Short × ConnectionSpec)}
    (many : 32767 < connections.length) (below : connections.length < 65536)
    (bounded : (Message.handshake connections).payload.length ≤ 50000000) :
    ∃ event s', Step (asked t w (Message.handshake connections).payload) (.remoteSide, event) s' ∧
      (s'.reader .remoteSide).m_queue = connections.flatMap Message.connection ∧
      s'.tunnel .localSide =
        (asked t w (Message.handshake connections).payload).tunnel .localSide ∧
      (s'.tunnel .remoteSide).os = StdioTunnelRemote.waiting.os := by
  let payload := (Message.handshake connections).payload
  obtain ⟨stream, reads, fills, queue⟩ := fresh_fills (Message.payload_ne_nil (.handshake connections))
    bounded
  let poll_struct : Pollfd := ⟨STDIN_FD, POLLIN, POLLIN⟩
  let calls : Calls := { header := .ok (frameHeader payload.length), body := .ok payload }
  let r : StdioTunnelRemote :=
    { StdioTunnelRemote.waiting with
      toStdioTunnel := StdioTunnelRemote.waiting.toStdioTunnel.withReader (stream.withQueue []) }
  have more : stream.available = true := by
    unfold ReadStream.available
    rw [queue]
    rfl
  have whole : r.reading payload = { r with
      toStdioTunnel := StdioTunnelRemote.waiting.toStdioTunnel.withReader stream } := by
    change r.reading (Message.handshake connections).payload = _
    rw [← queue]
    rfl
  obtain ⟨r', processed, os, left, _⟩ := @StdioTunnelRemote.processFrame_crowd r calls connections
    ⟨rfl, rfl⟩ rfl many below.le
  have result : (Endpoint.remoteEnd .waiting).dispatch ⟨.stdioTunnel, poll_struct, calls⟩ =
      .ok (.remoteEnd r') := by
    have framed : (Endpoint.remoteEnd .waiting).Framed := .remoteEnd (Or.inl rfl)
    rw [@Endpoint.dispatch_read _ poll_struct calls framed rfl rfl stream fills, if_pos more]
    rw [show (r.reading (Message.handshake connections).payload) = _ from whole] at processed
    exact congrArg (Except.map Endpoint.remoteEnd) processed
  obtain ⟨record, registered, fd⟩ : ∃ record ∈
      (Endpoint.remoteEnd .waiting).tunnel.registrations .stdioTunnel, record.fd = STDIN_FD := by
    decide +kernel
  obtain ⟨remote, reader, pipe⟩ := asked_remote t w payload
  refine ⟨⟨.stdioTunnel, poll_struct, calls⟩,
    ((asked t w payload).filled .remoteSide (frame payload) stream).acted .remoteSide
      (.remoteEnd r'), .read ?_ rfl ?_ ?_ ⟨?_, trivial, ?_⟩, ?_, ?_, ?_⟩
  · rw [remote]
    rfl
  · rw [reader]
    change Pipeline.FillReads _ ((asked t w payload).wires .localSide).pipe _ _ _
    rw [pipe]
    exact reads
  · rw [reader]
    exact fills
  · rw [remote]
    exact ⟨record, registered, fd⟩
  · rw [remote]
    exact result
  · unfold System.reader
    rw [tunnel_acted_self]
    exact left
  · exact tunnel_acted_other _ .remoteSide _
  · rw [tunnel_acted_self]
    exact os

/-- The request of 32768 connections leaves them all in the queue of the reader. -/
theorem not_frames_aligned :
    ¬ ∀ (s s' : System) (labels : List (Side × Event)), s.Opened → Run Step s labels s' →
      (∀ conn, s'.clients conn < 65536) → s'.Aligned := by
  intro always
  obtain ⟨connections, begun, size, specs⟩ :=
    @crowded_begun 32768 (by decide) (Nat.le_refl _)
  have few : (List.replicate 32768 crowdSpec).length ≤ 65536 := by
    rw [List.length_replicate]
    decide
  generalize List.replicate 32768 crowdSpec = crowd at begun few
  obtain ⟨queued, greets⟩ := crowded_greets connections crowd
  let l := (crowded connections crowd).met
  have opened : (asking ⟨l, 1, queued⟩).Opened :=
    .mk begun few (by decide : (3 : Int) ≠ STDOUT_FD) (by decide : (4 : Int) ≠ STDOUT_FD) .nil rfl
      greets rfl StdioTunnelRemote.waiting_starts
  have length : l.connections.length = 32768 := (List.length_map _).trans size
  have bounded : (Message.handshake l.connections).payload.length ≤ 50000000 := by
    rw [StdioTunnel.crowd_length specs]
    rw [show l.m_connection_map.size = 32768 from size]
    decide
  have member : (4 : Int) ∈ (l.registrations .stdioTunnel).map Pollfd.fd := by
    rw [(met_records connections crowd).2]
    decide
  obtain ⟨record, registered, fd⟩ := List.mem_map.mp member
  obtain ⟨t, flush, flushed, os⟩ := @flush_step ⟨l, 1, queued⟩ _
    (.localEnd (Or.inl rfl) (by decide : (3 : Int) ≠ 4) (by decide : (3 : Int) ≠ STDOUT_FD)
      (by decide : (4 : Int) ≠ STDOUT_FD)) rfl ⟨record, registered, fd⟩
  obtain ⟨fetch, s', fetched, left, near, far⟩ :=
    @fetch_step t ⟨l, 1, queued⟩ l.connections (by omega) (by omega) bounded
  have clients : ∀ conn, s'.clients conn < 65536 := by
    refine clients_few s' ?_ ?_
    · rw [near]
      change t.os.trace.length < 65536
      rw [os]
      exact Nat.zero_lt_succ _
    · rw [far]
      exact Nat.zero_lt_succ _
  have quiet := (always _ s' _ opened (.cons flushed (.single fetched)) clients).consumed .remoteSide
  rw [left] at quiet
  generalize l.connections = listed at length quiet
  cases listed with
  | nil => cases length
  | cons c listed => exact List.cons_ne_nil _ _ quiet

end System

end Tun01
