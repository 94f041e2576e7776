import Tun01.Tunnel.Halves
import Tun01.Tunnel.Handshake

/-!
# The invariant of a system

Each endpoint is sound and has nothing left in the queue of its reader, each
pipe carries whole frames, each link keeps the link protocol, and the messages
under way are those the other endpoint expects.
-/

namespace Tun01

/-! ## Messages an endpoint sends -/

namespace Message

/-- The messages of an endpoint after the request of the handshake. -/
def Sendable (side : Side) : Message → Prop
  | link _ _ m => m.fits = true
  | error message => side = .remoteSide ∧ message.length < 2 ^ 31
  | agreed => side = .remoteSide
  | handshake _ => False

theorem Own.sendable {side : Side} {conn id : Short} {m : Message} (own : m.Own side conn id) :
    m.Sendable side := by
  cases m with
  | link _ _ _ => exact own.2.2
  | error _ => exact own
  | handshake _ | agreed => exact own.elim

theorem Sendable.small {side : Side} {m : Message} (sendable : m.Sendable side) :
    m.payload.length < 2 ^ 32 := by
  cases m with
  | link conn id m =>
      have fields : m.fields.length ≤ 4100 := by
        have bound : LINK_BUFFER_SIZE = 4096 := rfl
        cases m with
        | create | created _ | ack | close => simp [LinkMessage.fields]
        | send bytes | sendForAck bytes =>
            have fits := of_decide_eq_true sendable
            simp only [LinkMessage.fields, List.length_append, WriteStream.shortBytes_length]
            omega
      simp only [payload, LinkMessage.encode, List.length_append, WriteStream.shortBytes_length]
      omega
  | error message =>
      have small := sendable.2
      simp only [payload, List.length_append, WriteStream.shortBytes_length,
        WriteStream.longBytes_length]
      omega
  | agreed => simp [payload]
  | handshake _ => exact sendable.elim

end Message

namespace StdioTunnel

def connects (t : StdioTunnel) (conn : Int) : Bool :=
  match t.kind? conn with
  | some (_, listens) => !listens
  | none => false

theorem connects_of_kind {t t' : StdioTunnel} (kind : ∀ x, t'.kind? x = t.kind? x) (x : Int) :
    t'.connects x = t.connects x := by
  unfold connects
  rw [kind x]

/-- What a handler does besides moving its link. -/
theorem Outcome.facts {t t' : StdioTunnel} {conn id : Short} {opened : Nat}
    {moves : Half → Half → Prop} (outcome : Outcome t t' conn id opened moves) :
    t'.Sound ∧ (t.Numbered → t'.Numbered) ∧ t'.m_read_stream = t.m_read_stream ∧
      t'.side = t.side := by
  obtain ⟨t₀, prepares, after, out, moved, _, _⟩ := outcome
  exact ⟨moved.sound, fun numbers => (prepares.numbered numbers).same moved.change.bare
    moved.change.opened, moved.change.reader.trans prepares.reader,
    moved.change.side.trans prepares.looks.side⟩

end StdioTunnel

namespace System

variable {s s' : System} {side : Side} {e : Endpoint}

/-! ## The invariant -/

/-- What holds of one endpoint and of the pipe it writes to. -/
structure Healthy (s : System) (side : Side) : Prop where
  sameSide : (s.tunnel side).side = side
  framed : (s.ends side).Framed
  sound : (s.tunnel side).Sound
  numbered : (s.tunnel side).Numbered
  intact : (s.pipeline side).Intact
  quiet : (s.reader side).m_queue = []
  whole : ∀ payload ∈ (s.wires side).sent, ∃ m : Message, payload = m.payload

/-- The payloads are messages an endpoint sends after the request of the handshake. -/
def Expected (side : Side) (payloads : List (List Byte)) : Prop :=
  ∀ payload ∈ payloads, ∃ m : Message, payload = m.payload ∧ m.Sendable side

/-- Both endpoints have the connections, in opposite roles. -/
structure Joined (s : System) : Prop where
  connected : ∀ r, s.ends .remoteSide = .remoteEnd r → r.m_state = .CONNECTED
  forth : ∀ x, (s.tunnel .localSide).listens x = (s.tunnel .remoteSide).connects x
  back : ∀ x, (s.tunnel .remoteSide).listens x = true → (s.tunnel .localSide).connects x = true
  hosts : ∀ side x spec listens, (s.tunnel side).kind? x = some (spec, listens) →
    spec.m_connect_host.length ≤ 50000000
  expected : ∀ side, Expected side (s.wires side).underWay

/-- The request lists the connections of the local endpoint. -/
structure Lists (t : StdioTunnel) (connections : List (Short × ConnectionSpec)) : Prop where
  few : connections.length ≤ 32767
  distinct : (connections.map Prod.fst).Nodup
  complete : ∀ x spec listens, t.kind? x = some (spec, listens) →
    ∃ id : Short, id.val = x ∧ (id, spec) ∈ connections
  known : ∀ c ∈ connections, t.kind? c.1.val =
    some (c.2, decide (c.2.m_connection_type = .CONNECT))
  directions : ∀ c ∈ connections, c.2.m_connection_type = .LISTEN ∨
    c.2.m_connection_type = .CONNECT

/-- The remote endpoint waits for the request of the handshake. -/
structure Greeting (s : System) : Prop where
  waiting : ∀ r, s.ends .remoteSide = .remoteEnd r → r.m_state = .HANDSHAKING
  empty : ∀ x, (s.tunnel .remoteSide).connection? x = none
  opened : (s.tunnel .remoteSide).os.opened = []
  silent : (s.wires .remoteSide).sent = []
  request : ∃ connections more,
    (s.wires .localSide).underWay = (Message.handshake connections).payload :: more ∧
      Lists (s.tunnel .localSide) connections ∧ Expected .localSide more

/-- The invariant. -/
structure Inv (s : System) : Prop where
  kinds : ∃ l r, s.ends .localSide = .localEnd l ∧ s.ends .remoteSide = .remoteEnd r
  healthy : ∀ side, s.Healthy side
  links : ∀ conn id, (s.link conn id).Safe
  stage : s.Greeting ∨ s.Joined

/-! ## Frames that are queued -/

theorem Healthy.ordered (healthy : s.Healthy side) : (s.wires side).Ordered := by
  obtain ⟨rest, part, inv⟩ := healthy.intact
  have length := congrArg List.length inv.sent
  change (s.wires side).sent.length = _ at length
  rw [List.length_append] at length
  unfold Wire.Ordered
  change (s.wires side).appended.length ≤ _
  rw [length]
  exact Nat.le_add_right _ _

theorem pipeline_acted_self {out : List (List Byte)}
    (writer : e.tunnel.m_write_stream = (s.tunnel side).m_write_stream.emitting out)
    (clean : (s.writer side).m_queue = []) :
    (s.acted side e).pipeline side =
      { s.pipeline side with
        writer := ⟨[], (s.writer side).m_packet_queue ++ out.map WritePacket.padded⟩
        sent := (s.wires side).sent ++ out } := by
  have wire := wires_acted_self writer
  unfold pipeline System.writer reader
  rw [tunnel_acted_self, tunnel_acted_other, wire, writer, ← clean]
  rfl

theorem pipeline_acted_other (reader : e.tunnel.m_read_stream = s.reader side) :
    (s.acted side e).pipeline side.other = s.pipeline side.other := by
  unfold pipeline System.writer System.reader
  rw [Side.other_other, tunnel_acted_self, tunnel_acted_other, wires_acted_other, reader]
  rfl

/-- An endpoint that queued messages stays healthy, and so does the other. -/
theorem acted_healthy (healthy : ∀ x, s.Healthy x) {out : List Message}
    (writer : e.tunnel.m_write_stream =
      (s.tunnel side).m_write_stream.emitting (out.map Message.payload))
    (sendable : ∀ m ∈ out, m.Sendable side) (reader : e.tunnel.m_read_stream = s.reader side)
    (sameSide : e.tunnel.side = side) (framed : e.Framed) (sound : e.tunnel.Sound)
    (numbered : e.tunnel.Numbered) (x : Side) : (s.acted side e).Healthy x := by
  have own := healthy side
  have clean : (s.writer side).m_queue = [] := own.sound.ready.fields
  by_cases here : x = side
  · rw [here]
    refine ⟨?_, ?_, ?_, ?_, ?_, ?_, ?_⟩
    · rw [tunnel_acted_self]
      exact sameSide
    · rw [ends_acted_self]
      exact framed
    · rw [tunnel_acted_self]
      exact sound
    · rw [tunnel_acted_self]
      exact numbered
    · rw [pipeline_acted_self writer clean]
      refine own.intact.steps (Pipeline.emits _ clean fun payload member => ?_)
      obtain ⟨m, inOut, rfl⟩ := List.mem_map.mp member
      exact ⟨m.payload_ne_nil, (sendable m inOut).small⟩
    · unfold System.reader
      rw [tunnel_acted_self, reader]
      exact own.quiet
    · rw [wires_acted_self writer]
      intro payload member
      rcases List.mem_append.mp member with old | new
      · exact own.whole payload old
      · obtain ⟨m, _, rfl⟩ := List.mem_map.mp new
        exact ⟨m, rfl⟩
  · have there : x = side.other := by
      cases x <;> cases side <;> first | rfl | exact absurd rfl here
    rw [there]
    have far := healthy side.other
    refine ⟨?_, ?_, ?_, ?_, ?_, ?_, ?_⟩
    · rw [tunnel_acted_other]
      exact far.sameSide
    · rw [ends_acted_other]
      exact far.framed
    · rw [tunnel_acted_other]
      exact far.sound
    · rw [tunnel_acted_other]
      exact far.numbered
    · rw [pipeline_acted_other reader]
      exact far.intact
    · unfold System.reader
      rw [tunnel_acted_other]
      exact far.quiet
    · rw [wires_acted_other]
      exact far.whole

/-! ## Frames that are read -/

def consumed (s : System) (side : Side) (got : List Byte) (stream : ReadStream) : System :=
  { s.filled side got stream with
    ends := Function.update s.ends side
      ((s.ends side).withTunnel ((s.tunnel side).withReader (stream.withQueue []))) }

section Consumed

variable {got : List Byte} {stream : ReadStream}

@[simp] theorem ends_consumed_self (s : System) (side : Side) (got : List Byte)
    (stream : ReadStream) : (s.consumed side got stream).ends side =
      (s.ends side).withTunnel ((s.tunnel side).withReader (stream.withQueue [])) :=
  Function.update_self side _ s.ends

@[simp] theorem tunnel_consumed_self (s : System) (side : Side) (got : List Byte)
    (stream : ReadStream) : (s.consumed side got stream).tunnel side =
      (s.tunnel side).withReader (stream.withQueue []) := by
  unfold tunnel
  rw [ends_consumed_self, Endpoint.tunnel_withTunnel]
  rfl

@[simp] theorem ends_consumed_other (s : System) (side : Side) (got : List Byte)
    (stream : ReadStream) : (s.consumed side got stream).ends side.other = s.ends side.other :=
  Function.update_of_ne side.other_ne _ s.ends

@[simp] theorem tunnel_consumed_other (s : System) (side : Side) (got : List Byte)
    (stream : ReadStream) :
    (s.consumed side got stream).tunnel side.other = s.tunnel side.other := by
  unfold tunnel
  rw [ends_consumed_other]

@[simp] theorem wires_consumed_self (s : System) (side : Side) (got : List Byte)
    (stream : ReadStream) : (s.consumed side got stream).wires side = s.wires side :=
  Function.update_of_ne (Side.ne_other side) _ s.wires

@[simp] theorem wires_consumed_other (s : System) (side : Side) (got : List Byte)
    (stream : ReadStream) : (s.consumed side got stream).wires side.other =
      (s.wires side.other).took got (s.reader side) stream :=
  Function.update_self side.other _ s.wires

/-- Acting after the fill is acting on the payload. -/
theorem acted_consumed (s : System) (side : Side) (got : List Byte) (stream : ReadStream)
    (e : Endpoint) : (s.consumed side got stream).acted side e =
      (s.filled side got stream).acted side e := by
  have writer : (s.consumed side got stream).writer side =
      (s.filled side got stream).writer side := by
    unfold System.writer
    rw [tunnel_consumed_self]
    rfl
  unfold acted
  rw [writer]
  unfold consumed
  dsimp only
  rw [Function.update_idem]
  rfl

theorem linkEnd_withReader (t : StdioTunnel) (stream : ReadStream) (c : Int) (i : Short) :
    (t.withReader stream).linkEnd c i = t.linkEnd c i := rfl

theorem half_consumed_self (c i : Short) :
    (s.consumed side got stream).half side c i = s.half side c i := by
  unfold half
  rw [tunnel_consumed_self, wires_consumed_self, linkEnd_withReader]

/-- What a fill leaves under way, and whether it completed a payload. -/
inductive Reads (s : System) (side : Side) (got : List Byte) (stream : ReadStream) : Prop where
  | part (queue : stream.m_queue = [])
      (underWay : ((s.consumed side got stream).wires side.other).underWay =
        (s.wires side.other).underWay)
  | whole (payload : List Byte) (queue : stream.m_queue = payload) (nonempty : payload ≠ [])
      (bounded : payload.length ≤ 50000000)
      (underWay : (s.wires side.other).underWay =
        payload :: ((s.consumed side got stream).wires side.other).underWay)

/-- A fill keeps both pipes intact and takes at most the oldest payload. -/
theorem reads_of_fill {poll_struct : Pollfd} {header body : SysResult (List Byte)}
    (healthy : ∀ x, s.Healthy x) (ready : poll_struct.revents = POLLIN)
    (reads : Pipeline.FillReads (s.reader side) (s.wires side.other).pipe header body got)
    (fills : (s.reader side).fill poll_struct header body = .ok stream) :
    Reads s side got stream ∧ ∀ x, ((s.consumed side got stream).pipeline x).Intact := by
  have far := healthy side.other
  have quiet := (healthy side).quiet
  have isReader : (s.pipeline side.other).reader = s.reader side := by
    unfold pipeline
    rw [Side.other_other]
  have pollin : poll_struct.revents.POLLIN = true := by rw [ready]; rfl
  have step := @Pipeline.Step.fill (s.pipeline side.other) _ header body
    got stream pollin (by rw [isReader]; exact reads)
    (by rw [isReader]; exact fills)
  have after := (far.intact.steps (.single step)).withQueue []
  constructor
  · obtain ⟨rest, part, inv⟩ := far.intact
    obtain ⟨next, more, rfl, nonempty, -, filled⟩ := inv.fill pollin (by rw [isReader]; exact reads)
    have underWay : (s.wires side.other).underWay = next :: more := by
      unfold Wire.underWay
      rw [show (s.wires side.other).sent = _ from inv.sent]
      exact List.drop_left
    rw [isReader] at filled
    cases filled.filled stream fills with
    | unfinished holds queue short =>
        refine .part (queue.trans quiet) ?_
        rw [wires_consumed_other]
        unfold Wire.took Wire.underWay
        dsimp only
        rw [if_pos queue]
    | finished done holds queue bounded =>
        rw [quiet, List.nil_append] at queue
        have grew : ¬ stream.m_queue = (s.reader side).m_queue := by
          rw [quiet, queue]
          exact nonempty
        refine .whole next queue nonempty bounded ?_
        rw [underWay, wires_consumed_other]
        unfold Wire.took Wire.underWay
        dsimp only
        rw [if_neg grew, show (s.wires side.other).sent = _ from inv.sent, List.length_append,
          List.length_singleton]
        congr 1
        change more = ((s.wires side.other).appended ++ next :: more).drop _
        rw [List.drop_append]
        simp
  · intro x
    by_cases here : x = side
    · rw [here]
      have same : (s.consumed side got stream).pipeline side = s.pipeline side := by
        unfold pipeline System.writer System.reader
        rw [tunnel_consumed_self, tunnel_consumed_other, wires_consumed_self]
        rfl
      rw [same]
      exact (healthy side).intact
    · have there : x = side.other := by
        cases x <;> cases side <;> first | rfl | exact absurd rfl here
      have same : (s.consumed side got stream).pipeline side.other =
          { s.pipeline side.other with
            reader := stream.withQueue []
            pipe := (s.wires side.other).pipe.drop got.length
            received := (s.wires side.other).received ++ got
            appended := ((s.wires side.other).took got (s.reader side) stream).appended } := by
        unfold pipeline System.writer System.reader
        rw [Side.other_other, tunnel_consumed_self, tunnel_consumed_other, wires_consumed_other]
        rfl
      rw [there, same]
      unfold Wire.took
      rw [isReader] at after
      exact after

/-- The endpoints stay healthy over a fill. -/
theorem consumed_healthy (healthy : ∀ x, s.Healthy x)
    (intact : ∀ x, ((s.consumed side got stream).pipeline x).Intact) (x : Side) :
    (s.consumed side got stream).Healthy x := by
  by_cases here : x = side
  · rw [here]
    have own := healthy side
    refine ⟨?_, ?_, ?_, ?_, intact side, ?_, ?_⟩
    · rw [tunnel_consumed_self]
      exact own.sameSide
    · rw [ends_consumed_self]
      exact own.framed.withTunnel _
    · rw [tunnel_consumed_self]
      exact own.sound.withReader _
    · rw [tunnel_consumed_self]
      exact own.numbered
    · unfold System.reader
      rw [tunnel_consumed_self]
      rfl
    · rw [wires_consumed_self]
      exact own.whole
  · have there : x = side.other := by
      cases x <;> cases side <;> first | rfl | exact absurd rfl here
    rw [there]
    have far := healthy side.other
    refine ⟨?_, ?_, ?_, ?_, intact side.other, ?_, ?_⟩
    · rw [tunnel_consumed_other]
      exact far.sameSide
    · rw [ends_consumed_other]
      exact far.framed
    · rw [tunnel_consumed_other]
      exact far.sound
    · rw [tunnel_consumed_other]
      exact far.numbered
    · unfold System.reader
      rw [tunnel_consumed_other]
      exact far.quiet
    · rw [wires_consumed_other]
      exact far.whole

end Consumed

end System

end Tun01
