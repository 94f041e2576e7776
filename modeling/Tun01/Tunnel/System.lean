import Tun01.Lib.Run
import Tun01.Net.Framing
import Tun01.Tunnel.Dispatch
import Mathlib.Logic.Function.Basic

/-!
# Two endpoints and their pipes

Both endpoints with a pipe in each direction.  A step is one dispatch of one of
the pollers: writes to a pipe are cut short anywhere and reads from it return
any part of what it holds.  A wire also records the payloads its endpoint has
queued and the payloads the other endpoint has taken from it.
-/

namespace Tun01

def Side.other : Side → Side
  | .localSide => .remoteSide
  | .remoteSide => .localSide

@[simp] theorem Side.other_other (side : Side) : side.other.other = side := by
  cases side <;> rfl

@[simp] theorem Side.other_ne (side : Side) : side.other ≠ side := by
  cases side <;> exact fun no => by cases no

@[simp] theorem Side.ne_other (side : Side) : side ≠ side.other := (Side.other_ne side).symm

/-! ## Wires -/

/--
The pipe from an endpoint.  `sent` are the payloads of the frames it queued,
`appended` those of the frames the other endpoint has read completely, and
`received` the bytes the other endpoint has read.
-/
structure Wire where
  pipe : List Byte
  sent : List (List Byte)
  appended : List (List Byte)
  received : List Byte

def WritePacket.payload (p : WritePacket) : List Byte := p.m_buf.drop 4

@[simp] theorem WritePacket.payload_ofQueue (queue : List Byte) :
    (WritePacket.padded queue).payload = queue := by
  rw [payload, padded_buf]
  rfl

namespace Wire

def empty : Wire := ⟨[], [], [], []⟩

def queued (w : Wire) (before after : WriteStream) : Wire :=
  { w with
    sent := w.sent ++
      (after.m_packet_queue.drop before.m_packet_queue.length).map WritePacket.payload }

def gave (w : Wire) (taken : List Byte) : Wire := { w with pipe := w.pipe ++ taken }

/-- A fill of the other endpoint has read bytes. -/
def took (w : Wire) (got : List Byte) (before after : ReadStream) : Wire :=
  { w with
    pipe := w.pipe.drop got.length
    received := w.received ++ got
    appended :=
      if after.m_queue = before.m_queue then w.appended
      else w.appended ++ [after.m_queue.drop before.m_queue.length] }

def underWay (w : Wire) : List (List Byte) := w.sent.drop w.appended.length

end Wire

/-! ## Data that arrives -/

/-- The data frame at the front of a queue: its link and its bytes. -/
def dataFrame (queue : List Byte) : Option (Short × Short × List Byte) := do
  let (command, queue) ← splitShort queue
  let (conn, queue) ← splitShort queue
  let (link_command, queue) ← splitShort queue
  let (id, queue) ← splitShort queue
  let (length, queue) ← splitShort queue
  if command = CMD_CONNECTION ∧ (link_command = LINK_SEND ∨ link_command = LINK_SEND_FOR_ACK) then
    some (conn, id, queue.take length.val.toNat)
  else
    none

def StdioTunnel.arriving (t : StdioTunnel) : Option (Nat × List Byte) :=
  (dataFrame t.m_read_stream.m_queue).bind fun (conn, id, bytes) =>
    (t.link? conn.val id).map fun l => (l.m_socket, bytes)

def StdioTunnel.bring (t : StdioTunnel) (brought : Nat → List Byte) : Nat → List Byte :=
  match t.arriving with
  | some (socket, bytes) => Function.update brought socket (brought socket ++ bytes)
  | none => brought

/-! ## Steps -/

/-- `brought` are the bytes that data frames brought for each socket of an endpoint. -/
structure System where
  ends : Side → Endpoint
  wires : Side → Wire
  brought : Side → Nat → List Byte

namespace System

def tunnel (s : System) (side : Side) : StdioTunnel := (s.ends side).tunnel

def reader (s : System) (side : Side) : ReadStream := (s.tunnel side).m_read_stream

def writer (s : System) (side : Side) : WriteStream := (s.tunnel side).m_write_stream.toWriteStream

/-- An endpoint has changed and may have queued frames. -/
def acted (s : System) (side : Side) (e : Endpoint) : System :=
  { s with
    ends := Function.update s.ends side e
    wires := Function.update s.wires side
      ((s.wires side).queued (s.writer side) e.tunnel.m_write_stream.toWriteStream) }

/-- A fill has moved bytes from the pipe to an endpoint, which has not looked at them yet. -/
def filled (s : System) (side : Side) (got : List Byte) (stream : ReadStream) : System :=
  { s with
    wires := Function.update s.wires side.other
      ((s.wires side.other).took got (s.reader side) stream)
    brought := Function.update s.brought side
      (((s.tunnel side).withReader stream).bring (s.brought side)) }

/-- One dispatch of one endpoint. -/
inductive Step (s : System) : Side × Event → System → Prop where
  | object {side : Side} {event : Event} {e : Endpoint} (other : event.polled ≠ .stdioTunnel)
      (step : (s.ends side).Step event e) : Step s (side, event) (s.acted side e)
  | read {side : Side} {poll_struct : Pollfd} {calls : Calls} {got : List Byte}
      {stream : ReadStream} {e : Endpoint} (fd : poll_struct.fd = (s.ends side).readFd)
      (ready : poll_struct.revents = POLLIN)
      (reads : Pipeline.FillReads (s.reader side) (s.wires side.other).pipe calls.header
        calls.body got)
      (fills : (s.reader side).fill poll_struct calls.header calls.body = .ok stream)
      (step : (s.ends side).Step ⟨.stdioTunnel, poll_struct, calls⟩ e) :
      Step s (side, ⟨.stdioTunnel, poll_struct, calls⟩) ((s.filled side got stream).acted side e)
  | write {side : Side} {poll_struct after : Pollfd} {calls : Calls} {count : Nat}
      {stream : WriteStream} {taken : List Byte} {e : Endpoint}
      (fd : poll_struct.fd = (s.ends side).writeFd) (ready : poll_struct.revents = POLLOUT)
      (writes : calls.write = .ok count)
      (within : ∀ front rest, (s.writer side).m_packet_queue = front :: rest →
        count ≤ front.request)
      (empties : (s.writer side).empty poll_struct calls.write = .ok (stream, after, taken))
      (step : (s.ends side).Step ⟨.stdioTunnel, poll_struct, calls⟩ e) :
      Step s (side, ⟨.stdioTunnel, poll_struct, calls⟩)
        { s with
          ends := Function.update s.ends side e
          wires := Function.update s.wires side ((s.wires side).gave taken) }
  | console {side : Side} {poll_struct : Pollfd} {calls : Calls} {e : Endpoint}
      (notRead : poll_struct.fd ≠ (s.ends side).readFd)
      (notWrite : poll_struct.fd ≠ (s.ends side).writeFd)
      (step : (s.ends side).Step ⟨.stdioTunnel, poll_struct, calls⟩ e) :
      Step s (side, ⟨.stdioTunnel, poll_struct, calls⟩)
        { s with ends := Function.update s.ends side e }

/-- The two ends of one pipe. -/
def pipeline (s : System) (side : Side) : Pipeline where
  writer := s.writer side
  pipe := (s.wires side).pipe
  reader := s.reader side.other
  sent := (s.wires side).sent
  appended := (s.wires side).appended
  received := (s.wires side).received

end System

end Tun01
