import Tun01.Net.Base

/-!
# Outgoing frames

`WriteStream` collects typed fields in `m_queue`; `send` turns them into one
packet, a four-byte big-endian length followed by the fields.  Packets leave
through short writes, one at most for each `POLLOUT`.
-/

namespace Tun01

structure WritePacket where
  m_buf : List Byte
  m_size : Nat
  m_written : Nat
  deriving DecidableEq, Repr

namespace WritePacket

/--
The stores of the constructor: the first index of each and its bytes.  The
length is stored through a `size_t*`, so eight bytes are written from index 0
on; the payload is then copied over the upper four.
-/
def stores (queue : List Byte) : List (Nat × List Byte) :=
  let m_size := queue.length + 4
  [(0, bytesLE (htonl (BitVec.ofNat 32 (m_size - 4))) ++ [0, 0, 0, 0]), (4, queue)]

/-- A store into an array, which must have its indices. -/
def store (m_buf : List Byte) (bytes : Nat × List Byte) : Except Fault (List Byte) :=
  if bytes.1 + bytes.2.length ≤ m_buf.length then
    .ok (overwrite m_buf bytes.1 bytes.2)
  else
    .error (.undefinedBehaviour "store past m_buf")

/-- The constructor, where `new char[m_size]` has got that many bytes. -/
def construct (allocated : Nat) (queue : List Byte) : Except Fault WritePacket := do
  let m_size := queue.length + 4
  let m_buf ← (stores queue).foldlM store (List.replicate allocated 0)
  .ok { m_buf := m_buf.take m_size, m_size := m_size, m_written := 0 }

def ofQueue (queue : List Byte) : Except Fault WritePacket :=
  construct (queue.length + 4) queue

/--
The packet where the allocator rounds `m_buf` up to a `size_t` at least: the
array then has every index stored to, also for a payload of less than four
bytes.  The program sends such payloads in every run, and goes on.
-/
def padded (queue : List Byte) : WritePacket :=
  let m_size := queue.length + 4
  let m_buf := (stores queue).foldl (fun m_buf bytes => overwrite m_buf bytes.1 bytes.2)
    (List.replicate (max 8 m_size) 0)
  { m_buf := m_buf.take m_size, m_size := m_size, m_written := 0 }

/-- The number of bytes `sendPacket` asks the kernel to take. -/
def request (p : WritePacket) : Nat := p.m_size - p.m_written

def unwritten (p : WritePacket) : List Byte := p.m_buf.drop p.m_written

/-- `sendPacket` with the result of its `write`; true when the packet is out. -/
def sendPacket (p : WritePacket) : SysResult Nat → Except Fault (WritePacket × Bool)
  | .fail errno => .error (.exceptionErrno errno)
  | .ok write_length =>
      let p := { p with m_written := p.m_written + write_length }
      .ok (p, p.m_written == p.m_size)

end WritePacket

structure WriteStream where
  m_queue : List Byte
  m_packet_queue : List WritePacket
  deriving DecidableEq, Repr

namespace WriteStream

def fresh : WriteStream := ⟨[], []⟩

def pendingWrite (ws : WriteStream) : Bool := !ws.m_packet_queue.isEmpty

def writeBytes (ws : WriteStream) (bytes : List Byte) : WriteStream :=
  { ws with m_queue := ws.m_queue ++ bytes }

/-- The two bytes of a `short`, high byte first. -/
def shortBytes (s : Short) : List Byte :=
  [BitVec.ofInt 8 (s.val / 256), BitVec.ofInt 8 (s.val % 256)]

def writeShort (ws : WriteStream) (s : Short) : WriteStream :=
  ws.writeBytes (shortBytes s)

/-- Four of the eight bytes of `htonl(s)`; the conversion keeps 32 bits of `s`. -/
def longBytes (s : Int) : List Byte :=
  (bytesLE (htonl (BitVec.ofInt 32 s)) ++ [0, 0, 0, 0]).take 4

def writeLong (ws : WriteStream) (s : Int) : WriteStream :=
  ws.writeBytes (longBytes s)

def writeString (ws : WriteStream) (message : List Byte) : WriteStream :=
  (ws.writeLong message.length).writeBytes message

/-- `send` with the array the constructor asks for. -/
def sendExact (ws : WriteStream) : Except Fault WriteStream :=
  if ws.m_queue.length > 0 then do
    let packet ← WritePacket.ofQueue ws.m_queue
    .ok { m_queue := [], m_packet_queue := ws.m_packet_queue ++ [packet] }
  else
    .ok ws

/-- `send` where the allocator rounds the array up. -/
def send (ws : WriteStream) : WriteStream :=
  if ws.m_queue.length > 0 then
    { m_queue := [], m_packet_queue := ws.m_packet_queue ++ [.padded ws.m_queue] }
  else
    ws

/--
`empty` with the result of the `write` it may make.  Besides the stream and
the poll record it returns the bytes the kernel took.
-/
def empty (ws : WriteStream) (poll_struct : Pollfd) (write : SysResult Nat) :
    Except Fault (WriteStream × Pollfd × List Byte) :=
  match ws.m_packet_queue with
  | [] => .ok (ws, poll_struct, [])
  | front :: rest =>
      if poll_struct.revents.POLLOUT then do
        let (sent, finished) ← front.sendPacket write
        let taken := front.unwritten.take (sent.m_written - front.m_written)
        let ws := { ws with m_packet_queue := if finished then rest else sent :: rest }
        let events :=
          if ws.pendingWrite then poll_struct.events
          else { poll_struct.events with POLLOUT := false }
        .ok (ws, { poll_struct with events := events }, taken)
      else
        .ok (ws, poll_struct, [])

end WriteStream

/-! ## Frames -/

def frameHeader (size : Nat) : List Byte := bytesLE (htonl (BitVec.ofNat 32 size))

def frame (payload : List Byte) : List Byte := frameHeader payload.length ++ payload

@[simp] theorem frameHeader_length (size : Nat) : (frameHeader size).length = 4 := rfl

theorem frameHeader_injective {n m : Nat} (small : n < 2 ^ 32) (small' : m < 2 ^ 32)
    (same : frameHeader n = frameHeader m) : n = m := by
  unfold frameHeader at same
  rw [bytesLE_htonl, bytesLE_htonl] at same
  obtain ⟨b3, same⟩ := List.cons.inj same
  obtain ⟨b2, same⟩ := List.cons.inj same
  obtain ⟨b1, same⟩ := List.cons.inj same
  obtain ⟨b0, _⟩ := List.cons.inj same
  have words : BitVec.ofNat 32 n = BitVec.ofNat 32 m := by
    rw [← wordLE_byteAt (BitVec.ofNat 32 n), b0, b1, b2, b3, wordLE_byteAt]
  have values := congrArg BitVec.toNat words
  rwa [BitVec.toNat_ofNat, BitVec.toNat_ofNat, Nat.mod_eq_of_lt small,
    Nat.mod_eq_of_lt small'] at values

@[simp] theorem frame_length (payload : List Byte) :
    (frame payload).length = payload.length + 4 := by
  rw [frame, List.length_append, frameHeader_length, Nat.add_comm]

namespace WritePacket

@[simp] theorem padded_size (queue : List Byte) :
    (padded queue).m_size = queue.length + 4 := rfl

@[simp] theorem padded_written (queue : List Byte) : (padded queue).m_written = 0 := rfl

/-- What the stores leave of an array with room for them starts with the frame. -/
theorem stored_frame (queue : List Byte) {array : List Byte} (word : 8 ≤ array.length)
    (payload : queue.length + 4 ≤ array.length) :
    ((stores queue).foldl (fun m_buf bytes => overwrite m_buf bytes.1 bytes.2) array).take
      (queue.length + 4) = frame queue := by
  let header := frameHeader queue.length
  have size : (overwrite array 0 (header ++ [0, 0, 0, 0])).length = array.length :=
    overwrite_length (Nat.zero_le _)
  have first : (overwrite array 0 (header ++ [0, 0, 0, 0])).take 4 = header := by
    rw [overwrite, List.take_take, Nat.min_eq_left (by omega)]
    rfl
  have second := @take_overwrite_end (overwrite array 0 (header ++ [0, 0, 0, 0])) queue 4 (by omega)
  rw [first, Nat.add_comm] at second
  exact second

/--
The array of a packet is the frame of its queue, whatever the eight-byte store
left above the header.
-/
@[simp] theorem padded_buf (queue : List Byte) : (padded queue).m_buf = frame queue :=
  stored_frame queue (by rw [List.length_replicate]; exact Nat.le_max_left _ _)
    (by rw [List.length_replicate]; exact Nat.le_max_right _ _)

/-- The constructor stays in its array if that has room for the word and the payload. -/
theorem construct_eq (allocated : Nat) (queue : List Byte) :
    construct allocated queue =
      if 8 ≤ allocated ∧ queue.length + 4 ≤ allocated then
        .ok (padded queue)
      else
        .error (.undefinedBehaviour "store past m_buf") := by
  let array := List.replicate allocated (0 : Byte)
  let word := frameHeader queue.length ++ [0, 0, 0, 0]
  have size : array.length = allocated := List.length_replicate
  have step : construct allocated queue = (do
      let m_buf ← store array (0, word)
      let m_buf ← store m_buf (4, queue)
      .ok ⟨m_buf.take (queue.length + 4), queue.length + 4, 0⟩) := by
    unfold construct
    change ((store array (0, word)).bind fun m_buf => (store m_buf (4, queue)).bind .ok).bind _ = _
    cases store array (0, word) with
    | error fault => rfl
    | ok m_buf =>
        change ((store m_buf (4, queue)).bind .ok).bind _ = (store m_buf (4, queue)).bind _
        cases store m_buf (4, queue) <;> rfl
  have header : (0, word).1 + (0, word).2.length = 8 := rfl
  have payload : (4, queue).1 + (4, queue).2.length = queue.length + 4 := Nat.add_comm _ _
  rw [step]
  unfold store
  rw [header, payload, size]
  by_cases room : 8 ≤ allocated
  · rw [if_pos room, ok_bind, overwrite_length (Nat.zero_le _), size]
    by_cases fits : queue.length + 4 ≤ allocated
    · rw [if_pos fits, if_pos ⟨room, fits⟩, ok_bind]
      have buf : (overwrite (overwrite array 0 word) 4 queue).take (queue.length + 4) =
          frame queue :=
        @stored_frame queue array (by rw [size]; exact room) (by rw [size]; exact fits)
      rw [buf, ← padded_buf]
      rfl
    · rw [if_neg fits, if_neg fun both => fits both.2]
      rfl
  · rw [if_neg room, if_neg fun both => room both.1]
    rfl

/-- The constructor stays in its array exactly if four bytes follow the header. -/
theorem ofQueue_eq (queue : List Byte) :
    ofQueue queue =
      if 4 ≤ queue.length then
        .ok (padded queue)
      else
        .error (.undefinedBehaviour "store past m_buf") := by
  unfold ofQueue
  rw [construct_eq]
  congr 1
  exact propext ⟨fun both => by omega, fun long => by omega⟩

@[simp] theorem padded_unwritten (queue : List Byte) :
    (padded queue).unwritten = frame queue := by
  rw [unwritten, padded_buf, padded_written, List.drop_zero]

end WritePacket

namespace WriteStream

@[simp] theorem shortBytes_length (s : Short) : (shortBytes s).length = 2 := rfl
@[simp] theorem longBytes_length (s : Int) : (longBytes s).length = 4 := rfl

@[simp] theorem writeBytes_queue (ws : WriteStream) (bytes : List Byte) :
    (ws.writeBytes bytes).m_queue = ws.m_queue ++ bytes := rfl

@[simp] theorem writeShort_queue (ws : WriteStream) (s : Short) :
    (ws.writeShort s).m_queue = ws.m_queue ++ shortBytes s := rfl

@[simp] theorem writeString_queue (ws : WriteStream) (message : List Byte) :
    (ws.writeString message).m_queue =
      ws.m_queue ++ (longBytes message.length ++ message) := by
  rw [writeString, writeLong, writeBytes_queue, writeBytes_queue, List.append_assoc]

/-- `send` moves a non-empty queue into one packet. -/
theorem send_of_nonempty {ws : WriteStream} (fields : ws.m_queue ≠ []) :
    ws.send = ⟨[], ws.m_packet_queue ++ [.padded ws.m_queue]⟩ := by
  rw [send, if_pos (List.length_pos_iff.mpr fields)]

/-- `send` is defined for payloads of at least four bytes. -/
theorem sendExact_eq {ws : WriteStream} (fields : ws.m_queue ≠ []) :
    ws.sendExact =
      if 4 ≤ ws.m_queue.length then
        .ok ws.send
      else
        .error (.undefinedBehaviour "store past m_buf") := by
  rw [sendExact, if_pos (List.length_pos_iff.mpr fields), WritePacket.ofQueue_eq,
    send_of_nonempty fields]
  split <;> rfl

@[simp] theorem send_queue (ws : WriteStream) : ws.send.m_queue = [] := by
  unfold send
  split
  · rfl
  · rename_i none
    exact List.length_eq_zero_iff.mp (Nat.eq_zero_of_not_pos none)

/-- Emptying the packets leaves the fields of the next message alone. -/
theorem empty_queue {ws ws' : WriteStream} {poll_struct after : Pollfd} {write : SysResult Nat}
    {taken : List Byte} (result : ws.empty poll_struct write = .ok (ws', after, taken)) :
    ws'.m_queue = ws.m_queue := by
  unfold empty at result
  split at result
  · cases result
    rfl
  · split at result
    · obtain ⟨⟨sent, finished⟩, _, result⟩ := of_bind_ok result
      cases result
      rfl
    · cases result
      rfl

end WriteStream

end Tun01
