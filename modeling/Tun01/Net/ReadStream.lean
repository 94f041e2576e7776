import Tun01.Net.Base
import Tun01.Net.WriteStream

/-!
# Incoming frames

`fill` collects one frame in `m_read_buf` over any number of reads and appends
its payload to `m_queue` when the last byte is there; the typed readers take
fields from the front of `m_queue`.  They carry no length check, so a read
from a queue that is too short is undefined behaviour.
-/

namespace Tun01

structure ReadStream where
  m_queue : List Byte
  m_read_buf : List Byte
  m_read_size : Nat
  m_read_count : Nat
  deriving DecidableEq, Repr

namespace ReadStream

def BUFFER_SIZE : Nat := 4096

def fresh : ReadStream :=
  ⟨[], List.replicate BUFFER_SIZE 0, BUFFER_SIZE, 0⟩

def available (rs : ReadStream) : Bool := !rs.m_queue.isEmpty

/-! ## Typed readers -/

/-- `m_queue.front()` and `m_queue.pop_front()`. -/
def popFront (rs : ReadStream) : Except Fault (Byte × ReadStream) :=
  match rs.m_queue with
  | [] => .error (.undefinedBehaviour "front of an empty queue")
  | x :: rest => .ok (x, { rs with m_queue := rest })

def readShort (rs : ReadStream) : Except Fault (Short × ReadStream) := do
  let (x, rs) ← rs.popFront
  let (y, rs) ← rs.popFront
  .ok (Short.ofInt (x.toNat * 256 + y.toNat), rs)

/-- The upper half of `result` is indeterminate and is cut by `ntohl`. -/
def readLong (rs : ReadStream) : Except Fault (Int × ReadStream) := do
  let (b0, rs) ← rs.popFront
  let (b1, rs) ← rs.popFront
  let (b2, rs) ← rs.popFront
  let (b3, rs) ← rs.popFront
  .ok (((ntohl (wordLE b0 b1 b2 b3)).toNat : Int), rs)

/-- The range `[begin, begin + length)` of the queue, copied and erased. -/
def takeRange (rs : ReadStream) (length : Int) : Except Fault (List Byte × ReadStream) :=
  if 0 ≤ length ∧ length ≤ rs.m_queue.length then
    .ok (rs.m_queue.take length.toNat, { rs with m_queue := rs.m_queue.drop length.toNat })
  else
    .error (.undefinedBehaviour "iterator outside the queue")

def readString (rs : ReadStream) : Except Fault (List Byte × ReadStream) := do
  let (length, rs) ← rs.readLong
  rs.takeRange length

def readBytes (rs : ReadStream) (length : Int) : Except Fault (List Byte × ReadStream) :=
  rs.takeRange length

/-! ## Filling -/

/-- `ntohl(*reinterpret_cast<long*>(m_read_buf))` -/
def length (rs : ReadStream) : Nat :=
  match rs.m_read_buf with
  | b0 :: b1 :: b2 :: b3 :: _ => (ntohl (wordLE b0 b1 b2 b3)).toNat
  | _ => 0

/-- Bytes that arrived from a read into `m_read_buf + m_read_count`. -/
def received (rs : ReadStream) (bytes : List Byte) : ReadStream :=
  { rs with
    m_read_buf := overwrite rs.m_read_buf rs.m_read_count bytes
    m_read_count := rs.m_read_count + bytes.length }

/-- The size of the first read of `fill`. -/
def headerRequest (rs : ReadStream) : Nat := 4 - rs.m_read_count

/-- The size of the second read of `fill`. -/
def bodyRequest (rs : ReadStream) : Nat := rs.length + 4 - rs.m_read_count

/-- The first read of `fill`: what is missing of the header. -/
def readHeader (rs : ReadStream) : SysResult (List Byte) → Except Fault ReadStream
  | .fail errno => .error (.exceptionErrno errno)
  | .ok [] => .error (.exception "End of file in ReadStream::fill")
  | .ok bytes => .ok (rs.received bytes)

/-- A larger array when the frame does not fit, with the bytes read so far. -/
def reserve (rs : ReadStream) : ReadStream :=
  if rs.length + 4 > rs.m_read_size then
    { rs with
      m_read_size := rs.length + 4
      m_read_buf := overwrite (List.replicate (rs.length + 4) 0) 0
        (rs.m_read_buf.take rs.m_read_count) }
  else
    rs

/-- A complete frame goes to the queue without its header. -/
def complete (rs : ReadStream) (length : Nat) : ReadStream :=
  if rs.m_read_count = length + 4 then
    { rs with
      m_queue := rs.m_queue ++ (rs.m_read_buf.take rs.m_read_count).drop 4
      m_read_count := 0 }
  else
    rs

/-- The part of `fill` that runs once the header is there. -/
def fillBody (rs : ReadStream) (read : SysResult (List Byte)) : Except Fault ReadStream :=
  if rs.length > 50000000 then
    .error (.exception "Bad read length")
  else
    match read with
    | .fail .EAGAIN => .ok (rs.reserve.complete rs.length)
    | .fail errno => .error (.exceptionErrno errno)
    | .ok bytes => .ok ((rs.reserve.received bytes).complete rs.length)

/-- `fill` with the results of the two reads it may make. -/
def fill (rs : ReadStream) (poll_struct : Pollfd) (header body : SysResult (List Byte)) :
    Except Fault ReadStream :=
  if poll_struct.revents.POLLIN then
    if rs.m_read_count < 4 then do
      let rs ← rs.readHeader header
      if rs.m_read_count < 4 then .ok rs else rs.fillBody body
    else
      rs.fillBody body
  else
    .ok rs

/-! ## What the readers return -/

def withQueue (rs : ReadStream) (queue : List Byte) : ReadStream :=
  { rs with m_queue := queue }

@[simp] theorem withQueue_queue (rs : ReadStream) (queue : List Byte) :
    (rs.withQueue queue).m_queue = queue := rfl

@[simp] theorem withQueue_self (rs : ReadStream) : rs.withQueue rs.m_queue = rs := rfl

@[simp] theorem readShort_shortBytes (rs : ReadStream) (s : Short) (rest : List Byte) :
    (rs.withQueue (WriteStream.shortBytes s ++ rest)).readShort = .ok (s, rs.withQueue rest) := by
  have lower := s.lower
  have upper := s.upper
  have value : Short.ofInt
      (((BitVec.ofInt 8 (s.val / 256)).toNat : Int) * 256 +
        ((BitVec.ofInt 8 (s.val % 256)).toNat : Int)) = s := by
    conv_rhs => rw [← Short.ofInt_val s]
    rw [Short.ofInt_eq_iff, BitVec.toNat_ofInt, BitVec.toNat_ofInt]
    omega
  change Except.ok (Short.ofInt _, rs.withQueue rest) = _
  rw [value]

@[simp] theorem readLong_longBytes (rs : ReadStream) {n : Nat} (small : n < 2 ^ 32)
    (rest : List Byte) :
    (rs.withQueue (WriteStream.longBytes n ++ rest)).readLong =
      .ok ((n : Int), rs.withQueue rest) := by
  let word : BitVec 32 := BitVec.ofInt 32 n
  have queue : WriteStream.longBytes (n : Int) ++ rest =
      byteAt word 3 :: byteAt word 2 :: byteAt word 1 :: byteAt word 0 :: rest := by
    rw [WriteStream.longBytes, bytesLE_htonl]
    rfl
  have value : ((ntohl (wordLE (byteAt word 3) (byteAt word 2) (byteAt word 1)
      (byteAt word 0))).toNat : Int) = n := by
    change ((ntohl (htonl word)).toNat : Int) = n
    rw [ntohl_htonl, BitVec.toNat_ofInt]
    omega
  rw [queue]
  change Except.ok (((ntohl (wordLE _ _ _ _)).toNat : Int), rs.withQueue rest) = _
  rw [value]

@[simp] theorem takeRange_append (rs : ReadStream) (bytes rest : List Byte) :
    (rs.withQueue (bytes ++ rest)).takeRange bytes.length = .ok (bytes, rs.withQueue rest) := by
  rw [takeRange, if_pos (by simp)]
  simp [withQueue]

@[simp] theorem readBytes_append (rs : ReadStream) (bytes rest : List Byte) :
    (rs.withQueue (bytes ++ rest)).readBytes bytes.length = .ok (bytes, rs.withQueue rest) :=
  takeRange_append rs bytes rest

@[simp] theorem readString_stringBytes (rs : ReadStream) {message : List Byte}
    (small : message.length < 2 ^ 32) (rest : List Byte) :
    (rs.withQueue (WriteStream.longBytes message.length ++ (message ++ rest))).readString =
      .ok (message, rs.withQueue rest) := by
  rw [readString, readLong_longBytes rs small]
  exact takeRange_append rs message rest

end ReadStream

end Tun01
