import Tun01.Net.ReadStream

/-!
# Sequences of typed fields

The writers of `WriteStream` and the readers of `ReadStream` under one type of
fields.  A field carries the range its writer is called with: a `long` holds an
unsigned 32-bit value and a string has a length of 32 bits.
-/

namespace Tun01

/-- A value given to one of the writers. -/
inductive Field where
  | short (s : Short)
  | long (n : Int) (lower : 0 ≤ n) (upper : n < 2 ^ 32)
  | string (message : List Byte) (small : message.length < 2 ^ 32)
  | bytes (buffer : List Byte)
  deriving DecidableEq

/-- The reader a field is read with; `readBytes` is told how many bytes to take. -/
inductive FieldType where
  | short
  | long
  | string
  | bytes (length : Int)
  deriving DecidableEq

/-- What a reader returns. -/
inductive FieldValue where
  | short (s : Short)
  | long (n : Int)
  | string (message : List Byte)
  | bytes (buffer : List Byte)
  deriving DecidableEq

namespace Field

def type : Field → FieldType
  | short _ => .short
  | long _ _ _ => .long
  | string _ _ => .string
  | bytes buffer => .bytes buffer.length

def value : Field → FieldValue
  | short s => .short s
  | long n _ _ => .long n
  | string message _ => .string message
  | bytes buffer => .bytes buffer

/-- The call of the writer for a field. -/
def write (ws : WriteStream) : Field → WriteStream
  | short s => ws.writeShort s
  | long n _ _ => ws.writeLong n
  | string message _ => ws.writeString message
  | bytes buffer => ws.writeBytes buffer

def writeAll (ws : WriteStream) (fields : List Field) : WriteStream := fields.foldl write ws

/-- The bytes a field adds to the queue. -/
def encoding : Field → List Byte
  | short s => WriteStream.shortBytes s
  | long n _ _ => WriteStream.longBytes n
  | string message _ => WriteStream.longBytes message.length ++ message
  | bytes buffer => buffer

@[simp] theorem write_queue (ws : WriteStream) (field : Field) :
    (field.write ws).m_queue = ws.m_queue ++ field.encoding := by
  cases field with
  | short s => exact WriteStream.writeShort_queue ws s
  | long n lower upper => exact WriteStream.writeBytes_queue ws _
  | string message small => exact WriteStream.writeString_queue ws message
  | bytes buffer => exact WriteStream.writeBytes_queue ws buffer

@[simp] theorem writeAll_queue (ws : WriteStream) (fields : List Field) :
    (writeAll ws fields).m_queue = ws.m_queue ++ fields.flatMap encoding := by
  induction fields generalizing ws with
  | nil => simp [writeAll]
  | cons field rest ih =>
      have first := write_queue ws field
      change (writeAll (field.write ws) rest).m_queue = _
      rw [ih, first, List.flatMap_cons, List.append_assoc]

end Field

namespace FieldType

/-- The call of the reader for a type. -/
def read (rs : ReadStream) : FieldType → Except Fault (FieldValue × ReadStream)
  | short => do
      let (s, rs) ← rs.readShort
      return (.short s, rs)
  | long => do
      let (n, rs) ← rs.readLong
      return (.long n, rs)
  | string => do
      let (message, rs) ← rs.readString
      return (.string message, rs)
  | bytes length => do
      let (buffer, rs) ← rs.readBytes length
      return (.bytes buffer, rs)

/-- The calls of the readers, in order. -/
def readAll (rs : ReadStream) : List FieldType → Except Fault (List FieldValue × ReadStream)
  | [] => .ok ([], rs)
  | type :: types => do
      let (value, rs) ← type.read rs
      let (values, rs) ← readAll rs types
      return (value :: values, rs)

/-- A reader returns the value its writer was called with and takes just its bytes. -/
theorem read_encoding (rs : ReadStream) (field : Field) (rest : List Byte) :
    field.type.read (rs.withQueue (field.encoding ++ rest)) =
      .ok (field.value, rs.withQueue rest) := by
  cases field with
  | short s =>
      have found := rs.readShort_shortBytes s rest
      simp only [Field.type, Field.encoding, read, found, ok_bind]
      rfl
  | long n lower upper =>
      obtain ⟨m, rfl⟩ := Int.eq_ofNat_of_zero_le lower
      have found := rs.readLong_longBytes (n := m) (by omega) rest
      simp only [Field.type, Field.encoding, read, found, ok_bind]
      rfl
  | string message small =>
      have found := rs.readString_stringBytes small rest
      simp only [Field.type, Field.encoding, read, List.append_assoc, found, ok_bind]
      rfl
  | bytes buffer =>
      have found := rs.readBytes_append buffer rest
      simp only [Field.type, Field.encoding, read, found, ok_bind]
      rfl

/--
Fields that were written to a stream between two messages are read back in
order, and the bytes behind them stay in the queue.
-/
theorem readAll_writeAll (fields : List Field) (packets : List WritePacket) (rs : ReadStream)
    (further : List Byte) :
    readAll (rs.withQueue ((Field.writeAll ⟨[], packets⟩ fields).m_queue ++ further))
        (fields.map Field.type) =
      .ok (fields.map Field.value, rs.withQueue further) := by
  rw [Field.writeAll_queue, List.nil_append]
  induction fields with
  | nil => simp [readAll]
  | cons field rest ih =>
      have first := read_encoding rs field (rest.flatMap Field.encoding ++ further)
      rw [List.flatMap_cons, List.append_assoc, List.map_cons, List.map_cons, readAll, first,
        ok_bind]
      dsimp only
      rw [ih, ok_bind]
      rfl

end FieldType

end Tun01
