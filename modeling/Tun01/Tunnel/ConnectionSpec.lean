import Tun01.Net.ReadStream
import Mathlib.Data.Int.Bitwise

/-!
# Connection specifications

What a `-L` or `-R` argument asks for, its form on the wire, and the parser of
the argument text with the `getline` and `atoi` it is built on.
-/

namespace Tun01

/-- The unscoped enumeration; a peer may send any 16-bit value for it. -/
inductive Direction where
  | LISTEN
  | CONNECT
  | other (code : Short)
  deriving DecidableEq, Repr

namespace Direction

def toShort : Direction → Short
  | LISTEN => Short.ofInt 0
  | CONNECT => Short.ofInt 1
  | other code => code

/-- `(Direction)stream.readShort()` -/
def ofShort (code : Short) : Direction :=
  if code = Short.ofInt 0 then LISTEN
  else if code = Short.ofInt 1 then CONNECT
  else other code

end Direction

structure ConnectionSpec where
  m_connection_type : Direction
  m_connect_host : List Byte
  m_connect_port : Int
  m_listen_port : Int
  m_flags : Int
  deriving DecidableEq, Repr

namespace ConnectionSpec

/-- `m_flags & ACK_PACKETS`, bit 0 -/
def ackPackets (spec : ConnectionSpec) : Bool := spec.m_flags.testBit 0

/-- `m_flags & PROMISCUOUS`, bit 1 -/
def promiscuous (spec : ConnectionSpec) : Bool := spec.m_flags.testBit 1

def isSocks5 (spec : ConnectionSpec) : Bool :=
  decide (spec.m_connect_host.length = 0) && decide (spec.m_connect_port = 0)

/-- The argument of `htons`, a `uint16_t`. -/
def portBits (port : Int) : BitVec 16 := BitVec.ofInt 16 port

/-- The bytes `serialize` writes. -/
def serialize (spec : ConnectionSpec) (stream : WriteStream) : WriteStream :=
  ((((stream.writeShort spec.m_connection_type.toShort).writeString
    spec.m_connect_host).writeShort (Short.ofInt spec.m_connect_port)).writeShort
    (Short.ofInt spec.m_listen_port)).writeShort (Short.ofInt spec.m_flags)

def deserialize (stream : ReadStream) : Except Fault (ConnectionSpec × ReadStream) := do
  let (connection_type, stream) ← stream.readShort
  let (connect_host, stream) ← stream.readString
  let (connect_port, stream) ← stream.readShort
  let (listen_port, stream) ← stream.readShort
  let (flags, stream) ← stream.readShort
  .ok (⟨Direction.ofShort connection_type, connect_host, connect_port.val, listen_port.val,
    flags.val⟩, stream)

end ConnectionSpec

/-! ## Arguments -/

def colon : Byte := 58

/-- The fields of a text between separators, the last one included. -/
def splitAt (separator : Byte) : List Byte → List (List Byte)
  | [] => [[]]
  | c :: rest =>
      if c = separator then [] :: splitAt separator rest
      else
        match splitAt separator rest with
        | [] => [[c]]
        | field :: fields => (c :: field) :: fields

/--
The strings a `getline` loop returns.  At the end of the text it fails when it
has extracted nothing, so an empty last field is not returned.
-/
def getlines (separator : Byte) (input : List Byte) : List (List Byte) :=
  let fields := splitAt separator input
  if fields.getLast? = some [] then fields.dropLast else fields

/-- `isspace` in the C locale. -/
def isSpace (c : Byte) : Bool :=
  decide (c = 32) || (decide (9 ≤ c.toNat) && decide (c.toNat ≤ 13))

def isDigit (c : Byte) : Bool := decide (48 ≤ c.toNat) && decide (c.toNat ≤ 57)

def digitsValue (value : Nat) : List Byte → Nat
  | [] => value
  | c :: rest => if isDigit c then digitsValue (10 * value + (c.toNat - 48)) rest else value

/-- `strtol(text, NULL, 10)`, which saturates at the range of `long`. -/
def strtol (input : List Byte) : Int :=
  match input.dropWhile isSpace with
  | [] => 0
  | c :: rest =>
      if c = 45 then max (-9223372036854775808) (-(digitsValue 0 rest : Int))
      else if c = 43 then min 9223372036854775807 (digitsValue 0 rest)
      else min 9223372036854775807 (digitsValue 0 (c :: rest))

/-- `atoi` converts the result of `strtol` to `int`. -/
def atoi (input : List Byte) : Int := int32 (strtol input)

def showBytes (bytes : List Byte) : String :=
  String.ofList (bytes.map fun b => Char.ofNat b.toNat)

/-- `parseConnection`; the argument is a C string, without its terminator. -/
def parseConnection (direction : Direction) (arg : List Byte) : Except Fault ConnectionSpec := do
  let connect_params := getlines colon arg
  if connect_params.length ≠ 3 ∧ connect_params.length ≠ 4 then
    throw (.exception ("Bad connection argument: " ++ showBytes arg))
  let param (i : Nat) := connect_params.getD i []
  let listen_port := atoi (param 0)
  if listen_port ≤ 0 then
    throw (.exception ("Bad listen port: " ++ showBytes (param 0)))
  let connect_port := atoi (param 2)
  if connect_port < 0 then
    throw (.exception ("Bad connect port: " ++ showBytes (param 2)))
  if ((param 1).length = 0 ∧ connect_port ≠ 0) ∧ ((param 1).length > 0 ∧ connect_port = 0) then
    throw (.exception ("Bad connect host or port: " ++ showBytes (param 2)))
  let result : ConnectionSpec := ⟨direction, param 1, connect_port, listen_port, 0⟩
  if result.isSocks5 ∧ direction ≠ .CONNECT then
    throw (.exception "socks 5 can only on the remote side")
  if connect_params.length = 4 then
    let flags := if (97 : Byte) ∈ param 3 then result.m_flags.lor 1 else result.m_flags
    let flags := if (112 : Byte) ∈ param 3 then flags.lor 2 else flags
    return { result with m_flags := flags }
  return result

/-! ## The wire form -/

namespace ConnectionSpec

/-- The fields of a specification on the wire. -/
def bytes (spec : ConnectionSpec) : List Byte :=
  WriteStream.shortBytes spec.m_connection_type.toShort ++
    (WriteStream.longBytes spec.m_connect_host.length ++ (spec.m_connect_host ++
      (WriteStream.shortBytes (Short.ofInt spec.m_connect_port) ++
        (WriteStream.shortBytes (Short.ofInt spec.m_listen_port) ++
          WriteStream.shortBytes (Short.ofInt spec.m_flags)))))

theorem serialize_eq (spec : ConnectionSpec) (stream : WriteStream) :
    spec.serialize stream = stream.writeBytes spec.bytes := by
  simp only [serialize, bytes, WriteStream.writeString, WriteStream.writeLong,
    WriteStream.writeShort, WriteStream.writeBytes, List.append_assoc]

/-- What the other side reconstructs: the numbers come back as `short`s. -/
def received (spec : ConnectionSpec) : ConnectionSpec where
  m_connection_type := Direction.ofShort spec.m_connection_type.toShort
  m_connect_host := spec.m_connect_host
  m_connect_port := (Short.ofInt spec.m_connect_port).val
  m_listen_port := (Short.ofInt spec.m_listen_port).val
  m_flags := (Short.ofInt spec.m_flags).val

theorem deserialize_bytes (spec : ConnectionSpec) (stream : ReadStream)
    (small : spec.m_connect_host.length < 2 ^ 32) (rest : List Byte) :
    deserialize (stream.withQueue (spec.bytes ++ rest)) =
      .ok (spec.received, stream.withQueue rest) := by
  unfold deserialize bytes
  simp only [List.append_assoc, ReadStream.readShort_shortBytes, bind, Except.bind,
    ReadStream.readString_stringBytes stream small]
  rfl

/-- The 16 bits handed to `htons` survive the trip through a signed `short`. -/
theorem portBits_received (port : Int) : portBits (Short.ofInt port).val = portBits port := by
  apply BitVec.eq_of_toNat_eq
  rw [portBits, portBits, BitVec.toNat_ofInt, BitVec.toNat_ofInt, Short.val_ofInt]
  omega

/-- A port in `0..65535` comes back as zero only when it is zero. -/
theorem received_isSocks5 (spec : ConnectionSpec) (lower : 0 ≤ spec.m_connect_port)
    (upper : spec.m_connect_port ≤ 65535) : spec.received.isSocks5 = spec.isSocks5 := by
  have zero : (Short.ofInt spec.m_connect_port).val = 0 ↔ spec.m_connect_port = 0 := by
    rw [Short.val_ofInt]
    omega
  unfold isSocks5 received
  dsimp only
  rw [decide_eq_decide.mpr zero]

end ConnectionSpec

/-- What `parseConnection` guarantees of a specification it returns. -/
structure ConnectionSpec.Parsed (spec : ConnectionSpec) (wanted : Direction) : Prop where
  direction : spec.m_connection_type = wanted
  connect_port : 0 ≤ spec.m_connect_port
  listen_port : 0 < spec.m_listen_port
  flags : spec.m_flags = 0 ∨ spec.m_flags = 1 ∨ spec.m_flags = 2 ∨ spec.m_flags = 3
  socks5 : spec.isSocks5 = true → wanted = .CONNECT

theorem parseConnection_parsed {direction : Direction} {arg : List Byte} {spec : ConnectionSpec}
    (result : parseConnection direction arg = .ok spec) : spec.Parsed direction := by
  unfold parseConnection at result
  simp only [bind, Except.bind, throw, throwThe, MonadExceptOf.throw, pure, Except.pure] at result
  split at result
  · cases result
  · split at result
    · cases result
    · rename_i listen
      split at result
      · cases result
      · rename_i connect
        split at result
        · cases result
        · split at result
          · cases result
          · rename_i socks
            have socks5 : ∀ flags, (⟨direction, (getlines colon arg).getD 1 [],
                atoi ((getlines colon arg).getD 2 []), atoi ((getlines colon arg).getD 0 []),
                flags⟩ : ConnectionSpec).isSocks5 = true → direction = .CONNECT := by
              intro flags socks'
              by_contra other
              exact socks ⟨socks', other⟩
            split at result
            · have same := Except.ok.inj result
              subst same
              refine ⟨rfl, Int.not_lt.mp connect, Int.not_le.mp listen, ?_, socks5 _⟩
              dsimp only
              split <;> split <;> decide
            · have same := Except.ok.inj result
              subst same
              exact ⟨rfl, Int.not_lt.mp connect, Int.not_le.mp listen, Or.inl rfl, socks5 0⟩

end Tun01
