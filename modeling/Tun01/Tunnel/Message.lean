import Tun01.Net.WriteStream
import Tun01.Protocol.Link
import Tun01.Tunnel.Connection

/-!
# Link messages as frames

The payload of the frame each link message travels in, and the link and the
message a payload is about.
-/

namespace Tun01

open WriteStream (shortBytes)

/-- The `short` at the front of a payload. -/
def splitShort : List Byte → Option (Short × List Byte)
  | x :: y :: rest => some (Short.ofInt (x.toNat * 256 + y.toNat), rest)
  | _ => none

@[simp] theorem splitShort_shortBytes (s : Short) (rest : List Byte) :
    splitShort (shortBytes s ++ rest) = some (s, rest) := by
  have read := ReadStream.readShort_shortBytes .fresh s rest
  exact congrArg some (congrArg (fun pair => (pair.1, pair.2.m_queue)) (Except.ok.inj read))

@[simp] theorem splitShort_short (s : Short) : splitShort (shortBytes s) = some (s, []) :=
  splitShort_shortBytes s []

namespace LinkMessage

/-- The command of a message. -/
def command : LinkMessage → Short
  | create | created _ => LINK_CREATE
  | send _ => LINK_SEND
  | sendForAck _ => LINK_SEND_FOR_ACK
  | ack => LINK_ACK
  | close => LINK_CLOSE

def fields : LinkMessage → List Byte
  | create | ack | close => []
  | created success => shortBytes (if success then LINK_SUCCESS else LINK_FAILURE)
  | send bytes | sendForAck bytes => shortBytes (Short.ofInt bytes.length) ++ bytes

theorem command_ne_create {m : LinkMessage} (kind : m.traffic = true ∨ m = close) :
    m.command ≠ LINK_CREATE := by
  rcases kind with clean | rfl
  · cases m with
    | create | created _ | close => cases clean
    | send _ => exact (by decide : LINK_SEND ≠ LINK_CREATE)
    | sendForAck _ => exact (by decide : LINK_SEND_FOR_ACK ≠ LINK_CREATE)
    | ack => exact (by decide : LINK_ACK ≠ LINK_CREATE)
  · exact (by decide : LINK_CLOSE ≠ LINK_CREATE)

def encode (conn id : Short) (m : LinkMessage) : List Byte :=
  shortBytes CMD_CONNECTION ++
    (shortBytes conn ++ (shortBytes m.command ++ (shortBytes id ++ m.fields)))

/-- The message a command and its fields stand for. -/
def ofFields (command : Short) (fields : List Byte) : Option LinkMessage :=
  if command = LINK_CREATE then
    if fields = [] then some create
    else (splitShort fields).map fun result => created (decide (result.1 = LINK_SUCCESS))
  else if command = LINK_SEND then (splitShort fields).map fun length => send length.2
  else if command = LINK_SEND_FOR_ACK then
    (splitShort fields).map fun length => sendForAck length.2
  else if command = LINK_ACK then some ack
  else if command = LINK_CLOSE then some close
  else none

/-- The message a payload holds for a link. -/
def decode (conn id : Short) (payload : List Byte) : Option LinkMessage :=
  match splitShort payload with
  | none => none
  | some (command, rest) =>
      if command = CMD_CONNECTION then
        match splitShort rest with
        | none => none
        | some (conn', rest) =>
            match splitShort rest with
            | none => none
            | some (command, rest) =>
                match splitShort rest with
                | none => none
                | some (id', fields) =>
                    if conn' = conn ∧ id' = id then ofFields command fields else none
      else
        none

theorem ofFields_fields (m : LinkMessage) : ofFields m.command m.fields = some m := by
  cases m with
  | create => rfl
  | created success =>
      rw [command, fields, ofFields, if_pos rfl, if_neg (by simp [shortBytes]), splitShort_short]
      cases success <;> decide
  | send bytes =>
      rw [command, fields, ofFields, if_neg (by decide), if_pos rfl, splitShort_shortBytes]
      rfl
  | sendForAck bytes =>
      rw [command, fields, ofFields, if_neg (by decide), if_neg (by decide), if_pos rfl,
        splitShort_shortBytes]
      rfl
  | ack => rfl
  | close => rfl

theorem decode_encode (conn id conn' id' : Short) (m : LinkMessage) :
    decode conn id (encode conn' id' m) = if conn' = conn ∧ id' = id then some m else none := by
  unfold decode encode
  simp only [splitShort_shortBytes, ↓reduceIte, ofFields_fields]

@[simp] theorem decode_encode_self (conn id : Short) (m : LinkMessage) :
    decode conn id (encode conn id m) = some m := by
  rw [decode_encode, if_pos ⟨rfl, rfl⟩]

/-- A payload of another command is about no link. -/
theorem decode_of_command {command : Short} (other : command ≠ CMD_CONNECTION) (conn id : Short)
    (rest : List Byte) : decode conn id (shortBytes command ++ rest) = none := by
  unfold decode
  simp only [splitShort_shortBytes, if_neg other]

theorem encode_ne_nil (conn id : Short) (m : LinkMessage) : encode conn id m ≠ [] := by
  unfold encode shortBytes
  simp

def fits : LinkMessage → Bool
  | send bytes | sendForAck bytes => decide (bytes.length ≤ LINK_BUFFER_SIZE)
  | create | created _ | ack | close => true

end LinkMessage

/-! ## Messages between the endpoints -/

/-- A message that fills one frame. -/
inductive Message where
  | link (conn id : Short) (m : LinkMessage)
  | error (message : List Byte)
  /-- the request that starts the handshake, with the connections by identifier -/
  | handshake (connections : List (Short × ConnectionSpec))
  /-- the reply that ends it -/
  | agreed
  deriving DecidableEq

namespace Message

def connection (c : Short × ConnectionSpec) : List Byte := shortBytes c.1 ++ c.2.bytes

def payload : Message → List Byte
  | link conn id m => m.encode conn id
  | error message =>
      shortBytes CMD_ERROR ++ (WriteStream.longBytes message.length ++ message)
  | handshake connections =>
      shortBytes CMD_CREATE ++
        (shortBytes (Short.ofInt connections.length) ++ connections.flatMap connection)
  | agreed => shortBytes CMD_CREATE

def about (conn id : Short) : Message → Option LinkMessage
  | link conn' id' m => if conn' = conn ∧ id' = id then some m else none
  | error _ | handshake _ | agreed => none

@[simp] theorem decode_payload (conn id : Short) (m : Message) :
    LinkMessage.decode conn id m.payload = m.about conn id := by
  cases m with
  | link conn' id' m => exact LinkMessage.decode_encode conn id conn' id' m
  | error message => exact LinkMessage.decode_of_command (by decide) conn id _
  | handshake connections => exact LinkMessage.decode_of_command (by decide) conn id _
  | agreed =>
      have bare : shortBytes CMD_CREATE = shortBytes CMD_CREATE ++ [] :=
        (List.append_nil _).symm
      rw [payload, bare]
      exact LinkMessage.decode_of_command (by decide) conn id []

theorem payload_ne_nil (m : Message) : m.payload ≠ [] := by
  cases m with
  | link conn id m => exact LinkMessage.encode_ne_nil conn id m
  | error message => simp [payload, shortBytes]
  | handshake connections => simp [payload, shortBytes]
  | agreed => simp [payload, shortBytes]

/-- The messages of a link among payloads. -/
theorem filterMap_decode (conn id : Short) (messages : List Message) :
    (messages.map payload).filterMap (LinkMessage.decode conn id) =
      messages.filterMap (about conn id) := by
  rw [List.filterMap_map]
  exact List.filterMap_congr fun m _ => decode_payload conn id m

end Message

end Tun01
