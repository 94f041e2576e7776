import Tun01.Tunnel.State

/-!
# Connections and links

The handlers of `ConnectionLink`, `TunnelConnection`, `ListenSide` and
`ConnectSide`.  A handler takes the endpoint, the object it runs on, and the
results of the system calls it may make.
-/

namespace Tun01

/-- How far `ConnectSide` gets with a new connection to its host. -/
inductive ConnectResult where
  | hostNotFound
  | noSocket
  | connectFailed
  | fcntlFailed
  | connected
  deriving DecidableEq, Repr

namespace StdioTunnel

/-! ## ConnectionLink -/

def linkPointer (conn : TunnelConnection) (link : ConnectionLink) : Polled :=
  .connectionLink conn.m_id link.m_id link.m_socket

/-- `ConnectionLink::setAcknowledged` -/
def setAcknowledged (t : StdioTunnel) (conn : TunnelConnection) (link : ConnectionLink)
    (ack : Bool) : StdioTunnel × ConnectionLink :=
  let link := { link with m_acknowledged := ack }
  let t := t.putLink conn.m_id link
  if link.m_closing then
    (t, link)
  else
    (t.setEvents (linkPointer conn link) link.m_socket
      { POLLIN := link.m_acknowledged, POLLOUT := link.m_buffer.unsentData }, link)

/-- `ConnectionLink::setClosing` -/
def setClosing (t : StdioTunnel) (conn : TunnelConnection) (link : ConnectionLink) : StdioTunnel :=
  let t := t.putLink conn.m_id { link with m_closing := true }
  let t := t.log (.closed link.m_socket)
  t.removePolled (linkPointer conn link) link.m_socket

/-! ## TunnelConnection -/

def writeLinkHeader (t : StdioTunnel) (conn : TunnelConnection) (command id : Short) :
    StdioTunnel :=
  (((t.writeShort CMD_CONNECTION).writeShort (Short.ofInt conn.m_id)).writeShort
    command).writeShort id

/-- `TunnelConnection::closeLink` -/
def closeLink (t : StdioTunnel) (conn : TunnelConnection) (to_close : ConnectionLink) :
    Except Fault StdioTunnel :=
  if to_close.m_closing then
    .ok t
  else
    ((t.setClosing conn to_close).writeLinkHeader conn LINK_CLOSE to_close.m_id).send

/-- `TunnelConnection::sendData` -/
def sendData (t : StdioTunnel) (conn : TunnelConnection) (source : ConnectionLink)
    (bytes : List Byte) : Except Fault StdioTunnel :=
  (((t.writeLinkHeader conn (if conn.m_spec.ackPackets then LINK_SEND_FOR_ACK else LINK_SEND)
    source.m_id).writeShort (Short.ofInt bytes.length)).writeBytes bytes).send

/-- `TunnelConnection::receiveData` -/
def receiveData (t : StdioTunnel) (conn : TunnelConnection) (link : ConnectionLink) :
    Except Fault (StdioTunnel × ConnectionLink) := do
  let (length, t) ← t.readShort
  if length.val > LINK_BUFFER_SIZE then
    throw (.exception "Bad receive length")
  let (buffer, t) ← t.readBytes length.val
  if link.m_closing then
    return (t, link)
  else
    let link := { link with m_buffer := link.m_buffer.pushOnBuffer buffer length.val }
    let t := t.putLink conn.m_id link
    return (t.setEvents (linkPointer conn link) link.m_socket POLLOUT, link)

/-- `TunnelConnection::processLinkMessage` -/
def processLinkMessage (t : StdioTunnel) (conn : TunnelConnection) (command : Short)
    (link : ConnectionLink) : Except Fault StdioTunnel := do
  if command = LINK_SEND then
    let (t, _) ← t.receiveData conn link
    return t
  else if command = LINK_CLOSE then
    let t ← t.closeLink conn link
    return t.eraseLink conn.m_id link.m_id
  else if command = LINK_SEND_FOR_ACK then
    let (t, link) ← t.receiveData conn link
    if link.m_closing then
      -- the switch falls through to LINK_ACK
      return (t.setAcknowledged conn link true).1
    else
      (t.writeLinkHeader conn LINK_ACK link.m_id).send
  else if command = LINK_ACK then
    return (t.setAcknowledged conn link true).1
  else
    return t

/-! ## ConnectionLink::polled -/

/-- The body of the `POLLIN` branch; true when it closed the link and returned. -/
def linkRead (t : StdioTunnel) (conn : TunnelConnection) (link : ConnectionLink) :
    SysResult (List Byte) → Except Fault (StdioTunnel × ConnectionLink × Bool)
  | .fail _ | .ok [] => do
      let t ← t.closeLink conn link
      return (t, link, true)
  | .ok buffer => do
      let t := t.log (.received link.m_socket buffer)
      let t ← t.sendData conn link buffer
      if conn.m_spec.ackPackets then
        let (t, link) := t.setAcknowledged conn link false
        return (t, link, false)
      else
        return (t, link, false)

def linkPollIn (t : StdioTunnel) (conn : TunnelConnection) (link : ConnectionLink)
    (revents : PollEvents) (read : SysResult (List Byte)) :
    Except Fault (StdioTunnel × ConnectionLink × Bool) :=
  if revents.POLLIN then t.linkRead conn link read else .ok (t, link, false)

/-- The body of the `POLLOUT` branch. -/
def linkWrite (t : StdioTunnel) (conn : TunnelConnection) (link : ConnectionLink)
    (write : SysResult Nat) : Except Fault (StdioTunnel × ConnectionLink) := do
  let (m_buffer, result) := link.m_buffer.writeData write
  let written ← result
  let link := { link with m_buffer := m_buffer }
  let t := (t.putLink conn.m_id link).log (.sent link.m_socket written)
  if link.m_buffer.unsentData then
    return (t, link)
  else
    return (t.setEvents (linkPointer conn link) link.m_socket { POLLIN := link.m_acknowledged },
      link)

def linkPollOut (t : StdioTunnel) (conn : TunnelConnection) (link : ConnectionLink)
    (revents : PollEvents) (write : SysResult Nat) : Except Fault (StdioTunnel × ConnectionLink) :=
  if revents.POLLOUT then t.linkWrite conn link write else .ok (t, link)

/-- `ConnectionLink::polled` with the results of its `read` and `write`. -/
def linkPolled (t : StdioTunnel) (conn : TunnelConnection) (link : ConnectionLink)
    (revents : PollEvents) (read : SysResult (List Byte)) (write : SysResult Nat) :
    Except Fault StdioTunnel := do
  let (t, link, closed) ← t.linkPollIn conn link revents read
  if closed then
    return t
  let (t, link) ← t.linkPollOut conn link revents write
  if revents.failure then t.closeLink conn link else return t

/-- `ListenSide::processMessage` -/
def listenProcessMessage (t : StdioTunnel) (conn : TunnelConnection) :
    Except Fault StdioTunnel := do
  let (cmd, t) ← t.readShort
  let (link_id, t) ← t.readShort
  match t.link? conn.m_id link_id with
  | none => throw (.exception ("Link: " ++ toString link_id.val ++ " not found"))
  | some link =>
      if cmd = LINK_CREATE then
        let (result_code, t) ← t.readShort
        if result_code = LINK_SUCCESS then
          return t.addPolled (linkPointer conn link) link.m_socket POLLIN
        else
          return (t.log (.closed link.m_socket)).eraseLink conn.m_id link_id
      else
        t.processLinkMessage conn cmd link

/-- `m_next_id++`, an `int`. -/
def setNextId (t : StdioTunnel) (conn : TunnelConnection) (listen_socket : Nat) (next_id : Int) :
    StdioTunnel :=
  { t with
    m_connection_map :=
      t.m_connection_map.modify conn.m_id fun c =>
        { c with role := .listenSide listen_socket next_id } }

/-- `ListenSide::polled` with the results of `accept` and `fcntl`. -/
def listenPolled (t : StdioTunnel) (conn : TunnelConnection) (listen_socket : Nat)
    (m_next_id : Int) (accept fcntl : SysResult Unit) : Except Fault StdioTunnel :=
  match accept, fcntl with
  | .fail errno, _ => .error (.exceptionErrno errno)
  | .ok _, .fail errno => .error (.exceptionErrno errno)
  | .ok _, .ok _ =>
      let link_id := Short.ofInt m_next_id
      let link := ConnectionLink.create link_id t.os.next_socket
      let t := t.openSocket conn.m_id link_id
      let t := t.setNextId conn listen_socket (int32 (m_next_id + 1))
      let t := t.putLink conn.m_id link
      (t.writeLinkHeader conn LINK_CREATE link_id).send

/-! ## ConnectSide -/

/-- The attempt to connect, up to the reply; true for success. -/
def connectLink (t : StdioTunnel) (conn : TunnelConnection) (link_id : Short) :
    ConnectResult → Except Fault (StdioTunnel × Bool)
  | .hostNotFound => do
      let t ← t.reportError (conn.m_spec.m_connect_host ++ text " not found")
      return (t, false)
  | .noSocket => do
      let t ← t.reportError (text "Cannot create connect socket")
      return (t, false)
  | .connectFailed => do
      let connect_sock := t.os.next_socket
      let t ← (t.openSocket conn.m_id link_id).reportError
        (text "Failed to connect to " ++ conn.m_spec.m_connect_host)
      return (t.log (.closed connect_sock), false)
  | .fcntlFailed => do
      let connect_sock := t.os.next_socket
      let t ← (t.openSocket conn.m_id link_id).reportError
        (text "Failed to set connect socket non blocking")
      return (t.log (.closed connect_sock), false)
  | .connected =>
      let link := ConnectionLink.create link_id t.os.next_socket
      let t := t.openSocket conn.m_id link_id
      let t := t.addPolled (linkPointer conn link) link.m_socket POLLIN
      .ok (t.putLink conn.m_id link, true)

/-- `ConnectSide::processMessage` with the outcome of the connection attempt. -/
def connectProcessMessage (t : StdioTunnel) (conn : TunnelConnection) (connect : ConnectResult) :
    Except Fault StdioTunnel := do
  let (command, t) ← t.readShort
  let (link_id, t) ← t.readShort
  if command = LINK_CREATE then
    let (t, success) ← t.connectLink conn link_id connect
    ((t.writeLinkHeader conn LINK_CREATE link_id).writeShort
      (if success then LINK_SUCCESS else LINK_FAILURE)).send
  else
    match t.link? conn.m_id link_id with
    | none => return t
    | some link => t.processLinkMessage conn command link

/-- The virtual `processMessage`. -/
def processMessage (t : StdioTunnel) (conn : TunnelConnection) (connect : ConnectResult) :
    Except Fault StdioTunnel :=
  match conn.role with
  | .listenSide _ _ => t.listenProcessMessage conn
  | .connectSide => t.connectProcessMessage conn connect

/--
`m_connection_map[id]->processMessage(*this)`.  For an unknown id `operator[]`
inserts a null pointer, and the call goes through it.
-/
def dispatchMessage (t : StdioTunnel) (id : Int) (connect : ConnectResult) :
    Except Fault StdioTunnel :=
  match t.connection? id with
  | none => .error (.undefinedBehaviour "call through a null TunnelConnectionPtr")
  | some conn => t.processMessage conn connect

end StdioTunnel

end Tun01
