import Tun01.Tunnel.Endpoint

/-!
# The local endpoint

Before the handshake `StdioTunnelLocal` copies its standard streams to and from
the child and looks for the magic string; afterwards the two pipes carry frames.
-/

namespace Tun01

inductive LocalState where
  | INITIAL
  | SET_STDIO_READ
  | SET_STDIO_WRITE
  | SET_PIPE_READ
  | PASS_THROUGH
  | HAND_SHAKE
  | CONNECTED
  | SHUT_DOWN
  deriving DecidableEq, Repr

structure MagicStringDetector extends SockBuffer where
  m_recognized_count : Nat
  m_magic_string : List Byte
  m_recognized_login_count : Nat
  m_login_pattern : List Byte
  m_remote_cmd : List Byte

/-- `m_command` is the rest of `argv` it points into, when it is set. -/
structure StdioTunnelLocal extends StdioTunnel where
  m_state : LocalState
  m_command : Option (List (List Byte))
  m_read_fd : Int
  m_write_fd : Int
  m_force_pipe : Bool
  m_expects_pipe : Bool
  m_connection_specs : List ConnectionSpec
  m_read_buffer : MagicStringDetector
  m_write_buffer : SockBuffer
  m_daemon : Bool
  m_silent : Bool

/-- `m_magic_string` as the constructor of `StdioTunnel` sets it. -/
def magicString : List Byte := text "STDIO_TUNNEL MAGIC" ++ text " HANDSHAKE --"

namespace StdioTunnelLocal

def fresh : StdioTunnelLocal where
  toStdioTunnel := .fresh .localSide
  m_state := .INITIAL
  m_command := none
  m_read_fd := -1
  m_write_fd := -1
  m_force_pipe := false
  m_expects_pipe := false
  m_connection_specs := []
  m_read_buffer := ⟨.fresh, 0, magicString, 0, [], []⟩
  m_write_buffer := .fresh
  m_daemon := false
  m_silent := false

def lift (l : StdioTunnelLocal) (f : StdioTunnel → StdioTunnel) : StdioTunnelLocal :=
  { l with toStdioTunnel := f l.toStdioTunnel }

/-! ## Arguments -/

end StdioTunnelLocal

/-- How a scan takes an argument it walks over. -/
inductive Word where
  | option
  /-- the separate argument of the option before it -/
  | value
  /-- `--` -/
  | terminator
  deriving DecidableEq, Repr

namespace StdioTunnelLocal

/-- The effect of one option of `configure` on the members and `socks5_spec_count`. -/
def applyOption (l : StdioTunnelLocal) (socks5_spec_count : Nat)
    (bindStatus : ConnectionSpec → Int) (option : Byte) (value : List Byte) :
    Except Fault (StdioTunnelLocal × Nat) :=
  if option = 82 then do
    let spec ← parseConnection .LISTEN value
    return ({ l with m_connection_specs := l.m_connection_specs ++ [spec] }, socks5_spec_count)
  else if option = 76 then do
    let spec ← parseConnection .CONNECT value
    if l.m_silent then
      if bindStatus spec < 0 then
        throw (.exceptionErrno (.other 0))
      if bindStatus spec = 1 then
        throw (.silent "Already run in background.")
    return ({ l with m_connection_specs := l.m_connection_specs ++ [spec] },
      if spec.isSocks5 then socks5_spec_count + 1 else socks5_spec_count)
  else if option = 84 then
    .ok ({ l with m_force_pipe := true }, socks5_spec_count)
  else if option = 116 then
    .ok ({ l with m_expects_pipe := true }, socks5_spec_count)
  else if option = 100 then
    .ok ({ l with m_daemon := true }, socks5_spec_count)
  else if option = 115 then
    .ok ({ l with m_silent := true }, socks5_spec_count)
  else if option = 112 then
    .ok ({ l with m_read_buffer := { l.m_read_buffer with m_login_pattern := value } },
      socks5_spec_count)
  else if option = 99 then
    .ok ({ l with m_read_buffer := { l.m_read_buffer with m_remote_cmd := value } },
      socks5_spec_count)
  else
    .ok (l, socks5_spec_count)

/-- The options `R`, `L`, `p` and `c` take a value. -/
def takesValue (option : Byte) : Bool :=
  option = 82 || option = 76 || option = 112 || option = 99

def took (words : List Word) (later : StdioTunnelLocal × Nat × List Word) :
    StdioTunnelLocal × Nat × List Word :=
  (later.1, later.2.1, words ++ later.2.2)

/--
The loop of `configure` over the arguments that are left.  Beside the members and
`socks5_spec_count` it returns how it took each argument that it has passed.
-/
def configureLoop (l : StdioTunnelLocal) (socks5_spec_count : Nat)
    (bindStatus : ConnectionSpec → Int) :
    List (List Byte) → Except Fault (StdioTunnelLocal × Nat × List Word)
  | [] => .ok (l, socks5_spec_count, [])
  | (45 :: 45 :: _) :: rest =>
      .ok ({ l with m_command := some rest }, socks5_spec_count, [.terminator])
  | (45 :: option :: attached) :: [] => do
      let (l, socks5_spec_count) ← l.applyOption socks5_spec_count bindStatus option attached
      (l.configureLoop socks5_spec_count bindStatus []).map (took [.option])
  | (45 :: option :: attached) :: next :: rest =>
      -- the value is the rest of the argument, or else the next one
      if attached = [] ∧ takesValue option = true then do
        let (l, socks5_spec_count) ← l.applyOption socks5_spec_count bindStatus option next
        (l.configureLoop socks5_spec_count bindStatus rest).map (took [.option, .value])
      else do
        let (l, socks5_spec_count) ← l.applyOption socks5_spec_count bindStatus option attached
        (l.configureLoop socks5_spec_count bindStatus (next :: rest)).map (took [.option])
  | arg :: rest => .ok ({ l with m_command := some (arg :: rest) }, socks5_spec_count, [])

/-- `configure`; the arguments are `argv[1]` and its successors. -/
def configure (l : StdioTunnelLocal) (bindStatus : ConnectionSpec → Int)
    (args : List (List Byte)) : Except Fault StdioTunnelLocal := do
  let (l, socks5_spec_count, _) ← l.configureLoop 0 bindStatus args
  if l.m_connection_specs.length = 0 then
    throw (.exception "No connections defined")
  if l.m_command = none ∨ l.m_command = some [] then
    throw (.exception "No connection command defined")
  if socks5_spec_count > 1 then
    throw (.exception "at most one socks 5 connection spec")
  return l

/-! ## Start -/

def setPollfd (l : StdioTunnelLocal) : Except Fault (StdioTunnelLocal × Int × PollEvents) :=
  match l.m_state with
  | .INITIAL => .ok ({ l with m_state := .SET_STDIO_READ }, STDIN_FD, POLLIN)
  | .SET_STDIO_READ => .ok ({ l with m_state := .SET_STDIO_WRITE }, STDOUT_FD, .zero)
  | .SET_STDIO_WRITE => .ok ({ l with m_state := .SET_PIPE_READ }, l.m_read_fd, POLLIN)
  | .SET_PIPE_READ => .ok ({ l with m_state := .PASS_THROUGH }, l.m_write_fd, .zero)
  | _ => .error (.exception "Bad state")

def addSelf (l : StdioTunnelLocal) : Except Fault StdioTunnelLocal := do
  let (l, fd, events) ← l.setPollfd
  .ok (l.lift fun t => t.addPolled .stdioTunnel fd events)

/--
The loop of `start` over the specifications.  `g_id` is the next identifier,
a `short`, and `i` the position in the list.
-/
def createConnections (l : StdioTunnelLocal) (calls : Calls) (g_id : Short) (i : Nat) :
    List ConnectionSpec → Except Fault StdioTunnelLocal
  | [] => .ok l
  | spec :: specs => do
      let (t, pConn) ← l.toStdioTunnel.CreateConnection spec true g_id.val (calls.listen i)
      let t :=
        match pConn with
        | some conn => t.putConnection conn.m_id conn
        | none => t
      createConnections { l with toStdioTunnel := t } calls (Short.ofInt (g_id.val + 1)) (i + 1)
        specs

/-- `start` in the parent up to the polling loop, with the pipes it obtained. -/
def start (l : StdioTunnelLocal) (read_fd write_fd : Int) (calls : Calls) :
    Except Fault StdioTunnelLocal := do
  let l := { l with m_read_fd := read_fd, m_write_fd := write_fd }
  let l ← l.createConnections calls (Short.ofInt 0) 0 l.m_connection_specs
  match calls.fcntl with
  | .fail errno => throw (.exceptionErrno errno)
  | .ok _ =>
      let l := l.lift fun t =>
        { t with m_write_stream :=
            { t.m_write_stream with m_poller := true, m_fd := write_fd } }
      let l ← l.addSelf
      let l ← l.addSelf
      let l ← l.addSelf
      l.addSelf

/-! ## The handshake -/

/-- One round of the loop of `startHandshaking`. -/
def writeConnection (t : StdioTunnel) (conn : TunnelConnection) : StdioTunnel :=
  (t.writeShort (Short.ofInt conn.m_id)).mapWriter conn.m_spec.serialize

def startHandshaking (l : StdioTunnelLocal) (calls : Calls) : Except Fault StdioTunnelLocal := do
  let l := { l with m_state := .HAND_SHAKE, m_write_buffer := l.m_write_buffer.clear }
  let t := l.toStdioTunnel.writeShort CMD_CREATE
  let t := t.writeShort (Short.ofInt l.m_connection_map.size)
  let t := (l.m_connection_map.entries.map Prod.snd).foldl writeConnection t
  let t ← t.send
  let l := { l with toStdioTunnel := t.removePolled .stdioTunnel STDIN_FD }
  if l.m_daemon then
    match calls.daemon with
    | some fault => throw fault
    | none => return l
  else
    return l

/-- `remoteInit`; after a short write `errno` is whatever it was. -/
def remoteInit (l : StdioTunnelLocal) (remote_cmd : List Byte) (write : SysResult Nat) :
    Except Fault StdioTunnelLocal :=
  match write with
  | .fail errno => .error (.exceptionErrno errno)
  | .ok count =>
      if count = (remote_cmd ++ text "\n").length then .ok l
      else .error (.exceptionErrno (.other 0))

def setDetector (l : StdioTunnelLocal) (f : MagicStringDetector → MagicStringDetector) :
    StdioTunnelLocal :=
  { l with m_read_buffer := f l.m_read_buffer }

/-- The part of `processReadData` that looks for the login prompt. -/
def detectLogin (l : StdioTunnelLocal) (c : Byte) (calls : Calls) :
    Except Fault StdioTunnelLocal :=
  let d := l.m_read_buffer
  let count := d.m_recognized_login_count
  if 0 < d.m_remote_cmd.length ∧ count < d.m_login_pattern.length ∧
      c = d.m_login_pattern.getD count 0 then
    let l := l.setDetector fun d => { d with m_recognized_login_count := count + 1 }
    if count + 1 ≥ d.m_login_pattern.length then
      l.remoteInit d.m_remote_cmd calls.command
    else
      .ok l
  else if count < d.m_login_pattern.length then
    .ok (l.setDetector fun d => { d with m_recognized_login_count := 0 })
  else
    .ok l

/-- `MagicStringDetector::processReadData` -/
def processReadData (l : StdioTunnelLocal) (calls : Calls) :
    List Byte → Except Fault StdioTunnelLocal
  | [] => .ok l
  | c :: rest => do
      let d := l.m_read_buffer
      let count := d.m_recognized_count
      -- one past the end of a string is its terminator
      if count > d.m_magic_string.length then
        throw (.undefinedBehaviour "m_magic_string index out of range")
      if c = d.m_magic_string.getD count 0 then
        let l := l.setDetector fun d => { d with m_recognized_count := count + 1 }
        if count + 1 ≥ d.m_magic_string.length then
          l.startHandshaking calls
        else
          let l ← l.detectLogin c calls
          l.processReadData calls rest
      else
        let l := l.setDetector fun d => { d with m_recognized_count := 0 }
        let l ← l.detectLogin c calls
        l.processReadData calls rest

/-- The loop of `m_read_buffer.readData` with its `processReadData`. -/
def detectLoop (l : StdioTunnelLocal) (read_total : Int) (calls : Calls) :
    List (SysResult (List Byte)) → Except Fault (StdioTunnelLocal × Int)
  | [] => .ok (l, read_total)
  | .fail errno :: _ =>
      if errno = .EAGAIN ∨ errno = .EHOSTUNREACH ∨ errno = .ECONNRESET then .ok (l, read_total)
      else .error (.exceptionErrno errno)
  | .ok bytes :: reads => do
      let l ← l.processReadData calls bytes
      let l := l.setDetector fun d => { d with toSockBuffer := d.toSockBuffer.insert bytes }
      let read_total ← SockBuffer.addCount read_total bytes.length
      if bytes.length = SockBuffer.BUFFER_SIZE then
        l.detectLoop read_total calls reads
      else
        return (l, read_total)

/-- `m_read_buffer.readData`: the members and the number of bytes read -/
def readDetected (l : StdioTunnelLocal) (calls : Calls) (reads : List (SysResult (List Byte))) :
    Except Fault (StdioTunnelLocal × Int) :=
  l.detectLoop 0 calls reads

/-! ## Dispatch -/

/-- `m_read_buffer.writeData(STDOUT_FD)` -/
def writeDetected (l : StdioTunnelLocal) (calls : Calls) : Except Fault StdioTunnelLocal := do
  let (buffer, result) := l.m_read_buffer.toSockBuffer.writeData calls.write
  let _ ← result
  return l.setDetector fun d => { d with toSockBuffer := buffer }

/-- `m_write_buffer.writeData(m_write_fd)` -/
def writeTyped (l : StdioTunnelLocal) (calls : Calls) : Except Fault StdioTunnelLocal := do
  let (buffer, result) := l.m_write_buffer.writeData calls.write
  let _ ← result
  return { l with m_write_buffer := buffer }

def passRead (l : StdioTunnelLocal) (calls : Calls) : Except Fault StdioTunnelLocal := do
  let (l, count) ← l.readDetected calls calls.reads
  if count = 0 then
    throw (.exception "Read side closed")
  if l.m_read_buffer.unsentData then
    return l.lift fun t => t.setEvents .stdioTunnel STDOUT_FD POLLOUT
  else
    return l

def passWrite (l : StdioTunnelLocal) (poll_struct : Pollfd) (calls : Calls) :
    Except Fault StdioTunnelLocal := do
  if poll_struct.revents.POLLOUT then
    let l ← l.writeTyped calls
    if l.m_write_buffer.unsentData then
      return l
    else
      return l.lift fun t => t.setEvents .stdioTunnel l.m_write_fd .zero
  else
    throw (.exception "unexpected revents in write to pipe")

def passStdin (l : StdioTunnelLocal) (calls : Calls) : Except Fault StdioTunnelLocal := do
  let (buffer, count) ← l.m_write_buffer.readData calls.reads
  let l := { l with m_write_buffer := buffer }
  if count = 0 then
    throw (.exception "Stdin closed")
  if l.m_write_buffer.unsentData then
    return l.lift fun t => t.setEvents .stdioTunnel l.m_write_fd POLLOUT
  else
    return l

def passStdout (l : StdioTunnelLocal) (poll_struct : Pollfd) (calls : Calls) :
    Except Fault StdioTunnelLocal := do
  if poll_struct.revents.POLLOUT then
    let l ← l.writeDetected calls
    if l.m_read_buffer.unsentData then
      return l
    else
      return l.lift fun t => t.setEvents .stdioTunnel STDOUT_FD .zero
  else
    throw (.exception "unexpected revents")

/-- The arm of `polled` for `PASS_THROUGH`. -/
def polledPassThrough (l : StdioTunnelLocal) (poll_struct : Pollfd) (calls : Calls) :
    Except Fault StdioTunnelLocal := do
  let l ← onFd poll_struct l.m_read_fd l (l.passRead calls)
  let l ← onFd poll_struct l.m_write_fd l (l.passWrite poll_struct calls)
  let l ← onFd poll_struct STDIN_FD l (l.passStdin calls)
  onFd poll_struct STDOUT_FD l (l.passStdout poll_struct calls)

/-- What `polled` does with a frame. -/
def processFrame (l : StdioTunnelLocal) (calls : Calls) : Except Fault StdioTunnelLocal := do
  let (cmd, t) ← l.toStdioTunnel.readShort
  let l := { l with toStdioTunnel := t }
  if cmd = CMD_ERROR then
    let (message, t) ← l.toStdioTunnel.readString
    let t ← t.reportError message
    return { l with toStdioTunnel := t }
  else if cmd = CMD_CREATE then
    return { l with m_state := .CONNECTED }
  else if cmd = CMD_CONNECTION then
    let (id, t) ← l.toStdioTunnel.readShort
    let t ← t.dispatchMessage id.val calls.connect
    return { l with toStdioTunnel := t }
  else if cmd = CMD_SHUTDOWN then
    return l.lift fun t => t.requestFinish.setShutdownByRequest
  else
    return l

def connectedRead (l : StdioTunnelLocal) (poll_struct : Pollfd) (calls : Calls) :
    Except Fault StdioTunnelLocal := do
  if poll_struct.revents.failure then
    throw (.exception "Read pipe closed/invalid")
  let stream ← l.m_read_stream.fill poll_struct calls.header calls.body
  let l := l.lift fun t => { t with m_read_stream := stream }
  if l.m_read_stream.available then l.processFrame calls else return l

def connectedWrite (l : StdioTunnelLocal) (poll_struct : Pollfd) (calls : Calls) :
    Except Fault StdioTunnelLocal := do
  if poll_struct.revents.failure then
    throw (.exception "Write pipe closed/invalid")
  let (stream, poll_struct, _) ← l.m_write_stream.toWriteStream.empty poll_struct calls.write
  let l := l.lift fun t =>
    (t.mapWriter fun _ => stream).setEvents .stdioTunnel poll_struct.fd poll_struct.events
  if stream.pendingWrite then
    return l
  else
    return l.lift fun t => t.setEvents .stdioTunnel l.m_write_fd .zero

def connectedStdout (l : StdioTunnelLocal) (calls : Calls) : Except Fault StdioTunnelLocal :=
  if l.m_read_buffer.unsentData then
    l.writeDetected calls
  else
    .ok (l.lift fun t => t.removePolled .stdioTunnel STDOUT_FD)

/-- The arm of `polled` for `HAND_SHAKE` and `CONNECTED`. -/
def polledConnected (l : StdioTunnelLocal) (poll_struct : Pollfd) (calls : Calls) :
    Except Fault StdioTunnelLocal := do
  let l ← onFd poll_struct l.m_read_fd l (l.connectedRead poll_struct calls)
  let l ← onFd poll_struct l.m_write_fd l (l.connectedWrite poll_struct calls)
  onFd poll_struct STDOUT_FD l (l.connectedStdout calls)

/-- `StdioTunnelLocal::polled` -/
def polled (l : StdioTunnelLocal) (poll_struct : Pollfd) (calls : Calls) :
    Except Fault StdioTunnelLocal :=
  match l.m_state with
  | .PASS_THROUGH => l.polledPassThrough poll_struct calls
  | .HAND_SHAKE | .CONNECTED => l.polledConnected poll_struct calls
  | _ => .ok l

/-- The dispatch of a registered object. -/
def dispatch (l : StdioTunnelLocal) (polled : Polled) (poll_struct : Pollfd) (calls : Calls) :
    Except Fault StdioTunnelLocal :=
  match polled with
  | .stdioTunnel => l.polled poll_struct calls
  | object => do
      let t ← l.toStdioTunnel.polledObject object poll_struct calls
      return { l with toStdioTunnel := t }

end StdioTunnelLocal

end Tun01
