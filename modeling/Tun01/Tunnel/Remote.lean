import Tun01.Tunnel.Endpoint

/-!
# The remote endpoint
-/

namespace Tun01

inductive RemoteState where
  | INITIAL
  | SET_STDIO_READ
  | HANDSHAKING
  | CONNECTED
  | SHUT_DOWN
  deriving DecidableEq, Repr

structure StdioTunnelRemote extends StdioTunnel where
  m_state : RemoteState
  /-- `m_socks5_server` is not null -/
  m_socks5_server : Bool

namespace StdioTunnelRemote

def fresh : StdioTunnelRemote where
  toStdioTunnel := .fresh .remoteSide
  m_state := .INITIAL
  m_socks5_server := false

def lift (r : StdioTunnelRemote) (f : StdioTunnel → StdioTunnel) : StdioTunnelRemote :=
  { r with toStdioTunnel := f r.toStdioTunnel }

def setPollfd (r : StdioTunnelRemote) : Except Fault (StdioTunnelRemote × Int × PollEvents) :=
  match r.m_state with
  | .INITIAL => .ok ({ r with m_state := .SET_STDIO_READ }, STDIN_FD, POLLIN)
  | .SET_STDIO_READ => .ok ({ r with m_state := .HANDSHAKING }, STDOUT_FD, .zero)
  | _ => .error (.exception "Bad state")

def addSelf (r : StdioTunnelRemote) : Except Fault StdioTunnelRemote := do
  let (r, fd, events) ← r.setPollfd
  .ok (r.lift fun t => t.addPolled .stdioTunnel fd events)

/-- `start` up to the polling loop, with the results of its `write` and `fcntl`. -/
def start (r : StdioTunnelRemote) (write fcntl : SysResult Unit) :
    Except Fault StdioTunnelRemote :=
  match write, fcntl with
  | .fail errno, _ => .error (.exceptionErrno errno)
  | .ok _, .fail errno => .error (.exceptionErrno errno)
  | .ok _, .ok _ => do
      let r := r.lift fun t =>
        { t with m_write_stream :=
            { t.m_write_stream with m_poller := true, m_fd := STDOUT_FD } }
      let r ← r.addSelf
      r.addSelf

/-- The socks5 server for a specification without host and port. -/
def setupSocks5 (r : StdioTunnelRemote) (spec : ConnectionSpec) (calls : Calls) :
    Except Fault (StdioTunnelRemote × ConnectionSpec) :=
  if spec.isSocks5 then
    if r.m_socks5_server then
      .error (.exception "should the only one socks5 connection")
    else
      match calls.server_setup, calls.fcntl, calls.getsockname with
      | .fail _, _, _ => .error (.exception "failed to starup socks5 server")
      | .ok _, .fail errno, _ => .error (.exceptionErrno errno)
      | .ok _, .ok _, none => .error (.exception "failed to get socks5 server port")
      | .ok fd, .ok _, some port =>
          .ok ({ r with
              m_socks5_server := true
              toStdioTunnel := r.toStdioTunnel.addPolled .socks5Server fd POLLIN },
            { spec with m_connect_host := text "localhost", m_connect_port := port })
  else
    .ok (r, spec)

/-- The loop over the specifications of the handshake; `i` is its counter. -/
def createConnections (r : StdioTunnelRemote) (calls : Calls) (i : Nat) :
    Nat → Except Fault StdioTunnelRemote
  | 0 => .ok r
  | remaining + 1 => do
      let (id, t) ← r.toStdioTunnel.readShort
      let (spec, stream) ← ConnectionSpec.deserialize t.m_read_stream
      let r := { r with toStdioTunnel := { t with m_read_stream := stream } }
      let (r, spec) ← r.setupSocks5 spec calls
      let (t, pConn) ← r.toStdioTunnel.CreateConnection spec false id.val (calls.listen i)
      let t :=
        match pConn with
        | some conn => t.putConnection id.val conn
        | none => t
      createConnections { r with toStdioTunnel := t } calls (i + 1) remaining

/-- What `polled` does with a frame, by state. -/
def processFrame (r : StdioTunnelRemote) (calls : Calls) : Except Fault StdioTunnelRemote := do
  let (command, t) ← r.toStdioTunnel.readShort
  let r := { r with toStdioTunnel := t }
  match r.m_state with
  | .HANDSHAKING =>
      if command ≠ CMD_CREATE then
        throw (.exception "Unexpected handshake command")
      let (count, t) ← r.toStdioTunnel.readShort
      let r ← createConnections { r with toStdioTunnel := t } calls 0 count.val.toNat
      let t ← (r.toStdioTunnel.writeShort CMD_CREATE).send
      return { r with m_state := .CONNECTED, toStdioTunnel := t }
  | .CONNECTED =>
      if command = CMD_SHUTDOWN then
        return r.lift fun t => t.requestFinish.setShutdownByRequest
      else if command ≠ CMD_CONNECTION then
        throw (.exception ("Unexpected command: " ++ toString command.val))
      else
        let (id, t) ← r.toStdioTunnel.readShort
        let t ← t.dispatchMessage id.val calls.connect
        return { r with toStdioTunnel := t }
  | _ => return r

/-- The branch of `polled` for standard input. -/
def polledStdin (r : StdioTunnelRemote) (poll_struct : Pollfd) (calls : Calls) :
    Except Fault StdioTunnelRemote := do
  if poll_struct.revents.failure then
    throw (.exception "Stdin closed")
  if poll_struct.revents.POLLIN then
    let stream ← r.m_read_stream.fill poll_struct calls.header calls.body
    let r := r.lift fun t => { t with m_read_stream := stream }
    if r.m_read_stream.available then r.processFrame calls else return r
  else
    throw (.exception "Bad poll")

/-- The branch of `polled` for standard output. -/
def polledStdout (r : StdioTunnelRemote) (poll_struct : Pollfd) (calls : Calls) :
    Except Fault StdioTunnelRemote :=
  if poll_struct.revents.POLLIN || poll_struct.revents.failure then
    .ok { r with m_state := .SHUT_DOWN, toStdioTunnel := r.toStdioTunnel.requestFinish }
  else do
    let (stream, poll_struct, _) ←
      r.m_write_stream.toWriteStream.empty poll_struct calls.write
    let r := r.lift fun t =>
      (t.mapWriter fun _ => stream).setEvents .stdioTunnel poll_struct.fd poll_struct.events
    if stream.pendingWrite then
      return r
    else
      return r.lift fun t => t.setEvents .stdioTunnel STDOUT_FD .zero

/-- `StdioTunnelRemote::polled` -/
def polled (r : StdioTunnelRemote) (poll_struct : Pollfd) (calls : Calls) :
    Except Fault StdioTunnelRemote := do
  let r ← onFd poll_struct STDIN_FD r (r.polledStdin poll_struct calls)
  onFd poll_struct STDOUT_FD r (r.polledStdout poll_struct calls)

/-- The dispatch of a registered object. -/
def dispatch (r : StdioTunnelRemote) (polled : Polled) (poll_struct : Pollfd) (calls : Calls) :
    Except Fault StdioTunnelRemote :=
  match polled with
  | .stdioTunnel => r.polled poll_struct calls
  | object => do
      let t ← r.toStdioTunnel.polledObject object poll_struct calls
      return { r with toStdioTunnel := t }

end StdioTunnelRemote

end Tun01
