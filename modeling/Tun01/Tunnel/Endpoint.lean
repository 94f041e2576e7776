import Tun01.Tunnel.Connection

/-!
# What both endpoints do

The results of system calls a dispatch may use, the creation of connections,
and the dispatch of links and listeners, which does not depend on the endpoint.
-/

namespace Tun01

/-- How far `ListenSide::initialize` gets. -/
inductive ListenResult where
  | noSocket
  | bindFailed (errno : Errno)
  | fcntlFailed
  | listenFailed
  | listening
  deriving DecidableEq, Repr

/-- The results of the system calls one dispatch may make. -/
structure Calls where
  /-- the `read` of a link -/
  read : SysResult (List Byte) := .fail .EAGAIN
  /-- the `write` of a link, a packet or a console buffer -/
  write : SysResult Nat := .ok 0
  /-- the reads of `SockBuffer::readData` -/
  reads : List (SysResult (List Byte)) := []
  /-- the two reads of `ReadStream::fill` -/
  header : SysResult (List Byte) := .fail .EAGAIN
  body : SysResult (List Byte) := .fail .EAGAIN
  accept : SysResult Unit := .ok ()
  fcntl : SysResult Unit := .ok ()
  connect : ConnectResult := .connected
  /-- the `write` of `remoteInit` -/
  command : SysResult Nat := .ok 0
  /-- what `daemon` throws, if it does -/
  daemon : Option Fault := none
  /-- `ListenSide::initialize` for the listeners of a handshake, by position -/
  listen : Nat → ListenResult := fun _ => .listening
  /-- `server_setup`, then `getsockname`, for the socks5 server -/
  server_setup : SysResult Int := .ok 0
  getsockname : Option Int := none

def STDIN_FD : Int := 0
def STDOUT_FD : Int := 1

/-- The branch of `polled` for one descriptor. -/
def onFd {σ : Type} (poll_struct : Pollfd) (fd : Int) (s : σ) (branch : Except Fault σ) :
    Except Fault σ :=
  if poll_struct.fd = fd then branch else .ok s

theorem onFd_self {σ : Type} {poll_struct : Pollfd} {fd : Int} (s : σ) (branch : Except Fault σ)
    (here : poll_struct.fd = fd) : onFd poll_struct fd s branch = branch := if_pos here

theorem onFd_of_ne {σ : Type} {poll_struct : Pollfd} {fd : Int} (s : σ) (branch : Except Fault σ)
    (other : poll_struct.fd ≠ fd) : onFd poll_struct fd s branch = .ok s := if_neg other

namespace StdioTunnel

/-- The part of `StdioTunnel` set by its constructor. -/
def fresh (side : Side) : StdioTunnel where
  side := side
  m_read_stream := .fresh
  m_write_stream := { toWriteStream := .fresh, m_poller := false, m_fd := 0 }
  m_closed_by_request := false
  m_poller := .fresh
  m_connection_map := .empty
  os := ⟨0, []⟩
  socks5_calls := []

def setShutdownByRequest (t : StdioTunnel) : StdioTunnel := { t with m_closed_by_request := true }

def requestFinish (t : StdioTunnel) : StdioTunnel := t.mapPoller fun p => p.requestFinish

/-- `m_connection_map[id] = pConn` -/
def putConnection (t : StdioTunnel) (id : Int) (conn : TunnelConnection) : StdioTunnel :=
  { t with m_connection_map := t.m_connection_map.insert id conn }

/-- The listening socket of `ListenSide::initialize`. -/
def listenSocket (t : StdioTunnel) (conn : Int) : StdioTunnel :=
  { t with os := ⟨t.os.next_socket + 1, t.os.trace ++ [.listening t.os.next_socket conn]⟩ }

/-- `TunnelConnection::CreateConnection` -/
def CreateConnection (t : StdioTunnel) (spec : ConnectionSpec) (is_local : Bool) (id : Int)
    (initialize_result : ListenResult) : Except Fault (StdioTunnel × Option TunnelConnection) :=
  if (is_local = true ∧ spec.m_connection_type = .CONNECT) ∨
      (is_local = false ∧ spec.m_connection_type = .LISTEN) then
    match initialize_result with
    | .noSocket => .ok (t, none)
    | .bindFailed errno => .error (.exceptionErrno errno)
    | .fcntlFailed | .listenFailed => .ok (t.listenSocket id, none)
    | .listening =>
        let socket := t.os.next_socket
        let t := t.listenSocket id
        .ok (t.addPolled (.listenSide id socket) socket POLLIN,
          some ⟨spec, id, .empty, .listenSide socket 501⟩)
  else
    .ok (t, some ⟨spec, id, .empty, .connectSide⟩)

/--
The dispatch of a listener, a link or the socks5 server.  A pointer whose object
is gone from the maps dangles, and the call through it is undefined.
-/
def polledObject (t : StdioTunnel) (polled : Polled) (poll_struct : Pollfd) (calls : Calls) :
    Except Fault StdioTunnel :=
  match polled with
  | .listenSide id socket =>
      match t.connection? id with
      | some conn =>
          match conn.role with
          | .listenSide m_listen_socket m_next_id =>
              if m_listen_socket = socket then
                t.listenPolled conn m_listen_socket m_next_id calls.accept calls.fcntl
              else
                .error (.undefinedBehaviour "dangling ListenSide")
          | .connectSide => .error (.undefinedBehaviour "dangling ListenSide")
      | none => .error (.undefinedBehaviour "dangling ListenSide")
  | .connectionLink id link_id socket =>
      match t.connection? id, t.link? id link_id with
      | some conn, some link =>
          if link.m_socket = socket then
            t.linkPolled conn link poll_struct.revents calls.read calls.write
          else
            .error (.undefinedBehaviour "dangling ConnectionLink")
      | _, _ => .error (.undefinedBehaviour "dangling ConnectionLink")
  -- its list of threads is no part of the tunnel
  | .socks5Server => .ok (t.serve (.accepts poll_struct.fd))
  | .stdioTunnel => .ok t

end StdioTunnel

end Tun01
