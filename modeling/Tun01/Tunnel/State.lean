import Tun01.Lib.OrderedMap
import Tun01.Net.Poller
import Tun01.Net.SockBuffer
import Tun01.Tunnel.ConnectionSpec

/-!
# The state of an endpoint

Links, connections and the part of `StdioTunnel` both endpoints share.  Links
live in the maps of their connections; the poller holds pointers to them, here
the place of the link and its socket, so a pointer to a link that was erased
or replaced can be told from one to a live link.  `os` records the calls made
on sockets.
-/

namespace Tun01

/-! ## Codes -/

def CMD_ERROR : Short := Short.ofInt 401
def CMD_CREATE : Short := Short.ofInt 402
def CMD_CONNECTION : Short := Short.ofInt 403
def CMD_SHUTDOWN : Short := Short.ofInt 404

def LINK_CREATE : Short := Short.ofInt 387
def LINK_SEND : Short := Short.ofInt 388
def LINK_CLOSE : Short := Short.ofInt 389
def LINK_SUCCESS : Short := Short.ofInt 390
def LINK_FAILURE : Short := Short.ofInt 391
def LINK_SEND_FOR_ACK : Short := Short.ofInt 392
def LINK_ACK : Short := Short.ofInt 393

/-- `TunnelConnection::BUFFER_SIZE` -/
def LINK_BUFFER_SIZE : Nat := 4096

/-! ## Objects -/

/-- The two kinds of `StdioTunnel`. -/
inductive Side where
  | localSide
  | remoteSide
  deriving DecidableEq, Repr

/-- A `Polled*`: the object it points to. -/
inductive Polled where
  | stdioTunnel
  | listenSide (conn : Int) (socket : Nat)
  | connectionLink (conn : Int) (id : Short) (socket : Nat)
  | socks5Server
  deriving DecidableEq, Repr

structure ConnectionLink where
  m_socket : Nat
  m_id : Short
  m_buffer : SockBuffer
  m_closing : Bool
  m_acknowledged : Bool
  deriving DecidableEq, Repr

/-- The constructor of `ConnectionLink`. -/
def ConnectionLink.create (id : Short) (socket : Nat) : ConnectionLink :=
  ⟨socket, id, .fresh, false, true⟩

/-- The members of the two subclasses of `TunnelConnection`. -/
inductive Role where
  | listenSide (m_listen_socket : Nat) (m_next_id : Int)
  | connectSide
  deriving DecidableEq, Repr

structure TunnelConnection where
  m_spec : ConnectionSpec
  m_id : Int
  m_link_map : OrderedMap Short ConnectionLink
  role : Role

/-- `m_poller` is true when the pointer is set. -/
structure CustomWriteStream extends WriteStream where
  m_poller : Bool
  m_fd : Int

/-- One call on a socket, with the link it was opened for. -/
inductive Syscall where
  | opened (socket : Nat) (conn : Int) (link : Short)
  | listening (socket : Nat) (conn : Int)
  | received (socket : Nat) (bytes : List Byte)
  | sent (socket : Nat) (bytes : List Byte)
  | closed (socket : Nat)
  deriving DecidableEq, Repr

/-- The sockets handed out so far and the calls made on them, oldest first. -/
structure Kernel where
  next_socket : Nat
  trace : List Syscall

/-- One call on the listening descriptor of the socks5 server. -/
inductive ServerCall where
  | accepts (fd : Int)
  | closed (fd : Int)
  deriving DecidableEq, Repr

structure StdioTunnel where
  side : Side
  m_read_stream : ReadStream
  m_write_stream : CustomWriteStream
  m_closed_by_request : Bool
  m_poller : Poller Polled
  m_connection_map : OrderedMap Int TunnelConnection
  os : Kernel
  socks5_calls : List ServerCall

namespace StdioTunnel

/-! ## Links by place -/

def connection? (t : StdioTunnel) (conn : Int) : Option TunnelConnection :=
  t.m_connection_map.find? conn

def link? (t : StdioTunnel) (conn : Int) (id : Short) : Option ConnectionLink :=
  (t.connection? conn).bind fun c => c.m_link_map.find? id

/-- Change the link map of a connection. -/
def mapLinks (t : StdioTunnel) (conn : Int)
    (f : OrderedMap Short ConnectionLink → OrderedMap Short ConnectionLink) : StdioTunnel :=
  { t with
    m_connection_map :=
      t.m_connection_map.modify conn fun c => { c with m_link_map := f c.m_link_map } }

def putLink (t : StdioTunnel) (conn : Int) (link : ConnectionLink) : StdioTunnel :=
  t.mapLinks conn fun m => m.insert link.m_id link

/-- `m_link_map.erase` -/
def eraseLink (t : StdioTunnel) (conn : Int) (id : Short) : StdioTunnel :=
  t.mapLinks conn fun m => m.erase id

def log (t : StdioTunnel) (call : Syscall) : StdioTunnel :=
  { t with os := { t.os with trace := t.os.trace ++ [call] } }

def openSocket (t : StdioTunnel) (conn : Int) (id : Short) : StdioTunnel :=
  { t with os := ⟨t.os.next_socket + 1, t.os.trace ++ [.opened t.os.next_socket conn id]⟩ }

def serve (t : StdioTunnel) (call : ServerCall) : StdioTunnel :=
  { t with socks5_calls := t.socks5_calls ++ [call] }

def mapPoller (t : StdioTunnel) (f : Poller Polled → Poller Polled) : StdioTunnel :=
  { t with m_poller := f t.m_poller }

def addPolled (t : StdioTunnel) (polled : Polled) (fd : Int) (events : PollEvents) : StdioTunnel :=
  t.mapPoller fun p => p.addPolled polled fd events

def setEvents (t : StdioTunnel) (polled : Polled) (fd : Int) (events : PollEvents) : StdioTunnel :=
  t.mapPoller fun p => p.setEvents polled fd events

def removePolled (t : StdioTunnel) (polled : Polled) (fd : Int) : StdioTunnel :=
  t.mapPoller fun p => p.removePolled polled fd

/-! ## Streams -/

def readShort (t : StdioTunnel) : Except Fault (Short × StdioTunnel) := do
  let (s, stream) ← t.m_read_stream.readShort
  .ok (s, { t with m_read_stream := stream })

def readString (t : StdioTunnel) : Except Fault (List Byte × StdioTunnel) := do
  let (s, stream) ← t.m_read_stream.readString
  .ok (s, { t with m_read_stream := stream })

def readBytes (t : StdioTunnel) (length : Int) : Except Fault (List Byte × StdioTunnel) := do
  let (bytes, stream) ← t.m_read_stream.readBytes length
  .ok (bytes, { t with m_read_stream := stream })

def mapWriter (t : StdioTunnel) (f : WriteStream → WriteStream) : StdioTunnel :=
  { t with m_write_stream :=
      { t.m_write_stream with toWriteStream := f t.m_write_stream.toWriteStream } }

def writeShort (t : StdioTunnel) (s : Short) : StdioTunnel := t.mapWriter fun w => w.writeShort s

def writeString (t : StdioTunnel) (message : List Byte) : StdioTunnel :=
  t.mapWriter fun w => w.writeString message

def writeBytes (t : StdioTunnel) (bytes : List Byte) : StdioTunnel :=
  t.mapWriter fun w => w.writeBytes bytes

/-- `CustomWriteStream::send` -/
def send (t : StdioTunnel) : Except Fault StdioTunnel :=
  if t.m_write_stream.m_poller then
    .ok ((t.mapWriter WriteStream.send).setEvents .stdioTunnel t.m_write_stream.m_fd POLLOUT)
  else
    .error (.exception "send uninitialized write stream")

/-- The virtual `reportError`: the local side prints, the remote side sends. -/
def reportError (t : StdioTunnel) (message : List Byte) : Except Fault StdioTunnel :=
  match t.side with
  | .localSide => .ok t
  | .remoteSide => ((t.writeShort CMD_ERROR).writeString message).send

end StdioTunnel

end Tun01
