import Tun01.Tunnel.Scripts
import Tun01.Tunnel.Dispatch
import Tun01.Tunnel.PassThrough

/-!
# Dispatches in any state

What a dispatch does to the links of an endpoint, whatever the other endpoint
sends: nothing, the operations of one listener or link, or the operations of
one link message.  `Turn` is the case analysis and `Endpoint.kept` the rule
that takes an invariant from operations to dispatches.
-/

namespace Tun01

open StdioTunnel (Aside Linkless)

/-! ## Listening sockets -/

/-- Nothing but listening sockets was obtained in between. -/
structure Kernel.Listens (os os' : Kernel) : Prop where
  next : os.next_socket ≤ os'.next_socket
  trace : ∃ more, os'.trace = os.trace ++ more ∧ ∀ call ∈ more,
    ∃ s conn, call = .listening s conn ∧ os.next_socket ≤ s ∧ s < os'.next_socket

namespace Kernel.Listens

theorem refl (os : Kernel) : os.Listens os :=
  ⟨Nat.le_refl _, [], (List.append_nil _).symm, List.forall_mem_nil _⟩

theorem trans {os os' os'' : Kernel} (first : os.Listens os') (second : os'.Listens os'') :
    os.Listens os'' := by
  obtain ⟨next₁, more₁, trace₁, calls₁⟩ := first
  obtain ⟨next₂, more₂, trace₂, calls₂⟩ := second
  refine ⟨Nat.le_trans next₁ next₂, more₁ ++ more₂, by rw [trace₂, trace₁, List.append_assoc],
    List.forall_mem_append.mpr ⟨fun call member => ?_, fun call member => ?_⟩⟩
  · obtain ⟨s, conn, same, above, below⟩ := calls₁ call member
    exact ⟨s, conn, same, above, Nat.lt_of_lt_of_le below next₂⟩
  · obtain ⟨s, conn, same, above, below⟩ := calls₂ call member
    exact ⟨s, conn, same, Nat.le_trans next₁ above, below⟩

theorem listening (os : Kernel) (conn : Int) :
    os.Listens ⟨os.next_socket + 1, os.trace ++ [.listening os.next_socket conn]⟩ :=
  ⟨Nat.le_succ _, _, rfl, List.forall_mem_singleton.mpr
    ⟨_, _, rfl, Nat.le_refl _, Nat.lt_succ_self _⟩⟩

end Kernel.Listens

/-! ## Frames -/

/-- The connection, the command, the link and the other fields of a link message. -/
def linkMessage (payload : List Byte) : Option (Short × Short × Short × List Byte) := do
  let (cmd, queue) ← splitShort payload
  if cmd = CMD_CONNECTION then
    let (conn, queue) ← splitShort queue
    let (command, queue) ← splitShort queue
    let (id, fields) ← splitShort queue
    some (conn, command, id, fields)
  else
    none

namespace StdioTunnel

/-- The socks5 server is left alone. -/
structure ServerSame (t t' : StdioTunnel) : Prop where
  calls : t'.socks5_calls = t.socks5_calls
  records : t'.registrations .socks5Server = t.registrations .socks5Server

theorem ServerSame.trans {t t' t'' : StdioTunnel} (first : ServerSame t t')
    (second : ServerSame t' t'') : ServerSame t t'' :=
  ⟨second.calls.trans first.calls, second.records.trans first.records⟩

theorem ServerSame.stored {t t' : StdioTunnel} (same : ServerSame t t') (id : Int)
    (pConn : Option TunnelConnection) : ServerSame t (StdioTunnel.stored id t' pConn) := by
  cases pConn with
  | none => exact same
  | some c => exact ⟨same.calls, same.records⟩

theorem CreateConnection_server {t t' : StdioTunnel} {spec : ConnectionSpec} {is_local : Bool}
    {id : Int} {listen : ListenResult} {pConn : Option TunnelConnection}
    (result : t.CreateConnection spec is_local id listen = .ok (t', pConn)) : ServerSame t t' := by
  unfold CreateConnection at result
  split at result
  · cases listen with
    | noSocket | fcntlFailed | listenFailed =>
        obtain ⟨rfl, _⟩ := Prod.mk.inj (Except.ok.inj result)
        exact ⟨rfl, rfl⟩
    | bindFailed errno => cases result
    | listening =>
        obtain ⟨rfl, _⟩ := Prod.mk.inj (Except.ok.inj result)
        exact ⟨rfl, (Poller.registrations_addPolled _ _ _ _ _).trans (if_neg nofun)⟩
  · obtain ⟨rfl, _⟩ := Prod.mk.inj (Except.ok.inj result)
    exact ⟨rfl, rfl⟩

end StdioTunnel

namespace StdioTunnelRemote

/-- The socks5 server is registered once, if it was set up. -/
def OneServer (r : StdioTunnelRemote) : Prop :=
  (r.registrations .socks5Server).length ≤ r.m_socks5_server.toNat

/-- At most one socks5 server is set up, and nothing is done with its descriptor. -/
structure SetsUp (r r' : StdioTunnelRemote) : Prop where
  calls : r'.socks5_calls = r.socks5_calls
  one : r.OneServer → r'.OneServer

end StdioTunnelRemote

namespace Endpoint

def carriesLinks : Endpoint → Bool
  | localEnd l => l.m_state = .HAND_SHAKE || l.m_state = .CONNECTED
  | remoteEnd r => r.m_state = .CONNECTED

def takesFrames : Endpoint → Bool
  | localEnd l => l.m_state = .HAND_SHAKE || l.m_state = .CONNECTED
  | remoteEnd _ => true

/-- The frame a dispatch completes. -/
def frame (e : Endpoint) (event : Event) : Option (List Byte) :=
  if event.polled = .stdioTunnel ∧ event.poll_struct.fd = e.readFd ∧ e.carriesLinks then
    match e.tunnel.m_read_stream.fill event.poll_struct event.calls.header event.calls.body with
    | .ok stream => if stream.available then some stream.m_queue else none
    | .error _ => none
  else
    none

def message (e : Endpoint) (event : Event) : Option (Short × Short × Short × List Byte) :=
  (e.frame event).bind linkMessage

/-- What a dispatch does to the links. -/
inductive Turn (e : Endpoint) (event : Event) (e' : Endpoint) : Prop where
  | aside (same : Aside e.tunnel e'.tunnel)
  | object {ops : List Operation} (run : Run Operation.Step e.tunnel ops e'.tunnel)
      (script : StdioTunnel.ObjectScript event.polled ops)
  | message {conn command id : Short} {fields : List Byte} {ops : List Operation}
      {t t' : StdioTunnel} (handles : e.message event = some (conn, command, id, fields))
      (before : Aside e.tunnel t) (run : Run Operation.Step t ops t')
      (script : StdioTunnel.Script conn id fields event.calls.connect command ops) (after : Aside t' e'.tunnel)
  | handshake {r : StdioTunnelRemote} (isRemote : e = .remoteEnd r)
      (waits : r.m_state = .HANDSHAKING) (linkless : Linkless e.tunnel → Linkless e'.tunnel)
      (listens : e.tunnel.os.Listens e'.tunnel.os) (keyed : e'.tunnel.Keyed)
      (joined : ∀ r', e' = .remoteEnd r' → r'.m_state = .CONNECTED)
      (server : ∃ r', e' = .remoteEnd r' ∧ r.SetsUp r')

end Endpoint

/-- What a frame does to the links. -/
def Handled (payload : List Byte) (connect : ConnectResult) (t t' : StdioTunnel) : Prop :=
  Aside t t' ∨ ∃ conn command id fields ops t₁,
    linkMessage payload = some (conn, command, id, fields) ∧ Aside t t₁ ∧
      Run Operation.Step t₁ ops t' ∧ StdioTunnel.Script conn id fields connect command ops

/-- A message for a connection, after the command was read. -/
theorem dispatchMessage_handled {t t' : StdioTunnel} {payload rest : List Byte}
    {connect : ConnectResult} (keyed : t.Keyed)
    (command : splitShort payload = some (CMD_CONNECTION, rest))
    (queue : t.m_read_stream.m_queue = rest)
    (result : (do
      let (id, t) ← t.readShort
      t.dispatchMessage id.val connect) = .ok t') : Handled payload connect t t' := by
  obtain ⟨⟨conn, t₁⟩, first, result⟩ := of_bind_ok result
  obtain ⟨q, split₁, rfl⟩ := StdioTunnel.readShort_split first
  dsimp only at result
  obtain ⟨command', q', id, fields, last, ops, split₂, split₃, run, script⟩ :=
    StdioTunnel.dispatchMessage_run (keyed.reading q) result
  refine Or.inr ⟨conn, command', id, fields, ops, t.reading last, ?_,
    .withReader t (t.m_read_stream.withQueue last), run, script⟩
  change splitShort q = _ at split₂
  rw [queue] at split₁
  unfold linkMessage
  simp only [command, split₁, split₂, split₃, bind, Option.bind, ↓reduceIte]

/-! ## The local endpoint -/

namespace StdioTunnelLocal

variable {l l' : StdioTunnelLocal} {poll_struct : Pollfd} {calls : Calls}

theorem processFrame_handled (keyed : l.Keyed) (result : l.processFrame calls = .ok l') :
    Handled l.m_read_stream.m_queue calls.connect l.toStdioTunnel l'.toStdioTunnel := by
  unfold processFrame at result
  obtain ⟨⟨cmd, t⟩, first, result⟩ := of_bind_ok result
  obtain ⟨q, split₁, rfl⟩ := StdioTunnel.readShort_split first
  have read : Aside l.toStdioTunnel (l.toStdioTunnel.reading q) := .withReader _ _
  dsimp only at result
  split at result
  · obtain ⟨⟨message, t₁⟩, text, result⟩ := of_bind_ok result
    obtain ⟨t₂, reports, result⟩ := of_bind_ok result
    obtain rfl := Except.ok.inj result
    unfold StdioTunnel.readString at text
    obtain ⟨⟨bytes, stream⟩, _, text⟩ := of_bind_ok text
    obtain ⟨rfl, rfl⟩ := Prod.mk.inj (Except.ok.inj text)
    have again : Aside (l.toStdioTunnel.reading q) ((l.toStdioTunnel.reading q).withReader stream) :=
      .withReader _ _
    have both := read.trans again
    rcases StdioTunnel.reportError_run (both.keyed keyed).ready reports with rfl | rfl
    · exact Or.inl both
    · exact Or.inl (both.trans (.emit _ _))
  split at result
  · obtain rfl := Except.ok.inj result
    exact Or.inl read
  split at result
  · rename_i isConnection
    obtain ⟨⟨id, t₁⟩, second, result⟩ := of_bind_ok result
    obtain ⟨t₂, third, result⟩ := of_bind_ok result
    obtain rfl := Except.ok.inj result
    rw [isConnection] at split₁
    have handled := @dispatchMessage_handled _ _ _ _ calls.connect (read.keyed keyed) split₁ rfl
      (by rw [second]; exact third)
    rcases handled with aside | ⟨conn, command, id, fields, ops, t₃, is, aside, run, script⟩
    · exact Or.inl (read.trans aside)
    · exact Or.inr ⟨conn, command, id, fields, ops, t₃, is, read.trans aside, run, script⟩
  split at result
  · obtain rfl := Except.ok.inj result
    exact Or.inl (read.trans (.shutdown _))
  · obtain rfl := Except.ok.inj result
    exact Or.inl read

theorem connectedWrite_aside (result : l.connectedWrite poll_struct calls = .ok l') :
    Aside l.toStdioTunnel l'.toStdioTunnel := by
  unfold connectedWrite at result
  split at result
  · cases result
  obtain ⟨⟨stream, after, taken⟩, empties, result⟩ := of_bind_ok result
  have written := Aside.written l.toStdioTunnel (WriteStream.empty_queue empties)
  have events := written.trans (.setEvents _ after.fd after.events)
  dsimp only at result
  split at result
  · obtain rfl := Except.ok.inj result
    exact events
  · obtain rfl := Except.ok.inj result
    exact events.trans (.setEvents _ l.m_write_fd .zero)

theorem connectedStdout_aside (result : l.connectedStdout calls = .ok l') :
    Aside l.toStdioTunnel l'.toStdioTunnel := by
  unfold connectedStdout at result
  split at result
  · obtain ⟨buffer, rfl⟩ := writeDetected_same result
    exact .refl _
  · obtain rfl := Except.ok.inj result
    exact .removePolled _ STDOUT_FD

/-- The dispatch of the endpoint itself once the pipes carry frames. -/
theorem polledConnected_turn (keyed : l.Keyed) (state : l.m_state = .HAND_SHAKE ∨ l.m_state = .CONNECTED)
    (result : l.polledConnected poll_struct calls = .ok l') :
    Endpoint.Turn (.localEnd l) ⟨.stdioTunnel, poll_struct, calls⟩ (.localEnd l') := by
  unfold polledConnected at result
  obtain ⟨l₁, reads, result⟩ := of_bind_ok result
  obtain ⟨l₂, writes, result⟩ := of_bind_ok result
  have second : Aside l₁.toStdioTunnel l₂.toStdioTunnel := by
    unfold onFd at writes
    split at writes
    · exact connectedWrite_aside writes
    · obtain rfl := Except.ok.inj writes
      exact .refl _
  have third : Aside l₂.toStdioTunnel l'.toStdioTunnel := by
    unfold onFd at result
    split at result
    · exact connectedStdout_aside result
    · obtain rfl := Except.ok.inj result
      exact .refl _
  have rest := second.trans third
  unfold onFd at reads
  split at reads
  · rename_i fd
    unfold connectedRead at reads
    split at reads
    · cases reads
    obtain ⟨stream, fills, reads⟩ := of_bind_ok reads
    have filled : Aside l.toStdioTunnel (l.toStdioTunnel.withReader stream) := .withReader _ _
    dsimp only at reads
    split at reads
    · rename_i more
      have handled := processFrame_handled (l := l.withReader stream) (filled.keyed keyed) reads
      rcases handled with aside | ⟨conn, command, id, fields, ops, t, is, aside, run, script⟩
      · exact .aside ((filled.trans aside).trans rest)
      · refine .message ?_ (filled.trans aside) run script rest
        have frame : Endpoint.frame (.localEnd l) ⟨.stdioTunnel, poll_struct, calls⟩ =
            some stream.m_queue := by
          have carries : (Endpoint.localEnd l).carriesLinks = true := by
            change (decide (l.m_state = .HAND_SHAKE) || decide (l.m_state = .CONNECTED)) = true
            rcases state with same | same <;> (rw [same]; rfl)
          unfold Endpoint.frame
          rw [if_pos ⟨rfl, fd, carries⟩]
          change (match l.m_read_stream.fill poll_struct calls.header calls.body with
            | .ok stream => if stream.available then some stream.m_queue else none
            | .error _ => none) = _
          rw [fills]
          exact if_pos more
        unfold Endpoint.message
        rw [frame]
        exact is
    · obtain rfl := Except.ok.inj reads
      exact .aside (filled.trans rest)
  · obtain rfl := Except.ok.inj reads
    exact .aside rest

/-- The dispatch of the local endpoint itself. -/
theorem polled_turn (keyed : l.Keyed) (result : l.polled poll_struct calls = .ok l') :
    Endpoint.Turn (.localEnd l) ⟨.stdioTunnel, poll_struct, calls⟩ (.localEnd l') := by
  unfold polled at result
  split at result
  · exact .aside (passThrough_passes keyed result).aside
  · rename_i state
    exact polledConnected_turn keyed (Or.inl state) result
  · rename_i state
    exact polledConnected_turn keyed (Or.inr state) result
  · obtain rfl := Except.ok.inj result
    exact .aside (.refl _)

end StdioTunnelLocal

/-! ## The remote endpoint -/

namespace StdioTunnel

/-- Identifiers and streams stay in order, and where there was no link there is none. -/
structure Starts (t t' : StdioTunnel) : Prop where
  named : t.Named → t'.Named
  ready : t.Ready → t'.Ready
  linkless : t.Linkless → t'.Linkless
  listens : t.os.Listens t'.os

namespace Starts

theorem refl (t : StdioTunnel) : Starts t t := ⟨id, id, id, .refl _⟩

theorem trans (first : Starts t t') (second : Starts t' t'') : Starts t t'' :=
  ⟨fun named => second.named (first.named named), fun ready => second.ready (first.ready ready),
    fun none => second.linkless (first.linkless none), first.listens.trans second.listens⟩

theorem keyed (starts : Starts t t') (keyed : t.Keyed) : t'.Keyed :=
  ⟨starts.named keyed.toNamed, starts.ready keyed.ready⟩

/-- What changes no connection. -/
theorem ofSame (map : t'.m_connection_map = t.m_connection_map) (ready : t.Ready → t'.Ready)
    (listens : t.os.Listens t'.os)
    (records : ∀ x i s,
      t'.registrations (.connectionLink x i s) = t.registrations (.connectionLink x i s)) :
    Starts t t' where
  ready := ready
  listens := listens
  named := by
    intro named
    have connections : ∀ x, t'.connection? x = t.connection? x := by
      intro x
      unfold connection?
      rw [map]
    constructor
    · intro x c found
      exact named.keys x c ((connections x).symm.trans found)
    · intro x i l found
      unfold link? at found
      rw [connections] at found
      exact named.ids x i l found
  linkless := by
    intro none
    refine ⟨?_, fun x i s => (records x i s).trans (none.records x i s)⟩
    intro x i
    unfold link? connection?
    rw [map]
    exact none.link x i

theorem aside (aside : Aside t t') : Starts t t' :=
  .ofSame aside.map
    (fun ready => ⟨aside.poller.trans ready.poller, aside.fields.trans ready.fields⟩)
    (by rw [aside.os]; exact .refl _) fun _ _ _ => aside.records _ nofun

theorem addPolled {x : Polled} (t : StdioTunnel) (fd : Int) (events : PollEvents)
    (other : ∀ c i s, x ≠ .connectionLink c i s) : Starts t (t.addPolled x fd events) := by
  refine .ofSame rfl (fun ready => ⟨ready.poller, ready.fields⟩) (.refl _) fun c i s => ?_
  exact (Poller.registrations_addPolled _ _ _ _ _).trans (if_neg (other c i s))

theorem listenSocket (t : StdioTunnel) (conn : Int) : Starts t (t.listenSocket conn) :=
  .ofSame rfl (fun ready => ⟨ready.poller, ready.fields⟩) (.listening t.os conn) fun _ _ _ => rfl

/-- A new connection has no links. -/
theorem putConnection (t : StdioTunnel) (id : Short) {c : TunnelConnection} (isConn : c.m_id = id.val)
    (new : c.m_link_map = .empty) : Starts t (t.putConnection id.val c) where
  ready := fun ready => ⟨ready.poller, ready.fields⟩
  listens := .refl _
  named := by
    intro named
    constructor
    · intro x c' found
      rw [connection?_putConnection] at found
      split at found
      · rename_i same
        obtain rfl := Option.some.inj found
        exact ⟨isConn.trans same, id, same⟩
      · exact named.keys x c' found
    · intro x i l found
      unfold link? at found
      rw [connection?_putConnection] at found
      split at found
      · rw [Option.bind_some, new] at found
        cases found
      · exact named.ids x i l found
  linkless := by
    intro none
    refine ⟨?_, none.records⟩
    intro x i
    unfold link?
    rw [connection?_putConnection]
    split
    · rw [Option.bind_some, new]
      rfl
    · exact none.link x i

theorem CreateConnection {spec : ConnectionSpec} {is_local : Bool} {id : Short}
    {listen : ListenResult} {pConn : Option TunnelConnection}
    (result : t.CreateConnection spec is_local id.val listen = .ok (t', pConn)) :
    Starts t (stored id.val t' pConn) := by
  unfold StdioTunnel.CreateConnection at result
  split at result
  · cases listen with
    | noSocket =>
        obtain ⟨rfl, rfl⟩ := Prod.mk.inj (Except.ok.inj result)
        exact .refl _
    | bindFailed errno => cases result
    | fcntlFailed | listenFailed =>
        obtain ⟨rfl, rfl⟩ := Prod.mk.inj (Except.ok.inj result)
        exact .listenSocket _ _
    | listening =>
        obtain ⟨rfl, rfl⟩ := Prod.mk.inj (Except.ok.inj result)
        have listening := (Starts.listenSocket t id.val).trans
          (.addPolled _ t.os.next_socket POLLIN (x := .listenSide id.val t.os.next_socket)
            fun _ _ _ no => by cases no)
        exact listening.trans (.putConnection _ id rfl rfl)
  · obtain ⟨rfl, rfl⟩ := Prod.mk.inj (Except.ok.inj result)
    exact .putConnection t id rfl rfl

end Starts

end StdioTunnel

open StdioTunnel (Starts)

namespace StdioTunnelRemote

variable {r r' : StdioTunnelRemote} {poll_struct : Pollfd} {calls : Calls}

theorem setupSocks5_starts {spec spec' : ConnectionSpec}
    (result : r.setupSocks5 spec calls = .ok (r', spec')) :
    Starts r.toStdioTunnel r'.toStdioTunnel := by
  unfold setupSocks5 at result
  split at result
  · split at result
    · cases result
    · split at result
      · cases result
      · cases result
      · cases result
      · obtain ⟨rfl, _⟩ := Prod.mk.inj (Except.ok.inj result)
        exact .addPolled _ _ _ fun _ _ _ no => by cases no
  · obtain ⟨rfl, _⟩ := Prod.mk.inj (Except.ok.inj result)
    exact .refl _

theorem createConnections_starts {i remaining : Nat}
    (result : r.createConnections calls i remaining = .ok r') :
    Starts r.toStdioTunnel r'.toStdioTunnel := by
  induction remaining generalizing r i with
  | zero =>
      rw [← Except.ok.inj result]
      exact .refl _
  | succ remaining ih =>
      unfold createConnections at result
      obtain ⟨⟨id, t₁⟩, first, result⟩ := of_bind_ok result
      obtain ⟨q, _, rfl⟩ := StdioTunnel.readShort_split first
      obtain ⟨⟨spec, stream⟩, _, result⟩ := of_bind_ok result
      obtain ⟨⟨r₁, spec'⟩, server, result⟩ := of_bind_ok result
      obtain ⟨⟨t₂, pConn⟩, creates, result⟩ := of_bind_ok result
      have read : Starts r.toStdioTunnel (r.toStdioTunnel.withReader stream) :=
        .aside (.withReader _ _)
      have more := ih result
      have created := Starts.CreateConnection creates
      have upTo := (read.trans (setupSocks5_starts server)).trans created
      cases pConn with
      | none => exact upTo.trans more
      | some c => exact upTo.trans more

theorem SetsUp.trans {r'' : StdioTunnelRemote} (first : r.SetsUp r') (second : r'.SetsUp r'') :
    r.SetsUp r'' := ⟨second.calls.trans first.calls, fun one => second.one (first.one one)⟩

theorem SetsUp.same {t : StdioTunnel} (same : StdioTunnel.ServerSame r.toStdioTunnel t) :
    r.SetsUp { r with toStdioTunnel := t } := by
  refine ⟨same.calls, fun one => ?_⟩
  unfold OneServer
  dsimp only
  rw [same.records]
  exact one

theorem setupSocks5_setsUp {spec spec' : ConnectionSpec}
    (result : r.setupSocks5 spec calls = .ok (r', spec')) : r.SetsUp r' := by
  unfold setupSocks5 at result
  split at result
  · split at result
    · cases result
    · rename_i first
      split at result
      · cases result
      · cases result
      · cases result
      · obtain ⟨rfl, _⟩ := Prod.mk.inj (Except.ok.inj result)
        refine ⟨rfl, fun one => ?_⟩
        unfold OneServer at one ⊢
        rw [Bool.not_eq_true] at first
        rw [first] at one
        change ((r.m_poller.addPolled .socks5Server _ POLLIN).registrations .socks5Server).length ≤ 1
        rw [Poller.registrations_addPolled, if_pos rfl, List.length_append]
        exact Nat.add_le_add_right one 1
  · obtain ⟨rfl, _⟩ := Prod.mk.inj (Except.ok.inj result)
    exact ⟨rfl, id⟩

theorem createConnections_setsUp {i remaining : Nat}
    (result : r.createConnections calls i remaining = .ok r') : r.SetsUp r' := by
  induction remaining generalizing r i with
  | zero =>
      rw [← Except.ok.inj result]
      exact ⟨rfl, id⟩
  | succ remaining ih =>
      unfold createConnections at result
      obtain ⟨⟨id, t₁⟩, first, result⟩ := of_bind_ok result
      obtain ⟨q, _, rfl⟩ := StdioTunnel.readShort_split first
      obtain ⟨⟨spec, stream⟩, _, result⟩ := of_bind_ok result
      obtain ⟨⟨r₁, spec'⟩, server, result⟩ := of_bind_ok result
      obtain ⟨⟨t₂, pConn⟩, creates, result⟩ := of_bind_ok result
      have read : r.SetsUp (r.withReader stream) := .same ⟨rfl, rfl⟩
      have upTo := (read.trans (setupSocks5_setsUp server)).trans
        (.same ((StdioTunnel.CreateConnection_server creates).stored id.val pConn))
      cases pConn with
      | none => exact upTo.trans (ih result)
      | some c => exact upTo.trans (ih result)

/-- The handshake creates connections, and no links. -/
theorem processFrame_starts (state : r.m_state = .HANDSHAKING)
    (result : r.processFrame calls = .ok r') (keyed : r.Keyed) :
    Starts r.toStdioTunnel r'.toStdioTunnel ∧ r'.m_state = .CONNECTED ∧ r.SetsUp r' := by
  unfold processFrame at result
  obtain ⟨⟨command, t₁⟩, first, result⟩ := of_bind_ok result
  obtain ⟨q, _, rfl⟩ := StdioTunnel.readShort_split first
  dsimp only at result
  rw [state] at result
  dsimp only at result
  split at result
  · cases result
  obtain ⟨⟨count, t₂⟩, second, result⟩ := of_bind_ok result
  obtain ⟨q', _, rfl⟩ := StdioTunnel.readShort_split second
  obtain ⟨r₁, creates, result⟩ := of_bind_ok result
  obtain ⟨t₃, reply, result⟩ := of_bind_ok result
  have read : Starts r.toStdioTunnel (r.toStdioTunnel.reading q') :=
    .aside (.withReader _ _)
  have upTo := read.trans (createConnections_starts creates)
  have sent := StdioTunnelRemote.send_agreed (upTo.keyed keyed).ready
  obtain rfl := Except.ok.inj (sent.symm.trans reply)
  have last : Starts r₁.toStdioTunnel (r₁.toStdioTunnel.emit Message.agreed.payload) :=
    .aside (.emit _ _)
  have all := upTo.trans last
  have before : r.SetsUp ⟨r.toStdioTunnel.reading q', .HANDSHAKING, r.m_socks5_server⟩ :=
    ⟨rfl, fun one => one⟩
  have after : r₁.SetsUp { r₁ with
      toStdioTunnel := r₁.toStdioTunnel.emit Message.agreed.payload } :=
    .same ⟨rfl, @StdioTunnel.registrations_emit _ .socks5Server nofun _⟩
  have server := (before.trans (createConnections_setsUp creates)).trans after
  rw [← Except.ok.inj result]
  exact ⟨all, rfl, server.calls, server.one⟩

theorem processFrame_handled (keyed : r.Keyed) (state : r.m_state = .CONNECTED)
    (result : r.processFrame calls = .ok r') :
    Handled r.m_read_stream.m_queue calls.connect r.toStdioTunnel r'.toStdioTunnel := by
  unfold processFrame at result
  obtain ⟨⟨command, t₁⟩, first, result⟩ := of_bind_ok result
  obtain ⟨q, split₁, rfl⟩ := StdioTunnel.readShort_split first
  have read : Aside r.toStdioTunnel (r.toStdioTunnel.reading q) := .withReader _ _
  dsimp only at result
  rw [state] at result
  dsimp only at result
  split at result
  · obtain rfl := Except.ok.inj result
    exact Or.inl (read.trans (.shutdown _))
  split at result
  · cases result
  · rename_i isConnection
    rw [not_not.mp isConnection] at split₁
    obtain ⟨⟨id, t₁⟩, second, result⟩ := of_bind_ok result
    obtain ⟨t₂, third, result⟩ := of_bind_ok result
    obtain rfl := Except.ok.inj result
    have handled := @dispatchMessage_handled _ _ _ _ calls.connect (read.keyed keyed) split₁ rfl
      (by rw [second]; exact third)
    rcases handled with aside | ⟨conn, command, id, fields, ops, t₃, is, aside, run, script⟩
    · exact Or.inl (read.trans aside)
    · exact Or.inr ⟨conn, command, id, fields, ops, t₃, is, read.trans aside, run, script⟩

/-- In the other states a frame is dropped. -/
theorem processFrame_dropped (handshaking : r.m_state ≠ .HANDSHAKING)
    (connected : r.m_state ≠ .CONNECTED) (result : r.processFrame calls = .ok r') :
    Aside r.toStdioTunnel r'.toStdioTunnel := by
  unfold processFrame at result
  obtain ⟨⟨command, t₁⟩, first, result⟩ := of_bind_ok result
  obtain ⟨q, _, rfl⟩ := StdioTunnel.readShort_split first
  dsimp only at result
  split at result
  · rename_i state
    exact absurd state handshaking
  · rename_i state
    exact absurd state connected
  · obtain rfl := Except.ok.inj result
    exact .withReader _ _

theorem polledStdout_aside (result : r.polledStdout poll_struct calls = .ok r') :
    Aside r.toStdioTunnel r'.toStdioTunnel := by
  unfold polledStdout at result
  split at result
  · obtain rfl := Except.ok.inj result
    exact .requestFinish _
  · obtain ⟨⟨stream, after, taken⟩, empties, result⟩ := of_bind_ok result
    have written := Aside.written r.toStdioTunnel (WriteStream.empty_queue empties)
    have events := written.trans (.setEvents _ after.fd after.events)
    dsimp only at result
    split at result
    · obtain rfl := Except.ok.inj result
      exact events
    · obtain rfl := Except.ok.inj result
      exact events.trans (.setEvents _ STDOUT_FD .zero)

/-- The dispatch of the remote endpoint itself. -/
theorem polled_turn (keyed : r.Keyed) (result : r.polled poll_struct calls = .ok r') :
    Endpoint.Turn (.remoteEnd r) ⟨.stdioTunnel, poll_struct, calls⟩ (.remoteEnd r') := by
  unfold polled at result
  obtain ⟨r₁, reads, result⟩ := of_bind_ok result
  unfold onFd at reads
  split at reads
  · rename_i fd
    have rest : r' = r₁ := by
      rw [onFd_of_ne _ _ (by rw [fd]; decide)] at result
      exact (Except.ok.inj result).symm
    obtain rfl := rest
    unfold polledStdin at reads
    cases failed : poll_struct.revents.failure with
    | true =>
        rw [failed] at reads
        cases reads
    | false =>
    cases ready : poll_struct.revents.POLLIN with
    | false =>
        rw [failed, ready] at reads
        cases reads
    | true =>
      rw [failed, ready] at reads
      obtain ⟨stream, fills, reads⟩ := of_bind_ok reads
      have filled : Aside r.toStdioTunnel (r.toStdioTunnel.withReader stream) := .withReader _ _
      dsimp only at reads
      split at reads
      · rename_i more
        by_cases handshaking : r.m_state = .HANDSHAKING
        · obtain ⟨handled, joined, server⟩ := processFrame_starts (r := r.withReader stream)
            handshaking reads (filled.keyed keyed)
          have starts := (Starts.aside filled).trans handled
          have read : r.SetsUp (r.withReader stream) := .same ⟨rfl, rfl⟩
          refine .handshake rfl handshaking starts.linkless starts.listens (starts.keyed keyed) ?_
            ⟨_, rfl, read.trans server⟩
          intro r₁ same
          rw [← Endpoint.remoteEnd.inj same]
          exact joined
        by_cases connected : r.m_state = .CONNECTED
        · have handled := processFrame_handled (r := r.withReader stream) (filled.keyed keyed)
            connected reads
          rcases handled with aside | ⟨conn, command, id, fields, ops, t, is, aside, run, script⟩
          · exact .aside (filled.trans aside)
          · refine .message ?_ (filled.trans aside) run script (.refl _)
            have frame : Endpoint.frame (.remoteEnd r) ⟨.stdioTunnel, poll_struct, calls⟩ =
                some stream.m_queue := by
              have carries : (Endpoint.remoteEnd r).carriesLinks = true := decide_eq_true connected
              unfold Endpoint.frame
              rw [if_pos ⟨rfl, fd, carries⟩]
              change (match r.m_read_stream.fill poll_struct calls.header calls.body with
                | .ok stream => if stream.available then some stream.m_queue else none
                | .error _ => none) = _
              rw [fills]
              exact if_pos more
            unfold Endpoint.message
            rw [frame]
            exact is
        · exact .aside (filled.trans
            (processFrame_dropped (r := r.withReader stream) handshaking connected reads))
      · obtain rfl := Except.ok.inj reads
        exact .aside filled
  · obtain rfl := Except.ok.inj reads
    unfold onFd at result
    split at result
    · exact .aside (polledStdout_aside result)
    · obtain rfl := Except.ok.inj result
      exact .aside (.refl _)

end StdioTunnelRemote

namespace Endpoint

variable {e e' : Endpoint} {event : Event}

/-- The dispatch of a link. -/
theorem dispatch_link (keyed : e.tunnel.Keyed) {x : Int} {i : Short} {s : Nat}
    (polled : event.polled = .connectionLink x i s) (result : e.dispatch event = .ok e') :
    ∃ conn c l ops, x = conn.val ∧ e.tunnel.connection? conn.val = some c ∧
      e.tunnel.Stores conn l ∧ l.m_id = i ∧ l.m_socket = s ∧
      Run Operation.Step e.tunnel ops e'.tunnel ∧ StdioTunnel.LinkSteps conn c l
        event.poll_struct.revents event.calls.read event.calls.write ops := by
  have object : event.polled ≠ .stdioTunnel := by
    rw [polled]
    exact nofun
  rw [dispatch_object object, polled] at result
  obtain ⟨t, dispatched, rfl⟩ := of_map_ok result
  rw [tunnel_withTunnel]
  exact StdioTunnel.polledObject_steps keyed dispatched

/-- Every dispatch is one of the cases. -/
theorem dispatch_turn (keyed : e.tunnel.Keyed) (result : e.dispatch event = .ok e') :
    Turn e event e' := by
  by_cases self : event.polled = .stdioTunnel
  · obtain ⟨polled, poll_struct, calls⟩ := event
    obtain rfl : polled = .stdioTunnel := self
    cases e with
    | localEnd l =>
        obtain ⟨l', dispatched, rfl⟩ := of_map_ok result
        exact StdioTunnelLocal.polled_turn keyed dispatched
    | remoteEnd r =>
        obtain ⟨r', dispatched, rfl⟩ := of_map_ok result
        exact StdioTunnelRemote.polled_turn keyed dispatched
  · rw [dispatch_object self] at result
    obtain ⟨t, dispatched, rfl⟩ := of_map_ok result
    rcases StdioTunnel.polledObject_run keyed dispatched with ⟨ops, run, script⟩ | ⟨_, rfl⟩
    · refine .object ?_ script
      rw [tunnel_withTunnel]
      exact run
    · refine .aside ?_
      rw [tunnel_withTunnel]
      exact .serve _ _

theorem Turn.keyed (turn : Turn e event e') (keyed : e.tunnel.Keyed) : e'.tunnel.Keyed := by
  cases turn with
  | aside same => exact same.keyed keyed
  | object run script => exact StdioTunnel.run_keyed run keyed
  | message handles before run script after =>
      exact after.keyed (StdioTunnel.run_keyed run (before.keyed keyed))
  | handshake isRemote waits linkless listens keyed' joined server => exact keyed'

end Endpoint

end Tun01
