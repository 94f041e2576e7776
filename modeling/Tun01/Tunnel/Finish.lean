import Tun01.Tunnel.Clients

/-!
# Leaving the polling loop

What an endpoint does when its poller is finishing: it cleans up all objects
that are registered and, when the other endpoint asked for it, announces that
it shuts down.
-/

namespace Tun01

open StdioTunnel (Aside)

namespace StdioTunnel

/-- `StdioTunnel::pollCallback` -/
def pollCallback (t : StdioTunnel) (g_signaled : Bool) : StdioTunnel :=
  if g_signaled then t.requestFinish else t

/-- The virtual `cleanup` of a registered object. -/
def cleanup (t : StdioTunnel) (polled : Polled) (poll_struct : Pollfd) :
    Except Fault StdioTunnel :=
  match polled with
  | .listenSide id socket =>
      match t.connection? id with
      | some conn =>
          match conn.role with
          | .listenSide m_listen_socket _ =>
              if m_listen_socket = socket then .ok (t.log (.closed m_listen_socket))
              else .error (.undefinedBehaviour "dangling ListenSide")
          | .connectSide => .error (.undefinedBehaviour "dangling ListenSide")
      | none => .error (.undefinedBehaviour "dangling ListenSide")
  | .connectionLink id link_id socket =>
      match t.link? id link_id with
      | some link =>
          if link.m_socket = socket then .ok (t.log (.closed link.m_socket))
          else .error (.undefinedBehaviour "dangling ConnectionLink")
      | none => .error (.undefinedBehaviour "dangling ConnectionLink")
  | .socks5Server => .ok (t.serve (.closed poll_struct.fd))
  | .stdioTunnel => .ok t

def objects (t : StdioTunnel) : List Polled := t.m_poller.m_polled.map PolledAndPollfd.m_polled

/-- The end of `Poller::start`, when `m_finishing` is set. -/
def endLoop (t : StdioTunnel) : Except Fault StdioTunnel :=
  t.m_poller.m_polled.foldlM (fun t entry => t.cleanup entry.m_polled entry.m_pollfd) t

/-- What `startFinish` does after `start`, up to its last round. -/
def announce (t : StdioTunnel) : Except Fault StdioTunnel :=
  if t.m_closed_by_request then (t.writeShort CMD_SHUTDOWN).send else .ok t

def shutdown : List Byte := WriteStream.shortBytes CMD_SHUTDOWN

variable {t t' : StdioTunnel}

/-! ## Cleaning up -/

/-- Cleaning up makes calls on sockets only. -/
theorem cleanup_same {polled : Polled} {poll_struct : Pollfd}
    (result : t.cleanup polled poll_struct = .ok t') :
    t' = { t with os := t'.os, socks5_calls := t'.socks5_calls } := by
  unfold cleanup at result
  repeat' split at result
  all_goals first | cases result; rfl | cases result

theorem endLoop_same (result : t.endLoop = .ok t') :
    t' = { t with os := t'.os, socks5_calls := t'.socks5_calls } := by
  unfold endLoop at result
  generalize t.m_poller.m_polled = entries at result
  induction entries generalizing t with
  | nil =>
      cases result
      rfl
  | cons entry rest ih =>
      rw [List.foldlM_cons] at result
      obtain ⟨t₁, first, later⟩ := of_bind_ok result
      rw [ih later, cleanup_same first]

/-- The calls of `cleanup` on an object. -/
def cleanupCalls : Polled → List Syscall
  | .listenSide _ socket | .connectionLink _ _ socket => [.closed socket]
  | .stdioTunnel | .socks5Server => []

/-- The calls of `cleanup` on the descriptor of the socks5 server. -/
def serverCalls (entry : PolledAndPollfd Polled) : List ServerCall :=
  match entry.m_polled with
  | .socks5Server => [.closed entry.m_pollfd.fd]
  | .stdioTunnel | .listenSide _ _ | .connectionLink _ _ _ => []

theorem serverCalls_eq (t : StdioTunnel) : t.m_poller.m_polled.flatMap serverCalls =
    (t.registrations .socks5Server).map fun record => .closed record.fd := by
  unfold registrations Poller.registrations Poller.registered
  induction t.m_poller.m_polled with
  | nil => rfl
  | cons entry rest ih =>
      obtain ⟨ptr, polled, record⟩ := entry
      rw [List.flatMap_cons, ih]
      cases polled <;> rfl

def logs (t : StdioTunnel) (calls : List Syscall) (server : List ServerCall) : StdioTunnel :=
  { t with
    os := { t.os with trace := t.os.trace ++ calls }
    socks5_calls := t.socks5_calls ++ server }

/-- The object a pointer of the poller refers to. -/
def Points (t : StdioTunnel) : Polled → Prop
  | .listenSide x socket => t.listenSocket? x = some socket
  | .connectionLink x i socket => ∃ l, t.link? x i = some l ∧ l.m_socket = socket
  | .stdioTunnel | .socks5Server => True

theorem registered_of_object {polled : Polled} (member : polled ∈ t.objects) :
    ∃ record, record ∈ t.registrations polled := by
  obtain ⟨entry, inPoller, rfl⟩ := List.mem_map.mp member
  exact ⟨_, List.mem_map_of_mem (List.mem_filter.mpr ⟨inPoller, decide_eq_true rfl⟩)⟩

theorem Sound.points (sound : t.Sound) {polled : Polled} (member : polled ∈ t.objects) :
    t.Points polled := by
  obtain ⟨record, registered⟩ := registered_of_object member
  cases polled with
  | stdioTunnel | socks5Server => trivial
  | listenSide x socket =>
      obtain ⟨conn, c, n, rfl, known, _, role⟩ := sound.listener registered
      change t.listenSocket? conn.val = some socket
      rw [listenSocket?_of_connection known, role]
      rfl
  | connectionLink x i socket =>
      rcases (sound.links x i).registered socket with none | ⟨l, _, stored, same, _, _⟩
      · rw [none] at registered
        cases registered
      · exact ⟨l, stored, same⟩

/-- An object that is there can be cleaned up, whatever was cleaned up before. -/
theorem cleanup_points (done : List Syscall) (served : List ServerCall)
    {entry : PolledAndPollfd Polled} (points : t.Points entry.m_polled) :
    (t.logs done served).cleanup entry.m_polled entry.m_pollfd =
      .ok (t.logs (done ++ cleanupCalls entry.m_polled) (served ++ serverCalls entry)) := by
  obtain ⟨ptr, polled, record⟩ := entry
  cases polled with
  | stdioTunnel =>
      unfold cleanup cleanupCalls serverCalls
      rw [List.append_nil, List.append_nil]
  | socks5Server =>
      unfold cleanup cleanupCalls serverCalls serve logs
      simp only [List.append_nil, List.append_assoc]
  | listenSide x socket =>
      have listens : t.listenSocket? x = some socket := points
      unfold listenSocket? bare? at listens
      cases known : t.connection? x with
      | none =>
          rw [known] at listens
          cases listens
      | some c =>
          rw [known] at listens
          change c.role.socket? = some socket at listens
          have found : (t.logs done served).connection? x = some c := known
          unfold cleanup logs log cleanupCalls serverCalls
          simp only [logs] at found
          cases role : c.role with
          | connectSide =>
              rw [role] at listens
              cases listens
          | listenSide socket' n =>
              rw [role] at listens
              obtain rfl := Option.some.inj listens
              simp only [found, role, ↓reduceIte, List.append_assoc, List.append_nil]
  | connectionLink x i socket =>
      obtain ⟨l, stored, rfl⟩ := points
      have found : (t.logs done served).link? x i = some l := stored
      unfold cleanup logs log cleanupCalls serverCalls
      simp only [logs] at found
      simp only [found, ↓reduceIte, List.append_assoc, List.append_nil]

/-- What the end of `Poller::start` does when all pointers are good. -/
theorem endLoop_returns (points : ∀ x ∈ t.objects, t.Points x) :
    t.endLoop = .ok (t.logs (t.objects.flatMap cleanupCalls)
      ((t.registrations .socks5Server).map fun record => .closed record.fd)) := by
  have all : ∀ (entries : List (PolledAndPollfd Polled)) (done : List Syscall)
      (served : List ServerCall), (∀ entry ∈ entries, t.Points entry.m_polled) →
      entries.foldlM (fun t entry => t.cleanup entry.m_polled entry.m_pollfd) (t.logs done served) =
        .ok (t.logs (done ++ (entries.map PolledAndPollfd.m_polled).flatMap cleanupCalls)
          (served ++ entries.flatMap serverCalls)) := by
    intro entries
    induction entries with
    | nil =>
        intro done served _
        rw [List.map_nil, List.flatMap_nil, List.flatMap_nil, List.append_nil, List.append_nil]
        rfl
    | cons entry rest ih =>
        intro done served there
        obtain ⟨here, later⟩ := List.forall_mem_cons.mp there
        rw [List.foldlM_cons, cleanup_points done served here, ok_bind, ih _ _ later,
          List.map_cons, List.flatMap_cons, List.flatMap_cons, List.append_assoc, List.append_assoc]
  have whole := all t.m_poller.m_polled [] [] fun entry member =>
    points _ (List.mem_map_of_mem member)
  rw [List.nil_append, List.nil_append, serverCalls_eq] at whole
  unfold objects
  rw [← whole]
  unfold endLoop logs
  rw [List.append_nil, List.append_nil]

/-! ## Announcing the end -/

/-- The payloads `startFinish` queues before its last round. -/
def announced (t : StdioTunnel) : List (List Byte) :=
  match t.announce with
  | .ok t' => t.queued t'
  | .error _ => []

theorem announce_silent (none : t.m_closed_by_request = false) : t.announce = .ok t := by
  unfold announce
  rw [none]
  rfl

theorem announce_request (ready : t.Ready) (request : t.m_closed_by_request = true) :
    t.announce = .ok (t.emit shutdown) := by
  unfold announce
  rw [if_pos request, writeShort_eq]
  exact send_writeBytes ready (List.cons_ne_nil _ _)

/-- The end is announced by an endpoint that was asked to shut down, and by no other. -/
theorem announced_eq (ready : t.Ready) :
    t.announced = if t.m_closed_by_request then [shutdown] else [] := by
  unfold announced
  cases request : t.m_closed_by_request with
  | false =>
      rw [announce_silent request]
      exact List.drop_length
  | true =>
      rw [announce_request ready request]
      dsimp only
      unfold queued
      rw [frames_emit, List.drop_left]
      rfl

/-! ## Requests to shut down -/

theorem request_run {ops : List Operation} (run : Run Operation.Step t ops t') :
    t'.m_closed_by_request = t.m_closed_by_request := by
  induction run with
  | nil => rfl
  | snoc earlier last ih =>
      rw [last.2]
      exact (Operation.kept last.1).request.trans ih

theorem Beside.request (beside : t.Beside t') :
    t'.m_closed_by_request = t.m_closed_by_request := by
  rw [beside.same]

theorem CreateConnection_request {spec : ConnectionSpec} {is_local : Bool} {id : Int}
    {listen : ListenResult} {pConn : Option TunnelConnection}
    (result : t.CreateConnection spec is_local id listen = .ok (t', pConn)) :
    t'.m_closed_by_request = t.m_closed_by_request := (CreateConnection_streams result).2.2

end StdioTunnel

/-- A payload that asks to shut down. -/
def AsksShutdown (payload : List Byte) : Prop :=
  ∃ rest, splitShort payload = some (CMD_SHUTDOWN, rest)

theorem Message.not_asks (m : Message) : ¬ AsksShutdown m.payload := by
  rintro ⟨rest, asks⟩
  cases m with
  | link conn id m =>
      unfold payload LinkMessage.encode at asks
      rw [splitShort_shortBytes] at asks
      cases asks
  | error message =>
      unfold payload at asks
      rw [splitShort_shortBytes] at asks
      cases asks
  | handshake connections =>
      unfold payload at asks
      rw [splitShort_shortBytes] at asks
      cases asks
  | agreed =>
      unfold payload at asks
      rw [splitShort_short] at asks
      cases asks

namespace StdioTunnelLocal

variable {l l' : StdioTunnelLocal} {calls : Calls}

/-- A frame that does not ask to shut down is no request. -/
theorem processFrame_unasked (keyed : l.Keyed) (result : l.processFrame calls = .ok l')
    (silent : ¬ AsksShutdown l.m_read_stream.m_queue) :
    l'.m_closed_by_request = l.m_closed_by_request := by
  unfold processFrame at result
  obtain ⟨⟨cmd, t⟩, first, result⟩ := of_bind_ok result
  obtain ⟨q, split₁, rfl⟩ := StdioTunnel.readShort_split first
  have read : Aside l.toStdioTunnel (l.toStdioTunnel.reading q) := .withReader _ _
  dsimp only at result
  split at result
  · obtain ⟨⟨message, t₁⟩, text, result⟩ := of_bind_ok result
    obtain ⟨t₂, reports, result⟩ := of_bind_ok result
    obtain rfl := Except.ok.inj result
    unfold StdioTunnel.readString at text
    obtain ⟨⟨bytes, stream⟩, _, text⟩ := of_bind_ok text
    obtain ⟨rfl, rfl⟩ := Prod.mk.inj (Except.ok.inj text)
    have both := read.trans (.withReader (l.toStdioTunnel.reading q) stream)
    rcases StdioTunnel.reportError_run (both.keyed keyed).ready reports with rfl | rfl <;> rfl
  split at result
  · cases result
    rfl
  split at result
  · obtain ⟨⟨id, t₁⟩, second, result⟩ := of_bind_ok result
    obtain ⟨t₂, third, result⟩ := of_bind_ok result
    cases result
    obtain ⟨q', _, rfl⟩ := StdioTunnel.readShort_split second
    have twice := read.trans (.withReader (l.toStdioTunnel.reading q)
      ((l.toStdioTunnel.reading q).m_read_stream.withQueue q'))
    obtain ⟨_, _, _, _, _, ops, _, _, run, _⟩ :=
      StdioTunnel.dispatchMessage_run (twice.keyed keyed) third
    have same := StdioTunnel.request_run run
    exact same
  split at result
  · rename_i asks
    rw [asks] at split₁
    exact absurd ⟨q, split₁⟩ silent
  · cases result
    rfl

end StdioTunnelLocal

namespace StdioTunnelRemote

variable {r r' : StdioTunnelRemote} {calls : Calls}

theorem setupSocks5_request {spec spec' : ConnectionSpec}
    (result : r.setupSocks5 spec calls = .ok (r', spec')) :
    r'.m_closed_by_request = r.m_closed_by_request := by
  unfold setupSocks5 at result
  repeat' split at result
  all_goals first | cases result; rfl | cases result

theorem createConnections_request {count i : Nat} (result : r.createConnections calls i count = .ok r') :
    r'.m_closed_by_request = r.m_closed_by_request := by
  induction count generalizing r i with
  | zero =>
      cases result
      rfl
  | succ count ih =>
      unfold createConnections at result
      obtain ⟨⟨id, t⟩, first, result⟩ := of_bind_ok result
      obtain ⟨q, _, rfl⟩ := StdioTunnel.readShort_split first
      obtain ⟨⟨spec, stream⟩, _, result⟩ := of_bind_ok result
      obtain ⟨⟨r₁, spec₁⟩, socks, result⟩ := of_bind_ok result
      obtain ⟨⟨t₁, pConn⟩, creates, result⟩ := of_bind_ok result
      have server := setupSocks5_request socks
      have created := StdioTunnel.CreateConnection_request creates
      have later := ih result
      cases pConn with
      | none => exact later.trans (created.trans server)
      | some c => exact later.trans (created.trans server)

/-- A frame that does not ask to shut down is no request. -/
theorem processFrame_unasked (keyed : r.Keyed) (result : r.processFrame calls = .ok r')
    (silent : ¬ AsksShutdown r.m_read_stream.m_queue) :
    r'.m_closed_by_request = r.m_closed_by_request := by
  unfold processFrame at result
  obtain ⟨⟨command, t⟩, first, result⟩ := of_bind_ok result
  obtain ⟨q, split₁, rfl⟩ := StdioTunnel.readShort_split first
  have read : Aside r.toStdioTunnel (r.toStdioTunnel.reading q) := .withReader _ _
  dsimp only at result
  split at result
  · split at result
    · cases result
    obtain ⟨⟨count, t₁⟩, second, result⟩ := of_bind_ok result
    obtain ⟨q', _, rfl⟩ := StdioTunnel.readShort_split second
    obtain ⟨r₁, creates, result⟩ := of_bind_ok result
    obtain ⟨t₂, sends, result⟩ := of_bind_ok result
    cases result
    have created := createConnections_request creates
    unfold StdioTunnel.send at sends
    split at sends
    · cases sends
      exact created
    · cases sends
  · split at result
    · rename_i asks
      rw [asks] at split₁
      exact absurd ⟨q, split₁⟩ silent
    split at result
    · cases result
    · obtain ⟨⟨id, t₁⟩, second, result⟩ := of_bind_ok result
      obtain ⟨t₂, third, result⟩ := of_bind_ok result
      cases result
      obtain ⟨q', _, rfl⟩ := StdioTunnel.readShort_split second
      have twice := read.trans (.withReader (r.toStdioTunnel.reading q)
        ((r.toStdioTunnel.reading q).m_read_stream.withQueue q'))
      obtain ⟨_, _, _, _, _, ops, _, _, run, _⟩ :=
        StdioTunnel.dispatchMessage_run (twice.keyed keyed) third
      have same := StdioTunnel.request_run run
      exact same
  · cases result
    rfl

end StdioTunnelRemote

namespace Endpoint

variable {e e' : Endpoint} {calls : Calls}

theorem processFrame_unasked (keyed : e.tunnel.Keyed) (result : e.processFrame calls = .ok e')
    (silent : ¬ AsksShutdown e.tunnel.m_read_stream.m_queue) :
    e'.tunnel.m_closed_by_request = e.tunnel.m_closed_by_request := by
  cases e with
  | localEnd l =>
      obtain ⟨l', processed, rfl⟩ := of_map_ok result
      exact StdioTunnelLocal.processFrame_unasked keyed processed silent
  | remoteEnd r =>
      obtain ⟨r', processed, rfl⟩ := of_map_ok result
      exact StdioTunnelRemote.processFrame_unasked keyed processed silent

end Endpoint

end Tun01
