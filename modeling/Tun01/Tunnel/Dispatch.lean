import Tun01.Tunnel.Local
import Tun01.Tunnel.Outcome
import Tun01.Tunnel.Remote

/-!
# Dispatches

An endpoint of either kind, and one dispatch of its poller.  Once the pipes
carry frames a dispatch runs a listener or a link, fills the reader and
processes a frame, empties the writer, or looks after the console.
-/

namespace Tun01

/-- An endpoint of either kind. -/
inductive Endpoint where
  | localEnd (l : StdioTunnelLocal)
  | remoteEnd (r : StdioTunnelRemote)

/-- A dispatch: the object, what `poll` said about it, and the calls it makes. -/
structure Event where
  polled : Polled
  poll_struct : Pollfd
  calls : Calls

/-- The calls on the socket of a link stay within what was asked for. -/
def Event.Within (event : Event) (t : StdioTunnel) : Prop :=
  match event.polled with
  | .connectionLink conn id _ =>
      event.calls.read.ReadsWithin LINK_BUFFER_SIZE ∧
        ∀ l, t.link? conn id = some l → event.calls.write.WritesWithin l.m_buffer.request
  | .stdioTunnel | .listenSide _ _ | .socks5Server => True

namespace Endpoint

def tunnel : Endpoint → StdioTunnel
  | localEnd l => l.toStdioTunnel
  | remoteEnd r => r.toStdioTunnel

def withTunnel : Endpoint → StdioTunnel → Endpoint
  | localEnd l, t => localEnd { l with toStdioTunnel := t }
  | remoteEnd r, t => remoteEnd { r with toStdioTunnel := t }

@[simp] theorem tunnel_withTunnel (e : Endpoint) (t : StdioTunnel) :
    (e.withTunnel t).tunnel = t := by
  cases e <;> rfl

def readFd : Endpoint → Int
  | localEnd l => l.m_read_fd
  | remoteEnd _ => STDIN_FD

def writeFd : Endpoint → Int
  | localEnd l => l.m_write_fd
  | remoteEnd _ => STDOUT_FD

@[simp] theorem writeFd_withTunnel (e : Endpoint) (t : StdioTunnel) :
    (e.withTunnel t).writeFd = e.writeFd := by
  cases e <;> rfl

def dispatch : Endpoint → Event → Except Fault Endpoint
  | localEnd l, event =>
      (l.dispatch event.polled event.poll_struct event.calls).map localEnd
  | remoteEnd r, event =>
      (r.dispatch event.polled event.poll_struct event.calls).map remoteEnd

def processFrame : Endpoint → Calls → Except Fault Endpoint
  | localEnd l, calls => (l.processFrame calls).map localEnd
  | remoteEnd r, calls => (r.processFrame calls).map remoteEnd

/-- The poller dispatches an object that is registered. -/
structure Step (e : Endpoint) (event : Event) (e' : Endpoint) : Prop where
  registered : ∃ record ∈ e.tunnel.registrations event.polled, record.fd = event.poll_struct.fd
  within : event.Within e.tunnel
  result : e.dispatch event = .ok e'

/-- The pipes carry frames, and no descriptor is used twice. -/
inductive Framed : Endpoint → Prop where
  | localEnd {l : StdioTunnelLocal} (state : l.m_state = .HAND_SHAKE ∨ l.m_state = .CONNECTED)
      (pipes : l.m_read_fd ≠ l.m_write_fd) (read : l.m_read_fd ≠ STDOUT_FD)
      (write : l.m_write_fd ≠ STDOUT_FD) : Framed (localEnd l)
  | remoteEnd {r : StdioTunnelRemote}
      (state : r.m_state = .HANDSHAKING ∨ r.m_state = .CONNECTED) : Framed (remoteEnd r)

theorem Framed.withTunnel {e : Endpoint} (framed : e.Framed) (t : StdioTunnel) :
    (e.withTunnel t).Framed := by
  cases framed with
  | localEnd state pipes read write => exact .localEnd state pipes read write
  | remoteEnd state => exact .remoteEnd state

/-! ## The cases of a dispatch -/

theorem dispatch_object {e : Endpoint} {event : Event} (other : event.polled ≠ .stdioTunnel) :
    e.dispatch event =
      (e.tunnel.polledObject event.polled event.poll_struct event.calls).map e.withTunnel := by
  obtain ⟨polled, poll_struct, calls⟩ := event
  cases e with
  | localEnd l =>
      cases polled with
      | stdioTunnel => exact absurd rfl other
      | listenSide _ _ | connectionLink _ _ _ | socks5Server =>
          unfold dispatch StdioTunnelLocal.dispatch
          cases result : l.toStdioTunnel.polledObject _ poll_struct calls <;>
            (dsimp only [tunnel]; rw [result]; rfl)
  | remoteEnd r =>
      cases polled with
      | stdioTunnel => exact absurd rfl other
      | listenSide _ _ | connectionLink _ _ _ | socks5Server =>
          unfold dispatch StdioTunnelRemote.dispatch
          cases result : r.toStdioTunnel.polledObject _ poll_struct calls <;>
            (dsimp only [tunnel]; rw [result]; rfl)

end Endpoint

/-! ## The local endpoint -/

namespace StdioTunnelLocal

variable {l l' : StdioTunnelLocal} {calls : Calls}

/-- A frame changes the state of the endpoint at most to `CONNECTED`. -/
theorem processFrame_state (result : l.processFrame calls = .ok l') :
    ∃ t, l' = { l with toStdioTunnel := t } ∨
      l' = { l with toStdioTunnel := t, m_state := .CONNECTED } := by
  unfold processFrame at result
  obtain ⟨⟨cmd, t⟩, _, result⟩ := of_bind_ok result
  dsimp only at result
  split at result
  · obtain ⟨⟨message, t₁⟩, _, result⟩ := of_bind_ok result
    obtain ⟨t₂, _, result⟩ := of_bind_ok result
    exact ⟨t₂, Or.inl (Except.ok.inj result).symm⟩
  split at result
  · exact ⟨t, Or.inr (Except.ok.inj result).symm⟩
  split at result
  · obtain ⟨⟨id, t₁⟩, _, result⟩ := of_bind_ok result
    obtain ⟨t₂, _, result⟩ := of_bind_ok result
    exact ⟨t₂, Or.inl (Except.ok.inj result).symm⟩
  split at result
  · exact ⟨_, Or.inl (Except.ok.inj result).symm⟩
  · exact ⟨t, Or.inl (Except.ok.inj result).symm⟩

def withReader (l : StdioTunnelLocal) (stream : ReadStream) : StdioTunnelLocal :=
  l.lift fun t => t.withReader stream

theorem polled_read (state : l.m_state = .HAND_SHAKE ∨ l.m_state = .CONNECTED)
    (pipes : l.m_read_fd ≠ l.m_write_fd) (read : l.m_read_fd ≠ STDOUT_FD) {poll_struct : Pollfd}
    (fd : poll_struct.fd = l.m_read_fd) (ready : poll_struct.revents = POLLIN)
    {stream : ReadStream}
    (filled : l.m_read_stream.fill poll_struct calls.header calls.body = .ok stream) :
    l.polled poll_struct calls =
      if stream.available then (l.withReader stream).processFrame calls
      else .ok (l.withReader stream) := by
  have first : l.connectedRead poll_struct calls =
      if stream.available then (l.withReader stream).processFrame calls
      else .ok (l.withReader stream) := by
    unfold connectedRead
    rw [ready, filled]
    rfl
  have arm : l.polled poll_struct calls = l.polledConnected poll_struct calls := by
    unfold polled
    rcases state with state | state <;> rw [state]
  rw [arm, ← first]
  unfold polledConnected
  rw [onFd_self _ _ fd]
  cases result : l.connectedRead poll_struct calls with
  | error fault => rfl
  | ok l₁ =>
      have same : l₁.m_read_fd = l.m_read_fd ∧ l₁.m_write_fd = l.m_write_fd := by
        rw [first] at result
        split at result
        · obtain ⟨t, rfl | rfl⟩ := processFrame_state result <;> exact ⟨rfl, rfl⟩
        · rw [← Except.ok.inj result]
          exact ⟨rfl, rfl⟩
      rw [ok_bind, onFd_of_ne _ _ (by rw [fd, same.2]; exact pipes), ok_bind,
        onFd_of_ne _ _ (by rw [fd]; exact read)]

/-- The writer is emptied as far as the kernel takes bytes. -/
theorem polled_write (state : l.m_state = .HAND_SHAKE ∨ l.m_state = .CONNECTED)
    (pipes : l.m_read_fd ≠ l.m_write_fd) (write : l.m_write_fd ≠ STDOUT_FD) {poll_struct : Pollfd}
    (fd : poll_struct.fd = l.m_write_fd) (ready : poll_struct.revents = POLLOUT)
    {stream : WriteStream} {after : Pollfd} {taken : List Byte}
    (emptied : l.m_write_stream.toWriteStream.empty poll_struct calls.write =
      .ok (stream, after, taken)) :
    ∃ t, l.polled poll_struct calls = .ok { l with toStdioTunnel := t } ∧
      (l.mapWriter fun _ => stream).Beside t := by
  have arm : l.polled poll_struct calls = l.polledConnected poll_struct calls := by
    unfold polled
    rcases state with state | state <;> rw [state]
  have console : poll_struct.fd ≠ STDOUT_FD := by
    rw [fd]
    exact write
  have events := StdioTunnel.Beside.setEvents (l.mapWriter fun _ => stream) after.fd after.events
  rw [arm]
  unfold polledConnected
  rw [onFd_of_ne _ _ (by rw [fd]; exact pipes.symm), ok_bind, onFd_self _ _ fd]
  unfold connectedWrite
  rw [ready, emptied]
  cases more : stream.pendingWrite with
  | true =>
      refine ⟨_, ?_, events⟩
      simp only [ok_bind, more]
      exact onFd_of_ne _ _ console
  | false =>
      refine ⟨_, ?_, events.trans (.setEvents _ l.m_write_fd .zero)⟩
      simp only [ok_bind, more]
      exact onFd_of_ne _ _ console

/-- On any other descriptor the console is looked after. -/
theorem polled_console (state : l.m_state = .HAND_SHAKE ∨ l.m_state = .CONNECTED)
    {poll_struct : Pollfd} (notRead : poll_struct.fd ≠ l.m_read_fd)
    (notWrite : poll_struct.fd ≠ l.m_write_fd) (result : l.polled poll_struct calls = .ok l') :
    ∃ t buffer, l' = { l with toStdioTunnel := t, m_read_buffer := buffer } ∧
      l.toStdioTunnel.Beside t := by
  have arm : l.polled poll_struct calls = l.polledConnected poll_struct calls := by
    unfold polled
    rcases state with state | state <;> rw [state]
  rw [arm] at result
  unfold polledConnected at result
  rw [onFd_of_ne _ _ notRead, ok_bind, onFd_of_ne _ _ notWrite, ok_bind] at result
  unfold onFd at result
  split at result
  · unfold connectedStdout at result
    split at result
    · unfold writeDetected at result
      obtain ⟨_, _, result⟩ := of_bind_ok result
      rw [← Except.ok.inj result]
      exact ⟨l.toStdioTunnel, _, rfl, .refl _⟩
    · rw [← Except.ok.inj result]
      exact ⟨_, l.m_read_buffer, rfl, .removePolled _ STDOUT_FD⟩
  · rw [← Except.ok.inj result]
    exact ⟨l.toStdioTunnel, l.m_read_buffer, rfl, .refl _⟩

end StdioTunnelLocal

/-! ## The remote endpoint -/

namespace StdioTunnelRemote

variable {r r' : StdioTunnelRemote} {calls : Calls}

def withReader (r : StdioTunnelRemote) (stream : ReadStream) : StdioTunnelRemote :=
  r.lift fun t => t.withReader stream

theorem polled_read {poll_struct : Pollfd} (fd : poll_struct.fd = STDIN_FD)
    (ready : poll_struct.revents = POLLIN) {stream : ReadStream}
    (filled : r.m_read_stream.fill poll_struct calls.header calls.body = .ok stream) :
    r.polled poll_struct calls =
      if stream.available then (r.withReader stream).processFrame calls
      else .ok (r.withReader stream) := by
  have first : r.polledStdin poll_struct calls =
      if stream.available then (r.withReader stream).processFrame calls
      else .ok (r.withReader stream) := by
    unfold polledStdin
    rw [ready, filled]
    rfl
  rw [← first]
  unfold polled
  rw [onFd_self _ _ fd]
  cases r.polledStdin poll_struct calls with
  | error fault => rfl
  | ok r₁ =>
      rw [ok_bind, onFd_of_ne _ _ (by rw [fd]; decide)]

theorem polled_write {poll_struct : Pollfd} (fd : poll_struct.fd = STDOUT_FD)
    (ready : poll_struct.revents = POLLOUT) {stream : WriteStream} {after : Pollfd}
    {taken : List Byte}
    (emptied : r.m_write_stream.toWriteStream.empty poll_struct calls.write =
      .ok (stream, after, taken)) :
    ∃ t, r.polled poll_struct calls = .ok { r with toStdioTunnel := t } ∧
      (r.mapWriter fun _ => stream).Beside t := by
  have events := StdioTunnel.Beside.setEvents (r.mapWriter fun _ => stream) after.fd after.events
  unfold polled
  rw [onFd_of_ne _ _ (by rw [fd]; decide), ok_bind, onFd_self _ _ fd]
  unfold polledStdout
  rw [ready, emptied]
  cases more : stream.pendingWrite with
  | true =>
      refine ⟨_, ?_, events⟩
      simp only [ok_bind, more]
      rfl
  | false =>
      refine ⟨_, ?_, events.trans (.setEvents _ STDOUT_FD .zero)⟩
      simp only [ok_bind, more]
      rfl

theorem polled_other {poll_struct : Pollfd} (notRead : poll_struct.fd ≠ STDIN_FD)
    (notWrite : poll_struct.fd ≠ STDOUT_FD) : r.polled poll_struct calls = .ok r := by
  unfold polled
  rw [onFd_of_ne _ _ notRead, ok_bind, onFd_of_ne _ _ notWrite]

end StdioTunnelRemote

/-! ## Either endpoint -/

namespace Endpoint

variable {e e' : Endpoint} {poll_struct : Pollfd} {calls : Calls}

/-- The reader is filled, and a frame that is complete is processed. -/
theorem dispatch_read (framed : e.Framed) (fd : poll_struct.fd = e.readFd)
    (ready : poll_struct.revents = POLLIN) {stream : ReadStream}
    (filled : e.tunnel.m_read_stream.fill poll_struct calls.header calls.body = .ok stream) :
    e.dispatch ⟨.stdioTunnel, poll_struct, calls⟩ =
      if stream.available then
        (e.withTunnel (e.tunnel.withReader stream)).processFrame calls
      else .ok (e.withTunnel (e.tunnel.withReader stream)) := by
  cases framed with
  | localEnd state pipes read write =>
      have arm := StdioTunnelLocal.polled_read state pipes read fd ready filled
      change (StdioTunnelLocal.polled _ _ _).map _ = _
      rw [arm]
      split <;> rfl
  | remoteEnd state =>
      have arm := StdioTunnelRemote.polled_read fd ready filled
      change (StdioTunnelRemote.polled _ _ _).map _ = _
      rw [arm]
      split <;> rfl

/-- The writer is emptied as far as the kernel takes bytes. -/
theorem dispatch_write (framed : e.Framed) (fd : poll_struct.fd = e.writeFd)
    (ready : poll_struct.revents = POLLOUT) {stream : WriteStream} {after : Pollfd}
    {taken : List Byte}
    (emptied : e.tunnel.m_write_stream.toWriteStream.empty poll_struct calls.write =
      .ok (stream, after, taken)) :
    ∃ t, e.dispatch ⟨.stdioTunnel, poll_struct, calls⟩ = .ok (e.withTunnel t) ∧
      (e.tunnel.mapWriter fun _ => stream).Beside t := by
  cases framed with
  | localEnd state pipes read write =>
      obtain ⟨t, arm, beside⟩ :=
        StdioTunnelLocal.polled_write state pipes write fd ready emptied
      refine ⟨t, ?_, beside⟩
      change (StdioTunnelLocal.polled _ _ _).map _ = _
      rw [arm]
      rfl
  | remoteEnd state =>
      obtain ⟨t, arm, beside⟩ := StdioTunnelRemote.polled_write fd ready emptied
      refine ⟨t, ?_, beside⟩
      change (StdioTunnelRemote.polled _ _ _).map _ = _
      rw [arm]
      rfl

/-- On any other descriptor only the console and the records of the endpoint change. -/
theorem dispatch_console (framed : e.Framed) (notRead : poll_struct.fd ≠ e.readFd)
    (notWrite : poll_struct.fd ≠ e.writeFd)
    (result : e.dispatch ⟨.stdioTunnel, poll_struct, calls⟩ = .ok e') :
    e.tunnel.Beside e'.tunnel ∧ e'.readFd = e.readFd ∧ e'.writeFd = e.writeFd ∧ e'.Framed := by
  cases framed with
  | localEnd state pipes read write =>
      obtain ⟨l', arm, rfl⟩ := of_map_ok result
      obtain ⟨t, buffer, rfl, beside⟩ :=
        StdioTunnelLocal.polled_console state notRead notWrite arm
      exact ⟨beside, rfl, rfl, .localEnd state pipes read write⟩
  | @remoteEnd r state =>
      obtain ⟨r', arm, rfl⟩ := of_map_ok result
      have idle := @StdioTunnelRemote.polled_other r calls _ notRead notWrite
      change StdioTunnelRemote.polled _ _ _ = _ at arm
      rw [idle] at arm
      rw [← Except.ok.inj arm]
      exact ⟨.refl _, rfl, rfl, .remoteEnd state⟩

end Endpoint

end Tun01
