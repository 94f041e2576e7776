import Tun01.Tunnel.Frames
import Tun01.Tunnel.LiveLinks
import Tun01.Tunnel.OwnRecords

/-!
# Frames that wait to be written

Past the handshake an endpoint asks for output on its pipe as long as frames
wait, whoever queued them and however little of them the kernel takes.
-/

namespace Tun01

open StdioTunnel (Aside Arms Still)

/-! ## The local endpoint -/

namespace StdioTunnelLocal

variable {l l' : StdioTunnelLocal} {poll_struct : Pollfd} {calls : Calls}

theorem processFrame_arms (keyed : l.Keyed) (result : l.processFrame calls = .ok l') :
    Arms l.toStdioTunnel l'.toStdioTunnel := by
  unfold processFrame at result
  obtain ⟨⟨cmd, t⟩, first, result⟩ := of_bind_ok result
  obtain ⟨q, _, rfl⟩ := StdioTunnel.readShort_split first
  have read : Aside l.toStdioTunnel (l.toStdioTunnel.reading q) := .withReader _ _
  have same : Arms l.toStdioTunnel (l.toStdioTunnel.reading q) := .still fun _ => ⟨rfl, rfl⟩
  dsimp only at result
  split at result
  · obtain ⟨⟨message, t₁⟩, text, result⟩ := of_bind_ok result
    obtain ⟨t₂, reports, result⟩ := of_bind_ok result
    obtain rfl := Except.ok.inj result
    unfold StdioTunnel.readString at text
    obtain ⟨⟨bytes, stream⟩, _, text⟩ := of_bind_ok text
    obtain ⟨rfl, rfl⟩ := Prod.mk.inj (Except.ok.inj text)
    have both := read.trans (.withReader (l.toStdioTunnel.reading q) stream)
    have again : Arms l.toStdioTunnel ((l.toStdioTunnel.reading q).withReader stream) :=
      .still fun _ => ⟨rfl, rfl⟩
    exact again.trans (.reportError (both.keyed keyed).ready reports)
  split at result
  · obtain rfl := Except.ok.inj result
    exact same
  split at result
  · obtain ⟨⟨id, t₁⟩, second, result⟩ := of_bind_ok result
    obtain ⟨t₂, third, result⟩ := of_bind_ok result
    obtain rfl := Except.ok.inj result
    obtain ⟨q', _, rfl⟩ := StdioTunnel.readShort_split second
    have again : Arms l.toStdioTunnel ((l.toStdioTunnel.reading q).reading q') :=
      .still fun _ => ⟨rfl, rfl⟩
    exact again.trans (.dispatchMessage ((read.keyed keyed).reading q') third)
  split at result
  · obtain rfl := Except.ok.inj result
    exact .still fun _ => ⟨rfl, rfl⟩
  · obtain rfl := Except.ok.inj result
    exact same

/--
The write end of the pipe is no other descriptor, it has one record, and past
the handshake frames that wait ask for output.
-/
structure Piped (l : StdioTunnelLocal) : Prop where
  fd : l.m_write_stream.m_fd = l.m_write_fd
  pipes : l.m_read_fd ≠ l.m_write_fd
  stdin : STDIN_FD ≠ l.m_write_fd
  stdout : STDOUT_FD ≠ l.m_write_fd
  once : l.Once l.m_write_fd
  armed : l.m_state ≠ .PASS_THROUGH → l.Armed

namespace Piped

variable (piped : l.Piped)

include piped

/-- Past the handshake. -/
theorem arms (arms : Arms l.toStdioTunnel l'.toStdioTunnel) (past : l.m_state ≠ .PASS_THROUGH)
    (read_fd : l'.m_read_fd = l.m_read_fd) (write_fd : l'.m_write_fd = l.m_write_fd) : l'.Piped := by
  have armed := arms.kept (piped.armed past)
  have fd : l'.m_write_stream.m_fd = l'.m_write_fd := by rw [arms.fd, write_fd, piped.fd]
  refine ⟨fd, ?_, ?_, ?_, ?_, fun _ => armed⟩
  · rw [read_fd, write_fd]
    exact piped.pipes
  · rw [write_fd]
    exact piped.stdin
  · rw [write_fd]
    exact piped.stdout
  · rw [← fd]
    exact armed.once

/-- Where the writer and the record for the pipe stay. -/
theorem still (still : Still l.m_write_fd l.toStdioTunnel l'.toStdioTunnel)
    (state : l'.m_state = l.m_state) (read_fd : l'.m_read_fd = l.m_read_fd)
    (write_fd : l'.m_write_fd = l.m_write_fd) : l'.Piped := by
  have same : Still l.m_write_stream.m_fd l.toStdioTunnel l'.toStdioTunnel := by
    rw [piped.fd]
    exact still
  refine ⟨?_, ?_, ?_, ?_, ?_, fun past => ?_⟩
  · rw [still.writer, write_fd]
    exact piped.fd
  · rw [read_fd, write_fd]
    exact piped.pipes
  · rw [write_fd]
    exact piped.stdin
  · rw [write_fd]
    exact piped.stdout
  · rw [write_fd]
    exact still.once piped.once
  · rw [state] at past
    exact same.armed (piped.armed past)

/-- Output is asked for. -/
theorem ask (l₀ : StdioTunnelLocal)
    (same : ∃ buffer, l₀ = { l with m_write_buffer := buffer }) :
    (l₀.lift fun t => t.setEvents .stdioTunnel l₀.m_write_fd POLLOUT).Piped := by
  obtain ⟨buffer, rfl⟩ := same
  refine ⟨piped.fd, piped.pipes, piped.stdin, piped.stdout, piped.once.setEvents _ _, fun past => ?_⟩
  obtain ⟨record, one, _⟩ := piped.armed past
  refine ⟨{ record with events := POLLOUT }, ?_, fun _ => rfl⟩
  have set := StdioTunnel.own_set one POLLOUT
  rw [piped.fd] at set
  exact (congrArg _ piped.fd).trans set

/-- Before the handshake the request may be taken back. -/
theorem quiet (state : l.m_state = .PASS_THROUGH) (l₀ : StdioTunnelLocal)
    (same : ∃ buffer, l₀ = { l with m_write_buffer := buffer }) :
    (l₀.lift fun t => t.setEvents .stdioTunnel l₀.m_write_fd .zero).Piped := by
  obtain ⟨buffer, rfl⟩ := same
  exact ⟨piped.fd, piped.pipes, piped.stdin, piped.stdout, piped.once.setEvents _ _,
    fun past => absurd state past⟩

theorem greeting : l.greeting.Piped := by
  have once : l.toStdioTunnel.Once l.m_write_stream.m_fd := by
    rw [piped.fd]
    exact piped.once
  have armed := once.emit (Message.handshake l.connections).payload
  have still : Still (l.toStdioTunnel.emit
      (Message.handshake l.connections).payload).m_write_stream.m_fd _
      ((l.toStdioTunnel.emit (Message.handshake l.connections).payload).removePolled .stdioTunnel
        STDIN_FD) :=
    .removePolled _ (by
      change STDIN_FD ≠ l.m_write_stream.m_fd
      rw [piped.fd]
      exact piped.stdin)
  have after := still.armed armed
  refine ⟨piped.fd, piped.pipes, piped.stdin, piped.stdout, ?_, fun _ => after⟩
  have same := after.once
  change StdioTunnel.Once _ l.m_write_stream.m_fd at same
  rw [piped.fd] at same
  exact same

end Piped

theorem performs_piped {made : List DetectorCall} (keyed : l.Keyed)
    (result : made.foldlM (perform calls) l = .ok l') (piped : l.Piped) : l'.Piped := by
  induction made generalizing l with
  | nil =>
      rw [← Except.ok.inj result]
      exact piped
  | cons call rest ih =>
      rw [List.foldlM_cons] at result
      obtain ⟨l₁, first, later⟩ := of_bind_ok result
      refine ih ((perform_passes keyed first).aside.keyed keyed) later ?_
      cases call with
      | startHandshaking =>
          rw [startHandshaking_greeting keyed.ready first]
          exact piped.greeting
      | remoteInit =>
          rw [remoteInit_self first]
          exact piped
      | outOfRange => cases first

theorem passRead_piped (keyed : l.Keyed) (piped : l.Piped) (result : l.passRead calls = .ok l') :
    l'.Piped := by
  unfold passRead at result
  obtain ⟨⟨l₀, count⟩, detected, result⟩ := of_bind_ok result
  obtain ⟨l₁, buffer, made, rfl⟩ := detectLoop_performs detected
  have read : (l₁.setDetector fun _ =>
      (l.m_read_buffer.detectAll (SockBuffer.chunks calls.reads)).1.withBuffer buffer).Piped :=
    (performs_piped keyed made piped).still (.refl _) rfl rfl rfl
  dsimp only at result
  split at result
  · cases result
  split at result
  · obtain rfl := Except.ok.inj result
    exact read.still (.setEvents _ POLLOUT read.stdout) rfl rfl rfl
  · obtain rfl := Except.ok.inj result
    exact read

theorem passWrite_piped (state : l.m_state = .PASS_THROUGH) (piped : l.Piped)
    (result : l.passWrite poll_struct calls = .ok l') : l'.Piped := by
  unfold passWrite at result
  split at result
  · obtain ⟨l₀, written, result⟩ := of_bind_ok result
    have same := writeTyped_same written
    split at result
    · obtain rfl := Except.ok.inj result
      obtain ⟨buffer, rfl⟩ := same
      exact piped.still (.refl _) rfl rfl rfl
    · obtain rfl := Except.ok.inj result
      exact piped.quiet state l₀ same
  · cases result

theorem passStdin_piped (piped : l.Piped) (result : l.passStdin calls = .ok l') : l'.Piped := by
  unfold passStdin at result
  obtain ⟨⟨buffer, count⟩, _, result⟩ := of_bind_ok result
  dsimp only at result
  split at result
  · cases result
  split at result
  · obtain rfl := Except.ok.inj result
    exact piped.ask { l with m_write_buffer := buffer } ⟨buffer, rfl⟩
  · obtain rfl := Except.ok.inj result
    exact piped.still (.refl _) rfl rfl rfl

theorem passStdout_piped (piped : l.Piped) (result : l.passStdout poll_struct calls = .ok l') :
    l'.Piped := by
  unfold passStdout at result
  split at result
  · obtain ⟨l₀, written, result⟩ := of_bind_ok result
    obtain ⟨buffer, rfl⟩ := writeDetected_same written
    split at result
    · obtain rfl := Except.ok.inj result
      exact piped.still (.refl _) rfl rfl rfl
    · obtain rfl := Except.ok.inj result
      exact piped.still (.setEvents _ .zero piped.stdout) rfl rfl rfl
  · cases result

/-- A branch that is taken or not. -/
theorem onFd_piped {fd : Int} {branch : Except Fault StdioTunnelLocal} (piped : l.Piped)
    (taken : branch = .ok l' → l'.Piped) (result : onFd poll_struct fd l branch = .ok l') :
    l'.Piped := by
  unfold onFd at result
  split at result
  · exact taken result
  · rw [← Except.ok.inj result]
    exact piped

theorem polledPassThrough_piped (keyed : l.Keyed) (state : l.m_state = .PASS_THROUGH)
    (piped : l.Piped) (result : l.polledPassThrough poll_struct calls = .ok l') : l'.Piped := by
  unfold polledPassThrough at result
  obtain ⟨l₁, reads, result⟩ := of_bind_ok result
  obtain ⟨l₂, writes, result⟩ := of_bind_ok result
  obtain ⟨l₃, typed, result⟩ := of_bind_ok result
  have second : l₂.Piped := by
    by_cases here : poll_struct.fd = l.m_read_fd
    · rw [onFd_self _ _ here] at reads
      have first := passRead_piped keyed piped reads
      rw [onFd_of_ne _ _ (by
        rw [here, (passRead_passes keyed reads).write_fd]
        exact piped.pipes)] at writes
      rw [← Except.ok.inj writes]
      exact first
    · rw [onFd_of_ne _ _ here] at reads
      obtain rfl := Except.ok.inj reads
      exact onFd_piped piped (passWrite_piped state piped) writes
  have third := onFd_piped second (passStdin_piped second) typed
  exact onFd_piped third (passStdout_piped third) result

theorem connectedRead_arms (keyed : l.Keyed) (result : l.connectedRead poll_struct calls = .ok l') :
    Arms l.toStdioTunnel l'.toStdioTunnel ∧ ∃ t, l' = { l with toStdioTunnel := t } ∨
      l' = { l with toStdioTunnel := t, m_state := .CONNECTED } := by
  unfold connectedRead at result
  split at result
  · cases result
  obtain ⟨stream, _, result⟩ := of_bind_ok result
  dsimp only at result
  have filled : Arms l.toStdioTunnel (l.withReader stream).toStdioTunnel :=
    .still fun _ => ⟨rfl, rfl⟩
  split at result
  · have read : Aside l.toStdioTunnel (l.withReader stream).toStdioTunnel := .withReader _ _
    have handled := processFrame_arms (l := l.withReader stream) (read.keyed keyed) result
    exact ⟨filled.trans handled, processFrame_state (l := l.withReader stream) result⟩
  · obtain rfl := Except.ok.inj result
    exact ⟨filled, _, Or.inl rfl⟩

theorem connectedRead_piped (keyed : l.Keyed) (past : l.m_state ≠ .PASS_THROUGH) (piped : l.Piped)
    (result : l.connectedRead poll_struct calls = .ok l') : l'.Piped := by
  obtain ⟨arms, t, rfl | rfl⟩ := connectedRead_arms keyed result
  · exact piped.arms arms past rfl rfl
  · exact piped.arms arms past rfl rfl

theorem connectedWrite_arms (past : l.m_state ≠ .PASS_THROUGH) (piped : l.Piped)
    (here : poll_struct.fd = l.m_write_fd)
    (record : ∃ record ∈ l.registrations .stdioTunnel, record.fd = poll_struct.fd ∧
      record.events = poll_struct.events)
    (result : l.connectedWrite poll_struct calls = .ok l') :
    Arms l.toStdioTunnel l'.toStdioTunnel ∧ ∃ t, l' = { l with toStdioTunnel := t } := by
  unfold connectedWrite at result
  split at result
  · cases result
  obtain ⟨⟨stream, after, taken⟩, empties, result⟩ := of_bind_ok result
  obtain ⟨armed, fd⟩ := (piped.armed past).written (here.trans piped.fd.symm) record empties
  have mine : after.fd = l.m_write_stream.m_fd := by rw [fd, here, piped.fd]
  have arms : Arms l.toStdioTunnel
      ((l.toStdioTunnel.mapWriter fun _ => stream).setEvents .stdioTunnel after.fd after.events) :=
    ⟨fun _ => armed, rfl, fun fd other =>
      (StdioTunnel.own_setEvents _ _ _ _).trans (if_neg (by rw [mine]; exact other))⟩
  dsimp only at result
  split at result
  · obtain rfl := Except.ok.inj result
    exact ⟨arms, _, rfl⟩
  · rename_i none
    obtain rfl := Except.ok.inj result
    refine ⟨arms.trans ⟨fun armed => ?_, rfl, fun fd other => ?_⟩, _, rfl⟩
    · exact armed.idle (eq_false_of_ne_true none) .zero piped.fd.symm
    · exact (StdioTunnel.own_setEvents _ _ _ _).trans
        (if_neg fun same => other (piped.fd.trans same))

theorem connectedWrite_piped (past : l.m_state ≠ .PASS_THROUGH) (piped : l.Piped)
    (here : poll_struct.fd = l.m_write_fd)
    (record : ∃ record ∈ l.registrations .stdioTunnel, record.fd = poll_struct.fd ∧
      record.events = poll_struct.events)
    (result : l.connectedWrite poll_struct calls = .ok l') : l'.Piped := by
  obtain ⟨arms, t, rfl⟩ := connectedWrite_arms past piped here record result
  exact piped.arms arms past rfl rfl

theorem connectedStdout_piped (piped : l.Piped) (result : l.connectedStdout calls = .ok l') :
    l'.Piped := by
  unfold connectedStdout at result
  split at result
  · obtain ⟨buffer, rfl⟩ := writeDetected_same result
    exact piped.still (.refl _) rfl rfl rfl
  · obtain rfl := Except.ok.inj result
    exact piped.still (.removePolled _ piped.stdout) rfl rfl rfl

theorem polledConnected_piped (keyed : l.Keyed) (past : l.m_state ≠ .PASS_THROUGH) (piped : l.Piped)
    (record : ∃ record ∈ l.registrations .stdioTunnel, record.fd = poll_struct.fd ∧
      record.events = poll_struct.events)
    (result : l.polledConnected poll_struct calls = .ok l') : l'.Piped := by
  unfold polledConnected at result
  obtain ⟨l₁, reads, result⟩ := of_bind_ok result
  obtain ⟨l₂, writes, result⟩ := of_bind_ok result
  have second : l₂.Piped := by
    by_cases here : poll_struct.fd = l.m_read_fd
    · rw [onFd_self _ _ here] at reads
      have first := connectedRead_piped keyed past piped reads
      have fd := (connectedRead_queues keyed reads).2.2.2
      rw [onFd_of_ne _ _ (by
        rw [here, fd]
        exact piped.pipes)] at writes
      rw [← Except.ok.inj writes]
      exact first
    · rw [onFd_of_ne _ _ here] at reads
      obtain rfl := Except.ok.inj reads
      by_cases pipe : poll_struct.fd = l.m_write_fd
      · rw [onFd_self _ _ pipe] at writes
        exact connectedWrite_piped past piped pipe record writes
      · rw [onFd_of_ne _ _ pipe] at writes
        rw [← Except.ok.inj writes]
        exact piped
  exact onFd_piped second (connectedStdout_piped second) result

theorem dispatch_piped {event : Event} (keyed : l.Keyed) (piped : l.Piped)
    (record : ∃ record ∈ l.registrations event.polled, record.fd = event.poll_struct.fd ∧
      record.events = event.poll_struct.events)
    (result : l.dispatch event.polled event.poll_struct event.calls = .ok l') : l'.Piped := by
  unfold dispatch at result
  split at result
  · rename_i self
    rw [self] at record
    unfold polled at result
    split at result
    · rename_i state
      exact polledPassThrough_piped keyed state piped result
    · rename_i state
      exact polledConnected_piped keyed (by rw [state]; exact nofun) piped record result
    · rename_i state
      exact polledConnected_piped keyed (by rw [state]; exact nofun) piped record result
    · rw [← Except.ok.inj result]
      exact piped
  · obtain ⟨t, handled, result⟩ := of_bind_ok result
    obtain rfl := Except.ok.inj result
    have arms := Arms.object keyed handled
    exact ⟨arms.fd.trans piped.fd, piped.pipes, piped.stdin, piped.stdout,
      piped.once.object keyed handled, fun past => arms.kept (piped.armed past)⟩

end StdioTunnelLocal

namespace StdioTunnelLocal

/-- The connections leave the writer and the records of the endpoint alone. -/
theorem createConnections_still {l l' : StdioTunnelLocal} {calls : Calls} {fd : Int}
    {specs : List ConnectionSpec} {g_id : Short} {i : Nat}
    (result : l.createConnections calls g_id i specs = .ok l') :
    Still fd l.toStdioTunnel l'.toStdioTunnel := by
  induction specs generalizing l g_id i with
  | nil =>
      rw [← Except.ok.inj result]
      exact .refl _
  | cons spec specs ih =>
      unfold createConnections at result
      obtain ⟨⟨t, pConn⟩, creates, result⟩ := of_bind_ok result
      have first : Still fd l.toStdioTunnel t := .CreateConnection creates
      have later := ih result
      cases pConn with
      | none => exact first.trans later
      | some c =>
          have stored : Still fd t (t.putConnection c.m_id c) := ⟨rfl, rfl⟩
          exact (first.trans stored).trans later

end StdioTunnelLocal

/-! ## The remote endpoint -/

namespace StdioTunnelRemote

variable {r r' : StdioTunnelRemote} {poll_struct : Pollfd} {calls : Calls}

theorem setupSocks5_still {fd : Int} {spec spec' : ConnectionSpec}
    (result : r.setupSocks5 spec calls = .ok (r', spec')) :
    Still fd r.toStdioTunnel r'.toStdioTunnel := by
  unfold setupSocks5 at result
  split at result
  · split at result
    · cases result
    · split at result
      · cases result
      · cases result
      · cases result
      · obtain ⟨rfl, _⟩ := Prod.mk.inj (Except.ok.inj result)
        exact .addOther (x := .socks5Server) r.toStdioTunnel nofun _ _
  · obtain ⟨rfl, _⟩ := Prod.mk.inj (Except.ok.inj result)
    exact .refl _

theorem createConnections_still {fd : Int} {i remaining : Nat}
    (result : r.createConnections calls i remaining = .ok r') :
    Still fd r.toStdioTunnel r'.toStdioTunnel := by
  induction remaining generalizing r i with
  | zero =>
      rw [← Except.ok.inj result]
      exact .refl _
  | succ remaining ih =>
      unfold createConnections at result
      obtain ⟨⟨id, t₁⟩, first, result⟩ := of_bind_ok result
      obtain ⟨q, _, rfl⟩ := StdioTunnel.readShort_split first
      obtain ⟨⟨spec, stream⟩, _, result⟩ := of_bind_ok result
      obtain ⟨⟨r₁, spec'⟩, server, result⟩ := of_bind_ok result
      obtain ⟨⟨t₂, pConn⟩, creates, result⟩ := of_bind_ok result
      have read : Still fd r.toStdioTunnel (r.toStdioTunnel.withReader stream) := ⟨rfl, rfl⟩
      have created : Still fd r₁.toStdioTunnel t₂ := .CreateConnection creates
      have more := ih result
      have upTo := (read.trans (setupSocks5_still server)).trans created
      cases pConn with
      | none => exact upTo.trans more
      | some c =>
          have stored : Still fd t₂ (t₂.putConnection id.val c) := ⟨rfl, rfl⟩
          exact (upTo.trans stored).trans more

theorem processFrame_arms (keyed : r.Keyed) (result : r.processFrame calls = .ok r') :
    Arms r.toStdioTunnel r'.toStdioTunnel := by
  unfold processFrame at result
  obtain ⟨⟨command, t₁⟩, first, result⟩ := of_bind_ok result
  obtain ⟨q, _, rfl⟩ := StdioTunnel.readShort_split first
  have read : Aside r.toStdioTunnel (r.toStdioTunnel.reading q) := .withReader _ _
  have same : Arms r.toStdioTunnel (r.toStdioTunnel.reading q) := .still fun _ => ⟨rfl, rfl⟩
  dsimp only at result
  split at result
  · split at result
    · cases result
    obtain ⟨⟨count, t₂⟩, second, result⟩ := of_bind_ok result
    obtain ⟨q', _, rfl⟩ := StdioTunnel.readShort_split second
    obtain ⟨r₁, creates, result⟩ := of_bind_ok result
    obtain ⟨t₃, reply, result⟩ := of_bind_ok result
    have again : Arms r.toStdioTunnel (r.toStdioTunnel.reading q') := .still fun _ => ⟨rfl, rfl⟩
    have created : Arms (r.toStdioTunnel.reading q') r₁.toStdioTunnel :=
      .still fun _ => createConnections_still creates
    have ready := ((createConnections_starts creates).keyed ((read.keyed keyed).reading q')).ready
    obtain rfl := Except.ok.inj ((StdioTunnelRemote.send_agreed ready).symm.trans reply)
    rw [← Except.ok.inj result]
    exact (again.trans created).trans (.emit _ _)
  · split at result
    · rw [← Except.ok.inj result]
      exact .still fun _ => ⟨rfl, rfl⟩
    split at result
    · cases result
    · obtain ⟨⟨id, t₁⟩, second, result⟩ := of_bind_ok result
      obtain ⟨t₂, third, result⟩ := of_bind_ok result
      obtain rfl := Except.ok.inj result
      obtain ⟨q', _, rfl⟩ := StdioTunnel.readShort_split second
      have again : Arms r.toStdioTunnel ((r.toStdioTunnel.reading q).reading q') :=
        .still fun _ => ⟨rfl, rfl⟩
      exact again.trans (.dispatchMessage ((read.keyed keyed).reading q') third)
  · rw [← Except.ok.inj result]
    exact same

theorem polledStdin_arms (keyed : r.Keyed) (result : r.polledStdin poll_struct calls = .ok r') :
    Arms r.toStdioTunnel r'.toStdioTunnel := by
  unfold polledStdin at result
  cases failed : poll_struct.revents.failure with
  | true =>
      rw [failed] at result
      cases result
  | false =>
      cases ready : poll_struct.revents.POLLIN with
      | false =>
          rw [failed, ready] at result
          cases result
      | true =>
          rw [failed, ready] at result
          obtain ⟨stream, _, result⟩ := of_bind_ok result
          have filled : Arms r.toStdioTunnel (r.withReader stream).toStdioTunnel :=
            .still fun _ => ⟨rfl, rfl⟩
          dsimp only at result
          split at result
          · have read : Aside r.toStdioTunnel (r.withReader stream).toStdioTunnel :=
              .withReader _ _
            exact filled.trans
              (processFrame_arms (r := r.withReader stream) (read.keyed keyed) result)
          · rw [← Except.ok.inj result]
            exact filled

/-- Standard output has one record, which asks for output while frames wait. -/
structure Piped (r : StdioTunnelRemote) : Prop where
  fd : r.m_write_stream.m_fd = STDOUT_FD
  armed : r.Armed

theorem polledStdout_piped (piped : r.Piped) (here : poll_struct.fd = STDOUT_FD)
    (record : ∃ record ∈ r.registrations .stdioTunnel, record.fd = poll_struct.fd ∧
      record.events = poll_struct.events)
    (result : r.polledStdout poll_struct calls = .ok r') : r'.Piped := by
  unfold polledStdout at result
  split at result
  · rw [← Except.ok.inj result]
    exact ⟨piped.fd, piped.armed⟩
  · obtain ⟨⟨stream, after, taken⟩, empties, result⟩ := of_bind_ok result
    obtain ⟨armed, fd⟩ := piped.armed.written (here.trans piped.fd.symm) record empties
    dsimp only at result
    split at result
    · rw [← Except.ok.inj result]
      exact ⟨piped.fd, armed⟩
    · rename_i none
      rw [← Except.ok.inj result]
      exact ⟨piped.fd, armed.idle (eq_false_of_ne_true none) .zero piped.fd.symm⟩

theorem dispatch_piped {event : Event} (keyed : r.Keyed) (piped : r.Piped)
    (record : ∃ record ∈ r.registrations event.polled, record.fd = event.poll_struct.fd ∧
      record.events = event.poll_struct.events)
    (result : r.dispatch event.polled event.poll_struct event.calls = .ok r') : r'.Piped := by
  have moved : ∀ {t : StdioTunnel}, Arms r.toStdioTunnel t → t.m_write_stream.m_fd = STDOUT_FD ∧
      t.Armed := fun arms => ⟨arms.fd.trans piped.fd, arms.kept piped.armed⟩
  unfold dispatch at result
  split at result
  · rename_i self
    rw [self] at record
    unfold polled at result
    obtain ⟨r₁, reads, result⟩ := of_bind_ok result
    by_cases here : event.poll_struct.fd = STDIN_FD
    · rw [onFd_self _ _ here] at reads
      rw [onFd_of_ne _ _ (by rw [here]; decide)] at result
      rw [← Except.ok.inj result]
      obtain ⟨fd, armed⟩ := moved (polledStdin_arms keyed reads)
      exact ⟨fd, armed⟩
    · rw [onFd_of_ne _ _ here] at reads
      obtain rfl := Except.ok.inj reads
      by_cases pipe : event.poll_struct.fd = STDOUT_FD
      · rw [onFd_self _ _ pipe] at result
        exact polledStdout_piped piped pipe record result
      · rw [onFd_of_ne _ _ pipe] at result
        rw [← Except.ok.inj result]
        exact piped
  · obtain ⟨t, handled, result⟩ := of_bind_ok result
    obtain rfl := Except.ok.inj result
    obtain ⟨fd, armed⟩ := moved (.object keyed handled)
    exact ⟨fd, armed⟩

end StdioTunnelRemote

/-! ## Either endpoint -/

namespace Endpoint

variable {e e' : Endpoint} {event : Event} {events : List Event}

/-- The poller hands a record that is registered to the object. -/
structure Polls (e : Endpoint) (event : Event) (e' : Endpoint) : Prop where
  step : e.Step event e'
  record : ∃ record ∈ e.tunnel.registrations event.polled, record.fd = event.poll_struct.fd ∧
    record.events = event.poll_struct.events

/-- The descriptors of the pipes are new ones. -/
def Apart (e : Endpoint) : Prop :=
  ∀ l, e = .localEnd l → l.m_read_fd ≠ l.m_write_fd ∧ STDIN_FD ≠ l.m_write_fd ∧
    STDOUT_FD ≠ l.m_write_fd

def Piped : Endpoint → Prop
  | localEnd l => l.Piped
  | remoteEnd r => r.Piped

theorem Piped.step (piped : e.Piped) (waitsEmpty : e.WaitsEmpty) (polls : e.Polls event e') :
    e'.Piped := by
  have result := polls.step.result
  cases e with
  | localEnd l =>
      obtain ⟨l', dispatched, rfl⟩ := of_map_ok result
      exact StdioTunnelLocal.dispatch_piped waitsEmpty.keyed piped polls.record dispatched
  | remoteEnd r =>
      obtain ⟨r', dispatched, rfl⟩ := of_map_ok result
      exact StdioTunnelRemote.dispatch_piped waitsEmpty.keyed piped polls.record dispatched

theorem Piped.armed (piped : e.Piped)
    (past : ∀ l, e = .localEnd l → l.m_state ≠ .PASS_THROUGH) : e.tunnel.Armed := by
  cases e with
  | localEnd l => exact StdioTunnelLocal.Piped.armed piped (past l rfl)
  | remoteEnd r => exact StdioTunnelRemote.Piped.armed piped

/-- When the polling loop begins the pipe has its record. -/
theorem Started.piped (started : e.Started) (apart : e.Apart) : e.Piped := by
  cases started with
  | @localEnd _ _ l l' read_fd write_fd calls configured start =>
      have configures := StdioTunnelLocal.configure_configures configured
      obtain ⟨l₁, creates, connects, rfl⟩ := StdioTunnelLocal.start_started configures.state start
      obtain ⟨pipes, stdin, stdout⟩ := apart _ rfl
      have still : Still l₁.m_write_fd _ l₁.toStdioTunnel :=
        StdioTunnelLocal.createConnections_still creates
      have empty : l₁.own l₁.m_write_fd = [] := by
        rw [still.own, show StdioTunnelLocal.toStdioTunnel _ = _ from configures.base]
        rfl
      have write_fd' : l₁.m_write_fd = write_fd := by rw [connects.same]
      refine ⟨write_fd'.symm, pipes, stdin, stdout, ⟨⟨l₁.m_write_fd, .zero, .zero⟩, ?_⟩,
        fun no => absurd rfl no⟩
      change ((((l₁.armed write_fd).toStdioTunnel.addPolled .stdioTunnel STDIN_FD
        POLLIN).addPolled .stdioTunnel STDOUT_FD .zero).addPolled .stdioTunnel l₁.m_read_fd
        POLLIN |>.addPolled .stdioTunnel l₁.m_write_fd .zero).own l₁.m_write_fd = _
      rw [StdioTunnel.own_addPolled, StdioTunnel.own_addPolled, StdioTunnel.own_addPolled,
        StdioTunnel.own_addPolled, show (l₁.armed write_fd).own l₁.m_write_fd = [] from empty,
        if_neg (show STDIN_FD ≠ l₁.m_write_fd from stdin),
        if_neg (show STDOUT_FD ≠ l₁.m_write_fd from stdout),
        if_neg (show l₁.m_read_fd ≠ l₁.m_write_fd from pipes), if_pos rfl]
      rfl
  | remoteEnd start =>
      obtain rfl := StdioTunnelRemote.start_waiting start
      exact ⟨rfl, ⟨STDOUT_FD, .zero, .zero⟩, rfl, nofun⟩

/-- Frames that wait ask for output: the one record for the pipe is polled for it. -/
theorem output_asked (started : e.Started) (apart : e.Apart) (run : Run Polls e events e')
    (past : e'.takesFrames = true) (pending : e'.tunnel.m_write_stream.pendingWrite = true) :
    ∃ record, e'.tunnel.own e'.tunnel.m_write_stream.m_fd = [record] ∧
      record.events.POLLOUT = true := by
  obtain ⟨_, piped⟩ := @Run.invariant _ _ _ _ _ _ (fun e => e.WaitsEmpty ∧ e.Piped)
    ⟨started.waitsEmpty, started.piped apart⟩ (fun before polls =>
      ⟨before.1.step polls.step.result, before.2.step before.1 polls⟩) run
  obtain ⟨record, one, asks⟩ := piped.armed (by
    rintro l rfl state
    simp [takesFrames, state] at past)
  exact ⟨record, one, asks pending⟩

theorem waiting_record : ∃ record ∈ (remoteEnd .waiting).tunnel.registrations .stdioTunnel,
    record.fd = (arrives oneConnection).poll_struct.fd ∧
      record.events = (arrives oneConnection).poll_struct.events := by
  decide +kernel

theorem joined_polls : (remoteEnd .waiting).Polls (arrives oneConnection) joined :=
  ⟨joined_step, waiting_record⟩

theorem joined_pending : joined.tunnel.m_write_stream.pendingWrite = true ∧
    joined.takesFrames = true := by
  decide +kernel

/-- The reply to the handshake waits to be written. -/
theorem output_asked_joined :
    ∃ record, joined.tunnel.own joined.tunnel.m_write_stream.m_fd = [record] ∧
      record.events.POLLOUT = true :=
  output_asked waiting_started (fun l no => by cases no) (.single joined_polls)
    joined_pending.2 joined_pending.1

end Endpoint

end Tun01
