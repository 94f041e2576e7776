import Tun01.Tunnel.LocalRuns
import Tun01.Tunnel.Output

/-!
# The console

What the local endpoint copies between its standard streams and the child: the
bytes that were read, the bytes that were written, and what still waits between
them, across the handshake.
-/

namespace Tun01

open StdioTunnel (Aside Arms)
open Poller (setFirst)

/-! ## What passes in a dispatch -/

namespace StdioTunnelLocal

variable {l l' : StdioTunnelLocal} {event : Event} {poll_struct : Pollfd} {calls : Calls}

/-- A dispatch of a descriptor while the standard streams are copied. -/
def Copies (l : StdioTunnelLocal) (event : Event) (fd : Int) : Prop :=
  event.polled = .stdioTunnel ∧ l.m_state = .PASS_THROUGH ∧ event.poll_struct.fd = fd

instance (l : StdioTunnelLocal) (event : Event) (fd : Int) : Decidable (l.Copies event fd) :=
  inferInstanceAs (Decidable (_ ∧ _ ∧ _))

/-- The dispatch writes what was typed to the child. -/
def WritesChild (l : StdioTunnelLocal) (event : Event) : Prop :=
  l.Copies event l.m_write_fd ∧ event.poll_struct.revents.POLLOUT = true

instance (l : StdioTunnelLocal) (event : Event) : Decidable (l.WritesChild event) :=
  inferInstanceAs (Decidable (_ ∧ _))

/-- The dispatch writes what the child said to the standard output. -/
def WritesStdout (l : StdioTunnelLocal) (event : Event) : Prop :=
  l.Copies event STDOUT_FD ∧ event.poll_struct.revents.POLLOUT = true ∨
    (event.polled = .stdioTunnel ∧ event.poll_struct.fd = STDOUT_FD) ∧
      (l.m_state = .HAND_SHAKE ∨ l.m_state = .CONNECTED) ∧ l.m_read_buffer.unsentData = true

instance (l : StdioTunnelLocal) (event : Event) : Decidable (l.WritesStdout event) :=
  inferInstanceAs (Decidable (_ ∨ _))

/-- The bytes `m_read_buffer.readData` reads from the child. -/
def childRead (l : StdioTunnelLocal) (event : Event) : List Byte :=
  if l.Copies event l.m_read_fd then SockBuffer.readBytes event.calls.reads else []

/-- The bytes `m_write_buffer.readData` reads from the standard input. -/
def stdinRead (l : StdioTunnelLocal) (event : Event) : List Byte :=
  if l.Copies event STDIN_FD then SockBuffer.readBytes event.calls.reads else []

/-- The bytes `m_write_buffer.writeData` writes to the child. -/
def childWritten (l : StdioTunnelLocal) (event : Event) : List Byte :=
  if l.WritesChild event then
    SockBuffer.writtenBytes (l.m_write_buffer.writeData event.calls.write).2
  else
    []

/-- The bytes `m_read_buffer.writeData` writes to the standard output. -/
def stdoutWritten (l : StdioTunnelLocal) (event : Event) : List Byte :=
  if l.WritesStdout event then
    SockBuffer.writtenBytes (l.m_read_buffer.toSockBuffer.writeData event.calls.write).2
  else
    []

/-- The dispatch writes from outside an output buffer. -/
def Overruns (l : StdioTunnelLocal) (event : Event) : Prop :=
  l.dispatch event.polled event.poll_struct event.calls =
    .error (.undefinedBehaviour "m_output_position past the array")

theorem processReadData_buffer {bytes : List Byte}
    (result : l.processReadData calls bytes = .ok l') :
    l'.m_read_buffer.toSockBuffer = l.m_read_buffer.toSockBuffer := by
  rw [processReadData_performs] at result
  obtain ⟨l₀, _, rfl⟩ := of_map_ok result
  exact (MagicStringDetector.detect_same _ bytes).buffer

/-- The detector leaves what `readData` queues alone. -/
theorem detectLoop_after {reads : List (SysResult (List Byte))} {total count : Int}
    (result : l.detectLoop total calls reads = .ok (l', count)) :
    l'.m_read_buffer.toSockBuffer = l.m_read_buffer.toSockBuffer.afterRead reads := by
  induction reads generalizing l total with
  | nil => rw [← (Prod.mk.inj (Except.ok.inj result)).1]; rfl
  | cons read reads ih =>
      cases read with
      | fail errno =>
          unfold detectLoop at result
          split at result
          · rw [← (Prod.mk.inj (Except.ok.inj result)).1]
            rfl
          · cases result
      | ok bytes =>
          unfold detectLoop at result
          obtain ⟨l₁, first, result⟩ := of_bind_ok result
          have buffer := processReadData_buffer first
          unfold SockBuffer.afterRead
          dsimp only
          rw [← buffer]
          dsimp only at result
          obtain ⟨total', _, result⟩ := of_bind_ok result
          split at result
          · rename_i full
            rw [if_pos full]
            exact ih result
          · rename_i short
            rw [if_neg short, ← (Prod.mk.inj (Except.ok.inj result)).1]
            rfl

theorem writeDetected_written (result : l.writeDetected calls = .ok l') : ∃ buffer bytes,
    l.m_read_buffer.toSockBuffer.writeData calls.write = (buffer, .ok bytes) ∧
      l' = { l with m_read_buffer := l.m_read_buffer.withBuffer buffer } := by
  unfold writeDetected at result
  cases written : l.m_read_buffer.toSockBuffer.writeData calls.write with
  | mk buffer outcome =>
      rw [written] at result
      obtain ⟨bytes, is, result⟩ := of_bind_ok result
      exact ⟨buffer, bytes, congrArg (Prod.mk buffer) is, (Except.ok.inj result).symm⟩

theorem writeTyped_written (result : l.writeTyped calls = .ok l') : ∃ buffer bytes,
    l.m_write_buffer.writeData calls.write = (buffer, .ok bytes) ∧
      l' = { l with m_write_buffer := buffer } := by
  unfold writeTyped at result
  cases written : l.m_write_buffer.writeData calls.write with
  | mk buffer outcome =>
      rw [written] at result
      obtain ⟨bytes, is, result⟩ := of_bind_ok result
      exact ⟨buffer, bytes, congrArg (Prod.mk buffer) is, (Except.ok.inj result).symm⟩

/-- The calls of the detector keep the record for the standard output. -/
theorem performs_stdout {made : List DetectorCall} (keyed : l.Keyed) (piped : l.Piped)
    (result : made.foldlM (perform calls) l = .ok l') :
    l'.own STDOUT_FD = l.own STDOUT_FD ∧ (l' = l ∨ l'.m_state = .HAND_SHAKE) := by
  induction made generalizing l with
  | nil => exact ⟨by rw [← Except.ok.inj result], Or.inl (Except.ok.inj result).symm⟩
  | cons call rest ih =>
      rw [List.foldlM_cons] at result
      obtain ⟨l₁, first, later⟩ := of_bind_ok result
      cases call with
      | startHandshaking =>
          obtain rfl := startHandshaking_greeting keyed.ready first
          have passes := perform_passes keyed first
          obtain ⟨own, state⟩ := ih (passes.aside.keyed keyed) piped.greeting later
          refine ⟨own.trans ?_, Or.inr ?_⟩
          · change StdioTunnel.own (StdioTunnel.removePolled _ .stdioTunnel STDIN_FD) _ = _
            rw [StdioTunnel.own_removePolled, if_neg (by decide), StdioTunnel.own_emit,
              if_neg (by rw [piped.fd]; exact fun no => piped.stdout no.symm)]
          · rcases state with rfl | state
            · rfl
            · exact state
      | remoteInit =>
          obtain rfl := remoteInit_self first
          exact ih keyed piped later
      | outOfRange => cases first

end StdioTunnelLocal

/-! ## Terminals -/

/-- The local endpoint, and the bytes that it has read and written as a console. -/
structure Terminal where
  endpoint : StdioTunnelLocal
  fromChild : List Byte
  toStdout : List Byte
  fromStdin : List Byte
  toChild : List Byte

namespace Terminal

variable {s s' : Terminal} {l' : StdioTunnelLocal} {event : Event} {events : List Event}
  {poll_struct : Pollfd} {calls : Calls}

def start (l : StdioTunnelLocal) : Terminal := ⟨l, [], [], [], []⟩

/-- What passes in a dispatch that leads to an endpoint. -/
def after (s : Terminal) (event : Event) (l : StdioTunnelLocal) : Terminal where
  endpoint := l
  fromChild := s.fromChild ++ s.endpoint.childRead event
  toStdout := s.toStdout ++ s.endpoint.stdoutWritten event
  fromStdin := s.fromStdin ++ s.endpoint.stdinRead event
  toChild := s.toChild ++ s.endpoint.childWritten event

/-- While the streams are copied the descriptor says what passes. -/
theorem after_copies (self : event.polled = .stdioTunnel)
    (state : s.endpoint.m_state = .PASS_THROUGH) (l : StdioTunnelLocal) :
    s.after event l =
      { endpoint := l
        fromChild := s.fromChild ++
          if event.poll_struct.fd = s.endpoint.m_read_fd then
            SockBuffer.readBytes event.calls.reads else []
        toStdout := s.toStdout ++
          if event.poll_struct.fd = STDOUT_FD ∧ event.poll_struct.revents.POLLOUT = true then
            SockBuffer.writtenBytes
              (s.endpoint.m_read_buffer.toSockBuffer.writeData event.calls.write).2 else []
        fromStdin := s.fromStdin ++
          if event.poll_struct.fd = STDIN_FD then
            SockBuffer.readBytes event.calls.reads else []
        toChild := s.toChild ++
          if event.poll_struct.fd = s.endpoint.m_write_fd ∧
              event.poll_struct.revents.POLLOUT = true then
            SockBuffer.writtenBytes (s.endpoint.m_write_buffer.writeData event.calls.write).2
          else [] } := by
  simp [after, StdioTunnelLocal.childRead, StdioTunnelLocal.stdinRead,
    StdioTunnelLocal.childWritten, StdioTunnelLocal.stdoutWritten, StdioTunnelLocal.WritesChild,
    StdioTunnelLocal.WritesStdout, StdioTunnelLocal.Copies, self, state]

/-- Later only the standard output is served. -/
theorem after_past (past : event.polled = .stdioTunnel → s.endpoint.m_state ≠ .PASS_THROUGH)
    (l : StdioTunnelLocal) :
    s.after event l =
      { s with
        endpoint := l
        toStdout := s.toStdout ++
          if (event.polled = .stdioTunnel ∧ event.poll_struct.fd = STDOUT_FD) ∧
              (s.endpoint.m_state = .HAND_SHAKE ∨ s.endpoint.m_state = .CONNECTED) ∧
              s.endpoint.m_read_buffer.unsentData = true then
            SockBuffer.writtenBytes
              (s.endpoint.m_read_buffer.toSockBuffer.writeData event.calls.write).2 else [] } := by
  have none : ∀ fd, ¬ s.endpoint.Copies event fd := fun fd copies => past copies.1 copies.2.1
  simp [after, StdioTunnelLocal.childRead, StdioTunnelLocal.stdinRead,
    StdioTunnelLocal.childWritten, StdioTunnelLocal.stdoutWritten, StdioTunnelLocal.WritesChild,
    StdioTunnelLocal.WritesStdout, none]

/-- A dispatch that returns; a write takes no more than it is given. -/
structure Step (s : Terminal) (event : Event) (s' : Terminal) : Prop where
  polls : (Endpoint.localEnd s.endpoint).Polls event (.localEnd s'.endpoint)
  child : s.endpoint.WritesChild event →
    event.calls.write.WritesWithin s.endpoint.m_write_buffer.request
  stdout : s.endpoint.WritesStdout event →
    event.calls.write.WritesWithin s.endpoint.m_read_buffer.request
  passes : s' = s.after event s'.endpoint

/--
What was written and what waits is what was read, and what waits for the
standard output is asked for there.
-/
structure Carries (s : Terminal) : Prop where
  piped : s.endpoint.Piped
  apart : s.endpoint.m_read_fd ≠ STDIN_FD ∧ s.endpoint.m_read_fd ≠ STDOUT_FD
  read : s.endpoint.m_read_buffer.Valid
  shown : s.toStdout ++ s.endpoint.m_read_buffer.pending = s.fromChild
  given : s.toChild <+: s.fromStdin
  typed : s.endpoint.m_state = .PASS_THROUGH → s.endpoint.m_write_buffer.Valid ∧
    s.toChild ++ s.endpoint.m_write_buffer.pending = s.fromStdin
  asked : (∃ record, s.endpoint.own STDOUT_FD = [record] ∧
      (s.endpoint.m_read_buffer.unsentData = true → record.events.POLLOUT = true)) ∨
    s.endpoint.own STDOUT_FD = [] ∧ s.endpoint.m_read_buffer.unsentData = false ∧
      s.endpoint.m_state ≠ .PASS_THROUGH

namespace Carries

variable (carries : s.Carries)

include carries

/-- Nothing at the console has changed. -/
theorem same (piped : l'.Piped) (read_fd : l'.m_read_fd = s.endpoint.m_read_fd)
    (read : l'.m_read_buffer = s.endpoint.m_read_buffer)
    (typed : l'.m_write_buffer = s.endpoint.m_write_buffer)
    (own : l'.own STDOUT_FD = s.endpoint.own STDOUT_FD)
    (state : s.endpoint.m_state = .PASS_THROUGH ↔ l'.m_state = .PASS_THROUGH) :
    ({ s with endpoint := l' } : Terminal).Carries where
  piped := piped
  apart := by
    change l'.m_read_fd ≠ _ ∧ l'.m_read_fd ≠ _
    rw [read_fd]
    exact carries.apart
  read := by
    change l'.m_read_buffer.Valid
    rw [read]
    exact carries.read
  shown := by
    change s.toStdout ++ l'.m_read_buffer.pending = _
    rw [read]
    exact carries.shown
  given := carries.given
  typed := by
    intro passes
    change l'.m_write_buffer.Valid ∧ s.toChild ++ l'.m_write_buffer.pending = _
    rw [typed]
    exact carries.typed (state.mpr passes)
  asked := by
    change (∃ record, l'.own STDOUT_FD = [record] ∧ _) ∨ l'.own STDOUT_FD = [] ∧ _
    rw [own, read]
    exact carries.asked.imp_right fun ⟨gone, idle, past⟩ =>
      ⟨gone, idle, fun no => past (state.mpr no)⟩

/-- While the streams are copied there is a record for the standard output. -/
theorem record (state : s.endpoint.m_state = .PASS_THROUGH) :
    ∃ record, s.endpoint.own STDOUT_FD = [record] ∧
      (s.endpoint.m_read_buffer.unsentData = true → record.events.POLLOUT = true) := by
  rcases carries.asked with found | ⟨_, _, past⟩
  · exact found
  · exact absurd state past

theorem passRead (keyed : s.endpoint.Keyed) (state : s.endpoint.m_state = .PASS_THROUGH)
    (result : s.endpoint.passRead calls = .ok l') :
    ({ s with
      endpoint := l'
      fromChild := s.fromChild ++ SockBuffer.readBytes calls.reads } : Terminal).Carries := by
  have piped := StdioTunnelLocal.passRead_piped keyed carries.piped result
  have passes := StdioTunnelLocal.passRead_passes keyed result
  unfold StdioTunnelLocal.passRead at result
  obtain ⟨⟨l₀, count⟩, detected, result⟩ := of_bind_ok result
  have after := StdioTunnelLocal.detectLoop_after detected
  obtain ⟨l₁, buffer, made, isAfter⟩ := StdioTunnelLocal.detectLoop_performs detected
  obtain ⟨own, stage⟩ := StdioTunnelLocal.performs_stdout keyed carries.piped made
  have kept : l₀.own STDOUT_FD = s.endpoint.own STDOUT_FD := by
    rw [isAfter]
    exact own
  have typed : l₀.m_state = .PASS_THROUGH → l₀.m_write_buffer.Valid ∧
      s.toChild ++ l₀.m_write_buffer.pending = s.fromStdin := by
    intro passing
    rw [isAfter] at passing ⊢
    rcases stage with rfl | greeted
    · exact carries.typed state
    · cases greeted.symm.trans passing
  obtain ⟨valid, pending⟩ := SockBuffer.afterRead_kept carries.read calls.reads
  rw [← after] at valid pending
  obtain ⟨record, one, _⟩ := carries.record state
  rw [← kept] at one
  have shown : s.toStdout ++ l₀.m_read_buffer.pending =
      s.fromChild ++ SockBuffer.readBytes calls.reads := by
    rw [pending, ← List.append_assoc, carries.shown]
  have read_fd : l'.m_read_fd ≠ STDIN_FD ∧ l'.m_read_fd ≠ STDOUT_FD := by
    rw [passes.read_fd]
    exact carries.apart
  dsimp only at result
  split at result
  · cases result
  split at result
  · obtain rfl := Except.ok.inj result
    exact ⟨piped, read_fd, valid, shown, carries.given, typed,
      Or.inl ⟨_, StdioTunnel.own_set one POLLOUT, fun _ => rfl⟩⟩
  · rename_i idle
    obtain rfl := Except.ok.inj result
    exact ⟨piped, read_fd, valid, shown, carries.given, typed,
      Or.inl ⟨record, one, fun unsent => absurd unsent idle⟩⟩

/-- The records for other descriptors are set. -/
theorem others {fd : Int} {events : PollEvents} (fresh : STDOUT_FD ≠ fd)
    (piped : (s.endpoint.lift fun t => t.setEvents .stdioTunnel fd events).Piped) :
    ({ s with
      endpoint := s.endpoint.lift fun t => t.setEvents .stdioTunnel fd events } :
        Terminal).Carries :=
  carries.same piped rfl rfl rfl
    ((StdioTunnel.own_setEvents _ _ _ _).trans (if_neg fun no => fresh no.symm)) Iff.rfl

theorem passWrite (state : s.endpoint.m_state = .PASS_THROUGH)
    (within : calls.write.WritesWithin s.endpoint.m_write_buffer.request)
    (result : s.endpoint.passWrite poll_struct calls = .ok l') :
    ({ s with
      endpoint := l'
      toChild := s.toChild ++
        SockBuffer.writtenBytes (s.endpoint.m_write_buffer.writeData calls.write).2 } :
        Terminal).Carries := by
  have piped := StdioTunnelLocal.passWrite_piped state carries.piped result
  unfold StdioTunnelLocal.passWrite at result
  split at result
  · obtain ⟨l₀, written, result⟩ := of_bind_ok result
    obtain ⟨buffer, bytes, is, rfl⟩ := StdioTunnelLocal.writeTyped_written written
    obtain ⟨valid, given⟩ := carries.typed state
    obtain ⟨valid', pending⟩ := valid.writeData within is
    have typed : (s.toChild ++ bytes) ++ buffer.pending = s.fromStdin := by
      rw [List.append_assoc, ← pending, given]
    have between : ({ s with
        endpoint := { s.endpoint with m_write_buffer := buffer }
        toChild := s.toChild ++ bytes } : Terminal).Carries :=
      ⟨carries.piped.still (.refl _) rfl rfl rfl, carries.apart, carries.read, carries.shown,
        ⟨_, typed⟩, fun _ => ⟨valid', typed⟩, carries.asked⟩
    rw [is]
    split at result
    · obtain rfl := Except.ok.inj result
      exact between
    · obtain rfl := Except.ok.inj result
      exact between.others carries.piped.stdout piped
  · cases result

theorem passStdin (state : s.endpoint.m_state = .PASS_THROUGH)
    (result : s.endpoint.passStdin calls = .ok l') :
    ({ s with
      endpoint := l'
      fromStdin := s.fromStdin ++ SockBuffer.readBytes calls.reads } : Terminal).Carries := by
  have piped := StdioTunnelLocal.passStdin_piped carries.piped result
  unfold StdioTunnelLocal.passStdin at result
  obtain ⟨⟨buffer, count⟩, read, result⟩ := of_bind_ok result
  obtain ⟨rfl, _⟩ := SockBuffer.readData_ok read
  obtain ⟨valid, given⟩ := carries.typed state
  obtain ⟨valid', pending⟩ := SockBuffer.afterRead_kept valid calls.reads
  have typed : s.toChild ++ (s.endpoint.m_write_buffer.afterRead calls.reads).pending =
      s.fromStdin ++ SockBuffer.readBytes calls.reads := by
    rw [pending, ← List.append_assoc, given]
  have between : ({ s with
      endpoint := { s.endpoint with
        m_write_buffer := s.endpoint.m_write_buffer.afterRead calls.reads }
      fromStdin := s.fromStdin ++ SockBuffer.readBytes calls.reads } : Terminal).Carries :=
    ⟨carries.piped.still (.refl _) rfl rfl rfl, carries.apart, carries.read, carries.shown,
      ⟨_, typed⟩, fun _ => ⟨valid', typed⟩, carries.asked⟩
  dsimp only at result
  split at result
  · cases result
  split at result
  · obtain rfl := Except.ok.inj result
    exact between.others carries.piped.stdout piped
  · obtain rfl := Except.ok.inj result
    exact between

/-- What the child said is written, and nothing else happens. -/
theorem wrote (within : calls.write.WritesWithin s.endpoint.m_read_buffer.request)
    (unsent : s.endpoint.m_state = .PASS_THROUGH ∨ s.endpoint.m_read_buffer.unsentData = true)
    (result : s.endpoint.writeDetected calls = .ok l') :
    ({ s with
      endpoint := l'
      toStdout := s.toStdout ++
        SockBuffer.writtenBytes (s.endpoint.m_read_buffer.toSockBuffer.writeData calls.write).2 } :
        Terminal).Carries := by
  obtain ⟨buffer, bytes, is, rfl⟩ := StdioTunnelLocal.writeDetected_written result
  obtain ⟨valid', pending⟩ := carries.read.writeData within is
  rw [is]
  refine ⟨carries.piped.still (.refl _) rfl rfl rfl, carries.apart, valid', ?_, carries.given,
    carries.typed, ?_⟩
  · change (s.toStdout ++ bytes) ++ buffer.pending = _
    rw [List.append_assoc, ← pending, carries.shown]
  · rcases carries.asked with ⟨record, one, asks⟩ | ⟨_, idle, past⟩
    · refine Or.inl ⟨record, one, fun more => asks ?_⟩
      have left : buffer.pending ≠ [] := valid'.unsentData_iff.mp more
      refine carries.read.unsentData_iff.mpr fun none => left ?_
      rw [pending] at none
      exact (List.append_eq_nil_iff.mp none).2
    · rcases unsent with passing | unsent
      · exact absurd passing past
      · cases idle.symm.trans unsent

theorem passStdout (state : s.endpoint.m_state = .PASS_THROUGH)
    (within : calls.write.WritesWithin s.endpoint.m_read_buffer.request)
    (result : s.endpoint.passStdout poll_struct calls = .ok l') :
    ({ s with
      endpoint := l'
      toStdout := s.toStdout ++
        SockBuffer.writtenBytes (s.endpoint.m_read_buffer.toSockBuffer.writeData calls.write).2 } :
        Terminal).Carries := by
  have piped := StdioTunnelLocal.passStdout_piped carries.piped result
  unfold StdioTunnelLocal.passStdout at result
  split at result
  · obtain ⟨l₀, written, result⟩ := of_bind_ok result
    have between := carries.wrote within (Or.inl state) written
    split at result
    · obtain rfl := Except.ok.inj result
      exact between
    · rename_i idle
      obtain rfl := Except.ok.inj result
      have passing : l₀.m_state = .PASS_THROUGH := by
        obtain ⟨buffer, rfl⟩ := StdioTunnelLocal.writeDetected_same written
        exact state
      obtain ⟨record, one, _⟩ := between.record passing
      exact ⟨piped, between.apart, between.read, between.shown, between.given, between.typed,
        Or.inl ⟨_, StdioTunnel.own_set one .zero, fun unsent => absurd unsent idle⟩⟩
  · cases result

/-- The record is removed when nothing is left. -/
theorem removes (state : s.endpoint.m_state ≠ .PASS_THROUGH)
    (idle : s.endpoint.m_read_buffer.unsentData = false) :
    ({ s with
      endpoint := s.endpoint.lift fun t => t.removePolled .stdioTunnel STDOUT_FD } :
        Terminal).Carries := by
  have piped : (s.endpoint.lift fun t => t.removePolled .stdioTunnel STDOUT_FD).Piped :=
    carries.piped.still (.removePolled _ carries.piped.stdout) rfl rfl rfl
  refine ⟨piped, carries.apart, carries.read, carries.shown, carries.given, carries.typed,
    Or.inr ⟨?_, idle, state⟩⟩
  change StdioTunnel.own (StdioTunnel.removePolled _ .stdioTunnel STDOUT_FD) STDOUT_FD = _
  rw [StdioTunnel.own_removePolled, if_pos rfl]
  rcases carries.asked with ⟨record, one, _⟩ | ⟨gone, _⟩
  · rw [one]
    rfl
  · rw [gone]
    rfl

/-- The pipe carries frames. -/
theorem frames (arms : Arms s.endpoint.toStdioTunnel l'.toStdioTunnel) (piped : l'.Piped)
    (past : s.endpoint.m_state ≠ .PASS_THROUGH)
    (kept : ∃ t, l' = { s.endpoint with toStdioTunnel := t } ∨
      l' = { s.endpoint with toStdioTunnel := t, m_state := .CONNECTED }) :
    ({ s with endpoint := l' } : Terminal).Carries := by
  have own := arms.others STDOUT_FD (by
    rw [carries.piped.fd]
    exact fun no => carries.piped.stdout no.symm)
  obtain ⟨t, rfl | rfl⟩ := kept
  · exact carries.same piped rfl rfl rfl own Iff.rfl
  · exact carries.same piped rfl rfl rfl own ⟨fun no => absurd no past, fun no => by cases no⟩

/-- A dispatch while the standard streams are copied. -/
theorem copies (keyed : s.endpoint.Keyed) (self : event.polled = .stdioTunnel)
    (state : s.endpoint.m_state = .PASS_THROUGH)
    (child : s.endpoint.WritesChild event →
      event.calls.write.WritesWithin s.endpoint.m_write_buffer.request)
    (stdout : s.endpoint.WritesStdout event →
      event.calls.write.WritesWithin s.endpoint.m_read_buffer.request)
    (result : s.endpoint.polledPassThrough event.poll_struct event.calls = .ok l') :
    (s.after event l').Carries := by
  obtain ⟨stdin, out⟩ := carries.apart
  obtain ⟨_, pipes, stdin', out', _⟩ := carries.piped
  unfold StdioTunnelLocal.polledPassThrough at result
  obtain ⟨l₁, reads, later⟩ := of_bind_ok result
  obtain ⟨l₂, writes, last⟩ := of_bind_ok later
  obtain ⟨l₃, typed, shown⟩ := of_bind_ok last
  clear result later last
  by_cases read : event.poll_struct.fd = s.endpoint.m_read_fd
  · rw [onFd_self _ _ read] at reads
    have write_fd : l₁.m_write_fd = s.endpoint.m_write_fd :=
      (StdioTunnelLocal.passRead_passes keyed reads).write_fd
    rw [onFd_of_ne _ _ (by rw [read, write_fd]; exact pipes)] at writes
    obtain rfl := Except.ok.inj writes
    rw [onFd_of_ne _ _ (by rw [read]; exact stdin)] at typed
    obtain rfl := Except.ok.inj typed
    rw [onFd_of_ne _ _ (by rw [read]; exact out)] at shown
    obtain rfl := Except.ok.inj shown
    have carried := carries.passRead keyed state reads
    rw [after_copies self state, read]
    simpa [pipes, stdin, out] using carried
  rw [onFd_of_ne _ _ read] at reads
  obtain rfl := Except.ok.inj reads
  by_cases write : event.poll_struct.fd = s.endpoint.m_write_fd
  · rw [onFd_self _ _ write] at writes
    have ready : event.poll_struct.revents.POLLOUT = true := by
      unfold StdioTunnelLocal.passWrite at writes
      split at writes
      · assumption
      · cases writes
    rw [onFd_of_ne _ _ (by rw [write]; exact stdin'.symm)] at typed
    obtain rfl := Except.ok.inj typed
    rw [onFd_of_ne _ _ (by rw [write]; exact out'.symm)] at shown
    obtain rfl := Except.ok.inj shown
    have carried := carries.passWrite state (child ⟨⟨self, state, write⟩, ready⟩) writes
    rw [after_copies self state, write]
    simpa [ready, pipes.symm, stdin'.symm, out'.symm] using carried
  rw [onFd_of_ne _ _ write] at writes
  obtain rfl := Except.ok.inj writes
  by_cases typing : event.poll_struct.fd = STDIN_FD
  · rw [onFd_self _ _ typing] at typed
    rw [onFd_of_ne _ _ (by rw [typing]; decide)] at shown
    obtain rfl := Except.ok.inj shown
    have carried := carries.passStdin state typed
    rw [after_copies self state, typing]
    simpa [stdin', stdin.symm, show STDIN_FD ≠ STDOUT_FD by decide] using carried
  rw [onFd_of_ne _ _ typing] at typed
  obtain rfl := Except.ok.inj typed
  by_cases shows : event.poll_struct.fd = STDOUT_FD
  · rw [onFd_self _ _ shows] at shown
    have ready : event.poll_struct.revents.POLLOUT = true := by
      unfold StdioTunnelLocal.passStdout at shown
      split at shown
      · assumption
      · cases shown
    have carried := carries.passStdout state (stdout (Or.inl ⟨⟨self, state, shows⟩, ready⟩)) shown
    rw [after_copies self state, shows]
    simpa [ready, out', out.symm, show STDOUT_FD ≠ STDIN_FD by decide] using carried
  · rw [onFd_of_ne _ _ shows] at shown
    obtain rfl := Except.ok.inj shown
    rw [after_copies self state]
    simpa [read, write, typing, shows] using carries

/-- A dispatch past the handshake. -/
theorem connected (keyed : s.endpoint.Keyed) (self : event.polled = .stdioTunnel)
    (state : s.endpoint.m_state = .HAND_SHAKE ∨ s.endpoint.m_state = .CONNECTED)
    (record : ∃ record ∈ s.endpoint.registrations .stdioTunnel,
      record.fd = event.poll_struct.fd ∧ record.events = event.poll_struct.events)
    (stdout : s.endpoint.WritesStdout event →
      event.calls.write.WritesWithin s.endpoint.m_read_buffer.request)
    (result : s.endpoint.polledConnected event.poll_struct event.calls = .ok l') :
    (s.after event l').Carries := by
  obtain ⟨_, out⟩ := carries.apart
  have past : s.endpoint.m_state ≠ .PASS_THROUGH := by
    rcases state with state | state <;> (rw [state]; exact nofun)
  have piped := StdioTunnelLocal.polledConnected_piped keyed past carries.piped record result
  rw [after_past fun _ => past]
  unfold StdioTunnelLocal.polledConnected at result
  obtain ⟨l₁, reads, later⟩ := of_bind_ok result
  obtain ⟨l₂, writes, shown⟩ := of_bind_ok later
  clear result later
  by_cases read : event.poll_struct.fd = s.endpoint.m_read_fd
  · rw [onFd_self _ _ read] at reads
    have write_fd := (StdioTunnelLocal.connectedRead_queues keyed reads).2.2.2
    rw [onFd_of_ne _ _ (by rw [read, write_fd]; exact carries.piped.pipes)] at writes
    obtain rfl := Except.ok.inj writes
    rw [onFd_of_ne _ _ (by rw [read]; exact out)] at shown
    obtain rfl := Except.ok.inj shown
    obtain ⟨arms, kept⟩ := StdioTunnelLocal.connectedRead_arms keyed reads
    simpa [read, out] using carries.frames arms piped past kept
  rw [onFd_of_ne _ _ read] at reads
  obtain rfl := Except.ok.inj reads
  by_cases write : event.poll_struct.fd = s.endpoint.m_write_fd
  · rw [onFd_self _ _ write] at writes
    rw [onFd_of_ne _ _ (by rw [write]; exact carries.piped.stdout.symm)] at shown
    obtain rfl := Except.ok.inj shown
    obtain ⟨arms, t, kept⟩ :=
      StdioTunnelLocal.connectedWrite_arms past carries.piped write record writes
    simpa [write, carries.piped.stdout.symm] using
      carries.frames arms piped past ⟨t, Or.inl kept⟩
  rw [onFd_of_ne _ _ write] at writes
  obtain rfl := Except.ok.inj writes
  by_cases shows : event.poll_struct.fd = STDOUT_FD
  · rw [onFd_self _ _ shows] at shown
    unfold StdioTunnelLocal.connectedStdout at shown
    split at shown
    · rename_i unsent
      have within := stdout (Or.inr ⟨⟨self, shows⟩, state, unsent⟩)
      simpa [self, shows, state, unsent] using carries.wrote within (Or.inr unsent) shown
    · rename_i idle
      obtain rfl := Except.ok.inj shown
      simpa [idle] using carries.removes past (eq_false_of_ne_true idle)
  · rw [onFd_of_ne _ _ shows] at shown
    obtain rfl := Except.ok.inj shown
    simpa [shows] using carries

/-- A dispatch of another object. -/
theorem object (keyed : s.endpoint.Keyed) (other : event.polled ≠ .stdioTunnel)
    (result : s.endpoint.dispatch event.polled event.poll_struct event.calls = .ok l')
    (piped : l'.Piped) : (s.after event l').Carries := by
  rw [after_past fun self => absurd self other]
  unfold StdioTunnelLocal.dispatch at result
  split at result
  · rename_i self
    exact absurd self other
  · obtain ⟨t, handled, result⟩ := of_bind_ok result
    obtain rfl := Except.ok.inj result
    have own := (Arms.object keyed handled).others STDOUT_FD (by
      rw [carries.piped.fd]
      exact carries.piped.stdout.symm)
    simpa [other] using carries.same piped rfl rfl rfl own Iff.rfl

theorem step (keyed : s.endpoint.Keyed) (step : Step s event s') : s'.Carries := by
  have result : s.endpoint.dispatch event.polled event.poll_struct event.calls =
      .ok s'.endpoint := by
    obtain ⟨l', dispatched, same⟩ := of_map_ok step.polls.step.result
    rw [dispatched, Endpoint.localEnd.inj same]
  have piped := StdioTunnelLocal.dispatch_piped keyed carries.piped step.polls.record result
  rw [step.passes]
  by_cases self : event.polled = .stdioTunnel
  · have polled : s.endpoint.polled event.poll_struct event.calls = .ok s'.endpoint := by
      rw [self] at result
      exact result
    have record := step.polls.record
    rw [self] at record
    unfold StdioTunnelLocal.polled at polled
    split at polled
    · rename_i state
      exact carries.copies keyed self state step.child step.stdout polled
    · rename_i state
      exact carries.connected keyed self (Or.inl state) record step.stdout polled
    · rename_i state
      exact carries.connected keyed self (Or.inr state) record step.stdout polled
    · rename_i passing greeted joined
      have past : ¬(s.endpoint.m_state = .HAND_SHAKE ∨ s.endpoint.m_state = .CONNECTED) :=
        not_or.mpr ⟨greeted, joined⟩
      rw [after_past fun _ => passing, ← Except.ok.inj polled]
      simpa [past] using carries
  · exact carries.object keyed self result piped

end Carries

/-- The four descriptors of the console are different ones. -/
def Distinct (l : StdioTunnelLocal) : Prop :=
  [STDIN_FD, STDOUT_FD, l.m_read_fd, l.m_write_fd].Nodup

theorem Distinct.apart {l : StdioTunnelLocal} (distinct : Distinct l) :
    (Endpoint.localEnd l).Apart ∧ l.m_read_fd ≠ STDIN_FD ∧ l.m_read_fd ≠ STDOUT_FD := by
  unfold Distinct at distinct
  simp only [List.nodup_cons, List.mem_cons, List.not_mem_nil, or_false, not_or] at distinct
  obtain ⟨⟨_, stdin, stdin'⟩, ⟨stdout, stdout'⟩, pipes, _⟩ := distinct
  refine ⟨?_, fun same => stdin same.symm, fun same => stdout same.symm⟩
  intro l' same
  obtain rfl := Endpoint.localEnd.inj same
  exact ⟨pipes, stdin', stdout'⟩

/-- Nothing has been copied when the polling loop begins. -/
theorem start_carries {l : StdioTunnelLocal} (started : (Endpoint.localEnd l).Started)
    (distinct : Distinct l) : (start l).Carries := by
  obtain ⟨apart, read⟩ := distinct.apart
  have piped : l.Piped := started.piped apart
  cases started with
  | @localEnd _ _ l₀ _ read_fd write_fd calls configured begins =>
      have configures := StdioTunnelLocal.configure_configures configured
      obtain ⟨l₁, creates, connects, rfl⟩ :=
        StdioTunnelLocal.start_started configures.state begins
      have still : StdioTunnel.Still STDOUT_FD _ l₁.toStdioTunnel :=
        StdioTunnelLocal.createConnections_still creates
      have empty : l₁.own STDOUT_FD = [] := by
        rw [still.own, show StdioTunnelLocal.toStdioTunnel _ = _ from configures.base]
        rfl
      have shown : (start (l₁.armed write_fd).registered).endpoint.m_read_buffer.toSockBuffer =
          .fresh := by
        change l₁.m_read_buffer.toSockBuffer = _
        rw [connects.same]
        exact configures.shown
      have typed : (start (l₁.armed write_fd).registered).endpoint.m_write_buffer = .fresh := by
        change l₁.m_write_buffer = _
        rw [connects.same]
        exact configures.typed
      refine ⟨piped, read, ?_, ?_, List.prefix_rfl, fun _ => ?_, Or.inl ?_⟩
      · exact shown ▸ SockBuffer.fresh_valid
      · rw [shown, SockBuffer.fresh_pending]
        rfl
      · rw [typed, SockBuffer.fresh_pending]
        exact ⟨SockBuffer.fresh_valid, rfl⟩
      · refine ⟨⟨STDOUT_FD, .zero, .zero⟩, ?_, fun unsent => ?_⟩
        · change ((((l₁.armed write_fd).toStdioTunnel.addPolled .stdioTunnel STDIN_FD
            POLLIN).addPolled .stdioTunnel STDOUT_FD .zero).addPolled .stdioTunnel l₁.m_read_fd
            POLLIN |>.addPolled .stdioTunnel l₁.m_write_fd .zero).own STDOUT_FD = _
          rw [StdioTunnel.own_addPolled, StdioTunnel.own_addPolled, StdioTunnel.own_addPolled,
            StdioTunnel.own_addPolled, show (l₁.armed write_fd).own STDOUT_FD = [] from empty,
            if_neg (by decide), if_pos rfl, if_neg (show l₁.m_read_fd ≠ STDOUT_FD from read.2),
            if_neg (show l₁.m_write_fd ≠ STDOUT_FD from piped.stdout.symm)]
          rfl
        · rw [shown] at unsent
          cases unsent

/-- What the console promises. -/
structure Transparent (s : Terminal) : Prop where
  shown : s.toStdout <+: s.fromChild
  given : s.toChild <+: s.fromStdin
  asked : s.endpoint.m_read_buffer.unsentData = true →
    ∃ record ∈ s.endpoint.own STDOUT_FD, record.events.POLLOUT = true
  removed : s.endpoint.own STDOUT_FD = [] →
    s.endpoint.m_read_buffer.unsentData = false ∧ s.toStdout = s.fromChild

theorem Carries.transparent (carries : s.Carries) : s.Transparent where
  shown := ⟨_, carries.shown⟩
  given := carries.given
  asked := by
    intro unsent
    rcases carries.asked with ⟨record, one, asks⟩ | ⟨_, idle, _⟩
    · exact ⟨record, by rw [one]; exact List.mem_singleton.mpr rfl, asks unsent⟩
    · cases idle.symm.trans unsent
  removed := by
    intro gone
    rcases carries.asked with ⟨record, one, _⟩ | ⟨_, idle, _⟩
    · cases one.symm.trans gone
    · have none : s.endpoint.m_read_buffer.pending = [] := by
        by_contra some'
        cases idle.symm.trans (carries.read.unsentData_iff.mpr some')
      have shown := carries.shown
      rw [none, List.append_nil] at shown
      exact ⟨idle, shown⟩

/-! ## Writes from outside a buffer -/

/-- Where the rest always returns only the first computation can fail. -/
theorem bind_fails_iff {α β : Type} {x : Except Fault α} {f : α → Except Fault β} {fault : Fault}
    (returns : ∀ a, ∃ b, f a = .ok b) : (x >>= f) = .error fault ↔ x = .error fault := by
  cases x with
  | error fault' =>
      rw [error_bind]
      exact ⟨fun same => congrArg _ (Except.error.inj same), fun same =>
        congrArg _ (Except.error.inj same)⟩
  | ok a =>
      obtain ⟨b, same⟩ := returns a
      rw [ok_bind, same]
      exact ⟨nofun, nofun⟩

theorem writeDetected_fails (l : StdioTunnelLocal) (calls : Calls) (fault : Fault) :
    l.writeDetected calls = .error fault ↔
      (l.m_read_buffer.toSockBuffer.writeData calls.write).2 = .error fault :=
  bind_fails_iff fun _ => ⟨_, rfl⟩

theorem writeTyped_fails (l : StdioTunnelLocal) (calls : Calls) (fault : Fault) :
    l.writeTyped calls = .error fault ↔
      (l.m_write_buffer.writeData calls.write).2 = .error fault :=
  bind_fails_iff fun _ => ⟨_, rfl⟩

/-- A write to the standard output fails as that of the buffer does. -/
theorem Carries.stdout_fails (carries : s.Carries) (writes : s.endpoint.WritesStdout event)
    (fault : Fault) :
    s.endpoint.dispatch event.polled event.poll_struct event.calls = .error fault ↔
      (s.endpoint.m_read_buffer.toSockBuffer.writeData event.calls.write).2 = .error fault := by
  obtain ⟨_, out⟩ := carries.apart
  have pipe := carries.piped.stdout
  rcases writes with ⟨⟨self, state, here⟩, ready⟩ | ⟨⟨self, here⟩, state, unsent⟩
  · rw [self]
    change s.endpoint.polled _ _ = _ ↔ _
    unfold StdioTunnelLocal.polled StdioTunnelLocal.polledPassThrough
    rw [state]
    dsimp only
    rw [onFd_of_ne _ _ (by rw [here]; exact out.symm), ok_bind,
      onFd_of_ne _ _ (by rw [here]; exact pipe), ok_bind,
      onFd_of_ne _ _ (by rw [here]; decide), ok_bind, onFd_self _ _ here]
    unfold StdioTunnelLocal.passStdout
    rw [if_pos ready, ← writeDetected_fails]
    exact bind_fails_iff fun l => by split <;> exact ⟨_, rfl⟩
  · rw [self]
    change s.endpoint.polled _ _ = _ ↔ _
    have connected : s.endpoint.polled event.poll_struct event.calls =
        s.endpoint.polledConnected event.poll_struct event.calls := by
      unfold StdioTunnelLocal.polled
      rcases state with state | state <;> rw [state]
    rw [connected]
    unfold StdioTunnelLocal.polledConnected
    rw [onFd_of_ne _ _ (by rw [here]; exact out.symm), ok_bind,
      onFd_of_ne _ _ (by rw [here]; exact pipe), ok_bind, onFd_self _ _ here]
    unfold StdioTunnelLocal.connectedStdout
    rw [if_pos unsent]
    exact writeDetected_fails _ _ _

/-- A write to the child fails as that of the buffer does. -/
theorem Carries.child_fails (carries : s.Carries) (writes : s.endpoint.WritesChild event)
    (fault : Fault) :
    s.endpoint.dispatch event.polled event.poll_struct event.calls = .error fault ↔
      (s.endpoint.m_write_buffer.writeData event.calls.write).2 = .error fault := by
  obtain ⟨⟨self, state, here⟩, ready⟩ := writes
  rw [self]
  change s.endpoint.polled _ _ = _ ↔ _
  unfold StdioTunnelLocal.polled StdioTunnelLocal.polledPassThrough
  rw [state]
  dsimp only
  rw [onFd_of_ne _ _ (by rw [here]; exact carries.piped.pipes.symm), ok_bind, onFd_self _ _ here,
    ← writeTyped_fails]
  unfold StdioTunnelLocal.passWrite
  rw [if_pos ready]
  refine (bind_fails_iff fun l => ⟨l, ?_⟩).trans
    (bind_fails_iff fun l => by split <;> exact ⟨_, rfl⟩)
  rw [onFd_of_ne _ _ (by rw [here]; exact carries.piped.stdin.symm), ok_bind,
    onFd_of_ne _ _ (by rw [here]; exact carries.piped.stdout.symm)]

/--
In every run the streams are copied in order and nothing is left behind at the
standard output, and a write to either side stays inside its buffer exactly if
it does not refill it with a negative number of bytes.
-/
theorem console_transparent {l : StdioTunnelLocal} (started : (Endpoint.localEnd l).Started)
    (distinct : Distinct l) (run : Run Step (start l) events s) :
    s.Transparent ∧ ∀ event,
      (s.endpoint.WritesStdout event →
        (¬ s.endpoint.Overruns event ↔ s.endpoint.m_read_buffer.Refillable)) ∧
      (s.endpoint.WritesChild event →
        (¬ s.endpoint.Overruns event ↔ s.endpoint.m_write_buffer.Refillable)) := by
  obtain ⟨_, carries⟩ := @Run.invariant _ _ _ _ _ _
    (fun s : Terminal => (Endpoint.localEnd s.endpoint).WaitsEmpty ∧ s.Carries)
    ⟨started.waitsEmpty, start_carries started distinct⟩ (fun before step =>
      ⟨before.1.step step.polls.step.result, before.2.step before.1.keyed step⟩) run
  refine ⟨carries.transparent, fun event => ⟨fun writes => ?_, fun writes => ?_⟩⟩
  · rw [carries.read.refillable_iff, ← SockBuffer.writeData_overruns _ event.calls.write]
    exact not_congr (carries.stdout_fails writes _)
  · have state := writes.1.2.1
    rw [(carries.typed state).1.refillable_iff,
      ← SockBuffer.writeData_overruns _ event.calls.write]
    exact not_congr (carries.child_fails writes _)

/-! ### A child nobody listens to -/

open StdioTunnelLocal (passing passing_begun detectLoop_zeros)
open Watched (passing_facts)

/--
The child is read, the magic string has not begun, and no login prompt is looked
for.
-/
structure Floodable (l : StdioTunnelLocal) : Prop where
  state : l.m_state = .PASS_THROUGH
  count : l.m_read_buffer.m_recognized_count = 0
  magic : l.m_read_buffer.m_magic_string = magicString
  pattern : l.m_read_buffer.m_login_pattern = []
  child : l.m_read_fd = 3
  distinct : Distinct l
  record : ∃ record ∈ l.registrations .stdioTunnel, record.fd = 3 ∧ record.events = POLLIN

theorem passing_distinct : Distinct passing := by
  unfold Distinct
  decide +kernel

theorem passing_floodable : Floodable passing := by
  obtain ⟨state, count, magic, pattern, fd, -⟩ := passing_facts
  exact ⟨state, count, magic, pattern, fd, passing_distinct, by decide +kernel⟩

def zeros (l : StdioTunnelLocal) (n : Nat) : StdioTunnelLocal :=
  { l with
    m_read_buffer := l.m_read_buffer.withBuffer (l.m_read_buffer.toSockBuffer.insert
      (List.replicate (n * SockBuffer.BUFFER_SIZE) 0)) }

/-- Chunks that fill the array of `readData`. -/
def chunks (n : Nat) : List (SysResult (List Byte)) :=
  List.replicate n (.ok (List.replicate SockBuffer.BUFFER_SIZE 0))

theorem detectLoop_chunks {l : StdioTunnelLocal} {calls : Calls}
    (count : l.m_read_buffer.m_recognized_count = 0)
    (magic : l.m_read_buffer.m_magic_string = magicString)
    (pattern : l.m_read_buffer.m_login_pattern = []) (n : Nat) {total : Int}
    (few : total + (n * SockBuffer.BUFFER_SIZE : Nat) ≤ INT_MAX) :
    l.detectLoop total calls (chunks n) =
      .ok (zeros l n, total + (n * SockBuffer.BUFFER_SIZE : Nat)) := by
  induction n generalizing l total with
  | zero =>
      unfold zeros SockBuffer.insert
      rw [Nat.zero_mul, List.replicate_zero, List.append_nil, Int.natCast_zero, Int.add_zero]
      rfl
  | succ n ih =>
      have chunk := @detectLoop_zeros l calls count magic pattern SockBuffer.BUFFER_SIZE [] total
        (chunks n)
      have sum : total + (SockBuffer.BUFFER_SIZE : Int) + (n * SockBuffer.BUFFER_SIZE : Nat) =
          total + ((n + 1) * SockBuffer.BUFFER_SIZE : Nat) := by
        rw [Nat.succ_mul, Nat.add_comm (n * _), Int.natCast_add, Int.add_assoc]
      have added : SockBuffer.addCount total SockBuffer.BUFFER_SIZE =
          .ok (total + SockBuffer.BUFFER_SIZE) := by
        refine if_pos ?_
        omega
      rw [List.append_nil] at chunk
      unfold chunks at chunk ⊢
      have skipped : l.processReadData calls [] = .ok l := rfl
      rw [List.replicate_succ, chunk, List.length_replicate, added, skipped, ok_bind, ok_bind,
        if_pos rfl]
      have more : zeros (zeros l 1) n = zeros l (n + 1) := by
        unfold zeros MagicStringDetector.withBuffer SockBuffer.insert
        dsimp only
        rw [List.append_assoc, List.replicate_append_replicate, Nat.one_mul, Nat.succ_mul,
          Nat.add_comm]
      have rest := @ih (zeros l 1) count magic pattern (total + SockBuffer.BUFFER_SIZE)
        (by rw [sum]; exact few)
      have one : zeros l 1 = l.setDetector fun d =>
          { d with toSockBuffer :=
              d.toSockBuffer.insert (List.replicate SockBuffer.BUFFER_SIZE 0) } := by
        unfold zeros
        rw [Nat.one_mul]
        rfl
      rw [more, one, sum] at rest
      exact rest

def flood (n : Nat) : Event := ⟨.stdioTunnel, ⟨3, POLLIN, POLLIN⟩, { reads := chunks n }⟩

def flooded (l : StdioTunnelLocal) (n : Nat) : StdioTunnelLocal :=
  (zeros l n).lift fun t => t.setEvents .stdioTunnel STDOUT_FD POLLOUT

theorem flooded_floodable (n : Nat) : Floodable (flooded passing n) := by
  obtain ⟨state, count, magic, pattern, fd, -⟩ := passing_facts
  refine ⟨state, count, magic, pattern, fd, passing_distinct, ?_⟩
  change ∃ record ∈ (passing.lift fun t =>
    t.setEvents .stdioTunnel STDOUT_FD POLLOUT).registrations .stdioTunnel, _
  decide +kernel

theorem flooded_step {s : Terminal} (floodable : Floodable s.endpoint) {n : Nat} (some' : 0 < n)
    (few : n * SockBuffer.BUFFER_SIZE ≤ INT_MAX) :
    Step s (flood n) (s.after (flood n) (flooded s.endpoint n)) := by
  obtain ⟨state, count, magic, pattern, fd, distinct, record, member, here, events⟩ := floodable
  obtain ⟨apart, stdin, out⟩ := distinct.apart
  obtain ⟨pipes, -, -⟩ := apart _ rfl
  have read : (flood n).poll_struct.fd = s.endpoint.m_read_fd := fd.symm
  have waits : n * SockBuffer.BUFFER_SIZE ≠ 0 := Nat.mul_ne_zero some'.ne' (by decide)
  have unsent : (zeros s.endpoint n).m_read_buffer.unsentData = true := by
    simp [SockBuffer.unsentData, zeros, MagicStringDetector.withBuffer, SockBuffer.insert, waits]
  have reads : s.endpoint.passRead (flood n).calls = .ok (flooded s.endpoint n) := by
    unfold StdioTunnelLocal.passRead StdioTunnelLocal.readDetected
    rw [show (flood n).calls.reads = chunks n from rfl,
      detectLoop_chunks count magic pattern n (by omega), ok_bind]
    dsimp only
    rw [Int.zero_add, if_neg (by omega), if_pos unsent]
    rfl
  have result : (Endpoint.localEnd s.endpoint).dispatch (flood n) =
      .ok (.localEnd (flooded s.endpoint n)) := by
    change (s.endpoint.polled (flood n).poll_struct (flood n).calls).map _ = _
    unfold StdioTunnelLocal.polled StdioTunnelLocal.polledPassThrough
    rw [state]
    dsimp only
    rw [onFd_self _ _ read, reads, ok_bind, onFd_of_ne _ _ (by rw [read]; exact pipes), ok_bind,
      onFd_of_ne _ _ (by rw [read]; exact stdin), ok_bind,
      onFd_of_ne _ _ (by rw [read]; exact out)]
    rfl
  refine ⟨⟨⟨⟨record, member, here⟩, trivial, result⟩, record, member, here, events⟩, ?_, ?_, rfl⟩
  · exact fun writes => absurd (read.symm.trans writes.1.2.2) pipes
  · rintro (writes | writes)
    · exact absurd (read.symm.trans writes.1.2.2) out
    · exact absurd (read.symm.trans writes.1.2) out

def taken : Event := ⟨.stdioTunnel, ⟨STDOUT_FD, POLLOUT, POLLOUT⟩, {}⟩

theorem passing_drained : passing.m_read_buffer.m_queue.length = 0 ∧
    passing.m_read_buffer.m_output_position = SockBuffer.BUFFER_SIZE := by
  decide +kernel

theorem flooded_queue (l : StdioTunnelLocal) (n : Nat) :
    (flooded l n).m_read_buffer.m_queue.length =
      l.m_read_buffer.m_queue.length + n * SockBuffer.BUFFER_SIZE := by
  change (l.m_read_buffer.m_queue ++
    List.replicate (n * SockBuffer.BUFFER_SIZE) 0).length = _
  rw [List.length_append, List.length_replicate]

/-- One chunk is written. -/
theorem console_transparent_flooded :
    ((start passing).after (flood 1) (flooded passing 1)).Transparent ∧
      ¬ (flooded passing 1).Overruns taken := by
  obtain ⟨transparent, inside⟩ := console_transparent passing_begun.started passing_distinct
    (.single (flooded_step (s := start passing) passing_floodable Nat.one_pos (by decide)))
  have writes : (flooded passing 1).WritesStdout taken := Or.inl ⟨⟨rfl, passing_facts.1, rfl⟩, rfl⟩
  refine ⟨transparent, ((inside taken).1 writes).mpr fun _ => ?_⟩
  change 0 ≤ int32 (flooded passing 1).m_read_buffer.m_queue.length
  rw [flooded_queue, passing_drained.1]
  decide

def overfull : Terminal :=
  let s := (start passing).after (flood 262144) (flooded passing 262144)
  s.after (flood 262144) (flooded (flooded passing 262144) 262144)

theorem overfull_run : Run Step (start passing) [flood 262144, flood 262144] overfull :=
  .cons (flooded_step (s := start passing) passing_floodable (by decide) (by decide))
    (.single (flooded_step (flooded_floodable 262144) (by decide) (by decide)))

/-- The size of the queue does not fit an `int`. -/
theorem not_console_transparent :
    ¬ ∀ l events s event, (Endpoint.localEnd l).Started → Distinct l → Run Step (start l) events s →
      s.endpoint.WritesStdout event → ¬ s.endpoint.Overruns event := by
  intro always
  have writes : overfull.endpoint.WritesStdout taken := Or.inl ⟨⟨rfl, passing_facts.1, rfl⟩, rfl⟩
  have inside := ((console_transparent passing_begun.started passing_distinct overfull_run).2
    taken).1 writes
  have refillable := inside.mp (always _ _ _ taken passing_begun.started passing_distinct
    overfull_run writes)
  have size : overfull.endpoint.m_read_buffer.m_queue.length = 2147483648 := by
    change (flooded (flooded passing 262144) 262144).m_read_buffer.m_queue.length = _
    rw [flooded_queue, flooded_queue, passing_drained.1]
    rfl
  have negative := refillable passing_drained.2
  rw [size] at negative
  exact absurd negative (by decide)

end Terminal

end Tun01
