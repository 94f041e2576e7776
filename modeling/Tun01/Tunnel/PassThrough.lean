import Tun01.Tunnel.Detector
import Tun01.Tunnel.Handshake
import Tun01.Tunnel.Operations

/-!
# Before the handshake

What changes aside of the links, and what the local endpoint does while it
copies the standard streams: the reads of the child's output make the calls of
the detector, and every call of `startHandshaking` queues one frame.
-/

namespace Tun01

namespace StdioTunnel

variable {t t' t'' : StdioTunnel}

/-! ## Changes aside of the links -/

/-- More clients were accepted on the descriptor of the socks5 server. -/
def Serves (t t' : StdioTunnel) : Prop :=
  ∃ fds : List Int, t'.socks5_calls = t.socks5_calls ++ fds.map ServerCall.accepts

theorem Serves.refl (t : StdioTunnel) : Serves t t := ⟨[], (List.append_nil _).symm⟩

theorem Serves.trans (first : Serves t t') (second : Serves t' t'') : Serves t t'' := by
  obtain ⟨fds, before⟩ := first
  obtain ⟨fds', after⟩ := second
  exact ⟨fds ++ fds', by rw [after, before, List.map_append, List.append_assoc]⟩

/-- The links, the connections, the sockets and the records for them are the same. -/
structure Aside (t t' : StdioTunnel) : Prop where
  side : t'.side = t.side
  map : t'.m_connection_map = t.m_connection_map
  os : t'.os = t.os
  records : ∀ x, x ≠ .stdioTunnel → t'.registrations x = t.registrations x
  poller : t'.m_write_stream.m_poller = t.m_write_stream.m_poller
  fields : t'.m_write_stream.m_queue = t.m_write_stream.m_queue
  serves : Serves t t'

namespace Aside

theorem refl (t : StdioTunnel) : Aside t t :=
  ⟨rfl, rfl, rfl, fun _ _ => rfl, rfl, rfl, .refl t⟩

theorem trans (first : Aside t t') (second : Aside t' t'') : Aside t t'' where
  side := second.side.trans first.side
  map := second.map.trans first.map
  os := second.os.trans first.os
  records := fun x other => (second.records x other).trans (first.records x other)
  poller := second.poller.trans first.poller
  fields := second.fields.trans first.fields
  serves := first.serves.trans second.serves

theorem withReader (t : StdioTunnel) (stream : ReadStream) : Aside t (t.withReader stream) :=
  ⟨rfl, rfl, rfl, fun _ _ => rfl, rfl, rfl, .refl _⟩

theorem serve (t : StdioTunnel) (fd : Int) : Aside t (t.serve (.accepts fd)) :=
  ⟨rfl, rfl, rfl, fun _ _ => rfl, rfl, rfl, [fd], rfl⟩

theorem setEvents (t : StdioTunnel) (fd : Int) (events : PollEvents) :
    Aside t (t.setEvents .stdioTunnel fd events) where
  side := rfl
  map := rfl
  os := rfl
  records := fun _ other =>
    (Poller.registrations_setEvents _ _ _ _ _).trans (if_neg fun same => other same.symm)
  poller := rfl
  fields := rfl
  serves := .refl _

theorem removePolled (t : StdioTunnel) (fd : Int) :
    Aside t (t.removePolled .stdioTunnel fd) where
  side := rfl
  map := rfl
  os := rfl
  records := fun _ other =>
    (Poller.registrations_removePolled _ _ _ _).trans (if_neg fun same => other same.symm)
  poller := rfl
  fields := rfl
  serves := .refl _

theorem emit (t : StdioTunnel) (payload : List Byte) : Aside t (t.emit payload) where
  side := rfl
  map := rfl
  os := rfl
  records := fun _ other => registrations_emit other payload
  poller := rfl
  fields := rfl
  serves := .refl _

theorem requestFinish (t : StdioTunnel) : Aside t t.requestFinish :=
  ⟨rfl, rfl, rfl, fun _ _ => rfl, rfl, rfl, .refl _⟩

theorem shutdown (t : StdioTunnel) : Aside t t.requestFinish.setShutdownByRequest :=
  ⟨rfl, rfl, rfl, fun _ _ => rfl, rfl, rfl, .refl _⟩

theorem written (t : StdioTunnel) {stream : WriteStream}
    (fields : stream.m_queue = t.m_write_stream.m_queue) :
    Aside t (t.mapWriter fun _ => stream) :=
  ⟨rfl, rfl, rfl, fun _ _ => rfl, rfl, fields, .refl _⟩

section

variable (aside : Aside t t')

include aside

theorem connection? (x : Int) : t'.connection? x = t.connection? x := by
  unfold StdioTunnel.connection?
  rw [aside.map]

theorem link? (x : Int) (i : Short) : t'.link? x i = t.link? x i := by
  unfold StdioTunnel.link?
  rw [aside.connection?]

theorem keyed (keyed : t.Keyed) : t'.Keyed where
  ready := ⟨aside.poller.trans keyed.ready.poller, aside.fields.trans keyed.ready.fields⟩
  keys := by
    intro x c found
    rw [aside.connection?] at found
    exact keyed.keys x c found
  ids := by
    intro x i l found
    rw [aside.link?] at found
    exact keyed.ids x i l found

end

end Aside

/-- There is no link, and no record for one. -/
structure Linkless (t : StdioTunnel) : Prop where
  link : ∀ x i, t.link? x i = none
  records : ∀ x i s, t.registrations (.connectionLink x i s) = []

theorem Linkless.aside (linkless : t.Linkless) (aside : Aside t t') : t'.Linkless where
  link := fun x i => (aside.link? x i).trans (linkless.link x i)
  records := fun x i s =>
    (aside.records (.connectionLink x i s) nofun).trans (linkless.records x i s)

end StdioTunnel

open StdioTunnel (Aside)

/-- The chunks `readData` reads: it goes on after a chunk that fills the array. -/
def SockBuffer.chunks : List (SysResult (List Byte)) → List (List Byte)
  | .ok bytes :: reads => bytes :: if bytes.length = BUFFER_SIZE then chunks reads else []
  | _ => []

namespace MagicStringDetector

def withBuffer (d : MagicStringDetector) (buffer : SockBuffer) : MagicStringDetector :=
  { d with toSockBuffer := buffer }

variable {d : MagicStringDetector}

theorem detectLogin_withBuffer (buffer : SockBuffer) (c : Byte) :
    (d.withBuffer buffer).detectLogin c =
      ((d.detectLogin c).1.withBuffer buffer, (d.detectLogin c).2) := by
  unfold detectLogin withBuffer
  dsimp only
  split
  · rfl
  split <;> rfl

theorem detect_withBuffer (buffer : SockBuffer) (bytes : List Byte) :
    (d.withBuffer buffer).detect bytes =
      ((d.detect bytes).1.withBuffer buffer, (d.detect bytes).2) := by
  induction bytes generalizing d with
  | nil => rfl
  | cons c rest ih =>
      have login : ∀ count,
          (({ d with m_recognized_count := count } : MagicStringDetector).withBuffer
            buffer).detectLogin c = _ := fun count => detectLogin_withBuffer buffer c
      unfold withBuffer at login ih ⊢
      unfold detect
      dsimp only at login ⊢
      simp only [login, ih]
      split
      · rfl
      split
      · split <;> rfl
      · rfl

theorem detectAll_withBuffer (buffer : SockBuffer) (chunks : List (List Byte)) :
    (d.withBuffer buffer).detectAll chunks =
      ((d.detectAll chunks).1.withBuffer buffer, (d.detectAll chunks).2) := by
  induction chunks generalizing d with
  | nil => rfl
  | cons chunk chunks ih =>
      unfold detectAll
      dsimp only
      rw [detect_withBuffer, ih]

end MagicStringDetector

/-! ## Calls of the detector -/

namespace StdioTunnelLocal

variable {l l' l'' : StdioTunnelLocal} {poll_struct : Pollfd} {calls : Calls}
  {d : MagicStringDetector} {n m : Nat}

/--
The endpoint looks after the standard streams, with `n` calls of
`startHandshaking` and the detector as in `d`.
-/
structure Passes (l : StdioTunnelLocal) (d : MagicStringDetector) (n : Nat)
    (l' : StdioTunnelLocal) : Prop where
  aside : Aside l.toStdioTunnel l'.toStdioTunnel
  state : l'.m_state = if n = 0 then l.m_state else .HAND_SHAKE
  writer : l'.m_write_stream = l.m_write_stream.emitting
    (List.replicate n (Message.handshake l.connections).payload)
  reader : l'.m_read_stream = l.m_read_stream
  detector : ∃ buffer, l'.m_read_buffer = d.withBuffer buffer
  read_fd : l'.m_read_fd = l.m_read_fd
  write_fd : l'.m_write_fd = l.m_write_fd
  request : l'.m_closed_by_request = l.m_closed_by_request

namespace Passes

/-- Nothing but buffers and records of the endpoint changes. -/
theorem quiet (aside : Aside l.toStdioTunnel l'.toStdioTunnel) (state : l'.m_state = l.m_state)
    (writer : l'.m_write_stream = l.m_write_stream) (reader : l'.m_read_stream = l.m_read_stream)
    (detector : ∃ buffer, l'.m_read_buffer = l.m_read_buffer.withBuffer buffer)
    (read_fd : l'.m_read_fd = l.m_read_fd) (write_fd : l'.m_write_fd = l.m_write_fd)
    (request : l'.m_closed_by_request = l.m_closed_by_request) :
    Passes l l.m_read_buffer 0 l' where
  aside := aside
  state := state
  writer := writer.trans (CustomWriteStream.emitting_nil _).symm
  reader := reader
  detector := detector
  read_fd := read_fd
  write_fd := write_fd
  request := request

theorem refl (l : StdioTunnelLocal) : Passes l l.m_read_buffer 0 l :=
  quiet (.refl _) rfl rfl rfl ⟨_, rfl⟩ rfl rfl rfl

theorem connections (passes : Passes l d n l') : l'.connections = l.connections := by
  unfold StdioTunnel.connections
  rw [passes.aside.map]

theorem writer_append (first : Passes l d n l') (out : List (List Byte)) :
    l'.m_write_stream.emitting out = l.m_write_stream.emitting
      (List.replicate n (Message.handshake l.connections).payload ++ out) := by
  rw [first.writer, CustomWriteStream.emitting_emitting]

/-- Calls are followed by others. -/
theorem trans {d' : MagicStringDetector} (first : Passes l d n l') (second : Passes l' d' m l'') :
    Passes l d' (n + m) l'' where
  aside := first.aside.trans second.aside
  state := by
    rw [second.state, first.state]
    split
    · rename_i none
      rw [none, Nat.add_zero]
    · rename_i some
      rw [if_neg (by omega)]
  writer := by
    rw [second.writer, first.connections, first.writer_append, List.replicate_append_replicate]
  reader := second.reader.trans first.reader
  detector := second.detector
  read_fd := second.read_fd.trans first.read_fd
  write_fd := second.write_fd.trans first.write_fd
  request := second.request.trans first.request

/-- Nothing but buffers and records of the endpoint changes after the calls. -/
theorem andQuiet (first : Passes l d n l') (second : Passes l' l'.m_read_buffer 0 l'') :
    Passes l d n l'' := by
  have both := first.trans second
  obtain ⟨buffer, same⟩ := first.detector
  obtain ⟨buffer', after⟩ := second.detector
  exact ⟨both.aside, both.state, both.writer, both.reader, ⟨buffer', by rw [after, same]; rfl⟩,
    both.read_fd, both.write_fd, both.request⟩

end Passes

theorem perform_passes {call : DetectorCall} (keyed : l.Keyed)
    (result : perform calls l call = .ok l') :
    Passes l l.m_read_buffer (if call = .startHandshaking then 1 else 0) l' := by
  cases call with
  | startHandshaking =>
      rw [startHandshaking_greeting keyed.ready result]
      exact ⟨(Aside.emit _ _).trans (.removePolled _ _), rfl, rfl, rfl, ⟨_, rfl⟩, rfl, rfl,
        rfl⟩
  | remoteInit =>
      rw [remoteInit_self result]
      exact .refl l
  | outOfRange => cases result

theorem performs_passes {made : List DetectorCall} (keyed : l.Keyed)
    (result : made.foldlM (perform calls) l = .ok l') :
    Passes l l.m_read_buffer (made.count .startHandshaking) l' := by
  induction made generalizing l with
  | nil =>
      rw [← Except.ok.inj result]
      exact .refl l
  | cons call rest ih =>
      rw [List.foldlM_cons] at result
      obtain ⟨l₁, first, later⟩ := of_bind_ok result
      have one := perform_passes keyed first
      have more := ih (one.aside.keyed keyed) later
      rw [perform_buffer first] at more
      have both := one.trans more
      rw [List.count_cons, Nat.add_comm]
      simpa only [beq_iff_eq] using both

/-! ## Reads -/

/-- `readData` makes the calls of the detector on the chunks it reads. -/
theorem detectLoop_performs {reads : List (SysResult (List Byte))} {total count : Int}
    (result : l.detectLoop total calls reads = .ok (l', count)) :
    ∃ l₁ buffer, (l.m_read_buffer.detectAll (SockBuffer.chunks reads)).2.foldlM (perform calls) l =
        .ok l₁ ∧
      l' = l₁.setDetector fun _ =>
        (l.m_read_buffer.detectAll (SockBuffer.chunks reads)).1.withBuffer buffer := by
  induction reads generalizing l total with
  | nil =>
      rw [← (Prod.mk.inj (Except.ok.inj result)).1]
      exact ⟨l, l.m_read_buffer.toSockBuffer, rfl, rfl⟩
  | cons read reads ih =>
      cases read with
      | fail errno =>
          unfold detectLoop at result
          split at result
          · rw [← (Prod.mk.inj (Except.ok.inj result)).1]
            exact ⟨l, l.m_read_buffer.toSockBuffer, rfl, rfl⟩
          · cases result
      | ok bytes =>
          unfold detectLoop at result
          obtain ⟨l₁, first, result⟩ := of_bind_ok result
          rw [processReadData_performs] at first
          obtain ⟨l₀, made, rfl⟩ := of_map_ok first
          unfold SockBuffer.chunks MagicStringDetector.detectAll
          dsimp only at result ⊢
          obtain ⟨total', _, result⟩ := of_bind_ok result
          split at result
          · rename_i full
            obtain ⟨l₃, buffer, calls', after⟩ := ih result
            rw [if_pos full]
            let d₁ := (l.m_read_buffer.detect bytes).1.withBuffer
              ((l.m_read_buffer.detect bytes).1.toSockBuffer.insert bytes)
            have unread : l₀.m_read_buffer = l.m_read_buffer := performs_buffer made
            have split := @MagicStringDetector.detectAll_withBuffer
              (l.m_read_buffer.detect bytes).1
              ((l.m_read_buffer.detect bytes).1.toSockBuffer.insert bytes)
              (SockBuffer.chunks reads)
            change (d₁.detectAll (SockBuffer.chunks reads)).2.foldlM (perform calls)
              (l₀.setDetector fun _ => d₁) = .ok l₃ at calls'
            rw [performs_setDetector d₁ (by
              rw [unread]
              exact (MagicStringDetector.detect_same _ bytes).command)] at calls'
            obtain ⟨l₄, calls'', rfl⟩ := of_map_ok calls'
            rw [split] at calls''
            refine ⟨l₄, buffer, ?_, ?_⟩
            · rw [List.foldlM_append, made]
              exact calls''
            · rw [after]
              change StdioTunnelLocal.setDetector _ (fun _ =>
                (d₁.detectAll (SockBuffer.chunks reads)).1.withBuffer buffer) = _
              rw [split]
              rfl
          · rename_i short
            rw [if_neg short, ← (Prod.mk.inj (Except.ok.inj result)).1]
            refine ⟨l₀, (l.m_read_buffer.detect bytes).1.toSockBuffer.insert bytes, ?_, rfl⟩
            rw [show ((l.m_read_buffer.detect bytes).1.detectAll []).2 = [] from rfl,
              List.append_nil]
            exact made

theorem readDetected_passes {reads : List (SysResult (List Byte))} {count : Int} (keyed : l.Keyed)
    (result : l.readDetected calls reads = .ok (l', count)) :
    Passes l (l.m_read_buffer.detectAll (SockBuffer.chunks reads)).1
      ((l.m_read_buffer.detectAll (SockBuffer.chunks reads)).2.count .startHandshaking) l' := by
  obtain ⟨l₁, buffer, made, rfl⟩ := detectLoop_performs result
  have passes := performs_passes keyed made
  exact ⟨passes.aside, passes.state, passes.writer, passes.reader, ⟨buffer, rfl⟩, passes.read_fd,
    passes.write_fd, passes.request⟩

/-! ## Dispatches -/

/-- The calls of the detector in a dispatch of the endpoint itself. -/
def detected (l : StdioTunnelLocal) (poll_struct : Pollfd) (calls : Calls) :
    MagicStringDetector × List DetectorCall :=
  if poll_struct.fd = l.m_read_fd then
    l.m_read_buffer.detectAll (SockBuffer.chunks calls.reads)
  else
    (l.m_read_buffer, [])

theorem writeTyped_same (result : l.writeTyped calls = .ok l') :
    ∃ buffer, l' = { l with m_write_buffer := buffer } := by
  unfold writeTyped at result
  obtain ⟨_, _, result⟩ := of_bind_ok result
  exact ⟨_, (Except.ok.inj result).symm⟩

theorem writeDetected_same (result : l.writeDetected calls = .ok l') :
    ∃ buffer, l' = { l with m_read_buffer := l.m_read_buffer.withBuffer buffer } := by
  unfold writeDetected at result
  obtain ⟨_, _, result⟩ := of_bind_ok result
  exact ⟨_, (Except.ok.inj result).symm⟩

theorem passRead_passes (keyed : l.Keyed) (result : l.passRead calls = .ok l') :
    Passes l (l.m_read_buffer.detectAll (SockBuffer.chunks calls.reads)).1
      ((l.m_read_buffer.detectAll (SockBuffer.chunks calls.reads)).2.count .startHandshaking)
      l' := by
  unfold passRead at result
  obtain ⟨⟨l₀, count⟩, detected, result⟩ := of_bind_ok result
  have passes := readDetected_passes keyed detected
  dsimp only at result
  split at result
  · cases result
  split at result
  · obtain rfl := Except.ok.inj result
    exact passes.andQuiet (.quiet (.setEvents _ STDOUT_FD POLLOUT) rfl rfl rfl ⟨_, rfl⟩ rfl rfl rfl)
  · obtain rfl := Except.ok.inj result
    exact passes

theorem passWrite_passes (result : l.passWrite poll_struct calls = .ok l') :
    Passes l l.m_read_buffer 0 l' := by
  unfold passWrite at result
  split at result
  · obtain ⟨l₀, written, result⟩ := of_bind_ok result
    obtain ⟨buffer, rfl⟩ := writeTyped_same written
    split at result
    · obtain rfl := Except.ok.inj result
      exact .quiet (.refl _) rfl rfl rfl ⟨_, rfl⟩ rfl rfl rfl
    · obtain rfl := Except.ok.inj result
      exact .quiet (.setEvents _ l.m_write_fd .zero) rfl rfl rfl ⟨_, rfl⟩ rfl rfl rfl
  · cases result

theorem passStdin_passes (result : l.passStdin calls = .ok l') :
    Passes l l.m_read_buffer 0 l' := by
  unfold passStdin at result
  obtain ⟨⟨buffer, count⟩, _, result⟩ := of_bind_ok result
  dsimp only at result
  split at result
  · cases result
  split at result
  · obtain rfl := Except.ok.inj result
    exact .quiet (.setEvents _ l.m_write_fd POLLOUT) rfl rfl rfl ⟨_, rfl⟩ rfl rfl rfl
  · obtain rfl := Except.ok.inj result
    exact .quiet (.refl _) rfl rfl rfl ⟨_, rfl⟩ rfl rfl rfl

theorem passStdout_passes (result : l.passStdout poll_struct calls = .ok l') :
    Passes l l.m_read_buffer 0 l' := by
  unfold passStdout at result
  split at result
  · obtain ⟨l₀, written, result⟩ := of_bind_ok result
    obtain ⟨buffer, rfl⟩ := writeDetected_same written
    split at result
    · obtain rfl := Except.ok.inj result
      exact .quiet (.refl _) rfl rfl rfl ⟨buffer, rfl⟩ rfl rfl rfl
    · obtain rfl := Except.ok.inj result
      exact .quiet (.setEvents _ STDOUT_FD .zero) rfl rfl rfl ⟨buffer, rfl⟩ rfl rfl rfl
  · cases result

theorem onFd_passes {fd : Int} {branch : Except Fault StdioTunnelLocal}
    (passes : branch = .ok l' → Passes l l.m_read_buffer 0 l')
    (result : onFd poll_struct fd l branch = .ok l') : Passes l l.m_read_buffer 0 l' := by
  unfold onFd at result
  split at result
  · exact passes result
  · rw [← Except.ok.inj result]
    exact .refl l

/-- A dispatch of the endpoint before the handshake. -/
theorem passThrough_passes (keyed : l.Keyed)
    (result : l.polledPassThrough poll_struct calls = .ok l') :
    Passes l (l.detected poll_struct calls).1
      ((l.detected poll_struct calls).2.count .startHandshaking) l' := by
  unfold polledPassThrough at result
  obtain ⟨l₁, reads, result⟩ := of_bind_ok result
  obtain ⟨l₂, writes, result⟩ := of_bind_ok result
  obtain ⟨l₃, typed, result⟩ := of_bind_ok result
  have first : Passes l (l.detected poll_struct calls).1
      ((l.detected poll_struct calls).2.count .startHandshaking) l₁ := by
    unfold onFd at reads
    unfold detected
    split at reads
    · rename_i here
      rw [if_pos here]
      exact passRead_passes keyed reads
    · rename_i other
      rw [if_neg other, ← Except.ok.inj reads]
      exact .refl l
  have second := first.andQuiet (onFd_passes passWrite_passes writes)
  have third := second.andQuiet (onFd_passes passStdin_passes typed)
  exact third.andQuiet (onFd_passes passStdout_passes result)

end StdioTunnelLocal

end Tun01
