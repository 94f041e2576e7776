import Tun01.Net.Cursor
import Tun01.Tunnel.Output

/-!
# Handlers and their poller

Every dispatch of an endpoint changes its poller by `addPolled`, `setEvents`,
`removePolled` and `requestFinish` only, so what is known of a round of the
poller holds of the rounds of an endpoint.  The record for the pipe that frames
come from is never touched.
-/

namespace Tun01

open StdioTunnel (Aside Arms)

/-! ## Calls of handlers -/

namespace Poller

/-- A call of a handler; records of the endpoint itself are touched for some descriptors only. -/
inductive Work (may : Int → Prop) (p : Poller Polled) : Poller Polled → Prop where
  | addPolled (x : Polled) (fd : Int) (events : PollEvents) (allowed : x = .stdioTunnel → may fd) :
      Work may p (p.addPolled x fd events)
  | setEvents (x : Polled) (fd : Int) (events : PollEvents) (allowed : x = .stdioTunnel → may fd) :
      Work may p (p.setEvents x fd events)
  | removePolled (x : Polled) (fd : Int) (allowed : x = .stdioTunnel → may fd) :
      Work may p (p.removePolled x fd)
  | requestFinish : Work may p p.requestFinish

/-- The poller after the calls of a handler. -/
def Works (may : Int → Prop) : Poller Polled → Poller Polled → Prop :=
  Relation.ReflTransGen (Work may)

namespace Works

variable {may : Int → Prop} {p q r : Poller Polled} {x : Polled} {fd : Int} {events : PollEvents}

theorem refl (p : Poller Polled) : Works may p p := Relation.ReflTransGen.refl

theorem trans (first : Works may p q) (second : Works may q r) : Works may p r :=
  Relation.ReflTransGen.trans first second

theorem addPolled (allowed : x = .stdioTunnel → may fd) : Works may p (p.addPolled x fd events) :=
  Relation.ReflTransGen.single (.addPolled x fd events allowed)

theorem setEvents (allowed : x = .stdioTunnel → may fd) : Works may p (p.setEvents x fd events) :=
  Relation.ReflTransGen.single (.setEvents x fd events allowed)

theorem removePolled (allowed : x = .stdioTunnel → may fd) : Works may p (p.removePolled x fd) :=
  Relation.ReflTransGen.single (.removePolled x fd allowed)

theorem requestFinish (p : Poller Polled) : Works may p p.requestFinish :=
  Relation.ReflTransGen.single .requestFinish

theorem driven (works : Works may p q) : Driven p q := by
  induction works with
  | refl => exact .refl p
  | tail _ last ih =>
      refine ih.trans ?_
      cases last with
      | addPolled x fd events _ => exact .addPolled _ x fd events
      | setEvents x fd events _ => exact .setEvents _ x fd events
      | removePolled x fd _ => exact .removePolled _ x fd
      | requestFinish => exact .requestFinish _

/-- The records of the endpoint for other descriptors stay as they are. -/
theorem spares (works : Works may p q) (spared : ¬ may fd) :
    recordsAt fd (q.registrations .stdioTunnel) = recordsAt fd (p.registrations .stdioTunnel) := by
  have apart : ∀ {other : Int}, may other → other ≠ fd := by
    rintro other touched rfl
    exact spared touched
  induction works with
  | refl => rfl
  | tail _ last ih =>
      rw [← ih]
      cases last with
      | requestFinish => rfl
      | addPolled x other events allowed =>
          rw [registrations_addPolled]
          split
          · rename_i own
            unfold recordsAt
            rw [List.filter_append, List.filter_singleton,
              decide_eq_false (apart (allowed own)), cond_false, List.append_nil]
          · rfl
      | setEvents x other events allowed =>
          rw [registrations_setEvents]
          split
          · rename_i own
            rw [recordsAt_setFirst, if_neg (apart (allowed own))]
          · rfl
      | removePolled x other allowed =>
          rw [registrations_removePolled]
          split
          · rename_i own
            rw [recordsAt_eraseP, if_neg (apart (allowed own))]
          · rfl

end Works

end Poller

open Poller (Works)

/-- Only the events change when packets are written. -/
theorem WriteStream.empty_fd {ws stream : WriteStream} {poll_struct after : Pollfd}
    {write : SysResult Nat} {taken : List Byte}
    (empties : ws.empty poll_struct write = .ok (stream, after, taken)) :
    after.fd = poll_struct.fd := by
  unfold WriteStream.empty at empties
  split at empties
  · cases empties
    rfl
  · split at empties
    · obtain ⟨_, _, empties⟩ := of_bind_ok empties
      cases empties
      rfl
    · cases empties
      rfl

/-! ## Links and listeners -/

namespace Operation

/-- An operation works the poller. -/
theorem works {may : Int → Prop} (op : Operation) (t : StdioTunnel)
    (writer : may t.m_write_stream.m_fd) : t.m_poller.Works may (op.apply t).m_poller := by
  cases op with
  | emit m => exact .setEvents fun _ => writer
  | received _ _ _ | erase _ _ | refuse _ _ | accept _ _ _ _ | attempt _ _ => exact .refl _
  | acknowledge conn l ack =>
      unfold apply
      dsimp only
      split
      · exact .refl _
      · exact .setEvents fun no => by cases no
  | push conn l bytes => exact .setEvents fun no => by cases no
  | written conn l buffer bytes =>
      unfold apply
      dsimp only
      split
      · exact .refl _
      · exact .setEvents fun no => by cases no
  | close conn l => exact .removePolled fun no => by cases no
  | establish conn l | connect conn id => exact .addPolled fun no => by cases no

end Operation

namespace StdioTunnel

variable {t t' : StdioTunnel} {may : Int → Prop}

/-- What the calls of a handler leave of an endpoint. -/
structure Drives (may : Int → Prop) (t t' : StdioTunnel) : Prop where
  works : t.m_poller.Works may t'.m_poller
  fd : t'.m_write_stream.m_fd = t.m_write_stream.m_fd

theorem Drives.refl (t : StdioTunnel) : Drives may t t := ⟨.refl _, rfl⟩

theorem Drives.trans {t'' : StdioTunnel} (first : Drives may t t') (second : Drives may t' t'') :
    Drives may t t'' := ⟨first.works.trans second.works, second.fd.trans first.fd⟩

theorem Drives.run {ops : List Operation} (writer : may t.m_write_stream.m_fd)
    (run : Run Operation.Step t ops t') : Drives may t t' := by
  induction run with
  | nil => exact .refl _
  | snoc earlier last ih =>
      obtain ⟨_, rfl⟩ := last
      refine ih.trans ⟨Operation.works _ _ ?_, (Arms.ofOperation _ _).fd⟩
      rw [ih.fd]
      exact writer

theorem Drives.send (writer : may t.m_write_stream.m_fd) (result : t.send = .ok t') :
    Drives may t t' := by
  unfold StdioTunnel.send at result
  split at result
  · rw [← Except.ok.inj result]
    exact ⟨.setEvents fun _ => writer, rfl⟩
  · cases result

theorem Drives.reportError {message : List Byte} (writer : may t.m_write_stream.m_fd)
    (result : t.reportError message = .ok t') : Drives may t t' := by
  unfold StdioTunnel.reportError at result
  split at result
  · rw [← Except.ok.inj result]
    exact .refl _
  · have sent := Drives.send (t := (t.writeShort CMD_ERROR).writeString message) writer result
    exact ⟨sent.works, sent.fd⟩

theorem Drives.dispatchMessage {conn : Short} {connect : ConnectResult} (keyed : t.Keyed)
    (writer : may t.m_write_stream.m_fd)
    (result : t.dispatchMessage conn.val connect = .ok t') : Drives may t t' := by
  obtain ⟨_, _, _, _, rest, _, _, _, run, _⟩ := dispatchMessage_run keyed result
  have drives := Drives.run (t := t.reading rest) writer run
  exact ⟨drives.works, drives.fd⟩

theorem Drives.createConnection {spec : ConnectionSpec} {is_local : Bool} {id : Int}
    {listen : ListenResult} {pConn : Option TunnelConnection}
    (result : t.CreateConnection spec is_local id listen = .ok (t', pConn)) : Drives may t t' := by
  unfold CreateConnection at result
  split at result
  · cases listen with
    | bindFailed errno => cases result
    | noSocket | fcntlFailed | listenFailed =>
        obtain ⟨rfl, _⟩ := Prod.mk.inj (Except.ok.inj result)
        exact ⟨.refl _, rfl⟩
    | listening =>
        obtain ⟨rfl, _⟩ := Prod.mk.inj (Except.ok.inj result)
        exact ⟨.addPolled fun no => (by cases no), rfl⟩
  · obtain ⟨rfl, _⟩ := Prod.mk.inj (Except.ok.inj result)
    exact .refl _

end StdioTunnel

/-! ## The local endpoint -/

namespace StdioTunnelLocal

variable {l l' l'' : StdioTunnelLocal} {poll_struct : Pollfd} {calls : Calls} {may : Int → Prop}

/-- What the calls of a handler leave of the local endpoint. -/
structure Drives (may : Int → Prop) (l l' : StdioTunnelLocal) : Prop extends
    StdioTunnel.Drives may l.toStdioTunnel l'.toStdioTunnel where
  write_fd : l'.m_write_fd = l.m_write_fd

/-- The descriptors whose records the local endpoint may touch. -/
structure Permits (may : Int → Prop) (l : StdioTunnelLocal) : Prop where
  stdin : may STDIN_FD
  stdout : may STDOUT_FD
  writer : may l.m_write_stream.m_fd
  write_fd : may l.m_write_fd

theorem Drives.refl (l : StdioTunnelLocal) : Drives may l l := ⟨.refl _, rfl⟩

theorem Drives.trans (first : Drives may l l') (second : Drives may l' l'') : Drives may l l'' :=
  ⟨first.toDrives.trans second.toDrives, second.write_fd.trans first.write_fd⟩

theorem Permits.after (permits : l.Permits may) (drives : Drives may l l') : l'.Permits may where
  stdin := permits.stdin
  stdout := permits.stdout
  writer := by
    rw [drives.fd]
    exact permits.writer
  write_fd := by
    rw [drives.write_fd]
    exact permits.write_fd

/-- A branch that is taken or not. -/
theorem onFd_drives {fd : Int} {branch : Except Fault StdioTunnelLocal}
    (taken : poll_struct.fd = fd → branch = .ok l' → Drives may l l')
    (result : onFd poll_struct fd l branch = .ok l') : Drives may l l' := by
  unfold onFd at result
  split at result
  · rename_i here
    exact taken here result
  · rw [← Except.ok.inj result]
    exact .refl _

theorem performs_drives {made : List DetectorCall} (keyed : l.Keyed) (permits : l.Permits may)
    (result : made.foldlM (perform calls) l = .ok l') : Drives may l l' := by
  induction made generalizing l with
  | nil =>
      rw [← Except.ok.inj result]
      exact .refl _
  | cons call rest ih =>
      rw [List.foldlM_cons] at result
      obtain ⟨l₁, first, later⟩ := of_bind_ok result
      have drives : Drives may l l₁ := by
        cases call with
        | startHandshaking =>
            rw [startHandshaking_greeting keyed.ready first]
            refine ⟨⟨?_, rfl⟩, rfl⟩
            exact (Works.setEvents fun _ => permits.writer).trans
              (.removePolled fun _ => permits.stdin)
        | remoteInit =>
            rw [remoteInit_self first]
            exact .refl _
        | outOfRange => cases first
      exact drives.trans (ih ((perform_passes keyed first).aside.keyed keyed) (permits.after drives)
        later)

theorem passRead_drives (keyed : l.Keyed) (permits : l.Permits may)
    (result : l.passRead calls = .ok l') : Drives may l l' := by
  unfold passRead at result
  obtain ⟨⟨l₀, count⟩, detected, result⟩ := of_bind_ok result
  obtain ⟨l₁, buffer, made, rfl⟩ := detectLoop_performs detected
  have read : Drives may l l₁ := performs_drives keyed permits made
  dsimp only at result
  split at result
  · cases result
  split at result
  · obtain rfl := Except.ok.inj result
    exact ⟨⟨read.works.trans (.setEvents fun _ => permits.stdout), read.fd⟩, read.write_fd⟩
  · obtain rfl := Except.ok.inj result
    exact ⟨⟨read.works, read.fd⟩, read.write_fd⟩

theorem passWrite_drives (permits : l.Permits may)
    (result : l.passWrite poll_struct calls = .ok l') : Drives may l l' := by
  unfold passWrite at result
  split at result
  · obtain ⟨l₀, written, result⟩ := of_bind_ok result
    obtain ⟨buffer, rfl⟩ := writeTyped_same written
    split at result
    · obtain rfl := Except.ok.inj result
      exact ⟨⟨.refl _, rfl⟩, rfl⟩
    · obtain rfl := Except.ok.inj result
      exact ⟨⟨.setEvents fun _ => permits.write_fd, rfl⟩, rfl⟩
  · cases result

theorem passStdin_drives (permits : l.Permits may) (result : l.passStdin calls = .ok l') :
    Drives may l l' := by
  unfold passStdin at result
  obtain ⟨⟨buffer, count⟩, _, result⟩ := of_bind_ok result
  dsimp only at result
  split at result
  · cases result
  split at result
  · obtain rfl := Except.ok.inj result
    exact ⟨⟨.setEvents fun _ => permits.write_fd, rfl⟩, rfl⟩
  · obtain rfl := Except.ok.inj result
    exact ⟨⟨.refl _, rfl⟩, rfl⟩

theorem passStdout_drives (permits : l.Permits may)
    (result : l.passStdout poll_struct calls = .ok l') : Drives may l l' := by
  unfold passStdout at result
  split at result
  · obtain ⟨l₀, written, result⟩ := of_bind_ok result
    obtain ⟨buffer, rfl⟩ := writeDetected_same written
    split at result
    · obtain rfl := Except.ok.inj result
      exact ⟨⟨.refl _, rfl⟩, rfl⟩
    · obtain rfl := Except.ok.inj result
      exact ⟨⟨.setEvents fun _ => permits.stdout, rfl⟩, rfl⟩
  · cases result

theorem polledPassThrough_drives (keyed : l.Keyed) (permits : l.Permits may)
    (result : l.polledPassThrough poll_struct calls = .ok l') : Drives may l l' := by
  unfold polledPassThrough at result
  obtain ⟨l₁, reads, result⟩ := of_bind_ok result
  obtain ⟨l₂, writes, result⟩ := of_bind_ok result
  obtain ⟨l₃, typed, result⟩ := of_bind_ok result
  have first := onFd_drives (fun _ => passRead_drives keyed permits) reads
  have second := first.trans (onFd_drives (fun _ => passWrite_drives (permits.after first)) writes)
  have third := second.trans (onFd_drives (fun _ => passStdin_drives (permits.after second)) typed)
  exact third.trans (onFd_drives (fun _ => passStdout_drives (permits.after third)) result)

theorem processFrame_drives (keyed : l.Keyed) (permits : l.Permits may)
    (result : l.processFrame calls = .ok l') : Drives may l l' := by
  unfold processFrame at result
  obtain ⟨⟨cmd, t⟩, first, result⟩ := of_bind_ok result
  obtain ⟨q, _, rfl⟩ := StdioTunnel.readShort_split first
  have read : Aside l.toStdioTunnel (l.toStdioTunnel.reading q) := .withReader _ _
  dsimp only at result
  split at result
  · obtain ⟨⟨message, t₁⟩, text, result⟩ := of_bind_ok result
    obtain ⟨t₂, reports, result⟩ := of_bind_ok result
    obtain rfl := Except.ok.inj result
    unfold StdioTunnel.readString at text
    obtain ⟨⟨bytes, stream⟩, _, text⟩ := of_bind_ok text
    obtain ⟨rfl, rfl⟩ := Prod.mk.inj (Except.ok.inj text)
    have drives := StdioTunnel.Drives.reportError
      (t := (l.toStdioTunnel.reading q).withReader stream) permits.writer reports
    exact ⟨⟨drives.works, drives.fd⟩, rfl⟩
  split at result
  · obtain rfl := Except.ok.inj result
    exact ⟨⟨.refl _, rfl⟩, rfl⟩
  split at result
  · obtain ⟨⟨id, t₁⟩, second, result⟩ := of_bind_ok result
    obtain ⟨t₂, third, result⟩ := of_bind_ok result
    obtain rfl := Except.ok.inj result
    obtain ⟨q', _, rfl⟩ := StdioTunnel.readShort_split second
    have drives := StdioTunnel.Drives.dispatchMessage
      (t := (l.toStdioTunnel.reading q).reading q') ((read.keyed keyed).reading q') permits.writer
      third
    exact ⟨⟨drives.works, drives.fd⟩, rfl⟩
  split at result
  · obtain rfl := Except.ok.inj result
    exact ⟨⟨.requestFinish _, rfl⟩, rfl⟩
  · obtain rfl := Except.ok.inj result
    exact ⟨⟨.refl _, rfl⟩, rfl⟩

theorem connectedRead_drives (keyed : l.Keyed) (permits : l.Permits may)
    (result : l.connectedRead poll_struct calls = .ok l') : Drives may l l' := by
  unfold connectedRead at result
  split at result
  · cases result
  obtain ⟨stream, _, result⟩ := of_bind_ok result
  dsimp only at result
  split at result
  · have read : Aside l.toStdioTunnel (l.withReader stream).toStdioTunnel := .withReader _ _
    have drives := processFrame_drives (l := l.withReader stream) (read.keyed keyed)
      ⟨permits.stdin, permits.stdout, permits.writer, permits.write_fd⟩ result
    exact ⟨⟨drives.works, drives.fd⟩, drives.write_fd⟩
  · obtain rfl := Except.ok.inj result
    exact ⟨⟨.refl _, rfl⟩, rfl⟩

theorem connectedWrite_drives (permits : l.Permits may) (here : poll_struct.fd = l.m_write_fd)
    (result : l.connectedWrite poll_struct calls = .ok l') : Drives may l l' := by
  unfold connectedWrite at result
  split at result
  · cases result
  obtain ⟨⟨stream, after, taken⟩, empties, result⟩ := of_bind_ok result
  have fd : may after.fd := by
    rw [WriteStream.empty_fd empties, here]
    exact permits.write_fd
  dsimp only at result
  split at result
  · obtain rfl := Except.ok.inj result
    exact ⟨⟨.setEvents fun _ => fd, rfl⟩, rfl⟩
  · obtain rfl := Except.ok.inj result
    exact ⟨⟨(Works.setEvents fun _ => fd).trans (.setEvents fun _ => permits.write_fd), rfl⟩, rfl⟩

theorem connectedStdout_drives (permits : l.Permits may)
    (result : l.connectedStdout calls = .ok l') : Drives may l l' := by
  unfold connectedStdout at result
  split at result
  · obtain ⟨buffer, rfl⟩ := writeDetected_same result
    exact ⟨⟨.refl _, rfl⟩, rfl⟩
  · obtain rfl := Except.ok.inj result
    exact ⟨⟨.removePolled fun _ => permits.stdout, rfl⟩, rfl⟩

theorem polledConnected_drives (keyed : l.Keyed) (permits : l.Permits may)
    (result : l.polledConnected poll_struct calls = .ok l') : Drives may l l' := by
  unfold polledConnected at result
  obtain ⟨l₁, reads, result⟩ := of_bind_ok result
  obtain ⟨l₂, writes, result⟩ := of_bind_ok result
  have first := onFd_drives (fun _ => connectedRead_drives keyed permits) reads
  have second := first.trans (onFd_drives (connectedWrite_drives (permits.after first)) writes)
  exact second.trans (onFd_drives (fun _ => connectedStdout_drives (permits.after second)) result)

theorem polled_drives (keyed : l.Keyed) (permits : l.Permits may)
    (result : l.polled poll_struct calls = .ok l') : Drives may l l' := by
  unfold polled at result
  split at result
  · exact polledPassThrough_drives keyed permits result
  · exact polledConnected_drives keyed permits result
  · exact polledConnected_drives keyed permits result
  · rw [← Except.ok.inj result]
    exact .refl _

theorem createConnections_drives {g_id : Short} {i : Nat} {specs : List ConnectionSpec}
    (result : l.createConnections calls g_id i specs = .ok l') :
    StdioTunnel.Drives may l.toStdioTunnel l'.toStdioTunnel := by
  induction specs generalizing l g_id i with
  | nil =>
      rw [← Except.ok.inj result]
      exact .refl _
  | cons spec specs ih =>
      unfold createConnections at result
      obtain ⟨⟨t, pConn⟩, created, result⟩ := of_bind_ok result
      have creates : StdioTunnel.Drives may l.toStdioTunnel t := .createConnection created
      refine creates.trans ?_
      have later := ih result
      cases pConn with
      | none => exact later
      | some conn => exact ⟨later.works, later.fd⟩

end StdioTunnelLocal

/-! ## The remote endpoint -/

namespace StdioTunnelRemote

variable {r r' : StdioTunnelRemote} {poll_struct : Pollfd} {calls : Calls} {may : Int → Prop}

open StdioTunnel (Drives)

theorem setupSocks5_drives {spec spec' : ConnectionSpec}
    (result : r.setupSocks5 spec calls = .ok (r', spec')) :
    Drives may r.toStdioTunnel r'.toStdioTunnel := by
  unfold setupSocks5 at result
  split at result
  · split at result
    · cases result
    split at result
    · cases result
    · cases result
    · cases result
    · obtain ⟨rfl, _⟩ := Prod.mk.inj (Except.ok.inj result)
      exact ⟨.addPolled fun no => (by cases no), rfl⟩
  · obtain ⟨rfl, _⟩ := Prod.mk.inj (Except.ok.inj result)
    exact .refl _

theorem readShort_drives {t t' : StdioTunnel} {s : Short} (result : t.readShort = .ok (s, t')) :
    Drives may t t' := by
  obtain ⟨q, _, rfl⟩ := StdioTunnel.readShort_split result
  exact ⟨.refl _, rfl⟩

theorem createConnections_drives {remaining : Nat} {i : Nat}
    (result : r.createConnections calls i remaining = .ok r') :
    Drives may r.toStdioTunnel r'.toStdioTunnel := by
  induction remaining generalizing r i with
  | zero =>
      rw [← Except.ok.inj result]
      exact .refl _
  | succ remaining ih =>
      unfold createConnections at result
      obtain ⟨⟨id, t⟩, first, result⟩ := of_bind_ok result
      obtain ⟨⟨spec, stream⟩, _, result⟩ := of_bind_ok result
      obtain ⟨⟨r₁, spec'⟩, server, result⟩ := of_bind_ok result
      obtain ⟨⟨t₁, pConn⟩, created, result⟩ := of_bind_ok result
      have read : Drives may r.toStdioTunnel t := readShort_drives first
      have sets := @setupSocks5_drives _ _ _ may _ _ server
      have set : Drives may t r₁.toStdioTunnel := ⟨sets.works, sets.fd⟩
      have creates : Drives may r₁.toStdioTunnel t₁ := .createConnection created
      refine (read.trans (set.trans creates)).trans ?_
      have later := ih result
      cases pConn with
      | none => exact later
      | some conn => exact ⟨later.works, later.fd⟩

theorem processFrame_drives (keyed : r.Keyed) (writer : may r.m_write_stream.m_fd)
    (result : r.processFrame calls = .ok r') : Drives may r.toStdioTunnel r'.toStdioTunnel := by
  unfold processFrame at result
  obtain ⟨⟨command, t⟩, first, result⟩ := of_bind_ok result
  obtain ⟨q, _, rfl⟩ := StdioTunnel.readShort_split first
  have read : Aside r.toStdioTunnel (r.toStdioTunnel.reading q) := .withReader _ _
  dsimp only at result
  split at result
  · split at result
    · cases result
    obtain ⟨⟨count, t₁⟩, second, result⟩ := of_bind_ok result
    obtain ⟨r₁, creates, result⟩ := of_bind_ok result
    obtain ⟨t₂, sends, result⟩ := of_bind_ok result
    obtain rfl := Except.ok.inj result
    have counted : Drives may (r.toStdioTunnel.reading q) t₁ := readShort_drives second
    have created : Drives may t₁ r₁.toStdioTunnel :=
      createConnections_drives (r := { r with toStdioTunnel := t₁ }) creates
    have upTo : Drives may r.toStdioTunnel r₁.toStdioTunnel :=
      ⟨counted.works.trans created.works, created.fd.trans counted.fd⟩
    have sent := Drives.send (t := r₁.toStdioTunnel.writeShort CMD_CREATE)
      (show may r₁.m_write_stream.m_fd by rw [upTo.fd]; exact writer) sends
    exact upTo.trans ⟨sent.works, sent.fd⟩
  · split at result
    · obtain rfl := Except.ok.inj result
      exact ⟨.requestFinish _, rfl⟩
    split at result
    · cases result
    obtain ⟨⟨id, t₁⟩, second, result⟩ := of_bind_ok result
    obtain ⟨t₂, third, result⟩ := of_bind_ok result
    obtain rfl := Except.ok.inj result
    obtain ⟨q', _, rfl⟩ := StdioTunnel.readShort_split second
    have drives := Drives.dispatchMessage (t := (r.toStdioTunnel.reading q).reading q')
      ((read.keyed keyed).reading q') writer third
    exact ⟨drives.works, drives.fd⟩
  · rw [← Except.ok.inj result]
    exact ⟨.refl _, rfl⟩

theorem polledStdin_drives (keyed : r.Keyed) (writer : may r.m_write_stream.m_fd)
    (result : r.polledStdin poll_struct calls = .ok r') :
    Drives may r.toStdioTunnel r'.toStdioTunnel := by
  unfold polledStdin at result
  cases failed : poll_struct.revents.failure with
  | true =>
      rw [failed] at result
      cases result
  | false =>
  cases ready : poll_struct.revents.POLLIN with
  | false =>
      rw [failed, ready] at result
      cases result
  | true =>
      rw [failed, ready] at result
      obtain ⟨stream, _, result⟩ := of_bind_ok result
      dsimp only at result
      split at result
      · have read : Aside r.toStdioTunnel (r.withReader stream).toStdioTunnel := .withReader _ _
        have drives := processFrame_drives (r := r.withReader stream) (read.keyed keyed) writer result
        exact ⟨drives.works, drives.fd⟩
      · obtain rfl := Except.ok.inj result
        exact ⟨.refl _, rfl⟩

theorem polledStdout_drives (stdout : may STDOUT_FD) (here : poll_struct.fd = STDOUT_FD)
    (result : r.polledStdout poll_struct calls = .ok r') :
    Drives may r.toStdioTunnel r'.toStdioTunnel := by
  unfold polledStdout at result
  split at result
  · obtain rfl := Except.ok.inj result
    exact ⟨.requestFinish _, rfl⟩
  obtain ⟨⟨stream, after, taken⟩, empties, result⟩ := of_bind_ok result
  have fd : may after.fd := by
    rw [WriteStream.empty_fd empties, here]
    exact stdout
  dsimp only at result
  split at result
  · obtain rfl := Except.ok.inj result
    exact ⟨.setEvents fun _ => fd, rfl⟩
  · obtain rfl := Except.ok.inj result
    exact ⟨(Works.setEvents fun _ => fd).trans (.setEvents fun _ => stdout), rfl⟩

theorem polled_drives (keyed : r.Keyed) (writer : may r.m_write_stream.m_fd)
    (stdout : may STDOUT_FD) (result : r.polled poll_struct calls = .ok r') :
    Drives may r.toStdioTunnel r'.toStdioTunnel := by
  unfold polled at result
  obtain ⟨r₁, reads, result⟩ := of_bind_ok result
  unfold onFd at reads result
  have second : Drives may r₁.toStdioTunnel r'.toStdioTunnel := by
    split at result
    · rename_i here
      exact polledStdout_drives stdout here result
    · rw [← Except.ok.inj result]
      exact .refl _
  split at reads
  · exact (polledStdin_drives keyed writer reads).trans second
  · rw [← Except.ok.inj reads] at second
    exact second

end StdioTunnelRemote

namespace Endpoint

variable {e e' : Endpoint} {event : Event} {may : Int → Prop}

/-- The descriptors whose records an endpoint may touch. -/
def Permits (may : Int → Prop) : Endpoint → Prop
  | localEnd l => l.Permits may
  | remoteEnd r => may r.m_write_stream.m_fd ∧ may STDOUT_FD

/-- A dispatch works the poller. -/
theorem dispatch_drives (keyed : e.tunnel.Keyed) (permits : e.Permits may)
    (result : e.dispatch event = .ok e') :
    StdioTunnel.Drives may e.tunnel e'.tunnel ∧ e'.Permits may := by
  have object : ∀ {t t' : StdioTunnel} {polled : Polled}, t.Keyed → may t.m_write_stream.m_fd →
      t.polledObject polled event.poll_struct event.calls = .ok t' →
        StdioTunnel.Drives may t t' := by
    intro t t' polled keyed writer handled
    rcases StdioTunnel.polledObject_run keyed handled with ⟨ops, run, _⟩ | ⟨_, rfl⟩
    · exact .run writer run
    · exact ⟨.refl _, rfl⟩
  cases e with
  | localEnd l =>
      obtain ⟨l', dispatched, rfl⟩ := of_map_ok result
      have drives : l.Drives may l' := by
        unfold StdioTunnelLocal.dispatch at dispatched
        split at dispatched
        · exact StdioTunnelLocal.polled_drives keyed permits dispatched
        · obtain ⟨t, handled, dispatched⟩ := of_bind_ok dispatched
          obtain rfl := Except.ok.inj dispatched
          exact ⟨object keyed permits.writer handled, rfl⟩
      exact ⟨drives.toDrives, StdioTunnelLocal.Permits.after permits drives⟩
  | remoteEnd r =>
      obtain ⟨r', dispatched, rfl⟩ := of_map_ok result
      have drives : StdioTunnel.Drives may r.toStdioTunnel r'.toStdioTunnel := by
        unfold StdioTunnelRemote.dispatch at dispatched
        split at dispatched
        · exact StdioTunnelRemote.polled_drives keyed permits.1 permits.2 dispatched
        · obtain ⟨t, handled, dispatched⟩ := of_bind_ok dispatched
          obtain rfl := Except.ok.inj dispatched
          exact object keyed permits.1 handled
      refine ⟨drives, ?_, permits.2⟩
      rw [drives.fd]
      exact permits.1

theorem dispatch_driven (keyed : e.tunnel.Keyed) (result : e.dispatch event = .ok e') :
    e.tunnel.m_poller.Driven e'.tunnel.m_poller := by
  have permits : e.Permits fun _ => True := by
    cases e with
    | localEnd l => exact ⟨trivial, trivial, trivial, trivial⟩
    | remoteEnd r => exact ⟨trivial, trivial⟩
  exact (dispatch_drives keyed permits result).1.works.driven

/-- Before its first round an endpoint has no bound. -/
theorem Started.unpolled (started : e.Started) : e.tunnel.m_poller.m_orig_size ≤ 0 := by
  cases started with
  | @localEnd _ _ l _ _ write_fd _ configured start =>
      have configures := StdioTunnelLocal.configure_configures configured
      obtain ⟨l₁, creates, connects, rfl⟩ := StdioTunnelLocal.start_started configures.state start
      have base : l.toStdioTunnel = .fresh .localSide := configures.base
      have drives := @StdioTunnelLocal.createConnections_drives _ _ _ (fun _ => True) _ _ _ creates
      have none : l.m_poller.m_orig_size ≤ 0 := by
        rw [base]
        exact Int.le_refl 0
      exact drives.works.driven.size none
  | remoteEnd start =>
      obtain rfl := StdioTunnelRemote.start_waiting start
      exact Int.le_refl 0

end Endpoint

end Tun01
