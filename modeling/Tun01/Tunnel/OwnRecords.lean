import Tun01.Tunnel.Start

/-!
# The records of an endpoint itself

What handlers do to the records an endpoint has for its own descriptors.
`send` asks for output on the pipe, and no operation takes that back while
frames wait.
-/

namespace Tun01

open Poller (setFirst)

/-! ## Records of one descriptor -/

def recordsAt (fd : Int) (records : List Pollfd) : List Pollfd :=
  records.filter fun record => decide (record.fd = fd)

theorem recordsAt_cons (fd : Int) (record : Pollfd) (rest : List Pollfd) :
    recordsAt fd (record :: rest) =
      if record.fd = fd then record :: recordsAt fd rest else recordsAt fd rest := by
  unfold recordsAt
  rw [List.filter_cons]
  simp only [decide_eq_true_eq]

theorem setFirst_cons (fd : Int) (events : PollEvents) (record : Pollfd) (rest : List Pollfd) :
    setFirst fd events (record :: rest) =
      if record.fd = fd then { record with events := events } :: rest
      else record :: setFirst fd events rest := rfl

/-- New events for a descriptor are new events for its records only. -/
theorem recordsAt_setFirst (fd other : Int) (events : PollEvents) (records : List Pollfd) :
    recordsAt fd (setFirst other events records) =
      if other = fd then setFirst fd events (recordsAt fd records) else recordsAt fd records := by
  induction records with
  | nil => cases decEq other fd <;> simp_all [recordsAt, setFirst]
  | cons record rest ih =>
      rw [setFirst_cons]
      by_cases first : record.fd = other
      · rw [if_pos first, recordsAt_cons, recordsAt_cons]
        dsimp only
        by_cases same : other = fd
        · rw [if_pos (first.trans same), if_pos same, if_pos (first.trans same), setFirst_cons,
            if_pos (first.trans same)]
        · rw [if_neg (fun no => same (first.symm.trans no)), if_neg same,
            if_neg (fun no => same (first.symm.trans no))]
      · rw [if_neg first, recordsAt_cons, recordsAt_cons, ih]
        by_cases same : other = fd
        · subst same
          rw [if_neg first, if_neg first, if_pos rfl]
        · rw [if_neg same, if_neg same]

/-- A record that is erased is one of its descriptor. -/
theorem recordsAt_eraseP (fd other : Int) (records : List Pollfd) :
    recordsAt fd (records.eraseP fun record => decide (record.fd = other)) =
      if other = fd then (recordsAt fd records).tail else recordsAt fd records := by
  induction records with
  | nil => simp [recordsAt]
  | cons record rest ih =>
      by_cases first : record.fd = other
      · rw [List.eraseP_cons_of_pos (p := fun record : Pollfd => decide (record.fd = other))
          (decide_eq_true first), recordsAt_cons]
        by_cases same : other = fd
        · rw [if_pos same, if_pos (first.trans same), List.tail_cons]
        · rw [if_neg same, if_neg (fun no => same (first.symm.trans no))]
      · rw [List.eraseP_cons_of_neg (by simpa using first), recordsAt_cons, recordsAt_cons, ih]
        by_cases same : other = fd
        · subst same
          rw [if_neg first, if_neg first]
        · rw [if_neg same, if_neg same]

namespace StdioTunnel

variable {t t' t'' : StdioTunnel} {fd : Int}

def own (t : StdioTunnel) (fd : Int) : List Pollfd := recordsAt fd (t.registrations .stdioTunnel)

theorem own_setEvents (t : StdioTunnel) (other : Int) (events : PollEvents) (fd : Int) :
    (t.setEvents .stdioTunnel other events).own fd =
      if other = fd then setFirst fd events (t.own fd) else t.own fd := by
  have records := Poller.registrations_setEvents t.m_poller .stdioTunnel other events .stdioTunnel
  rw [if_pos rfl] at records
  unfold own registrations setEvents mapPoller
  dsimp only
  rw [records]
  exact recordsAt_setFirst _ _ _ _

theorem own_removePolled (t : StdioTunnel) (other : Int) (fd : Int) :
    (t.removePolled .stdioTunnel other).own fd =
      if other = fd then (t.own fd).tail else t.own fd := by
  have records := Poller.registrations_removePolled t.m_poller .stdioTunnel other .stdioTunnel
  rw [if_pos rfl] at records
  unfold own registrations removePolled mapPoller
  dsimp only
  rw [records]
  exact recordsAt_eraseP _ _ _

theorem own_addPolled (t : StdioTunnel) (other : Int) (events : PollEvents) (fd : Int) :
    (t.addPolled .stdioTunnel other events).own fd =
      t.own fd ++ if other = fd then [⟨other, events, .zero⟩] else [] := by
  have records := Poller.registrations_addPolled t.m_poller .stdioTunnel other events .stdioTunnel
  rw [if_pos rfl] at records
  unfold own registrations addPolled mapPoller
  dsimp only
  rw [records]
  unfold recordsAt
  rw [List.filter_append, List.filter_singleton]
  by_cases same : other = fd
  · rw [if_pos same, decide_eq_true same]
    rfl
  · rw [if_neg same, decide_eq_false same]
    rfl

theorem own_emit (t : StdioTunnel) (payload : List Byte) (fd : Int) :
    (t.emit payload).own fd =
      if t.m_write_stream.m_fd = fd then setFirst fd POLLOUT (t.own fd) else t.own fd :=
  own_setEvents _ _ _ _

theorem setFirst_one {record : Pollfd} {events : PollEvents} (here : record.fd = fd) :
    setFirst fd events [record] = [{ record with events := events }] := by
  unfold setFirst
  rw [if_pos here]

theorem own_fd {record : Pollfd} (member : record ∈ t.own fd) : record.fd = fd :=
  of_decide_eq_true (List.mem_filter.mp member).2

/-- The endpoint has one record for a descriptor. -/
def Once (t : StdioTunnel) (fd : Int) : Prop := ∃ record, t.own fd = [record]

theorem Once.setEvents (once : t.Once fd) (other : Int) (events : PollEvents) :
    (t.setEvents .stdioTunnel other events).Once fd := by
  obtain ⟨record, one⟩ := once
  unfold Once
  rw [own_setEvents, one]
  split
  · exact ⟨_, setFirst_one (own_fd (t := t) (by rw [one]; exact List.mem_singleton.mpr rfl))⟩
  · exact ⟨record, rfl⟩

/-- The events of the one record for a descriptor that are set stay until they are set again. -/
theorem own_set {record : Pollfd} (one : t.own fd = [record]) (events : PollEvents) :
    (t.setEvents .stdioTunnel fd events).own fd = [{ record with events := events }] := by
  rw [own_setEvents, if_pos rfl, one]
  exact setFirst_one (own_fd (t := t) (by rw [one]; exact List.mem_singleton.mpr rfl))

/-! ## Nothing waits unasked -/

/-- The pipe has one record, and it asks for output while frames wait. -/
def Armed (t : StdioTunnel) : Prop :=
  ∃ record, t.own t.m_write_stream.m_fd = [record] ∧
    (t.m_write_stream.pendingWrite = true → record.events.POLLOUT = true)

theorem Armed.once (armed : t.Armed) : t.Once t.m_write_stream.m_fd := by
  obtain ⟨record, one, _⟩ := armed
  exact ⟨record, one⟩

/-- The writer and the records for a descriptor are the same. -/
structure Still (fd : Int) (t t' : StdioTunnel) : Prop where
  writer : t'.m_write_stream = t.m_write_stream
  own : t'.own fd = t.own fd

namespace Still

theorem refl (t : StdioTunnel) : Still fd t t := ⟨rfl, rfl⟩

theorem trans (first : Still fd t t') (second : Still fd t' t'') : Still fd t t'' :=
  ⟨second.writer.trans first.writer, second.own.trans first.own⟩

theorem once (still : Still fd t t') (once : t.Once fd) : t'.Once fd := by
  unfold Once
  rw [still.own]
  exact once

theorem armed (still : Still t.m_write_stream.m_fd t t') (armed : t.Armed) : t'.Armed := by
  unfold Armed
  rw [still.writer, still.own]
  exact armed

theorem setEvents (t : StdioTunnel) {other : Int} (events : PollEvents) (apart : other ≠ fd) :
    Still fd t (t.setEvents .stdioTunnel other events) :=
  ⟨rfl, (own_setEvents _ _ _ _).trans (if_neg apart)⟩

theorem removePolled (t : StdioTunnel) {other : Int} (apart : other ≠ fd) :
    Still fd t (t.removePolled .stdioTunnel other) :=
  ⟨rfl, (own_removePolled _ _ _).trans (if_neg apart)⟩

/-- Records of other objects do not matter. -/
theorem ofRecords (writer : t'.m_write_stream = t.m_write_stream)
    (records : t'.registrations .stdioTunnel = t.registrations .stdioTunnel) : Still fd t t' :=
  ⟨writer, congrArg (recordsAt fd) records⟩

theorem addOther (t : StdioTunnel) {x : Polled} (other : x ≠ .stdioTunnel) (socket : Int)
    (events : PollEvents) : Still fd t (t.addPolled x socket events) :=
  .ofRecords rfl ((Poller.registrations_addPolled _ _ _ _ _).trans (if_neg other))

theorem CreateConnection {spec : ConnectionSpec} {is_local : Bool} {id : Int}
    {listen : ListenResult} {pConn : Option TunnelConnection}
    (result : t.CreateConnection spec is_local id listen = .ok (t', pConn)) : Still fd t t' := by
  unfold StdioTunnel.CreateConnection at result
  split at result
  · cases listen with
    | bindFailed errno => cases result
    | noSocket | fcntlFailed | listenFailed =>
        obtain ⟨rfl, _⟩ := Prod.mk.inj (Except.ok.inj result)
        exact ⟨rfl, rfl⟩
    | listening =>
        obtain ⟨rfl, _⟩ := Prod.mk.inj (Except.ok.inj result)
        exact .ofRecords rfl ((Poller.registrations_addPolled _ _ _ _ _).trans (if_neg nofun))
  · obtain ⟨rfl, _⟩ := Prod.mk.inj (Except.ok.inj result)
    exact .refl t

end Still

/-- A frame that is queued asks for output. -/
theorem Once.emit (once : t.Once t.m_write_stream.m_fd) (payload : List Byte) :
    (t.emit payload).Armed := by
  obtain ⟨record, one⟩ := once
  exact ⟨{ record with events := POLLOUT }, own_set one POLLOUT, fun _ => rfl⟩

end StdioTunnel

namespace Operation

variable {t : StdioTunnel}

/-- What an operation does to the records of the endpoint itself. -/
theorem own_apply (op : Operation) (t : StdioTunnel) :
    (∃ m, op = .emit m) ∨ ∀ fd, StdioTunnel.Still fd t (op.apply t) := by
  cases op with
  | emit m => exact Or.inl ⟨m, rfl⟩
  | received _ _ _ | erase _ _ | refuse _ _ | accept _ _ _ _ | attempt _ _ =>
      exact Or.inr fun _ => ⟨rfl, rfl⟩
  | acknowledge conn l ack =>
      refine Or.inr fun fd => ?_
      unfold apply
      dsimp only
      split
      · exact ⟨rfl, rfl⟩
      · exact .ofRecords rfl ((Poller.registrations_setEvents _ _ _ _ _).trans (if_neg nofun))
  | push conn l bytes =>
      exact Or.inr fun _ => (.ofRecords rfl
        ((Poller.registrations_setEvents _ _ _ _ _).trans (if_neg nofun)))
  | written conn l buffer bytes =>
      refine Or.inr fun fd => ?_
      unfold apply
      dsimp only
      split
      · exact ⟨rfl, rfl⟩
      · exact .ofRecords rfl ((Poller.registrations_setEvents _ _ _ _ _).trans (if_neg nofun))
  | close conn l =>
      exact Or.inr fun _ => (.ofRecords rfl
        ((Poller.registrations_removePolled _ _ _ _).trans (if_neg nofun)))
  | establish conn l =>
      exact Or.inr fun _ => (.ofRecords rfl
        ((Poller.registrations_addPolled _ _ _ _ _).trans (if_neg nofun)))
  | connect conn id =>
      exact Or.inr fun _ => (.ofRecords rfl
        ((Poller.registrations_addPolled _ _ _ _ _).trans (if_neg nofun)))

end Operation

namespace StdioTunnel

variable {t t' : StdioTunnel} {ops : List Operation}

theorem Once.run {fd : Int} (once : t.Once fd) (run : Run Operation.Step t ops t') :
    t'.Once fd := by
  refine @Run.invariant _ _ _ _ _ _ (fun u => u.Once fd) once ?_ run
  rintro u op _ one ⟨_, rfl⟩
  rcases Operation.own_apply op u with ⟨m, rfl⟩ | still
  · exact one.setEvents _ _
  · exact (still fd).once one

theorem Once.object {polled : Polled} {poll_struct : Pollfd} {calls : Calls} {fd : Int}
    (once : t.Once fd) (keyed : t.Keyed) (result : t.polledObject polled poll_struct calls = .ok t') :
    t'.Once fd := by
  rcases polledObject_run keyed result with ⟨ops, ran, _⟩ | ⟨_, rfl⟩
  · exact once.run ran
  · exact once

/-- Emptying the packets takes the request for output back when none is left. -/
theorem Armed.written {poll_struct after : Pollfd} {write : SysResult Nat} {stream : WriteStream}
    {taken : List Byte} (armed : t.Armed) (fd : poll_struct.fd = t.m_write_stream.m_fd)
    (record : ∃ record ∈ t.registrations .stdioTunnel, record.fd = poll_struct.fd ∧
      record.events = poll_struct.events)
    (empties : t.m_write_stream.toWriteStream.empty poll_struct write = .ok (stream, after, taken)) :
    ((t.mapWriter fun _ => stream).setEvents .stdioTunnel after.fd after.events).Armed ∧
      after.fd = poll_struct.fd := by
  obtain ⟨found, one, asks⟩ := armed
  obtain ⟨record, member, here, events⟩ := record
  have mine : record ∈ t.own t.m_write_stream.m_fd :=
    List.mem_filter.mpr ⟨member, decide_eq_true (here.trans fd)⟩
  obtain rfl : record = found := by
    rw [one] at mine
    exact List.mem_singleton.mp mine
  have set := own_set (t := t.mapWriter fun _ => stream) one after.events
  have same : after.fd = poll_struct.fd ∧ (stream.pendingWrite = true → after.events.POLLOUT = true) := by
    unfold WriteStream.empty at empties
    split at empties
    · obtain ⟨rfl, rest⟩ := Prod.mk.inj (Except.ok.inj empties)
      obtain ⟨rfl, _⟩ := Prod.mk.inj rest
      exact ⟨rfl, fun more => events ▸ asks more⟩
    · rename_i front rest packets
      have pending : t.m_write_stream.pendingWrite = true := by
        unfold WriteStream.pendingWrite
        rw [packets]
        rfl
      split at empties
      · obtain ⟨⟨sent, finished⟩, _, empties⟩ := of_bind_ok empties
        obtain ⟨rfl, rest'⟩ := Prod.mk.inj (Except.ok.inj empties)
        obtain ⟨rfl, _⟩ := Prod.mk.inj rest'
        refine ⟨rfl, fun more => ?_⟩
        dsimp only
        rw [if_pos more]
        exact events ▸ asks pending
      · obtain ⟨rfl, rest'⟩ := Prod.mk.inj (Except.ok.inj empties)
        obtain ⟨rfl, _⟩ := Prod.mk.inj rest'
        exact ⟨rfl, fun _ => events ▸ asks pending⟩
  obtain ⟨sameFd, still⟩ := same
  refine ⟨⟨{ record with events := after.events }, ?_, still⟩, sameFd⟩
  rw [sameFd, fd]
  exact set

/-- Without frames no output need be asked for. -/
theorem Armed.idle (armed : t.Armed) (none : t.m_write_stream.pendingWrite = false) {fd : Int}
    (events : PollEvents) (here : fd = t.m_write_stream.m_fd) :
    (t.setEvents .stdioTunnel fd events).Armed := by
  obtain ⟨record, one, _⟩ := armed
  subst here
  refine ⟨_, own_set one events, fun more => ?_⟩
  have same : t.m_write_stream.pendingWrite = true := more
  rw [none] at same
  cases same

/-- The endpoint goes on asking for output on the same pipe, and for the rest as before. -/
structure Arms (t t' : StdioTunnel) : Prop where
  kept : t.Armed → t'.Armed
  fd : t'.m_write_stream.m_fd = t.m_write_stream.m_fd
  others : ∀ fd, t.m_write_stream.m_fd ≠ fd → t'.own fd = t.own fd

namespace Arms

theorem refl (t : StdioTunnel) : Arms t t := ⟨id, rfl, fun _ _ => rfl⟩

theorem trans {t'' : StdioTunnel} (first : Arms t t') (second : Arms t' t'') : Arms t t'' where
  kept := fun armed => second.kept (first.kept armed)
  fd := second.fd.trans first.fd
  others := by
    intro fd other
    rw [second.others fd (by rw [first.fd]; exact other), first.others fd other]

theorem still (still : ∀ fd, Still fd t t') : Arms t t' :=
  ⟨(still _).armed, by rw [(still 0).writer], fun fd _ => (still fd).own⟩

theorem emit (t : StdioTunnel) (payload : List Byte) : Arms t (t.emit payload) :=
  ⟨fun armed => armed.once.emit payload, rfl, fun fd other =>
    (own_emit t payload fd).trans (if_neg other)⟩

theorem ofOperation (op : Operation) (t : StdioTunnel) : Arms t (op.apply t) := by
  rcases Operation.own_apply op t with ⟨m, rfl⟩ | still
  · exact .emit _ _
  · exact .still still

theorem run (run : Run Operation.Step t ops t') : Arms t t' := by
  induction run with
  | nil => exact .refl t
  | snoc _ last ih =>
      obtain ⟨_, rfl⟩ := last
      exact ih.trans (.ofOperation _ _)

theorem object {polled : Polled} {poll_struct : Pollfd} {calls : Calls} (keyed : t.Keyed)
    (result : t.polledObject polled poll_struct calls = .ok t') : Arms t t' := by
  rcases polledObject_run keyed result with ⟨ops, ran, _⟩ | ⟨_, rfl⟩
  · exact run ran
  · exact ⟨fun armed => armed, rfl, fun _ _ => rfl⟩

theorem reportError {message : List Byte} (ready : t.Ready)
    (result : t.reportError message = .ok t') : Arms t t' := by
  rcases reportError_run ready result with rfl | rfl
  · exact .refl _
  · exact .emit _ _

theorem dispatchMessage {conn : Short} {connect : ConnectResult} (keyed : t.Keyed)
    (result : t.dispatchMessage conn.val connect = .ok t') : Arms t t' := by
  obtain ⟨command, q, id, fields, last, ops, _, _, handled, _⟩ := dispatchMessage_run keyed result
  have read : Arms t (t.reading last) := .still fun _ => ⟨rfl, rfl⟩
  exact read.trans (.run handled)

end Arms

end StdioTunnel

end Tun01
