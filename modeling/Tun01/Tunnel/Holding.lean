import Tun01.Tunnel.Descriptors
import Tun01.Tunnel.Honest

/-!
# Sockets along runs

As long as the other endpoint keeps the protocol and no identifier is given out
twice, handlers work on open sockets only.
-/

namespace Tun01

open StdioTunnel (Aside)

namespace Operation

variable {t t' : StdioTunnel} {op : Operation} {conn id : Short}

/-- One careful operation as a step. -/
def CarefulStep (t : StdioTunnel) (op : Operation) (t' : StdioTunnel) : Prop :=
  Operation.Step t op t' ∧ op.Careful t

def talks : Operation → Bool
  | received _ _ _ | written _ _ _ _ => true
  | emit _ | acknowledge _ _ _ | push _ _ _ | close _ _ | erase _ _ | establish _ _ | refuse _ _
  | accept _ _ _ _ | attempt _ _ | connect _ _ => false

/-- Other operations need no care. -/
theorem careful_of_quiet (unled : op.leading = false) (quiet : op.talks = false)
    (t : StdioTunnel) : op.Careful t := by
  cases op with
  | emit _ | acknowledge _ _ _ | push _ _ _ | close _ _ | erase _ _ | attempt _ _ => trivial
  | received _ _ _ | written _ _ _ _ => cases quiet
  | establish _ _ | refuse _ _ | accept _ _ _ _ | connect _ _ => cases unled

theorem quiet_run {ops : List Operation} (run : Run Operation.Step t ops t')
    (quiet : ∀ op ∈ ops, op.leading = false ∧ op.talks = false) :
    Run CarefulStep t ops t' := by
  induction ops generalizing t with
  | nil =>
      rw [run.of_nil]
      exact .nil
  | cons op rest ih =>
      obtain ⟨t₁, taken, later⟩ := run.uncons
      obtain ⟨here, others⟩ := List.forall_mem_cons.mp quiet
      exact .cons ⟨taken, careful_of_quiet here.1 here.2 t⟩ (ih later others)

/-! ## Links that are dispatched -/

/-- A link is stored and not closing. -/
def Up (t : StdioTunnel) (conn id : Short) : Prop :=
  ∃ l, t.link? conn.val id = some l ∧ l.m_closing = false

/-- Operations on a link that leave it open. -/
def Attends (conn id : Short) : Operation → Prop
  | emit _ => True
  | received c l _ | acknowledge c l _ | push c l _ | written c l _ _ => c = conn ∧ l.m_id = id
  | close _ _ | erase _ _ | establish _ _ | refuse _ _ | accept _ _ _ _ | attempt _ _
  | connect _ _ => False

theorem Up.stored (up : Up t conn id) {l : ConnectionLink} (stores : t.Stores conn l)
    (ids : l.m_id = id) : l.m_closing = false := by
  obtain ⟨l', found, open'⟩ := up
  rw [← ids] at found
  rw [Option.some.inj (stores.symm.trans found)]
  exact open'

theorem attends_careful (attends : op.Attends conn id) (valid : op.Valid t) (up : Up t conn id) :
    op.Careful t := by
  cases op with
  | emit _ | acknowledge _ _ _ | push _ _ _ => trivial
  | received c l _ =>
      obtain ⟨rfl, ids⟩ := attends
      exact up.stored valid ids
  | written c l _ _ =>
      obtain ⟨rfl, ids⟩ := attends
      exact up.stored valid.1 ids
  | close _ _ | erase _ _ | establish _ _ | refuse _ _ | accept _ _ _ _ | attempt _ _
  | connect _ _ => exact attends.elim

theorem attends_up (attends : op.Attends conn id) (valid : op.Valid t) (up : Up t conn id) :
    Up (op.apply t) conn id := by
  have rewritten : ∀ {l : ConnectionLink} (l' : ConnectionLink), op.stores t = some (conn, id, some l') →
      t.Stores conn l → l.m_id = id → l'.m_closing = l.m_closing → Up (op.apply t) conn id := by
    intro l l' stored stores ids same
    refine ⟨l', ?_, same.trans (up.stored stores ids)⟩
    rw [link?_apply valid, stored]
    exact if_pos ⟨rfl, rfl⟩
  obtain ⟨l₀, found, open'⟩ := up
  cases op with
  | emit _ | received _ _ _ =>
      refine ⟨l₀, ?_, open'⟩
      rw [link?_apply valid]
      exact found
  | acknowledge c l ack =>
      obtain ⟨rfl, rfl⟩ := attends
      exact rewritten { l with m_acknowledged := ack } rfl valid rfl rfl
  | push c l bytes =>
      obtain ⟨rfl, rfl⟩ := attends
      exact rewritten { l with m_buffer := l.m_buffer.insert bytes } rfl valid.1 rfl rfl
  | written c l buffer bytes =>
      obtain ⟨rfl, rfl⟩ := attends
      exact rewritten { l with m_buffer := buffer } rfl valid.1 rfl rfl
  | close _ _ | erase _ _ | establish _ _ | refuse _ _ | accept _ _ _ _ | attempt _ _
  | connect _ _ => exact attends.elim

/-- Operations on an open link, and then quiet ones. -/
theorem attends_run {first rest : List Operation} (run : Run Operation.Step t (first ++ rest) t')
    (attends : ∀ op ∈ first, op.Attends conn id) (up : Up t conn id)
    (quiet : ∀ op ∈ rest, op.leading = false ∧ op.talks = false) :
    Run CarefulStep t (first ++ rest) t' := by
  induction first generalizing t with
  | nil => exact quiet_run run quiet
  | cons op first ih =>
      obtain ⟨t₁, ⟨valid, rfl⟩, later⟩ := run.uncons
      obtain ⟨here, others⟩ := List.forall_mem_cons.mp attends
      exact .cons ⟨⟨valid, rfl⟩, attends_careful here valid up⟩
        (ih later others (attends_up here valid up))

end Operation

namespace StdioTunnel

open Operation (CarefulStep)

variable {t t' : StdioTunnel} {conn id : Short} {c : TunnelConnection} {l : ConnectionLink}

theorem closingOps_quiet (conn : Short) (l : ConnectionLink) :
    ∀ op ∈ closingOps conn l, op.leading = false ∧ op.talks = false := by
  unfold closingOps
  split
  · exact List.forall_mem_nil _
  · exact List.forall_mem_cons.mpr ⟨⟨rfl, rfl⟩, List.forall_mem_singleton.mpr ⟨rfl, rfl⟩⟩

theorem readingOps_attends (conn : Short) (c : TunnelConnection) (l : ConnectionLink)
    (bytes : List Byte) : ∀ op ∈ readingOps conn c l bytes, op.Attends conn l.m_id := by
  unfold readingOps
  refine List.forall_mem_append.mpr ⟨?_, ?_⟩
  · exact List.forall_mem_cons.mpr ⟨⟨rfl, rfl⟩, List.forall_mem_singleton.mpr trivial⟩
  · split
    · exact List.forall_mem_singleton.mpr ⟨rfl, rfl⟩
    · exact List.forall_mem_nil _

/-- A link that is not closing is dispatched with care. -/
theorem LinkScript.careful {ops : List Operation} (script : LinkScript conn c l ops)
    (run : Run Operation.Step t ops t') (up : Operation.Up t conn l.m_id) :
    Run CarefulStep t ops t' := by
  cases script with
  | closes => exact Operation.quiet_run run (closingOps_quiet conn l)
  | @goesOn first second third l' l'' first' second' third' =>
      rw [← List.append_assoc] at run ⊢
      refine Operation.attends_run run (List.forall_mem_append.mpr ⟨?_, ?_⟩) up ?_
      · rcases first' with rfl | ⟨bytes, rfl⟩
        · exact List.forall_mem_nil _
        · exact readingOps_attends conn c l bytes
      · rcases second' with rfl | ⟨ids, buffer, bytes, rfl⟩
        · exact List.forall_mem_nil _
        · exact List.forall_mem_singleton.mpr ⟨rfl, ids⟩
      · rcases third' with rfl | ⟨_, rfl⟩
        · exact List.forall_mem_nil _
        · exact closingOps_quiet conn l''

/-- No operation for a message reads or writes. -/
theorem Script.quiet {command : Short} {fields : List Byte} {connect : ConnectResult}
    {ops : List Operation} (script : Script conn id fields connect command ops) :
    ∀ op ∈ ops, op.talks = false := by
  cases script with
  | nothing => exact List.forall_mem_nil _
  | push | acknowledged | ignored | closed | establish | refuse =>
      exact List.forall_mem_singleton.mpr rfl
  | pushForAck | connect =>
      exact List.forall_mem_cons.mpr ⟨rfl, List.forall_mem_singleton.mpr rfl⟩
  | close =>
      exact List.forall_mem_cons.mpr
        ⟨rfl, List.forall_mem_cons.mpr ⟨rfl, List.forall_mem_singleton.mpr rfl⟩⟩
  | fail attempt report =>
      refine List.forall_mem_append.mpr ⟨?_, List.forall_mem_append.mpr
        ⟨?_, List.forall_mem_singleton.mpr rfl⟩⟩
      · rcases attempt with rfl | rfl
        · exact List.forall_mem_nil _
        · exact List.forall_mem_singleton.mpr rfl
      · rcases report with rfl | ⟨message, rfl⟩
        · exact List.forall_mem_nil _
        · exact List.forall_mem_singleton.mpr rfl

end StdioTunnel

/-! ## Dispatches -/

namespace Endpoint

open Operation (CarefulStep)

variable {e e' : Endpoint} {event : Event} {events : List Event} {t t' : StdioTunnel}

/-- What an endpoint begins with is careful when the other one is honest. -/
theorem Begins.careful {op : Operation} (begins : e.Begins event op) (honest : e.Honest event)
    (clear : System.Clear e.tunnel event) (named : e.tunnel.Named) : op.Careful e.tunnel := by
  have told : ∀ {conn id : Short} {fields : List Byte} {l : ConnectionLink},
      e.message event = some (conn, LINK_CREATE, id, fields) →
      e.tunnel.link? conn.val id = some l → e.tunnel.listens conn.val = true →
      e.tunnel.Unregistered conn.val l.m_id ∧ l.m_closing = false := by
    intro conn id fields l message stored listens
    obtain ⟨l', found, up, none⟩ :=
      StdioTunnel.link?_of_pending (honest.reply conn id fields message listens)
    obtain rfl := Option.some.inj (found.symm.trans stored)
    have ids := named.ids conn.val id l' found
    refine ⟨fun l'' found' => ?_, up⟩
    rw [ids] at found' ⊢
    rw [Option.some.inj (found'.symm.trans found)]
    exact none
  cases begins with
  | accept listener known role => exact clear _ _ _ _ _ listener known role
  | push _ _ _ _ => trivial
  | establish message stored listens _ => exact told message stored listens
  | refuse message stored listens _ => exact told message stored listens
  | connect message connects _ =>
      obtain ⟨c, known, role⟩ := connects
      refine honest.request _ _ _ message ?_
      unfold StdioTunnel.connects
      rw [StdioTunnel.kind?_of_connection known, role]
      rfl

theorem Led.careful {ops : List Operation} (led : Led e event t ops)
    (run : Run Operation.Step t ops t') (quiet : ∀ op ∈ ops, op.talks = false)
    (leads : ∀ op, e.Begins event op → op.Careful t) : Run CarefulStep t ops t' := by
  rcases led with follows | ⟨op, rest, rfl, follows, begins⟩
  · exact Operation.quiet_run run fun op member => ⟨follows op member, quiet op member⟩
  · obtain ⟨t₁, taken, later⟩ := run.uncons
    obtain ⟨_, others⟩ := List.forall_mem_cons.mp quiet
    exact .cons ⟨taken, leads op (begins taken.1)⟩
      (Operation.quiet_run later fun o member => ⟨follows o member, others o member⟩)

/-- The condition on a dispatch. -/
def Kind (e : Endpoint) (event : Event) (e' : Endpoint) : Prop :=
  e.Step event e' ∧ e.Honest event ∧ System.Clear e.tunnel event

theorem careful_aside {op : Operation} (aside : Aside t t') (careful : op.Careful t) :
    op.Careful t' := by
  cases op with
  | emit _ | acknowledge _ _ _ | push _ _ _ | close _ _ | erase _ _ | attempt _ _ => trivial
  | received _ _ _ | written _ _ _ _ => exact careful
  | establish _ _ | refuse _ _ =>
      exact ⟨Operation.unregistered_aside aside careful.1, careful.2⟩
  | accept _ _ _ _ | connect _ _ => exact (aside.link? _ _).trans careful

end Endpoint

namespace StdioTunnelRemote

variable {r r' : StdioTunnelRemote} {poll_struct : Pollfd} {calls : Calls}

/-- A dispatch of the endpoint itself completes a frame, or leaves the links alone. -/
theorem polled_frame (result : r.polled poll_struct calls = .ok r') :
    Aside r.toStdioTunnel r'.toStdioTunnel ∨ ∃ stream,
      (Endpoint.remoteEnd r).completed ⟨.stdioTunnel, poll_struct, calls⟩ = some stream.m_queue ∧
        StdioTunnelRemote.processFrame (r.withReader stream) calls = .ok r' := by
  unfold polled at result
  obtain ⟨r₁, reads, result⟩ := of_bind_ok result
  unfold onFd at reads
  split at reads
  · rename_i fd
    have rest : r' = r₁ := by
      rw [onFd_of_ne _ _ (by rw [fd]; decide)] at result
      exact (Except.ok.inj result).symm
    obtain rfl := rest
    unfold polledStdin at reads
    cases failed : poll_struct.revents.failure with
    | true =>
        rw [failed] at reads
        cases reads
    | false =>
    cases ready : poll_struct.revents.POLLIN with
    | false =>
        rw [failed, ready] at reads
        cases reads
    | true =>
      rw [failed, ready] at reads
      obtain ⟨stream, fills, reads⟩ := of_bind_ok reads
      dsimp only at reads
      split at reads
      · rename_i more
        refine Or.inr ⟨stream, ?_, reads⟩
        exact Endpoint.completed_of_fill rfl fd fills more
      · obtain rfl := Except.ok.inj reads
        exact Or.inl (.withReader _ _)
  · obtain rfl := Except.ok.inj reads
    unfold onFd at result
    split at result
    · exact Or.inl (polledStdout_aside result)
    · obtain rfl := Except.ok.inj result
      exact Or.inl (.refl _)

/-- The handshake of an honest endpoint. -/
theorem processFrame_holds {connections : List (Short × ConnectionSpec)} {stream : ReadStream}
    (introduces : Endpoint.Introduces stream.m_queue connections) (holds : r.Holds)
    (empty : ∀ x, r.connection? x = none) (keyed : r.Keyed) (state : r.m_state = .HANDSHAKING)
    (result : StdioTunnelRemote.processFrame (r.withReader stream) calls = .ok r') :
    r'.Holds := by
  have whole : r.withReader stream =
      reading (r.withReader stream) (Message.handshake connections).payload := by
    unfold reading StdioTunnel.reading
    rw [← introduces.payload]
    rfl
  have waits : (r.withReader stream).m_state = .HANDSHAKING := state
  rw [whole, processFrame_request waits introduces.few] at result
  obtain ⟨r₁, creates, result⟩ := of_bind_ok result
  obtain ⟨t, sends, result⟩ := of_bind_ok result
  have filled : Aside r.toStdioTunnel (r.toStdioTunnel.withReader stream) := .withReader _ _
  have read : Aside r.toStdioTunnel
      (reading (r.withReader stream) (connections.flatMap Message.connection)).toStdioTunnel :=
    filled.trans (.withReader _ _)
  have ready := ((createConnections_starts creates).keyed (read.keyed keyed)).ready
  have created := @createConnections_holds (r.withReader stream) _ _ _ _ [] (holds.aside filled)
    introduces.distinct (fun c _ => empty c.1.val) introduces.small
    (by rw [List.append_nil]; exact creates)
  obtain rfl := Except.ok.inj ((send_agreed ready).symm.trans sends)
  rw [← Except.ok.inj result]
  exact created.aside (.emit _ _)

end StdioTunnelRemote

namespace Endpoint

variable {e e' : Endpoint} {event : Event} {events : List Event}

/-- An endpoint whose identifiers are in order and whose sockets are held. -/
structure Holding (e : Endpoint) : Prop where
  waitsEmpty : e.WaitsEmpty
  holds : e.tunnel.Holds

/-- The object of a dispatch works on an open socket. -/
theorem Holding.object (holding : e.Holding) (step : e.Step event e') :
    match event.polled with
    | .listenSide _ socket | .connectionLink _ _ socket => ¬ e.tunnel.os.Closed socket
    | .stdioTunnel | .socks5Server => True := by
  obtain ⟨record, registered, _⟩ := step.registered
  generalize event.polled = polled at registered
  cases polled with
  | listenSide x s => exact (holding.holds.listener registered).2
  | connectionLink x i s =>
      obtain ⟨_, _, _, _, up⟩ := holding.holds.link registered
      exact up
  | stdioTunnel | socks5Server => trivial

/-- A dispatch works with care on an endpoint, or the remote endpoint takes the handshake. -/
theorem Holding.careful (holding : e.Holding) (kind : e.Kind event e') :
    (∃ ops t t', Aside e.tunnel t ∧ Run Operation.CarefulStep t ops t' ∧
        Aside t' e'.tunnel) ∨
      ∃ r, e = .remoteEnd r ∧ r.m_state = .HANDSHAKING ∧ e.tunnel.os.Listens e'.tunnel.os := by
  obtain ⟨step, honest, clear⟩ := kind
  obtain ⟨waitsEmpty, holds⟩ := holding
  have keyed := waitsEmpty.keyed
  have begins : ∀ op, e.Begins event op → op.Careful e.tunnel :=
    fun op begins => begins.careful honest clear keyed.toNamed
  cases dispatch_turn keyed step.result with
  | aside same => exact Or.inl ⟨[], _, _, same, .nil, .refl _⟩
  | @object ops run script =>
      refine Or.inl ⟨ops, _, _, .refl _, ?_, .refl _⟩
      obtain ⟨record, registered, _⟩ := step.registered
      generalize object : event.polled = polled at registered script
      cases script with
      | listener conn c socket n =>
          rw [← object] at registered
          refine (object_led run ?_).careful run ?_ begins
          · rw [object]
            exact .listener conn c socket n
          · exact List.forall_mem_cons.mpr ⟨rfl, List.forall_mem_singleton.mpr rfl⟩
      | link conn c l script =>
          obtain ⟨l', found, _, up, _⟩ := holds.link registered
          exact script.careful run ⟨l', found, up⟩
      | tunnel => exact Operation.quiet_run run (List.forall_mem_nil _)
  | @message conn command id fields ops t t' handles before run script after =>
      refine Or.inl ⟨ops, t, t', before, ?_, after⟩
      exact (message_led handles before script).careful run script.quiet
        fun op starts => careful_aside before (begins op starts)
  | @handshake r isRemote waits linkless listens keyed' joined server =>
      exact Or.inr ⟨r, isRemote, waits, listens⟩

/-- One dispatch. -/
theorem Holding.step (holding : e.Holding) (kind : e.Kind event e') : e'.Holding := by
  have careful := holding.careful kind
  obtain ⟨step, honest, clear⟩ := kind
  obtain ⟨waitsEmpty, holds⟩ := holding
  have keyed := waitsEmpty.keyed
  refine ⟨waitsEmpty.step step.result, ?_⟩
  rcases careful with ⟨ops, t, t', before, run, after⟩ | ⟨r, rfl, waits, _⟩
  · exact (Operation.holds_run run (holds.aside before)).aside after
  · obtain ⟨polled, poll_struct, calls⟩ := event
    have empty := (waitsEmpty.waiting r rfl waits).1
    by_cases self : polled = .stdioTunnel
    · subst self
      obtain ⟨r', dispatched, rfl⟩ := of_map_ok step.result
      rcases StdioTunnelRemote.polled_frame dispatched with aside | ⟨stream, completed, handled⟩
      · exact holds.aside aside
      · obtain ⟨connections, introduces⟩ := honest.handshake r _ rfl waits completed
        exact StdioTunnelRemote.processFrame_holds introduces holds empty keyed waits handled
    · have result := step.result
      rw [dispatch_object self] at result
      obtain ⟨t, dispatched, rfl⟩ := of_map_ok result
      rw [tunnel_withTunnel]
      exact holds.aside (object_nothing empty dispatched)

theorem Started.holding (started : e.Started) (fits : e.ConnectionsFit) : e.Holding :=
  ⟨started.waitsEmpty, started.holds fits⟩

theorem Holding.run (holding : e.Holding) (run : Run Kind e events e') : e'.Holding :=
  run.invariant holding fun before kind => before.step kind

end Endpoint

/-! ## Two endpoints -/

namespace System

variable {s s' : System} {side : Side} {event : Event} {labels : List (Side × Event)}

/-- A step of a system is a dispatch of an endpoint that meets the condition. -/
theorem Step.kind (step : Step s (side, event) s') (inv : s.Inv)
    (clear : Clear (s.tunnel side) event) : (s.ends side).Kind event (s'.ends side) := by
  have honest := step.honest inv
  obtain ⟨e, dispatched, after⟩ := step.ends
  rw [after, Function.update_self]
  exact ⟨dispatched, honest, clear⟩

theorem Opened.holding (opened : s.Opened) (side : Side) : (s.ends side).Holding := by
  have waitsEmpty := opened.waitsEmpty
  obtain ⟨begun, specs, read, written, waits, passing, greets, once, remote⟩ := opened
  refine ⟨waitsEmpty.ends side, ?_⟩
  cases side with
  | localSide =>
      obtain ⟨d, passes, _⟩ := greeted_passes begun waits passing greets once
      exact (begun.started.holds specs).aside passes.aside
  | remoteSide => exact (Endpoint.Started.remoteEnd remote).holds trivial

end System

end Tun01
