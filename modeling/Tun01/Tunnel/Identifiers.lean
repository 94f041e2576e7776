import Tun01.Tunnel.Descriptors
import Tun01.Tunnel.LinkRuns

/-!
# Identifiers that come back

A listener gives an identifier out again after 65536 clients.  A new client
takes the place of no link exactly when no link that is stored belongs to a
client a multiple of 65536 before it.
-/

namespace Tun01

open StdioTunnel (Aside)

/-- Listening opens no socket for a link. -/
theorem Kernel.Listens.opened {os os' : Kernel} (listens : os.Listens os') :
    os'.opened = os.opened := by
  obtain ⟨more, trace, calls⟩ := listens.trace
  unfold Kernel.opened
  rw [trace, List.filterMap_append]
  refine (congrArg _ (List.filterMap_eq_nil_iff.mpr fun call member => ?_)).trans
    (List.append_nil _)
  obtain ⟨s, conn, rfl, _⟩ := calls call member
  rfl

/-! ## Clients and links -/

namespace StdioTunnel

variable {t t' : StdioTunnel} {x : Int}

/-- Clients are numbered, and a stored link has a socket that was opened for it. -/
structure Accounted (t : StdioTunnel) : Prop where
  owned : t.Owned
  numbered : t.Numbered
  sockets : ∀ x id l, t.link? x id = some l → l.m_socket ∈ t.os.socketsOf x id

/-- No link of a connection belongs to a client a multiple of 65536 before its next client. -/
def Spaced (t : StdioTunnel) (x : Int) : Prop :=
  ∀ id l, t.link? x id = some l → ∀ j : Nat, (t.os.opens x)[j]? = some (l.m_socket, id) →
    ¬ 65536 ∣ t.os.accepted x - j

theorem Accounted.same (accounted : t.Accounted) (bare : ∀ x, t'.bare? x = t.bare? x)
    (opened : t'.os.opened = t.os.opened) (link : ∀ x id, t'.link? x id = t.link? x id) :
    t'.Accounted where
  owned := accounted.owned.same opened (kind?_of_bare bare)
  numbered := accounted.numbered.same bare opened
  sockets := by
    intro x id l found
    rw [link] at found
    unfold Kernel.socketsOf
    rw [opened]
    exact accounted.sockets x id l found

theorem Accounted.aside (accounted : t.Accounted) (aside : Aside t t') : t'.Accounted :=
  accounted.same aside.bare? (by rw [aside.os]) aside.link?

/-- Where no link was ever made, there is nothing to account for. -/
theorem Accounted.unopened (opened : t.os.opened = []) (linkless : t.Linkless) :
    t.Accounted where
  owned := by
    intro entry member
    rw [opened] at member
    cases member
  numbered := by
    intro x spec i s n role
    have none : t.os.opens x = [] := by
      unfold Kernel.opens
      rw [opened]
      rfl
    unfold Kernel.accepted
    rw [none]
    rfl
  sockets := by
    intro x id l found
    rw [linkless.link] at found
    cases found

/-- The identifier of the next client is free exactly when the clients with links are spaced. -/
theorem Numbered.spaced_iff (numbers : t.Numbered)
    (sockets : ∀ id l, t.link? x id = some l → l.m_socket ∈ t.os.socketsOf x id)
    {spec : ConnectionSpec} {i : Int} {s : Nat} {n : Int}
    (role : t.bare? x = some (spec, i, .listenSide s n)) :
    t.link? x (Short.ofInt n) = none ↔ t.Spaced x := by
  constructor
  · intro free id l found j client again
    obtain rfl := (numbers.repeats role client).2.mpr again
    rw [found] at free
    cases free
  · intro spaced
    cases found : t.link? x (Short.ofInt n) with
    | none => rfl
    | some l =>
        have member := Kernel.mem_socketsOf_opens.mp (sockets _ l found)
        obtain ⟨j, client⟩ := List.mem_iff_getElem?.mp member
        exact absurd ((numbers.repeats role client).2.mp rfl) (spaced _ l found j client)

end StdioTunnel

/-! ## Operations -/

namespace Operation

variable {t t' : StdioTunnel} {op : Operation}

/-- Operations number the clients. -/
theorem numbered_apply (valid : op.Valid t) (numbers : t.Numbered) : (op.apply t).Numbered := by
  have kept : (∀ conn c socket n, op ≠ .accept conn c socket n) →
      (op.apply t).os.opened = t.os.opened → (op.apply t).Numbered := fun client opened =>
    numbers.same (bare_apply client) opened
  have opened : (op.apply t).os.opened =
      t.os.opened ++ (op.calls t).filterMap Syscall.openedFor := by
    unfold Kernel.opened
    rw [trace_apply, List.filterMap_append]
  cases op with
  | emit _ | received _ _ _ | acknowledge _ _ _ | push _ _ _ | written _ _ _ _ | close _ _
  | erase _ _ | establish _ _ | refuse _ _ =>
      exact kept (fun _ _ _ _ no => by cases no) (opened.trans (List.append_nil _))
  | attempt conn id | connect conn id =>
      obtain ⟨c, known, role⟩ := valid
      refine (@StdioTunnel.Numbered.openSocket _ numbers conn.val id fun spec i s n listens => ?_).same
        (bare_apply fun _ _ _ _ no => by cases no) ?_
      · unfold StdioTunnel.bare? at listens
        rw [known] at listens
        have same := congrArg (fun b => b.2.2) (Option.some.inj listens)
        rw [show (c.m_spec, c.m_id, c.role).2.2 = _ from role] at same
        cases same
      · rw [opened]
        exact (@Kernel.opened_allocate t.os fun s => .opened s conn.val id).symm
  | accept conn c socket n =>
      obtain ⟨known, isConn, role⟩ := valid
      have bare : t.bare? c.m_id = some (c.m_spec, c.m_id, .listenSide socket n) := by
        unfold StdioTunnel.bare?
        rw [isConn, known, ← isConn, ← role]
        rfl
      have counted := numbers.accepting bare
      rw [isConn] at counted
      exact counted.same (StdioTunnel.bare?_mapLinks _ conn.val _) rfl

/-- A link that is stored has a socket that was opened for it. -/
theorem sockets_apply (valid : op.Valid t)
    (sockets : ∀ x id l, t.link? x id = some l → l.m_socket ∈ t.os.socketsOf x id) {x : Int}
    {id : Short} {l : ConnectionLink} (found : (op.apply t).link? x id = some l) :
    l.m_socket ∈ (op.apply t).os.socketsOf x id := by
  have kept : ∀ {l : ConnectionLink}, t.link? x id = some l →
      l.m_socket ∈ (op.apply t).os.socketsOf x id := fun found =>
    Kernel.mem_socketsOf.mpr (Kernel.mem_opened.mpr (mem_trace_apply
      (Kernel.mem_opened.mp (Kernel.mem_socketsOf.mp (sockets x id _ found)))))
  rw [link?_apply valid] at found
  cases stored : op.stores t with
  | none =>
      rw [stored] at found
      exact kept found
  | some entry =>
      obtain ⟨conn, id', l'⟩ := entry
      rw [stored] at found
      dsimp only at found
      split at found
      · rename_i here
        obtain ⟨rfl, rfl⟩ := here
        subst found
        have new : ∀ {s : Nat}, .opened s conn.val id ∈ op.calls t →
            s ∈ (op.apply t).os.socketsOf conn.val id := fun called => by
          refine Kernel.mem_socketsOf.mpr (Kernel.mem_opened.mpr ?_)
          rw [trace_apply]
          exact List.mem_append_right _ called
        cases op with
        | emit _ | received _ _ _ | establish _ _ | attempt _ _ | erase _ _ | refuse _ _ =>
            cases stored
        | acknowledge conn' l₀ ack =>
            cases stored
            exact kept (l := l₀) valid
        | push conn' l₀ bytes | written conn' l₀ buffer bytes | close conn' l₀ =>
            cases stored
            exact kept (l := l₀) valid.1
        | accept _ _ _ _ | connect _ _ =>
            cases stored
            exact new (List.mem_singleton.mpr rfl)
      · exact kept found

theorem accounted (valid : op.Valid t) (accounted : t.Accounted) : (op.apply t).Accounted where
  owned := Operation.owned valid accounted.owned
  numbered := numbered_apply valid accounted.numbered
  sockets := fun _ _ _ => sockets_apply valid accounted.sockets

end Operation

theorem StdioTunnel.Accounted.run {t t' : StdioTunnel} {ops : List Operation}
    (accounted : t.Accounted) (run : Run Operation.Step t ops t') : t'.Accounted := by
  induction run with
  | nil => exact accounted
  | snoc earlier last ih =>
      rw [last.2]
      exact Operation.accounted last.1 ih

/-! ## Dispatches -/

namespace Endpoint

variable {e e' : Endpoint} {event : Event} {events : List Event} {x : Int}

/-- All that was done before the polling loop is to listen. -/
theorem Started.listens (started : e.Started) :
    ∃ side, (StdioTunnel.fresh side).os.Listens e.tunnel.os := by
  cases started with
  | @localEnd _ _ _ _ _ write_fd _ configured start =>
      have configures := StdioTunnelLocal.configure_configures configured
      obtain ⟨l₁, _, connects, rfl⟩ := StdioTunnelLocal.start_started configures.state start
      have starts := connects.starts
      rw [show StdioTunnelLocal.toStdioTunnel _ = _ from configures.base] at starts
      have registered := StdioTunnelLocal.registered_starts (l₁.armed write_fd)
      exact ⟨.localSide, starts.listens.trans registered.listens⟩
  | remoteEnd start =>
      obtain rfl := StdioTunnelRemote.start_waiting start
      exact ⟨.remoteSide, .refl _⟩

theorem Started.unopened (started : e.Started) : e.tunnel.os.opened = [] := by
  obtain ⟨side, listens⟩ := started.listens
  exact listens.opened

theorem Turn.accounted (turn : Turn e event e') (waitsEmpty : e.WaitsEmpty)
    (accounted : e.tunnel.Accounted) : e'.tunnel.Accounted := by
  cases turn with
  | aside same => exact accounted.aside same
  | object run script => exact accounted.run run
  | message handles before run script after => exact ((accounted.aside before).run run).aside after
  | @handshake r isRemote waits linkless listens keyed joined server =>
      obtain ⟨unknown, none⟩ := waitsEmpty.waiting r isRemote waits
      obtain rfl := isRemote
      refine .unopened (listens.opened.trans ?_) (linkless none)
      rw [List.eq_nil_iff_forall_not_mem]
      intro entry member
      have known := accounted.owned entry member
      unfold StdioTunnel.kind? StdioTunnel.bare? at known
      rw [show (remoteEnd r).tunnel.connection? entry.2.1 = .none from unknown _] at known
      cases known

/-- Clients are accounted for along every run of an endpoint. -/
theorem Started.accounted (started : e.Started) (run : Run Step e events e') :
    e'.WaitsEmpty ∧ e'.tunnel.Accounted :=
  @Run.invariant _ _ _ _ _ _ (fun e => e.WaitsEmpty ∧ e.tunnel.Accounted)
    ⟨started.waitsEmpty, .unopened started.unopened started.keyed.2⟩
    (fun before step => ⟨before.1.step step.result,
      (dispatch_turn before.1.keyed step.result).accounted before.1 before.2⟩) run

/-- The next client of a connection gets an identifier that is not in use, and no link is lost. -/
def AcceptsApart (e : Endpoint) (x : Int) (e' : Endpoint) : Prop :=
  (∃ id l, e.tunnel.link? x id = none ∧ e'.tunnel.link? x id = some l) ∧
    ∀ y id l, e.tunnel.link? y id = some l → e'.tunnel.link? y id = some l

/-- What a client changes: it is stored whatever was there, and the next number is ready. -/
theorem accepts (waitsEmpty : e.WaitsEmpty) {socket : Nat}
    (listener : event.polled = .listenSide x socket) (result : e.dispatch event = .ok e') :
    ∃ spec i n, e.tunnel.bare? x = some (spec, i, .listenSide socket n) ∧
      e'.tunnel.bare? x = some (spec, i, .listenSide socket (int32 (n + 1))) ∧
      (∀ y, y ≠ .stdioTunnel → e'.tunnel.registrations y = e.tunnel.registrations y) ∧
      ∀ y id, e'.tunnel.link? y id =
        if y = x ∧ id = Short.ofInt n then
          some (.create (Short.ofInt n) e.tunnel.os.next_socket)
        else e.tunnel.link? y id := by
  have object : event.polled ≠ .stdioTunnel := by
    rw [listener]
    exact nofun
  rw [dispatch_object object, listener] at result
  obtain ⟨t', dispatched, rfl⟩ := of_map_ok result
  obtain ⟨ops, run, script⟩ := (StdioTunnel.polledObject_run waitsEmpty.keyed dispatched).resolve_right
    fun server => nomatch server.1
  cases script with
  | listener conn c socket n =>
      obtain ⟨t₁, ⟨⟨known, isConn, role⟩, rfl⟩, rest⟩ := run.uncons
      obtain ⟨t₂, ⟨_, rfl⟩, done⟩ := rest.uncons
      obtain rfl := done.of_nil
      have bare : e.tunnel.bare? conn.val = some (c.m_spec, c.m_id, .listenSide socket n) := by
        unfold StdioTunnel.bare?
        rw [known, ← role]
        rfl
      refine ⟨c.m_spec, c.m_id, n, bare, ?_, fun y other => ?_, fun y id => ?_⟩
      · have counted := StdioTunnel.bare?_setNextId (e.tunnel.openSocket conn.val (Short.ofInt n)) c
          socket (int32 (n + 1)) conn.val
        rw [if_pos isConn] at counted
        rw [show (e.tunnel.openSocket conn.val (Short.ofInt n)).bare? conn.val = _ from bare]
          at counted
        rw [tunnel_withTunnel, Operation.bare_apply fun _ _ _ _ no => by cases no]
        exact (StdioTunnel.bare?_mapLinks _ conn.val _ conn.val).trans counted
      · rw [tunnel_withTunnel, Operation.registrations_apply _ other]
        exact Operation.registrations_apply (.accept conn c socket n) other
      · rw [tunnel_withTunnel]
        exact @Operation.link?_apply _ (.accept conn c socket n) ⟨known, isConn, role⟩ y id

/-- A listener that is there returns exactly when `accept` and `fcntl` succeed. -/
theorem listener_returns_iff (waitsEmpty : e.WaitsEmpty) {socket : Nat}
    (listener : event.polled = .listenSide x socket) :
    (∃ e', e.dispatch event = .ok e') ↔
      (∃ spec i n, e.tunnel.bare? x = some (spec, i, .listenSide socket n)) ∧
        event.calls.accept = .ok () ∧ event.calls.fcntl = .ok () := by
  have object : event.polled ≠ .stdioTunnel := by
    rw [listener]
    exact nofun
  constructor
  · rintro ⟨e', result⟩
    obtain ⟨spec, i, n, role, _⟩ := accepts waitsEmpty listener result
    refine ⟨⟨spec, i, n, role⟩, ?_⟩
    rw [dispatch_object object, listener] at result
    obtain ⟨t', dispatched, _⟩ := of_map_ok result
    unfold StdioTunnel.polledObject at dispatched
    dsimp only at dispatched
    split at dispatched
    · split at dispatched
      · split at dispatched
        · unfold StdioTunnel.listenPolled at dispatched
          split at dispatched
          · cases dispatched
          · cases dispatched
          · rename_i accepted configured
            exact ⟨accepted, configured⟩
        · cases dispatched
      · cases dispatched
    · cases dispatched
  · rintro ⟨⟨spec, i, n, role⟩, accepted, configured⟩
    cases known : e.tunnel.connection? x with
    | none =>
        unfold StdioTunnel.bare? at role
        rw [known] at role
        cases role
    | some c =>
        have isRole : c.role = .listenSide socket n := by
          unfold StdioTunnel.bare? at role
          rw [known] at role
          exact congrArg (fun b => b.2.2) (Option.some.inj role)
        obtain ⟨isConn, conn, rfl⟩ := waitsEmpty.keyed.keys x c known
        have valid : (Operation.accept conn c socket n).Valid e.tunnel := ⟨known, isConn, isRole⟩
        have sent := @StdioTunnel.send_bare _ conn (Short.ofInt n) _
          (Operation.keyed valid waitsEmpty.keyed).ready isConn .create rfl
        rw [dispatch_object object, listener]
        unfold StdioTunnel.polledObject
        simp only [known, isRole, ↓reduceIte, accepted, configured]
        unfold StdioTunnel.listenPolled
        dsimp only
        rw [isConn]
        exact ⟨_, congrArg (Except.map e.withTunnel) sent⟩

/-- A client is accepted apart from the others exactly when its identifier is free. -/
theorem accepts_apart (waitsEmpty : e.WaitsEmpty) (accounted : e.tunnel.Accounted) {socket : Nat}
    (listener : event.polled = .listenSide x socket) (result : e.dispatch event = .ok e') :
    e.AcceptsApart x e' ↔ e.tunnel.Spaced x := by
  obtain ⟨spec, i, n, role, _, _, links⟩ := accepts waitsEmpty listener result
  rw [← accounted.numbered.spaced_iff (accounted.sockets x) role]
  constructor
  · rintro ⟨⟨id, l, free, stored⟩, _⟩
    rw [links] at stored
    split at stored
    · rename_i here
      rw [← here.2]
      exact free
    · rw [free] at stored
      cases stored
  · intro free
    refine ⟨⟨_, _, free, (links x _).trans (if_pos ⟨rfl, rfl⟩)⟩, fun y id l found => ?_⟩
    rw [links, if_neg]
    · exact found
    · rintro ⟨rfl, rfl⟩
      rw [found] at free
      cases free

end Endpoint

namespace System

variable {s s' : System} {side : Side} {event : Event} {labels : List (Side × Event)}
  {conn id : Short}

/-- A dispatch that accepts a client only where the clients with links are spaced. -/
def SpacedStep (s : System) (label : Side × Event) (s' : System) : Prop :=
  Step s label s' ∧ ∀ x socket, label.2.polled = .listenSide x socket →
    (s.tunnel label.1).Spaced x

theorem Inv.clear_of_spaced (inv : s.Inv)
    (spaced : ∀ x socket, event.polled = .listenSide x socket → (s.tunnel side).Spaced x) :
    Clear (s.tunnel side) event := by
  intro x socket c socket' n listener known role
  have healthy := inv.healthy side
  have bare : (s.tunnel side).bare? x = some (c.m_spec, c.m_id, .listenSide socket' n) := by
    unfold StdioTunnel.bare?
    rw [known, ← role]
    rfl
  exact (healthy.numbered.spaced_iff (fun id l found => ((healthy.sound.links x id).link l found).2.2)
    bare).mpr (spaced x socket listener)

/-- The invariant holds along every run whose clients are spaced. -/
theorem Opened.spaced_inv (opened : s.Opened) (fits : s.Fits) (run : Run SpacedStep s labels s') :
    s'.Inv :=
  run.invariant (opened.inv fits) fun {_ label _} inv step =>
    @Step.inv _ _ label.1 label.2 step.1 inv (inv.clear_of_spaced step.2)

/-- A listener that has a free identifier has its clients with links spaced. -/
theorem Inv.spaced_of_clear (inv : s.Inv) (step : (s.ends side).Step event e)
    (clear : Clear (s.tunnel side) event) (x : Int) (socket : Nat)
    (listener : event.polled = .listenSide x socket) : (s.tunnel side).Spaced x := by
  have healthy := inv.healthy side
  obtain ⟨record, registered, _⟩ := step.registered
  rw [listener] at registered
  obtain ⟨conn, c, n, rfl, known, isConn, role⟩ := healthy.sound.listener registered
  have bare : (s.tunnel side).bare? conn.val = some (c.m_spec, c.m_id, .listenSide socket n) := by
    unfold StdioTunnel.bare?
    rw [known, ← role]
    rfl
  refine (healthy.numbered.spaced_iff (fun id l found => ?_) bare).mp
    (clear conn.val socket c socket n listener known role)
  exact ((healthy.sound.links conn.val id).link l found).2.2

/-- With few clients no identifier is given out twice. -/
theorem Opened.spaced_run (opened : s.Opened) (fits : s.Fits) (run : Run Step s labels s')
    (few : ∀ conn, s'.clients conn < 65536) : Run SpacedStep s labels s' := by
  induction run with
  | nil => exact .nil
  | @snoc _ s₁ _ label earlier last ih =>
      have before : ∀ conn, s₁.clients conn < 65536 := fun conn =>
        Nat.lt_of_le_of_lt
          (@Step.clients _ _ label.1 label.2 last (opened.waitsEmpty_run earlier) conn) (few conn)
      have inv := opened.run_inv fits earlier before
      obtain ⟨e, dispatched, _⟩ := last.ends
      exact .snoc (ih before) ⟨last, inv.spaced_of_clear dispatched (inv.clear before)⟩

/-- A connecting side that is asked for a link has none. -/
theorem Inv.asked_absent (inv : s.Inv) {poll_struct : Pollfd} {calls : Calls} {got : List Byte}
    {stream : ReadStream} {fields : List Byte}
    (delivers : s.Delivers side poll_struct calls got stream)
    (connects : (s.tunnel side).connects conn.val = true)
    (message : (s.ends side).message ⟨.stdioTunnel, poll_struct, calls⟩ =
      some (conn, LINK_CREATE, id, fields)) : (s.tunnel side).link? conn.val id = none := by
  obtain ⟨m, rest, command, _, _, front⟩ := delivers.message_front inv message
  exact StdioTunnel.link?_of_absent (inv.asked connects command.symm front).2

end System

/--
A client gets an identifier that is not in use, and replaces no link, exactly
when the clients with links are spaced; while that is so, a connecting side is
never asked for a link it has.
-/
theorem link_ids_unique {e e' e'' : Endpoint} {events : List Event} {event : Event} {x : Int}
    {socket : Nat} (started : e.Started) (run : Run Endpoint.Step e events e')
    (listener : event.polled = .listenSide x socket) (step : e'.Step event e'') :
    (e'.AcceptsApart x e'' ↔ e'.tunnel.Spaced x) ∧
      ∀ (s s' : System) (labels : List (Side × Event)) (side : Side) (poll_struct : Pollfd)
        (calls : Calls) (got : List Byte) (stream : ReadStream) (conn id : Short)
        (fields : List Byte), s.Opened → s.Fits → Run System.SpacedStep s labels s' →
          s'.Delivers side poll_struct calls got stream →
          (s'.tunnel side).connects conn.val = true →
          (s'.ends side).message ⟨.stdioTunnel, poll_struct, calls⟩ =
            some (conn, LINK_CREATE, id, fields) →
          (s'.tunnel side).link? conn.val id = none := by
  constructor
  · obtain ⟨waitsEmpty, accounted⟩ := started.accounted run
    exact Endpoint.accepts_apart waitsEmpty accounted listener step.result
  · intro s s' labels side poll_struct calls got stream conn id fields opened fits run delivers
      connects message
    exact (opened.spaced_inv fits run).asked_absent delivers connects message

/-! ## A listener after 65536 clients -/

def remoteListens : Message :=
  .handshake [(Short.ofInt 0, ⟨.LISTEN, text "host", 80, 8080, 0⟩)]

namespace Endpoint

variable {e : Endpoint} {spec : ConnectionSpec} {i : Int}

def listening : Endpoint := (remoteEnd .waiting).after (arrives remoteListens)

def client : Event := ⟨.listenSide 0 0, ⟨0, POLLIN, POLLIN⟩, {}⟩

theorem listening_facts :
    ((remoteEnd .waiting).dispatch (arrives remoteListens)).isOk = true ∧
      STDIN_FD ∈ ((remoteEnd .waiting).tunnel.registrations .stdioTunnel).map Pollfd.fd ∧
      (0 : Int) ∈ (listening.tunnel.registrations (.listenSide 0 0)).map Pollfd.fd ∧
      listening.tunnel.bare? 0 =
        some (⟨.LISTEN, text "host", 80, 8080, 0⟩, 0, .listenSide 0 501) ∧
      listening.tunnel.os.opened = [] := by
  decide +kernel

theorem listening_step : (remoteEnd .waiting).Step (arrives remoteListens) listening :=
  step_self rfl listening_facts.2.1 listening_facts.1

/-- A client comes to the listener. -/
theorem client_returns (waitsEmpty : e.WaitsEmpty) {n : Int}
    (role : e.tunnel.bare? 0 = some (spec, i, .listenSide 0 n)) :
    ∃ e', e.dispatch client = .ok e' :=
  (listener_returns_iff waitsEmpty rfl).mpr ⟨⟨spec, i, n, role⟩, rfl, rfl⟩

/-- One client after the other. -/
theorem clients_run (waitsEmpty : e.WaitsEmpty) (record : (0 : Int) ∈
      (e.tunnel.registrations (.listenSide 0 0)).map Pollfd.fd)
    (role : e.tunnel.bare? 0 = some (spec, i, .listenSide 0 501)) {count : Nat}
    (few : count ≤ 65536) :
    ∃ events e', Run Step e events e' ∧ e'.WaitsEmpty ∧
      (0 : Int) ∈ (e'.tunnel.registrations (.listenSide 0 0)).map Pollfd.fd ∧
      e'.tunnel.bare? 0 = some (spec, i, .listenSide 0 (501 + count)) ∧
      (0 < count → e'.tunnel.link? 0 (Short.ofInt 501) ≠ none) := by
  induction count with
  | zero => exact ⟨[], e, .nil, waitsEmpty, record, role,
      fun positive => absurd positive (Nat.lt_irrefl 0)⟩
  | succ count ih =>
      obtain ⟨events, e₁, run, waitsEmpty₁, record₁, role₁, stored⟩ := ih (Nat.le_of_succ_le few)
      obtain ⟨e₂, result⟩ := client_returns waitsEmpty₁ role₁
      obtain ⟨entry, member, fd⟩ := List.mem_map.mp record₁
      obtain ⟨spec', i', n, role', next, records, links⟩ := accepts waitsEmpty₁ (x := 0) rfl result
      rw [role₁] at role'
      cases role'
      have counts : int32 (501 + (count : Int) + 1) = 501 + ((count + 1 : Nat) : Int) := by
        rw [int32]
        omega
      have step : Step e₁ client e₂ := ⟨⟨entry, member, fd⟩, trivial, result⟩
      refine ⟨_, e₂, run.snoc step, waitsEmpty₁.step result, ?_, ?_, fun _ => ?_⟩
      · rw [records (.listenSide 0 0) (fun same => by cases same)]
        exact record₁
      · rw [next, counts]
      · rw [links]
        split
        · exact Option.some_ne_none _
        · rename_i other
          refine stored (Nat.pos_of_ne_zero ?_)
          rintro rfl
          exact other ⟨rfl, rfl⟩

end Endpoint

open Endpoint (listening listening_facts listening_step client client_returns clients_run
  waiting_started dispatch_after)

def visited : Endpoint := listening.after client

theorem visited_facts :
    (listening.dispatch client).isOk = true ∧ (visited.dispatch client).isOk = true ∧
      (0 : Int) ∈ (visited.tunnel.registrations (.listenSide 0 0)).map Pollfd.fd ∧
      (visited.tunnel.link? 0 (Short.ofInt 501)).isSome = true ∧
      visited.tunnel.os.opens 0 = [(1, Short.ofInt 501)] := by
  decide +kernel

namespace System

def asksLink : List Move :=
  handshake ++ [.object .localSide client, .flush .localSide]

theorem asksLink_facts :
    (greeted.playAll? asksLink).isSome = true ∧
      ((greeted.playAll asksLink).tunnel .localSide).os.trace.length < 65536 ∧
      ((greeted.playAll asksLink).tunnel .remoteSide).os.trace.length < 65536 ∧
      ((greeted.playAll asksLink).play? (.fetch .remoteSide {})).isSome = true ∧
      ((greeted.playAll asksLink).tunnel .remoteSide).connects 0 = true ∧
      ((greeted.playAll asksLink).ends .remoteSide).message
        ((greeted.playAll asksLink).label (.fetch .remoteSide {})).2 =
          some (Short.ofInt 0, LINK_CREATE, Short.ofInt 501, []) := by
  decide +kernel

end System

/--
The second client comes while the link of the first is stored, and a connecting
side is asked for the link of a client.
-/
theorem link_ids_unique_second :
    (∃ e'', visited.Step client e'' ∧ visited.AcceptsApart 0 e'') ∧
      ((System.greeted.playAll System.asksLink).tunnel .remoteSide).link? 0 (Short.ofInt 501) = none := by
  obtain ⟨first, second, record, _, opens⟩ := visited_facts
  obtain ⟨_, _, listens, _, _⟩ := listening_facts
  have client_step : ∀ {e : Endpoint}, (e.dispatch client).isOk = true →
      (0 : Int) ∈ (e.tunnel.registrations (.listenSide 0 0)).map Pollfd.fd →
        e.Step client (e.after client) := by
    intro e returns record
    obtain ⟨entry, member, fd⟩ := List.mem_map.mp record
    exact ⟨⟨entry, member, fd⟩, trivial, dispatch_after returns⟩
  have run := Run.snoc (.single listening_step) (client_step first listens)
  have spaced : visited.tunnel.Spaced 0 := by
    intro id l _ j there
    unfold Kernel.accepted
    rw [opens] at there ⊢
    obtain ⟨inside, _⟩ := List.getElem?_eq_some_iff.mp there
    have zero : j = 0 := Nat.lt_one_iff.mp inside
    rw [zero]
    decide
  have step := client_step second record
  obtain ⟨played, own, other, arrives, connects, message⟩ := System.asksLink_facts
  obtain ⟨labels, schedule⟩ := System.playAll_run played
  obtain ⟨s', fetched⟩ := Option.isSome_iff_exists.mp arrives
  obtain ⟨stream, delivers⟩ := System.fetch_delivers fetched
  obtain ⟨apart, absent⟩ := @link_ids_unique _ _ _ _ _ 0 0 waiting_started run rfl step
  refine ⟨⟨_, step, apart.mpr spaced⟩, ?_⟩
  exact absent System.greeted _ labels .remoteSide _ _ _ stream (Short.ofInt 0) (Short.ofInt 501) []
    System.greeted_opened System.greeted_fits
    (System.greeted_opened.spaced_run System.greeted_fits schedule
      (System.clients_few _ own other)) delivers connects message

/-- The first client keeps its link while 65535 more come; the next one replaces it. -/
theorem not_link_ids_unique :
    ¬ ∀ (e e' e'' : Endpoint) (events : List Event) (event : Event) (x : Int) (socket : Nat),
      e.Started → Run Endpoint.Step e events e' → event.polled = .listenSide x socket →
        e'.Step event e'' → e'.AcceptsApart x e'' := by
  intro always
  obtain ⟨_, _, record, role, _⟩ := listening_facts
  have waitsEmpty := (waiting_started.accounted (.single listening_step)).1
  obtain ⟨events, e', run, waitsEmpty', record', role', stored⟩ :=
    clients_run waitsEmpty record role (Nat.le_refl 65536)
  obtain ⟨e'', result⟩ := client_returns waitsEmpty' role'
  obtain ⟨entry, member, fd⟩ := List.mem_map.mp record'
  obtain ⟨⟨id, l, free, found⟩, _⟩ := always _ e' e'' _ client 0 0 waiting_started
    ((Run.single listening_step).append run) rfl ⟨⟨entry, member, fd⟩, trivial, result⟩
  obtain ⟨spec, i, n, again, _, _, links⟩ := Endpoint.accepts waitsEmpty' (x := 0) rfl result
  rw [role'] at again
  cases again
  rw [links] at found
  split at found
  · rename_i here
    obtain ⟨_, rfl⟩ := here
    refine stored (by decide) ?_
    rw [← free]
    congr 1
  · rw [free] at found
    cases found

end Tun01
