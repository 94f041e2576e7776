import Tun01.Tunnel.LocalRuns
import Tun01.Tunnel.Runs

/-!
# Where runs of a system begin

The local endpoint has created its connections, has waited for the magic string
and has queued the request of the handshake; the remote endpoint waits for it.
-/

namespace Tun01

open StdioTunnel (Aside Created Installs listensFor stored)

/-! ## Soundness beside the links -/

namespace StdioTunnel

variable {t t' : StdioTunnel}

theorem Aside.addPolled (t : StdioTunnel) (fd : Int) (events : PollEvents) :
    Aside t (t.addPolled .stdioTunnel fd events) where
  side := rfl
  map := rfl
  os := rfl
  records := fun _ other =>
    (Poller.registrations_addPolled _ _ _ _ _).trans (if_neg fun same => other same.symm)
  poller := rfl
  fields := rfl
  serves := .refl _

theorem Aside.bare? (aside : Aside t t') (x : Int) : t'.bare? x = t.bare? x := by
  unfold StdioTunnel.bare?
  rw [aside.connection?]

theorem Aside.sound (aside : Aside t t') (sound : t.Sound) : t'.Sound where
  ready := ⟨aside.poller.trans sound.ready.poller, aside.fields.trans sound.ready.fields⟩
  os := by
    rw [aside.os]
    exact sound.os
  keys := by
    intro x c found
    rw [aside.connection?] at found
    exact sound.keys x c found
  listeners := by
    intro x s record member
    rw [aside.records _ (fun no => by cases no)] at member
    rw [aside.bare?]
    exact sound.listeners x s record member
  links := by
    intro x i
    constructor
    · rw [aside.link?, aside.os]
      exact (sound.links x i).link
    · intro s
      rw [aside.records _ (fun no => by cases no), aside.link?]
      exact (sound.links x i).registered s

def armed (t : StdioTunnel) (fd : Int) : StdioTunnel :=
  { t with m_write_stream := { t.m_write_stream with m_poller := true, m_fd := fd } }

theorem fresh_armed_sound (side : Side) (fd : Int) : ((fresh side).armed fd).Sound where
  ready := ⟨rfl, rfl⟩
  os := ⟨fun _ member => (by cases member), fun _ _ _ _ _ member => (by cases member)⟩
  keys := fun _ _ found => by cases found
  listeners := fun _ _ _ member => by cases member
  links := fun _ _ => ⟨fun _ found => (by cases found), fun _ => Or.inl rfl⟩

/-- Connections are created in the same way before and after. -/
theorem CreateConnection_armed (t : StdioTunnel) (fd : Int) (spec : ConnectionSpec)
    (is_local : Bool) (id : Int) (listen : ListenResult) :
    (t.armed fd).CreateConnection spec is_local id listen =
      (t.CreateConnection spec is_local id listen).map fun result =>
        (result.1.armed fd, result.2) := by
  unfold CreateConnection
  split
  · cases listen <;> rfl
  · rfl

/-- The first specifications have been used; the identifiers are their positions. -/
structure Populated (t : StdioTunnel) (specs : List ConnectionSpec) (count : Nat) : Prop where
  side : t.side = .localSide
  sound : t.Sound
  opened : t.os.opened = []
  connections : ∀ x c, t.connection? x = some c → ∃ k spec, k < count ∧
    x = (Short.ofInt (k : Nat)).val ∧ specs[k]? = some spec ∧
      Created spec (listensFor true spec) x c

theorem Populated.linkless {specs : List ConnectionSpec} {count : Nat}
    (populated : t.Populated specs count) (x : Int) (i : Short) : t.link? x i = none := by
  unfold link?
  cases found : t.connection? x with
  | none => rfl
  | some c =>
      obtain ⟨_, _, _, _, _, created⟩ := populated.connections x c found
      change c.m_link_map.find? i = none
      rw [created.links]
      rfl

/-- No client was accepted, and each listener will number its clients from 501 on. -/
theorem Populated.numbered {specs : List ConnectionSpec} {count : Nat}
    (populated : t.Populated specs count) : t.Numbered := by
  intro x spec i s n role
  have none : t.os.opens x = [] := by
    unfold Kernel.opens
    rw [populated.opened]
    rfl
  unfold Kernel.accepted
  rw [none]
  rfl

theorem Populated.aside {specs : List ConnectionSpec} {count : Nat}
    (populated : t.Populated specs count) (aside : Aside t t') : t'.Populated specs count where
  side := aside.side.trans populated.side
  sound := aside.sound populated.sound
  opened := by
    rw [aside.os]
    exact populated.opened
  connections := by
    intro x c found
    rw [aside.connection?] at found
    exact populated.connections x c found

end StdioTunnel

/-! ## The local endpoint -/

namespace StdioTunnelLocal

variable {l l' : StdioTunnelLocal} {calls : Calls}

theorem createConnections_armed (l : StdioTunnelLocal) (fd : Int) (g_id : Short) (i : Nat)
    (specs : List ConnectionSpec) :
    (l.armed fd).createConnections calls g_id i specs =
      (l.createConnections calls g_id i specs).map fun l => l.armed fd := by
  induction specs generalizing l g_id i with
  | nil => rfl
  | cons spec specs ih =>
      have creates := StdioTunnel.CreateConnection_armed l.toStdioTunnel fd spec true g_id.val
        (calls.listen i)
      unfold createConnections
      change ((l.toStdioTunnel.armed fd).CreateConnection spec true g_id.val (calls.listen i)).bind _
        = _
      rw [creates]
      cases l.toStdioTunnel.CreateConnection spec true g_id.val (calls.listen i) with
      | error fault => rfl
      | ok result =>
          obtain ⟨t, pConn⟩ := result
          cases pConn with
          | none => exact ih { l with toStdioTunnel := t } _ _
          | some c => exact ih { l with toStdioTunnel := t.putConnection c.m_id c } _ _

/-- The loop over the specifications. -/
theorem createConnections_populated {specs done rest : List ConnectionSpec} {g_id : Short}
    (whole : specs = done ++ rest) (few : specs.length ≤ 65536)
    (number : g_id = Short.ofInt done.length)
    (populated : l.toStdioTunnel.Populated specs done.length)
    (result : l.createConnections calls g_id done.length rest = .ok l') :
    l'.toStdioTunnel.Populated specs specs.length := by
  induction rest generalizing l done g_id with
  | nil =>
      rw [List.append_nil] at whole
      rw [← Except.ok.inj result, whole]
      rw [whole] at populated
      exact populated
  | cons spec rest ih =>
      have inside : done.length < specs.length := by
        rw [whole, List.length_append, List.length_cons]
        omega
      have here : specs[done.length]? = some spec := by
        rw [whole, List.getElem?_append_right (Nat.le_refl _), Nat.sub_self]
        rfl
      have fresh : l.toStdioTunnel.connection? g_id.val = none := by
        cases found : l.toStdioTunnel.connection? g_id.val with
        | none => rfl
        | some c =>
            obtain ⟨k, _, below, same, _, _⟩ := populated.connections _ c found
            rw [number] at same
            have equal := (Short.ofInt_eq_iff _ _).mp (Short.ext same)
            omega
      unfold createConnections at result
      obtain ⟨⟨t, pConn⟩, creates, result⟩ := of_bind_ok result
      obtain ⟨installs, _⟩ := StdioTunnel.CreateConnection_installs populated.sound fresh creates
      have number' : Short.ofInt (g_id.val + 1) = Short.ofInt (done ++ [spec]).length := by
        rw [List.length_append, List.length_singleton, number, Short.ofInt_eq_iff, Short.val_ofInt]
        push_cast
        omega
      have stores : (stored g_id.val t pConn).Populated specs (done ++ [spec]).length := by
        refine ⟨installs.looks.side.trans populated.side, installs.sound,
          installs.opened.trans populated.opened, fun x c found => ?_⟩
        rw [List.length_append, List.length_singleton]
        by_cases own : x = g_id.val
        · rw [own] at found ⊢
          rcases installs.own with ⟨_, none⟩ | ⟨c', stores, created⟩
          · rw [none] at found
            cases found
          · rw [stores] at found
            rw [← Option.some.inj found]
            exact ⟨done.length, spec, Nat.lt_succ_self _, by rw [number], here, created⟩
        · have old := (installs.others x own).symm.trans found
          obtain ⟨k, spec', below, same⟩ := populated.connections x c old
          exact ⟨k, spec', Nat.lt_succ_of_lt below, same⟩
      have finish : ∀ t', t' = stored g_id.val t pConn →
          createConnections { l with toStdioTunnel := t' } calls (Short.ofInt (g_id.val + 1))
            (done.length + 1) rest = .ok l' →
          l'.toStdioTunnel.Populated specs specs.length := by
        intro t' same later
        have longer : specs = (done ++ [spec]) ++ rest := by
          rw [whole, List.append_assoc]
          rfl
        refine ih (l := { l with toStdioTunnel := t' }) longer number'
          (by rw [← same] at stores; exact stores) ?_
        rw [List.length_append]
        exact later
      cases pConn with
      | none => exact finish _ rfl result
      | some c =>
          exact finish _ (congrArg (fun id => t.putConnection id c)
            (StdioTunnel.CreateConnection_id creates)) result

theorem registered_aside (l : StdioTunnelLocal) :
    Aside l.toStdioTunnel l.registered.toStdioTunnel := by
  have stdin := Aside.addPolled l.toStdioTunnel STDIN_FD POLLIN
  have stdout := stdin.trans (.addPolled _ STDOUT_FD .zero)
  have read := stdout.trans (.addPolled _ l.m_read_fd POLLIN)
  exact read.trans (.addPolled _ l.m_write_fd .zero)

/-- The connections of the local endpoint when its polling loop begins. -/
theorem Begun.populated (begun : Begun l) (few : l.m_connection_specs.length ≤ 65536) :
    l.toStdioTunnel.Populated l.m_connection_specs l.m_connection_specs.length ∧
      l.m_read_stream = .fresh ∧
      ∀ spec ∈ l.m_connection_specs,
        ∃ direction, (direction = .LISTEN ∨ direction = .CONNECT) ∧ spec.Parsed direction := by
  obtain ⟨configured, pipes, start⟩ := begun
  rename_i l₀ read_fd write_fd calls
  have configures := configure_configures configured
  have base : l₀.toStdioTunnel = StdioTunnel.fresh .localSide := configures.base
  obtain ⟨l₁, creates, connects, rfl⟩ := start_started configures.state start
  have specs : l₁.m_connection_specs = l₀.m_connection_specs := by rw [connects.same]
  have armed := @createConnections_armed calls
    { l₀ with m_read_fd := read_fd, m_write_fd := write_fd } write_fd (Short.ofInt 0) 0
    l₀.m_connection_specs
  rw [creates] at armed
  change l₁.m_connection_specs.length ≤ 65536 at few
  change (l₁.armed write_fd).registered.toStdioTunnel.Populated l₁.m_connection_specs
    l₁.m_connection_specs.length ∧ l₁.m_read_stream = .fresh ∧
      ∀ spec ∈ l₁.m_connection_specs,
        ∃ direction, (direction = .LISTEN ∨ direction = .CONNECT) ∧ spec.Parsed direction
  rw [specs] at few ⊢
  refine ⟨?_, ?_, fun spec member => ?_⟩
  · have whole : l₀.m_connection_specs = [] ++ l₀.m_connection_specs := rfl
    have populated := createConnections_populated whole few rfl
      ⟨?_, ?_, ?_, ?_⟩ armed
    · exact populated.aside (registered_aside _)
    · change l₀.side = _
      rw [base]
      rfl
    · change (l₀.toStdioTunnel.armed write_fd).Sound
      rw [base]
      exact StdioTunnel.fresh_armed_sound .localSide write_fd
    · change l₀.os.opened = []
      rw [base]
      rfl
    · intro x c found
      change l₀.connection? x = some c at found
      rw [base] at found
      cases found
  · rw [connects.reader]
    change l₀.m_read_stream = .fresh
    rw [base]
    rfl
  · rcases configures.specs spec member with no | parsed
    · cases no
    · exact parsed

end StdioTunnelLocal

/-! ## The request -/

namespace StdioTunnel

variable {t : StdioTunnel} {specs : List ConnectionSpec} {count : Nat}

/-- The local endpoint listens where its option was `-L`. -/
theorem listensFor_local (spec : ConnectionSpec) :
    listensFor true spec = decide (spec.m_connection_type = .CONNECT) := by
  unfold listensFor
  simp

/-- An entry of the request is a connection of the local endpoint. -/
theorem mem_connections {c : Short × ConnectionSpec} (named : t.Named) :
    c ∈ t.connections ↔ ∃ conn, t.connection? c.1.val = some conn ∧ conn.m_spec = c.2 := by
  unfold connections
  rw [List.mem_map]
  constructor
  · rintro ⟨⟨x, conn⟩, member, rfl⟩
    have found : t.connection? x = some conn := (OrderedMap.find?_eq_some_iff _ _ _).mpr member
    obtain ⟨isConn, id, same⟩ := named.keys x conn found
    refine ⟨conn, ?_, rfl⟩
    change t.connection? (Short.ofInt conn.m_id).val = some conn
    rw [isConn, ← same, Short.ofInt_val, same]
    exact found
  · rintro ⟨conn, found, spec⟩
    obtain ⟨isConn, _⟩ := named.keys _ conn found
    refine ⟨(c.1.val, conn), (OrderedMap.find?_eq_some_iff _ _ _).mp found, ?_⟩
    change (Short.ofInt conn.m_id, conn.m_spec) = c
    rw [isConn, Short.ofInt_val, spec]

theorem connections_nodup (named : t.Named) : (t.connections.map Prod.fst).Nodup := by
  unfold connections
  rw [List.map_map, List.Nodup, List.pairwise_map]
  refine t.m_connection_map.sorted.imp_of_mem ?_
  rintro ⟨x, c⟩ ⟨y, d⟩ inX inY below same
  obtain ⟨isX, s, sIs⟩ := named.keys x c ((OrderedMap.find?_eq_some_iff _ _ _).mpr inX)
  obtain ⟨isY, u, uIs⟩ := named.keys y d ((OrderedMap.find?_eq_some_iff _ _ _).mpr inY)
  change Short.ofInt c.m_id = Short.ofInt d.m_id at same
  rw [isX, isY, ← sIs, ← uIs, Short.ofInt_val, Short.ofInt_val] at same
  rw [← sIs, ← uIs, same] at below
  exact lt_irrefl _ below

theorem Populated.kind (populated : t.Populated specs count) {x : Int} {spec : ConnectionSpec}
    {listens : Bool} :
    t.kind? x = some (spec, listens) ↔
      (∃ c, t.connection? x = some c ∧ c.m_spec = spec) ∧
        listens = decide (spec.m_connection_type = .CONNECT) := by
  unfold kind? bare?
  cases found : t.connection? x with
  | none =>
      refine iff_of_false (fun no => by cases no) ?_
      rintro ⟨⟨c, no, _⟩, _⟩
      cases no
  | some c =>
      obtain ⟨k, spec', _, _, _, created⟩ := populated.connections x c found
      change some (c.m_spec, c.role.listens) = some (spec, listens) ↔ _
      rw [created.listens, created.spec, listensFor_local, Option.some_inj, Prod.mk.injEq]
      constructor
      · rintro ⟨rfl, rfl⟩
        exact ⟨⟨c, rfl, created.spec⟩, rfl⟩
      · rintro ⟨⟨c', same, rfl⟩, rfl⟩
        rw [← Option.some.inj same, created.spec]
        exact ⟨rfl, rfl⟩

/-- The request lists the connections. -/
theorem Populated.lists (populated : t.Populated specs count)
    (few : t.m_connection_map.size ≤ 32767)
    (parsed : ∀ spec ∈ specs, ∃ direction, (direction = .LISTEN ∨ direction = .CONNECT) ∧
      spec.Parsed direction) : System.Lists t t.connections := by
  have named : t.Named := populated.sound.keyed.toNamed
  have length : t.connections.length = t.m_connection_map.size := List.length_map _
  refine ⟨length ▸ few, connections_nodup named, ?_, ?_, ?_⟩
  · intro x spec listens kind
    obtain ⟨⟨c, found, isSpec⟩, _⟩ := populated.kind.mp kind
    obtain ⟨_, id, same⟩ := named.keys x c found
    exact ⟨id, same, (mem_connections named).mpr ⟨c, by rw [same]; exact found, isSpec⟩⟩
  · intro c member
    exact populated.kind.mpr ⟨(mem_connections named).mp member, rfl⟩
  · intro c member
    obtain ⟨conn, found, isSpec⟩ := (mem_connections named).mp member
    obtain ⟨k, spec, _, _, here, created⟩ := populated.connections _ conn found
    obtain ⟨direction, isOption, parses⟩ := parsed spec (List.mem_of_getElem? here)
    rw [← isSpec, created.spec, parses.direction]
    exact isOption

end StdioTunnel

/-! ## The system -/

namespace System

open StdioTunnelLocal (Begun Unvisited)

/--
The local endpoint, where no client came before the magic string, has just
queued the request of the handshake, and the remote endpoint waits for it.
-/
inductive Opened : System → Prop where
  | mk {l : StdioTunnelLocal} {events : List Event} {w w' : Watched} {event : Event}
      {r : StdioTunnelRemote} {write fcntl : SysResult Unit}
      (begun : Begun l) (specs : l.m_connection_specs.length ≤ 65536)
      (read : l.m_read_fd ≠ STDOUT_FD) (written : l.m_write_fd ≠ STDOUT_FD)
      (waits : Run (fun w event w' => Watched.Step w event w' ∧ w.endpoint.Unvisited event)
        (.start l) events w)
      (passing : w.endpoint.m_state = .PASS_THROUGH) (greets : Watched.Step w event w')
      (once : w'.handshakes = 1) (remote : StdioTunnelRemote.fresh.start write fcntl = .ok r) :
      Opened {
        ends := fun
          | .localSide => .localEnd w'.endpoint
          | .remoteSide => .remoteEnd r
        wires := fun
          | .localSide => ⟨[], w'.queued, [], []⟩
          | .remoteSide => .empty
        brought := fun _ _ => [] }

/-- The request can be announced in one `short` and in the length of a frame. -/
structure Fits (s : System) : Prop where
  few : (s.tunnel .localSide).m_connection_map.size ≤ 32767
  small : (Message.handshake (s.tunnel .localSide).connections).payload.length < 2 ^ 32

/-- The local endpoint after the request. -/
theorem greeted_passes {l : StdioTunnelLocal} {events : List Event} {w w' : Watched}
    {event : Event} (begun : Begun l)
    (waits : Run (fun w event w' => Watched.Step w event w' ∧ w.endpoint.Unvisited event)
      (.start l) events w)
    (passing : w.endpoint.m_state = .PASS_THROUGH) (greets : Watched.Step w event w')
    (once : w'.handshakes = 1) :
    ∃ d, StdioTunnelLocal.Passes l d 1 w'.endpoint ∧
      w'.queued = [(Message.handshake w'.endpoint.connections).payload] := by
  have kept := Watched.kept_run begun (waits.mono And.left)
  have silent := Watched.silent_run begun waits
  have made : w.endpoint.handshakes event = 1 := by
    rcases kept.stage with ⟨_, none, _⟩ | ⟨other, _⟩
    · rw [greets.handshakes, none, Nat.zero_add] at once
      exact once
    · rw [passing] at other
      rcases other with no | no <;> cases no
  have self : w.endpoint.Unvisited event := by
    intro _ conn socket listener
    rw [StdioTunnelLocal.handshakes, if_neg fun both => by rw [listener] at both; cases both.1]
      at made
    cases made
  obtain ⟨_, first⟩ := Watched.passes_run begun waits passing
  obtain ⟨d, second⟩ := greets.passes kept self silent passing
  rw [made] at second
  refine ⟨d, first.trans second, ?_⟩
  have frames := StdioTunnel.frames_of_emitting second.writer
  rw [greets.queued, silent.queued passing, second.connections, StdioTunnel.queued, frames,
    List.drop_left]
  rfl

/-- An endpoint that has opened no socket and holds no link. -/
theorem linkEnd_unused {t : StdioTunnel} (opened : t.os.opened = [])
    (linkless : ∀ x i, t.link? x i = none) (x : Int) (i : Short) :
    t.linkEnd x i = ⟨.absent, [], [], []⟩ := by
  have sockets : t.os.socketsOf x i = [] := by
    unfold Kernel.socketsOf
    rw [opened]
    rfl
  have input : t.os.input x i = [] := by
    unfold Kernel.input
    rw [sockets, List.flatMap_eq_nil_iff]
    intro call _
    cases call <;> rfl
  have output : t.os.output x i = [] := by
    unfold Kernel.output
    rw [sockets, List.flatMap_eq_nil_iff]
    intro call _
    cases call <;> rfl
  unfold StdioTunnel.linkEnd StdioTunnel.phase StdioTunnel.held
  rw [linkless, input, output]

/-- Nothing has happened to a link when no message was about it and no socket was opened. -/
theorem link_unused {s : System} {conn id : Short}
    (ends : ∀ side, (s.tunnel side).linkEnd conn.val id = ⟨.absent, [], [], []⟩)
    (opened : ∀ side, (s.tunnel side).os.opened = [])
    (silent : ∀ side, ∀ payload ∈ (s.wires side).sent,
      LinkMessage.decode conn id payload = none) : s.link conn id = .unused := by
  have halves : ∀ side, s.half side conn id = ⟨⟨.absent, [], [], []⟩, [], []⟩ := by
    intro side
    have sent : (s.wires side).sent.filterMap (LinkMessage.decode conn id) = [] :=
      List.filterMap_eq_nil_iff.mpr (silent side)
    have underWay : (s.wires side).underWay.filterMap (LinkMessage.decode conn id) = [] :=
      List.filterMap_eq_nil_iff.mpr fun payload member =>
        silent side payload (List.mem_of_mem_drop member)
    unfold half
    rw [ends, sent, underWay]
  unfold link
  rw [halves, halves, Kernel.socketsOf, opened]
  rfl

theorem waiting_sound : StdioTunnelRemote.waiting.Sound := by
  have stdin := Aside.addPolled ((StdioTunnel.fresh .remoteSide).armed STDOUT_FD) STDIN_FD POLLIN
  exact (stdin.trans (.addPolled _ STDOUT_FD .zero)).sound
    (StdioTunnel.fresh_armed_sound .remoteSide STDOUT_FD)

/-- At first no link has been used. -/
theorem Opened.link {s : System} (opened : s.Opened) (conn id : Short) :
    s.link conn id = .unused := by
  obtain ⟨begun, specs, read, written, waits, passing, greets, once, remote⟩ := opened
  rename_i l events w w' event r write fcntl
  obtain ⟨d, passes, queued⟩ := greeted_passes begun waits passing greets once
  have populated := (begun.populated specs).1.aside passes.aside
  obtain rfl := StdioTunnelRemote.start_waiting remote
  refine link_unused ?_ ?_ ?_
  · intro side
    cases side with
    | localSide => exact linkEnd_unused populated.opened populated.linkless conn.val id
    | remoteSide => exact linkEnd_unused rfl (fun _ _ => rfl) conn.val id
  · intro side
    cases side with
    | localSide => exact populated.opened
    | remoteSide => rfl
  · intro side x member
    cases side with
    | localSide =>
        change x ∈ w'.queued at member
        rw [queued] at member
        rw [List.mem_singleton.mp member]
        exact Message.decode_payload conn id (.handshake w'.endpoint.connections)
    | remoteSide => cases member

theorem Opened.inv {s : System} (opened : s.Opened) (fits : s.Fits) : s.Inv := by
  have link := opened.link
  obtain ⟨begun, specs, read, written, waits, passing, greets, once, remote⟩ := opened
  rename_i l events w w' event r write fcntl
  obtain ⟨d, passes, queued⟩ := greeted_passes begun waits passing greets once
  obtain ⟨populated₀, reader, parsed⟩ := begun.populated specs
  have populated := populated₀.aside passes.aside
  obtain rfl := StdioTunnelRemote.start_waiting remote
  let payload := (Message.handshake w'.endpoint.connections).payload
  have state : w'.endpoint.m_state = .HAND_SHAKE := passes.state
  have whole : ∀ x ∈ w'.queued, ∃ m : Message, x = m.payload := by
    intro x member
    rw [queued] at member
    exact ⟨_, List.mem_singleton.mp member⟩
  have intact : Pipeline.Intact
      { Pipeline.initial with
        writer := w'.endpoint.m_write_stream.toWriteStream
        sent := w'.queued } := by
    have fields : w'.endpoint.m_write_stream.m_queue = [] := populated.sound.ready.fields
    have packets : w'.endpoint.m_write_stream.m_packet_queue = [.padded payload] := by
      have before : l.frames = [] := begun.poised.frames
      have none : l.m_write_stream.m_packet_queue = [] := List.map_eq_nil_iff.mp before
      rw [passes.writer, passes.connections.symm]
      unfold CustomWriteStream.emitting
      rw [none]
      rfl
    have emits := @Pipeline.emits Pipeline.initial rfl [payload] fun x member => by
      rw [List.mem_singleton.mp member]
      exact ⟨Message.payload_ne_nil _, fits.small⟩
    have after := Pipeline.Intact.steps ⟨[], [], Pipeline.initial_inv⟩ emits
    have writer : w'.endpoint.m_write_stream.toWriteStream = ⟨[], [.padded payload]⟩ := by
      rw [← fields, ← packets]
    rw [writer, queued]
    exact after
  refine ⟨⟨_, _, rfl, rfl⟩, ?_, fun conn id => ?_, Or.inl ?_⟩
  · intro side
    cases side with
    | localSide =>
        refine ⟨populated.side, .localEnd (Or.inl state) ?_ ?_ ?_, populated.sound,
          populated.numbered, ?_, ?_, whole⟩
        · rw [passes.read_fd, passes.write_fd]
          exact begun.poised.pipes
        · rw [passes.read_fd]
          exact read
        · rw [passes.write_fd]
          exact written
        · exact intact
        · change w'.endpoint.m_read_stream.m_queue = []
          rw [passes.reader, reader]
          rfl
    | remoteSide =>
        refine ⟨rfl, .remoteEnd (Or.inl rfl), waiting_sound, fun _ _ _ _ _ no => (by cases no), ?_,
          rfl, fun _ no => (by cases no)⟩
        have quiet : Pipeline.Intact Pipeline.initial := ⟨[], [], Pipeline.initial_inv⟩
        have fresh : w'.endpoint.m_read_stream = .fresh := passes.reader.trans reader
        change Pipeline.Intact { Pipeline.initial with reader := w'.endpoint.m_read_stream }
        rw [fresh]
        exact quiet
  · rw [link]
    exact LinkState.unused_safe
  · refine ⟨fun r isRemote => ?_, fun _ => rfl, rfl, rfl, w'.endpoint.connections, [], queued,
      populated.lists fits.few parsed, fun _ no => (by cases no)⟩
    rw [← Endpoint.remoteEnd.inj isRemote]
    rfl

end System

end Tun01
