import Tun01.Tunnel.Local
import Tun01.Tunnel.Outcome
import Tun01.Tunnel.Remote

/-!
# The handshake

The local endpoint sends its connections in the order of their identifiers; the
remote endpoint creates each of them in the other role.
-/

namespace Tun01

open WriteStream (shortBytes)

/-! ## New connections -/

namespace StdioTunnel

variable {t t' : StdioTunnel}

theorem connection?_putConnection (t : StdioTunnel) (id : Int) (c : TunnelConnection) (x : Int) :
    (t.putConnection id c).connection? x = if id = x then some c else t.connection? x :=
  OrderedMap.find?_insert t.m_connection_map id c x

/-- No link of a connection that is not there is registered. -/
theorem Sound.unregistered_of_none (sound : t.Sound) {x : Int} (none : t.connection? x = none)
    (i : Short) (s : Nat) : t.registrations (.connectionLink x i s) = [] := by
  rcases (sound.links x i).registered s with empty | ⟨l, _, found, _⟩
  · exact empty
  · have known := connection?_of_link? found
    rw [none] at known
    cases known

theorem Sound.unlistened_of_none (sound : t.Sound) {x : Int} (none : t.connection? x = none)
    (s : Nat) : t.registrations (.listenSide x s) = [] := by
  cases records : t.registrations (.listenSide x s) with
  | nil => rfl
  | cons record rest =>
      obtain ⟨_, spec, n, bare⟩ := sound.listeners x s record (records ▸ List.mem_cons_self)
      unfold bare? at bare
      rw [none] at bare
      cases bare

/-- The endpoint has obtained listening sockets. -/
structure Opens (t t' : StdioTunnel) : Prop where
  same : t' = { t with os := t'.os }
  sound : t.os.Sound → t'.os.Sound
  opened : t'.os.opened = t.os.opened
  input : t.os.Sound → ∀ c i, t'.os.input c i = t.os.input c i
  output : t.os.Sound → ∀ c i, t'.os.output c i = t.os.output c i

theorem Opens.refl (t : StdioTunnel) : Opens t t :=
  ⟨rfl, fun sound => sound, rfl, fun _ _ _ => rfl, fun _ _ _ => rfl⟩

theorem Opens.listenSocket (t : StdioTunnel) (conn : Int) : Opens t (t.listenSocket conn) where
  same := rfl
  sound := fun sound => @Kernel.Sound.allocate _ (fun s => .listening s conn) sound fun _ => rfl
  opened := by
    refine (@Kernel.opened_allocate t.os (fun s => .listening s conn)).trans ?_
    exact List.append_nil _
  input := fun sound => @Kernel.input_allocate _ (fun s => .listening s conn) sound
    (fun _ => rfl) fun _ _ => rfl
  output := fun sound => @Kernel.output_allocate _ (fun s => .listening s conn) sound
    (fun _ => rfl) fun _ _ => rfl

/-- A connection as `CreateConnection` makes it of a specification. -/
structure Created (spec : ConnectionSpec) (listens : Bool) (id : Int) (c : TunnelConnection) :
    Prop where
  spec : c.m_spec = spec
  id : c.m_id = id
  links : c.m_link_map = .empty
  listens : c.role.listens = listens
  first : ∀ s n, c.role = .listenSide s n → n = 501

/-- What changes when a connection was created and stored, or failed to listen. -/
structure Installs (t t' : StdioTunnel) (id : Short) (spec : ConnectionSpec) (listens : Bool) :
    Prop where
  sound : t'.Sound
  looks : Looks t t'
  reader : t'.m_read_stream = t.m_read_stream
  opened : t'.os.opened = t.os.opened
  others : ∀ x, x ≠ id.val → t'.connection? x = t.connection? x
  own : (listens = true ∧ t'.connection? id.val = none) ∨
    ∃ c, t'.connection? id.val = some c ∧ Created spec listens id.val c

/-- A connection is stored, with the record of the poller it came with. -/
theorem Installs.put {id : Short} {spec : ConnectionSpec} {listens : Bool} {c : TunnelConnection}
    (sound : t.Sound) (fresh : t.connection? id.val = none)
    (created : Created spec listens id.val c) {f : Poller Polled → Poller Polled}
    (records : ∀ x, (f t.m_poller).registrations x = t.registrations x ∨
      ∃ s n, c.role = .listenSide s n ∧ x = .listenSide id.val s ∧
        ∀ record ∈ (f t.m_poller).registrations x, record ∈ t.registrations x ∨ record.fd = s) :
    Installs t ((t.mapPoller f).putConnection id.val c) id spec listens := by
  have connections : ∀ x, ((t.mapPoller f).putConnection id.val c).connection? x =
      if id.val = x then some c else t.connection? x :=
    fun x => connection?_putConnection (t.mapPoller f) id.val c x
  have links : ∀ x i, ((t.mapPoller f).putConnection id.val c).link? x i = t.link? x i := by
    intro x i
    unfold link?
    rw [connections]
    split
    · rename_i same
      rw [← same, fresh]
      change c.m_link_map.find? i = none
      rw [created.links]
      rfl
    · rfl
  have linkRecords : ∀ x i s, ((t.mapPoller f).putConnection id.val c).registrations
      (.connectionLink x i s) = t.registrations (.connectionLink x i s) := by
    intro x i s
    rcases records (.connectionLink x i s) with same | ⟨_, _, _, no, _⟩
    · exact same
    · cases no
  have oldListeners : ∀ x s r, r ∈ t.registrations (.listenSide x s) → r.fd = s ∧ ∃ spec n,
      ((t.mapPoller f).putConnection id.val c).bare? x = some (spec, x, .listenSide s n) := by
    intro x s r inOld
    have other : ¬ id.val = x := by
      rintro rfl
      rw [sound.unlistened_of_none fresh] at inOld
      cases inOld
    obtain ⟨fd, spec', n, bare⟩ := sound.listeners x s r inOld
    refine ⟨fd, spec', n, ?_⟩
    unfold bare?
    rw [connections, if_neg other]
    exact bare
  refine ⟨⟨⟨sound.ready.poller, sound.ready.fields⟩, sound.os, ?_, ?_, ?_⟩, ⟨rfl, rfl, ?_⟩, rfl,
    rfl, ?_, ?_⟩
  · intro x conn found
    rw [connections] at found
    split at found
    · rename_i same
      rw [← Option.some.inj found]
      exact ⟨created.id.trans same, id, same⟩
    · exact sound.keys x conn found
  · intro x s record member
    change record ∈ (f t.m_poller).registrations (.listenSide x s) at member
    rcases records (.listenSide x s) with kept | ⟨s', n, role, here, more⟩
    · rw [kept] at member
      exact oldListeners x s record member
    · obtain ⟨rfl, rfl⟩ := Polled.listenSide.inj here
      rcases more record member with before | fd
      · exact oldListeners _ _ record before
      · refine ⟨fd, c.m_spec, n, ?_⟩
        unfold bare?
        rw [connections, if_pos rfl, ← role, ← created.id]
        rfl
  · intro x i
    constructor
    · rw [links]
      exact (sound.links x i).link
    · rw [links]
      intro s
      rw [linkRecords]
      exact (sound.links x i).registered s
  · intro x i
    unfold linkEnd phase held
    rw [links]
    simp only [linkRecords]
    rfl
  · intro x other
    rw [connections, if_neg (Ne.symm other)]
  · exact Or.inr ⟨c, (connections id.val).trans (if_pos rfl), created⟩

/-- Listening sockets change nothing that is stored. -/
theorem Opens.keeps (opens : Opens t t') (sound : t.Sound) : t'.Sound ∧ Looks t t' := by
  have connections : ∀ x, t'.connection? x = t.connection? x := by
    intro x
    rw [opens.same]
    rfl
  have links : ∀ x i, t'.link? x i = t.link? x i := by
    intro x i
    rw [opens.same]
    rfl
  have records : ∀ x, t'.registrations x = t.registrations x := by
    intro x
    rw [opens.same]
    rfl
  have writer : t'.m_write_stream = t.m_write_stream := by rw [opens.same]
  refine ⟨⟨⟨?_, ?_⟩, opens.sound sound.os, ?_, ?_, ?_⟩, ?_, writer, ?_⟩
  · rw [writer]
    exact sound.ready.poller
  · rw [writer]
    exact sound.ready.fields
  · intro x c found
    rw [connections] at found
    exact sound.keys x c found
  · intro x s record member
    rw [records] at member
    unfold bare?
    rw [connections]
    exact sound.listeners x s record member
  · intro x i
    constructor
    · intro l found
      rw [links] at found
      have before := (sound.links x i).link l found
      unfold Kernel.socketsOf
      rw [opens.opened]
      exact before
    · intro s
      rw [records, links]
      exact (sound.links x i).registered s
  · rw [opens.same]
  · intro x i
    unfold linkEnd phase held
    rw [links]
    simp only [records]
    exact congrArg₂ (LinkEnd.mk _ _) (opens.input sound.os x i) (opens.output sound.os x i)

theorem Installs.after {id : Short} {spec : ConnectionSpec} {listens : Bool} {t₀ : StdioTunnel}
    (opens : Opens t t₀) (sound : t.Sound) (installs : Installs t₀ t' id spec listens) :
    Installs t t' id spec listens := by
  obtain ⟨_, looks⟩ := opens.keeps sound
  have connections : ∀ x, t₀.connection? x = t.connection? x := by
    intro x
    rw [opens.same]
    rfl
  refine ⟨installs.sound, ⟨installs.looks.side.trans looks.side,
    installs.looks.writer.trans looks.writer, fun x i =>
      (installs.looks.linkEnd x i).trans (looks.linkEnd x i)⟩, ?_,
    installs.opened.trans opens.opened, ?_, installs.own⟩
  · rw [installs.reader, opens.same]
  · intro x other
    rw [installs.others x other, connections]

/-- A listener that could not be set up is not stored. -/
theorem Installs.failed {id : Short} {spec : ConnectionSpec} (opens : Opens t t') (sound : t.Sound)
    (fresh : t.connection? id.val = none) : Installs t t' id spec true := by
  obtain ⟨sound', looks⟩ := opens.keeps sound
  have connections : ∀ x, t'.connection? x = t.connection? x := by
    intro x
    rw [opens.same]
    rfl
  refine ⟨sound', looks, ?_, opens.opened, fun x _ => connections x,
    Or.inl ⟨rfl, (connections id.val).trans fresh⟩⟩
  rw [opens.same]

def listensFor (is_local : Bool) (spec : ConnectionSpec) : Bool :=
  decide ((is_local = true ∧ spec.m_connection_type = .CONNECT) ∨
    (is_local = false ∧ spec.m_connection_type = .LISTEN))

/-- What the callers of `CreateConnection` do with its result. -/
def stored (id : Int) (t : StdioTunnel) : Option TunnelConnection → StdioTunnel
  | some c => t.putConnection id c
  | none => t

/-- `CreateConnection` and the insertion into the map. -/
theorem CreateConnection_installs {id : Short} {spec : ConnectionSpec} {is_local : Bool}
    {listen : ListenResult} {pConn : Option TunnelConnection} (sound : t.Sound)
    (fresh : t.connection? id.val = none)
    (result : t.CreateConnection spec is_local id.val listen = .ok (t', pConn)) :
    Installs t (stored id.val t' pConn) id spec (listensFor is_local spec) ∧
      (listen = .listening → pConn.isSome) := by
  unfold CreateConnection at result
  unfold listensFor
  split at result
  · rename_i listens
    rw [decide_eq_true listens]
    have opens := Opens.listenSocket t id.val
    cases listen with
    | noSocket =>
        obtain ⟨rfl, rfl⟩ := Prod.mk.inj (Except.ok.inj result)
        exact ⟨.failed (.refl t) sound fresh, fun no => by cases no⟩
    | bindFailed errno => cases result
    | fcntlFailed =>
        obtain ⟨rfl, rfl⟩ := Prod.mk.inj (Except.ok.inj result)
        exact ⟨.failed opens sound fresh, fun no => by cases no⟩
    | listenFailed =>
        obtain ⟨rfl, rfl⟩ := Prod.mk.inj (Except.ok.inj result)
        exact ⟨.failed opens sound fresh, fun no => by cases no⟩
    | listening =>
        obtain ⟨rfl, rfl⟩ := Prod.mk.inj (Except.ok.inj result)
        refine ⟨.after opens sound ?_, fun _ => rfl⟩
        have fresh' : (t.listenSocket id.val).connection? id.val = none := fresh
        refine Installs.put (opens.keeps sound).1 fresh'
          (c := ⟨spec, id.val, .empty, .listenSide t.os.next_socket 501⟩)
          ⟨rfl, rfl, rfl, rfl, fun s n same => (Role.listenSide.inj same).2.symm⟩
          (f := fun p => p.addPolled (.listenSide id.val t.os.next_socket) t.os.next_socket POLLIN)
          fun x => ?_
        rw [Poller.registrations_addPolled]
        split
        · rename_i here
          refine Or.inr ⟨t.os.next_socket, 501, rfl, here.symm, fun record member => ?_⟩
          rcases List.mem_append.mp member with old | new
          · exact Or.inl old
          · rw [List.mem_singleton.mp new]
            exact Or.inr rfl
        · exact Or.inl rfl
  · rename_i connects
    rw [decide_eq_false connects]
    obtain ⟨rfl, rfl⟩ := Prod.mk.inj (Except.ok.inj result)
    exact ⟨Installs.put sound fresh (f := fun p => p)
      ⟨rfl, rfl, rfl, rfl, fun s n same => by cases same⟩ fun x => Or.inl rfl, fun _ => rfl⟩

end StdioTunnel

/-! ## The remote endpoint -/

namespace StdioTunnelRemote

open StdioTunnel

variable {r r' : StdioTunnelRemote} {calls : Calls}

/-- The specification the remote endpoint uses; the socks5 server replaces host and port. -/
def Rewrites (spec spec' : ConnectionSpec) : Prop :=
  (spec.isSocks5 = false ∧ spec' = spec) ∨ (spec.isSocks5 = true ∧ ∃ port,
    spec' = { spec with m_connect_host := text "localhost", m_connect_port := port })

theorem setupSocks5_spec {spec spec' : ConnectionSpec}
    (result : r.setupSocks5 spec calls = .ok (r', spec')) :
    ∃ t server, r' = { r with toStdioTunnel := t, m_socks5_server := server } ∧
      r.toStdioTunnel.Beside t ∧ Rewrites spec spec' := by
  unfold setupSocks5 at result
  split at result
  · rename_i socks5
    split at result
    · cases result
    · split at result
      · cases result
      · cases result
      · cases result
      · obtain ⟨rfl, rfl⟩ := Prod.mk.inj (Except.ok.inj result)
        exact ⟨_, true, rfl, .addServer _ _, Or.inr ⟨socks5, _, rfl⟩⟩
  · rename_i plain
    obtain ⟨rfl, rfl⟩ := Prod.mk.inj (Except.ok.inj result)
    exact ⟨r.toStdioTunnel, r.m_socks5_server, rfl, .refl _,
      Or.inl ⟨eq_false_of_ne_true plain, rfl⟩⟩

/-- What became of a connection of the handshake. -/
def Accepts (t : StdioTunnel) (c : Short × ConnectionSpec) : Prop :=
  ∃ spec', Rewrites c.2.received spec' ∧
    ((listensFor false spec' = true ∧ t.connection? c.1.val = none) ∨
      ∃ conn, t.connection? c.1.val = some conn ∧
        Created spec' (listensFor false spec') c.1.val conn)

/-- What the remote endpoint does with the connections of a handshake. -/
structure Accepted (r r' : StdioTunnelRemote) (connections : List (Short × ConnectionSpec))
    (rest : List Byte) : Prop where
  sound : r'.Sound
  looks : Looks r.toStdioTunnel r'.toStdioTunnel
  reader : r'.m_read_stream = r.m_read_stream.withQueue rest
  opened : r'.os.opened = r.os.opened
  state : r'.m_state = r.m_state
  others : ∀ x, (∀ c ∈ connections, c.1.val ≠ x) → r'.connection? x = r.connection? x
  own : ∀ c ∈ connections, Accepts r'.toStdioTunnel c

def reading (r : StdioTunnelRemote) (queue : List Byte) : StdioTunnelRemote :=
  { r with toStdioTunnel := r.toStdioTunnel.reading queue }

/-- One connection is read and created. -/
theorem createConnections_succ (c : Short × ConnectionSpec) (i n : Nat) (rest : List Byte)
    (small : c.2.m_connect_host.length < 2 ^ 32) :
    (r.reading (Message.connection c ++ rest)).createConnections calls i (n + 1) = (do
      let (r, spec) ← (r.reading rest).setupSocks5 c.2.received calls
      let (t, pConn) ← r.toStdioTunnel.CreateConnection spec false c.1.val (calls.listen i)
      createConnections { r with toStdioTunnel := stored c.1.val t pConn } calls (i + 1) n) := by
  have id : (r.reading (Message.connection c ++ rest)).toStdioTunnel.readShort =
      .ok (c.1, (r.reading (c.2.bytes ++ rest)).toStdioTunnel) := by
    have read := readShort_reading r.toStdioTunnel c.1 (c.2.bytes ++ rest)
    rw [← List.append_assoc] at read
    exact read
  have spec : ConnectionSpec.deserialize (r.reading (c.2.bytes ++ rest)).m_read_stream =
      .ok (c.2.received, r.m_read_stream.withQueue rest) :=
    ConnectionSpec.deserialize_bytes c.2 r.m_read_stream small rest
  rw [createConnections, id, ok_bind]
  dsimp only
  rw [spec, ok_bind]
  rfl

/-- The loop over the connections of a handshake. -/
theorem createConnections_accepted {connections : List (Short × ConnectionSpec)} {i : Nat}
    {rest : List Byte} (sound : r.Sound) (distinct : (connections.map Prod.fst).Nodup)
    (fresh : ∀ c ∈ connections, r.connection? c.1.val = none)
    (small : ∀ c ∈ connections, c.2.m_connect_host.length < 2 ^ 32)
    (result : (r.reading (connections.flatMap Message.connection ++ rest)).createConnections calls i
      connections.length = .ok r') : Accepted r r' connections rest := by
  induction connections generalizing r i with
  | nil =>
      rw [← Except.ok.inj result]
      exact ⟨sound.reading rest, ⟨rfl, rfl, fun _ _ => rfl⟩, rfl, rfl, rfl, fun _ _ => rfl,
        fun _ member => by cases member⟩
  | cons c connections ih =>
      rw [List.flatMap_cons, List.append_assoc, List.length_cons,
        createConnections_succ c i _ _ (small c List.mem_cons_self)] at result
      obtain ⟨⟨r₁, spec⟩, server, result⟩ := of_bind_ok result
      obtain ⟨t₁, running, rfl, beside, rewrites⟩ := setupSocks5_spec server
      obtain ⟨⟨t₂, pConn⟩, creates, result⟩ := of_bind_ok result
      have sound₁ : t₁.Sound := beside.sound (sound.reading _)
      have fresh₁ : t₁.connection? c.1.val = none :=
        (beside.connection? c.1.val).trans (fresh c List.mem_cons_self)
      obtain ⟨installs, _⟩ := CreateConnection_installs sound₁ fresh₁ creates
      rw [List.map_cons, List.nodup_cons] at distinct
      have otherKey : ∀ c' ∈ connections, c'.1.val ≠ c.1.val := by
        intro c' member same
        refine distinct.1 (List.mem_map.mpr ⟨c', member, ?_⟩)
        exact Short.val_injective same
      -- the rest of the frame is still in the queue of the reader
      let r₂ : StdioTunnelRemote :=
        ⟨stored c.1.val t₂ pConn, r.m_state, running⟩
      have queue : r₂.reading (connections.flatMap Message.connection ++ rest) = r₂ := by
        have reader : r₂.m_read_stream = (r.m_read_stream.withQueue
            (connections.flatMap Message.connection ++ rest)) :=
          installs.reader.trans beside.reader
        have same : r₂.m_read_stream.withQueue
            (connections.flatMap Message.connection ++ rest) = r₂.m_read_stream := by
          rw [reader]
          rfl
        unfold reading StdioTunnel.reading
        rw [same]
      have later := ih (r := r₂) installs.sound distinct.2
        (fun c' member => by
          refine (installs.others _ (otherKey c' member)).trans ?_
          exact (beside.connection? _).trans (fresh c' (List.mem_cons_of_mem _ member)))
        (fun c' member => small c' (List.mem_cons_of_mem _ member))
        (by rw [queue]; exact result)
      refine ⟨later.sound, ?_, ?_, ?_, later.state, ?_, ?_⟩
      · refine ⟨later.looks.side.trans (installs.looks.side.trans beside.looks.side),
          later.looks.writer.trans (installs.looks.writer.trans beside.looks.writer), ?_⟩
        intro x i
        exact (later.looks.linkEnd x i).trans
          ((installs.looks.linkEnd x i).trans (beside.looks.linkEnd x i))
      · rw [later.reader]
        change (stored c.1.val t₂ pConn).m_read_stream.withQueue rest = _
        rw [installs.reader, beside.reader]
        rfl
      · refine later.opened.trans (installs.opened.trans ?_)
        rw [beside.os]
        rfl
      · intro x other
        refine (later.others x fun c' member => other c' (List.mem_cons_of_mem _ member)).trans ?_
        refine (installs.others x (other c List.mem_cons_self).symm).trans ?_
        exact beside.connection? x
      · intro c' member
        rcases List.mem_cons.mp member with rfl | inRest
        · have kept := later.others c'.1.val otherKey
          unfold Accepts
          rw [kept]
          exact ⟨spec, rewrites, installs.own⟩
        · exact later.own c' inRest

/-- The request of a handshake is read up to its connections; the number of them is a `short`. -/
theorem processFrame_counted (connections : List (Short × ConnectionSpec))
    (state : r.m_state = .HANDSHAKING) :
    (r.reading (Message.handshake connections).payload).processFrame calls = (do
      let r ← (r.reading (connections.flatMap Message.connection)).createConnections calls 0
        (Short.ofInt connections.length).val.toNat
      let t ← (r.toStdioTunnel.writeShort CMD_CREATE).send
      return { r with m_state := .CONNECTED, toStdioTunnel := t }) := by
  have command := readShort_reading r.toStdioTunnel CMD_CREATE
    (shortBytes (Short.ofInt connections.length) ++ connections.flatMap Message.connection)
  have count := readShort_reading r.toStdioTunnel (Short.ofInt connections.length)
    (connections.flatMap Message.connection)
  unfold processFrame reading
  dsimp only [Message.payload]
  rw [command, ok_bind]
  simp only [state, ne_eq, not_true_eq_false, ↓reduceIte]
  rw [count, ok_bind]

theorem processFrame_request {connections : List (Short × ConnectionSpec)}
    (state : r.m_state = .HANDSHAKING) (few : connections.length ≤ 32767) :
    (r.reading (Message.handshake connections).payload).processFrame calls = (do
      let r ← (r.reading (connections.flatMap Message.connection)).createConnections calls 0
        connections.length
      let t ← (r.toStdioTunnel.writeShort CMD_CREATE).send
      return { r with m_state := .CONNECTED, toStdioTunnel := t }) := by
  have length : (Short.ofInt connections.length).val.toNat = connections.length := by
    rw [Short.val_ofInt_of_range (by omega) (by omega)]
    rfl
  rw [processFrame_counted connections state, length]

/-- The reply is queued. -/
theorem send_agreed {t : StdioTunnel} (ready : t.Ready) :
    (t.writeShort CMD_CREATE).send = .ok (t.emit Message.agreed.payload) :=
  send_writeBytes ready (Message.payload_ne_nil .agreed)

/-- The request of a handshake: the connections are created and the reply is queued. -/
theorem processFrame_handshake {connections : List (Short × ConnectionSpec)} (sound : r.Sound)
    (state : r.m_state = .HANDSHAKING) (few : connections.length ≤ 32767)
    (distinct : (connections.map Prod.fst).Nodup)
    (fresh : ∀ c ∈ connections, r.connection? c.1.val = none)
    (small : ∀ c ∈ connections, c.2.m_connect_host.length < 2 ^ 32)
    (result : (r.reading (Message.handshake connections).payload).processFrame calls = .ok r') :
    ∃ r₁, Accepted r r₁ connections [] ∧
      r' = ⟨r₁.toStdioTunnel.emit Message.agreed.payload, .CONNECTED, r₁.m_socks5_server⟩ := by
  rw [processFrame_request state few] at result
  obtain ⟨r₁, created, result⟩ := of_bind_ok result
  have accepted := @createConnections_accepted _ _ _ _ 0 [] sound distinct fresh small
    (by rw [List.append_nil]; exact created)
  obtain ⟨t, sent, result⟩ := of_bind_ok result
  rw [send_agreed accepted.sound.ready] at sent
  refine ⟨r₁, accepted, ?_⟩
  rw [← Except.ok.inj result, ← Except.ok.inj sent]

end StdioTunnelRemote

/-! ## The local endpoint -/

namespace StdioTunnel

variable {t : StdioTunnel}

def connections (t : StdioTunnel) : List (Short × ConnectionSpec) :=
  t.m_connection_map.entries.map fun entry => (Short.ofInt entry.2.m_id, entry.2.m_spec)

theorem foldl_writeConnection (conns : List TunnelConnection) (t : StdioTunnel) :
    conns.foldl StdioTunnelLocal.writeConnection t =
      t.writeBytes ((conns.map fun c => (Short.ofInt c.m_id, c.m_spec)).flatMap
        Message.connection) := by
  induction conns generalizing t with
  | nil =>
      unfold writeBytes mapWriter WriteStream.writeBytes
      simp
  | cons c rest ih =>
      have one : StdioTunnelLocal.writeConnection t c =
          t.writeBytes (Message.connection (Short.ofInt c.m_id, c.m_spec)) := by
        unfold StdioTunnelLocal.writeConnection Message.connection
        rw [writeShort_eq, ← writeBytes_writeBytes]
        unfold mapWriter
        dsimp only
        rw [ConnectionSpec.serialize_eq]
        rfl
      rw [List.foldl_cons, ih, one, writeBytes_writeBytes, List.map_cons, List.flatMap_cons]

/-- The request of a handshake is one frame. -/
theorem send_handshake (ready : t.Ready) :
    (((t.m_connection_map.entries.map Prod.snd).foldl StdioTunnelLocal.writeConnection
      ((t.writeShort CMD_CREATE).writeShort (Short.ofInt t.m_connection_map.size))).send) =
      .ok (t.emit (Message.handshake t.connections).payload) := by
  have length : t.connections.length = t.m_connection_map.size := List.length_map _
  have listed : ((t.m_connection_map.entries.map Prod.snd).map fun c : TunnelConnection =>
      (Short.ofInt c.m_id, c.m_spec)) = t.connections := by
    rw [List.map_map]
    rfl
  rw [foldl_writeConnection, listed, writeShort_eq, writeShort_eq, writeBytes_writeBytes,
    writeBytes_writeBytes, ← length]
  exact send_writeBytes ready (Message.payload_ne_nil (.handshake t.connections))

end StdioTunnel

namespace StdioTunnelLocal

variable {l l' : StdioTunnelLocal} {calls : Calls}

/-- The endpoint after it has sent the request. -/
def greeting (l : StdioTunnelLocal) : StdioTunnelLocal :=
  { l with
    m_state := .HAND_SHAKE
    m_write_buffer := l.m_write_buffer.clear
    toStdioTunnel := (l.toStdioTunnel.emit (Message.handshake l.connections).payload).removePolled
      .stdioTunnel STDIN_FD }

theorem startHandshaking_greeting (ready : l.Ready)
    (result : l.startHandshaking calls = .ok l') : l' = l.greeting := by
  have sent := StdioTunnel.send_handshake ready
  unfold startHandshaking at result
  dsimp only at result
  rw [sent, ok_bind] at result
  split at result
  · split at result
    · cases result
    · exact (Except.ok.inj result).symm
  · exact (Except.ok.inj result).symm

end StdioTunnelLocal

end Tun01
