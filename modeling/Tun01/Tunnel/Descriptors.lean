import Tun01.Lib.Ledger
import Tun01.Tunnel.LiveLinks
import Tun01.Tunnel.Opening

/-!
# Descriptors

Every socket is obtained once, and no call is made on a socket that was closed.
Links that are not closing and listeners hold sockets that are still open.
-/

namespace Tun01

/-! ## Calls in order -/

namespace Syscall

def closes : Syscall → Bool
  | closed _ => true
  | opened _ _ _ | listening _ _ | received _ _ | sent _ _ => false

def obtains : Syscall → Option Nat
  | opened s _ _ | listening s _ => some s
  | received _ _ | sent _ _ | closed _ => none

theorem socket_of_obtains {call : Syscall} {s : Nat} (obtained : call.obtains = some s) :
    call.socket = s := by
  cases call with
  | opened _ _ _ | listening _ _ => exact Option.some.inj obtained
  | received _ _ | sent _ _ | closed _ => cases obtained

end Syscall

namespace Kernel

variable {os : Kernel} {s : Nat} {call : Syscall}

/-- A socket was closed. -/
def Closed (os : Kernel) (s : Nat) : Prop :=
  Ledger.Released Syscall.socket Syscall.closes os.trace s

/-- No call is made on a socket that was closed; in particular it is closed once. -/
def Sealed (os : Kernel) : Prop := Ledger.Sealed Syscall.socket Syscall.closes os.trace

/-- Sockets are obtained once, in order, and not used after they were closed. -/
structure Orderly (os : Kernel) : Prop where
  used : ∀ call ∈ os.trace, call.socket < os.next_socket
  distinct : Ledger.Distinct Syscall.obtains os.trace
  done : os.Sealed

theorem Orderly.closed_lt (orderly : os.Orderly) (closed : os.Closed s) : s < os.next_socket := by
  obtain ⟨call, member, _, same⟩ := closed
  rw [← same]
  exact orderly.used call member

theorem Orderly.next_open (orderly : os.Orderly) : ¬ os.Closed os.next_socket :=
  fun closed => Nat.lt_irrefl _ (orderly.closed_lt closed)

theorem closed_record :
    (os.record call).Closed s ↔ os.Closed s ∨ (call.closes = true ∧ call.socket = s) := by
  unfold Closed record
  rw [Ledger.released_append, Ledger.released_single]

theorem closed_allocate {call : Nat → Syscall} (keeps : ∀ s, (call s).closes = false) :
    (os.allocate call).Closed s ↔ os.Closed s := by
  have same := @closed_record os s (call os.next_socket)
  rw [keeps] at same
  constructor
  · intro closed
    rcases same.mp closed with before | ⟨no, _⟩
    · exact before
    · cases no
  · exact fun closed => same.mpr (Or.inl closed)

/-- A call on a socket that is open. -/
theorem Orderly.record (orderly : os.Orderly) (obtained : call.obtains = none)
    (below : call.socket < os.next_socket) (up : ¬ os.Closed call.socket) :
    (os.record call).Orderly where
  used := by
    intro other member
    rcases List.mem_append.mp member with old | new
    · exact orderly.used other old
    · rw [List.mem_singleton.mp new]
      exact below
  distinct := orderly.distinct.snoc fun k acquired => by
    rw [obtained] at acquired
    cases acquired
  done := orderly.done.snoc up

/-- A new socket. -/
theorem Orderly.allocate (orderly : os.Orderly) {call : Nat → Syscall}
    (obtained : ∀ s, (call s).obtains = some s) : (os.allocate call).Orderly where
  used := by
    intro other member
    rcases List.mem_append.mp member with old | new
    · exact Nat.lt_succ_of_lt (orderly.used other old)
    · rw [List.mem_singleton.mp new, Syscall.socket_of_obtains (obtained _)]
      exact Nat.lt_succ_self _
  distinct := orderly.distinct.snoc fun k acquired member => by
    rw [obtained] at acquired
    obtain ⟨earlier, inTrace, same⟩ := List.mem_filterMap.mp member
    have below := orderly.used earlier inTrace
    rw [Syscall.socket_of_obtains same, Option.some.inj acquired] at below
    exact Nat.lt_irrefl _ below
  done := orderly.done.snoc (by
    rw [Syscall.socket_of_obtains (obtained _)]
    exact orderly.next_open)

/-- A socket belongs to one link or listener. -/
theorem Orderly.owner (orderly : os.Orderly) {first second : Syscall} (inFirst : first ∈ os.trace)
    (inSecond : second ∈ os.trace) (obtained : first.obtains = some s)
    (again : second.obtains = some s) : first = second :=
  orderly.distinct.unique inFirst inSecond obtained again

end Kernel

namespace StdioTunnel

variable {t t' : StdioTunnel}

/-- Links and listeners hold open sockets of their own, and the poller points to them. -/
structure Holds (t : StdioTunnel) : Prop extends t.Live where
  orderly : t.os.Orderly
  links : ∀ x i l, t.link? x i = some l → .opened l.m_socket x i ∈ t.os.trace ∧
    (l.m_closing = false → ¬ t.os.Closed l.m_socket)
  listeners : ∀ x s, t.listenSocket? x = some s → .listening s x ∈ t.os.trace ∧ ¬ t.os.Closed s
  pointers : ∀ x s, t.registrations (.listenSide x s) = [] ∨
    ∃ record, t.registrations (.listenSide x s) = [record] ∧ record.fd = s ∧
      t.listenSocket? x = some s

/-- The sockets, the connections and the records for them are the same. -/
theorem Holds.same (holds : t.Holds) (os : t'.os = t.os)
    (connections : ∀ x, t'.connection? x = t.connection? x)
    (records : ∀ x, x ≠ .stdioTunnel → x ≠ .socks5Server →
      t'.registrations x = t.registrations x) : t'.Holds := by
  have links : ∀ x i, t'.link? x i = t.link? x i := by
    intro x i
    unfold link?
    rw [connections]
  have listens : ∀ x, t'.listenSocket? x = t.listenSocket? x := listenSocket?_of_bare fun x => by
    unfold bare?
    rw [connections]
  refine ⟨⟨?_, ?_⟩, ?_, ?_, ?_, ?_⟩
  · intro x i l found
    rw [links] at found
    rw [os]
    exact holds.sockets x i l found
  · intro x i s
    rw [records (.connectionLink x i s) nofun nofun, links]
    exact holds.registered x i s
  · rw [os]
    exact holds.orderly
  · intro x i l found
    rw [links] at found
    rw [os]
    exact holds.links x i l found
  · intro x s socket
    rw [listens] at socket
    rw [os]
    exact holds.listeners x s socket
  · intro x s
    rw [records (.listenSide x s) nofun nofun, listens]
    exact holds.pointers x s

theorem Holds.aside (holds : t.Holds) (aside : Aside t t') : t'.Holds :=
  holds.same aside.os aside.connection? fun x other _ => aside.records x other

theorem Holds.beside (holds : t.Holds) (beside : t.Beside t') : t'.Holds :=
  holds.same beside.os beside.connection? beside.others

/-- A registered link is stored and its socket is open. -/
theorem Holds.link (holds : t.Holds) {x : Int} {i : Short} {s : Nat} {record : Pollfd}
    (registered : record ∈ t.registrations (.connectionLink x i s)) :
    ∃ l, t.link? x i = some l ∧ l.m_socket = s ∧ l.m_closing = false ∧ ¬ t.os.Closed s := by
  rcases holds.registered x i s with none | ⟨_, l, _, _, found, rfl, up⟩
  · rw [none] at registered
    cases registered
  · exact ⟨l, found, rfl, up, (holds.links x i l found).2 up⟩

/-- A registered listener is stored and its socket is open. -/
theorem Holds.listener (holds : t.Holds) {x : Int} {s : Nat} {record : Pollfd}
    (registered : record ∈ t.registrations (.listenSide x s)) :
    t.listenSocket? x = some s ∧ ¬ t.os.Closed s := by
  rcases holds.pointers x s with none | ⟨_, _, _, listens⟩
  · rw [none] at registered
    cases registered
  · exact ⟨listens, (holds.listeners x s listens).2⟩

/-! ### New connections -/

theorem fresh_holds (side : Side) : (fresh side).Holds where
  toLive := Operation.keeps_live.linkless (fresh_linkless side)
  orderly := ⟨fun _ member => (by cases member), List.nodup_nil, List.Pairwise.nil⟩
  links := fun _ _ _ found => by cases found
  listeners := fun _ _ listens => by cases listens
  pointers := fun _ _ => Or.inl rfl

/-- A socket that is listening and belongs to no connection yet. -/
theorem Holds.listenSocket (holds : t.Holds) (conn : Int) : (t.listenSocket conn).Holds := by
  have closed : ∀ {s}, (t.listenSocket conn).os.Closed s → t.os.Closed s :=
    fun shut => (@Kernel.closed_allocate t.os _ (fun s => .listening s conn) fun _ => rfl).mp shut
  refine ⟨⟨fun x i l found => ?_, holds.registered⟩, ?_, ?_, ?_, holds.pointers⟩
  · exact Nat.lt_succ_of_lt (holds.sockets x i l found)
  · exact @Kernel.Orderly.allocate _ holds.orderly (fun s => .listening s conn) fun _ => rfl
  · intro x i l found
    obtain ⟨inTrace, up⟩ := holds.links x i l found
    exact ⟨List.mem_append_left _ inTrace, fun isUp shut => up isUp (closed shut)⟩
  · intro x s listens
    obtain ⟨inTrace, up⟩ := holds.listeners x s listens
    exact ⟨List.mem_append_left _ inTrace, fun shut => up (closed shut)⟩

/-- The links and the listeners of the other connections, where a connection is new. -/
structure Adds (t t' : StdioTunnel) (id : Int) (c : TunnelConnection) : Prop where
  fresh : t.connection? id = none
  links : c.m_link_map = .empty
  connections : ∀ x, t'.connection? x = if id = x then some c else t.connection? x

theorem Adds.link? {id : Int} {c : TunnelConnection} (adds : Adds t t' id c) (x : Int) (i : Short) : t'.link? x i = t.link? x i := by
  unfold StdioTunnel.link?
  rw [adds.connections]
  split
  · rename_i same
    rw [← same, adds.fresh, Option.bind_some, adds.links]
    rfl
  · rfl

theorem Adds.listenSocket? {id : Int} {c : TunnelConnection} (adds : Adds t t' id c) (x : Int) :
    t'.listenSocket? x = if id = x then c.role.socket? else t.listenSocket? x := by
  unfold StdioTunnel.listenSocket? bare?
  rw [adds.connections]
  split <;> rfl

/-- A connection without a listener. -/
theorem Holds.connecting (holds : t.Holds) {id : Int} {c : TunnelConnection}
    (fresh : t.connection? id = none) (links : c.m_link_map = .empty)
    (role : c.role = .connectSide) : (t.putConnection id c).Holds := by
  have adds : Adds t (t.putConnection id c) id c :=
    ⟨fresh, links, connection?_putConnection t id c⟩
  have listens : ∀ x, (t.putConnection id c).listenSocket? x = t.listenSocket? x := by
    intro x
    rw [adds.listenSocket?]
    split
    · rename_i same
      unfold StdioTunnel.listenSocket? bare?
      rw [← same, fresh, role]
      rfl
    · rfl
  refine ⟨⟨?_, ?_⟩, holds.orderly, ?_, ?_, ?_⟩
  · intro x i l found
    rw [adds.link?] at found
    exact holds.sockets x i l found
  · intro x i s
    rw [adds.link?]
    exact holds.registered x i s
  · intro x i l found
    rw [adds.link?] at found
    exact holds.links x i l found
  · intro x s socket
    rw [listens] at socket
    exact holds.listeners x s socket
  · intro x s
    rw [listens]
    exact holds.pointers x s

/-- A connection with a listener, whose socket is new. -/
theorem Holds.listens (holds : t.Holds) {id : Int} {c : TunnelConnection} {n : Int}
    (fresh : t.connection? id = none) (links : c.m_link_map = .empty)
    (role : c.role = .listenSide t.os.next_socket n) :
    (((t.listenSocket id).addPolled (.listenSide id t.os.next_socket) t.os.next_socket
      POLLIN).putConnection id c).Holds := by
  have listening := holds.listenSocket id
  have adds : Adds t (((t.listenSocket id).addPolled (.listenSide id t.os.next_socket)
      t.os.next_socket POLLIN).putConnection id c) id c :=
    ⟨fresh, links, connection?_putConnection _ id c⟩
  have records : ∀ y, (((t.listenSocket id).addPolled (.listenSide id t.os.next_socket)
      t.os.next_socket POLLIN).putConnection id c).registrations y =
        if .listenSide id t.os.next_socket = y then
          t.registrations y ++ [⟨t.os.next_socket, POLLIN, .zero⟩]
        else t.registrations y :=
    fun y => Poller.registrations_addPolled t.m_poller _ _ _ y
  refine ⟨⟨?_, ?_⟩, listening.orderly, ?_, ?_, ?_⟩
  · intro x i l found
    rw [adds.link?] at found
    exact listening.sockets x i l found
  · intro x i s
    rw [adds.link?, records, if_neg nofun]
    exact holds.registered x i s
  · intro x i l found
    rw [adds.link?] at found
    exact listening.links x i l found
  · intro x s socket
    rw [adds.listenSocket?] at socket
    split at socket
    · rename_i same
      rw [role] at socket
      rw [← same, ← Option.some.inj socket]
      refine ⟨List.mem_append_right _ (List.mem_singleton_self _), fun shut => ?_⟩
      exact holds.orderly.next_open
        ((@Kernel.closed_allocate t.os _ (fun s => .listening s id) fun _ => rfl).mp shut)
    · exact listening.listeners x s socket
  · intro x s
    rw [adds.listenSocket?, records]
    by_cases same : id = x
    · have none : ∀ s, t.registrations (.listenSide x s) = [] := by
        intro s
        rcases holds.pointers x s with empty | ⟨_, _, _, socket⟩
        · exact empty
        · unfold StdioTunnel.listenSocket? bare? at socket
          rw [← same, fresh] at socket
          cases socket
      rw [if_pos same, role]
      by_cases here : t.os.next_socket = s
      · rw [if_pos (by rw [same, here]), none]
        exact Or.inr ⟨_, rfl, congrArg Int.ofNat here, congrArg some here⟩
      · rw [if_neg fun no => here (Polled.listenSide.inj no).2, none]
        exact Or.inl rfl
    · rw [if_neg same, if_neg fun no => same (Polled.listenSide.inj no).1]
      exact holds.pointers x s

/-- `CreateConnection` and the insertion into the map. -/
theorem Holds.created (holds : t.Holds) {spec : ConnectionSpec} {is_local : Bool} {id : Int}
    {listen : ListenResult} {pConn : Option TunnelConnection} (fresh : t.connection? id = none)
    (result : t.CreateConnection spec is_local id listen = .ok (t', pConn)) :
    (stored id t' pConn).Holds ∧
      ∀ x, x ≠ id → (stored id t' pConn).connection? x = t.connection? x := by
  have others : ∀ (t : StdioTunnel) (c : TunnelConnection) (x : Int), x ≠ id →
      (t.putConnection id c).connection? x = t.connection? x := by
    intro t c x other
    rw [connection?_putConnection, if_neg other.symm]
  unfold CreateConnection at result
  split at result
  · cases listen with
    | noSocket =>
        obtain ⟨rfl, rfl⟩ := Prod.mk.inj (Except.ok.inj result)
        exact ⟨holds, fun _ _ => rfl⟩
    | bindFailed errno => cases result
    | fcntlFailed | listenFailed =>
        obtain ⟨rfl, rfl⟩ := Prod.mk.inj (Except.ok.inj result)
        exact ⟨holds.listenSocket id, fun _ _ => rfl⟩
    | listening =>
        obtain ⟨rfl, rfl⟩ := Prod.mk.inj (Except.ok.inj result)
        exact ⟨holds.listens fresh rfl rfl, fun x other => others _ _ x other⟩
  · obtain ⟨rfl, rfl⟩ := Prod.mk.inj (Except.ok.inj result)
    exact ⟨holds.connecting fresh rfl rfl, others t _⟩

end StdioTunnel

/-! ## Endpoints that start -/

/-- The connections of the local endpoint, as long as their identifiers do not repeat. -/
theorem StdioTunnelLocal.createConnections_holds {l l' : StdioTunnelLocal} {calls : Calls}
    {specs : List ConnectionSpec} {g_id : Short} {i done : Nat} (holds : l.Holds)
    (few : done + specs.length ≤ 65536) (number : g_id = Short.ofInt done)
    (earlier : ∀ x, l.connection? x ≠ none → ∃ k, k < done ∧ x = (Short.ofInt (k : Nat)).val)
    (result : l.createConnections calls g_id i specs = .ok l') : l'.Holds := by
  induction specs generalizing l g_id i done with
  | nil =>
      rw [← Except.ok.inj result]
      exact holds
  | cons spec specs ih =>
      rw [List.length_cons] at few
      unfold createConnections at result
      obtain ⟨⟨t, pConn⟩, creates, result⟩ := of_bind_ok result
      have fresh : l.toStdioTunnel.connection? g_id.val = none := by
        by_contra known
        obtain ⟨k, below, same⟩ := earlier _ known
        rw [number] at same
        have equal := (Short.ofInt_eq_iff _ _).mp (Short.ext same)
        omega
      obtain ⟨stores, others⟩ := StdioTunnel.Holds.created holds fresh creates
      have number' : Short.ofInt (g_id.val + 1) = Short.ofInt (done + 1 : Nat) := by
        rw [number, Short.ofInt_eq_iff, Short.val_ofInt]
        push_cast
        omega
      have later : ∀ x, (StdioTunnel.stored g_id.val t pConn).connection? x ≠ none →
          ∃ k, k < done + 1 ∧ x = (Short.ofInt (k : Nat)).val := by
        intro x known
        by_cases own : x = g_id.val
        · exact ⟨done, Nat.lt_succ_self _, by rw [own, number]⟩
        · rw [others x own] at known
          obtain ⟨k, below, same⟩ := earlier x known
          exact ⟨k, Nat.lt_succ_of_lt below, same⟩
      have rest := @ih { l with toStdioTunnel := StdioTunnel.stored g_id.val t pConn }
        (Short.ofInt (g_id.val + 1)) (i + 1) (done + 1) stores (by omega) number' later
      cases pConn with
      | none => exact rest result
      | some c =>
          dsimp only at result
          rw [StdioTunnel.CreateConnection_id creates] at result
          exact rest result

/-- The connections of a handshake, as long as their identifiers do not repeat. -/
theorem StdioTunnelRemote.createConnections_holds {r r' : StdioTunnelRemote} {calls : Calls}
    {connections : List (Short × ConnectionSpec)} {i : Nat} {rest : List Byte} (holds : r.Holds)
    (distinct : (connections.map Prod.fst).Nodup)
    (fresh : ∀ c ∈ connections, r.connection? c.1.val = none)
    (small : ∀ c ∈ connections, c.2.m_connect_host.length < 2 ^ 32)
    (result : (r.reading (connections.flatMap Message.connection ++ rest)).createConnections calls i
      connections.length = .ok r') : r'.Holds := by
  induction connections generalizing r i with
  | nil =>
      rw [← Except.ok.inj result]
      exact holds.aside (.withReader _ _)
  | cons c connections ih =>
      rw [List.flatMap_cons, List.append_assoc, List.length_cons,
        createConnections_succ c i _ _ (small c List.mem_cons_self)] at result
      obtain ⟨⟨r₁, spec⟩, server, result⟩ := of_bind_ok result
      obtain ⟨t₁, running, rfl, beside, _⟩ := setupSocks5_spec server
      obtain ⟨⟨t₂, pConn⟩, creates, result⟩ := of_bind_ok result
      have holds₁ : t₁.Holds := (holds.aside (.withReader _ _)).beside beside
      have fresh₁ : t₁.connection? c.1.val = none :=
        (beside.connection? c.1.val).trans (fresh c List.mem_cons_self)
      obtain ⟨stores, others⟩ := holds₁.created fresh₁ creates
      obtain ⟨_, reader, _⟩ := StdioTunnel.CreateConnection_streams creates
      rw [List.map_cons, List.nodup_cons] at distinct
      -- the rest of the frame is still in the queue of the reader
      let r₂ : StdioTunnelRemote := ⟨StdioTunnel.stored c.1.val t₂ pConn, r.m_state, running⟩
      have queue : r₂.reading (connections.flatMap Message.connection ++ rest) = r₂ := by
        have kept : r₂.m_read_stream = r.m_read_stream.withQueue
            (connections.flatMap Message.connection ++ rest) := by
          refine Eq.trans ?_ (reader.trans beside.reader)
          cases pConn <;> rfl
        have same : r₂.m_read_stream.withQueue
            (connections.flatMap Message.connection ++ rest) = r₂.m_read_stream := by
          rw [kept]
          rfl
        unfold reading StdioTunnel.reading
        rw [same]
      refine @ih r₂ (i + 1) stores distinct.2 (fun c' member => ?_)
        (fun c' member => small c' (List.mem_cons_of_mem _ member)) (by rw [queue]; exact result)
      have otherKey : c'.1.val ≠ c.1.val := by
        intro same
        exact distinct.1 (List.mem_map.mpr ⟨c', member, Short.val_injective same⟩)
      exact (others _ otherKey).trans
        ((beside.connection? _).trans (fresh c' (List.mem_cons_of_mem _ member)))

namespace Endpoint

/-- The identifiers of the connections do not repeat. -/
def ConnectionsFit : Endpoint → Prop
  | localEnd l => l.m_connection_specs.length ≤ 65536
  | remoteEnd _ => True

theorem armed_holds {t : StdioTunnel} (holds : t.Holds) (fd : Int) : (t.armed fd).Holds :=
  holds.same rfl (fun _ => rfl) fun _ _ _ => rfl

theorem Started.holds {e : Endpoint} (started : e.Started) (fits : e.ConnectionsFit) :
    e.tunnel.Holds := by
  have add : ∀ {t : StdioTunnel} (fd : Int) (events : PollEvents), t.Holds →
      (t.addPolled .stdioTunnel fd events).Holds :=
    fun fd events holds => holds.aside (.addPolled _ fd events)
  cases started with
  | @localEnd _ _ l _ read_fd write_fd _ configured start =>
      have configures := StdioTunnelLocal.configure_configures configured
      obtain ⟨l₁, creates, connects, rfl⟩ := StdioTunnelLocal.start_started configures.state start
      have base : l.toStdioTunnel = .fresh .localSide := configures.base
      have few : l.m_connection_specs.length ≤ 65536 := by
        change l₁.m_connection_specs.length ≤ 65536 at fits
        rw [connects.same] at fits
        exact fits
      have initially : l.toStdioTunnel.Holds := by
        rw [base]
        exact StdioTunnel.fresh_holds .localSide
      have created := @StdioTunnelLocal.createConnections_holds
        { l with m_read_fd := read_fd, m_write_fd := write_fd } _ _ _ _ 0 0 initially (by omega) rfl
        (fun x known => by
          change l.toStdioTunnel.connection? x ≠ none at known
          rw [base] at known
          exact absurd rfl known) creates
      exact add _ _ (add _ _ (add _ _ (add _ _ (armed_holds created write_fd))))
  | remoteEnd start =>
      obtain rfl := StdioTunnelRemote.start_waiting start
      have initially := StdioTunnel.fresh_holds .remoteSide
      exact add _ _ (add _ _ (armed_holds initially STDOUT_FD))

end Endpoint

/-! ## Operations -/

namespace Operation

open StdioTunnel

variable {t t' : StdioTunnel} {op : Operation}

/-- Calls are made for links that are not closing, and no link is written over. -/
def Careful (t : StdioTunnel) : Operation → Prop
  | received _ l _ | written _ l _ _ => l.m_closing = false
  | establish conn l | refuse conn l =>
      t.Unregistered conn.val l.m_id ∧ l.m_closing = false
  | accept conn _ _ n => t.link? conn.val (Short.ofInt n) = none
  | connect conn id => t.link? conn.val id = none
  | emit _ | acknowledge _ _ _ | push _ _ _ | close _ _ | erase _ _ | attempt _ _ => True

theorem Careful.sparesLive (careful : op.Careful t) : op.SparesLive t := by
  have unregistered : ∀ {conn : Short} {id : Short}, t.link? conn.val id = none →
      t.Unregistered conn.val id := by
    intro conn id none l found
    rw [none] at found
    cases found
  cases op with
  | emit _ | received _ _ _ | acknowledge _ _ _ | push _ _ _ | written _ _ _ _ | close _ _
  | erase _ _ | attempt _ _ => trivial
  | establish _ _ => exact careful
  | refuse _ _ => exact careful.1
  | accept _ _ _ _ | connect _ _ => exact unregistered careful

/-- The sockets after an operation. -/
def kernel (os : Kernel) : Operation → Kernel
  | emit _ | acknowledge _ _ _ | push _ _ _ | erase _ _ | establish _ _ => os
  | received _ l bytes => os.record (.received l.m_socket bytes)
  | written _ l _ bytes => os.record (.sent l.m_socket bytes)
  | close _ l | refuse _ l => os.record (.closed l.m_socket)
  | accept conn _ _ n => os.allocate fun s => .opened s conn.val (Short.ofInt n)
  | attempt conn id =>
      (os.allocate fun s => .opened s conn.val id).record (.closed os.next_socket)
  | connect conn id => os.allocate fun s => .opened s conn.val id

theorem os_apply (op : Operation) (t : StdioTunnel) : (op.apply t).os = op.kernel t.os := by
  cases op with
  | emit _ | push _ _ _ | erase _ _ | establish _ _ | received _ _ _ | close _ _ | refuse _ _
  | accept _ _ _ _ | attempt _ _ | connect _ _ => rfl
  | acknowledge _ _ _ | written _ _ _ _ =>
      unfold apply
      dsimp only
      split <;> rfl

/-- The socket an operation closes. -/
def shuts (t : StdioTunnel) : Operation → Option Nat
  | close _ l | refuse _ l => some l.m_socket
  | attempt _ _ => some t.os.next_socket
  | emit _ | received _ _ _ | acknowledge _ _ _ | push _ _ _ | written _ _ _ _ | erase _ _
  | establish _ _ | accept _ _ _ _ | connect _ _ => none

theorem closed_apply {s : Nat} (closed : (op.apply t).os.Closed s) :
    t.os.Closed s ∨ op.shuts t = some s := by
  rw [os_apply] at closed
  cases op with
  | emit _ | push _ _ _ | erase _ _ | establish _ _ | acknowledge _ _ _ => exact Or.inl closed
  | received _ _ _ | written _ _ _ _ =>
      rcases Kernel.closed_record.mp closed with before | ⟨no, _⟩
      · exact Or.inl before
      · cases no
  | close _ _ | refuse _ _ =>
      exact (Kernel.closed_record.mp closed).imp_right fun shut => congrArg some shut.2
  | accept _ _ _ _ | connect _ _ =>
      exact Or.inl ((Kernel.closed_allocate fun _ => rfl).mp closed)
  | attempt conn id =>
      rcases Kernel.closed_record.mp closed with before | ⟨_, same⟩
      · exact Or.inl ((Kernel.closed_allocate fun _ => rfl).mp before)
      · exact Or.inr (congrArg some same)

/-- A stored link that is not closing has an open socket. -/
theorem stored_open (holds : t.Holds) {conn : Short} {l : ConnectionLink} (stores : t.Stores conn l)
    (up : l.m_closing = false) : l.m_socket < t.os.next_socket ∧ ¬ t.os.Closed l.m_socket :=
  ⟨holds.sockets _ _ l stores, (holds.links _ _ l stores).2 up⟩

/-- Careful operations make their calls on open sockets. -/
theorem orderly_apply (valid : op.Valid t) (careful : op.Careful t) (holds : t.Holds) :
    (op.apply t).os.Orderly := by
  have orderly := holds.orderly
  rw [os_apply]
  cases op with
  | emit _ | push _ _ _ | erase _ _ | establish _ _ | acknowledge _ _ _ => exact orderly
  | received conn l bytes =>
      obtain ⟨below, up⟩ := stored_open holds valid careful
      exact orderly.record rfl below up
  | written conn l buffer bytes =>
      obtain ⟨below, up⟩ := stored_open holds valid.1 careful
      exact orderly.record rfl below up
  | close conn l =>
      obtain ⟨below, up⟩ := stored_open holds valid.1 valid.2
      exact orderly.record rfl below up
  | refuse conn l =>
      obtain ⟨below, up⟩ := stored_open holds valid.1 careful.2
      exact orderly.record rfl below up
  | accept conn c socket n =>
      exact @Kernel.Orderly.allocate _ orderly (fun s => .opened s conn.val (Short.ofInt n)) fun _ => rfl
  | connect conn id => exact @Kernel.Orderly.allocate _ orderly (fun s => .opened s conn.val id) fun _ => rfl
  | attempt conn id =>
      refine (@Kernel.Orderly.allocate _ orderly (fun s => .opened s conn.val id) fun _ => rfl).record rfl
        (Nat.lt_succ_self _) fun closed => ?_
      exact orderly.next_open ((Kernel.closed_allocate fun _ => rfl).mp closed)

theorem mem_trace_apply {call : Syscall} (member : call ∈ t.os.trace) :
    call ∈ (op.apply t).os.trace := by
  rw [trace_apply]
  exact List.mem_append_left _ member

/-- The socket of a link that an operation is not about stays open. -/
theorem open_apply (valid : op.Valid t) (holds : t.Holds) {call : Syscall} {s : Nat}
    (member : call ∈ t.os.trace) (obtained : call.obtains = some s) (up : ¬ t.os.Closed s)
    (other : ∀ entry, op.stores t = some entry → ∀ s', call ≠ .opened s' entry.1.val entry.2.1) :
    ¬ (op.apply t).os.Closed s := by
  intro closed
  rcases closed_apply closed with before | shut
  · exact up before
  · have owned : ∀ {conn : Short} {l : ConnectionLink}, t.Stores conn l → l.m_socket = s →
        call = .opened l.m_socket conn.val l.m_id := by
      intro conn l stores same
      exact holds.orderly.owner member (holds.links _ _ l stores).1 obtained (congrArg some same)
    cases op with
    | close conn l => exact other _ rfl _ (owned valid.1 (Option.some.inj shut))
    | refuse conn l => exact other _ rfl _ (owned valid.1 (Option.some.inj shut))
    | attempt conn id =>
        have below := holds.orderly.used call member
        rw [Syscall.socket_of_obtains obtained, ← Option.some.inj shut] at below
        exact Nat.lt_irrefl _ below
    | emit _ | received _ _ _ | acknowledge _ _ _ | push _ _ _ | written _ _ _ _ | erase _ _
    | establish _ _ | accept _ _ _ _ | connect _ _ => cases shut

/-- The link an operation stores. -/
theorem stored_link (valid : op.Valid t) (careful : op.Careful t) (holds : t.Holds) {conn id : Short}
    {l : ConnectionLink} (stored : op.stores t = some (conn, id, some l)) :
    .opened l.m_socket conn.val id ∈ (op.apply t).os.trace ∧
      (l.m_closing = false → ¬ (op.apply t).os.Closed l.m_socket) := by
  have kept : ∀ {l₀ : ConnectionLink}, t.Stores conn l₀ → l₀.m_id = id →
      l.m_socket = l₀.m_socket → (l.m_closing = false → l₀.m_closing = false) →
      (l.m_closing = false → op.shuts t = none) →
      .opened l.m_socket conn.val id ∈ (op.apply t).os.trace ∧
        (l.m_closing = false → ¬ (op.apply t).os.Closed l.m_socket) := by
    intro l₀ stores ids socket closing shuts
    obtain ⟨inTrace, up⟩ := holds.links _ _ l₀ stores
    rw [socket, ← ids]
    refine ⟨mem_trace_apply inTrace, fun isUp closed => ?_⟩
    rcases closed_apply closed with before | shut
    · exact up (closing isUp) before
    · rw [shuts isUp] at shut
      cases shut
  have new : l = .create id t.os.next_socket → op.shuts t = none →
      .opened t.os.next_socket conn.val id ∈ (op.apply t).os.trace →
      .opened l.m_socket conn.val id ∈ (op.apply t).os.trace ∧
        (l.m_closing = false → ¬ (op.apply t).os.Closed l.m_socket) := by
    rintro rfl shuts inTrace
    refine ⟨inTrace, fun _ closed => ?_⟩
    rcases closed_apply closed with before | shut
    · exact holds.orderly.next_open before
    · rw [shuts] at shut
      cases shut
  cases op with
  | emit _ | received _ _ _ | establish _ _ | attempt _ _ | erase _ _ | refuse _ _ => cases stored
  | acknowledge conn' l₀ ack =>
      cases stored
      exact kept valid rfl rfl (fun up => up) fun _ => rfl
  | push conn' l₀ bytes | written conn' l₀ buffer bytes =>
      cases stored
      exact kept valid.1 rfl rfl (fun up => up) fun _ => rfl
  | close conn' l₀ =>
      cases stored
      exact kept valid.1 rfl rfl (fun no => by cases no) fun no => by cases no
  | accept conn' c socket n | connect conn' id' =>
      cases stored
      refine new rfl rfl ?_
      rw [trace_apply]
      exact List.mem_append_right _ (List.mem_singleton_self _)

/-- Sockets stay held under careful operations. -/
theorem holds_apply (valid : op.Valid t) (careful : op.Careful t) (holds : t.Holds) :
    (op.apply t).Holds where
  toLive := live_apply valid careful.sparesLive holds.toLive
  orderly := orderly_apply valid careful holds
  links := by
    intro x i l found
    rw [link?_apply valid] at found
    have old : t.link? x i = some l →
        (∀ entry, op.stores t = some entry → ¬(x = entry.1.val ∧ i = entry.2.1)) →
        .opened l.m_socket x i ∈ (op.apply t).os.trace ∧
          (l.m_closing = false → ¬ (op.apply t).os.Closed l.m_socket) := by
      intro before other
      obtain ⟨inTrace, up⟩ := holds.links x i l before
      refine ⟨mem_trace_apply inTrace, fun isUp => open_apply valid holds inTrace rfl (up isUp) ?_⟩
      intro entry stored s same
      obtain ⟨_, rfl, rfl⟩ := Syscall.opened.inj same
      exact other entry stored ⟨rfl, rfl⟩
    cases stored : op.stores t with
    | none =>
        rw [stored] at found
        exact old found fun entry no => by rw [stored] at no; cases no
    | some entry =>
        obtain ⟨conn, id, l'⟩ := entry
        rw [stored] at found
        dsimp only at found
        split at found
        · rename_i here
          obtain ⟨rfl, rfl⟩ := here
          rw [found] at stored
          exact stored_link valid careful holds stored
        · rename_i elsewhere
          refine old found fun entry same => ?_
          rw [stored] at same
          cases same
          exact elsewhere
  listeners := by
    intro x s listens
    rw [(kept valid).listeners] at listens
    obtain ⟨inTrace, up⟩ := holds.listeners x s listens
    exact ⟨mem_trace_apply inTrace, open_apply valid holds inTrace rfl up fun _ _ _ no => by cases no⟩
  pointers := by
    intro x s
    rw [registrations_listener, (kept valid).listeners]
    exact holds.pointers x s

theorem holds_run {ops : List Operation}
    (run : Run (fun t op t' => Operation.Step t op t' ∧ op.Careful t) t ops t') (holds : t.Holds) :
    t'.Holds := by
  refine run.invariant holds fun before taken => ?_
  rw [taken.1.2]
  exact holds_apply taken.1.1 taken.2 before

end Operation

end Tun01
