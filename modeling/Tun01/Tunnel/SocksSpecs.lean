import Tun01.Tunnel.Agreement
import Tun01.Tunnel.Alignment
import Tun01.Tunnel.Grammar
import Tun01.Tunnel.Options

/-!
# The specification for the socks5 server

`configure` finds it by the port the parser made of the argument, the remote
side by the sixteen bits of that port.
-/

namespace Tun01

/-! ## The specifications of the arguments -/

namespace StdioTunnelLocal

variable {l l' : StdioTunnelLocal} {bindStatus : ConnectionSpec → Int} {count count' : Nat}
  {args : List (List Byte)}

def specification (option : Byte × List Byte) : Option ConnectionSpec :=
  if option.1 = 82 then some (specOf .LISTEN option.2)
  else if option.1 = 76 then some (specOf .CONNECT option.2)
  else none

theorem specOf_parsed {direction : Direction} {value : List Byte} {spec : ConnectionSpec}
    (parses : parseConnection direction value = .ok spec) : spec = specOf direction value :=
  (parseConnection_ok_iff.mp parses).2

theorem applyOption_specs {option : Byte × List Byte}
    (result : l.applyOption count bindStatus option.1 option.2 = .ok (l', count')) :
    l'.m_connection_specs = l.m_connection_specs ++ (specification option).toList := by
  obtain ⟨letter, value⟩ := option
  cases applyOption_applies result with
  | listen parses =>
      rw [specOf_parsed parses]
      rfl
  | connect parses =>
      rw [specOf_parsed parses]
      rfl
  | plain noListen noConnect =>
      unfold specification
      rw [if_neg noListen, if_neg noConnect, Option.toList_none, List.append_nil]
      unfold plainOption
      repeat' split
      all_goals rfl

theorem applyOptions_specs {options : List (Byte × List Byte)}
    (result : l.applyOptions count bindStatus options = .ok (l', count')) :
    l'.m_connection_specs = l.m_connection_specs ++ options.filterMap specification := by
  induction options generalizing l count with
  | nil =>
      obtain ⟨rfl, _⟩ := Prod.mk.inj (Except.ok.inj result)
      rw [List.filterMap_nil, List.append_nil]
  | cons option options ih =>
      rw [applyOptions_cons] at result
      obtain ⟨⟨l₁, count₁⟩, first, later⟩ := of_bind_ok result
      rw [ih later, applyOption_specs first, List.append_assoc]
      cases known : specification option with
      | none => rw [List.filterMap_cons_none known, Option.toList_none, List.nil_append]
      | some spec => rw [List.filterMap_cons_some known, Option.toList_some, List.singleton_append]

/-- `configure` accepts the specifications of its options, in their order. -/
theorem configure_specs (result : fresh.configure bindStatus args = .ok l) :
    l.m_connection_specs = (scan args).options.filterMap specification := by
  rw [configure_scan] at result
  obtain ⟨⟨l₁, count⟩, applied, last⟩ := of_bind_ok result
  obtain ⟨rfl, _⟩ := finish_same last
  have specs := applyOptions_specs applied
  cases (scan args).command with
  | none => exact specs
  | some command => exact specs

end StdioTunnelLocal

/-- Without a host, a port that is not zero but whose sixteen bits are. -/
def ConnectionSpec.Wraps (spec : ConnectionSpec) : Prop :=
  spec.m_connect_host = [] ∧ spec.m_connect_port % 65536 = 0 ∧ spec.m_connect_port ≠ 0

/-- The value of an option without such a host and port. -/
def Wraps (value : List Byte) : Prop :=
  param value 1 = [] ∧ atoi (param value 2) % 65536 = 0 ∧ atoi (param value 2) ≠ 0

theorem received_isSocks5_iff (spec : ConnectionSpec) : spec.received.isSocks5 = true ↔
    spec.m_connect_host = [] ∧ spec.m_connect_port % 65536 = 0 := by
  have port : (Short.ofInt spec.m_connect_port).val = 0 ↔ spec.m_connect_port % 65536 = 0 := by
    rw [Short.val_ofInt]
    omega
  unfold ConnectionSpec.isSocks5 ConnectionSpec.received
  rw [Bool.and_eq_true, decide_eq_true_eq, decide_eq_true_eq, List.length_eq_zero_iff, port]

theorem isSocks5_iff (spec : ConnectionSpec) : spec.isSocks5 = true ↔
    spec.m_connect_host = [] ∧ spec.m_connect_port = 0 := by
  unfold ConnectionSpec.isSocks5
  rw [Bool.and_eq_true, decide_eq_true_eq, decide_eq_true_eq, List.length_eq_zero_iff]

/-- The remote side sees the same specification unless its port wraps. -/
theorem received_same_iff (spec : ConnectionSpec) :
    spec.received.isSocks5 = spec.isSocks5 ↔ ¬ spec.Wraps := by
  rw [Bool.eq_iff_iff, received_isSocks5_iff, isSocks5_iff]
  constructor
  · rintro same ⟨unnamed, bits, port⟩
    exact port (same.mp ⟨unnamed, bits⟩).2
  · intro clean
    constructor
    · rintro ⟨unnamed, bits⟩
      exact ⟨unnamed, not_not.mp fun port => clean ⟨unnamed, bits, port⟩⟩
    · rintro ⟨unnamed, port⟩
      exact ⟨unnamed, by rw [port]; rfl⟩

/-! ## The connections of the local endpoint -/

namespace StdioTunnelLocal

variable {l l' : StdioTunnelLocal} {calls : Calls}

/-- A connection was made for the specification at its position. -/
theorem createConnections_positions {specs : List ConnectionSpec} {g_id : Short} {i : Nat}
    (result : l.createConnections calls g_id i specs = .ok l') {x : Int} {c : TunnelConnection}
    (found : l'.connection? x = some c) : l.connection? x = some c ∨
      ∃ k : Nat, x = (Short.ofInt (g_id.val + k)).val ∧ specs[k]? = some c.m_spec := by
  induction specs generalizing l g_id i with
  | nil =>
      rw [← Except.ok.inj result] at found
      exact Or.inl found
  | cons spec specs ih =>
      unfold createConnections at result
      obtain ⟨⟨t, pConn⟩, creates, result⟩ := of_bind_ok result
      have same := StdioTunnel.CreateConnection_connection? creates x
      rcases ih result with before | ⟨k, number, here⟩
      · cases pConn with
        | none => exact Or.inl (same.symm.trans before)
        | some d =>
            dsimp only at before
            rw [StdioTunnel.connection?_putConnection] at before
            split at before
            · rename_i own
              have id := StdioTunnel.CreateConnection_id creates
              refine Or.inr ⟨0, ?_, ?_⟩
              · rw [Nat.cast_zero, add_zero, Short.ofInt_val, ← id, own]
              · rw [← Option.some.inj before, StdioTunnel.CreateConnection_spec creates]
                rfl
            · exact Or.inl (same.symm.trans before)
      · refine Or.inr ⟨k + 1, ?_, here⟩
        rw [number]
        congr 1
        rw [Short.ofInt_eq_iff, Short.val_ofInt]
        push_cast
        omega

/-- Every connection belongs to the specification at some position, which gives its number. -/
def Positioned (t : StdioTunnel) (specs : List ConnectionSpec) : Prop :=
  ∀ x c, t.connection? x = some c →
    ∃ k : Nat, x = (Short.ofInt k).val ∧ specs[k]? = some c.m_spec

theorem start_positioned {l₀ : StdioTunnelLocal} {read_fd write_fd : Int}
    (configures : Configures fresh l₀) (start : l₀.start read_fd write_fd calls = .ok l) :
    Positioned l.toStdioTunnel l₀.m_connection_specs := by
  obtain ⟨l₁, creates, _, rfl⟩ := start_started configures.state start
  intro x c found
  have known : l₁.connection? x = some c :=
    ((registered_aside (l₁.armed write_fd)).connection? x).symm.trans found
  rcases createConnections_positions creates known with before | ⟨k, number, here⟩
  · have none : l₀.connection? x = none := by
      unfold StdioTunnel.connection?
      rw [show l₀.toStdioTunnel = _ from configures.base]
      rfl
    rw [show l₀.connection? x = _ from before] at none
    exact absurd none (Option.some_ne_none c)
  · exact ⟨k, by rw [number, show (Short.ofInt 0).val = 0 from rfl, zero_add], here⟩

end StdioTunnelLocal

/-- The computation does not end with the fault, and its result is as described. -/
def Avoids {α : Type} (fault : Fault) (x : Except Fault α) (post : α → Prop) : Prop :=
  x ≠ .error fault ∧ ∀ a, x = .ok a → post a

namespace Avoids

variable {α β : Type} {fault fault' : Fault} {x : Except Fault α} {f : α → Except Fault β}
  {mid : α → Prop} {post : β → Prop} {a : α}

theorem ok {post : α → Prop} (holds : post a) : Avoids fault (.ok a) post :=
  ⟨nofun, fun _ same => Except.ok.inj same ▸ holds⟩

theorem error {post : α → Prop} (other : fault' ≠ fault) :
    Avoids fault (.error fault' : Except Fault α) post :=
  ⟨fun same => other (Except.error.inj same), nofun⟩

theorem bind (first : Avoids fault x mid)
    (later : ∀ a, x = .ok a → mid a → Avoids fault (f a) post) : Avoids fault (x >>= f) post := by
  cases x with
  | error fault' => exact error fun same => first.1 (congrArg _ same)
  | ok a => exact later a rfl (first.2 a rfl)

theorem mono {post post' : α → Prop} (avoids : Avoids fault x post)
    (weaker : ∀ a, post a → post' a) : Avoids fault x post' :=
  ⟨avoids.1, fun a result => weaker a (avoids.2 a result)⟩

end Avoids

/-! ## The remote side -/

namespace StdioTunnelRemote

variable {r r' : StdioTunnelRemote} {calls : Calls}

def secondServer : Fault := .exception "should the only one socks5 connection"

/-- The server is started for the specification that asks for it, once. -/
theorem setupSocks5_once {spec : ConnectionSpec}
    (free : spec.isSocks5 = true → r.m_socks5_server = false) :
    Avoids secondServer (r.setupSocks5 spec calls) fun result =>
      result.1.m_socks5_server = (spec.isSocks5 || r.m_socks5_server) := by
  unfold setupSocks5
  cases socks5 : spec.isSocks5 with
  | false => exact .ok rfl
  | true =>
      rw [if_pos rfl, if_neg (by rw [free socks5]; exact Bool.false_ne_true)]
      cases calls.server_setup with
      | fail errno => exact .error (by decide)
      | ok fd =>
          cases calls.fcntl with
          | fail errno => exact .error nofun
          | ok _ =>
              cases calls.getsockname with
              | none => exact .error (by decide)
              | some port => exact .ok rfl

theorem CreateConnection_avoids (t : StdioTunnel) (spec : ConnectionSpec) (is_local : Bool)
    (id : Int) (listen : ListenResult) :
    Avoids secondServer (t.CreateConnection spec is_local id listen) fun _ => True := by
  unfold StdioTunnel.CreateConnection
  split
  · cases listen with
    | bindFailed errno => exact .error nofun
    | noSocket | fcntlFailed | listenFailed | listening => exact .ok trivial
  · exact .ok trivial

/-- The connections are read, and the server is started for the one that asks for it. -/
theorem createConnections_lone {connections : List (Short × ConnectionSpec)} {i : Nat}
    {rest : List Byte} (small : ∀ c ∈ connections, c.2.m_connect_host.length < 2 ^ 32)
    (lone : Lone connections)
    (free : r.m_socks5_server = true → ∀ c ∈ connections, c.2.received.isSocks5 = false) :
    Avoids secondServer ((r.reading (connections.flatMap Message.connection ++ rest)).createConnections
        calls i connections.length)
      fun r' => r'.m_socks5_server =
        (r.m_socks5_server || connections.any fun c => c.2.received.isSocks5) := by
  induction connections generalizing r i with
  | nil => exact .ok (Bool.or_false _).symm
  | cons c connections ih =>
      obtain ⟨others, lone⟩ := List.pairwise_cons.mp lone
      rw [List.flatMap_cons, List.append_assoc, List.length_cons,
        createConnections_succ c i _ _ (small c List.mem_cons_self)]
      refine (setupSocks5_once fun socks5 => ?_).bind fun ⟨r₁, spec⟩ sets server => ?_
      · cases server : r.m_socks5_server with
        | false => exact server
        | true =>
            rw [free server c List.mem_cons_self] at socks5
            cases socks5
      obtain ⟨t, running, rfl, beside, _⟩ := setupSocks5_spec sets
      change running = (c.2.received.isSocks5 || r.m_socks5_server) at server
      refine (CreateConnection_avoids t spec false c.1.val (calls.listen i)).bind
        fun ⟨t', conn⟩ creates _ => ?_
      have later := @ih ⟨StdioTunnel.stored c.1.val t' conn, r.m_state, running⟩ (i + 1)
        (fun d member => small d (List.mem_cons_of_mem _ member)) lone (by
          intro known d member
          change running = true at known
          rw [server, Bool.or_eq_true] at known
          rcases known with socks5 | before
          · exact others d member socks5
          · exact free before d (List.mem_cons_of_mem _ member))
      rw [reading_stored beside creates running] at later
      refine later.mono fun r' started => ?_
      change r'.m_socks5_server = (running || _) at started
      rw [started, server, List.any_cons, Bool.or_left_comm, Bool.or_assoc]

/-- The remote side handles a request with one such connection at most. -/
theorem processFrame_lone {connections : List (Short × ConnectionSpec)}
    (state : r.m_state = .HANDSHAKING) (few : connections.length ≤ 32767)
    (idle : r.m_socks5_server = false)
    (small : ∀ c ∈ connections, c.2.m_connect_host.length < 2 ^ 32) (lone : Lone connections) :
    Avoids secondServer ((r.reading (Message.handshake connections).payload).processFrame calls)
      fun r' => r'.m_socks5_server = connections.any fun c => c.2.received.isSocks5 := by
  have created := @createConnections_lone r calls connections 0 [] small lone
    (fun running => by rw [idle] at running; cases running)
  rw [List.append_nil, idle] at created
  rw [processFrame_request state few]
  refine created.bind fun r₁ _ started => ?_
  have sent : Avoids secondServer (r₁.toStdioTunnel.writeShort CMD_CREATE).send fun _ => True := by
    unfold StdioTunnel.send
    split
    · exact .ok trivial
    · exact .error (by decide)
  exact sent.bind fun t _ _ => .ok started

end StdioTunnelRemote

/-! ## Local and remote side -/

open StdioTunnelLocal (scan specification Positioned)

/-- A request that the local endpoint sends in some run after these specifications. -/
inductive Requests (l₀ : StdioTunnelLocal) (payload : List Byte) : Prop where
  | intro {l : StdioTunnelLocal} {read_fd write_fd : Int} {calls : Calls} {events : List Event}
      {w w' : Watched} {event : Event} (pipes : read_fd ≠ write_fd)
      (start : l₀.start read_fd write_fd calls = .ok l)
      (run : Run Watched.Step (.start l) events w) (greets : Watched.Step w event w')
      (sent : payload ∈ w.endpoint.queued w'.endpoint.toStdioTunnel)
      (creates : isCreate payload = true)

/-- The host a connection was stored with is not the one that was sent. -/
def Redirected (sent : ConnectionSpec) (stored : TunnelConnection) : Prop :=
  stored.m_spec.m_connect_host ≠ sent.m_connect_host

/--
What the remote side is meant to make of a request: it takes those specifications
for the server for which `configure` did, and only redirects these.
-/
structure Socks5Agrees (connections : List (Short × ConnectionSpec)) (r : StdioTunnelRemote) :
    Prop where
  once : ∀ calls, r.processFrame calls ≠ .error StdioTunnelRemote.secondServer
  whole : ∀ {calls : Calls}, calls.Succeed → ∃ r', r.processFrame calls = .ok r' ∧
    ∀ sent ∈ connections, (r'.connection? sent.1.val).isSome
  same : ∀ {calls : Calls} {r' : StdioTunnelRemote}, r.processFrame calls = .ok r' →
    ∀ sent ∈ connections, ∀ c, r'.connection? sent.1.val = some c →
      (Redirected sent.2 c ↔ sent.2.isSocks5 = true)
  server : ∀ {calls : Calls} {r' : StdioTunnelRemote}, r.processFrame calls = .ok r' →
    (r'.m_socks5_server = true ↔ ∃ sent ∈ connections, sent.2.isSocks5 = true)
  direction : ∀ {calls : Calls} {r' : StdioTunnelRemote}, r.processFrame calls = .ok r' →
    ∀ sent ∈ connections, ∀ c, r'.connection? sent.1.val = some c → Redirected sent.2 c →
      c.m_spec.m_connection_type = .CONNECT
  single : ∀ {calls : Calls} {r' : StdioTunnelRemote}, r.processFrame calls = .ok r' →
    ∀ sent ∈ connections, ∀ sent' ∈ connections, ∀ c c',
      r'.connection? sent.1.val = some c → r'.connection? sent'.1.val = some c' →
      Redirected sent.2 c → Redirected sent'.2 c' → sent.1 = sent'.1

/-- The connections of a request are specifications of the arguments, each at its own position. -/
theorem Requests.connections {bindStatus : ConnectionSpec → Int} {args : List (List Byte)}
    {l₀ : StdioTunnelLocal} {payload : List Byte} (requests : Requests l₀ payload)
    (configured : StdioTunnelLocal.fresh.configure bindStatus args = .ok l₀) :
    ∃ connections : List (Short × ConnectionSpec),
      payload = (Message.handshake connections).payload ∧
      (connections.map Prod.fst).Nodup ∧
      ∀ c ∈ connections, ∃ k : Nat, c.1 = Short.ofInt k ∧
        l₀.m_connection_specs[k]? = some c.2 := by
  cases requests with
  | @intro l _ _ _ events w w' event pipes start run greets sent creates =>
      have begun := StdioTunnelLocal.Begun.mk configured pipes start
      have kept := Watched.kept_run begun run
      have positioned := StdioTunnelLocal.start_positioned
        (StdioTunnelLocal.configure_configures configured) start
      have named : w.endpoint.Named := kept.keyed.toNamed
      refine ⟨w.endpoint.connections, greets.greeting kept sent creates,
        StdioTunnel.connections_nodup named, fun c member => ?_⟩
      obtain ⟨conn, found, spec⟩ := (StdioTunnel.mem_connections named).mp member
      have kind := Watched.kind_run begun run c.1.val
      rw [StdioTunnel.kind?_of_connection found] at kind
      cases known : l.connection? c.1.val with
      | none =>
          unfold StdioTunnel.kind? StdioTunnel.bare? at kind
          rw [known] at kind
          cases kind
      | some d =>
          rw [StdioTunnel.kind?_of_connection known] at kind
          obtain ⟨k, number, here⟩ := positioned _ d known
          refine ⟨k, Short.val_injective number, ?_⟩
          rw [here, ← spec, (Prod.mk.inj (Option.some.inj kind)).1]

/-- The identifiers of a request are positions of specifications. -/
theorem connections_few {specs : List ConnectionSpec} {connections : List (Short × ConnectionSpec)}
    (distinct : (connections.map Prod.fst).Nodup)
    (positions : ∀ c ∈ connections, ∃ k : Nat, c.1 = Short.ofInt k ∧ specs[k]? = some c.2) :
    connections.length ≤ specs.length := by
  have subset : connections.map Prod.fst ⊆
      (List.range specs.length).map fun k : Nat => Short.ofInt k := by
    intro id member
    obtain ⟨c, inList, rfl⟩ := List.mem_map.mp member
    obtain ⟨k, number, here⟩ := positions c inList
    exact List.mem_map.mpr
      ⟨k, List.mem_range.mpr (List.getElem?_eq_some_iff.mp here).1, number.symm⟩
  have bound := (List.subperm_of_subset distinct subset).length_le
  rwa [List.length_map, List.length_map, List.length_range] at bound

/-- There are no more identifiers than there are `short`s. -/
theorem identifiers_few {ids : List Short} (distinct : ids.Nodup) : ids.length ≤ 65536 := by
  have subset : ids ⊆ (List.range 65536).map fun k : Nat => Short.ofInt k := by
    intro id _
    refine List.mem_map.mpr ⟨(id.val % 65536).toNat, List.mem_range.mpr (by omega), ?_⟩
    rw [← Short.ofInt_val id, Short.ofInt_eq_iff, Short.ofInt_val]
    omega
  have bound := (List.subperm_of_subset distinct subset).length_le
  rwa [List.length_map, List.length_range] at bound

/-- What the remote side made of a specification that it has stored. -/
theorem redirected_iff {spec spec' : ConnectionSpec} {x : Int} {listens : Bool}
    {c : TunnelConnection} (rewrites : StdioTunnelRemote.Rewrites spec.received spec')
    (created : StdioTunnel.Created spec' listens x c) :
    Redirected spec c ↔ spec.received.isSocks5 = true := by
  unfold Redirected
  rw [created.spec]
  rcases rewrites with ⟨plain, rfl⟩ | ⟨socks5, port, rfl⟩
  · exact iff_of_false (fun no => no rfl) (by rw [plain]; exact Bool.false_ne_true)
  · refine iff_of_true (fun same => ?_) socks5
    obtain ⟨unnamed, _⟩ := (received_isSocks5_iff spec).mp socks5
    have server : text "localhost" = [] := same.trans unnamed
    exact absurd server (by decide)

namespace StdioTunnelRemote

/-- A request without such ports, and with a number of connections that is a `short`. -/
theorem agrees_of_clean {r : StdioTunnelRemote} {specs : List ConnectionSpec}
    {connections : List (Short × ConnectionSpec)} (sound : r.Sound)
    (state : r.m_state = .HANDSHAKING) (empty : ∀ x, r.connection? x = none)
    (idle : r.m_socks5_server = false) (distinct : (connections.map Prod.fst).Nodup)
    (small : ∀ c ∈ connections, c.2.m_connect_host.length < 2 ^ 32)
    (positions : ∀ c ∈ connections, ∃ k : Nat, c.1 = Short.ofInt k ∧ specs[k]? = some c.2)
    (once : specs.countP ConnectionSpec.isSocks5 ≤ 1)
    (connect : ∀ spec ∈ specs, spec.isSocks5 = true → spec.m_connection_type = .CONNECT)
    (few : connections.length ≤ 32767) (clean : ∀ c ∈ connections, ¬ c.2.Wraps) :
    Socks5Agrees connections (r.reading (Message.handshake connections).payload) := by
  have same : ∀ c ∈ connections, c.2.received.isSocks5 = c.2.isSocks5 :=
    fun c member => (received_same_iff c.2).mpr (clean c member)
  have lone := lone_of_positions same once distinct positions
  have stored : ∀ {calls : Calls} {r' : StdioTunnelRemote},
      (r.reading (Message.handshake connections).payload).processFrame calls = .ok r' →
      ∀ sent ∈ connections, ∀ c, r'.connection? sent.1.val = some c →
        ∃ spec', Rewrites sent.2.received spec' ∧ c.m_spec = spec' ∧
          (Redirected sent.2 c ↔ sent.2.isSocks5 = true) := by
    intro calls r' result sent member c found
    obtain ⟨r₁, accepted, rfl⟩ := processFrame_handshake sound state few distinct
      (fun c _ => empty c.1.val) small result
    obtain ⟨spec', rewrites, own⟩ := accepted.own sent member
    have known : r₁.connection? sent.1.val = some c := found
    rcases own with ⟨_, none⟩ | ⟨d, here, created⟩
    · cases none.symm.trans known
    · obtain rfl := Option.some.inj (here.symm.trans known)
      refine ⟨spec', rewrites, created.spec, ?_⟩
      rw [redirected_iff rewrites created, same sent member]
  refine ⟨fun calls => ?_, fun {calls} succeed => ?_, fun {calls r'} result sent member c found => ?_,
    fun {calls r'} result => ?_, fun {calls r'} result sent member c found redirected => ?_,
    fun {calls r'} result sent member sent' member' c c' found found' redirected redirected' => ?_⟩
  · exact (processFrame_lone state few idle small lone).1
  · obtain ⟨r', result, _, _, _, own⟩ :=
      request_handled sound state empty idle succeed few distinct lone small
    refine ⟨r', result, fun sent member => ?_⟩
    obtain ⟨_, d, _, found, _⟩ := own sent member
    rw [found]
    rfl
  · obtain ⟨_, _, _, iff⟩ := stored result sent member c found
    exact iff
  · rw [(processFrame_lone state few idle small lone).2 r' result, List.any_eq_true]
    exact exists_congr fun sent => and_congr_right fun member => by rw [same sent member]
  · obtain ⟨spec', rewrites, spec, iff⟩ := stored result sent member c found
    obtain ⟨k, _, here⟩ := positions sent member
    have type := connect sent.2 (List.mem_of_getElem? here) (iff.mp redirected)
    have received : sent.2.received.m_connection_type = .CONNECT := by
      change Direction.ofShort sent.2.m_connection_type.toShort = .CONNECT
      rw [type]
      rfl
    rw [spec]
    rcases rewrites with ⟨_, rfl⟩ | ⟨_, port, rfl⟩ <;> exact received
  · obtain ⟨_, _, _, iff⟩ := stored result sent member c found
    obtain ⟨_, _, _, iff'⟩ := stored result sent' member' c' found'
    obtain ⟨i, isSent, here⟩ := positions sent member
    obtain ⟨j, isSent', here'⟩ := positions sent' member'
    rw [isSent, isSent',
      position_unique once here here' (iff.mp redirected) (iff'.mp redirected')]

def smooth : Calls := { getsockname := some 1080 }

theorem smooth_succeed : smooth.Succeed := ⟨fun _ => rfl, ⟨0, rfl⟩, rfl, 1080, rfl⟩

/-- What the remote side makes of a request is as intended in no other case. -/
theorem clean_of_agrees {r : StdioTunnelRemote} {connections : List (Short × ConnectionSpec)}
    (sound : r.Sound) (state : r.m_state = .HANDSHAKING) (empty : ∀ x, r.connection? x = none)
    (distinct : (connections.map Prod.fst).Nodup)
    (small : ∀ c ∈ connections, c.2.m_connect_host.length < 2 ^ 32)
    (agrees : Socks5Agrees connections (r.reading (Message.handshake connections).payload)) :
    connections.length ≤ 32767 ∧ ∀ c ∈ connections, ¬ c.2.Wraps := by
  obtain ⟨r', result, there⟩ := agrees.whole smooth_succeed
  have few : connections.length ≤ 32767 := by
    by_contra many
    have below := identifiers_few distinct
    rw [List.length_map] at below
    obtain ⟨r₁, handled, _, _, none⟩ :=
      @processFrame_crowd r smooth connections sound.ready state (Nat.not_le.mp many) below
    obtain rfl := Except.ok.inj (handled.symm.trans result)
    obtain ⟨sent, member⟩ := List.exists_mem_of_length_pos (by omega : 0 < connections.length)
    have stored := there sent member
    rw [none, empty] at stored
    cases stored
  refine ⟨few, fun sent member => (received_same_iff sent.2).mp ?_⟩
  obtain ⟨c, found⟩ := Option.isSome_iff_exists.mp (there sent member)
  have iff := agrees.same result sent member c found
  obtain ⟨r₁, accepted, rfl⟩ := processFrame_handshake sound state few distinct
    (fun c _ => empty c.1.val) small result
  obtain ⟨spec', rewrites, own⟩ := accepted.own sent member
  have known : r₁.connection? sent.1.val = some c := found
  rcases own with ⟨_, none⟩ | ⟨d, here, created⟩
  · cases none.symm.trans known
  · obtain rfl := Option.some.inj (here.symm.trans known)
    rw [redirected_iff rewrites created] at iff
    exact Bool.eq_iff_iff.mpr iff

end StdioTunnelRemote

/--
For a request of the local endpoint the remote side finds the specification that
`configure` found, exactly when the number of connections is a `short` and no
port is lost in sixteen bits.  Arguments that are few and clean lead to such
requests only.
-/
theorem socks5_agrees_iff {bindStatus : ConnectionSpec → Int} {args : List (List Byte)}
    {l₀ : StdioTunnelLocal} {payload : List Byte}
    (configured : StdioTunnelLocal.fresh.configure bindStatus args = .ok l₀)
    (requests : Requests l₀ payload) (small : payload.length < 2 ^ 32)
    {write fcntl : SysResult Unit} {r : StdioTunnelRemote} {stream : ReadStream}
    (waits : StdioTunnelRemote.fresh.start write fcntl = .ok r) (frame : stream.m_queue = payload) :
    ∃ connections, payload = (Message.handshake connections).payload ∧
      (∀ sent ∈ connections, ∃ k : Nat, sent.1 = Short.ofInt k ∧
        l₀.m_connection_specs[k]? = some sent.2) ∧
      (Socks5Agrees connections (r.withReader stream) ↔
        connections.length ≤ 32767 ∧ ∀ sent ∈ connections, ¬ sent.2.Wraps) ∧
      (l₀.m_connection_specs.length ≤ 32767 →
        (∀ option ∈ (scan args).options, option.1 = 82 ∨ option.1 = 76 → ¬ Wraps option.2) →
        Socks5Agrees connections (r.withReader stream)) := by
  obtain ⟨connections, rfl, distinct, positions⟩ := requests.connections configured
  obtain rfl := StdioTunnelRemote.start_waiting waits
  have whole : (StdioTunnelRemote.withReader .waiting (stream.withQueue [])).reading
      (Message.handshake connections).payload = .withReader .waiting stream := by
    unfold StdioTunnelRemote.reading StdioTunnel.reading StdioTunnelRemote.withReader
    rw [← frame]
    rfl
  have hosts : ∀ c ∈ connections, c.2.m_connect_host.length < 2 ^ 32 :=
    fun c member => Nat.lt_of_le_of_lt (Message.host_le member) small
  have sound : (StdioTunnelRemote.withReader .waiting (stream.withQueue [])).Sound :=
    System.waiting_sound.withReader _
  have connect : ∀ spec ∈ l₀.m_connection_specs, spec.isSocks5 = true →
      spec.m_connection_type = .CONNECT := by
    intro spec member socks5
    rcases (StdioTunnelLocal.configure_configures configured).specs spec member with no | parsed
    · cases no
    · obtain ⟨direction, _, parsed⟩ := parsed
      rw [parsed.direction, parsed.socks5 socks5]
  have clean := fun few wraps => StdioTunnelRemote.agrees_of_clean sound rfl (fun _ => rfl) rfl
    distinct hosts positions (StdioTunnelLocal.configure_socks5 configured) connect few wraps
  rw [whole] at clean
  refine ⟨connections, rfl, positions, ⟨fun agrees => ?_, fun ⟨few, wraps⟩ => clean few wraps⟩,
    fun few options => clean ((connections_few distinct positions).trans few) fun sent member => ?_⟩
  · rw [← whole] at agrees
    exact StdioTunnelRemote.clean_of_agrees sound rfl (fun _ => rfl) distinct hosts agrees
  · obtain ⟨k, _, here⟩ := positions sent member
    have known := List.mem_of_getElem? here
    rw [StdioTunnelLocal.configure_specs configured] at known
    obtain ⟨option, inOptions, asks⟩ := List.mem_filterMap.mp known
    unfold specification at asks
    split at asks
    · rename_i listen
      rw [← Option.some.inj asks]
      exact options option inOptions (Or.inl listen)
    · split at asks
      · rename_i connects
        rw [← Option.some.inj asks]
        exact options option inOptions (Or.inr connects)
      · cases asks

/-- The request for three connections is sent as soon as the magic string has been read. -/
theorem threeSpecs_requests :
    Requests threeConfigured (Message.handshake threeBegun.connections).payload := by
  obtain ⟨started, returns, registered, queued, creates⟩ :
      (threeConfigured.start 3 4 {}).isOk = true ∧
      (threeBegun.dispatch Watched.greet.polled Watched.greet.poll_struct
        Watched.greet.calls).isOk = true ∧
      (3 : Int) ∈ (threeBegun.registrations Watched.greet.polled).map Pollfd.fd ∧
      (Message.handshake threeBegun.connections).payload ∈ threeBegun.toStdioTunnel.queued
        ((Watched.start threeBegun).after Watched.greet).endpoint.toStdioTunnel ∧
      isCreate (Message.handshake threeBegun.connections).payload = true := by
    decide +kernel
  obtain ⟨record, member, fd⟩ := List.mem_map.mp registered
  exact .intro (by decide) (ok_of_isOk started .fresh) .nil
    (Watched.step_after returns ⟨record, member, fd⟩ trivial) queued creates

/-- Of three connections the remote side starts its server for the third. -/
theorem socks5_agrees_threeSpecs : ∃ connections,
    (Message.handshake threeBegun.connections).payload = (Message.handshake connections).payload ∧
    Socks5Agrees connections (StdioTunnelRemote.waiting.withReader
      (.withQueue .fresh (Message.handshake threeBegun.connections).payload)) := by
  obtain ⟨configured, small, few, clean⟩ :
      (StdioTunnelLocal.fresh.configure (fun _ => 0) threeSpecs).isOk = true ∧
      (Message.handshake threeBegun.connections).payload.length < 2 ^ 32 ∧
      threeConfigured.m_connection_specs.length ≤ 32767 ∧
      ∀ option ∈ (scan threeSpecs).options, option.1 = 82 ∨ option.1 = 76 →
        ¬ (param option.2 1 = [] ∧ atoi (param option.2 2) % 65536 = 0 ∧
          atoi (param option.2 2) ≠ 0) := by
    decide +kernel
  obtain ⟨connections, payload, _, _, agrees⟩ := socks5_agrees_iff (ok_of_isOk configured .fresh)
    threeSpecs_requests small StdioTunnelRemote.waiting_starts (ReadStream.withQueue_queue .fresh _)
  exact ⟨connections, payload, agrees few clean⟩

/-- Two connections without a host; only the sixteen bits of the second port are zero. -/
def twoServers : List (List Byte) :=
  [text "-L", text "1080::0", text "-L", text "1081::65536", text "ssh"]

def twoConfigured : StdioTunnelLocal :=
  (StdioTunnelLocal.fresh.configure (fun _ => 0) twoServers).toOption.getD .fresh

def twoBegun : StdioTunnelLocal := (twoConfigured.start 3 4 {}).toOption.getD .fresh

/-- The request for both of them is sent as soon as the magic string has been read. -/
theorem twoServers_requests :
    Requests twoConfigured (Message.handshake twoBegun.connections).payload := by
  obtain ⟨started, returns, registered, queued, creates⟩ :
      (twoConfigured.start 3 4 {}).isOk = true ∧
      (twoBegun.dispatch Watched.greet.polled Watched.greet.poll_struct
        Watched.greet.calls).isOk = true ∧
      (3 : Int) ∈ (twoBegun.registrations Watched.greet.polled).map Pollfd.fd ∧
      (Message.handshake twoBegun.connections).payload ∈ twoBegun.toStdioTunnel.queued
        ((Watched.start twoBegun).after Watched.greet).endpoint.toStdioTunnel ∧
      isCreate (Message.handshake twoBegun.connections).payload = true := by
    decide +kernel
  obtain ⟨record, member, fd⟩ := List.mem_map.mp registered
  exact .intro (by decide) (ok_of_isOk started .fresh) .nil
    (Watched.step_after returns ⟨record, member, fd⟩ trivial) queued creates

/-- The port 65536 makes the remote side end with its fault. -/
theorem not_socks5_agrees :
    ¬ ∀ (bindStatus : ConnectionSpec → Int) (args : List (List Byte)) (l₀ : StdioTunnelLocal)
      (connections : List (Short × ConnectionSpec)) (stream : ReadStream),
      StdioTunnelLocal.fresh.configure bindStatus args = .ok l₀ →
      Requests l₀ (Message.handshake connections).payload →
      stream.m_queue = (Message.handshake connections).payload →
      Socks5Agrees connections (StdioTunnelRemote.waiting.withReader stream) := by
  intro agrees
  obtain ⟨configured, faults⟩ :
      (StdioTunnelLocal.fresh.configure (fun _ => 0) twoServers).isOk = true ∧
      (match (StdioTunnelRemote.waiting.withReader
          (.withQueue .fresh (Message.handshake twoBegun.connections).payload)).processFrame
          { getsockname := some 1080 } with
        | .error fault => decide (fault = StdioTunnelRemote.secondServer)
        | .ok _ => false) = true := by
    decide +kernel
  have agree := agrees _ _ twoConfigured twoBegun.connections _ (ok_of_isOk configured .fresh)
    twoServers_requests (ReadStream.withQueue_queue .fresh _)
  have avoided := agree.once { getsockname := some 1080 }
  split at faults
  · rename_i fault result
    rw [of_decide_eq_true faults] at result
    exact avoided result
  · cases faults

end Tun01
