import Tun01.Tunnel.Clients

/-!
# Agreement on the connections

When every socket call succeeds, the two endpoints have the same connections
after the handshake: one of them listens and the other one connects, and what
the request carries of a specification arrives unchanged.
-/

namespace Tun01

open StdioTunnel (stored listensFor Created)

/-! ## Arguments -/

namespace StdioTunnelLocal

variable {l l' : StdioTunnelLocal} {bindStatus : ConnectionSpec → Int} {count count' : Nat}

/-- `socks5_spec_count` counts the specifications for the socks5 server. -/
def Counts (l : StdioTunnelLocal) (socks5_spec_count : Nat) : Prop :=
  l.m_connection_specs.countP ConnectionSpec.isSocks5 = socks5_spec_count

theorem Counts.add {spec : ConnectionSpec} (counts : l.Counts count) :
    (l.addSpec spec).Counts (if spec.isSocks5 then count + 1 else count) := by
  unfold Counts addSpec at *
  rw [List.countP_append, counts, List.countP_singleton]
  split <;> rfl

theorem plainOption_counts {option : Byte} {value : List Byte} (counts : l.Counts count) :
    (l.plainOption option value).Counts count := by
  unfold plainOption
  repeat' split
  all_goals exact counts

theorem applyOption_counts {option : Byte} {value : List Byte} (counts : l.Counts count)
    (result : l.applyOption count bindStatus option value = .ok (l', count')) :
    l'.Counts count' := by
  cases applyOption_applies result with
  | @listen _ spec parses =>
      have other : spec.isSocks5 = false := by
        cases socks5 : spec.isSocks5 with
        | false => rfl
        | true => cases (parseConnection_parsed parses).socks5 socks5
      have added := @Counts.add _ _ spec counts
      rw [other] at added
      exact added
  | connect _ => exact counts.add
  | plain _ _ => exact plainOption_counts counts

theorem configureLoop_counts {args : List (List Byte)} {words : List Word} (counts : l.Counts count)
    (result : l.configureLoop count bindStatus args = .ok (l', count', words)) :
    l'.Counts count' := by
  induction l, count, args using configureLoop.induct generalizing words with
  | case1 l count =>
      cases result
      exact counts
  | case2 l count attached rest =>
      cases result
      exact counts
  | case3 l count option attached other ih =>
      rw [configureLoop.eq_3 _ _ _ _ _ other] at result
      obtain ⟨⟨l₁, count₁⟩, first, result⟩ := of_bind_ok result
      obtain ⟨⟨l₂, count₂, words₂⟩, later, same⟩ := of_map_ok result
      cases same
      exact ih l₁ count₁ (applyOption_counts counts first) later
  | case4 l count option attached next rest other separate ih =>
      rw [configureLoop.eq_4 _ _ _ _ _ _ _ other, if_pos separate] at result
      obtain ⟨⟨l₁, count₁⟩, first, result⟩ := of_bind_ok result
      obtain ⟨⟨l₂, count₂, words₂⟩, later, same⟩ := of_map_ok result
      cases same
      exact ih l₁ count₁ (applyOption_counts counts first) later
  | case5 l count option attached next rest other joined ih =>
      rw [configureLoop.eq_4 _ _ _ _ _ _ _ other, if_neg joined] at result
      obtain ⟨⟨l₁, count₁⟩, first, result⟩ := of_bind_ok result
      obtain ⟨⟨l₂, count₂, words₂⟩, later, same⟩ := of_map_ok result
      cases same
      exact ih l₁ count₁ (applyOption_counts counts first) later
  | case6 l count arg rest noDashes noOption noValue =>
      rw [configureLoop.eq_5 _ _ _ _ _ noDashes noOption noValue] at result
      cases result
      exact counts

/-- `configure` accepts one specification for the socks5 server at most. -/
theorem configure_socks5 {args : List (List Byte)}
    (result : fresh.configure bindStatus args = .ok l) :
    l.m_connection_specs.countP ConnectionSpec.isSocks5 ≤ 1 := by
  unfold configure at result
  obtain ⟨⟨l₁, count, words⟩, loop, result⟩ := of_bind_ok result
  have counts : l₁.Counts count := configureLoop_counts rfl loop
  dsimp only at result
  split at result
  · cases result
  · split at result
    · cases result
    · split at result
      · cases result
      · rename_i few
        rw [← Except.ok.inj result, counts]
        exact Nat.not_lt.mp few

end StdioTunnelLocal

namespace StdioTunnel

variable {t t' : StdioTunnel} {spec : ConnectionSpec} {is_local : Bool} {id : Int}
  {listen : ListenResult} {pConn : Option TunnelConnection}

/-- A listener that listens is created. -/
theorem CreateConnection_returns (t : StdioTunnel) (spec : ConnectionSpec) (is_local : Bool)
    (id : Int) : ∃ t' c, t.CreateConnection spec is_local id .listening = .ok (t', some c) := by
  unfold CreateConnection
  split
  · exact ⟨_, _, rfl⟩
  · exact ⟨_, _, rfl⟩

/-- `CreateConnection` leaves the map to its caller. -/
theorem CreateConnection_connection?
    (result : t.CreateConnection spec is_local id listen = .ok (t', pConn)) (x : Int) :
    t'.connection? x = t.connection? x := by
  unfold CreateConnection at result
  split at result
  · cases listen with
    | bindFailed errno => cases result
    | noSocket | fcntlFailed | listenFailed | listening =>
        obtain ⟨rfl, _⟩ := Prod.mk.inj (Except.ok.inj result)
        rfl
  · obtain ⟨rfl, _⟩ := Prod.mk.inj (Except.ok.inj result)
    rfl

theorem CreateConnection_spec {c : TunnelConnection}
    (result : t.CreateConnection spec is_local id listen = .ok (t', some c)) : c.m_spec = spec := by
  unfold CreateConnection at result
  split at result
  · cases listen with
    | bindFailed errno => cases result
    | noSocket | fcntlFailed | listenFailed => cases result
    | listening =>
        rw [← Option.some.inj (Prod.mk.inj (Except.ok.inj result)).2]
  · rw [← Option.some.inj (Prod.mk.inj (Except.ok.inj result)).2]

/-- After a connection is stored it is there, with those that were there before. -/
theorem stored_isSome {c : TunnelConnection} {x : Int}
    (known : x = id ∨ (t.connection? x).isSome) :
    ((stored id t (some c)).connection? x).isSome := by
  unfold stored
  rw [connection?_putConnection]
  split
  · rfl
  · rename_i other
    exact known.resolve_left fun same => other same.symm

end StdioTunnel

namespace StdioTunnelLocal

variable {l l' : StdioTunnelLocal} {calls : Calls}

/-- Every specification gets its connection when every listener listens. -/
theorem createConnections_complete {specs : List ConnectionSpec} {g_id : Short} {i : Nat}
    (listening : ∀ n, calls.listen n = .listening)
    (result : l.createConnections calls g_id i specs = .ok l') (x : Int)
    (known : (∃ k < specs.length, x = (Short.ofInt (g_id.val + (k : Nat))).val) ∨
      (l.connection? x).isSome) : (l'.connection? x).isSome := by
  induction specs generalizing l g_id i with
  | nil =>
      rw [← Except.ok.inj result]
      refine known.resolve_left ?_
      rintro ⟨k, no, _⟩
      exact absurd no (Nat.not_lt_zero k)
  | cons spec specs ih =>
      obtain ⟨t, c, creates⟩ := l.toStdioTunnel.CreateConnection_returns spec true g_id.val
      unfold createConnections at result
      rw [listening, creates, ok_bind] at result
      dsimp only at result
      rw [StdioTunnel.CreateConnection_id creates] at result
      refine ih result ?_
      have before : x = g_id.val ∨ (t.connection? x).isSome →
          ((stored g_id.val t (some c)).connection? x).isSome := StdioTunnel.stored_isSome
      rcases known with ⟨k, below, number⟩ | old
      · cases k with
        | zero =>
            refine Or.inr (before (Or.inl ?_))
            rw [number, Nat.cast_zero, add_zero, Short.ofInt_val]
        | succ k =>
            refine Or.inl ⟨k, Nat.lt_of_succ_lt_succ below, ?_⟩
            rw [number]
            congr 1
            rw [Short.ofInt_eq_iff, Short.val_ofInt]
            push_cast
            omega
      · refine Or.inr (before (Or.inr ?_))
        rw [StdioTunnel.CreateConnection_connection? creates]
        exact old

end StdioTunnelLocal

/-! ## The remote endpoint -/

/-- The system calls of a dispatch that handles the request all succeed. -/
structure Calls.Succeed (calls : Calls) : Prop where
  listening : ∀ n, calls.listen n = .listening
  server : ∃ fd, calls.server_setup = .ok fd
  fcntl : calls.fcntl = .ok ()
  port : ∃ port, calls.getsockname = some port

namespace StdioTunnelRemote

variable {r r' : StdioTunnelRemote} {calls : Calls}

/-- At most one of the connections asks for the server, as the remote side reads them. -/
def Lone (connections : List (Short × ConnectionSpec)) : Prop :=
  connections.Pairwise fun c d => c.2.received.isSocks5 = true → d.2.received.isSocks5 = false

theorem setupSocks5_returns (succeed : calls.Succeed) {spec : ConnectionSpec}
    (free : spec.isSocks5 = true → r.m_socks5_server = false) :
    ∃ r₁ spec', r.setupSocks5 spec calls = .ok (r₁, spec') ∧
      (spec.isSocks5 = false → r₁.m_socks5_server = r.m_socks5_server) := by
  obtain ⟨fd, server⟩ := succeed.server
  obtain ⟨port, named⟩ := succeed.port
  unfold setupSocks5
  cases socks5 : spec.isSocks5 with
  | false => exact ⟨r, spec, rfl, fun _ => rfl⟩
  | true =>
      rw [if_pos rfl, if_neg (by rw [free socks5]; exact Bool.false_ne_true), server,
        succeed.fcntl, named]
      exact ⟨_, _, rfl, fun no => by cases no⟩

/-- After a connection is created the rest of the frame is still in the queue of the reader. -/
theorem reading_stored {t t' : StdioTunnel} {rest : List Byte} {spec : ConnectionSpec} {id : Int}
    {listen : ListenResult} {pConn : Option TunnelConnection}
    (beside : (r.reading rest).toStdioTunnel.Beside t)
    (creates : t.CreateConnection spec false id listen = .ok (t', pConn)) (running : Bool) :
    StdioTunnelRemote.reading ⟨stored id t' pConn, r.m_state, running⟩ rest =
      ⟨stored id t' pConn, r.m_state, running⟩ := by
  have reader : t'.m_read_stream = t.m_read_stream :=
    (StdioTunnel.CreateConnection_streams creates).2.1
  have same : (stored id t' pConn).m_read_stream.withQueue rest =
      (stored id t' pConn).m_read_stream := by
    have kept : (stored id t' pConn).m_read_stream = t'.m_read_stream := by
      cases pConn <;> rfl
    rw [kept, reader, beside.reader]
    rfl
  unfold reading StdioTunnel.reading
  dsimp only
  rw [same]

/-- The connections of a request are created, and each of them is stored. -/
theorem createConnections_returns {connections : List (Short × ConnectionSpec)} {i : Nat}
    {rest : List Byte} (succeed : calls.Succeed)
    (small : ∀ c ∈ connections, c.2.m_connect_host.length < 2 ^ 32)
    (lone : Lone connections)
    (free : r.m_socks5_server = true → ∀ c ∈ connections, c.2.received.isSocks5 = false) :
    ∃ r', (r.reading (connections.flatMap Message.connection ++ rest)).createConnections calls i
        connections.length = .ok r' ∧
      ∀ x, (∃ c ∈ connections, x = c.1.val) ∨ (r.connection? x).isSome →
        (r'.connection? x).isSome := by
  induction connections generalizing r i with
  | nil => exact ⟨_, rfl, fun x known => known.resolve_left (by simp)⟩
  | cons c connections ih =>
      obtain ⟨others, lone⟩ := List.pairwise_cons.mp lone
      rw [List.flatMap_cons, List.append_assoc, List.length_cons,
        createConnections_succ c i _ _ (small c List.mem_cons_self)]
      obtain ⟨r₁, spec, server, kept⟩ := @setupSocks5_returns
        (r.reading (connections.flatMap Message.connection ++ rest)) calls succeed c.2.received
        (by
          intro socks5
          cases running : r.m_socks5_server with
          | false => exact running
          | true =>
              rw [free running c List.mem_cons_self] at socks5
              cases socks5)
      obtain ⟨t, running, rfl, beside, _⟩ := setupSocks5_spec server
      obtain ⟨t', conn, creates⟩ := t.CreateConnection_returns spec false c.1.val
      let r₂ : StdioTunnelRemote := ⟨stored c.1.val t' (some conn), r.m_state, running⟩
      have queue : r₂.reading (connections.flatMap Message.connection ++ rest) = r₂ :=
        reading_stored beside creates running
      obtain ⟨r', result, found⟩ := ih (r := r₂) (i := i + 1)
        (fun d member => small d (List.mem_cons_of_mem _ member)) lone (by
          intro server d member
          cases socks5 : c.2.received.isSocks5 with
          | true => exact others d member socks5
          | false =>
              refine free ?_ d (List.mem_cons_of_mem _ member)
              exact (kept socks5).symm.trans server)
      rw [queue] at result
      refine ⟨r', ?_, fun x known => found x ?_⟩
      · rw [server, ok_bind]
        dsimp only
        rw [succeed.listening, creates, ok_bind]
        exact result
      · have before : x = c.1.val ∨ (t'.connection? x).isSome →
            (r₂.connection? x).isSome := StdioTunnel.stored_isSome
        have same : t'.connection? x = r.connection? x :=
          (StdioTunnel.CreateConnection_connection? creates x).trans (beside.connection? x)
        rw [same] at before
        rcases known with ⟨d, member, number⟩ | old
        · rcases List.mem_cons.mp member with rfl | later
          · exact Or.inr (before (Or.inl number))
          · exact Or.inl ⟨d, later, number⟩
        · exact Or.inr (before (Or.inr old))

end StdioTunnelRemote

/-! ## The specifications of the local endpoint -/

/-- A predicate that holds at most once holds at one position. -/
theorem position_unique {α : Type} {p : α → Bool} {l : List α} (few : l.countP p ≤ 1) {i j : Nat}
    {a b : α} (first : l[i]? = some a) (second : l[j]? = some b) (holds : p a = true)
    (holds' : p b = true) : i = j := by
  have later : ∀ {l : List α} {k : Nat} {c : α}, l[k]? = some c → p c = true → 0 < l.countP p :=
    fun found holds => List.countP_pos_iff.mpr ⟨_, List.mem_of_getElem? found, holds⟩
  induction l generalizing i j with
  | nil => cases first
  | cons x l ih =>
      have split := List.countP_cons (p := p) (a := x) (l := l)
      cases i with
      | zero =>
          cases j with
          | zero => rfl
          | succ j =>
              obtain rfl := Option.some.inj first
              rw [if_pos holds] at split
              have more := later (List.getElem?_cons_succ ▸ second) holds'
              omega
      | succ i =>
          cases j with
          | zero =>
              obtain rfl := Option.some.inj second
              rw [if_pos holds'] at split
              have more := later (List.getElem?_cons_succ ▸ first) holds
              omega
          | succ j =>
              refine congrArg Nat.succ (ih (by omega) (List.getElem?_cons_succ ▸ first)
                (List.getElem?_cons_succ ▸ second))

namespace StdioTunnel

variable {t t' : StdioTunnel}

/-- The connections are the specifications, by position. -/
structure Specified (t : StdioTunnel) (specs : List ConnectionSpec) : Prop where
  here : ∀ (k : Nat) spec, specs[k]? = some spec →
    t.kind? k = some (spec, decide (spec.m_connection_type = .CONNECT))
  nowhere : ∀ x, (∀ k < specs.length, (k : Int) ≠ x) → t.kind? x = none

theorem Specified.same {specs : List ConnectionSpec} (specified : t.Specified specs)
    (kind : ∀ x, t'.kind? x = t.kind? x) : t'.Specified specs where
  here := fun k spec found => (kind k).trans (specified.here k spec found)
  nowhere := fun x other => (kind x).trans (specified.nowhere x other)

/-- The position of a connection that is stored. -/
theorem Specified.position {specs : List ConnectionSpec} (specified : t.Specified specs) {x : Int}
    {c : TunnelConnection} (found : t.connection? x = some c) :
    ∃ k : Nat, x = k ∧ specs[k]? = some c.m_spec ∧
      c.role.listens = decide (c.m_spec.m_connection_type = .CONNECT) := by
  have kind := kind?_of_connection found
  by_cases some' : ∃ k < specs.length, (k : Int) = x
  · obtain ⟨k, inside, rfl⟩ := some'
    have here := specified.here k specs[k] (List.getElem?_eq_getElem inside)
    rw [kind] at here
    obtain ⟨spec, role⟩ := Prod.mk.inj (Option.some.inj here)
    exact ⟨k, rfl, by rw [spec]; exact List.getElem?_eq_getElem inside, by rw [spec]; exact role⟩
  · rw [specified.nowhere x fun k inside same => some' ⟨k, inside, same⟩] at kind
    cases kind

end StdioTunnel

theorem Short.val_ofInt_nat {k : Nat} (small : k ≤ 32767) : (Short.ofInt k).val = k :=
  Short.val_ofInt_of_range (by omega) (by omega)

namespace StdioTunnelLocal

variable {l₀ l : StdioTunnelLocal} {bindStatus : ConnectionSpec → Int} {args : List (List Byte)}
  {read_fd write_fd : Int} {calls : Calls}

/-- After the start every specification has its connection. -/
theorem start_specified (configured : fresh.configure bindStatus args = .ok l₀)
    (few : l₀.m_connection_specs.length ≤ 32767) (pipes : read_fd ≠ write_fd)
    (start : l₀.start read_fd write_fd calls = .ok l)
    (listening : ∀ n, calls.listen n = .listening) :
    l.toStdioTunnel.Specified l₀.m_connection_specs := by
  obtain ⟨l₁, creates, connects, rfl⟩ :=
    start_started (configure_configures configured).state start
  have specs : ((l₁.armed write_fd).registered).m_connection_specs = l₀.m_connection_specs := by
    change l₁.m_connection_specs = _
    rw [connects.same]
  obtain ⟨populated, _, _⟩ := (Begun.mk configured pipes start).populated (by rw [specs]; omega)
  rw [specs] at populated
  have complete := createConnections_complete listening creates
  refine ⟨fun k spec found => ?_, fun x other => ?_⟩
  · have inside : k < l₀.m_connection_specs.length := (List.getElem?_eq_some_iff.mp found).1
    have stored := complete k (Or.inl ⟨k, inside, by
      rw [show (Short.ofInt 0).val = 0 from rfl, zero_add, Short.val_ofInt_nat (by omega)]⟩)
    obtain ⟨c, known⟩ := Option.isSome_iff_exists.mp stored
    have known' : (l₁.armed write_fd).registered.connection? k = some c :=
      ((registered_aside (l₁.armed write_fd)).connection? k).trans known
    obtain ⟨k', spec', below, number, here, created⟩ := populated.connections k c known'
    rw [Short.val_ofInt_nat (by omega), Nat.cast_inj] at number
    rw [← number, found] at here
    exact populated.kind.mpr ⟨⟨c, known', by rw [created.spec, ← Option.some.inj here]⟩, rfl⟩
  · unfold StdioTunnel.kind? StdioTunnel.bare?
    cases found : (l₁.armed write_fd).registered.connection? x with
    | none => rfl
    | some c =>
        obtain ⟨k, _, below, number, _⟩ := populated.connections x c found
        rw [Short.val_ofInt_nat (by omega)] at number
        exact absurd number.symm (other k below)

end StdioTunnelLocal

namespace Watched

open StdioTunnelLocal (Begun)

variable {w w' : Watched} {l : StdioTunnelLocal} {event : Event} {events : List Event}

/-- The local endpoint keeps its connections. -/
theorem kind_run (begun : Begun l) (run : Run Step (start l) events w) (x : Int) :
    w.endpoint.kind? x = l.kind? x := by
  induction run with
  | nil => rfl
  | @snoc _ w₁ _ _ earlier last ih =>
      have turn := Endpoint.dispatch_turn (e := .localEnd w₁.endpoint)
        (kept_run begun earlier).keyed last.step.result
      exact (turn.kind x).trans ih

/-- A frame with the command `CMD_CREATE` lists the connections. -/
theorem Step.greeting (step : Step w event w') (kept : w.Kept) {payload : List Byte}
    (sent : payload ∈ w.endpoint.queued w'.endpoint.toStdioTunnel)
    (creates : isCreate payload = true) :
    payload = (Message.handshake w.endpoint.connections).payload := by
  cases step.advance kept with
  | passes self state passes =>
      rw [StdioTunnel.queued, StdioTunnel.frames_of_emitting passes.writer, List.drop_left] at sent
      exact (List.mem_replicate.mp sent).2
  | speaks queues plain state idle read_fd write_fd =>
      rw [queues.queued] at sent
      obtain ⟨m, member, rfl⟩ := List.mem_map.mp sent
      rw [Message.isCreate_payload, plain m member] at creates
      cases creates

end Watched

/-! ## The handshake -/

/-- The local and the remote end of the connection for a specification. -/
structure Agree (spec : ConnectionSpec) (c d : TunnelConnection) : Prop where
  given : c.m_spec = spec
  direction : c.role.listens = decide (spec.m_connection_type = .CONNECT)
  opposite : d.role.listens = !c.role.listens
  connection_type : d.m_spec.m_connection_type = spec.m_connection_type
  flags : d.m_spec.m_flags = spec.m_flags
  listen_port : ConnectionSpec.portBits d.m_spec.m_listen_port =
    ConnectionSpec.portBits spec.m_listen_port
  target : spec.isSocks5 = false → d.m_spec.m_connect_host = spec.m_connect_host ∧
    ConnectionSpec.portBits d.m_spec.m_connect_port = ConnectionSpec.portBits spec.m_connect_port

open StdioTunnelRemote (Rewrites Accepts)

/-- What the remote endpoint stores for a specification that was parsed. -/
theorem agree_of_created {spec spec' : ConnectionSpec} {direction : Direction}
    {c d : TunnelConnection} {x : Int} (parsed : spec.Parsed direction)
    (isOption : direction = .LISTEN ∨ direction = .CONNECT) (small : spec.m_connect_port ≤ 65535)
    (given : c.m_spec = spec)
    (role : c.role.listens = decide (spec.m_connection_type = .CONNECT))
    (rewrites : Rewrites spec.received spec') (created : Created spec' (listensFor false spec') x d) :
    Agree spec c d := by
  have type : spec'.m_connection_type = spec.m_connection_type := by
    have received : spec.received.m_connection_type = spec.m_connection_type := by
      change Direction.ofShort spec.m_connection_type.toShort = _
      rw [parsed.direction]
      rcases isOption with type | type <;> rw [type] <;> rfl
    rcases rewrites with ⟨_, rfl⟩ | ⟨_, port, rfl⟩ <;> exact received
  have flags : spec'.m_flags = spec.m_flags := by
    have received : spec.received.m_flags = spec.m_flags := by
      change (Short.ofInt spec.m_flags).val = _
      rcases parsed.flags with value | value | value | value <;> rw [value] <;> rfl
    rcases rewrites with ⟨_, rfl⟩ | ⟨_, port, rfl⟩ <;> exact received
  have listen : ConnectionSpec.portBits spec'.m_listen_port =
      ConnectionSpec.portBits spec.m_listen_port := by
    have received := ConnectionSpec.portBits_received spec.m_listen_port
    rcases rewrites with ⟨_, rfl⟩ | ⟨_, port, rfl⟩ <;> exact received
  refine ⟨given, role, ?_, ?_, ?_, ?_, fun other => ?_⟩
  · rw [created.listens, role, ← type]
    unfold listensFor
    rw [type, parsed.direction]
    rcases isOption with type | type <;> rw [type] <;> rfl
  · rw [created.spec, type]
  · rw [created.spec, flags]
  · rw [created.spec, listen]
  · have socks5 := spec.received_isSocks5 parsed.connect_port small
    rw [other] at socks5
    rcases rewrites with ⟨_, rfl⟩ | ⟨rewritten, _⟩
    · rw [created.spec]
      exact ⟨rfl, ConnectionSpec.portBits_received spec.m_connect_port⟩
    · rw [socks5] at rewritten
      cases rewritten

namespace StdioTunnelRemote

variable {r : StdioTunnelRemote} {calls : Calls} {connections : List (Short × ConnectionSpec)}

/-- A remote endpoint without connections handles a request whole. -/
theorem request_handled (sound : r.Sound) (state : r.m_state = .HANDSHAKING)
    (empty : ∀ x, r.connection? x = none) (idle : r.m_socks5_server = false)
    (succeed : calls.Succeed) (few : connections.length ≤ 32767)
    (distinct : (connections.map Prod.fst).Nodup) (lone : Lone connections)
    (small : ∀ c ∈ connections, c.2.m_connect_host.length < 2 ^ 32) :
    ∃ r', (r.reading (Message.handshake connections).payload).processFrame calls = .ok r' ∧
      r'.m_state = .CONNECTED ∧ r'.m_read_stream.m_queue = [] ∧
      (∀ x, (∀ c ∈ connections, c.1.val ≠ x) → r'.connection? x = none) ∧
      ∀ c ∈ connections, ∃ spec' d, Rewrites c.2.received spec' ∧
        r'.connection? c.1.val = some d ∧ Created spec' (listensFor false spec') c.1.val d := by
  obtain ⟨r₁, created, found⟩ := @createConnections_returns r calls connections 0 [] succeed small
    lone (fun running => by rw [idle] at running; cases running)
  have accepted := createConnections_accepted sound distinct (fun c _ => empty c.1.val) small
    created
  rw [List.append_nil] at created
  have request := @processFrame_request r calls connections state few
  rw [created, ok_bind, send_agreed accepted.sound.ready] at request
  refine ⟨_, request, rfl, ?_, fun x other => ?_, fun c member => ?_⟩
  · change r₁.m_read_stream.m_queue = []
    rw [accepted.reader]
    rfl
  · exact (accepted.others x other).trans (empty x)
  · obtain ⟨spec', rewrites, own⟩ := accepted.own c member
    have stored := found c.1.val (Or.inl ⟨c, member, rfl⟩)
    rcases own with ⟨_, none⟩ | ⟨d, known, isCreated⟩
    · rw [none] at stored
      cases stored
    · exact ⟨spec', d, rewrites, known, isCreated⟩

end StdioTunnelRemote

/-- A request whose specifications are the same on both sides asks for one server at most. -/
theorem lone_of_positions {specs : List ConnectionSpec}
    {connections : List (Short × ConnectionSpec)}
    (same : ∀ c ∈ connections, c.2.received.isSocks5 = c.2.isSocks5)
    (few : specs.countP ConnectionSpec.isSocks5 ≤ 1)
    (distinct : (connections.map Prod.fst).Nodup)
    (positions : ∀ c ∈ connections, ∃ k : Nat, c.1 = Short.ofInt k ∧ specs[k]? = some c.2) :
    StdioTunnelRemote.Lone connections := by
  refine (List.pairwise_map.mp distinct).imp_of_mem fun {c d} inC inD other socks5 => ?_
  obtain ⟨i, isC, atC⟩ := positions c inC
  obtain ⟨j, isD, atD⟩ := positions d inD
  refine eq_false_of_ne_true fun both => other ?_
  rw [same c inC] at socks5
  rw [same d inD] at both
  rw [isC, isD, position_unique few atC atD socks5 both]

/--
After the remote endpoint has handled the request, each specification the local
endpoint was given has a connection at both ends, under its position, in
opposite roles and with the same parameters.  There are no other connections,
and nothing of the request is left.
-/
theorem handshake_agrees {bindStatus : ConnectionSpec → Int} {args : List (List Byte)}
    {l₀ l : StdioTunnelLocal} {read_fd write_fd : Int} {calls : Calls}
    (configured : StdioTunnelLocal.fresh.configure bindStatus args = .ok l₀)
    (few : l₀.m_connection_specs.length ≤ 32767)
    (ports : ∀ spec ∈ l₀.m_connection_specs, spec.m_connect_port ≤ 65535)
    (pipes : read_fd ≠ write_fd) (start : l₀.start read_fd write_fd calls = .ok l)
    (listening : ∀ n, calls.listen n = .listening) {events : List Event} {w w' : Watched}
    {event : Event} (run : Run Watched.Step (.start l) events w) (greets : Watched.Step w event w')
    {payload : List Byte} (sent : payload ∈ w.endpoint.queued w'.endpoint.toStdioTunnel)
    (creates : isCreate payload = true) (small : payload.length < 2 ^ 32)
    {write fcntl : SysResult Unit} {r : StdioTunnelRemote} {remoteCalls : Calls}
    {stream : ReadStream} (waits : StdioTunnelRemote.fresh.start write fcntl = .ok r)
    (frame : stream.m_queue = payload) (succeed : remoteCalls.Succeed) :
    ∃ r', (r.withReader stream).processFrame remoteCalls = .ok r' ∧
      r'.m_state = .CONNECTED ∧ r'.m_read_stream.m_queue = [] ∧
      (∀ (k : Nat) spec, l₀.m_connection_specs[k]? = some spec →
        ∃ c d, w'.endpoint.connection? k = some c ∧ r'.connection? k = some d ∧ Agree spec c d) ∧
      ∀ x, (∀ k < l₀.m_connection_specs.length, (k : Int) ≠ x) →
        w'.endpoint.connection? x = none ∧ r'.connection? x = none := by
  have begun := StdioTunnelLocal.Begun.mk configured pipes start
  have kept := Watched.kept_run begun run
  have started := StdioTunnelLocal.start_specified configured few pipes start listening
  have specified := started.same (Watched.kind_run begun run)
  have later := started.same (Watched.kind_run begun (run.snoc greets))
  obtain rfl := greets.greeting kept sent creates
  obtain rfl := StdioTunnelRemote.start_waiting waits
  have named : w.endpoint.Named := kept.keyed.toNamed
  -- the entries of the request are the specifications, by position
  have listed : ∀ c ∈ w.endpoint.connections, ∃ k : Nat, c.1.val = k ∧
      l₀.m_connection_specs[k]? = some c.2 := by
    intro c member
    obtain ⟨conn, found, spec⟩ := (StdioTunnel.mem_connections named).mp member
    obtain ⟨k, same, here, _⟩ := specified.position found
    exact ⟨k, same, spec ▸ here⟩
  have parsed : ∀ spec ∈ l₀.m_connection_specs,
      ∃ direction, (direction = .LISTEN ∨ direction = .CONNECT) ∧ spec.Parsed direction := by
    intro spec member
    rcases (StdioTunnelLocal.configure_configures configured).specs spec member with no | parsed
    · cases no
    · exact parsed
  have distinct := StdioTunnel.connections_nodup named
  have count : w.endpoint.connections.length ≤ 32767 := by
    have subset : (w.endpoint.connections.map Prod.fst).length ≤
        (numbered 0 l₀.m_connection_specs.length).length := by
      refine (List.subperm_of_subset distinct fun id member => ?_).length_le
      obtain ⟨c, inList, rfl⟩ := List.mem_map.mp member
      obtain ⟨k, same, here⟩ := listed c inList
      refine List.mem_map.mpr ⟨k, List.mem_range.mpr (List.getElem?_eq_some_iff.mp here).1, ?_⟩
      rw [zero_add, ← same, Short.ofInt_val]
    rw [List.length_map, numbered_length] at subset
    omega
  have lone : StdioTunnelRemote.Lone w.endpoint.connections := by
    refine lone_of_positions (fun c member => ?_) (StdioTunnelLocal.configure_socks5 configured)
      distinct fun c member => ?_
    · obtain ⟨k, _, here⟩ := listed c member
      have inSpecs := List.mem_of_getElem? here
      obtain ⟨_, _, parses⟩ := parsed c.2 inSpecs
      exact c.2.received_isSocks5 parses.connect_port (ports c.2 inSpecs)
    · obtain ⟨k, number, here⟩ := listed c member
      exact ⟨k, by rw [← number, Short.ofInt_val], here⟩
  obtain ⟨r', handled, state, quiet, others, own⟩ := @StdioTunnelRemote.request_handled
    (.withReader .waiting (stream.withQueue [])) remoteCalls w.endpoint.connections
    (System.waiting_sound.withReader _) rfl (fun _ => rfl) rfl succeed count distinct lone
    (fun c member => Nat.lt_of_le_of_lt (Message.host_le member) small)
  refine ⟨r', ?_, state, quiet, fun k spec here => ?_, fun x other => ⟨?_, ?_⟩⟩
  · rw [← handled]
    unfold StdioTunnelRemote.reading StdioTunnel.reading StdioTunnelRemote.withReader
    rw [← frame]
    rfl
  · have stored : ∀ {t : StdioTunnel}, t.Specified l₀.m_connection_specs →
        ∃ c, t.connection? k = some c ∧ c.m_spec = spec ∧
          c.role.listens = decide (spec.m_connection_type = .CONNECT) := by
      intro t specified
      have kind := specified.here k spec here
      unfold StdioTunnel.kind? StdioTunnel.bare? at kind
      cases known : t.connection? k with
      | none =>
          rw [known] at kind
          cases kind
      | some c =>
          rw [known] at kind
          obtain ⟨isSpec, role⟩ := Prod.mk.inj (Option.some.inj kind)
          exact ⟨c, rfl, isSpec, role⟩
    have number : (Short.ofInt k).val = k := Short.val_ofInt_nat
      (Nat.le_of_lt (Nat.lt_of_lt_of_le (List.getElem?_eq_some_iff.mp here).1 few))
    obtain ⟨c, known, given, role⟩ := stored later
    obtain ⟨c', known', given', _⟩ := stored specified
    have member : (Short.ofInt k, spec) ∈ w.endpoint.connections :=
      (StdioTunnel.mem_connections named).mpr ⟨c', by rw [number]; exact known', given'⟩
    obtain ⟨spec', d, rewrites, found, created⟩ := own _ member
    obtain ⟨direction, isOption, parses⟩ := parsed spec (List.mem_of_getElem? here)
    refine ⟨c, d, known, by rw [← number]; exact found, agree_of_created parses isOption
      (ports spec (List.mem_of_getElem? here)) given role rewrites created⟩
  · have kind := later.nowhere x other
    cases known : w'.endpoint.connection? x with
    | none => rfl
    | some c =>
        rw [StdioTunnel.kind?_of_connection known] at kind
        cases kind
  · refine others x fun c member same => ?_
    obtain ⟨k, number, here⟩ := listed c member
    exact other k (List.getElem?_eq_some_iff.mp here).1 (number.symm.trans same)

def threeSpecs : List (List Byte) :=
  [text "-L", text "8080:host:80", text "-R", text "40000:there:50000:a", text "-L",
    text "1080::0", text "ssh"]

def threeConfigured : StdioTunnelLocal :=
  (StdioTunnelLocal.fresh.configure (fun _ => 0) threeSpecs).toOption.getD .fresh

def threeBegun : StdioTunnelLocal := (threeConfigured.start 3 4 {}).toOption.getD .fresh

theorem ok_of_isOk {σ : Type} {x : Except Fault σ} (isOk : x.isOk = true) (d : σ) :
    x = .ok (x.toOption.getD d) := by
  cases x with
  | ok a => rfl
  | error fault => cases isOk

theorem handshake_agrees_threeSpecs :
    ∃ r', (StdioTunnelRemote.waiting.withReader
        (.withQueue .fresh (Message.handshake threeBegun.connections).payload)).processFrame
        { getsockname := some 1080 } = .ok r' ∧
      ∀ (k : Nat) spec, threeConfigured.m_connection_specs[k]? = some spec →
        ∃ c d, ((Watched.start threeBegun).after Watched.greet).endpoint.connection? k = some c ∧
          r'.connection? k = some d ∧ Agree spec c d := by
  obtain ⟨configured, started, few, ports⟩ :
      (StdioTunnelLocal.fresh.configure (fun _ => 0) threeSpecs).isOk = true ∧
      (threeConfigured.start 3 4 {}).isOk = true ∧
      threeConfigured.m_connection_specs.length ≤ 32767 ∧
      ∀ spec ∈ threeConfigured.m_connection_specs, spec.m_connect_port ≤ 65535 := by
    decide +kernel
  obtain ⟨returns, registered, queued, creates, small⟩ :
      (threeBegun.dispatch Watched.greet.polled Watched.greet.poll_struct
        Watched.greet.calls).isOk = true ∧
      (3 : Int) ∈ (threeBegun.registrations Watched.greet.polled).map Pollfd.fd ∧
      (Message.handshake threeBegun.connections).payload ∈ threeBegun.toStdioTunnel.queued
        ((Watched.start threeBegun).after Watched.greet).endpoint.toStdioTunnel ∧
      isCreate (Message.handshake threeBegun.connections).payload = true ∧
      (Message.handshake threeBegun.connections).payload.length < 2 ^ 32 := by
    decide +kernel
  obtain ⟨record, member, fd⟩ := List.mem_map.mp registered
  have succeed : Calls.Succeed { getsockname := some 1080 } :=
    ⟨fun _ => rfl, ⟨0, rfl⟩, rfl, 1080, rfl⟩
  obtain ⟨r', handled, _, _, agree, _⟩ := handshake_agrees (ok_of_isOk configured .fresh) few ports
    (by decide) (ok_of_isOk started .fresh) (fun _ => rfl) .nil
    (Watched.step_after returns ⟨record, member, fd⟩ trivial) queued creates small
    StdioTunnelRemote.waiting_starts (ReadStream.withQueue_queue .fresh _) succeed
  exact ⟨r', handled, agree⟩

end Tun01
