import Tun01.Tunnel.Reachable

/-!
# Where endpoints start

The arguments, the connections made from them, and the state in which the
polling loops of both endpoints begin.
-/

namespace Tun01

namespace StdioTunnel

theorem fresh_linkless (side : Side) : (fresh side).Linkless :=
  ⟨fun _ _ => rfl, fun _ _ _ => rfl⟩

theorem fresh_named (side : Side) : (fresh side).Named where
  keys := fun _ _ found => by cases found
  ids := fun _ _ _ found => by cases found

/-- A connection that is created carries its identifier. -/
theorem CreateConnection_id {t t' : StdioTunnel} {spec : ConnectionSpec} {is_local : Bool} {id : Int}
    {listen : ListenResult} {c : TunnelConnection}
    (result : t.CreateConnection spec is_local id listen = .ok (t', some c)) : c.m_id = id := by
  unfold CreateConnection at result
  split at result
  · cases listen with
    | noSocket | fcntlFailed | listenFailed =>
        obtain ⟨_, no⟩ := Prod.mk.inj (Except.ok.inj result)
        cases no
    | bindFailed errno => cases result
    | listening =>
        obtain ⟨_, same⟩ := Prod.mk.inj (Except.ok.inj result)
        rw [← Option.some.inj same]
  · obtain ⟨_, same⟩ := Prod.mk.inj (Except.ok.inj result)
    rw [← Option.some.inj same]

/-- No frame is queued and nothing is read while connections are created. -/
theorem CreateConnection_streams {t t' : StdioTunnel} {spec : ConnectionSpec} {is_local : Bool}
    {id : Int} {listen : ListenResult} {pConn : Option TunnelConnection}
    (result : t.CreateConnection spec is_local id listen = .ok (t', pConn)) :
    t'.m_write_stream = t.m_write_stream ∧ t'.m_read_stream = t.m_read_stream ∧
      t'.m_closed_by_request = t.m_closed_by_request := by
  unfold CreateConnection at result
  split at result
  · cases listen with
    | noSocket | fcntlFailed | listenFailed | listening =>
        obtain ⟨rfl, _⟩ := Prod.mk.inj (Except.ok.inj result)
        exact ⟨rfl, rfl, rfl⟩
    | bindFailed errno => cases result
  · obtain ⟨rfl, _⟩ := Prod.mk.inj (Except.ok.inj result)
    exact ⟨rfl, rfl, rfl⟩

end StdioTunnel

/-! ## The local endpoint -/

namespace StdioTunnelLocal

variable {l l' : StdioTunnelLocal} {calls : Calls} {bindStatus : ConnectionSpec → Int}

/-- What the arguments change. -/
structure Configures (l l' : StdioTunnelLocal) : Prop where
  base : l'.toStdioTunnel = l.toStdioTunnel
  state : l'.m_state = l.m_state
  typed : l'.m_write_buffer = l.m_write_buffer
  shown : l'.m_read_buffer.toSockBuffer = l.m_read_buffer.toSockBuffer
  magic : l'.m_read_buffer.m_magic_string = l.m_read_buffer.m_magic_string
  recognized : l'.m_read_buffer.m_recognized_count = l.m_read_buffer.m_recognized_count
  specs : ∀ spec ∈ l'.m_connection_specs, spec ∈ l.m_connection_specs ∨
    ∃ direction, (direction = .LISTEN ∨ direction = .CONNECT) ∧ spec.Parsed direction

namespace Configures

theorem refl (l : StdioTunnelLocal) : Configures l l :=
  ⟨rfl, rfl, rfl, rfl, rfl, rfl, fun _ member => Or.inl member⟩

theorem trans {l'' : StdioTunnelLocal} (first : Configures l l') (second : Configures l' l'') :
    Configures l l'' where
  base := second.base.trans first.base
  state := second.state.trans first.state
  typed := second.typed.trans first.typed
  shown := second.shown.trans first.shown
  magic := second.magic.trans first.magic
  recognized := second.recognized.trans first.recognized
  specs := by
    intro spec member
    rcases second.specs spec member with old | new
    · exact first.specs spec old
    · exact Or.inr new

/-- A specification is added. -/
theorem addSpec {direction : Direction} {value : List Byte} {spec : ConnectionSpec}
    (isOption : direction = .LISTEN ∨ direction = .CONNECT)
    (parses : parseConnection direction value = .ok spec) :
    Configures l { l with m_connection_specs := l.m_connection_specs ++ [spec] } where
  base := rfl
  state := rfl
  typed := rfl
  shown := rfl
  magic := rfl
  recognized := rfl
  specs := by
    intro spec' member
    rcases List.mem_append.mp member with old | new
    · exact Or.inl old
    · rw [List.mem_singleton.mp new]
      exact Or.inr ⟨direction, isOption, parseConnection_parsed parses⟩

end Configures

def addSpec (l : StdioTunnelLocal) (spec : ConnectionSpec) : StdioTunnelLocal :=
  { l with m_connection_specs := l.m_connection_specs ++ [spec] }

/-- What `-s` makes of the result of `bindStatus`. -/
def bindFault (bindStatus : ConnectionSpec → Int) (spec : ConnectionSpec) : Option Fault :=
  if bindStatus spec < 0 then some (.exceptionErrno (.other 0))
  else if bindStatus spec = 1 then some (.silent "Already run in background.")
  else none

/-- The options that define no connection. -/
def plainOption (l : StdioTunnelLocal) (option : Byte) (value : List Byte) : StdioTunnelLocal :=
  if option = 84 then { l with m_force_pipe := true }
  else if option = 116 then { l with m_expects_pipe := true }
  else if option = 100 then { l with m_daemon := true }
  else if option = 115 then { l with m_silent := true }
  else if option = 112 then
    { l with m_read_buffer := { l.m_read_buffer with m_login_pattern := value } }
  else if option = 99 then
    { l with m_read_buffer := { l.m_read_buffer with m_remote_cmd := value } }
  else l

theorem applyOption_listen (l : StdioTunnelLocal) (count : Nat)
    (bindStatus : ConnectionSpec → Int) (value : List Byte) :
    l.applyOption count bindStatus 82 value =
      (parseConnection .LISTEN value).map fun spec => (l.addSpec spec, count) := rfl

theorem applyOption_connect (l : StdioTunnelLocal) (count : Nat)
    (bindStatus : ConnectionSpec → Int) (value : List Byte) :
    l.applyOption count bindStatus 76 value = (parseConnection .CONNECT value).bind fun spec =>
      match if l.m_silent then bindFault bindStatus spec else none with
      | some fault => .error fault
      | none => .ok (l.addSpec spec, if spec.isSocks5 then count + 1 else count) := by
  unfold applyOption bindFault
  rw [if_neg (by decide), if_pos rfl]
  cases parseConnection .CONNECT value with
  | error fault => rfl
  | ok spec =>
      rw [ok_bind]
      unfold Except.bind
      dsimp only
      by_cases silent : l.m_silent = true
      · rw [if_pos silent, if_pos silent]
        split
        · rfl
        · split <;> rfl
      · rw [if_neg silent, if_neg silent]
        rfl

theorem applyOption_plain (l : StdioTunnelLocal) (count : Nat)
    (bindStatus : ConnectionSpec → Int) {option : Byte} (value : List Byte)
    (noListen : option ≠ 82) (noConnect : option ≠ 76) :
    l.applyOption count bindStatus option value = .ok (l.plainOption option value, count) := by
  unfold applyOption plainOption
  rw [if_neg noListen, if_neg noConnect]
  repeat' split
  all_goals rfl

/-- What an option that is accepted does. -/
inductive Applies (l : StdioTunnelLocal) (bindStatus : ConnectionSpec → Int) (count : Nat) :
    Byte → List Byte → StdioTunnelLocal → Nat → Prop where
  | listen {value : List Byte} {spec : ConnectionSpec}
      (parses : parseConnection .LISTEN value = .ok spec) :
      Applies l bindStatus count 82 value (l.addSpec spec) count
  | connect {value : List Byte} {spec : ConnectionSpec}
      (parses : parseConnection .CONNECT value = .ok spec) :
      Applies l bindStatus count 76 value (l.addSpec spec)
        (if spec.isSocks5 then count + 1 else count)
  | plain {option : Byte} {value : List Byte} (noListen : option ≠ 82) (noConnect : option ≠ 76) :
      Applies l bindStatus count option value (l.plainOption option value) count

theorem applyOption_applies {count count' : Nat} {option : Byte} {value : List Byte}
    (result : l.applyOption count bindStatus option value = .ok (l', count')) :
    Applies l bindStatus count option value l' count' := by
  by_cases isListen : option = 82
  · subst isListen
    rw [applyOption_listen] at result
    obtain ⟨spec, parses, same⟩ := of_map_ok result
    obtain ⟨rfl, rfl⟩ := Prod.mk.inj same
    exact .listen parses
  by_cases isConnect : option = 76
  · subst isConnect
    rw [applyOption_connect] at result
    obtain ⟨spec, parses, result⟩ := of_bind_ok result
    split at result
    · cases result
    · obtain ⟨rfl, rfl⟩ := Prod.mk.inj (Except.ok.inj result)
      exact .connect parses
  · rw [applyOption_plain l count bindStatus value isListen isConnect] at result
    obtain ⟨rfl, rfl⟩ := Prod.mk.inj (Except.ok.inj result)
    exact .plain isListen isConnect

/-- An option without a connection changes one member at most. -/
theorem plainOption_configures (l : StdioTunnelLocal) (option : Byte) (value : List Byte) :
    Configures l (l.plainOption option value) := by
  unfold plainOption
  repeat' split
  all_goals exact ⟨rfl, rfl, rfl, rfl, rfl, rfl, fun _ member => Or.inl member⟩

theorem applyOption_configures {count count' : Nat} {option : Byte} {value : List Byte}
    (result : l.applyOption count bindStatus option value = .ok (l', count')) :
    Configures l l' := by
  cases applyOption_applies result with
  | listen parses => exact .addSpec (Or.inl rfl) parses
  | connect parses => exact .addSpec (Or.inr rfl) parses
  | plain _ _ => exact l.plainOption_configures option value

theorem configureLoop_configures {count count' : Nat} {args : List (List Byte)}
    {words : List Word}
    (result : l.configureLoop count bindStatus args = .ok (l', count', words)) :
    Configures l l' := by
  induction l, count, args using configureLoop.induct generalizing words with
  | case1 l count =>
      obtain ⟨rfl, _⟩ := Prod.mk.inj (Except.ok.inj result)
      exact .refl _
  | case2 l count attached rest =>
      obtain ⟨rfl, _⟩ := Prod.mk.inj (Except.ok.inj result)
      exact ⟨rfl, rfl, rfl, rfl, rfl, rfl, fun _ member => Or.inl member⟩
  | case3 l count option attached other ih =>
      rw [configureLoop.eq_3 _ _ _ _ _ other] at result
      obtain ⟨⟨l₁, count₁⟩, first, result⟩ := of_bind_ok result
      obtain ⟨⟨l₂, count₂, words₂⟩, later, same⟩ := of_map_ok result
      cases same
      exact (applyOption_configures first).trans (ih l₁ count₁ later)
  | case4 l count option attached next rest other separate ih =>
      rw [configureLoop.eq_4 _ _ _ _ _ _ _ other, if_pos separate] at result
      obtain ⟨⟨l₁, count₁⟩, first, result⟩ := of_bind_ok result
      obtain ⟨⟨l₂, count₂, words₂⟩, later, same⟩ := of_map_ok result
      cases same
      exact (applyOption_configures first).trans (ih l₁ count₁ later)
  | case5 l count option attached next rest other joined ih =>
      rw [configureLoop.eq_4 _ _ _ _ _ _ _ other, if_neg joined] at result
      obtain ⟨⟨l₁, count₁⟩, first, result⟩ := of_bind_ok result
      obtain ⟨⟨l₂, count₂, words₂⟩, later, same⟩ := of_map_ok result
      cases same
      exact (applyOption_configures first).trans (ih l₁ count₁ later)
  | case6 l count arg rest noDashes noOption noValue =>
      rw [configureLoop.eq_5 _ _ _ _ _ noDashes noOption noValue] at result
      obtain ⟨rfl, _⟩ := Prod.mk.inj (Except.ok.inj result)
      exact ⟨rfl, rfl, rfl, rfl, rfl, rfl, fun _ member => Or.inl member⟩

/-- What `configure` makes of a new endpoint. -/
theorem configure_configures {args : List (List Byte)}
    (result : l.configure bindStatus args = .ok l') : Configures l l' := by
  unfold configure at result
  obtain ⟨⟨l₁, count, words⟩, loop, result⟩ := of_bind_ok result
  have configures := configureLoop_configures loop
  dsimp only at result
  split at result
  · cases result
  · split at result
    · cases result
    · split at result
      · cases result
      · rw [← Except.ok.inj result]
        exact configures

/-! ## The connections of the local endpoint -/

/-- What the loop over the specifications leaves alone. -/
structure Connects (l l' : StdioTunnelLocal) : Prop where
  same : l' = { l with toStdioTunnel := l'.toStdioTunnel }
  starts : StdioTunnel.Starts l.toStdioTunnel l'.toStdioTunnel
  writer : l'.m_write_stream = l.m_write_stream
  reader : l'.m_read_stream = l.m_read_stream
  request : l'.m_closed_by_request = l.m_closed_by_request
  server : StdioTunnel.ServerSame l.toStdioTunnel l'.toStdioTunnel

theorem createConnections_connects {specs : List ConnectionSpec} {g_id : Short} {i : Nat}
    (result : l.createConnections calls g_id i specs = .ok l') : Connects l l' := by
  induction specs generalizing l g_id i with
  | nil =>
      rw [← Except.ok.inj result]
      exact ⟨rfl, .refl _, rfl, rfl, rfl, rfl, rfl⟩
  | cons spec specs ih =>
      unfold createConnections at result
      obtain ⟨⟨t, pConn⟩, creates, result⟩ := of_bind_ok result
      obtain ⟨writer, reader, request⟩ := StdioTunnel.CreateConnection_streams creates
      have first := StdioTunnel.Starts.CreateConnection creates
      have server := StdioTunnel.CreateConnection_server creates
      have later := ih result
      cases pConn with
      | none => exact ⟨later.same, first.trans later.starts, later.writer.trans writer,
          later.reader.trans reader, later.request.trans request, server.trans later.server⟩
      | some c =>
          dsimp only at later
          rw [StdioTunnel.CreateConnection_id creates] at later
          exact ⟨later.same, first.trans later.starts, later.writer.trans writer,
            later.reader.trans reader, later.request.trans request,
            server.trans ⟨later.server.calls, later.server.records⟩⟩

def armed (l : StdioTunnelLocal) (fd : Int) : StdioTunnelLocal :=
  l.lift fun t =>
    { t with m_write_stream := { t.m_write_stream with m_poller := true, m_fd := fd } }

/-- The records `start` adds for the endpoint itself. -/
def registered (l : StdioTunnelLocal) : StdioTunnelLocal :=
  let l := l.lift fun t => t.addPolled .stdioTunnel STDIN_FD POLLIN
  let l := l.lift fun t => t.addPolled .stdioTunnel STDOUT_FD .zero
  let l := l.lift fun t => t.addPolled .stdioTunnel l.m_read_fd POLLIN
  { l.lift fun t => t.addPolled .stdioTunnel l.m_write_fd .zero with m_state := .PASS_THROUGH }

theorem addSelf_registered (initial : l.m_state = .INITIAL) :
    (do
      let l ← l.addSelf
      let l ← l.addSelf
      let l ← l.addSelf
      l.addSelf) = .ok l.registered := by
  unfold addSelf setPollfd
  simp only [initial, ok_bind]
  rfl

theorem registered_starts (l : StdioTunnelLocal) :
    StdioTunnel.Starts l.toStdioTunnel l.registered.toStdioTunnel := by
  have add : ∀ (t : StdioTunnel) (fd : Int) (events : PollEvents),
      StdioTunnel.Starts t (t.addPolled .stdioTunnel fd events) :=
    fun t fd events => .addPolled t fd events fun _ _ _ no => by cases no
  have stdin := add l.toStdioTunnel STDIN_FD POLLIN
  have stdout := stdin.trans (add _ STDOUT_FD .zero)
  have read := stdout.trans (add _ l.m_read_fd POLLIN)
  exact read.trans (add _ l.m_write_fd .zero)

/-- What `start` leaves of the endpoint, with its connections. -/
theorem start_started {read_fd write_fd : Int} (initial : l.m_state = .INITIAL)
    (result : l.start read_fd write_fd calls = .ok l') :
    ∃ l₁, createConnections { l with m_read_fd := read_fd, m_write_fd := write_fd } calls
        (Short.ofInt 0) 0 l.m_connection_specs = .ok l₁ ∧
      Connects { l with m_read_fd := read_fd, m_write_fd := write_fd } l₁ ∧
      l' = (l₁.armed write_fd).registered := by
  unfold start at result
  obtain ⟨l₁, creates, result⟩ := of_bind_ok result
  have connects := createConnections_connects creates
  refine ⟨l₁, creates, connects, ?_⟩
  split at result
  · cases result
  · have state : l₁.m_state = .INITIAL := by
      rw [connects.same]
      exact initial
    have all := addSelf_registered (l := l₁.armed write_fd) state
    exact (Except.ok.inj (all.symm.trans result)).symm

end StdioTunnelLocal

/-! ## The remote endpoint -/

namespace StdioTunnelRemote

/-- The remote endpoint when its polling loop begins. -/
def waiting : StdioTunnelRemote :=
  { fresh.lift fun t =>
      ({ t with
        m_write_stream := { t.m_write_stream with m_poller := true, m_fd := STDOUT_FD } }.addPolled
          .stdioTunnel STDIN_FD POLLIN).addPolled .stdioTunnel STDOUT_FD .zero with
    m_state := .HANDSHAKING }

theorem start_waiting {write fcntl : SysResult Unit} {r : StdioTunnelRemote}
    (result : fresh.start write fcntl = .ok r) : r = waiting := by
  cases write with
  | fail errno => cases result
  | ok _ =>
      cases fcntl with
      | fail errno => cases result
      | ok _ => exact (Except.ok.inj result).symm

theorem waiting_starts : fresh.start (.ok ()) (.ok ()) = .ok waiting := rfl

end StdioTunnelRemote

/-! ## Either endpoint -/

namespace Endpoint

/-- An endpoint whose polling loop begins. -/
inductive Started : Endpoint → Prop where
  | localEnd {bindStatus : ConnectionSpec → Int} {args : List (List Byte)}
      {l l' : StdioTunnelLocal} {read_fd write_fd : Int} {calls : Calls}
      (configured : StdioTunnelLocal.fresh.configure bindStatus args = .ok l)
      (start : l.start read_fd write_fd calls = .ok l') : Started (localEnd l')
  | remoteEnd {write fcntl : SysResult Unit} {r : StdioTunnelRemote}
      (start : StdioTunnelRemote.fresh.start write fcntl = .ok r) : Started (remoteEnd r)

variable {e : Endpoint}

/-- The writer is set up, the fields it holds aside. -/
theorem ready_of_fields {t : StdioTunnel} (named : t.Named) (linkless : t.Linkless) {fd : Int}
    (fields : t.m_write_stream.m_queue = []) {t' : StdioTunnel}
    (starts : StdioTunnel.Starts { t with
      m_write_stream := { t.m_write_stream with m_poller := true, m_fd := fd } } t') :
    t'.Keyed ∧ t'.Linkless :=
  ⟨⟨starts.named ⟨named.keys, named.ids⟩, starts.ready ⟨rfl, fields⟩⟩,
    starts.linkless ⟨linkless.link, linkless.records⟩⟩

theorem Started.keyed (started : e.Started) : e.tunnel.Keyed ∧ e.tunnel.Linkless := by
  cases started with
  | @localEnd _ _ _ _ _ write_fd _ configured start =>
      have configures := StdioTunnelLocal.configure_configures configured
      obtain ⟨l₁, _, connects, rfl⟩ := StdioTunnelLocal.start_started configures.state start
      have starts := connects.starts
      rw [show StdioTunnelLocal.toStdioTunnel _ = _ from configures.base] at starts
      refine ready_of_fields (starts.named (StdioTunnel.fresh_named .localSide))
        (starts.linkless (StdioTunnel.fresh_linkless .localSide)) ?_
        (StdioTunnelLocal.registered_starts (l₁.armed write_fd))
      have same := connects.writer
      rw [show StdioTunnelLocal.toStdioTunnel _ = _ from configures.base] at same
      rw [same]
      rfl
  | remoteEnd start =>
      obtain rfl := StdioTunnelRemote.start_waiting start
      have add : ∀ (t : StdioTunnel) (fd : Int) (events : PollEvents),
          StdioTunnel.Starts t (t.addPolled .stdioTunnel fd events) :=
        fun t fd events => .addPolled t fd events fun _ _ _ no => by cases no
      exact ready_of_fields (StdioTunnel.fresh_named .remoteSide)
        (StdioTunnel.fresh_linkless .remoteSide) rfl
        ((add _ STDIN_FD POLLIN).trans (add _ STDOUT_FD .zero))

theorem Started.waitsEmpty (started : e.Started) : e.WaitsEmpty where
  keyed := started.keyed.1
  waiting := by
    rintro r rfl _
    refine ⟨?_, started.keyed.2⟩
    cases started with
    | remoteEnd start =>
        obtain rfl := StdioTunnelRemote.start_waiting start
        exact fun _ => rfl

end Endpoint

end Tun01
