import Tun01.Protocol.Deliveries
import Tun01.Tunnel.Preservation

/-!
# Frames that are processed

What an endpoint does with a frame the other endpoint has sent: it finds the
link the frame is about and handles the message, or it takes note of the error
or of the end of the handshake.  It never throws.
-/

namespace Tun01

/-! ## Frames and their handlers -/

namespace Endpoint

variable {e : Endpoint} {t : StdioTunnel} {calls : Calls}

/-- The remote endpoint has answered the request of the handshake. -/
def Connected (e : Endpoint) : Prop := ∀ r, e = .remoteEnd r → r.m_state = .CONNECTED

/-- A frame about a link goes to its connection. -/
theorem processFrame_link (connected : e.Connected) (conn id : Short) (m : LinkMessage) :
    (e.withTunnel (t.reading (m.encode conn id))).processFrame calls =
      ((t.reading (StdioTunnel.linkFields id m)).dispatchMessage conn.val calls.connect).map
        e.withTunnel := by
  have command := StdioTunnel.readShort_reading t CMD_CONNECTION
    (WriteStream.shortBytes conn ++ StdioTunnel.linkFields id m)
  have connection := StdioTunnel.readShort_reading t conn (StdioTunnel.linkFields id m)
  cases e with
  | localEnd l =>
      change (StdioTunnelLocal.processFrame _ calls).map localEnd = _
      unfold StdioTunnelLocal.processFrame
      dsimp only [LinkMessage.encode]
      rw [show WriteStream.shortBytes m.command ++ (WriteStream.shortBytes id ++ m.fields) =
        StdioTunnel.linkFields id m from rfl, command, ok_bind]
      dsimp only
      rw [if_neg (by decide), if_neg (by decide), if_pos rfl, connection, ok_bind]
      dsimp only
      cases (t.reading (StdioTunnel.linkFields id m)).dispatchMessage conn.val calls.connect <;> rfl
  | remoteEnd r =>
      obtain ⟨_, m_state, _⟩ := r
      have state : m_state = .CONNECTED := connected _ rfl
      subst state
      change (StdioTunnelRemote.processFrame _ calls).map remoteEnd = _
      unfold StdioTunnelRemote.processFrame
      dsimp only [LinkMessage.encode]
      rw [show WriteStream.shortBytes m.command ++ (WriteStream.shortBytes id ++ m.fields) =
        StdioTunnel.linkFields id m from rfl, command, ok_bind]
      dsimp only
      rw [if_neg (by decide), if_neg (fun no => no rfl), connection, ok_bind]
      dsimp only
      cases (t.reading (StdioTunnel.linkFields id m)).dispatchMessage conn.val calls.connect <;> rfl

end Endpoint

namespace StdioTunnelLocal

variable {l : StdioTunnelLocal} {t : StdioTunnel} {calls : Calls}

/-- An error of the other endpoint is printed. -/
theorem processFrame_error (isLocal : t.side = .localSide) {message : List Byte}
    (small : message.length < 2 ^ 32) :
    StdioTunnelLocal.processFrame
        { l with toStdioTunnel := t.reading (Message.error message).payload } calls =
      .ok { l with toStdioTunnel := t.reading [] } := by
  have command := StdioTunnel.readShort_reading t CMD_ERROR
    (WriteStream.longBytes message.length ++ message)
  have text := ReadStream.readString_stringBytes t.m_read_stream small []
  rw [List.append_nil] at text
  have read : (t.reading (WriteStream.longBytes message.length ++ message)).readString =
      .ok (message, t.reading []) := by
    unfold StdioTunnel.readString StdioTunnel.reading
    dsimp only
    rw [text]
    rfl
  have printed : (t.reading []).reportError message = .ok (t.reading []) := by
    unfold StdioTunnel.reportError
    rw [show (t.reading []).side = .localSide from isLocal]
  unfold processFrame
  dsimp only [Message.payload]
  rw [command, ok_bind]
  dsimp only
  rw [if_pos rfl, read, ok_bind]
  dsimp only
  rw [printed]
  rfl

/-- The reply ends the handshake. -/
theorem processFrame_agreed :
    StdioTunnelLocal.processFrame
        { l with toStdioTunnel := t.reading Message.agreed.payload } calls =
      .ok { l with toStdioTunnel := t.reading [], m_state := .CONNECTED } := by
  have command := StdioTunnel.readShort_reading_last t CMD_CREATE
  unfold processFrame
  dsimp only [Message.payload]
  rw [command, ok_bind]
  dsimp only
  rw [if_neg (by decide), if_pos rfl]
  rfl

end StdioTunnelLocal

theorem StdioTunnel.connectSide_of_connects {t : StdioTunnel} {x : Int}
    (connects : t.connects x = true) : ∃ c, t.connection? x = some c ∧ c.role = .connectSide := by
  unfold StdioTunnel.connects StdioTunnel.kind? StdioTunnel.bare? at connects
  cases known : t.connection? x with
  | none =>
      rw [known] at connects
      cases connects
  | some c =>
      refine ⟨c, rfl, ?_⟩
      rw [known] at connects
      cases role : c.role with
      | connectSide => rfl
      | listenSide s n =>
          change (!c.role.listens) = true at connects
          rw [role] at connects
          cases connects

namespace System

variable {s s₁ s' : System} {side : Side} {conn id : Short}

/-- A connection is known where its listener is: it listens there. -/
theorem Joined.listens_here (joined : s.Joined) (here : s.listenerSide conn = side)
    {c : TunnelConnection} (known : (s.tunnel side).connection? conn.val = some c) :
    (s.tunnel side).listens conn.val = true := by
  unfold listenerSide at here
  split at here
  · rename_i listens
    rw [← here]
    exact listens
  · rename_i silent
    rw [← here] at known ⊢
    rw [joined.forth] at silent
    have kind := StdioTunnel.kind?_of_connection known
    unfold StdioTunnel.connects at silent
    unfold StdioTunnel.listens
    rw [kind] at silent ⊢
    exact (Bool.not_eq_false' _).mp (eq_false_of_ne_true silent)

theorem Joined.connects_there (joined : s.Joined) (there : s.listenerSide conn = side.other)
    {c : TunnelConnection} (known : (s.tunnel side.other).connection? conn.val = some c) :
    (s.tunnel side).connects conn.val = true := by
  have listens := joined.listens_here there known
  cases side with
  | localSide => exact joined.back conn.val listens
  | remoteSide =>
      rw [← joined.forth]
      exact listens

/-! ## Messages of links -/

/-- What a frame that was processed leaves of the invariant. -/
structure Delivered (s s' : System) : Prop where
  healthy : ∀ x, s'.Healthy x
  joined : s'.Joined
  steps : ∀ c i, Relation.ReflTransGen LinkState.Step (s.link c i) (s'.link c i)

/-- What the listener does with a message is a delivery of the link. -/
theorem Taken.listenerDelivers {payload : List Byte} {opened : Nat} {moves : Half → Half → Prop}
    {m : LinkMessage} (taken : Taken s s₁ side payload)
    (played : Played s₁ s' side conn id opened moves)
    (about : LinkMessage.decode conn id payload = some m) (here : s.listenerSide conn = side)
    (deliver : ∀ rest listener, (s.link conn id).connector.inFlight = m :: rest →
      moves (s.link conn id).listener listener →
      LinkState.Deliver (s.link conn id)
        ⟨listener, (s.link conn id).connector.handled rest, (s.link conn id).accepts + opened⟩) :
    LinkState.Deliver (s.link conn id) (s'.link conn id) := by
  obtain ⟨rest, listener, front, moved, after⟩ := taken.byListener played about here
  rw [after]
  exact deliver rest listener front moved

theorem Taken.connectorDelivers {payload : List Byte} {opened : Nat} {moves : Half → Half → Prop}
    {m : LinkMessage} (taken : Taken s s₁ side payload)
    (played : Played s₁ s' side conn id opened moves)
    (about : LinkMessage.decode conn id payload = some m)
    (there : s.listenerSide conn = side.other)
    (deliver : ∀ rest connector, (s.link conn id).listener.inFlight = m :: rest →
      moves (s.link conn id).connector connector →
      LinkState.Deliver (s.link conn id)
        ⟨(s.link conn id).listener.handled rest, connector, (s.link conn id).accepts⟩) :
    LinkState.Deliver (s.link conn id) (s'.link conn id) := by
  obtain ⟨rest, connector, front, moved, after⟩ := taken.byConnector played about there
  rw [after]
  exact deliver rest connector front moved

/-- A delivery of one link leaves the others alone. -/
theorem Taken.others_same {opened : Nat} {moves : Half → Half → Prop} {m : LinkMessage}
    (taken : Taken s s₁ side (m.encode conn id))
    (played : Played s₁ s' side conn id opened moves) {c i : Short} (apart : ¬(c = conn ∧ i = id)) :
    s'.link c i = s.link c i := by
  refine taken.others played apart ?_
  rw [LinkMessage.decode_encode, if_neg]
  exact fun same => apart ⟨same.1.symm, same.2.symm⟩

theorem Taken.steps {opened : Nat} {moves : Half → Half → Prop} {m : LinkMessage}
    (taken : Taken s s₁ side (m.encode conn id))
    (played : Played s₁ s' side conn id opened moves)
    (deliver : LinkState.Deliver (s.link conn id) (s'.link conn id)) (c i : Short) :
    Relation.ReflTransGen LinkState.Step (s.link c i) (s'.link c i) := by
  by_cases mine : c = conn ∧ i = id
  · obtain ⟨rfl, rfl⟩ := mine
    exact .single deliver.step
  · rw [taken.others_same played mine]

/-- A handler of a link, after its message was taken from the wire. -/
theorem Delivered.ofOutcome {opened : Nat} {moves : Half → Half → Prop} {t : StdioTunnel}
    (healthy : ∀ x, s₁.Healthy x) (joined : s₁.Joined)
    (outcome : StdioTunnel.Outcome (s₁.tunnel side) t conn id opened moves)
    (steps : Played s₁ (s₁.acted side ((s₁.ends side).withTunnel t)) side conn id opened moves →
      ∀ c i, Relation.ReflTransGen LinkState.Step (s.link c i)
        ((s₁.acted side ((s₁.ends side).withTunnel t)).link c i)) :
    Delivered s (s₁.acted side ((s₁.ends side).withTunnel t)) := by
  obtain ⟨healthy', played, more, expected, underWay⟩ := acted_outcome healthy rfl
    (e := (s₁.ends side).withTunnel t) (by rw [Endpoint.tunnel_withTunnel]; exact outcome)
  exact ⟨healthy', joined.acted (acted_sameStage rfl) played.kind expected underWay, steps played⟩

theorem Healthy.quiet_reading (healthy : s.Healthy side) :
    (s.tunnel side).reading [] = s.tunnel side := by
  have queue : (s.tunnel side).m_read_stream.m_queue = [] := healthy.quiet
  unfold StdioTunnel.reading
  rw [← queue]
  rfl

/-- The endpoint finds the link of a message, and handling it delivers the message. -/
theorem Taken.link_handled {m : LinkMessage} (taken : Taken s s₁ side (m.encode conn id))
    (healthy : ∀ x, s₁.Healthy x) (joined : s₁.Joined) (lawful : (s.link conn id).Lawful)
    (fits : m.fits = true) (connect : ConnectResult) :
    ∃ t opened moves, ((s₁.tunnel side).reading (StdioTunnel.linkFields id m)).dispatchMessage
        conn.val connect = .ok t ∧
      StdioTunnel.Outcome (s₁.tunnel side) t conn id opened moves ∧
      (Played s₁ (s₁.acted side ((s₁.ends side).withTunnel t)) side conn id opened moves →
        LinkState.Deliver (s.link conn id)
          ((s₁.acted side ((s₁.ends side).withTunnel t)).link conn id)) := by
  have sound := (healthy side).sound
  have quiet := (healthy side).quiet_reading
  have about : LinkMessage.decode conn id (m.encode conn id) = some m := by
    rw [LinkMessage.decode_encode, if_pos ⟨rfl, rfl⟩]
  have near : (s₁.half side conn id).phase = (s.half side conn id).phase := by
    rw [taken.near]
  have front := taken.front conn id
  rw [about] at front
  change (s.half side.other conn id).inFlight = m :: _ at front
  unfold LinkState.Lawful at lawful
  rcases here_or_there s side conn with here | there
  · have link := link_of_listener here id
    rw [link] at lawful
    dsimp only at lawful
    rw [front] at lawful
    have listener : (s.link conn id).listener = s.half side conn id := by rw [link]
    rcases lawful.listenerFinds with ⟨success, rfl, waiting⟩ | ⟨kind, up⟩
    · rw [← near] at waiting
      obtain ⟨l, found⟩ := @StdioTunnel.link_of_phase (s₁.tunnel side) conn id
        (by rw [show StdioTunnel.phase _ _ _ = _ from waiting]; exact fun no => by cases no)
      obtain ⟨c, known, _⟩ := sound.connection_of_link found
      have listens := joined.listens_here ((taken.listener conn).trans here) known
      obtain ⟨t, result, outcome⟩ :=
        StdioTunnel.dispatchMessage_created sound listens waiting success connect
      rw [quiet] at outcome
      refine ⟨t, _, _, result, outcome, fun played =>
        taken.listenerDelivers played about here fun rest listener' head moved => ?_⟩
      rw [near] at waiting
      have pending : (s.link conn id).listener.phase = .pending := by rw [listener]; exact waiting
      rw [moved]
      cases success with
      | true => exact .established head pending
      | false => exact .failed head pending
    · rw [← near] at up
      obtain ⟨t, result, outcome⟩ := StdioTunnel.dispatchMessage_up sound up kind fits connect
      rw [quiet] at outcome
      exact ⟨t, _, _, result, outcome, fun played =>
        taken.listenerDelivers played about here fun rest listener' head receive =>
          .listenerReceives head receive⟩
  · have link := link_of_connector there id
    rw [link] at lawful
    dsimp only at lawful
    rw [front] at lawful
    have connector : (s.link conn id).connector = s.half side conn id := by rw [link]
    rcases lawful.connectorFinds with ⟨rfl, waiting, unused⟩ | ⟨kind, up⟩
    · rw [← near] at unused
      have far : (s₁.half side.other conn id).phase = .pending := by
        rw [taken.far conn id]
        exact waiting
      obtain ⟨l, found⟩ := @StdioTunnel.link_of_phase (s₁.tunnel side.other) conn
        id
        (by rw [show StdioTunnel.phase _ _ _ = _ from far]; exact fun no => by cases no)
      obtain ⟨c, known, _⟩ := (healthy side.other).sound.connection_of_link found
      have connects := joined.connects_there ((taken.listener conn).trans there) known
      obtain ⟨c', known', role⟩ := StdioTunnel.connectSide_of_connects connects
      have host := joined.hosts side conn.val c'.m_spec c'.role.listens
        (StdioTunnel.kind?_of_connection known')
      obtain ⟨t, opened, result, outcome⟩ :=
        StdioTunnel.dispatchMessage_create sound known' role unused host connect
      rw [quiet] at outcome
      refine ⟨t, _, _, result, outcome, fun played =>
        taken.connectorDelivers played about there fun rest connector' head moved => ?_⟩
      rw [near] at unused
      have absent : (s.link conn id).connector.phase = .absent := by rw [connector]; exact unused
      rcases moved with rfl | rfl
      · exact .connected head absent
      · exact .refused head absent
    · rw [← near] at up
      obtain ⟨t, result, outcome⟩ := StdioTunnel.dispatchMessage_up sound up kind fits connect
      rw [quiet] at outcome
      exact ⟨t, _, _, result, outcome, fun played =>
        taken.connectorDelivers played about there fun rest connector' head receive =>
          .connectorReceives head receive⟩

/-! ## The next frame -/

variable {got : List Byte} {stream : ReadStream} {e : Endpoint}

/-- A fill that completes a payload takes it from the wire. -/
theorem consumed_taken {payload : List Byte}
    (underWay : (s.wires side.other).underWay =
      payload :: ((s.consumed side got stream).wires side.other).underWay) :
    Taken s (s.consumed side got stream) side payload where
  near := half_consumed_self
  far := by
    intro c i
    unfold half
    rw [tunnel_consumed_other, wires_consumed_other]
    rfl
  front := by
    intro c i
    unfold half
    dsimp only
    rw [underWay, List.filterMap_cons]
    cases LinkMessage.decode c i payload <;> rfl
  kind := by
    intro x c
    rcases side_cases side x with rfl | rfl
    · rw [tunnel_consumed_self]
      rfl
    · rw [tunnel_consumed_other]
  sockets := by
    intro x
    rcases side_cases side x with rfl | rfl
    · rw [tunnel_consumed_self]
      rfl
    · rw [tunnel_consumed_other]

theorem consumed_sameStage : SameStage s (s.consumed side got stream) :=
  .update rfl (ends_consumed_self s side got stream) (ends_consumed_other s side got stream)

/-- The endpoints agree on the connections over a fill. -/
theorem Joined.consumed {payload : List Byte} (joined : s.Joined)
    (underWay : (s.wires side.other).underWay =
      payload :: ((s.consumed side got stream).wires side.other).underWay) :
    (s.consumed side got stream).Joined := by
  refine joined.same consumed_sameStage (consumed_taken underWay).kind fun x => ?_
  rcases side_cases side x with rfl | rfl
  · rw [wires_consumed_self]
    exact joined.expected x
  · have before := joined.expected side.other
    rw [underWay] at before
    exact fun payload member => before payload (List.mem_cons_of_mem _ member)

theorem Joined.endpoint_connected (joined : s.Joined)
    (kinds : ∃ l r, s.ends .localSide = .localEnd l ∧ s.ends .remoteSide = .remoteEnd r)
    (side : Side) : (s.ends side).Connected := by
  intro r isRemote
  cases side with
  | remoteSide => exact joined.connected r isRemote
  | localSide =>
      obtain ⟨l, _, isLocal, _⟩ := kinds
      rw [isLocal] at isRemote
      cases isRemote

/-- A message that changes nothing about links. -/
theorem Delivered.ofCalm {payload : List Byte} (taken : Taken s s₁ side payload)
    (other : ∀ c i, LinkMessage.decode c i payload = none) (healthy : ∀ x, s₁.Healthy x)
    (joined : s₁.Joined) (tunnel : e.tunnel = s₁.tunnel side) (framed : e.Framed)
    (stage : SameStage s₁ (s₁.acted side e)) : Delivered s (s₁.acted side e) := by
  have own := healthy side
  have calm : Calm s₁ (s₁.acted side e) := by
    refine acted_calm stage ?_ (fun c => ?_) ?_ <;> rw [tunnel]
    exact ⟨rfl, rfl, fun _ _ => rfl⟩
  refine ⟨@acted_healthy _ _ _ healthy [] ?_ (fun _ member => by cases member) ?_ ?_ framed ?_ ?_,
    ?_, ?_⟩
  · rw [tunnel]
    exact (CustomWriteStream.emitting_nil _).symm
  · rw [tunnel]
    rfl
  · rw [tunnel]
    exact own.sameSide
  · rw [tunnel]
    exact own.sound
  · rw [tunnel]
    exact own.numbered
  · refine joined.same calm.stage calm.kind fun x => ?_
    rw [calm.underWay]
    exact joined.expected x
  · intro c i
    rw [calm.link, taken.link_same (other c i)]

/-- The state of the local endpoint plays no part. -/
theorem SameStage.actedLocal (here : side = .localSide) {l : StdioTunnelLocal} :
    SameStage s (s.acted side (.localEnd l)) where
  kinds := by
    rintro ⟨_, r, _, isRemote⟩
    rw [here]
    exact ⟨l, r, ends_acted_self s .localSide _, (ends_acted_other s .localSide _).trans isRemote⟩
  remote := by
    intro r' isRemote
    rw [here] at isRemote
    exact ⟨r', (ends_acted_other s .localSide _).symm.trans isRemote, rfl⟩

/-- A message of a link goes to its connection; the others are about no link. -/
inductive Processed (s : System) (side : Side) (payload : List Byte) (connect : ConnectResult) :
    Endpoint → Prop where
  | link {conn id : Short} {m : LinkMessage} {t : StdioTunnel} {opened : Nat}
      {moves : Half → Half → Prop} (is : payload = m.encode conn id)
      (outcome : StdioTunnel.Outcome (s.tunnel side) t conn id opened moves)
      (result : ((s.tunnel side).reading (StdioTunnel.linkFields id m)).dispatchMessage conn.val
        connect = .ok t) : Processed s side payload connect ((s.ends side).withTunnel t)
  | aside {e : Endpoint} (none : ∀ c i, LinkMessage.decode c i payload = none)
      (same : e.tunnel = s.tunnel side) : Processed s side payload connect e

/-- Every frame the other endpoint sent is processed. -/
theorem Joined.delivered {payload : List Byte} (joined : s.Joined)
    (kinds : ∃ l r, s.ends .localSide = .localEnd l ∧ s.ends .remoteSide = .remoteEnd r)
    (healthy : ∀ x, (s.consumed side got stream).Healthy x)
    (lawful : ∀ conn id, (s.link conn id).Lawful)
    (queue : stream.m_queue = payload)
    (underWay : (s.wires side.other).underWay =
      payload :: ((s.consumed side got stream).wires side.other).underWay) (calls : Calls) :
    ∃ e, ((s.ends side).withTunnel ((s.tunnel side).withReader stream)).processFrame calls =
        .ok e ∧ Processed (s.consumed side got stream) side payload calls.connect e ∧
          Delivered s ((s.consumed side got stream).acted side e) := by
  have taken := consumed_taken underWay
  have joined₁ := joined.consumed underWay
  have own := healthy side
  have base : (s.tunnel side).withReader stream =
      ((s.consumed side got stream).tunnel side).reading payload := by
    rw [tunnel_consumed_self, ← queue]
    rfl
  have ends : (s.ends side).withTunnel ((s.tunnel side).withReader stream) =
      ((s.consumed side got stream).ends side).withTunnel
        (((s.consumed side got stream).tunnel side).reading payload) := by
    rw [base, ends_consumed_self]
    cases s.ends side <;> rfl
  have kinds₁ := (@consumed_sameStage s side got stream).kinds kinds
  rw [ends]
  obtain ⟨m, rfl, sendable⟩ := joined.expected side.other payload
    (by rw [underWay]; exact List.mem_cons_self)
  cases m with
  | link conn id m =>
      obtain ⟨t, opened, moves, result, outcome, delivers⟩ :=
        taken.link_handled healthy joined₁ (lawful conn id) sendable calls.connect
      refine ⟨_, ?_, .link rfl outcome result, .ofOutcome healthy joined₁ outcome fun played =>
        taken.steps played (delivers played)⟩
      change (Endpoint.withTunnel _ (StdioTunnel.reading _ (m.encode conn id))).processFrame calls
        = _
      rw [Endpoint.processFrame_link (joined₁.endpoint_connected kinds₁ side), result]
      rfl
  | error message =>
      obtain ⟨there, small⟩ := sendable
      have here : side = .localSide := by cases side <;> first | rfl | cases there
      obtain ⟨l, r, isLocal, isRemote⟩ := kinds₁
      rw [← here] at isLocal
      have t : (s.consumed side got stream).tunnel side = l.toStdioTunnel := by
        unfold tunnel
        rw [isLocal]
        rfl
      have none : ∀ c i, LinkMessage.decode c i (Message.error message).payload = none :=
        (Message.decode_payload · · (.error message))
      refine ⟨.localEnd l, ?_, .aside none t.symm, .ofCalm taken none healthy joined₁ t.symm
        (isLocal ▸ own.framed) (.actedLocal here)⟩
      · have isSide : l.toStdioTunnel.side = .localSide := by
          rw [← t, ← here]
          exact own.sameSide
        have printed := @StdioTunnelLocal.processFrame_error l _ calls isSide
          message (by omega)
        have quiet : l.toStdioTunnel.reading [] = l.toStdioTunnel := by
          rw [← t]
          exact own.quiet_reading
        rw [quiet] at printed
        rw [isLocal, t]
        change (StdioTunnelLocal.processFrame _ calls).map Endpoint.localEnd = _
        rw [printed]
        rfl
  | agreed =>
      have here : side = .localSide := by cases side <;> first | rfl | cases sendable
      obtain ⟨l, r, isLocal, isRemote⟩ := kinds₁
      rw [← here] at isLocal
      have t : (s.consumed side got stream).tunnel side = l.toStdioTunnel := by
        unfold tunnel
        rw [isLocal]
        rfl
      have framed := own.framed
      rw [isLocal] at framed
      have none : ∀ c i, LinkMessage.decode c i Message.agreed.payload = none :=
        (Message.decode_payload · · .agreed)
      refine ⟨.localEnd { l with m_state := .CONNECTED }, ?_, .aside none t.symm,
        .ofCalm taken none healthy joined₁ t.symm ?_ (.actedLocal here)⟩
      · have ended := @StdioTunnelLocal.processFrame_agreed l l.toStdioTunnel
          calls
        have quiet : l.toStdioTunnel.reading [] = l.toStdioTunnel := by
          rw [← t]
          exact own.quiet_reading
        rw [quiet] at ended
        rw [isLocal, t]
        change (StdioTunnelLocal.processFrame
          { l with toStdioTunnel := l.toStdioTunnel.reading Message.agreed.payload } calls).map
            Endpoint.localEnd = _
        rw [ended]
        rfl
      · cases framed with
        | localEnd _ pipes read write => exact .localEnd (Or.inr rfl) pipes read write
  | handshake _ => exact sendable.elim

end System

/-! ## The request -/

/-- The remote endpoint takes the opposite role, if it takes one. -/
theorem StdioTunnelRemote.Accepts.mirrored {t : StdioTunnel} {id : Short} {spec : ConnectionSpec}
    (accepts : Accepts t (id, spec))
    (direction : spec.m_connection_type = .LISTEN ∨ spec.m_connection_type = .CONNECT) :
    t.connects id.val = decide (spec.m_connection_type = .CONNECT) ∧
      (t.listens id.val = true → spec.m_connection_type = .LISTEN) ∧
      ∀ spec' listens, t.kind? id.val = some (spec', listens) →
        spec'.m_connect_host = spec.m_connect_host ∨
          spec'.m_connect_host = text "localhost" := by
  obtain ⟨spec', rewrites, created⟩ := accepts
  have sameType : spec'.m_connection_type = spec.m_connection_type := by
    have received : spec.received.m_connection_type = spec.m_connection_type := by
      change Direction.ofShort spec.m_connection_type.toShort = _
      rcases direction with type | type <;> rw [type] <;> rfl
    rcases rewrites with ⟨_, rfl⟩ | ⟨_, port, rfl⟩ <;> exact received
  have host : spec'.m_connect_host = spec.m_connect_host ∨
      spec'.m_connect_host = text "localhost" := by
    rcases rewrites with ⟨_, rfl⟩ | ⟨_, port, rfl⟩
    · exact Or.inl rfl
    · exact Or.inr rfl
  have role : StdioTunnel.listensFor false spec' = decide (spec.m_connection_type = .LISTEN) := by
    unfold StdioTunnel.listensFor
    rw [sameType]
    simp
  dsimp only at created
  rw [role] at created
  rcases created with ⟨listens, none⟩ | ⟨c, known, isCreated⟩
  · have kind : t.kind? id.val = .none := by
      unfold StdioTunnel.kind? StdioTunnel.bare?
      rw [none]
      rfl
    have type := of_decide_eq_true listens
    unfold StdioTunnel.connects StdioTunnel.listens
    rw [kind, type]
    refine ⟨rfl, (fun no => ?_), fun _ _ no => ?_⟩ <;> cases no
  · have kind := StdioTunnel.kind?_of_connection known
    unfold StdioTunnel.connects StdioTunnel.listens
    rw [kind, isCreated.listens, isCreated.spec]
    refine ⟨?_, of_decide_eq_true, ?_⟩
    · rcases direction with type | type <;> rw [type] <;> rfl
    · intro spec'' listens same
      rw [← (Prod.mk.inj (Option.some.inj same)).1]
      exact host

/-- The hosts are part of the request. -/
theorem Message.host_le {connections : List (Short × ConnectionSpec)} {c : Short × ConnectionSpec}
    (member : c ∈ connections) :
    c.2.m_connect_host.length ≤ (Message.handshake connections).payload.length := by
  have part : (Message.connection c).length ≤
      (connections.flatMap Message.connection).length :=
    (List.sublist_flatten_of_mem (List.mem_map_of_mem member)).length_le
  have host : c.2.m_connect_host.length ≤ (Message.connection c).length := by
    unfold Message.connection ConnectionSpec.bytes
    simp only [List.length_append]
    omega
  have whole : (connections.flatMap Message.connection).length ≤
      (Message.handshake connections).payload.length := by
    unfold Message.payload
    simp only [List.length_append]
    omega
  exact host.trans (part.trans whole)

namespace System

variable {s : System} {got : List Byte} {stream : ReadStream}

/-- After the request both endpoints have its connections, in opposite roles. -/
theorem Lists.joined {s : System} {connections : List (Short × ConnectionSpec)}
    (lists : Lists (s.tunnel .localSide) connections)
    (connected : ∀ r, s.ends .remoteSide = .remoteEnd r → r.m_state = .CONNECTED)
    (others : ∀ x, (∀ c ∈ connections, c.1.val ≠ x) →
      (s.tunnel .remoteSide).connection? x = none)
    (own : ∀ c ∈ connections, StdioTunnelRemote.Accepts (s.tunnel .remoteSide) c)
    (bounded : (Message.handshake connections).payload.length ≤ 50000000)
    (expected : ∀ side, Expected side (s.wires side).underWay) : s.Joined := by
  have listed : ∀ x, (∃ c ∈ connections, c.1.val = x) ∨
      ((s.tunnel .remoteSide).kind? x = none ∧ (s.tunnel .localSide).kind? x = none) := by
    intro x
    by_cases here : ∃ c ∈ connections, c.1.val = x
    · exact Or.inl here
    · refine Or.inr ⟨?_, ?_⟩
      · unfold StdioTunnel.kind? StdioTunnel.bare?
        rw [others x fun c member same => here ⟨c, member, same⟩]
        rfl
      · cases found : (s.tunnel .localSide).kind? x with
        | none => rfl
        | some pair =>
            obtain ⟨id, same, member⟩ := lists.complete x pair.1 pair.2 found
            exact absurd ⟨(id, pair.1), member, same⟩ here
  have small : ∀ c ∈ connections, c.2.m_connect_host.length ≤ 50000000 := fun c member =>
    (Message.host_le member).trans bounded
  refine ⟨connected, ?_, ?_, ?_, expected⟩
  · intro x
    rcases listed x with ⟨c, member, rfl⟩ | ⟨remote, here⟩
    · rw [((own c member).mirrored (lists.directions c member)).1]
      unfold StdioTunnel.listens
      rw [lists.known c member]
    · unfold StdioTunnel.listens StdioTunnel.connects
      rw [remote, here]
  · intro x listens
    rcases listed x with ⟨c, member, rfl⟩ | ⟨remote, _⟩
    · have type := ((own c member).mirrored (lists.directions c member)).2.1 listens
      unfold StdioTunnel.connects
      rw [lists.known c member, type]
      rfl
    · unfold StdioTunnel.listens at listens
      rw [remote] at listens
      cases listens
  · intro side x spec listens found
    rcases listed x with ⟨c, member, rfl⟩ | ⟨remote, here⟩
    · cases side with
      | localSide =>
          rw [lists.known c member] at found
          rw [← (Prod.mk.inj (Option.some.inj found)).1]
          exact small c member
      | remoteSide =>
          rcases ((own c member).mirrored (lists.directions c member)).2.2 spec listens found with
            same | same
          · rw [same]
            exact small c member
          · rw [same]
            simp [text]
    · cases side with
      | localSide =>
          rw [here] at found
          cases found
      | remoteSide =>
          rw [remote] at found
          cases found

/-- The request and its reply are about no link. -/
theorem Greeting.links {s' : System} {t : StdioTunnel} {payload : List Byte}
    (greeting : s.Greeting) (near : s'.tunnel .localSide = s.tunnel .localSide)
    (far : s'.tunnel .remoteSide = t.emit Message.agreed.payload) (sound : t.Sound)
    (looks : ∀ c i, t.linkEnd c i = (s.tunnel .remoteSide).linkEnd c i)
    (opened : t.os.opened = (s.tunnel .remoteSide).os.opened)
    (wire : s'.wires .remoteSide = { s.wires .remoteSide with
      sent := (s.wires .remoteSide).sent ++ [Message.agreed.payload] })
    (sent : (s'.wires .localSide).sent = (s.wires .localSide).sent)
    (underWay : (s.wires .localSide).underWay = payload :: (s'.wires .localSide).underWay)
    (bare : ∀ c i, LinkMessage.decode c i payload = none) (c i : Short) :
    (∀ x, s'.half x c i = s.half x c i) ∧ s'.link c i = s.link c i := by
  have reply : LinkMessage.decode c i Message.agreed.payload = none :=
    Message.decode_payload c i .agreed
  have nearHalf : s'.half .localSide c i = s.half .localSide c i := by
    unfold half
    rw [near, sent, underWay, List.filterMap_cons_none (bare c i)]
  have farHalf : s'.half .remoteSide c i = s.half .remoteSide c i := by
    have view : (t.emit Message.agreed.payload).linkEnd c.val i =
        (s.tunnel .remoteSide).linkEnd c.val i :=
      (StdioTunnel.Moves.emit sound c.val i _).own.trans (looks c.val i)
    unfold half Wire.underWay
    rw [far, wire, view]
    dsimp only
    have single : [Message.agreed.payload].filterMap (LinkMessage.decode c i) = [] :=
      List.filterMap_cons_none reply
    have later : ([Message.agreed.payload].drop (s.wires .remoteSide).appended.length).filterMap
        (LinkMessage.decode c i) = [] := by
      cases (s.wires .remoteSide).appended.length with
      | zero => exact single
      | succ n => rw [List.drop_succ_cons, List.drop_nil, List.filterMap_nil]
    rw [greeting.silent, List.nil_append, single, later, List.drop_nil, List.filterMap_nil]
  have halves : ∀ x, s'.half x c i = s.half x c i := by
    intro x
    cases x with
    | localSide => exact nearHalf
    | remoteSide => exact farHalf
  have sockets : ∀ x, (s'.tunnel x).os.socketsOf c.val i = (s.tunnel x).os.socketsOf c.val i := by
    intro x
    unfold Kernel.socketsOf
    cases x with
    | localSide => rw [near]
    | remoteSide =>
        rw [far, ← opened]
        rfl
  have here : s'.listenerSide c = s.listenerSide c := by
    unfold listenerSide
    rw [near]
  refine ⟨halves, ?_⟩
  unfold link
  rw [here, halves, halves, sockets]

/--
The remote endpoint answers the request: the endpoints agree on the connections,
and no link is touched.
-/
theorem Greeting.delivered {connections : List (Short × ConnectionSpec)}
    {more : List (List Byte)} {r r' : StdioTunnelRemote} {calls : Calls} (greeting : s.Greeting)
    (isRemote : s.ends .remoteSide = .remoteEnd r)
    (underWay : (s.wires .localSide).underWay =
      (Message.handshake connections).payload :: more)
    (lists : Lists (s.tunnel .localSide) connections) (expected : Expected .localSide more)
    (healthy : ∀ x, (s.consumed .remoteSide got stream).Healthy x)
    (queue : stream.m_queue = (Message.handshake connections).payload)
    (after : ((s.consumed .remoteSide got stream).wires .localSide).underWay = more)
    (bounded : (Message.handshake connections).payload.length ≤ 50000000)
    (result : StdioTunnelRemote.processFrame
      { r with toStdioTunnel := r.toStdioTunnel.withReader stream } calls = .ok r') :
    Delivered s ((s.consumed .remoteSide got stream).acted .remoteSide (.remoteEnd r')) ∧
      ∀ c i, (∀ x, ((s.consumed .remoteSide got stream).acted .remoteSide (.remoteEnd r')).half
          x c i = s.half x c i) ∧
        ((s.consumed .remoteSide got stream).acted .remoteSide (.remoteEnd r')).link c i =
          s.link c i := by
  have own := healthy .remoteSide
  have base : (s.consumed .remoteSide got stream).tunnel .remoteSide =
      r.toStdioTunnel.withReader (stream.withQueue []) := by
    rw [tunnel_consumed_self]
    unfold tunnel
    rw [isRemote]
    rfl
  let waiting : StdioTunnelRemote :=
    { r with toStdioTunnel := r.toStdioTunnel.withReader (stream.withQueue []) }
  have reads : { r with toStdioTunnel := r.toStdioTunnel.withReader stream } =
      waiting.reading (Message.handshake connections).payload := by
    rw [← queue]
    rfl
  have empty : ∀ x, waiting.connection? x = none := by
    intro x
    have none := greeting.empty x
    unfold tunnel at none
    rw [isRemote] at none
    exact none
  have sound : waiting.Sound := by
    have sound := own.sound
    rw [base] at sound
    exact sound
  rw [reads] at result
  obtain ⟨a, accepted, rfl⟩ := StdioTunnelRemote.processFrame_handshake sound
    (greeting.waiting r isRemote) lists.few lists.distinct (fun c _ => empty c.1.val)
    (fun c member => by have host := Message.host_le member; omega) result
  have emitted := StdioTunnel.Moves.emit accepted.sound 0 (Short.ofInt 0) Message.agreed.payload
  have writer : (a.toStdioTunnel.emit Message.agreed.payload).m_write_stream =
      ((s.consumed .remoteSide got stream).tunnel .remoteSide).m_write_stream.emitting
        ([Message.agreed].map Message.payload) := by
    rw [base, ← accepted.looks.writer]
    rfl
  have opened : a.os.opened = [] := by
    rw [accepted.opened, ← greeting.opened]
    unfold tunnel
    rw [isRemote]
    rfl
  have opens : ∀ x, a.os.opens x = [] := by
    intro x
    unfold Kernel.opens
    rw [opened]
    rfl
  obtain ⟨e, isEnd⟩ : ∃ e, e = Endpoint.remoteEnd
      ⟨a.toStdioTunnel.emit Message.agreed.payload, .CONNECTED, a.m_socks5_server⟩ := ⟨_, rfl⟩
  have tunnel' : e.tunnel = a.toStdioTunnel.emit Message.agreed.payload := by
    rw [isEnd]
    rfl
  rw [← isEnd]
  rw [← tunnel'] at writer
  have healthy' : ∀ x, ((s.consumed .remoteSide got stream).acted .remoteSide e).Healthy x := by
    refine @acted_healthy _ _ _ healthy [.agreed] writer (by simp [Message.Sendable]) ?_ ?_ ?_ ?_
      ?_
    · unfold System.reader
      rw [tunnel', base]
      exact accepted.reader
    · rw [tunnel']
      change a.side = _
      rw [accepted.looks.side]
      have sameSide := own.sameSide
      rw [base] at sameSide
      exact sameSide
    · rw [isEnd]
      exact .remoteEnd (Or.inr rfl)
    · rw [tunnel']
      exact emitted.sound
    · rw [tunnel']
      intro conn spec i s n role
      change (a.os.opens conn).map Prod.snd = numbered (n - (a.os.opens conn).length)
        (a.os.opens conn).length
      rw [opens]
      rfl
  have isAfter := ends_acted_self (s.consumed .remoteSide got stream) .remoteSide e
  have far := tunnel_acted_self (s.consumed .remoteSide got stream) .remoteSide e
  have near := tunnel_acted_other (s.consumed .remoteSide got stream) .remoteSide e
  have nearWire := wires_acted_other (s.consumed .remoteSide got stream) .remoteSide e
  have wire := wires_acted_self (s := s.consumed .remoteSide got stream) writer
  rw [tunnel_consumed_other] at near
  rw [wires_consumed_self] at wire
  rw [tunnel'] at far
  generalize (s.consumed .remoteSide got stream).acted .remoteSide e = s' at *
  have same : ∀ c i, (∀ x, s'.half x c i = s.half x c i) ∧ s'.link c i = s.link c i := by
    refine greeting.links near far accepted.sound (fun c i => ?_) ?_ wire ?_ ?_
      (Message.decode_payload · · (.handshake connections))
    · refine (accepted.looks.linkEnd c i).trans ?_
      unfold tunnel
      rw [isRemote]
      rfl
    · rw [opened, greeting.opened]
    · rw [show s'.wires .localSide = _ from nearWire]
      rw [wires_consumed_other]
      rfl
    · rw [underWay, show s'.wires .localSide = _ from nearWire]
      exact congrArg _ after.symm
  refine ⟨⟨healthy', @Lists.joined _ connections ?_ ?_ ?_ ?_ bounded ?_, fun c i => ?_⟩, same⟩
  · rw [show s'.tunnel .localSide = _ from near]
    exact lists
  · intro r' same
    rw [isAfter, isEnd] at same
    rw [← Endpoint.remoteEnd.inj same]
  · intro x other
    rw [far]
    exact (accepted.others x other).trans (empty x)
  · rw [far]
    exact accepted.own
  · intro x
    cases x with
    | localSide =>
        rw [show s'.wires .localSide = _ from nearWire,
          show (s.consumed .remoteSide got stream).wires Side.remoteSide.other = _ from rfl]
        exact after ▸ expected
    | remoteSide =>
        rw [wire]
        intro payload member
        have inSent := List.mem_of_mem_drop member
        rw [greeting.silent] at inSent
        exact ⟨.agreed, List.mem_singleton.mp inSent, rfl⟩
  · rw [(same c i).2]

end System

end Tun01
