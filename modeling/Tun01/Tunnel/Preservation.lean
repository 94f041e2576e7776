import Tun01.Tunnel.Invariant

/-!
# Steps keep the invariant

One lemma for each kind of step.  A step that moves no link leaves all halves as
they are; a step that moves one is a step of the link protocol.
-/

namespace Tun01

namespace System

variable {s s' : System} {side : Side} {e : Endpoint}

/-- The states of the two endpoints are of the same kind, and the remote state is kept. -/
structure SameStage (s s' : System) : Prop where
  kinds : (∃ l r, s.ends .localSide = .localEnd l ∧ s.ends .remoteSide = .remoteEnd r) →
    ∃ l r, s'.ends .localSide = .localEnd l ∧ s'.ends .remoteSide = .remoteEnd r
  remote : ∀ r', s'.ends .remoteSide = .remoteEnd r' →
    ∃ r, s.ends .remoteSide = .remoteEnd r ∧ r'.m_state = r.m_state

/-- Nothing about the links changes. -/
structure Calm (s s' : System) : Prop where
  stage : SameStage s s'
  connection : ∀ c, (s'.tunnel .remoteSide).connection? c = (s.tunnel .remoteSide).connection? c
  kind : ∀ x c, (s'.tunnel x).kind? c = (s.tunnel x).kind? c
  linkEnd : ∀ x c i, (s'.tunnel x).linkEnd c i = (s.tunnel x).linkEnd c i
  os : ∀ x, (s'.tunnel x).os = (s.tunnel x).os
  sent : ∀ x, (s'.wires x).sent = (s.wires x).sent
  underWay : ∀ x, (s'.wires x).underWay = (s.wires x).underWay

theorem Calm.half (calm : Calm s s') (x : Side) (c i : Short) : s'.half x c i = s.half x c i := by
  unfold System.half
  rw [calm.linkEnd, calm.sent, calm.underWay]

theorem Calm.link (calm : Calm s s') (c i : Short) : s'.link c i = s.link c i := by
  unfold System.link
  rw [listenerSide_of_kind calm.kind, calm.half, calm.half, calm.os]

/-- The lists of a request stay complete. -/
theorem Lists.same {t t' : StdioTunnel} {connections : List (Short × ConnectionSpec)}
    (lists : Lists t connections) (kind : ∀ c, t'.kind? c = t.kind? c) : Lists t' connections where
  few := lists.few
  distinct := lists.distinct
  complete := fun x spec listens found => lists.complete x spec listens ((kind x).symm.trans found)
  known := fun c member => (kind c.1.val).trans (lists.known c member)
  directions := lists.directions

/-- Both stages depend on little. -/
theorem Joined.same (joined : s.Joined) (stage : SameStage s s')
    (kind : ∀ x c, (s'.tunnel x).kind? c = (s.tunnel x).kind? c)
    (expected : ∀ x, Expected x (s'.wires x).underWay) : s'.Joined where
  connected := by
    intro r' isRemote
    obtain ⟨r, before, same⟩ := stage.remote r' isRemote
    rw [same]
    exact joined.connected r before
  forth := by
    intro x
    rw [StdioTunnel.listens_of_kind (kind .localSide), StdioTunnel.connects_of_kind (kind .remoteSide)]
    exact joined.forth x
  back := by
    intro x
    rw [StdioTunnel.listens_of_kind (kind .remoteSide), StdioTunnel.connects_of_kind (kind .localSide)]
    exact joined.back x
  hosts := fun x c spec listens found =>
    joined.hosts x c spec listens ((kind x c).symm.trans found)
  expected := expected

theorem Inv.calm (inv : s.Inv) (calm : Calm s s') (healthy : ∀ x, s'.Healthy x) : s'.Inv where
  kinds := calm.stage.kinds inv.kinds
  healthy := healthy
  links := by
    intro c i
    rw [calm.link]
    exact inv.links c i
  stage := by
    rcases inv.stage with greeting | joined
    · refine Or.inl ⟨?_, ?_, ?_, ?_, ?_⟩
      · intro r' isRemote
        obtain ⟨r, before, same⟩ := calm.stage.remote r' isRemote
        rw [same]
        exact greeting.waiting r before
      · intro x
        rw [calm.connection]
        exact greeting.empty x
      · rw [calm.os]
        exact greeting.opened
      · rw [calm.sent]
        exact greeting.silent
      · obtain ⟨connections, more, underWay, lists, expected⟩ := greeting.request
        exact ⟨connections, more, (calm.underWay _).trans underWay, lists.same (calm.kind _),
          expected⟩
    · refine Or.inr (joined.same calm.stage calm.kind fun x => ?_)
      rw [calm.underWay]
      exact joined.expected x

/-! ## Endpoints that change -/

theorem side_cases (side x : Side) : x = side ∨ x = side.other := by
  cases x <;> cases side <;> first | exact Or.inl rfl | exact Or.inr rfl

/-- An endpoint that keeps its kind and its state. -/
theorem SameStage.update {ends : Side → Endpoint} {e : Endpoint} {t : StdioTunnel}
    (same : e = (s.ends side).withTunnel t) (here : ends side = e)
    (there : ends side.other = s.ends side.other) {wires : Side → Wire}
    {brought : Side → Nat → List Byte} : SameStage s ⟨ends, wires, brought⟩ where
  kinds := by
    rintro ⟨l, r, isLocal, isRemote⟩
    cases side with
    | localSide =>
        rw [isLocal] at same
        exact ⟨_, r, here.trans same, there.trans isRemote⟩
    | remoteSide =>
        rw [isRemote] at same
        exact ⟨l, _, there.trans isLocal, here.trans same⟩
  remote := by
    intro r' isRemote
    cases side with
    | localSide => exact ⟨r', there.symm.trans isRemote, rfl⟩
    | remoteSide =>
        change ends .remoteSide = _ at isRemote
        rw [here, same] at isRemote
        cases before : s.ends .remoteSide with
        | localEnd l =>
            rw [before] at isRemote
            cases isRemote
        | remoteEnd r =>
            rw [before] at isRemote
            refine ⟨r, rfl, ?_⟩
            rw [← Endpoint.remoteEnd.inj isRemote]

/-! ## A handler that moves one link -/

theorem acted_sameStage {t : StdioTunnel} (same : e = (s.ends side).withTunnel t) :
    SameStage s (s.acted side e) :=
  .update same (ends_acted_self s side e) (ends_acted_other s side e)

/-- The frames under way after a handler. -/
theorem acted_underWay (ordered : (s.wires side).Ordered) {out : List (List Byte)}
    (writer : e.tunnel.m_write_stream = (s.tunnel side).m_write_stream.emitting out) :
    ((s.acted side e).wires side).underWay = (s.wires side).underWay ++ out := by
  rw [wires_acted_self writer]
  exact Wire.underWay_append ordered out

/-- What a handler of a link does to the system. -/
theorem acted_outcome {conn id : Short} {opened : Nat} {moves : Half → Half → Prop}
    {t : StdioTunnel} (healthy : ∀ x, s.Healthy x) (same : e = (s.ends side).withTunnel t)
    (outcome : StdioTunnel.Outcome (s.tunnel side) e.tunnel conn id opened moves) :
    (∀ x, (s.acted side e).Healthy x) ∧ Played s (s.acted side e) side conn id opened moves ∧
      ∃ more, Expected side more ∧
        ((s.acted side e).wires side).underWay = (s.wires side).underWay ++ more := by
  have own := healthy side
  obtain ⟨played, out, owned, writer⟩ := acted_played own.ordered outcome
  obtain ⟨sound, numbered, reader, sameSide⟩ := outcome.facts
  have sendable : ∀ m ∈ out, m.Sendable side := by
    intro m member
    have mine := owned m member
    rw [own.sameSide] at mine
    exact mine.sendable
  have framed : e.Framed := by
    rw [same]
    exact own.framed.withTunnel t
  refine ⟨acted_healthy healthy writer sendable reader (sameSide.trans own.sameSide) framed sound
    (numbered own.numbered), played, out.map Message.payload, ?_,
    acted_underWay own.ordered writer⟩
  intro payload member
  obtain ⟨m, inOut, rfl⟩ := List.mem_map.mp member
  exact ⟨m, rfl, sendable m inOut⟩

theorem Expected.append {payloads more : List (List Byte)} (expected : Expected side payloads)
    (more' : Expected side more) : Expected side (payloads ++ more) := by
  intro payload member
  rcases List.mem_append.mp member with old | new
  · exact expected payload old
  · exact more' payload new

theorem Joined.acted {more : List (List Byte)} (joined : s.Joined)
    (stage : SameStage s (s.acted side e))
    (kind : ∀ x c, ((s.acted side e).tunnel x).kind? c = (s.tunnel x).kind? c)
    (expected : Expected side more)
    (underWay : ((s.acted side e).wires side).underWay = (s.wires side).underWay ++ more) :
    (s.acted side e).Joined := by
  refine joined.same stage kind fun x => ?_
  rcases side_cases side x with rfl | rfl
  · rw [underWay]
    exact (joined.expected x).append expected
  · rw [wires_acted_other]
    exact joined.expected side.other

/-- While the request is under way only the local endpoint has links. -/
theorem Greeting.acted {more : List (List Byte)} (greeting : s.Greeting)
    (stage : SameStage s (s.acted .localSide e))
    (kind : ∀ x c, ((s.acted .localSide e).tunnel x).kind? c = (s.tunnel x).kind? c)
    (expected : Expected .localSide more)
    (underWay : ((s.acted .localSide e).wires .localSide).underWay =
      (s.wires .localSide).underWay ++ more) : (s.acted .localSide e).Greeting where
  waiting := by
    intro r' isRemote
    obtain ⟨r, before, same⟩ := stage.remote r' isRemote
    rw [same]
    exact greeting.waiting r before
  empty := by
    intro x
    rw [show (s.acted .localSide e).tunnel .remoteSide = _ from tunnel_acted_other s .localSide e]
    exact greeting.empty x
  opened := by
    rw [show (s.acted .localSide e).tunnel .remoteSide = _ from tunnel_acted_other s .localSide e]
    exact greeting.opened
  silent := by
    rw [show (s.acted .localSide e).wires .remoteSide = _ from wires_acted_other s .localSide e]
    exact greeting.silent
  request := by
    obtain ⟨connections, rest, before, lists, old⟩ := greeting.request
    refine ⟨connections, rest ++ more, ?_, lists.same (kind .localSide), old.append expected⟩
    rw [underWay, before]
    rfl

/-- An endpoint that changes nothing about its links and queues no frame. -/
theorem acted_calm (stage : SameStage s (s.acted side e))
    (looks : StdioTunnel.Looks (s.tunnel side) e.tunnel)
    (connection : ∀ c, e.tunnel.connection? c = (s.tunnel side).connection? c)
    (os : e.tunnel.os = (s.tunnel side).os) : Calm s (s.acted side e) := by
  have writer : e.tunnel.m_write_stream = (s.tunnel side).m_write_stream.emitting [] := by
    rw [looks.writer, CustomWriteStream.emitting_nil]
  have wire : (s.acted side e).wires side = s.wires side := by
    rw [wires_acted_self writer, List.append_nil]
  have kind : ∀ c, e.tunnel.kind? c = (s.tunnel side).kind? c := by
    intro c
    unfold StdioTunnel.kind? StdioTunnel.bare?
    rw [connection]
  have either : ∀ {motive : Side → Prop}, motive side → motive side.other → ∀ x, motive x := by
    intro motive here there x
    rcases side_cases side x with rfl | rfl
    · exact here
    · exact there
  refine ⟨stage, fun c => ?_, either (fun c => ?_) fun c => ?_,
    either (fun c i => ?_) fun c i => ?_, either ?_ ?_, either ?_ ?_, either ?_ ?_⟩
  · rcases side_cases side .remoteSide with here | there
    · rw [here, tunnel_acted_self]
      exact connection c
    · rw [there, tunnel_acted_other]
  · rw [tunnel_acted_self]
    exact kind c
  · rw [tunnel_acted_other]
  · rw [tunnel_acted_self]
    exact looks.linkEnd c i
  · rw [tunnel_acted_other]
  · rw [tunnel_acted_self]
    exact os
  · rw [tunnel_acted_other]
  · rw [wire]
  · rw [wires_acted_other]
  · rw [wire]
  · rw [wires_acted_other]

/-! ## Dispatches of links and listeners -/

/-- A listener hands out an identifier that is not in use. -/
def Clear (t : StdioTunnel) (event : Event) : Prop :=
  ∀ conn socket c s n, event.polled = .listenSide conn socket → t.connection? conn = some c →
    c.role = .listenSide s n → t.link? conn (Short.ofInt n) = none

/-- Only the local endpoint listens while the remote endpoint has no connections. -/
theorem listenerSide_of_listens {conn : Short} (stage : s.Greeting ∨ s.Joined)
    (listens : (s.tunnel side).listens conn.val = true) : s.listenerSide conn = side := by
  unfold listenerSide
  cases side with
  | localSide => exact if_pos listens
  | remoteSide =>
      refine if_neg fun both => ?_
      rcases stage with greeting | joined
      · unfold StdioTunnel.listens StdioTunnel.kind? StdioTunnel.bare? at listens
        rw [greeting.empty] at listens
        cases listens
      · have connects := joined.back conn.val listens
        unfold StdioTunnel.connects at connects
        unfold StdioTunnel.listens at both
        split at both
        · rename_i found
          rw [found, both] at connects
          cases connects
        · cases both

/-- Acting without a change. -/
theorem acted_same (s : System) (side : Side) : s.acted side (s.ends side) = s := by
  have wire : (s.wires side).queued (s.writer side) (s.writer side) = s.wires side := by
    unfold Wire.queued
    rw [List.drop_length, List.map_nil, List.append_nil]
  unfold acted
  rw [Function.update_eq_self]
  change System.mk s.ends (Function.update s.wires side
    ((s.wires side).queued (s.writer side) (s.writer side))) s.brought = s
  rw [wire, Function.update_eq_self]

def serving (s : System) (side : Side) (call : ServerCall) : Endpoint :=
  (s.ends side).withTunnel ((s.tunnel side).serve call)

theorem tunnel_serving (s : System) (side : Side) (call : ServerCall) :
    (s.serving side call).tunnel = (s.tunnel side).serve call := Endpoint.tunnel_withTunnel _ _

/-- Calls on the descriptor of the socks5 server queue nothing. -/
theorem acted_serve (s : System) (side : Side) (call : ServerCall) :
    s.acted side (s.serving side call) = { s with
      ends := Function.update s.ends side (s.serving side call) } := by
  have wire : (s.wires side).queued (s.writer side) (s.writer side) = s.wires side := by
    unfold Wire.queued
    rw [List.drop_length, List.map_nil, List.append_nil]
  have writer : (s.serving side call).tunnel.m_write_stream = (s.tunnel side).m_write_stream := by
    rw [tunnel_serving]
    rfl
  unfold acted
  rw [writer]
  change System.mk _ (Function.update s.wires side
    ((s.wires side).queued (s.writer side) (s.writer side))) s.brought = _
  rw [wire, Function.update_eq_self]

/-- What the dispatch of a link or a listener does is a step of one link. -/
theorem Inv.object_outcome (inv : s.Inv) {event : Event} (other : event.polled ≠ .stdioTunnel)
    (step : (s.ends side).Step event e) (clear : Clear (s.tunnel side) event) :
    (∃ call, e = s.serving side call) ∨ ∃ t conn id opened moves, e = (s.ends side).withTunnel t ∧
      StdioTunnel.Outcome (s.tunnel side) t conn id opened moves ∧
      (side = .remoteSide → ¬ s.Greeting) ∧
      (Played s (s.acted side e) side conn id opened moves →
        ∀ c i, Relation.ReflTransGen LinkState.Step (s.link c i) ((s.acted side e).link c i)) := by
  obtain ⟨polled, poll_struct, calls⟩ := event
  have own := inv.healthy side
  obtain ⟨record, registered, _⟩ := step.registered
  have result := step.result
  rw [Endpoint.dispatch_object other] at result
  obtain ⟨t, handled, rfl⟩ := of_map_ok result
  cases polled with
  | stdioTunnel => exact absurd rfl other
  | socks5Server =>
      obtain rfl := Except.ok.inj handled
      exact Or.inl ⟨_, rfl⟩
  | connectionLink x id socket =>
      obtain ⟨conn, rfl, outcome⟩ := StdioTunnel.polledObject_link own.sound registered
        step.within.1 step.within.2 handled
      refine Or.inr ⟨t, conn, id, _, _, rfl, outcome, ?_, fun played => played.acts⟩
      rintro rfl greeting
      have none := own.sound.unregistered_of_none (greeting.empty conn.val) id socket
      change record ∈ (s.tunnel .remoteSide).registrations _ at registered
      rw [none] at registered
      cases registered
  | listenSide x socket =>
      obtain ⟨conn, c, n, rfl, known, isConn, role⟩ := own.sound.listener registered
      have unused := clear conn.val socket c socket n rfl known role
      have outcome := StdioTunnel.polledObject_listener own.sound isConn known role unused handled
      have listens : (s.tunnel side).listens conn.val = true := by
        rw [StdioTunnel.listens_of_connection known, role]
        rfl
      have here := listenerSide_of_listens inv.stage listens
      refine Or.inr ⟨t, conn, _, _, _, rfl, outcome, ?_, fun played =>
        played.accepts here (StdioTunnel.phase_of_none unused)⟩
      rintro rfl greeting
      have none := greeting.empty conn.val
      rw [known] at none
      cases none

end System

end Tun01
