import Tun01.Tunnel.Answers
import Tun01.Tunnel.Honest

/-!
# Exchanges

Both directions of every link of a system over one dispatch: the endpoint that
is dispatched acts on its own or answers the oldest message under way, and what
waited as its sender says before waits as it says afterwards.
-/

namespace Tun01

open LinkState (Up)
open StdioTunnel (Aside Answers Effect)
open Window (Own Answer)

/-- A link reads only what may be sent. -/
def StdioTunnel.Free (t : StdioTunnel) (event : Event) : Prop :=
  ∀ conn l, event.polled = .connectionLink conn l.m_id l.m_socket →
    t.link? conn l.m_id = some l → l.m_closing = false →
      event.poll_struct.revents.POLLIN = true → l.m_acknowledged = true

/-- The message is as the connection of its link has it. -/
def StdioTunnel.Demands (t : StdioTunnel) (conn : Short) (m : LinkMessage) : Prop :=
  ∀ spec listens, t.kind? conn.val = some (spec, listens) → m.Suits spec.ackPackets

namespace System

variable {s s₁ s' : System} {side : Side} {e : Endpoint} {event : Event} {conn id : Short}
  {out : List LinkMessage} {acked : Option Bool}

def window (s : System) (side : Side) (conn id : Short) : Window where
  acked := (s.tunnel side).acked? conn.val id
  out := (s.half side conn id).inFlight
  back := (s.half side.other conn id).inFlight

/-- What the dispatch of an endpoint does about a link. -/
inductive Exchange (s s' : System) (side : Side) (conn id : Short) : Prop where
  | acts {out : List LinkMessage} {acked : Option Bool}
      (own : Own (s.window side conn id).acked out acked) (full : ∀ m ∈ out, m.Full)
      (suits : ∀ m ∈ out, (s'.tunnel side).Demands conn m)
      (asks : .create ∈ out → (s.tunnel side).listens conn.val = true ∧
        (s.tunnel side).phase conn.val id = .absent)
      (after : s'.window side conn id =
        ⟨acked, (s.window side conn id).out ++ out, (s.window side conn id).back⟩)
  | answers {m : LinkMessage} {reply rest : List LinkMessage} {acked : Option Bool}
      (front : (s.window side conn id).back = m :: rest)
      (answer : Answer (s.window side conn id).acked m reply acked)
      (after : s'.window side conn id = ⟨acked, (s.window side conn id).out ++ reply, rest⟩)

theorem Exchange.quiet (same : s'.window side conn id = s.window side conn id) :
    Exchange s s' side conn id := by
  refine .acts .nothing (List.forall_mem_nil _) (List.forall_mem_nil _) (fun no => by cases no) ?_
  rw [same, List.append_nil]

theorem window_same (acked : (s'.tunnel side).acked? conn.val id =
      (s.tunnel side).acked? conn.val id)
    (halves : ∀ x, (s'.half x conn id).inFlight = (s.half x conn id).inFlight) :
    s'.window side conn id = s.window side conn id := by
  unfold window
  rw [acked, halves, halves]

/-! ## Endpoints that queue frames -/

theorem inFlight_acted (ordered : (s.wires side).Ordered) (c i : Short) :
    ((s.acted side e).half side c i).inFlight =
      (s.half side c i).inFlight ++ (s.tunnel side).queuedFor e.tunnel c i := by
  have wire : (s.acted side e).wires side =
      (s.wires side).queued (s.writer side) e.tunnel.m_write_stream.toWriteStream :=
    Function.update_self side _ s.wires
  have added : (e.tunnel.m_write_stream.m_packet_queue.drop
      (s.writer side).m_packet_queue.length).map WritePacket.payload =
        (s.tunnel side).queued e.tunnel := by
    unfold StdioTunnel.queued StdioTunnel.frames
    rw [List.map_drop, List.length_map]
    rfl
  unfold half StdioTunnel.queuedFor
  dsimp only
  rw [wire]
  unfold Wire.queued
  rw [added, Wire.underWay_append ordered, List.filterMap_append]

theorem inFlight_acted_other (c i : Short) :
    ((s.acted side e).half side.other c i).inFlight = (s.half side.other c i).inFlight := by
  unfold half
  rw [wires_acted_other]

/-- A handler of a link has changed one endpoint. -/
theorem window_acted (effect : Effect (s.tunnel side) e.tunnel conn id out acked)
    (ordered : (s.wires side).Ordered) :
    (s.acted side e).window side conn id =
        ⟨acked, (s.window side conn id).out ++ out, (s.window side conn id).back⟩ ∧
      ∀ c i, ¬(c = conn ∧ i = id) → (s.acted side e).window side c i = s.window side c i := by
  constructor
  · unfold window
    rw [tunnel_acted_self, inFlight_acted ordered, inFlight_acted_other, effect.own, effect.queued]
  · intro c i other
    have same := effect.others c.val i fun here =>
      other ⟨Short.val_injective here.1, here.2⟩
    unfold window
    rw [tunnel_acted_self, inFlight_acted ordered, inFlight_acted_other,
      StdioTunnel.acked?_same same, effect.silent c i other, List.append_nil]

theorem Exchange.ofEffect (effect : Effect (s.tunnel side) e.tunnel conn id out acked)
    (ordered : (s.wires side).Ordered) (own : Own (s.window side conn id).acked out acked)
    (full : ∀ m ∈ out, m.Full) (suits : ∀ m ∈ out, e.tunnel.Demands conn m)
    (asks : .create ∈ out → (s.tunnel side).listens conn.val = true ∧
      (s.tunnel side).phase conn.val id = .absent) (c i : Short) :
    Exchange s (s.acted side e) side c i := by
  obtain ⟨mine, others⟩ := window_acted effect ordered
  by_cases here : c = conn ∧ i = id
  · obtain ⟨rfl, rfl⟩ := here
    rw [← tunnel_acted_self s side e] at suits
    exact .acts own full suits asks mine
  · exact .quiet (others c i here)

/-- The dispatch of a link or a listener. -/
theorem Inv.object_exchange (inv : s.Inv) (other : event.polled ≠ .stdioTunnel)
    (step : (s.ends side).Step event e) (clear : Clear (s.tunnel side) event)
    (free : (s.tunnel side).Free event) (c i : Short) :
    Exchange s (s.acted side e) side c i := by
  have own := inv.healthy side
  have keyed := own.sound.keyed
  obtain ⟨record, registered, _⟩ := step.registered
  cases polled : event.polled with
  | stdioTunnel => exact absurd polled other
  | socks5Server =>
      have result := step.result
      rw [Endpoint.dispatch_object other, polled] at result
      obtain ⟨t, handled, rfl⟩ := of_map_ok result
      obtain rfl := Except.ok.inj handled
      change Exchange s (s.acted side (s.serving side _)) side c i
      rw [acted_serve]
      refine .quiet (window_same (StdioTunnel.acked?_same ?_) fun _ => rfl)
      change (Function.update s.ends side (s.serving side _) side).tunnel.link? c.val i = _
      rw [Function.update_self, tunnel_serving]
      rfl
  | connectionLink x i' socket =>
      obtain ⟨conn, c', l, ops, rfl, known, stores, rfl, rfl, run, steps⟩ :=
        Endpoint.dispatch_link keyed polled step.result
      have up : l.m_closing = false := by
        rw [polled] at registered
        rcases (own.sound.links conn.val l.m_id).registered l.m_socket with
          empty | ⟨l', _, found, _, up, _⟩
        · change record ∈ (s.tunnel side).registrations _ at registered
          rw [empty] at registered
          cases registered
        · obtain rfl := Option.some.inj (found.symm.trans stores)
          exact up
      obtain ⟨out, acked, effect, sends, full⟩ := steps.effect run stores up
        fun input _ => free conn.val l polled stores up input
      refine .ofEffect effect own.ordered sends (fun m member => (full m member).1)
        (fun m member spec listens known' => ?_) (fun no => absurd rfl (full _ no).2.1) c i
      rw [(Operation.run_kept run).kind, StdioTunnel.kind?_of_connection known] at known'
      rw [← (Prod.mk.inj (Option.some.inj known')).1]
      exact (full m member).2.2
  | listenSide x socket =>
      have result := step.result
      rw [Endpoint.dispatch_object other, polled] at result
      obtain ⟨t, handled, rfl⟩ := of_map_ok result
      obtain ⟨ops, run, script⟩ :=
        (StdioTunnel.polledObject_run keyed handled).resolve_right fun server => nomatch server.1
      cases script with
      | listener conn c' socket n =>
          obtain ⟨t₁, first, _⟩ := run.uncons
          obtain ⟨known, isConn, role⟩ := first.1
          have unused := clear conn.val socket c' socket n polled known role
          have effect := StdioTunnel.effect_run conn (Short.ofInt n) run
            (List.forall_mem_cons.mpr ⟨⟨rfl, rfl⟩,
              List.forall_mem_singleton.mpr (Operation.about_link conn _ .create)⟩)
          have created : ([Operation.accept conn c' socket n,
              .emit (.link conn (Short.ofInt n) .create)].flatMap Operation.messages).filterMap
                (Message.about conn (Short.ofInt n)) = [.create] :=
            List.filterMap_cons_some (if_pos ⟨rfl, rfl⟩)
          rw [created] at effect
          have tunnel' : ((s.ends side).withTunnel t).tunnel = t := Endpoint.tunnel_withTunnel _ t
          rw [← tunnel'] at effect
          refine .ofEffect effect own.ordered .accept (List.forall_mem_singleton.mpr trivial)
            (List.forall_mem_singleton.mpr fun _ _ _ => trivial)
            (fun _ => ⟨?_, StdioTunnel.phase_of_none unused⟩) c i
          rw [StdioTunnel.listens_of_connection known, role]
          rfl

/-! ## Frames that are read -/

variable {got : List Byte} {stream : ReadStream} {payload : List Byte} {m : LinkMessage}

/-- The endpoint can handle the message at the front of a link. -/
theorem Inv.fits_front (inv : s.Inv) (joined : s.Joined) {rest : List LinkMessage}
    (front : (s.half side.other conn id).inFlight = m :: rest) :
    StdioTunnel.Fits ((s.tunnel side).listens conn.val) m := by
  have lawful := (inv.links conn id).1
  unfold LinkState.Lawful at lawful
  rcases here_or_there s side conn with here | there
  · rw [link_of_listener here] at lawful
    dsimp only at lawful
    rw [front] at lawful
    rcases lawful.listenerFinds with ⟨success, rfl, waiting⟩ | ⟨kind, _⟩
    · obtain ⟨l, found⟩ := @StdioTunnel.link_of_phase (s.tunnel side) conn id
        (by rw [show StdioTunnel.phase _ _ _ = _ from waiting]; exact fun no => by cases no)
      obtain ⟨c, known, _⟩ := (inv.healthy side).sound.connection_of_link found
      exact Or.inr (Or.inl ⟨joined.listens_here here known, success, rfl⟩)
    · exact Or.inl kind
  · rw [link_of_connector there] at lawful
    dsimp only at lawful
    rw [front] at lawful
    rcases lawful.connectorFinds with ⟨rfl, waiting, _⟩ | ⟨kind, _⟩
    · obtain ⟨l, found⟩ := @StdioTunnel.link_of_phase (s.tunnel side.other) conn id
        (by rw [show StdioTunnel.phase _ _ _ = _ from waiting]; exact fun no => by cases no)
      obtain ⟨c, known, _⟩ := (inv.healthy side.other).sound.connection_of_link found
      have connects := joined.connects_there there known
      obtain ⟨c', known', role⟩ := StdioTunnel.connectSide_of_connects connects
      refine Or.inr (Or.inr ⟨?_, rfl⟩)
      rw [StdioTunnel.listens_of_connection known', role]
      rfl
    · exact Or.inl kind

/-- The dispatch of the descriptor frames come from. -/
theorem Inv.read_exchange (inv : s.Inv) {poll_struct : Pollfd} {calls : Calls}
    (fd : poll_struct.fd = (s.ends side).readFd) (ready : poll_struct.revents = POLLIN)
    (reads : Pipeline.FillReads (s.reader side) (s.wires side.other).pipe calls.header
      calls.body got)
    (fills : (s.reader side).fill poll_struct calls.header calls.body = .ok stream)
    (dispatched : (s.ends side).dispatch ⟨.stdioTunnel, poll_struct, calls⟩ = .ok e) (c i : Short) :
    Exchange s ((s.filled side got stream).acted side e) side c i := by
  obtain ⟨receives, healthy⟩ := inv.receives fd ready reads fills dispatched
  rw [← acted_consumed]
  have ordered := (healthy side).ordered
  have still : ((s.consumed side got stream).tunnel side).acked? c.val i =
      (s.tunnel side).acked? c.val i := by
    rw [tunnel_consumed_self]
    rfl
  cases receives with
  | part same calm =>
      rw [same, acted_same]
      exact .quiet (window_same still fun x => by rw [calm.half])
  | request greeting isRemote _ untouched delivered =>
      -- there is no link before and after
      have before : (s.tunnel side).phase c.val i = .absent := by
        rw [isRemote]
        refine StdioTunnel.phase_of_none ?_
        unfold StdioTunnel.link?
        rw [greeting.empty]
        rfl
      have none : ∀ {t : StdioTunnel}, t.phase c.val i = .absent → t.acked? c.val i = none := by
        intro t absent
        by_contra some'
        have up := StdioTunnel.acked?_ne_none_iff.mp some'
        rw [absent] at up
        rcases up with no | no <;> cases no
      refine .quiet (window_same ?_ fun x => by rw [(untouched c i).1])
      rw [none before]
      refine none ?_
      have same := congrArg (fun h => h.toLinkEnd.phase) ((untouched c i).1 side)
      exact same.trans before
  | @message payload joined underWay processed delivered =>
      have taken := consumed_taken underWay
      cases processed with
      | aside none same =>
          have back : ∀ x, ((s.consumed side got stream).half x c i).inFlight =
              (s.half x c i).inFlight := by
            intro x
            rcases side_cases side x with rfl | rfl
            · rw [taken.near]
            · have front := taken.front c i
              rw [none, Option.toList_none, List.nil_append] at front
              exact front.symm
          have kept : e.tunnel.m_write_stream =
              ((s.consumed side got stream).tunnel side).m_write_stream.emitting [] := by
            rw [same, CustomWriteStream.emitting_nil]
          refine .quiet (window_same ?_ fun x => ?_)
          · rw [tunnel_acted_self, same]
            exact still
          · rw [← back]
            rcases side_cases side x with rfl | rfl
            · unfold half
              rw [acted_underWay ordered kept, List.append_nil]
            · exact inFlight_acted_other c i
      | @link conn id m t opened moves is outcome result =>
          have front := taken.front conn id
          rw [is, LinkMessage.decode_encode_self] at front
          change (s.half side.other conn id).inFlight = m :: _ at front
          have fits := inv.fits_front joined front
          rw [← StdioTunnel.listens_of_kind (taken.kind side)] at fits
          obtain ⟨out, acked, effect, answer⟩ :=
            StdioTunnel.dispatchMessage_answers (healthy side).sound.keyed fits result
          have tunnel' : (((s.consumed side got stream).ends side).withTunnel t).tunnel = t :=
            Endpoint.tunnel_withTunnel _ t
          rw [← tunnel'] at effect
          obtain ⟨mine, others⟩ := window_acted effect ordered
          have near : ∀ c i, (s.consumed side got stream).window side c i =
              ⟨((s.consumed side got stream).tunnel side).acked? c.val i,
                (s.half side c i).inFlight,
                ((s.consumed side got stream).half side.other c i).inFlight⟩ := by
            intro c i
            unfold window
            rw [taken.near]
          by_cases here : c = conn ∧ i = id
          · obtain ⟨rfl, rfl⟩ := here
            rw [near] at mine
            rw [still] at answer
            exact .answers front answer mine
          · have none : LinkMessage.decode c i payload = none := by
              rw [is, LinkMessage.decode_encode, if_neg]
              exact fun same => here ⟨same.1.symm, same.2.symm⟩
            have far := taken.front c i
            rw [none, Option.toList_none, List.nil_append] at far
            refine .quiet ((others c i here).trans ?_)
            rw [near, still, ← far]
            rfl

/-! ## Every dispatch -/

/-- What a dispatch of an endpoint does about every link. -/
theorem Step.exchange (step : Step s (side, event) s') (inv : s.Inv)
    (clear : Clear (s.tunnel side) event) (free : (s.tunnel side).Free event) (c i : Short) :
    Exchange s s' side c i := by
  have own := inv.healthy side
  have beside : ∀ {e : Endpoint} {t : StdioTunnel} {wires : Side → Wire},
      StdioTunnel.Beside t e.tunnel → (∀ x i, t.link? x i = (s.tunnel side).link? x i) →
        (∀ x, (wires x).underWay = (s.wires x).underWay) →
        Exchange s { s with ends := Function.update s.ends side e, wires := wires } side c i := by
    intro e t wires beside links underWay
    refine .quiet (window_same ?_ fun x => ?_)
    · refine StdioTunnel.acked?_same ?_
      have here : System.tunnel { s with ends := Function.update s.ends side e, wires := wires }
          side = e.tunnel := congrArg Endpoint.tunnel (Function.update_self side e s.ends)
      rw [here, beside.link?, links]
    · unfold half
      dsimp only
      rw [underWay]
  cases step with
  | object other step => exact inv.object_exchange other step clear free c i
  | read fd ready reads fills step =>
      exact inv.read_exchange fd ready reads fills step.result c i
  | write fd ready writes within empties step =>
      obtain ⟨t, handled, near⟩ := Endpoint.dispatch_write own.framed fd ready empties
      obtain rfl := Except.ok.inj (step.result.symm.trans handled)
      have tunnel' := Endpoint.tunnel_withTunnel (s.ends side) t
      rw [← tunnel'] at near
      refine beside near (fun _ _ => rfl) fun x => ?_
      rcases side_cases side x with rfl | rfl
      · rw [Function.update_self]
        rfl
      · rw [Function.update_of_ne (Side.other_ne _)]
  | console notRead notWrite step =>
      obtain ⟨near, _⟩ := Endpoint.dispatch_console own.framed notRead notWrite step.result
      exact beside near (fun _ _ => rfl) fun _ => rfl

/-- The endpoint that is not dispatched keeps its flags. -/
theorem Step.window_other (step : Step s (side, event) s') (c i : Short) :
    s'.window side.other c i =
      ⟨(s.window side.other c i).acked, (s'.window side c i).back, (s'.window side c i).out⟩ := by
  obtain ⟨e, _, after⟩ := step.ends
  have far : s'.tunnel side.other = s.tunnel side.other := by
    unfold tunnel
    rw [after, Function.update_of_ne side.other_ne]
  unfold window
  rw [far, Side.other_other]

/-! ## Both directions -/

/-- What the listener has for the first time, and the connector asks for, is not under way. -/
theorem Inv.acks_absent (inv : s.Inv) (listens : (s.tunnel side).listens conn.val = true)
    (absent : (s.tunnel side).phase conn.val id = .absent) :
    LinkMessage.acks (s.window side conn id).back = 0 := by
  have here := listenerSide_of_listens inv.stage listens
  have lawful := (inv.links conn id).1
  unfold LinkState.Lawful at lawful
  rw [link_of_listener here] at lawful
  have none : (s.half side conn id).phase = .absent := absent
  dsimp only at lawful
  rw [none] at lawful
  exact lawful.listenerNew

/-- Nothing else is under way with the request for a link. -/
theorem Inv.window_asked (inv : s.Inv) {rest : List LinkMessage}
    (front : (s.window side conn id).back = .create :: rest) :
    (s.window side conn id).out = [] ∧ rest = [] := by
  have lawful := (inv.links conn id).1
  unfold LinkState.Lawful at lawful
  change (s.half side.other conn id).inFlight = _ at front
  rcases here_or_there s side conn with here | there
  · rw [link_of_listener here] at lawful
    dsimp only at lawful
    rw [front] at lawful
    rcases lawful.listenerFinds with ⟨_, no, _⟩ | ⟨no | no, _⟩ <;> cases no
  · rw [link_of_connector there] at lawful
    dsimp only at lawful
    rw [front] at lawful
    obtain ⟨_, _, ended, quiet⟩ := lawful.connectorAsked
    exact ⟨quiet, ended⟩

/-- What the receiver makes of a packet at the front. -/
theorem Inv.heard (inv : s.Inv) {rest : List LinkMessage}
    (front : (s.window side conn id).back = m :: rest)
    (up : (s.window side.other conn id).acked ≠ none) :
    Window.Heard (s.window side conn id).acked m rest (s.window side conn id).out := by
  have isUp : ∀ x, (s.window x conn id).acked ≠ none ↔ Up (s.half x conn id).phase :=
    fun _ => StdioTunnel.acked?_ne_none_iff
  have sends := (isUp side.other).mp up
  have lawful := (inv.links conn id).1
  unfold LinkState.Lawful at lawful
  change (s.half side.other conn id).inFlight = _ at front
  rcases here_or_there s side conn with here | there
  · rw [link_of_listener here] at lawful
    dsimp only at lawful
    rw [front] at lawful
    exact lawful.heardByListener sends (isUp side)
  · rw [link_of_connector there] at lawful
    dsimp only at lawful
    rw [front] at lawful
    exact lawful.heardByConnector sends (isUp side)

/-- An exchange keeps both directions in order. -/
theorem Exchange.fine (exchange : Exchange s s' side conn id) (inv : s.Inv)
    (far : s'.window side.other conn id = ⟨(s.window side.other conn id).acked,
      (s'.window side conn id).back, (s'.window side conn id).out⟩)
    (fine : ∀ x, (s.window x conn id).FlagAgrees) (x : Side) : (s'.window x conn id).FlagAgrees := by
  have there := fine side.other
  have ways : (s.window side.other conn id).out = (s.window side conn id).back ∧
      (s.window side.other conn id).back = (s.window side conn id).out := by
    unfold window
    rw [Side.other_other]
    exact ⟨rfl, rfl⟩
  cases exchange with
  | acts own full suits asks after =>
      rcases side_cases side x with rfl | rfl
      · rw [after]
        exact own.sender (fine x) fun new => inv.acks_absent (asks new).1 (asks new).2
      · rw [far, after]
        have kept := own.receiver there
        rw [ways.1, ways.2] at kept
        exact kept
  | @answers m reply rest acked front answer after =>
      rcases side_cases side x with rfl | rfl
      · rw [after]
        refine answer.sender (fine x) front ?_
        rintro rfl
        obtain ⟨quiet, ended⟩ := inv.window_asked front
        rw [quiet, ended]
        exact ⟨rfl, rfl⟩
      · rw [far, after]
        have kept := answer.receiver there (ways.1.trans front) fun up => by
          rw [ways.2]
          exact inv.heard front up
        rw [ways.2] at kept
        exact kept

/-- What is under way after an exchange is full if it was before. -/
theorem Exchange.full (exchange : Exchange s s' side conn id)
    (far : s'.window side.other conn id = ⟨(s.window side.other conn id).acked,
      (s'.window side conn id).back, (s'.window side conn id).out⟩)
    (full : ∀ x, ∀ m ∈ (s.window x conn id).out, m.Full) (x : Side) :
    ∀ m ∈ (s'.window x conn id).out, m.Full := by
  have there : ∀ m ∈ (s.window side conn id).back, m.Full := full side.other
  cases exchange with
  | acts own more suits asks after =>
      rcases side_cases side x with rfl | rfl
      · rw [after]
        exact List.forall_mem_append.mpr ⟨full x, more⟩
      · rw [far, after]
        exact there
  | answers front answer after =>
      rw [front] at there
      rcases side_cases side x with rfl | rfl
      · rw [after]
        exact List.forall_mem_append.mpr ⟨full x, answer.full⟩
      · rw [far, after]
        exact (List.forall_mem_cons.mp there).2

/-- Every direction of every link waits as its sender says, and data is never empty. -/
structure Waiting (s : System) : Prop where
  fine : ∀ x conn id, (s.window x conn id).FlagAgrees
  full : ∀ x conn id, ∀ m ∈ (s.window x conn id).out, m.Full

/-- A dispatch keeps every direction of every link in order. -/
theorem Step.waiting (step : Step s (side, event) s') (inv : s.Inv)
    (clear : Clear (s.tunnel side) event) (free : (s.tunnel side).Free event)
    (waiting : s.Waiting) : s'.Waiting where
  fine := fun x c i => (step.exchange inv clear free c i).fine inv (step.window_other c i)
    (fun x => waiting.fine x c i) x
  full := fun x c i => (step.exchange inv clear free c i).full (step.window_other c i)
    (fun x => waiting.full x c i) x

end System

end Tun01
