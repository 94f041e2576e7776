import Tun01.Tunnel.LinkRuns
import Tun01.Tunnel.StopAndWait

/-!
# Data under way

While both polling loops run, all data of a connection asks for acknowledgements
or none does, as the flag of the connection has it.  With acknowledgements each
direction of a link has no more than one buffer of data under way.
-/

namespace Tun01

open StdioTunnel (Aside)

/-- A message about a link that is expected fits a frame. -/
theorem Expected.fits {side : Side} {payloads : List (List Byte)} {conn id : Short}
    {m : LinkMessage} (expected : System.Expected side payloads)
    (member : m ∈ payloads.filterMap (LinkMessage.decode conn id)) : m.fits = true := by
  obtain ⟨payload, sent, read⟩ := List.mem_filterMap.mp member
  obtain ⟨m', rfl, sendable⟩ := expected payload sent
  rw [Message.decode_payload] at read
  cases m' with
  | error _ | handshake _ | agreed => cases read
  | link conn' id' m' =>
      unfold Message.about at read
      dsimp only at read
      split at read
      · rw [← Option.some.inj read]
        exact sendable
      · cases read

theorem StdioTunnel.kind?_aside {t t' : StdioTunnel} (aside : Aside t t') (x : Int) :
    t'.kind? x = t.kind? x := by
  unfold StdioTunnel.kind? StdioTunnel.bare?
  rw [aside.connection?]

namespace System

variable {s s' : System} {side : Side} {event : Event} {conn id : Short} {tick : Tick}
  {ticks : List Tick}

/-- No data is longer than the buffer it was read into. -/
theorem Inv.payload_le (inv : s.Inv) {m : LinkMessage}
    (member : m ∈ (s.half side conn id).inFlight) : m.payload.length ≤ LINK_BUFFER_SIZE := by
  have fits : m.fits = true := by
    rcases inv.stage with greeting | joined
    · change m ∈ (s.wires side).underWay.filterMap _ at member
      cases side with
      | localSide =>
          obtain ⟨connections, more, underWay, _, expected⟩ := greeting.request
          rw [underWay, List.filterMap_cons_none (Message.decode_payload conn id _)] at member
          exact Expected.fits expected member
      | remoteSide =>
          unfold Wire.underWay at member
          rw [greeting.silent, List.drop_nil] at member
          cases member
    · exact Expected.fits (joined.expected side) member
  cases m with
  | send bytes | sendForAck bytes => exact of_decide_eq_true fits
  | create | created _ | ack | close => exact Nat.zero_le _

/-! ## Requests -/

/-- The request of an end for its link, or the reply to it, is under way. -/
def Unanswered (s : System) (side : Side) (conn id : Short) : Prop :=
  .create ∈ (s.half side conn id).inFlight ∨
    ∃ success, .created success ∈ (s.half side.other conn id).inFlight

theorem Inv.pending_iff (inv : s.Inv) :
    (s.half side conn id).phase = .pending ↔ s.Unanswered side conn id := by
  have lawful := (inv.links conn id).1
  unfold LinkState.Lawful at lawful
  rcases here_or_there s side conn with here | there
  · rw [link_of_listener here] at lawful
    exact lawful.pending_iff
  · rw [link_of_connector there] at lawful
    obtain ⟨answered, request, reply⟩ := lawful.connector_answered
    refine iff_of_false answered ?_
    rintro (asks | ⟨success, told⟩)
    · exact request asks
    · exact reply success told

/-! ## As the flag has it -/

/-- All data under way is as the connection of its sender has it. -/
def Suited (s : System) : Prop :=
  ∀ x conn id, ∀ m ∈ (s.window x conn id).out, (s.tunnel x).Demands conn m

/-- A dispatch keeps the specifications of an endpoint, or nothing was sent before. -/
theorem Step.specs (step : Step s (side, event) s') (inv : s.Inv) (waitsEmpty : s.WaitsEmpty) :
    (∀ x, (s'.tunnel side).kind? x = (s.tunnel side).kind? x) ∨
      ∀ conn id, (s.window side conn id).out = [] := by
  obtain ⟨e, dispatched, after⟩ := step.ends
  have here : s'.tunnel side = e.tunnel := by
    unfold tunnel
    rw [after, Function.update_self]
  rw [here]
  cases Endpoint.dispatch_turn (waitsEmpty.ends side).keyed dispatched.result with
  | aside same => exact Or.inl (StdioTunnel.kind?_aside same)
  | object run script => exact Or.inl (Operation.run_kept run).kind
  | message handles before run script after =>
      refine Or.inl fun x => ?_
      rw [StdioTunnel.kind?_aside after, (Operation.run_kept run).kind,
        StdioTunnel.kind?_aside before]
      rfl
  | @handshake r isRemote waits =>
      refine Or.inr fun conn id => ?_
      cases side with
      | localSide =>
          obtain ⟨l, _, isLocal, _⟩ := inv.kinds
          rw [isLocal] at isRemote
          cases isRemote
      | remoteSide =>
          rcases inv.stage with greeting | joined
          · unfold window half Wire.underWay
            dsimp only
            rw [greeting.silent, List.drop_nil, List.filterMap_nil]
          · have connected := joined.connected r isRemote
            rw [waits] at connected
            cases connected

theorem Step.suited (step : Step s (side, event) s') (inv : s.Inv) (waitsEmpty : s.WaitsEmpty)
    (clear : Clear (s.tunnel side) event) (free : (s.tunnel side).Free event)
    (suited : s.Suited) : s'.Suited := by
  intro x c i
  have exchange := step.exchange inv clear free c i
  rcases side_cases side x with rfl | rfl
  · have old : ∀ m ∈ (s.window x c i).out, (s'.tunnel x).Demands c m := by
      rcases step.specs inv waitsEmpty with same | none
      · intro m member spec listens known
        exact suited x c i m member spec listens ((same c.val).symm.trans known)
      · rw [none]
        exact List.forall_mem_nil _
    cases exchange with
    | acts own full suits asks after =>
        rw [after]
        exact List.forall_mem_append.mpr ⟨old, suits⟩
    | answers front answer after =>
        rw [after]
        exact List.forall_mem_append.mpr
          ⟨old, fun m member spec _ _ => answer.suits spec.ackPackets m member⟩
  · obtain ⟨e, _, ends⟩ := step.ends
    have there : s'.tunnel side.other = s.tunnel side.other := by
      unfold tunnel
      rw [ends, Function.update_of_ne side.other_ne]
    have before : ∀ m ∈ (s.window side c i).back, (s.tunnel side.other).Demands c m :=
      suited side.other c i
    rw [there, step.window_other]
    dsimp only
    cases exchange with
    | acts own full suits asks after =>
        rw [after]
        exact before
    | answers front answer after =>
        rw [front] at before
        rw [after]
        exact (List.forall_mem_cons.mp before).2

theorem LoopStep.suited (step : LoopStep s tick s') (looping : s.Looping) (suited : s.Suited) :
    s'.Suited := by
  have moved : ∀ {t : System} {side : Side} {f : Poller Polled → Poller Polled},
      t.Suited → (t.tunnel side).m_poller.Alike (f (t.tunnel side).m_poller) →
        (t.mapPoller side f).Suited := by
    intro t side f suited alike x c i m member spec listens known
    rw [window_mapPoller alike] at member
    rw [kept_mapPoller (g := fun t => t.kind? c.val) (fun _ => rfl)] at known
    exact suited x c i m member spec listens known
  cases step with
  | poll obeyed => exact moved suited (.beginRound _ _)
  | pass meets idle => exact moved suited (.advance _)
  | dispatch meets ready step =>
      exact moved (step.1.suited looping.inv looping.waitsEmpty (looping.inv.clear_of_spaced step.2)
        (looping.free meets) suited) (.advance _)

theorem Opened.suited_run (opened : s.Opened) (fits : s.Fits) (run : Run LoopStep s ticks s') :
    s'.Suited := by
  induction run with
  | nil =>
      intro x c i
      rw [opened.window_out fits]
      exact List.forall_mem_nil _
  | snoc earlier last ih => exact last.suited (opened.looping_run fits earlier) ih

/-! ## How much is under way -/

/-- An end that is up and polled has no request for its link under way. -/
theorem Inv.not_create (inv : s.Inv) (isOpen : (s.half side conn id).phase = .opened) :
    .create ∉ (s.half side conn id).inFlight := by
  intro member
  have waits := inv.pending_iff.mpr (Or.inl member)
  rw [isOpen] at waits
  cases waits

/--
In every state that both loops reach the data of a connection that is under way
asks for acknowledgements exactly if the connection has them.  If it has, an end
that is polled has at most one buffer of data under way, and no more than that
was read at this end and has not reached an end of a link that is not closing.
-/
theorem flight_bounded {spec : ConnectionSpec} {listens : Bool} (opened : s.Opened) (fits : s.Fits)
    (run : Run LoopStep s ticks s')
    (known : (s'.tunnel side).kind? conn.val = some (spec, listens)) :
    (∀ m ∈ (s'.half side conn id).inFlight, m.Suits spec.ackPackets) ∧
      (spec.ackPackets = true → (s'.half side conn id).phase = .opened →
        (LinkMessage.payloads (s'.half side conn id).inFlight).length ≤ LINK_BUFFER_SIZE ∧
          ∀ l, (s'.link conn id).accepts ≤ 1 →
            (s'.tunnel side.other).link? conn.val id = some l → l.m_closing = false →
              ((s'.tunnel side).os.input conn.val id).length ≤
                ((s'.tunnel side.other).os.output conn.val id).length +
                  l.m_buffer.pending.length + LINK_BUFFER_SIZE) := by
  have looping := opened.looping_run fits run
  have suits : ∀ m ∈ (s'.half side conn id).inFlight, m.Suits spec.ackPackets :=
    fun m member => opened.suited_run fits run side conn id m member spec listens known
  refine ⟨suits, fun acks isOpen => ?_⟩
  rw [acks] at suits
  have once : (s'.window side conn id).outstanding ≤ 1 := by
    cases acked : (s'.window side conn id).acked with
    | none =>
        exfalso
        have up := StdioTunnel.acked?_ne_none_iff.mpr (Or.inr isOpen)
        exact up acked
    | some b => exact (looping.waiting.fine side conn id b acked).once
  have packets : LinkMessage.packets (s'.half side conn id).inFlight ≤ 1 :=
    Nat.le_trans (Nat.le_add_right _ _) once
  have short : (LinkMessage.payloads (s'.half side conn id).inFlight).length ≤
      LINK_BUFFER_SIZE := by
    have bound := LinkMessage.payloads_le suits (fun m member => looping.inv.payload_le member)
      (looping.inv.not_create isOpen)
    have most := Nat.mul_le_mul_left LINK_BUFFER_SIZE packets
    rw [Nat.mul_one] at most
    exact Nat.le_trans bound most
  refine ⟨short, fun l single found up => ?_⟩
  have flow := flow_of_orderly ((looping.inv.links conn id).2 single) side
  have kept := congrArg List.length (flow.kept (takes_of_link found up))
  rw [show (s'.half side.other conn id).held = _ from StdioTunnel.held_of_link found,
    List.length_append, List.length_append] at kept
  change ((s'.tunnel side).os.input conn.val id).length =
    ((s'.tunnel side.other).os.output conn.val id).length + _ at kept
  omega

theorem waitsForAck_flight : (patients.beatAll? waitsForAck).any (fun result =>
    ((result.2.tunnel .localSide).kind? 0).any (fun kind => kind.1.ackPackets) &&
      decide ((result.2.half .localSide (Short.ofInt 0) (Short.ofInt 501)).phase = .opened) &&
      !(result.2.half .localSide (Short.ofInt 0) (Short.ofInt 501)).inFlight.isEmpty) = true := by
  decide +kernel

/-- The packet of a client asks for its acknowledgement, and is all that is under way. -/
theorem flight_bounded_packet : ∃ s : System,
    (s.half .localSide (Short.ofInt 0) (Short.ofInt 501)).inFlight ≠ [] ∧
      (∀ m ∈ (s.half .localSide (Short.ofInt 0) (Short.ofInt 501)).inFlight, m.Suits true) ∧
      (LinkMessage.payloads (s.half .localSide (Short.ofInt 0) (Short.ofInt 501)).inFlight).length ≤
        LINK_BUFFER_SIZE := by
  obtain ⟨⟨ticks, s⟩, beaten, facts⟩ := (Option.any_eq_true _ _).mp waitsForAck_flight
  rw [Bool.and_eq_true, Bool.and_eq_true, decide_eq_true_iff, Bool.not_eq_true'] at facts
  obtain ⟨⟨known, isOpen⟩, some⟩ := facts
  obtain ⟨⟨spec, listens⟩, kind, acks⟩ := (Option.any_eq_true _ _).mp known
  have here : (s.tunnel .localSide).kind? (Short.ofInt 0).val = .some (spec, listens) := kind
  obtain ⟨suits, bounded⟩ := @flight_bounded _ s .localSide (Short.ofInt 0) (Short.ofInt 501) _
    spec listens patients_opened patients_fits (beatAll?_run beaten) here
  have flag : spec.ackPackets = true := acks
  rw [flag] at suits
  refine ⟨s, fun none => ?_, suits, (bounded flag isOpen).1⟩
  dsimp only at some
  rw [none] at some
  cases some

end System

end Tun01
