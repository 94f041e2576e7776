import Tun01.Tunnel.Honest
import Tun01.Tunnel.Schedule

/-!
# Links along a run

While no identifier is given out twice the two ends of every link agree: a
message finds the link it is about, nothing follows a `close`, and with nothing
under way both ends have the link up or neither has it.  The bytes written at
one end are a first part of the bytes read at the other.
-/

namespace Tun01

open StdioTunnel (Aside)
open LinkMessage (payloads)

/-! ## Sockets of known connections -/

namespace StdioTunnel

variable {t t' : StdioTunnel}

/-- Sockets were opened for links of known connections only. -/
def Owned (t : StdioTunnel) : Prop := ∀ entry ∈ t.os.opened, (t.kind? entry.2.1).isSome

theorem Owned.same (owned : t.Owned) (opened : t'.os.opened = t.os.opened)
    (kind : ∀ x, t'.kind? x = t.kind? x) : t'.Owned := by
  intro entry member
  rw [opened] at member
  rw [kind]
  exact owned entry member

/-- A connection without a record has no socket. -/
theorem Owned.none (owned : t.Owned) {x : Int} (unknown : t.kind? x = none) (id : Short) :
    t.os.socketsOf x id = [] := by
  rw [List.eq_nil_iff_forall_not_mem]
  intro socket member
  have known := owned _ (Kernel.mem_socketsOf.mp member)
  rw [show t.kind? (socket, x, id).2.1 = _ from unknown] at known
  cases known

end StdioTunnel

theorem Operation.owned {t : StdioTunnel} {op : Operation} (valid : op.Valid t)
    (owned : t.Owned) : (op.apply t).Owned := by
  intro entry member
  rw [(kept valid).kind]
  unfold Kernel.opened at member
  rw [trace_apply, List.filterMap_append, List.mem_append] at member
  rcases member with old | new
  · exact owned entry old
  · have known : ∀ {conn : Short} {c : TunnelConnection}, t.connection? conn.val = some c →
        (t.kind? conn.val).isSome := fun found => by
      rw [StdioTunnel.kind?_of_connection found]
      rfl
    cases op with
    | emit _ | acknowledge _ _ _ | push _ _ _ | erase _ _ | establish _ _ | received _ _ _
    | written _ _ _ _ | close _ _ | refuse _ _ => cases new
    | accept conn c socket n =>
        obtain rfl := List.mem_singleton.mp new
        exact known valid.1
    | attempt conn id | connect conn id =>
        obtain ⟨c, found, _⟩ := valid
        obtain rfl := List.mem_singleton.mp new
        exact known found

theorem StdioTunnel.owned_run {t t' : StdioTunnel} {ops : List Operation}
    (run : Run Operation.Step t ops t') (owned : t.Owned) : t'.Owned := by
  induction run with
  | nil => exact owned
  | snoc earlier last ih =>
      rw [last.2]
      exact Operation.owned last.1 ih

namespace Endpoint

variable {e e' : Endpoint} {event : Event}

theorem Turn.owned (turn : Turn e event e') (waitsEmpty : e.WaitsEmpty) (owned : e.tunnel.Owned) :
    e'.tunnel.Owned := by
  have aside : ∀ {t t' : StdioTunnel}, Aside t t' → t.Owned → t'.Owned := fun same owned =>
    owned.same (by rw [same.os]) same.kind
  cases turn with
  | aside same => exact aside same owned
  | object run script => exact StdioTunnel.owned_run run owned
  | message handles before run script after =>
      exact aside after (StdioTunnel.owned_run run (aside before owned))
  | @handshake r isRemote waits linkless listens keyed joined server =>
      obtain ⟨unknown, _⟩ := waitsEmpty.waiting r isRemote waits
      obtain ⟨more, trace, calls⟩ := listens.trace
      intro entry member
      unfold Kernel.opened at member
      rw [trace, List.filterMap_append, List.mem_append] at member
      rcases member with old | new
      · have known := owned entry old
        rw [isRemote] at known
        unfold StdioTunnel.kind? StdioTunnel.bare? at known
        rw [show (remoteEnd r).tunnel.connection? entry.2.1 = none from unknown _] at known
        cases known
      · obtain ⟨call, inMore, found⟩ := List.mem_filterMap.mp new
        obtain ⟨socket, conn, rfl, _⟩ := calls call inMore
        cases found

end Endpoint

namespace System

variable {s s' : System} {side : Side} {event : Event} {labels : List (Side × Event)}
  {conn id : Short}

theorem Step.owned (step : Step s (side, event) s') (waitsEmpty : s.WaitsEmpty)
    (owned : ∀ x, (s.tunnel x).Owned) (x : Side) : (s'.tunnel x).Owned := by
  obtain ⟨e, dispatched, after⟩ := step.ends
  unfold tunnel
  rw [after]
  rcases side_cases side x with rfl | rfl
  · have own := waitsEmpty.ends x
    rw [Function.update_self]
    exact (Endpoint.dispatch_turn own.keyed dispatched.result).owned own (owned x)
  · rw [Function.update_of_ne side.other_ne]
    exact owned side.other

theorem Opened.unopened (opened : s.Opened) (x : Side) : (s.tunnel x).os.opened = [] := by
  obtain ⟨begun, specs, read, written, waits, passing, greets, once, remote⟩ := opened
  cases x with
  | localSide =>
      obtain ⟨d, passes, queued⟩ := greeted_passes begun waits passing greets once
      exact ((begun.populated specs).1.aside passes.aside).opened
  | remoteSide =>
      obtain rfl := StdioTunnelRemote.start_waiting remote
      rfl

theorem Opened.owned_run (opened : s.Opened) (run : Run Step s labels s') (x : Side) :
    (s'.tunnel x).Owned := by
  induction run generalizing x with
  | nil =>
      intro entry member
      rw [opened.unopened x] at member
      cases member
  | @snoc _ _ _ label earlier last ih =>
      exact @Step.owned _ _ label.1 label.2 last (opened.waitsEmpty_run earlier) ih x

/-! ## Identifiers given out once -/

/-- The listener's end knows the connection, or neither end has a socket for it. -/
theorem Inv.accepts_le (inv : s.Inv) (owned : ∀ x, (s.tunnel x).Owned)
    (few : s.clients conn < 65536) (id : Short) : (s.link conn id).accepts ≤ 1 := by
  cases listens : (s.tunnel (s.listenerSide conn)).listens conn.val with
  | true =>
      obtain ⟨spec, i, socket, n, role⟩ : ∃ spec i socket n,
          (s.tunnel (s.listenerSide conn)).bare? conn.val =
            some (spec, i, .listenSide socket n) := by
        unfold StdioTunnel.listens StdioTunnel.kind? at listens
        cases bare : (s.tunnel (s.listenerSide conn)).bare? conn.val with
        | none =>
            rw [bare] at listens
            cases listens
        | some b =>
            obtain ⟨spec, i, role⟩ := b
            rw [bare] at listens
            cases role with
            | listenSide socket n => exact ⟨spec, i, socket, n, rfl⟩
            | connectSide => cases listens
      exact (inv.healthy _).numbered.once role (Nat.le_of_lt few) id
  | false =>
      have isRemote : s.listenerSide conn = .remoteSide := by
        unfold listenerSide at listens ⊢
        split
        · rename_i here
          rw [if_pos here, here] at listens
          cases listens
        · rfl
      have unknown : (s.tunnel .remoteSide).kind? conn.val = none := by
        rcases inv.stage with greeting | joined
        · unfold StdioTunnel.kind? StdioTunnel.bare?
          rw [greeting.empty]
          rfl
        · have silent : (s.tunnel .localSide).listens conn.val = false := by
            unfold listenerSide at isRemote
            split at isRemote
            · cases isRemote
            · rename_i silent
              exact eq_false_of_ne_true silent
          rw [isRemote] at listens
          rw [joined.forth] at silent
          unfold StdioTunnel.connects at silent
          unfold StdioTunnel.listens at listens
          cases kind : (s.tunnel .remoteSide).kind? conn.val with
          | none => rfl
          | some pair =>
              rw [kind] at silent listens
              dsimp only at silent listens
              rw [listens] at silent
              cases silent
      unfold link
      dsimp only
      rw [isRemote, (owned .remoteSide).none unknown]
      exact Nat.zero_le 1

/-- Every link of a run with few clients is in order. -/
theorem Opened.orderly (opened : s.Opened) (fits : s.Fits) (run : Run Step s labels s')
    (few : ∀ conn, s'.clients conn < 65536) (conn id : Short) : (s'.link conn id).Orderly := by
  have inv := opened.run_inv fits run few
  exact (inv.links conn id).2 (inv.accepts_le (opened.owned_run run) (few conn) id)

def atClient (calls : Calls) : Move :=
  .object .localSide ⟨.connectionLink 0 (Short.ofInt 501) 1, ⟨1, POLLIN, POLLIN⟩, calls⟩

def atHost (events : PollEvents) (calls : Calls) : Move :=
  .object .remoteSide ⟨.connectionLink 0 (Short.ofInt 501) 0, ⟨0, events, events⟩, calls⟩

def passes (side : Side) : List Move := [.flush side, .fetch side.other {}]

def linkUp : List Move :=
  handshake ++ .object .localSide ⟨.listenSide 0 0, ⟨0, POLLIN, POLLIN⟩, {}⟩ ::
    (passes .localSide ++ passes .remoteSide)

def exchange : List Move :=
  linkUp ++ atClient { read := .ok (text "hi") } ::
    (passes .localSide ++ [atHost POLLOUT { write := .ok 1 }])

theorem exchange_run : (∃ labels, Run Step greeted labels (greeted.playAll exchange)) ∧
    ∀ conn, (greeted.playAll exchange).clients conn < 65536 := by
  obtain ⟨played, own, other⟩ : (greeted.playAll? exchange).isSome = true ∧
      ((greeted.playAll exchange).tunnel .localSide).os.trace.length < 65536 ∧
      ((greeted.playAll exchange).tunnel .remoteSide).os.trace.length < 65536 := by
    decide +kernel
  exact ⟨playAll_run played, clients_few _ own other⟩

/-- A frame that can be fetched is delivered. -/
theorem fetch_delivers {calls : Calls} (played : s.play? (.fetch side calls) = some s') :
    ∃ stream, s.Delivers side (s.label (.fetch side calls)).2.poll_struct
      (s.label (.fetch side calls)).2.calls (s.header side ++ s.body side) stream := by
  unfold play? at played
  dsimp only at played
  split at played
  · split at played
    · dsimp only [moved] at played
      split at played
      · rename_i stream fills
        split at played
        · rename_i arrived
          exact ⟨stream, rfl, rfl, arrived_reads arrived, fills⟩
        · cases played
      · cases played
    · cases played
  · cases played

/-! ## Life cycle -/

/-- A message finds its link, unless it asks for one. -/
theorem Inv.finds (inv : s.Inv) {m : LinkMessage} {rest : List LinkMessage}
    (front : (s.half side.other conn id).inFlight = m :: rest)
    (known : (s.tunnel side).listens conn.val = true ∨ m.command ≠ LINK_CREATE) :
    ∃ l, (s.tunnel side).link? conn.val id = some l := by
  have lawful := (inv.links conn id).1
  unfold LinkState.Lawful at lawful
  refine StdioTunnel.link_of_phase fun absent => ?_
  change (s.half side conn id).phase = .absent at absent
  rcases here_or_there s side conn with here | there
  · rw [link_of_listener here] at lawful
    dsimp only at lawful
    rw [front, absent] at lawful
    rcases lawful.listenerFinds with ⟨_, _, no⟩ | ⟨_, no | no⟩ <;> cases no
  · rw [link_of_connector there] at lawful
    dsimp only at lawful
    rw [front, absent] at lawful
    rcases lawful.connectorFinds with ⟨rfl, _, _⟩ | ⟨_, no | no⟩
    · rcases known with listens | other
      · have here := listenerSide_of_listens inv.stage listens
        exact Side.ne_other side (here.symm.trans there)
      · exact other rfl
    · cases no
    · cases no

/-- An endpoint that takes frames about links throws nothing when one arrives. -/
theorem Delivers.returns {poll_struct : Pollfd} {calls : Calls} {got : List Byte}
    {stream : ReadStream} (delivers : s.Delivers side poll_struct calls got stream) (inv : s.Inv)
    (carries : (s.ends side).carriesLinks = true) :
    ∃ e, (s.ends side).dispatch ⟨.stdioTunnel, poll_struct, calls⟩ = .ok e := by
  obtain ⟨fd, ready, reads, fills⟩ := delivers
  obtain ⟨outcome, intact⟩ := reads_of_fill inv.healthy ready reads fills
  rw [Endpoint.dispatch_read (inv.healthy side).framed fd ready fills]
  split
  · rename_i available
    cases outcome with
    | part queue underWay =>
        unfold ReadStream.available at available
        rw [queue] at available
        cases available
    | whole payload queue nonempty bounded underWay =>
        have joined : s.Joined := by
          rcases inv.stage with greeting | joined
          · exfalso
            obtain ⟨l, r, _, isRemote⟩ := inv.kinds
            cases side with
            | localSide =>
                unfold Wire.underWay at underWay
                rw [show (s.wires Side.localSide.other).sent = [] from greeting.silent,
                  List.drop_nil] at underWay
                cases underWay
            | remoteSide =>
                rw [isRemote] at carries
                have connected : r.m_state = .CONNECTED := of_decide_eq_true carries
                rw [greeting.waiting r isRemote] at connected
                cases connected
          · exact joined
        obtain ⟨e, processed, _⟩ := joined.delivered inv.kinds
          (consumed_healthy inv.healthy intact) (fun c i => (inv.links c i).1) queue underWay calls
        exact ⟨e, processed⟩
  · exact ⟨_, rfl⟩

/-- With nothing under way about a link both ends have it up, or neither has it. -/
theorem Inv.settles (inv : s.Inv) (quiet : ∀ x, (s.half x conn id).inFlight = []) :
    (∀ x, (s.tunnel x).link? conn.val id = none) ∨
      ∀ x, ∃ l, (s.tunnel x).link? conn.val id = some l ∧ l.m_closing = false := by
  have lawful := (inv.links conn id).1
  unfold LinkState.Lawful link at lawful
  dsimp only at lawful
  rw [quiet, quiet] at lawful
  have either : ∀ {p : Side → Prop}, p (s.listenerSide conn) → p (s.listenerSide conn).other →
      ∀ x, p x := by
    intro p near far x
    rcases side_cases (s.listenerSide conn) x with rfl | rfl
    · exact near
    · exact far
  rcases lawful.quiet with ⟨near, far⟩ | ⟨near, far⟩
  · exact Or.inr (either (StdioTunnel.link?_of_opened near) (StdioTunnel.link?_of_opened far))
  · exact Or.inl (either (StdioTunnel.link?_of_absent near) (StdioTunnel.link?_of_absent far))

/-- Nothing about a link follows its `close`. -/
theorem once_of_orderly (orderly : (s.link conn id).Orderly) (side : Side) :
    ClosesOnce (s.half side conn id) := by
  rcases here_or_there s side conn with here | there
  · have once := orderly.listenerOnce
    rw [link_of_listener here] at once
    exact once
  · have once := orderly.connectorOnce
    rw [link_of_connector there] at once
    exact once

/--
The ends of the links agree along a run with few clients: a frame about a link
is processed and finds it, an end sends nothing after its `close`, and with
nothing under way both ends have a link up or neither has it.
-/
theorem links_agree (opened : s.Opened) (fits : s.Fits) (run : Run Step s labels s')
    (few : ∀ conn, s'.clients conn < 65536) :
    (∀ side poll_struct calls got stream, s'.Delivers side poll_struct calls got stream →
      ((s'.ends side).carriesLinks = true →
        ∃ e, (s'.ends side).dispatch ⟨.stdioTunnel, poll_struct, calls⟩ = .ok e) ∧
      ∀ conn command id fields,
        (s'.ends side).message ⟨.stdioTunnel, poll_struct, calls⟩ =
            some (conn, command, id, fields) →
          (s'.tunnel side).listens conn.val = true ∨ command ≠ LINK_CREATE →
            (s'.tunnel side).link? conn.val id ≠ none) ∧
    (∀ side conn id before after,
      (s'.half side conn id).sent = before ++ .close :: after → after = []) ∧
    ∀ conn id, (∀ side, (s'.half side conn id).inFlight = []) →
      (∀ side, (s'.tunnel side).link? conn.val id = none) ∨
        ∀ side, ∃ l, (s'.tunnel side).link? conn.val id = some l ∧ l.m_closing = false := by
  have inv := opened.run_inv fits run few
  refine ⟨fun side poll_struct calls got stream delivers => ⟨delivers.returns inv, ?_⟩, ?_, ?_⟩
  · intro conn command id fields message known
    obtain ⟨m, rest, rfl, _, _, front⟩ := delivers.message_front inv message
    obtain ⟨l, found⟩ := inv.finds front known
    rw [found]
    exact Option.some_ne_none l
  · intro side conn id before after sent
    exact (once_of_orderly (opened.orderly fits run few conn id) side).last before after sent
  · intro conn id quiet
    exact inv.settles quiet

theorem links_agree_exchange :
    (∃ l, ((greeted.playAll exchange).tunnel .localSide).link? 0 (Short.ofInt 501) = some l ∧
      l.m_closing = false) ∧
    ∃ l, ((greeted.playAll exchange).tunnel .remoteSide).link? 0 (Short.ofInt 501) = some l ∧
      l.m_closing = false := by
  obtain ⟨⟨labels, run⟩, few⟩ := exchange_run
  obtain ⟨near, far, stored⟩ :
      ((greeted.playAll exchange).half .localSide (Short.ofInt 0) (Short.ofInt 501)).inFlight = [] ∧
      ((greeted.playAll exchange).half .remoteSide (Short.ofInt 0) (Short.ofInt 501)).inFlight =
        [] ∧
      (((greeted.playAll exchange).tunnel .localSide).link? 0 (Short.ofInt 501)).isSome = true := by
    decide +kernel
  have waitsEmpty := (links_agree greeted_opened greeted_fits run few).2.2 (Short.ofInt 0)
    (Short.ofInt 501) fun
      | .localSide => near
      | .remoteSide => far
  have up := waitsEmpty.resolve_left fun none => by
    rw [show ((greeted.playAll exchange).tunnel .localSide).link? 0 (Short.ofInt 501) = _
      from none .localSide] at stored
    cases stored
  exact ⟨up .localSide, up .remoteSide⟩

/-! ## Bytes -/

theorem flow_of_orderly (orderly : (s.link conn id).Orderly) (side : Side) :
    Flow (s.half side conn id) (s.half side.other conn id) := by
  rcases here_or_there s side conn with here | there
  · have flow := orderly.forward
    rw [link_of_listener here] at flow
    exact flow
  · have flow := orderly.backward
    rw [link_of_connector there] at flow
    exact flow

/-- A link that is stored and not closing takes bytes for its socket. -/
theorem takes_of_link {t : StdioTunnel} {x : Int} {l : ConnectionLink}
    (found : t.link? x id = some l) (up : l.m_closing = false) : (t.phase x id).takes = true := by
  by_cases waits : t.registrations (.connectionLink x id l.m_socket) = []
  · rw [StdioTunnel.phase_of_waiting found up waits]
    rfl
  · rw [StdioTunnel.phase_of_registered found up waits]
    rfl

/--
Along a run with few clients the bytes written to the socket of a link are a
first part of the bytes read at its other end, and while the writing end is
not closing the rest is in its buffer and in the frames under way.  A socket
belongs to one link.
-/
theorem bytes_kept (opened : s.Opened) (fits : s.Fits) (run : Run Step s labels s')
    (few : ∀ conn, s'.clients conn < 65536) (side : Side) :
    (∀ conn id : Short,
      (s'.tunnel side.other).os.output conn.val id <+: (s'.tunnel side).os.input conn.val id ∧
      ∀ l, (s'.tunnel side.other).link? conn.val id = some l → l.m_closing = false →
        (s'.tunnel side).os.input conn.val id =
          (s'.tunnel side.other).os.output conn.val id ++
            (l.m_buffer.pending ++ payloads (s'.half side conn id).inFlight)) ∧
    ∀ socket conn id conn' id', socket ∈ (s'.tunnel side).os.socketsOf conn id →
      socket ∈ (s'.tunnel side).os.socketsOf conn' id' → conn = conn' ∧ id = id' := by
  have inv := opened.run_inv fits run few
  refine ⟨fun conn id => ?_, (inv.healthy side).sound.os.owner⟩
  have flow := flow_of_orderly (opened.orderly fits run few conn id) side
  refine ⟨flow.written, fun l found up => ?_⟩
  have kept := flow.kept (takes_of_link found up)
  rw [show (s'.half side.other conn id).held = _ from StdioTunnel.held_of_link found] at kept
  exact kept

theorem bytes_kept_exchange :
    ((greeted.playAll exchange).tunnel .remoteSide).os.output 0 (Short.ofInt 501) <+:
      ((greeted.playAll exchange).tunnel .localSide).os.input 0 (Short.ofInt 501) ∧
    ((greeted.playAll exchange).tunnel .localSide).os.input 0 (Short.ofInt 501) = text "hi" ∧
    ((greeted.playAll exchange).tunnel .remoteSide).os.output 0 (Short.ofInt 501) = text "h" := by
  obtain ⟨⟨labels, run⟩, few⟩ := exchange_run
  have kept := ((bytes_kept greeted_opened greeted_fits run few .localSide).1 (Short.ofInt 0)
    (Short.ofInt 501)).1
  exact ⟨kept, by decide +kernel⟩

end System

end Tun01
