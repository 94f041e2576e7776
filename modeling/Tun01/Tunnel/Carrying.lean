import Mathlib.Data.Fintype.Prod
import Mathlib.Data.Prod.Lex
import Tun01.Lib.Descent
import Tun01.Tunnel.Draining
import Tun01.Tunnel.Flight
import Tun01.Tunnel.Refinement

/-!
# Bytes that are carried

Dispatches that move bytes into a pipe, out of it, or from a link to its
socket.  Whatever the handlers queue because of the frames they read, each such
dispatch brings the system closer to the point where nothing is under way.
-/

namespace Tun01

/-! ## Identifiers are finite -/

namespace Short

def index (s : Short) : Fin 65536 :=
  ⟨(s.val + 32768).toNat, by have lower := s.lower; have upper := s.upper; omega⟩

theorem index_injective : Function.Injective index := by
  intro s t same
  have values := congrArg Fin.val same
  have lower := s.lower
  have lower' := t.lower
  unfold index at values
  dsimp only at values
  exact Short.ext (by omega)

noncomputable instance : Fintype Short := Fintype.ofInjective index index_injective

end Short

/-- The object has asked for what it is told about. -/
def StdioTunnel.Asked (t : StdioTunnel) (event : Event) : Prop :=
  ∃ record ∈ t.registrations event.polled, record.fd = event.poll_struct.fd ∧
    record.events = event.poll_struct.events ∧
    (event.poll_struct.revents.POLLIN = true → record.events.POLLIN = true) ∧
    (event.poll_struct.revents.POLLOUT = true → record.events.POLLOUT = true)

namespace System

variable {s s' : System} {side : Side} {event : Event} {conn id : Short} {e : Endpoint}

/-- A dispatch that `poll` may lead to, and that carries bytes on. -/
inductive Carry (s : System) : Side × Event → System → Prop where
  | pipe {label : Side × Event} {s' : System} (step : Step s label s')
      (asked : (s.tunnel label.1).Asked label.2)
      (moved : ∃ x, (s'.wires x).pipe ≠ (s.wires x).pipe) : Carry s label s'
  | socket {side : Side} {x : Int} {id : Short} {socket count : Nat} {poll_struct : Pollfd}
      {calls : Calls} {s' : System}
      (step : Step s (side, ⟨.connectionLink x id socket, poll_struct, calls⟩) s')
      (asked : (s.tunnel side).Asked ⟨.connectionLink x id socket, poll_struct, calls⟩)
      (ready : poll_struct.revents = POLLOUT) (writes : calls.write = .ok count)
      (some : 0 < count) : Carry s (side, ⟨.connectionLink x id socket, poll_struct, calls⟩) s'

/-! ## What is left to do -/

/-- The bytes that wait to be written, which have still to be read then, and those in the pipe. -/
def bytes (s : System) (x : Side) : Nat :=
  2 * ((s.writer x).m_packet_queue.map WritePacket.unwritten).flatten.length +
    (s.wires x).pipe.length

/--
What is left to do: the messages of links and those they lead to, then the
frames about no link, of which the request comes before its reply, then bytes
for the pipes, and those for the sockets.
-/
noncomputable def rank (s : System) : Nat ×ₗ Nat ×ₗ Nat ×ₗ Nat ×ₗ Nat :=
  toLex (∑ key, (s.links key).potential,
    toLex ((s.wires .localSide).underWay.length,
      toLex ((s.wires .remoteSide).underWay.length,
        toLex (s.bytes .localSide + s.bytes .remoteSide, ∑ key, (s.links key).held))))

/-- A message of one link was delivered. -/
theorem rank_deliver (deliver : LinkState.Deliver (s.link conn id) (s'.link conn id))
    (others : ∀ c i, ¬(c = conn ∧ i = id) → s'.link c i = s.link c i) : s'.rank < s.rank := by
  refine Prod.Lex.toLex_lt_toLex.mpr (Or.inl ?_)
  refine @Interleaving.sum_lt _ _ s.links s'.links (conn, id) _ LinkState.potential
    deliver.potential fun key other => ?_
  exact others _ _ fun same => other (Prod.ext same.1 same.2)

/-- No link moved. -/
theorem rank_still (links : ∀ c i, s'.link c i = s.link c i)
    (less : (s'.wires .localSide).underWay.length < (s.wires .localSide).underWay.length ∨
      (s'.wires .localSide).underWay.length = (s.wires .localSide).underWay.length ∧
        ((s'.wires .remoteSide).underWay.length < (s.wires .remoteSide).underWay.length ∨
          (s'.wires .remoteSide).underWay.length = (s.wires .remoteSide).underWay.length ∧
            s'.bytes .localSide + s'.bytes .remoteSide <
              s.bytes .localSide + s.bytes .remoteSide)) : s'.rank < s.rank := by
  have same : s'.links = s.links := funext fun key => links key.1 key.2
  unfold rank
  rw [same]
  refine Prod.Lex.toLex_lt_toLex.mpr (Or.inr ⟨rfl, Prod.Lex.toLex_lt_toLex.mpr ?_⟩)
  refine less.imp_right fun both => ⟨both.1, Prod.Lex.toLex_lt_toLex.mpr ?_⟩
  exact both.2.imp_right fun rest => ⟨rest.1, Prod.Lex.toLex_lt_toLex.mpr (Or.inl rest.2)⟩

/-- Bytes moved, and no frame was completed. -/
theorem rank_bytes (links : ∀ c i, s'.link c i = s.link c i)
    (underWay : ∀ x, (s'.wires x).underWay = (s.wires x).underWay)
    (less : s'.bytes side < s.bytes side) (far : s'.bytes side.other = s.bytes side.other) :
    s'.rank < s.rank := by
  refine rank_still links (Or.inr ⟨by rw [underWay], Or.inr ⟨by rw [underWay], ?_⟩⟩)
  cases side with
  | localSide =>
      change s'.bytes .remoteSide = s.bytes .remoteSide at far
      omega
  | remoteSide =>
      change s'.bytes .localSide = s.bytes .localSide at far
      omega

/-- A frame about no link was taken. -/
theorem rank_taken (links : ∀ c i, s'.link c i = s.link c i)
    (taken : (s'.wires side.other).underWay.length < (s.wires side.other).underWay.length)
    (quiet : side = .remoteSide ∨ (s'.wires side).underWay = (s.wires side).underWay) :
    s'.rank < s.rank := by
  cases side with
  | localSide =>
      have same := quiet.resolve_left fun no => by cases no
      exact rank_still links (Or.inr ⟨by rw [same], Or.inl taken⟩)
  | remoteSide => exact rank_still links (Or.inl taken)

/-- One link holds less for its sockets. -/
theorem rank_drained (wires : ∀ x, s'.wires x = s.wires x)
    (writers : ∀ x, s'.writer x = s.writer x)
    (others : ∀ c i, ¬(c = conn ∧ i = id) → s'.link c i = s.link c i)
    (same : (s'.link conn id).potential = (s.link conn id).potential)
    (less : (s'.link conn id).held < (s.link conn id).held) : s'.rank < s.rank := by
  have potentials : ∀ key, (s'.links key).potential = (s.links key).potential := by
    rintro ⟨c, i⟩
    by_cases mine : c = conn ∧ i = id
    · obtain ⟨rfl, rfl⟩ := mine
      exact same
    · exact congrArg LinkState.potential (others c i mine)
  have held : ∑ key, (s'.links key).held < ∑ key, (s.links key).held := by
    refine @Interleaving.sum_lt _ _ s.links s'.links (conn, id) _ LinkState.held less
      fun key other => ?_
    exact others _ _ fun same => other (Prod.ext same.1 same.2)
  unfold rank bytes
  simp only [potentials, wires, writers]
  refine Prod.Lex.toLex_lt_toLex.mpr (Or.inr ⟨rfl, Prod.Lex.toLex_lt_toLex.mpr (Or.inr ⟨rfl, ?_⟩)⟩)
  refine Prod.Lex.toLex_lt_toLex.mpr (Or.inr ⟨rfl, Prod.Lex.toLex_lt_toLex.mpr (Or.inr ⟨rfl, ?_⟩)⟩)
  exact held

/-! ## Reading -/

theorem pipe_acted (s : System) (side : Side) (e : Endpoint) (x : Side) :
    ((s.acted side e).wires x).pipe = (s.wires x).pipe := by
  rcases side_cases side x with rfl | rfl
  · unfold acted
    dsimp only
    rw [Function.update_self]
    rfl
  · rw [wires_acted_other]

section Reading

variable {poll_struct : Pollfd} {calls : Calls} {got : List Byte} {stream : ReadStream}
  {payload : List Byte}

/-- The message of a link that was processed was delivered. -/
theorem Joined.deliver {m : LinkMessage} {t : StdioTunnel} (joined : s.Joined)
    (healthy : ∀ x, (s.consumed side got stream).Healthy x)
    (lawful : (s.link conn id).Lawful)
    (underWay : (s.wires side.other).underWay =
      m.encode conn id :: ((s.consumed side got stream).wires side.other).underWay)
    (result : (((s.consumed side got stream).tunnel side).reading
      (StdioTunnel.linkFields id m)).dispatchMessage conn.val calls.connect = .ok t) :
    LinkState.Deliver (s.link conn id)
      (((s.consumed side got stream).acted side
        (((s.consumed side got stream).ends side).withTunnel t)).link conn id) := by
  have taken := consumed_taken underWay
  have fits : m.fits = true := by
    refine Expected.fits (joined.expected side.other) (List.mem_filterMap.mpr ⟨m.encode conn id, ?_,
      LinkMessage.decode_encode_self conn id m⟩)
    rw [underWay]
    exact List.mem_cons_self
  obtain ⟨t', opened, moves, result', outcome, delivers⟩ :=
    taken.link_handled healthy (joined.consumed underWay) lawful fits calls.connect
  obtain rfl : t' = t := Except.ok.inj (result'.symm.trans result)
  obtain ⟨_, played, _⟩ := acted_outcome healthy rfl
    (e := ((s.consumed side got stream).ends side).withTunnel t')
    (by rw [Endpoint.tunnel_withTunnel]; exact outcome)
  exact delivers played

/-- An endpoint that is the same has queued nothing. -/
theorem wires_acted_same (same : e.tunnel = s.tunnel side) :
    (s.acted side e).wires side = s.wires side := by
  have kept : e.tunnel.m_write_stream = (s.tunnel side).m_write_stream.emitting [] := by
    rw [same, CustomWriteStream.emitting_nil]
  rw [wires_acted_self kept, List.append_nil]

/-- The dispatch of the descriptor frames come from, when it has read something. -/
theorem Inv.read_lowers (inv : s.Inv) (fd : poll_struct.fd = (s.ends side).readFd)
    (ready : poll_struct.revents = POLLIN)
    (reads : Pipeline.FillReads (s.reader side) (s.wires side.other).pipe calls.header
      calls.body got)
    (fills : (s.reader side).fill poll_struct calls.header calls.body = .ok stream)
    (result : (s.ends side).dispatch ⟨.stdioTunnel, poll_struct, calls⟩ = .ok e)
    (shorter : ((s.wires side.other).pipe.drop got.length).length <
      (s.wires side.other).pipe.length) :
    ((s.filled side got stream).acted side e).rank < s.rank := by
  obtain ⟨receives, healthy⟩ := inv.receives fd ready reads fills result
  rw [← acted_consumed]
  cases receives with
  | part same calm =>
      rw [same, acted_same]
      refine @rank_bytes _ _ side.other calm.link calm.underWay ?_ ?_
      · unfold bytes System.writer
        rw [tunnel_consumed_other, wires_consumed_other]
        exact Nat.add_lt_add_left shorter _
      · rw [Side.other_other]
        unfold bytes System.writer
        rw [tunnel_consumed_self, wires_consumed_self]
        rfl
  | request greeting isRemote underWay untouched delivered =>
      refine rank_taken (fun c i => (untouched c i).2) ?_ (Or.inl isRemote)
      rw [wires_acted_other, underWay]
      exact Nat.lt_succ_self _
  | @message payload joined underWay processed delivered =>
      have taken := consumed_taken underWay
      cases processed with
      | aside none same =>
          refine @rank_taken _ _ side (fun c i => ?_) ?_ (Or.inr ?_)
          · rw [link_acted same, taken.link_same (none c i)]
          · rw [wires_acted_other, underWay]
            exact Nat.lt_succ_self _
          · rw [wires_acted_same same, wires_consumed_self]
      | @link conn id m t opened moves is outcome handled =>
          rw [is] at underWay taken
          refine rank_deliver (joined.deliver healthy (inv.links conn id).1 underWay handled)
            fun c i apart => ?_
          obtain ⟨_, played, _⟩ := acted_outcome healthy rfl
            (e := ((s.consumed side got stream).ends side).withTunnel t)
            (by rw [Endpoint.tunnel_withTunnel]; exact outcome)
          exact taken.others_same played apart

end Reading

/-! ## Every dispatch that moves bytes -/

/-- The dispatch of the descriptor frames go to, when the kernel has taken something. -/
theorem Inv.write_lowers {poll_struct after : Pollfd} {calls : Calls} {count : Nat}
    {writer : WriteStream} {taken : List Byte} (inv : s.Inv)
    (fd : poll_struct.fd = (s.ends side).writeFd) (ready : poll_struct.revents = POLLOUT)
    (writes : calls.write = .ok count)
    (within : ∀ front rest, (s.writer side).m_packet_queue = front :: rest →
      count ≤ front.request)
    (empties : (s.writer side).empty poll_struct calls.write = .ok (writer, after, taken))
    (result : (s.ends side).dispatch ⟨.stdioTunnel, poll_struct, calls⟩ = .ok e)
    (some : taken ≠ []) :
    System.rank { s with
      ends := Function.update s.ends side e
      wires := Function.update s.wires side ((s.wires side).gave taken) } < s.rank := by
  have own := inv.healthy side
  obtain ⟨t, handled, near⟩ := Endpoint.dispatch_write own.framed fd ready empties
  obtain rfl := Except.ok.inj (result.symm.trans handled)
  have tunnel' := Endpoint.tunnel_withTunnel (s.ends side) t
  rw [← tunnel'] at near
  obtain ⟨s', isAfter⟩ : ∃ s', s' = System.mk (Function.update s.ends side
      ((s.ends side).withTunnel t))
      (Function.update s.wires side ((s.wires side).gave taken)) s.brought := ⟨_, rfl⟩
  have wires : s'.wires side = (s.wires side).gave taken ∧
      s'.wires side.other = s.wires side.other := by
    rw [isAfter]
    exact ⟨Function.update_self side _ s.wires, Function.update_of_ne (Side.other_ne _) _ s.wires⟩
  have writers : s'.writer side = writer ∧ s'.writer side.other = s.writer side.other := by
    unfold System.writer tunnel
    rw [isAfter]
    dsimp only
    rw [Function.update_self, Function.update_of_ne (Side.other_ne _), near.writer]
    exact ⟨rfl, rfl⟩
  have flat : ∀ x, (s'.wires x).sent = (s.wires x).sent ∧
      (s'.wires x).underWay = (s.wires x).underWay := by
    intro x
    rcases side_cases side x with rfl | rfl
    · rw [wires.1]
      exact ⟨rfl, rfl⟩
    · rw [wires.2]
      exact ⟨rfl, rfl⟩
  have links : ∀ c i, s'.link c i = s.link c i := by
    rw [isAfter] at flat ⊢
    exact link_update near.looks.linkEnd (StdioTunnel.kind?_of_bare near.bare?) near.os
      (fun x => (flat x).1) fun x => (flat x).2
  obtain ⟨rest, part, framed⟩ := own.intact
  rw [writes] at empties
  have pending : ((s.writer side).m_packet_queue.map WritePacket.unwritten).flatten = _ :=
    (Pipeline.empty_pending framed.packets within empties).1
  rw [← isAfter]
  refine @rank_bytes _ _ side links (fun x => (flat x).2) ?_ ?_
  · have positive := List.length_pos_iff.mpr some
    unfold bytes
    rw [writers.1, wires.1, pending]
    unfold Wire.gave
    simp only [List.length_append]
    omega
  · unfold bytes
    rw [writers.2, wires.2]

/-- The dispatch of a link that only writes to its socket. -/
theorem Inv.socket_lowers {x : Int} {socket count : Nat} {poll_struct : Pollfd} {calls : Calls}
    (inv : s.Inv) (step : (s.ends side).Step ⟨.connectionLink x id socket, poll_struct, calls⟩ e)
    (ready : poll_struct.revents = POLLOUT) (writes : calls.write = .ok count) (some : 0 < count) :
    (s.acted side e).rank < s.rank := by
  have own := inv.healthy side
  obtain ⟨record, registered, _⟩ := step.registered
  have result := step.result
  rw [Endpoint.dispatch_object (fun no => by cases no)] at result
  obtain ⟨t, handled, rfl⟩ := of_map_ok result
  obtain ⟨conn, c, l, l', rfl, isConn, found, isOpen, written⟩ :=
    StdioTunnel.polledObject_writable own.sound registered ready handled
  have within := step.within.2 l found
  dsimp only at written within
  rw [writes] at written within
  obtain ⟨plays, writer, phase, fewer⟩ :=
    StdioTunnel.linkWrite_drains own.sound isConn found isOpen within some written
  obtain ⟨_, played, _⟩ := acted_outcome inv.healthy rfl (e := (s.ends side).withTunnel t)
    (by rw [Endpoint.tunnel_withTunnel]; exact plays.outcome)
  have kept : ((s.ends side).withTunnel t).tunnel.m_write_stream =
      (s.tunnel side).m_write_stream.emitting [] := by
    rw [Endpoint.tunnel_withTunnel, writer, CustomWriteStream.emitting_nil]
  have near : (s.acted side ((s.ends side).withTunnel t)).wires side = s.wires side := by
    rw [wires_acted_self kept, List.append_nil]
  have same : ((s.acted side ((s.ends side).withTunnel t)).half side conn id).potential =
      (s.half side conn id).potential := by
    unfold Half.potential half
    dsimp only
    rw [near, tunnel_acted_self, Endpoint.tunnel_withTunnel]
    exact congrArg (fun p => Phase.weight p + _) phase
  have less : ((s.acted side ((s.ends side).withTunnel t)).half side conn id).held.length <
      (s.half side conn id).held.length := by
    unfold half
    dsimp only
    rw [tunnel_acted_self, Endpoint.tunnel_withTunnel]
    exact fewer
  refine @rank_drained _ _ conn id ?_ ?_ (fun c i other => played.link_others other) ?_ ?_
  · intro y
    rcases side_cases side y with rfl | rfl
    · exact near
    · exact wires_acted_other _ _ _
  · intro y
    unfold System.writer
    rcases side_cases side y with rfl | rfl
    · rw [tunnel_acted_self, Endpoint.tunnel_withTunnel, writer]
    · rw [tunnel_acted_other]
  · unfold LinkState.potential
    rcases here_or_there s side conn with here | there
    · rw [played.link_listener here, link_of_listener here]
      dsimp only
      rw [same]
    · rw [played.link_connector there, link_of_connector there]
      dsimp only
      rw [same]
  · unfold LinkState.held
    rcases here_or_there s side conn with here | there
    · rw [played.link_listener here, link_of_listener here]
      exact Nat.add_lt_add_right less _
    · rw [played.link_connector there, link_of_connector there]
      exact Nat.add_lt_add_left less _

/-- The dispatch of an endpoint that has moved bytes into a pipe or out of it. -/
theorem Step.lowers (step : Step s (side, event) s') (inv : s.Inv) {x : Side}
    (moved : (s'.wires x).pipe ≠ (s.wires x).pipe) : s'.rank < s.rank := by
  cases step with
  | object other step => exact absurd (pipe_acted s side _ x) moved
  | console notRead notWrite step => exact absurd rfl moved
  | @read _ _ _ got stream e fd ready reads fills step =>
      refine inv.read_lowers fd ready reads fills step.result ?_
      rw [pipe_acted] at moved
      rcases side_cases side x with rfl | rfl
      · exact absurd (congrArg Wire.pipe (Function.update_of_ne (Side.ne_other x) _ s.wires)) moved
      · have after : ((s.filled side got stream).wires side.other).pipe =
            (s.wires side.other).pipe.drop got.length :=
          congrArg Wire.pipe (Function.update_self side.other _ s.wires)
        rw [after] at moved
        have positive : got.length ≠ 0 := by
          intro none
          rw [none, List.drop_zero] at moved
          exact moved rfl
        have full : (s.wires side.other).pipe.length ≠ 0 := by
          intro none
          rw [List.length_eq_zero_iff.mp none, List.drop_nil] at moved
          exact moved rfl
        rw [List.length_drop]
        omega
  | @write _ _ _ _ _ _ taken _ fd ready writes within empties step =>
      refine inv.write_lowers fd ready writes within empties step.result ?_
      rintro rfl
      dsimp only at moved
      rcases side_cases side x with rfl | rfl
      · rw [Function.update_self] at moved
        exact moved (List.append_nil _)
      · rw [Function.update_of_ne (Side.other_ne _)] at moved
        exact moved rfl

/-- Each dispatch that carries bytes on leaves less to do. -/
theorem Carry.lowers (carry : Carry s (side, event) s') (inv : s.Inv) : s'.rank < s.rank := by
  cases carry with
  | pipe step _ moved => exact step.lowers inv moved.choose_spec
  | socket step _ ready writes some =>
      cases step with
      | object other step => exact inv.socket_lowers step ready writes some

end System

end Tun01
