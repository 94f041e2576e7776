import Tun01.Lib.Interleaving
import Tun01.Tunnel.Identifiers

/-!
# Systems refine links

Both endpoints and both wires together, seen at one link, follow the link
protocol, and a dispatch moves one link only: the system is an interleaving of
independent links.
-/

namespace Tun01

open Interleaving (Moves)

namespace System

variable {s s' : System} {side : Side} {e : Endpoint} {event : Event} {conn id : Short}
  {labels : List (Side × Event)}

def links (s : System) (key : Short × Short) : LinkState := s.link key.1 key.2

/-- The part of one link is a step of this link. -/
theorem Played.moves {opened : Nat} {moves : Half → Half → Prop}
    (played : Played s s' side conn id opened moves)
    (steps : ∀ c i, Relation.ReflTransGen LinkState.Step (s.link c i) (s'.link c i)) :
    Moves LinkState.Step s.links (conn, id) s'.links where
  own := steps conn id
  others := fun _ other => played.link_others fun same => other (Prod.ext same.1 same.2)

theorem links_same (same : ∀ c i, s'.link c i = s.link c i) :
    ∃ key, Moves LinkState.Step s.links key s'.links := by
  have all : s'.links = s.links := funext fun _ => same _ _
  rw [all]
  exact ⟨(Short.ofInt 0, Short.ofInt 0), .idle _⟩

/-- An endpoint that changed nothing about its links. -/
theorem link_update {wires : Side → Wire}
    (linkEnd : ∀ c i, e.tunnel.linkEnd c i = (s.tunnel side).linkEnd c i)
    (kind : ∀ c, e.tunnel.kind? c = (s.tunnel side).kind? c)
    (os : e.tunnel.os = (s.tunnel side).os) (sent : ∀ x, (wires x).sent = (s.wires x).sent)
    (underWay : ∀ x, (wires x).underWay = (s.wires x).underWay) (c i : Short) :
    System.link ⟨Function.update s.ends side e, wires, s.brought⟩ c i = s.link c i := by
  obtain ⟨s', after⟩ : ∃ s', s' = System.mk (Function.update s.ends side e) wires s.brought :=
    ⟨_, rfl⟩
  rw [← after]
  have near : s'.tunnel side = e.tunnel := by
    rw [after]
    exact congrArg Endpoint.tunnel (Function.update_self side e s.ends)
  have far : s'.tunnel side.other = s.tunnel side.other := by
    rw [after]
    exact congrArg Endpoint.tunnel (Function.update_of_ne side.other_ne e s.ends)
  have ends : ∀ x, (s'.tunnel x).linkEnd c.val i = (s.tunnel x).linkEnd c.val i ∧
      (∀ y, (s'.tunnel x).kind? y = (s.tunnel x).kind? y) ∧ (s'.tunnel x).os = (s.tunnel x).os := by
    intro x
    rcases side_cases side x with rfl | rfl
    · rw [near]
      exact ⟨linkEnd c.val i, kind, os⟩
    · rw [far]
      exact ⟨rfl, fun _ => rfl, rfl⟩
  have halves : ∀ x, s'.half x c i = s.half x c i := by
    intro x
    have wire : (s'.wires x).sent = (s.wires x).sent ∧
        (s'.wires x).underWay = (s.wires x).underWay := by
      rw [after]
      exact ⟨sent x, underWay x⟩
    unfold half
    rw [(ends x).1, wire.1, wire.2]
  unfold link
  rw [listenerSide_of_kind fun x => (ends x).2.1, halves, halves, (ends _).2.2]

theorem link_acted (same : e.tunnel = s.tunnel side) (c i : Short) :
    (s.acted side e).link c i = s.link c i := by
  have wire : (s.wires side).queued (s.writer side) e.tunnel.m_write_stream.toWriteStream =
      s.wires side := by
    rw [same]
    unfold Wire.queued System.writer
    rw [List.drop_length, List.map_nil, List.append_nil]
  unfold acted
  rw [wire, Function.update_eq_self]
  refine link_update ?_ ?_ ?_ (fun _ => rfl) (fun _ => rfl) c i <;> rw [same]
  · exact fun _ _ => rfl
  · exact fun _ => rfl

/-- The dispatch of a link or a listener. -/
theorem Inv.object_moves (inv : s.Inv) (other : event.polled ≠ .stdioTunnel)
    (step : (s.ends side).Step event e) (clear : Clear (s.tunnel side) event) :
    ∃ key, Moves LinkState.Step s.links key (s.acted side e).links := by
  rcases inv.object_outcome other step clear with ⟨call, rfl⟩ | ⟨t, conn, id, opened, moves, rfl,
    outcome, _, steps⟩
  · rw [acted_serve]
    have near := StdioTunnel.Beside.serve (s.tunnel side) call
    rw [← tunnel_serving] at near
    exact links_same (link_update near.looks.linkEnd (StdioTunnel.kind?_of_bare near.bare?)
      near.os (fun _ => rfl) fun _ => rfl)
  · obtain ⟨_, played, _⟩ := acted_outcome inv.healthy rfl
      (e := (s.ends side).withTunnel t) (by rw [Endpoint.tunnel_withTunnel]; exact outcome)
    exact ⟨(conn, id), played.moves (steps played)⟩

variable {poll_struct : Pollfd} {calls : Calls} {got : List Byte} {stream : ReadStream}

/-- The dispatch of the descriptor frames come from. -/
theorem Inv.read_moves (inv : s.Inv) (fd : poll_struct.fd = (s.ends side).readFd)
    (ready : poll_struct.revents = POLLIN)
    (reads : Pipeline.FillReads (s.reader side) (s.wires side.other).pipe calls.header
      calls.body got)
    (fills : (s.reader side).fill poll_struct calls.header calls.body = .ok stream)
    (result : (s.ends side).dispatch ⟨.stdioTunnel, poll_struct, calls⟩ = .ok e) :
    ∃ key, Moves LinkState.Step s.links key ((s.filled side got stream).acted side e).links := by
  obtain ⟨receives, healthy⟩ := inv.receives fd ready reads fills result
  rw [← acted_consumed]
  cases receives with
  | part same calm => exact links_same fun c i => by rw [same, acted_same, calm.link]
  | request greeting isRemote _ untouched delivered => exact links_same fun c i => (untouched c i).2
  | @message payload joined underWay processed delivered =>
      have taken := consumed_taken underWay
      cases processed with
      | aside none same =>
          refine links_same fun c i => ?_
          rw [link_acted same, taken.link_same (none c i)]
      | @link conn id m t opened moves is outcome _ =>
          obtain ⟨_, played, _⟩ := acted_outcome healthy rfl
            (e := ((s.consumed side got stream).ends side).withTunnel t)
            (by rw [Endpoint.tunnel_withTunnel]; exact outcome)
          refine ⟨(conn, id), delivered.steps conn id, fun key other => ?_⟩
          rw [is] at taken
          exact taken.others_same played fun same => other (Prod.ext same.1 same.2)

/-- A dispatch moves one link. -/
theorem Step.moves (step : Step s (side, event) s') (inv : s.Inv)
    (clear : Clear (s.tunnel side) event) : ∃ key, Moves LinkState.Step s.links key s'.links := by
  have own := inv.healthy side
  cases step with
  | object other step => exact inv.object_moves other step clear
  | read fd ready reads fills step => exact inv.read_moves fd ready reads fills step.result
  | @write _ _ _ _ _ _ taken _ fd ready writes within empties step =>
      obtain ⟨t, handled, near⟩ := Endpoint.dispatch_write own.framed fd ready empties
      obtain rfl := Except.ok.inj (step.result.symm.trans handled)
      have tunnel' := Endpoint.tunnel_withTunnel (s.ends side) t
      rw [← tunnel'] at near
      have wire : ∀ x, ((Function.update s.wires side ((s.wires side).gave taken)) x).sent =
            (s.wires x).sent ∧
          ((Function.update s.wires side ((s.wires side).gave taken)) x).underWay =
            (s.wires x).underWay := by
        intro x
        rcases side_cases side x with rfl | rfl
        · rw [Function.update_self]
          exact ⟨rfl, rfl⟩
        · rw [Function.update_of_ne (Side.other_ne _)]
          exact ⟨rfl, rfl⟩
      exact links_same (link_update near.looks.linkEnd (StdioTunnel.kind?_of_bare near.bare?)
        near.os (fun x => (wire x).1) fun x => (wire x).2)
  | console notRead notWrite step =>
      obtain ⟨near, _⟩ := Endpoint.dispatch_console own.framed notRead notWrite step.result
      exact links_same (link_update near.looks.linkEnd (StdioTunnel.kind?_of_bare near.bare?)
        near.os (fun _ => rfl) fun _ => rfl)

/--
The system refines independent links.  Every dispatch of a run in which no
identifier is given out twice is matched by steps of one link of the link
protocol, and every other link stays as it is.
-/
theorem links_interleave (opened : s.Opened) (fits : s.Fits)
    (run : Run SpacedStep s labels s') :
    ∃ keys, keys.length = labels.length ∧
      Run (Moves LinkState.Step) (fun _ => .unused) keys s'.links := by
  have start : s.links = fun _ => .unused := funext fun _ => opened.link _ _
  rw [← start]
  refine run.simulates (opened.inv fits) ?_ ?_
  · intro t label u inv step
    exact step.1.inv inv (inv.clear_of_spaced step.2)
  · intro t label u inv step
    exact step.1.moves inv (inv.clear_of_spaced step.2)

/-- One client, one link. -/
theorem links_interleave_exchange :
    ∃ (labels : List (Side × Event)) (keys : List (Short × Short)), keys.length = labels.length ∧
      Run (Moves LinkState.Step) (fun _ => .unused) keys (greeted.playAll exchange).links ∧
      (Short.ofInt 0, Short.ofInt 501) ∈ keys := by
  obtain ⟨⟨labels, run⟩, few⟩ := exchange_run
  obtain ⟨keys, length, path⟩ := links_interleave greeted_opened greeted_fits
    (greeted_opened.spaced_run greeted_fits run few)
  refine ⟨labels, keys, length, path, ?_⟩
  have opened : ((greeted.playAll exchange).links (Short.ofInt 0, Short.ofInt 501)).listener.phase =
      .opened := by
    decide +kernel
  by_contra absent
  have idle := Interleaving.run_idle path absent
  rw [idle] at opened
  cases opened

end System

end Tun01
