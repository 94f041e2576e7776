import Tun01.Tunnel.Finish
import Tun01.Tunnel.Schedule

/-!
# Announcing the end

`startFinish` announces the end when the other endpoint has asked for it, and
an endpoint asks only in `startFinish`.  So in a run of two endpoints neither
ever does.
-/

namespace Tun01

namespace System

variable {s s' : System} {side : Side} {event : Event} {labels : List (Side × Event)}

/-- No endpoint was asked to shut down. -/
def Unasked (s : System) : Prop := ∀ side, (s.tunnel side).m_closed_by_request = false

/-- A frame that was read completely is a message. -/
theorem Inv.read_message (inv : s.Inv) {payload : List Byte} {later : List (List Byte)}
    (underWay : (s.wires side).underWay = payload :: later) :
    ∃ m : Message, payload = m.payload := by
  have member : payload ∈ (s.wires side).underWay := by
    rw [underWay]
    exact List.mem_cons_self
  exact (inv.healthy side).whole payload (List.mem_of_mem_drop member)

/-- No message between the endpoints asks to shut down. -/
theorem Step.request (step : Step s (side, event) s') (inv : s.Inv) :
    (s'.tunnel side).m_closed_by_request = (s.tunnel side).m_closed_by_request := by
  have own := inv.healthy side
  have keyed := own.sound.keyed
  cases step with
  | object other step =>
      rw [tunnel_acted_self]
      have result := step.result
      rw [Endpoint.dispatch_object other] at result
      obtain ⟨t, polled, rfl⟩ := of_map_ok result
      rw [Endpoint.tunnel_withTunnel]
      rcases StdioTunnel.polledObject_run keyed polled with ⟨ops, run, _⟩ | ⟨_, rfl⟩
      · exact StdioTunnel.request_run run
      · rfl
  | @read _ poll_struct calls got stream e fd ready reads fills step =>
      rw [tunnel_acted_self]
      obtain ⟨outcome, _⟩ := reads_of_fill inv.healthy ready reads fills
      have handled := Endpoint.dispatch_read own.framed fd ready fills
      rw [step.result] at handled
      split at handled
      · have quiet : stream.m_queue = [] ∨ ∃ m : Message, stream.m_queue = m.payload := by
          cases outcome with
          | part queue _ => exact Or.inl queue
          | whole payload queue _ _ underWay =>
              obtain ⟨m, same⟩ := inv.read_message underWay
              exact Or.inr ⟨m, queue.trans same⟩
        have unasked := Endpoint.processFrame_unasked ?_ handled.symm ?_
        · rw [unasked, Endpoint.tunnel_withTunnel]
          rfl
        · rw [Endpoint.tunnel_withTunnel]
          exact (own.sound.withReader stream).keyed
        · rw [Endpoint.tunnel_withTunnel]
          change ¬ AsksShutdown stream.m_queue
          rcases quiet with none | ⟨m, same⟩
          · rw [none]
            rintro ⟨_, no⟩
            cases no
          · rw [same]
            exact m.not_asks
      · rw [Except.ok.inj handled, Endpoint.tunnel_withTunnel]
        rfl
  | @write _ poll_struct after calls count stream taken e fd ready writes within empties step =>
      obtain ⟨t, dispatched, beside⟩ := Endpoint.dispatch_write own.framed fd ready empties
      obtain rfl := Except.ok.inj (step.result.symm.trans dispatched)
      unfold tunnel
      dsimp only
      rw [Function.update_self, Endpoint.tunnel_withTunnel]
      exact beside.request
  | console notRead notWrite step =>
      obtain ⟨beside, _⟩ := Endpoint.dispatch_console own.framed notRead notWrite step.result
      unfold tunnel
      dsimp only
      rw [Function.update_self]
      exact beside.request

/-- No step of a run asks an endpoint to shut down. -/
theorem Step.unasked (step : Step s (side, event) s') (inv : s.Inv) (unasked : s.Unasked) :
    s'.Unasked := by
  intro x
  rcases side_cases side x with rfl | rfl
  · rw [step.request inv]
    exact unasked x
  · obtain ⟨e, _, after⟩ := step.ends
    unfold tunnel
    rw [after, Function.update_of_ne side.other_ne]
    exact unasked _

end System

namespace StdioTunnelLocal

/-- The constructor has cleared the flag, and `start` leaves it alone. -/
theorem Begun.request {l : StdioTunnelLocal} (begun : Begun l) :
    l.m_closed_by_request = false := by
  obtain ⟨configured, pipes, start⟩ := begun
  have configures := configure_configures configured
  obtain ⟨l₁, _, connects, rfl⟩ := start_started configures.state start
  have same := connects.request
  rw [show StdioTunnelLocal.toStdioTunnel _ = _ from configures.base] at same
  exact same

end StdioTunnelLocal

namespace System

variable {s s' : System} {side : Side} {labels : List (Side × Event)}

theorem Opened.unasked (opened : s.Opened) : s.Unasked := by
  obtain ⟨begun, specs, read, written, waits, passing, greets, once, remote⟩ := opened
  intro side
  cases side with
  | localSide =>
      obtain ⟨d, passes, _⟩ := greeted_passes begun waits passing greets once
      exact passes.request.trans begun.request
  | remoteSide =>
      obtain rfl := StdioTunnelRemote.start_waiting remote
      rfl

/-! ## Leaving after a signal -/

/-- The endpoint leaves `Poller::start` because of a signal. -/
def leave (s : System) (side : Side) : Except Fault StdioTunnel :=
  ((s.tunnel side).pollCallback true).endLoop

/-- An endpoint that leaves because of a signal announces the end. -/
def Announces (s : System) (side : Side) : Prop :=
  ∃ t, s.leave side = .ok t ∧ StdioTunnel.shutdown ∈ t.announced

theorem Sound.pollCallback {t : StdioTunnel} (sound : t.Sound) (g_signaled : Bool) :
    (t.pollCallback g_signaled).Sound := by
  cases g_signaled with
  | false => exact sound
  | true => exact ⟨⟨sound.ready.poller, sound.ready.fields⟩, sound.os, sound.keys, sound.listeners,
      fun c i => ⟨(sound.links c i).link, (sound.links c i).registered⟩⟩

/-- What an endpoint that leaves announces depends on what it was asked. -/
theorem leave_announced {t : StdioTunnel} (ready : (s.tunnel side).Ready)
    (leaves : s.leave side = .ok t) :
    StdioTunnel.shutdown ∈ t.announced ↔ (s.tunnel side).m_closed_by_request = true := by
  have same := StdioTunnel.endLoop_same leaves
  have request : t.m_closed_by_request = (s.tunnel side).m_closed_by_request := by
    rw [same]
    rfl
  have ready' : t.Ready := by
    rw [same]
    exact ⟨ready.poller, ready.fields⟩
  rw [StdioTunnel.announced_eq ready', request]
  cases (s.tunnel side).m_closed_by_request <;> simp

/--
An endpoint that leaves because of a signal announces the end exactly when the
other endpoint has asked it to shut down.  As long as listeners have few
clients neither endpoint ever asks, and no announcement is on a wire.
-/
theorem shutdown_announced (opened : s.Opened) (run : Run Step s labels s') (side : Side) :
    (∀ t, s'.leave side = .ok t →
      (s'.Announces side ↔ (s'.tunnel side).m_closed_by_request = true)) ∧
    (s.Fits → (∀ conn, s'.clients conn < 65536) →
      (∃ t, s'.leave side = .ok t) ∧ ¬ s'.Announces side ∧
        ∀ payload ∈ (s'.wires side).sent, ¬ AsksShutdown payload) := by
  have ready : (s'.tunnel side).Ready := ((opened.waitsEmpty_run run).ends side).keyed.ready
  refine ⟨fun t leaves => ⟨fun ⟨t', leaves', announced⟩ => ?_, fun request => ?_⟩,
    fun fits few => ?_⟩
  · exact (leave_announced ready leaves').mp announced
  · exact ⟨t, leaves, (leave_announced ready leaves).mpr request⟩
  · have inv := opened.run_inv fits run few
    have unasked : s'.Unasked := opened.run_keeps fits opened.unasked
      (fun inv _ step unasked => step.unasked inv unasked) run few
    have sound := Sound.pollCallback (inv.healthy side).sound true
    refine ⟨⟨_, StdioTunnel.endLoop_returns fun _ member => sound.points member⟩,
      fun ⟨t, leaves, announced⟩ => ?_, fun payload member => ?_⟩
    · have request := (leave_announced ready leaves).mp announced
      rw [unasked side] at request
      cases request
    · obtain ⟨m, rfl⟩ := (inv.healthy side).whole payload member
      exact m.not_asks

theorem shutdown_announced_greeted :
    ¬ (greeted.playAll handshake).Announces .localSide := by
  obtain ⟨played, own, other⟩ : (greeted.playAll? handshake).isSome = true ∧
      ((greeted.playAll handshake).tunnel .localSide).os.trace.length < 65536 ∧
      ((greeted.playAll handshake).tunnel .remoteSide).os.trace.length < 65536 := by
    decide +kernel
  obtain ⟨labels, run⟩ := playAll_run played
  exact ((shutdown_announced greeted_opened run .localSide).2 greeted_fits
    (clients_few _ own other)).2.1

/-- After the handshake a signal ends the local endpoint without a word. -/
theorem not_shutdown_announced :
    ¬ ∀ (s s' : System) (labels : List (Side × Event)) (side : Side), s.Opened →
      Run Step s labels s' → s'.Announces side := by
  intro always
  obtain ⟨played, request, ready⟩ : (greeted.playAll? handshake).isSome = true ∧
      ((greeted.playAll handshake).tunnel .localSide).m_closed_by_request = false ∧
      ((greeted.playAll handshake).tunnel .localSide).m_write_stream.m_poller = true ∧
      ((greeted.playAll handshake).tunnel .localSide).m_write_stream.m_queue = [] := by
    decide +kernel
  obtain ⟨labels, run⟩ := playAll_run played
  obtain ⟨t, leaves, announced⟩ := always _ _ _ .localSide greeted_opened run
  have asked := (leave_announced ⟨ready.1, ready.2⟩ leaves).mp announced
  rw [request] at asked
  cases asked

end System

end Tun01
