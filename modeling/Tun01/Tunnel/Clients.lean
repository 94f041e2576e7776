import Tun01.Tunnel.Opening

/-!
# Runs with few clients

A listener numbers its clients with sixteen bits.  As long as it has accepted
fewer than 65536 of them no identifier is given out twice, and the invariant of
the system holds.
-/

namespace Tun01

open StdioTunnel (Aside)

/-! ## Calls made along a run -/

/-- Operations only add calls. -/
theorem StdioTunnel.trace_run {t t' : StdioTunnel} {ops : List Operation}
    (run : Run Operation.Step t ops t') : t.os.trace <+: t'.os.trace := by
  induction run with
  | nil => exact List.prefix_refl _
  | snoc earlier last ih =>
      rw [last.2, Operation.trace_apply]
      exact ih.trans (List.prefix_append _ _)

theorem StdioTunnel.kind_run {t t' : StdioTunnel} {ops : List Operation}
    (run : Run Operation.Step t ops t') (x : Int) : t'.kind? x = t.kind? x := by
  induction run with
  | nil => rfl
  | snoc earlier last ih =>
      rw [last.2]
      exact ((Operation.kept last.1).kind x).trans ih

theorem StdioTunnel.Aside.kind {t t' : StdioTunnel} (aside : Aside t t') (x : Int) :
    t'.kind? x = t.kind? x :=
  StdioTunnel.kind?_of_bare aside.bare? x

/-- Sockets are opened, never forgotten. -/
theorem Kernel.accepted_mono {os os' : Kernel} (trace : os.trace <+: os'.trace) (conn : Int) :
    os.accepted conn ≤ os'.accepted conn := by
  unfold accepted opens opened
  exact ((trace.filterMap _).filterMap _).length_le

namespace Endpoint

variable {e e' : Endpoint} {event : Event}

theorem Turn.trace (turn : Turn e event e') : e.tunnel.os.trace <+: e'.tunnel.os.trace := by
  cases turn with
  | aside same => rw [same.os]
  | object run script => exact StdioTunnel.trace_run run
  | message handles before run script after =>
      rw [after.os, ← before.os]
      exact StdioTunnel.trace_run run
  | handshake isRemote waits linkless listens keyed joined server =>
      obtain ⟨more, trace, _⟩ := listens.trace
      exact ⟨more, trace.symm⟩

/-- The local endpoint keeps its connections. -/
theorem Turn.kind {l : StdioTunnelLocal} (turn : Turn (.localEnd l) event e') (x : Int) :
    e'.tunnel.kind? x = l.kind? x := by
  cases turn with
  | aside same => exact same.kind x
  | object run script => exact StdioTunnel.kind_run run x
  | message handles before run script after =>
      exact (after.kind x).trans ((StdioTunnel.kind_run run x).trans (before.kind x))
  | handshake isRemote waits linkless listens keyed joined server => cases isRemote

end Endpoint

namespace System

variable {s s' : System} {side : Side} {event : Event} {labels : List (Side × Event)}

/-! ## Endpoints along a run -/

/-- A step is a dispatch of one endpoint. -/
theorem Step.ends (step : Step s (side, event) s') :
    ∃ e, (s.ends side).Step event e ∧ s'.ends = Function.update s.ends side e := by
  cases step with
  | object other step => exact ⟨_, step, rfl⟩
  | read fd ready reads fills step => exact ⟨_, step, rfl⟩
  | write fd ready writes within empties step => exact ⟨_, step, rfl⟩
  | console notRead notWrite step => exact ⟨_, step, rfl⟩

/-- Both endpoints are in order, whatever they have read. -/
structure WaitsEmpty (s : System) : Prop where
  kinds : ∃ l r, s.ends .localSide = .localEnd l ∧ s.ends .remoteSide = .remoteEnd r
  ends : ∀ side, (s.ends side).WaitsEmpty

theorem Step.waitsEmpty (step : Step s (side, event) s') (waitsEmpty : s.WaitsEmpty) : s'.WaitsEmpty := by
  obtain ⟨e, dispatched, after⟩ := step.ends
  have here : s'.ends side = e := by rw [after, Function.update_self]
  have there : s'.ends side.other = s.ends side.other := by
    rw [after, Function.update_of_ne side.other_ne]
  refine ⟨kinds_update waitsEmpty.kinds dispatched.result here there, fun x => ?_⟩
  rcases side_cases side x with rfl | rfl
  · rw [here]
    exact (waitsEmpty.ends x).step dispatched.result
  · rw [there]
    exact waitsEmpty.ends _

theorem Opened.waitsEmpty (opened : s.Opened) : s.WaitsEmpty := by
  obtain ⟨begun, specs, read, written, waits, passing, greets, once, remote⟩ := opened
  refine ⟨⟨_, _, rfl, rfl⟩, fun side => ?_⟩
  cases side with
  | localSide =>
      have kept := greets.kept (Watched.kept_run begun (waits.mono And.left))
      exact ⟨kept.keyed, fun r no => by cases no⟩
  | remoteSide => exact (Endpoint.Started.remoteEnd remote).waitsEmpty

theorem Opened.waitsEmpty_run (opened : s.Opened) (run : Run Step s labels s') : s'.WaitsEmpty := by
  induction run with
  | nil => exact opened.waitsEmpty
  | @snoc _ _ _ label _ last ih => exact @Step.waitsEmpty _ _ label.1 label.2 last ih

/-! ## Clients -/

def clients (s : System) (conn : Short) : Nat :=
  (s.tunnel (s.listenerSide conn)).os.accepted conn.val

/-- A client takes a call. -/
theorem clients_le (s : System) (conn : Short) :
    s.clients conn ≤ (s.tunnel (s.listenerSide conn)).os.trace.length := by
  unfold clients Kernel.accepted Kernel.opens Kernel.opened
  exact (List.length_filterMap_le _ _).trans (List.length_filterMap_le _ _)

theorem clients_few (s : System) (own : (s.tunnel .localSide).os.trace.length < 65536)
    (other : (s.tunnel .remoteSide).os.trace.length < 65536) (conn : Short) :
    s.clients conn < 65536 := by
  refine Nat.lt_of_le_of_lt (s.clients_le conn) ?_
  cases s.listenerSide conn with
  | localSide => exact own
  | remoteSide => exact other

theorem Step.clients (step : Step s (side, event) s') (waitsEmpty : s.WaitsEmpty) (conn : Short) :
    s.clients conn ≤ s'.clients conn := by
  obtain ⟨e, dispatched, after⟩ := step.ends
  have turn := Endpoint.dispatch_turn (waitsEmpty.ends side).keyed dispatched.result
  have here : s'.ends side = e := by rw [after, Function.update_self]
  have there : s'.ends side.other = s.ends side.other := by
    rw [after, Function.update_of_ne side.other_ne]
  have localKind : (s'.tunnel .localSide).kind? conn.val = (s.tunnel .localSide).kind? conn.val := by
    rcases side_cases side .localSide with same | other
    · obtain ⟨l, _, isLocal, _⟩ := waitsEmpty.kinds
      rw [← same, isLocal] at turn
      unfold tunnel
      rw [same, here, ← same, isLocal]
      exact turn.kind conn.val
    · unfold tunnel
      rw [other, there]
  have listener : s'.listenerSide conn = s.listenerSide conn := by
    unfold listenerSide StdioTunnel.listens
    rw [localKind]
  have grows : ∀ x, (s.tunnel x).os.trace <+: (s'.tunnel x).os.trace := by
    intro x
    unfold tunnel
    rcases side_cases side x with rfl | rfl
    · rw [here]
      exact turn.trace
    · rw [there]
  unfold System.clients
  rw [listener]
  exact Kernel.accepted_mono (grows _) conn.val

/-- A listener with few clients has a free identifier. -/
theorem Inv.clear (inv : s.Inv) (few : ∀ conn, s.clients conn < 65536) :
    Clear (s.tunnel side) event := by
  intro conn socket c socket' n listener known role
  have healthy := inv.healthy side
  obtain ⟨isConn, id, same⟩ := healthy.sound.keys conn c known
  have bare : (s.tunnel side).bare? conn = some (c.m_spec, c.m_id, .listenSide socket' n) := by
    unfold StdioTunnel.bare?
    rw [known, ← role]
    rfl
  have listens : (s.tunnel side).listens id.val = true := by
    unfold StdioTunnel.listens StdioTunnel.kind?
    rw [same, bare]
    rfl
  have bound := few id
  unfold clients at bound
  rw [listenerSide_of_listens inv.stage listens, same] at bound
  exact healthy.numbered.free healthy.sound bare bound

/-- The invariant holds along every run with few clients. -/
theorem Opened.run_inv (opened : s.Opened) (fits : s.Fits) (run : Run Step s labels s')
    (few : ∀ conn, s'.clients conn < 65536) : s'.Inv := by
  induction run with
  | nil => exact opened.inv fits
  | @snoc _ s₁ _ label earlier last ih =>
      have waitsEmpty := opened.waitsEmpty_run earlier
      have before : ∀ conn, s₁.clients conn < 65536 := fun conn =>
        Nat.lt_of_le_of_lt (@Step.clients _ _ label.1 label.2 last waitsEmpty conn) (few conn)
      have inv := ih before
      exact @Step.inv _ _ label.1 label.2 last inv (inv.clear before)

/-- The rule for runs with few clients. -/
theorem Opened.run_keeps {P : System → Prop} (opened : s.Opened) (fits : s.Fits) (holds : P s)
    (kept : ∀ {s₁ s₂ : System} {side : Side} {event : Event}, s₁.Inv →
      Clear (s₁.tunnel side) event → Step s₁ (side, event) s₂ → P s₁ → P s₂)
    (run : Run Step s labels s') (few : ∀ conn, s'.clients conn < 65536) : P s' := by
  induction run with
  | nil => exact holds
  | @snoc _ s₁ _ label earlier last ih =>
      have before : ∀ conn, s₁.clients conn < 65536 := fun conn =>
        Nat.lt_of_le_of_lt
          (@Step.clients _ _ label.1 label.2 last (opened.waitsEmpty_run earlier) conn) (few conn)
      have inv := opened.run_inv fits earlier before
      exact kept inv (inv.clear before) last (ih before)

end System

end Tun01
