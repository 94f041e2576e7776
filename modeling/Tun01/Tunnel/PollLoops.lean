import Tun01.Tunnel.Driven
import Tun01.Tunnel.Exchanges
import Tun01.Tunnel.Identifiers
import Tun01.Tunnel.Rounds

/-!
# Both polling loops

The endpoints as they run: each walks the records of its poller with the cursor
and dispatches those for which `poll` reported something.  The loops are
interleaved in any order, and between `poll` and the turn of a record its
object may have changed.
-/

namespace Tun01

open Poller (Alike)

/-! ## Moving the cursor -/

namespace StdioTunnel

variable {t : StdioTunnel} {f : Poller Polled → Poller Polled}
  (alike : t.m_poller.Alike (f t.m_poller))

include alike

theorem registrations_nil_mapPoller (x : Polled) :
    (t.mapPoller f).registrations x = [] ↔ t.registrations x = [] := by
  have same := congrArg List.length (alike.registrations x)
  rw [List.length_map, List.length_map] at same
  rw [← List.length_eq_zero_iff, ← List.length_eq_zero_iff]
  exact Eq.congr same rfl

theorem mem_registrations_mapPoller {x : Polled} {record : Pollfd}
    (member : record ∈ (t.mapPoller f).registrations x) :
    ∃ before ∈ t.registrations x, before.fd = record.fd ∧ before.events = record.events := by
  have calm := List.mem_map_of_mem (f := fun record : Pollfd =>
    { record with revents := .zero }) member
  unfold registrations mapPoller at calm
  rw [alike.registrations x] at calm
  obtain ⟨before, there, same⟩ := List.mem_map.mp calm
  obtain ⟨fd, events, _⟩ := Pollfd.mk.inj same
  exact ⟨before, there, fd, events⟩

theorem registrations_one_mapPoller {x : Polled} {record : Pollfd}
    (one : t.registrations x = [record]) : ∃ after, (t.mapPoller f).registrations x = [after] ∧
      after.fd = record.fd ∧ after.events = record.events := by
  have same := alike.registrations x
  rw [show t.m_poller.registrations x = _ from one, List.map_singleton] at same
  obtain ⟨after, is, calm⟩ := List.map_eq_singleton_iff.mp same
  obtain ⟨fd, events, _⟩ := Pollfd.mk.inj calm
  exact ⟨after, is, fd, events⟩

theorem phase_mapPoller (x : Int) (i : Short) : (t.mapPoller f).phase x i = t.phase x i := by
  have links : (t.mapPoller f).link? x i = t.link? x i := rfl
  unfold phase
  rw [links]
  cases t.link? x i with
  | none => rfl
  | some l =>
      dsimp only
      exact if_congr Iff.rfl rfl
        (if_congr (registrations_nil_mapPoller alike _) rfl rfl)

theorem linkEnd_mapPoller (x : Int) (i : Short) : (t.mapPoller f).linkEnd x i = t.linkEnd x i := by
  unfold linkEnd
  rw [phase_mapPoller alike]
  rfl

theorem Sound.mapPoller (sound : t.Sound) : (t.mapPoller f).Sound where
  ready := ⟨sound.ready.poller, sound.ready.fields⟩
  os := sound.os
  keys := sound.keys
  listeners := by
    intro c s record member
    obtain ⟨before, there, fd, _⟩ := mem_registrations_mapPoller alike member
    obtain ⟨isFd, role⟩ := sound.listeners c s before there
    exact ⟨fd.symm.trans isFd, role⟩
  links := by
    intro c i
    refine ⟨(sound.links c i).link, fun s => ?_⟩
    rcases (sound.links c i).registered s with none | ⟨l, record, found, socket, up, one, fd⟩
    · exact Or.inl ((registrations_nil_mapPoller alike _).mpr none)
    · obtain ⟨after, one', fd', _⟩ := registrations_one_mapPoller alike one
      exact Or.inr ⟨l, after, found, socket, up, one', fd'.trans fd⟩

theorem Linkless.mapPoller (none : t.Linkless) : (t.mapPoller f).Linkless :=
  ⟨none.link, fun x i s => (registrations_nil_mapPoller alike _).mpr (none.records x i s)⟩

theorem Serving.mapPoller (serving : t.Serving) : (t.mapPoller f).Serving where
  sockets := serving.sockets
  handedOut := fun x i s above =>
    (registrations_nil_mapPoller alike _).mpr (serving.handedOut x i s above)
  buffers := serving.buffers
  served := by
    intro x i l found up
    have served := serving.served x i l found up
    generalize records : t.registrations (.connectionLink x i l.m_socket) = before at served
    cases served with
    | waiting idle acked =>
        rw [(registrations_nil_mapPoller alike _).mpr records]
        exact .waiting idle acked
    | polled fd output input quiet =>
        obtain ⟨after, one, fd', events⟩ := registrations_one_mapPoller alike records
        rw [one]
        rw [← events] at output input quiet
        exact .polled (fd'.trans fd) output input quiet

end StdioTunnel

namespace Endpoint

variable {e : Endpoint} {f : Poller Polled → Poller Polled}

theorem WaitsEmpty.mapPoller (waitsEmpty : e.WaitsEmpty)
    (alike : e.tunnel.m_poller.Alike (f e.tunnel.m_poller)) : (e.mapPoller f).WaitsEmpty where
  keyed := by
    rw [tunnel_mapPoller]
    exact ⟨⟨waitsEmpty.keyed.keys, waitsEmpty.keyed.ids⟩,
      ⟨waitsEmpty.keyed.ready.poller, waitsEmpty.keyed.ready.fields⟩⟩
  waiting := by
    intro r isRemote waits
    cases e with
    | localEnd l => cases isRemote
    | remoteEnd r₀ =>
        cases isRemote
        obtain ⟨empty, none⟩ := waitsEmpty.waiting r₀ rfl waits
        exact ⟨empty, none.mapPoller alike⟩

end Endpoint

namespace System

variable {s s' : System} {side : Side} {f : Poller Polled → Poller Polled}

def mapPoller (s : System) (side : Side) (f : Poller Polled → Poller Polled) : System :=
  { s with ends := Function.update s.ends side ((s.ends side).mapPoller f) }

@[simp] theorem ends_mapPoller_self (s : System) (side : Side)
    (f : Poller Polled → Poller Polled) :
    (s.mapPoller side f).ends side = (s.ends side).mapPoller f :=
  Function.update_self side _ s.ends

@[simp] theorem ends_mapPoller_other (s : System) (side : Side)
    (f : Poller Polled → Poller Polled) :
    (s.mapPoller side f).ends side.other = s.ends side.other :=
  Function.update_of_ne side.other_ne _ s.ends

@[simp] theorem tunnel_mapPoller_self (s : System) (side : Side)
    (f : Poller Polled → Poller Polled) :
    (s.mapPoller side f).tunnel side = (s.tunnel side).mapPoller f := by
  unfold tunnel
  rw [ends_mapPoller_self]
  exact Endpoint.tunnel_mapPoller _ f

@[simp] theorem tunnel_mapPoller_other (s : System) (side : Side)
    (f : Poller Polled → Poller Polled) :
    (s.mapPoller side f).tunnel side.other = s.tunnel side.other := by
  unfold tunnel
  rw [ends_mapPoller_other]

/-- The tunnel of either side after a change of one of the pollers. -/
theorem tunnel_mapPoller (s : System) (side x : Side) (f : Poller Polled → Poller Polled) :
    (s.mapPoller side f).tunnel x = s.tunnel x ∨
      x = side ∧ (s.mapPoller side f).tunnel x = (s.tunnel x).mapPoller f := by
  rcases side_cases side x with rfl | rfl
  · exact Or.inr ⟨rfl, s.tunnel_mapPoller_self x f⟩
  · exact Or.inl (s.tunnel_mapPoller_other side f)

section Kept

/-- What reads of an endpoint all but its poller reads the same. -/
theorem kept_mapPoller {α : Type} {g : StdioTunnel → α}
    (same : ∀ t : StdioTunnel, g (t.mapPoller f) = g t) (x : Side) :
    g ((s.mapPoller side f).tunnel x) = g (s.tunnel x) := by
  rcases s.tunnel_mapPoller side x f with is | ⟨_, is⟩
  · rw [is]
  · rw [is, same]

theorem listenerSide_mapPoller (conn : Short) :
    (s.mapPoller side f).listenerSide conn = s.listenerSide conn := by
  unfold listenerSide
  rw [kept_mapPoller (g := fun t => t.listens conn.val) (fun _ => rfl)]

variable (alike : (s.tunnel side).m_poller.Alike (f (s.tunnel side).m_poller))

include alike

theorem half_mapPoller (x : Side) (conn id : Short) :
    (s.mapPoller side f).half x conn id = s.half x conn id := by
  have same : ((s.mapPoller side f).tunnel x).linkEnd conn.val id =
      (s.tunnel x).linkEnd conn.val id := by
    rcases s.tunnel_mapPoller side x f with is | ⟨rfl, is⟩
    · rw [is]
    · rw [is, StdioTunnel.linkEnd_mapPoller alike]
  unfold half
  rw [same]
  rfl

theorem link_mapPoller (conn id : Short) :
    (s.mapPoller side f).link conn id = s.link conn id := by
  unfold link
  rw [listenerSide_mapPoller, half_mapPoller alike, half_mapPoller alike,
    kept_mapPoller (g := fun t => t.os) (fun _ => rfl)]

theorem window_mapPoller (x : Side) (conn id : Short) :
    (s.mapPoller side f).window x conn id = s.window x conn id := by
  unfold window
  rw [half_mapPoller alike, half_mapPoller alike,
    kept_mapPoller (g := fun t => t.acked? conn.val id) (fun _ => rfl)]

theorem Healthy.mapPoller {x : Side} (healthy : s.Healthy x) :
    (s.mapPoller side f).Healthy x where
  sameSide := (kept_mapPoller (g := fun t => t.side) (fun _ => rfl) x).trans healthy.sameSide
  framed := by
    rcases side_cases side x with rfl | rfl
    · rw [ends_mapPoller_self]
      exact healthy.framed.mapPoller f
    · rw [ends_mapPoller_other]
      exact healthy.framed
  sound := by
    rcases s.tunnel_mapPoller side x f with is | ⟨rfl, is⟩
    · rw [is]
      exact healthy.sound
    · rw [is]
      exact healthy.sound.mapPoller alike
  numbered := by
    rcases s.tunnel_mapPoller side x f with is | ⟨_, is⟩
    · rw [is]
      exact healthy.numbered
    · rw [is]
      exact healthy.numbered
  intact := by
    have same : (s.mapPoller side f).pipeline x = s.pipeline x := by
      unfold pipeline writer reader
      rw [kept_mapPoller (g := fun t => t.m_write_stream) (fun _ => rfl),
        kept_mapPoller (g := fun t => t.m_read_stream) (fun _ => rfl)]
      rfl
    rw [same]
    exact healthy.intact
  quiet := by
    unfold reader
    rw [kept_mapPoller (g := fun t => t.m_read_stream) (fun _ => rfl)]
    exact healthy.quiet
  whole := healthy.whole

end Kept

/-- The kind of an endpoint and its state are the same. -/
theorem ends_mapPoller (x : Side) : ∃ t, (s.mapPoller side f).ends x = (s.ends x).withTunnel t := by
  rcases side_cases side x with rfl | rfl
  · exact ⟨_, s.ends_mapPoller_self x f⟩
  · refine ⟨(s.ends side.other).tunnel, ?_⟩
    rw [ends_mapPoller_other]
    cases s.ends side.other <;> rfl

theorem remote_mapPoller {r' : StdioTunnelRemote}
    (isRemote : (s.mapPoller side f).ends .remoteSide = .remoteEnd r') :
    ∃ r, s.ends .remoteSide = .remoteEnd r ∧ r.m_state = r'.m_state := by
  obtain ⟨t, is⟩ := @ends_mapPoller s side f .remoteSide
  rw [is] at isRemote
  generalize s.ends .remoteSide = e at isRemote ⊢
  cases e with
  | localEnd l => cases isRemote
  | remoteEnd r =>
      cases isRemote
      exact ⟨r, rfl, rfl⟩

theorem kinds_mapPoller (kinds : ∃ l r, s.ends .localSide = .localEnd l ∧
      s.ends .remoteSide = .remoteEnd r) :
    ∃ l r, (s.mapPoller side f).ends .localSide = .localEnd l ∧
      (s.mapPoller side f).ends .remoteSide = .remoteEnd r := by
  obtain ⟨l, r, isLocal, isRemote⟩ := kinds
  obtain ⟨t, near⟩ := @ends_mapPoller s side f .localSide
  obtain ⟨t', far⟩ := @ends_mapPoller s side f .remoteSide
  rw [isLocal] at near
  rw [isRemote] at far
  exact ⟨_, _, near, far⟩

theorem Greeting.mapPoller (greeting : s.Greeting) : (s.mapPoller side f).Greeting where
  waiting := by
    intro r' isRemote
    obtain ⟨r, was, state⟩ := remote_mapPoller isRemote
    exact state.symm.trans (greeting.waiting r was)
  empty := fun x => (kept_mapPoller (g := fun t => t.connection? x) (fun _ => rfl) _).trans
    (greeting.empty x)
  opened := (kept_mapPoller (g := fun t => t.os.opened) (fun _ => rfl) _).trans greeting.opened
  silent := greeting.silent
  request := by
    obtain ⟨connections, more, front, lists, expected⟩ := greeting.request
    refine ⟨connections, more, front, ?_, expected⟩
    have kind : ∀ x, ((s.mapPoller side f).tunnel .localSide).kind? x =
        (s.tunnel .localSide).kind? x := fun x =>
      kept_mapPoller (g := fun t => t.kind? x) (fun _ => rfl) _
    refine ⟨lists.few, lists.distinct, fun x spec listens known => ?_, fun c member => ?_,
      lists.directions⟩
    · exact lists.complete x spec listens ((kind x).symm.trans known)
    · exact (kind _).trans (lists.known c member)

theorem Joined.mapPoller (joined : s.Joined) : (s.mapPoller side f).Joined where
  connected := by
    intro r' isRemote
    obtain ⟨r, was, state⟩ := remote_mapPoller isRemote
    exact state.symm.trans (joined.connected r was)
  forth := by
    intro x
    rw [kept_mapPoller (g := fun t => t.listens x) (fun _ => rfl),
      kept_mapPoller (g := fun t => t.connects x) (fun _ => rfl)]
    exact joined.forth x
  back := by
    intro x
    rw [kept_mapPoller (g := fun t => t.listens x) (fun _ => rfl),
      kept_mapPoller (g := fun t => t.connects x) (fun _ => rfl)]
    exact joined.back x
  hosts := by
    intro y x spec listens known
    rw [kept_mapPoller (g := fun t => t.kind? x) (fun _ => rfl)] at known
    exact joined.hosts y x spec listens known
  expected := joined.expected

section Moved

variable (alike : (s.tunnel side).m_poller.Alike (f (s.tunnel side).m_poller))

include alike

/-- The invariant does not see the cursor and the flags of the records. -/
theorem Inv.mapPoller (inv : s.Inv) : (s.mapPoller side f).Inv where
  kinds := kinds_mapPoller inv.kinds
  healthy := fun x => (inv.healthy x).mapPoller alike
  links := by
    intro conn id
    rw [link_mapPoller alike]
    exact inv.links conn id
  stage := inv.stage.imp Greeting.mapPoller Joined.mapPoller

theorem WaitsEmpty.mapPoller (waitsEmpty : s.WaitsEmpty) : (s.mapPoller side f).WaitsEmpty where
  kinds := kinds_mapPoller waitsEmpty.kinds
  ends := by
    intro x
    rcases side_cases side x with rfl | rfl
    · rw [ends_mapPoller_self]
      exact (waitsEmpty.ends x).mapPoller alike
    · rw [ends_mapPoller_other]
      exact waitsEmpty.ends _

theorem Waiting.mapPoller (waiting : s.Waiting) : (s.mapPoller side f).Waiting where
  fine := by
    intro x conn id
    rw [window_mapPoller alike]
    exact waiting.fine x conn id
  full := by
    intro x conn id
    rw [window_mapPoller alike]
    exact waiting.full x conn id

end Moved

/-! ## Honest data -/

/-- A message that is no reply finds its link no longer waiting for one. -/
theorem Inv.answered (inv : s.Inv) {m : LinkMessage} {rest : List LinkMessage} {conn id : Short}
    (front : (s.half side.other conn id).inFlight = m :: rest) (other : m.command ≠ LINK_CREATE) :
    (s.tunnel side).phase conn.val id ≠ .pending := by
  have lawful := (inv.links conn id).1
  unfold LinkState.Lawful at lawful
  change (s.half side conn id).phase ≠ .pending
  rcases here_or_there s side conn with here | there
  · rw [link_of_listener here] at lawful
    dsimp only at lawful
    rw [front] at lawful
    rcases lawful.listenerFinds with ⟨success, rfl, _⟩ | ⟨_, up | up⟩
    · exact absurd rfl other
    · rw [up]
      exact nofun
    · rw [up]
      exact nofun
  · rw [link_of_connector there] at lawful
    dsimp only at lawful
    rw [front] at lawful
    rcases lawful.connectorFinds with ⟨rfl, _, _⟩ | ⟨_, up | up⟩
    · exact absurd rfl other
    · rw [up]
      exact nofun
    · rw [up]
      exact nofun

/-- The data of a packet says how long it is, and it is not empty. -/
theorem data_length {m : LinkMessage} (full : m.Full) (fits : m.fits = true)
    (isData : m.command = LINK_SEND ∨ m.command = LINK_SEND_FOR_ACK) {length : Short}
    {rest : List Byte} (splits : splitShort m.fields = some (length, rest)) : 0 < length.val := by
  have positive : ∀ bytes : List Byte, bytes ≠ [] → bytes.length ≤ LINK_BUFFER_SIZE →
      splitShort (WriteStream.shortBytes (Short.ofInt bytes.length) ++ bytes) =
        some (length, rest) → 0 < length.val := by
    intro bytes nonempty small splits
    rw [splitShort_shortBytes] at splits
    rw [← (Prod.mk.inj (Option.some.inj splits)).1, StdioTunnel.length_short small]
    exact Int.natCast_pos.mpr (List.length_pos_iff.mpr nonempty)
  cases m with
  | send bytes | sendForAck bytes => exact positive bytes full (of_decide_eq_true fits) splits
  | create | created _ | ack | close => rcases isData with no | no <;> cases no

/-- Each endpoint of a system sends the other data for links that are up. -/
theorem Step.candid {event : Event} (step : Step s (side, event) s') (inv : s.Inv)
    (waiting : s.Waiting) : (s.ends side).Candid event where
  toHonest := step.honest inv
  data := by
    intro conn command id fields message isData
    obtain ⟨m, rest, rfl, rfl, fits, front⟩ := step.message_front inv message
    have full : m.Full := by
      refine waiting.full side.other conn id m ?_
      change m ∈ (s.half side.other conn id).inFlight
      rw [front]
      exact List.mem_cons_self
    refine ⟨fun length more => data_length full fits isData, inv.answered front fun no => ?_⟩
    rw [no] at isData
    rcases isData with no | no <;> exact absurd no (by decide)

/-! ## Steps of the loops -/

end System

/-- A step of one of the two loops. -/
inductive Tick where
  | poll (side : Side) (revents : Nat → PollEvents)
  | pass (side : Side)
  | dispatch (side : Side) (event : Event)

namespace System

variable {s s' : System} {side : Side} {tick : Tick}

/--
`poll` reports flags for all records and the cursor starts at the first one;
a record without flags is passed over, and the object of another one is
dispatched.  Cutting a round short allows more runs than the loops have.
-/
inductive LoopStepOf (takes : System → Side × Event → System → Prop) (s : System) :
    Tick → System → Prop where
  | poll {side : Side} {revents : Nat → PollEvents}
      (obeyed : ((s.tunnel side).m_poller.beginRound revents).Obeyed) :
      LoopStepOf takes s (.poll side revents) (s.mapPoller side (·.beginRound revents))
  | pass {side : Side} {entry : PolledAndPollfd Polled}
      (meets : (s.tunnel side).m_poller.Meets entry)
      (idle : entry.m_pollfd.revents.nonzero = false) :
      LoopStepOf takes s (.pass side) (s.mapPoller side .advance)
  | dispatch {side : Side} {entry : PolledAndPollfd Polled} {calls : Calls} {s' : System}
      (meets : (s.tunnel side).m_poller.Meets entry)
      (ready : entry.m_pollfd.revents.nonzero = true)
      (step : takes s (side, ⟨entry.m_polled, entry.m_pollfd, calls⟩) s') :
      LoopStepOf takes s (.dispatch side ⟨entry.m_polled, entry.m_pollfd, calls⟩)
        (s'.mapPoller side .advance)

/-- A step of one of the loops, while the clients with links are spaced. -/
abbrev LoopStep (s : System) : Tick → System → Prop := LoopStepOf SpacedStep s

/-- Without the spacing there are more runs. -/
theorem LoopStepOf.any (step : LoopStep s tick s') : LoopStepOf Step s tick s' := by
  cases step with
  | poll obeyed => exact .poll obeyed
  | pass meets idle => exact .pass meets idle
  | dispatch meets ready step => exact .dispatch meets ready step.1

/-- What holds of the endpoints and of what is under way between them. -/
structure ServesWaiting (s : System) : Prop where
  inv : s.Inv
  waitsEmpty : s.WaitsEmpty
  serving : ∀ x, (s.tunnel x).Serving
  waiting : s.Waiting

/-- The record at the cursor of an endpoint was reported in the round that is under way. -/
def Rounding (s : System) (side : Side) : Prop :=
  ∀ entry, (s.tunnel side).m_poller.Meets entry →
    ∃ rest, (s.tunnel side).m_poller.Round rest ∧ (s.tunnel side).Reported rest

/-- What holds while both loops run. -/
structure Looping (s : System) : Prop extends ServesWaiting s where
  rounds : ∀ x, s.Rounding x

theorem ServesWaiting.mapPoller {f : Poller Polled → Poller Polled} (servesWaiting : s.ServesWaiting)
    (alike : (s.tunnel side).m_poller.Alike (f (s.tunnel side).m_poller)) :
    (s.mapPoller side f).ServesWaiting where
  inv := servesWaiting.inv.mapPoller alike
  waitsEmpty := servesWaiting.waitsEmpty.mapPoller alike
  serving := by
    intro x
    rcases s.tunnel_mapPoller side x f with is | ⟨rfl, is⟩
    · rw [is]
      exact servesWaiting.serving x
    · rw [is]
      exact (servesWaiting.serving x).mapPoller alike
  waiting := servesWaiting.waiting.mapPoller alike

/-- The cursor moves over records that were reported. -/
theorem Looping.moved {f : Poller Polled → Poller Polled} (servesWaiting : s.ServesWaiting)
    (alike : (s.tunnel side).m_poller.Alike (f (s.tunnel side).m_poller))
    (far : s.Rounding side.other) {rest : List (PolledAndPollfd Polled)}
    (round : (f (s.tunnel side).m_poller).Round rest) (reported : (s.tunnel side).Reported rest) :
    (s.mapPoller side f).Looping where
  toServesWaiting := servesWaiting.mapPoller alike
  rounds := by
    intro x entry meets
    rcases side_cases side x with rfl | rfl
    · rw [tunnel_mapPoller_self]
      exact ⟨rest, round, reported.sockets, reported.once, reported.ready⟩
    · rw [tunnel_mapPoller_other] at meets ⊢
      exact far entry meets

/-- A dispatch reads only what may be sent. -/
theorem Looping.free (looping : s.Looping) {entry : PolledAndPollfd Polled} {calls : Calls}
    (meets : (s.tunnel side).m_poller.Meets entry) :
    (s.tunnel side).Free ⟨entry.m_polled, entry.m_pollfd, calls⟩ := by
  obtain ⟨rest, round, reported⟩ := looping.rounds side entry meets
  obtain ⟨before, first, after, rfl, _, face, _⟩ := round.front meets
  obtain ⟨polled, faces⟩ := Prod.mk.inj face
  obtain ⟨_, revents⟩ := Prod.mk.inj faces
  intro conn l isLink found up input
  refine reported.ready first (List.mem_append_right _ List.mem_cons_self) ?_ conn l.m_id l
    (polled.trans isLink) found up
  rw [revents]
  exact input

theorem Looping.step (looping : s.Looping) (step : LoopStep s tick s') : s'.Looping := by
  cases step with
  | @poll side revents obeyed =>
      exact .moved looping.toServesWaiting (.beginRound _ revents) (looping.rounds side.other)
        (.beginRound _ revents)
        (.beginRound (looping.serving side) (looping.inv.healthy side).sound obeyed)
  | @pass side entry meets idle =>
      obtain ⟨rest, round, reported⟩ := looping.rounds side entry meets
      obtain ⟨before, first, after, rfl, _, _, later⟩ := round.front meets
      exact .moved looping.toServesWaiting (.advance _) (looping.rounds side.other) (later (.refl _))
        (reported.dispatched (.ofLinks (fun _ _ => rfl) (Nat.le_refl _)))
  | @dispatch side entry calls s₁ meets ready spaced =>
      obtain ⟨step, apart⟩ := spaced
      have inv := looping.inv
      have clear := inv.clear_of_spaced apart
      have own := looping.waitsEmpty.ends side
      obtain ⟨e, dispatched, after⟩ := step.ends
      have here : s₁.tunnel side = e.tunnel := by
        unfold tunnel
        rw [after, Function.update_self]
      have there : s₁.tunnel side.other = s.tunnel side.other := by
        unfold tunnel
        rw [after, Function.update_of_ne side.other_ne]
      obtain ⟨rest, round, reported⟩ := looping.rounds side entry meets
      obtain ⟨before, first, later, rfl, _, face, advanced⟩ := round.front meets
      have polled : first.m_polled = entry.m_polled := (Prod.mk.inj face).1
      have lasting := (Endpoint.dispatch_turn own.keyed dispatched.result).lasting own
      dsimp only at lasting
      rw [← polled] at lasting
      have serving : ∀ x, (s₁.tunnel x).Serving := by
        intro x
        rcases side_cases side x with rfl | rfl
        · rw [here]
          exact Endpoint.Fair.serving ⟨dispatched, step.candid inv looping.waiting⟩ own
            (looping.serving x)
        · rw [there]
          exact looping.serving _
      have far : s₁.Rounding side.other := by
        unfold Rounding
        rw [there]
        exact looping.rounds side.other
      have rest := reported.dispatched lasting
      rw [← here] at rest
      refine .moved ⟨step.inv inv clear, step.waitsEmpty looping.waitsEmpty, serving,
        step.waiting inv clear (looping.free meets) looping.waiting⟩ (.advance _) far ?_ rest
      rw [here]
      exact advanced (Endpoint.dispatch_driven own.keyed dispatched.result)

end System

end Tun01
