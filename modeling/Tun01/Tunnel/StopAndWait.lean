import Tun01.Tunnel.PollLoops
import Tun01.Tunnel.Schedule

/-!
# Acknowledged connections

While both polling loops run, each direction of each link waits for the
acknowledgement of its last packet before it sends the next one, also when the
link was reported readable before it sent that packet.
-/

namespace Tun01

open LinkState (Up)

/-- Ends that both have the link up have no `close` under way. -/
theorem LinkState.LawfulAt.no_close {l c : Phase} {out back : List LinkMessage}
    (lawful : LawfulAt l c out back) (near : Up l) (far : Up c) : .close ∉ out ∧ .close ∉ back := by
  have clean : ∀ {messages : List LinkMessage}, LinkMessage.Traffic messages → .close ∉ messages :=
    fun traffic member => by cases traffic _ member
  rcases near with rfl | rfl <;> rcases far with rfl | rfl
  · exact lawful.elim
  · obtain ⟨rfl, more, traffic, rfl⟩ := lawful
    exact ⟨List.not_mem_nil, fun member => clean traffic
      ((List.mem_cons.mp member).resolve_left fun no => by cases no)⟩
  · exact lawful.elim
  · exact ⟨clean lawful.1, clean lawful.2⟩

namespace System

variable {s s' : System} {side : Side} {conn id : Short} {ticks : List Tick}

/-- An end that has sent its `close` no longer has the link up. -/
theorem Inv.no_close (inv : s.Inv) (near : Up (s.half side conn id).phase)
    (closing : .close ∈ (s.window side conn id).back) :
    ¬ Up (s.half side.other conn id).phase := by
  intro far
  have lawful := (inv.links conn id).1
  unfold LinkState.Lawful at lawful
  change .close ∈ (s.half side.other conn id).inFlight at closing
  rcases here_or_there s side conn with here | there
  · rw [link_of_listener here] at lawful
    exact (lawful.no_close near far).2 closing
  · rw [link_of_connector there] at lawful
    exact (lawful.no_close far near).1 closing

/-! ## The loops begin -/

theorem Opened.linkless (opened : s.Opened) (x : Side) : (s.tunnel x).Linkless := by
  obtain ⟨begun, specs, read, written, waits, passing, greets, once, remote⟩ := opened
  cases x with
  | localSide =>
      obtain ⟨d, passes, queued⟩ := greeted_passes begun waits passing greets once
      exact (StdioTunnel.Starts.aside passes.aside).linkless begun.started.keyed.2
  | remoteSide => exact (Endpoint.Started.remoteEnd remote).keyed.2

theorem Opened.unpolled (opened : s.Opened) (x : Side) :
    (s.tunnel x).m_poller.m_orig_size ≤ 0 := by
  obtain ⟨begun, specs, read, written, waits, passing, greets, once, remote⟩ := opened
  rename_i l events w w' event r write fcntl
  cases x with
  | localSide =>
      have stays : ∀ {u u' : Watched} {event : Event}, u.Kept → Watched.Step u event u' →
          u.endpoint.m_poller.m_orig_size ≤ 0 → u'.endpoint.m_poller.m_orig_size ≤ 0 :=
        fun {u _ _} kept step none =>
          (@Endpoint.dispatch_driven (.localEnd u.endpoint) _ _ kept.keyed
            step.step.result).size none
      have before : w.Kept ∧ w.endpoint.m_poller.m_orig_size ≤ 0 :=
        @Run.invariant _ _ _ _ _ _ (fun u => u.Kept ∧ u.endpoint.m_poller.m_orig_size ≤ 0)
          ⟨Watched.kept_start begun, begun.started.unpolled⟩
          (fun both step => ⟨step.1.kept both.1, stays both.1 step.1 both.2⟩) waits
      exact stays before.1 greets before.2
  | remoteSide => exact (Endpoint.Started.remoteEnd remote).unpolled

/-- Nothing about links is under way when the loops begin. -/
theorem Opened.window_out (opened : s.Opened) (fits : s.Fits) (x : Side) (conn id : Short) :
    (s.window x conn id).out = [] := by
  have absent : ∀ x, (s.half x conn id).phase = .absent := fun x =>
    StdioTunnel.phase_of_none ((opened.linkless x).link conn.val id)
  have lawful := ((opened.inv fits).links conn id).1
  unfold LinkState.Lawful at lawful
  rcases here_or_there s x conn with here | there
  · rw [link_of_listener here] at lawful
    dsimp only at lawful
    rw [absent, absent] at lawful
    exact lawful.1
  · rw [link_of_connector there] at lawful
    dsimp only at lawful
    rw [absent, absent] at lawful
    exact lawful.2

theorem Opened.looping (opened : s.Opened) (fits : s.Fits) : s.Looping where
  inv := opened.inv fits
  waitsEmpty := opened.waitsEmpty
  serving := fun x => (opened.linkless x).serving
  waiting := by
    refine ⟨fun x conn id => .of_none ?_, fun x conn id => ?_⟩
    · change ((s.tunnel x).link? conn.val id).bind _ = _
      rw [(opened.linkless x).link]
      rfl
    · rw [opened.window_out fits]
      exact List.forall_mem_nil _
  rounds := fun x entry meets => absurd meets (Poller.not_meets (opened.unpolled x) entry)

theorem Opened.looping_run (opened : s.Opened) (fits : s.Fits) (run : Run LoopStep s ticks s') :
    s'.Looping :=
  run.invariant (opened.looping fits) fun looping step => looping.step step

/-! ## Stop and wait -/

/--
In every state that both loops reach, and for each end of each link that is not
closing: at most one packet of this direction or acknowledgement of one is under
way, none when the end may send, and exactly one when it waits, unless the other
end has sent its `close` and no longer has the link up.
-/
theorem stop_and_wait {l : ConnectionLink} (opened : s.Opened) (fits : s.Fits)
    (run : Run LoopStep s ticks s') (found : (s'.tunnel side).link? conn.val id = some l)
    (up : l.m_closing = false) :
    (s'.window side conn id).outstanding ≤ 1 ∧
      (l.m_acknowledged = true → (s'.window side conn id).outstanding = 0) ∧
      (l.m_acknowledged = false → (s'.window side conn id).outstanding = 1 ∨
        (.close ∈ (s'.half side.other conn id).inFlight ∧
          ¬ Up (s'.half side.other conn id).phase)) := by
  have looping := opened.looping_run fits run
  have acked : (s'.window side conn id).acked = some l.m_acknowledged := by
    change (s'.tunnel side).acked? conn.val id = _
    rw [StdioTunnel.acked?_of_link found, up]
    rfl
  obtain ⟨once, idle, answered⟩ := looping.waiting.fine side conn id _ acked
  have near : Up (s'.half side conn id).phase :=
    StdioTunnel.acked?_ne_none_iff.mp (by
      rw [show (s'.tunnel side).acked? conn.val id = _ from acked]
      exact Option.some_ne_none _)
  exact ⟨once, idle, fun waits => (answered waits).imp_right fun closing =>
    ⟨closing, looping.inv.no_close near closing⟩⟩

/-! ## A packet that waits for its acknowledgement -/

end System

/-- A step of one of the loops, as a schedule names it. -/
inductive Beat where
  /-- flags by index, none for the records after those -/
  | poll (side : Side) (revents : List PollEvents)
  | pass (side : Side)
  | dispatch (move : Move)

namespace Poller

variable {ρ : Type}

/-- `Obeyed`, evaluated. -/
def obeys (p : Poller ρ) : Bool :=
  p.m_polled.all fun entry =>
    (!entry.m_pollfd.revents.POLLIN || entry.m_pollfd.events.POLLIN) &&
      (!entry.m_pollfd.revents.POLLOUT || entry.m_pollfd.events.POLLOUT)

theorem obeys_sound {p : Poller ρ} (obeys : p.obeys = true) : p.Obeyed := by
  intro entry member
  have both := List.all_eq_true.mp obeys entry member
  rw [Bool.and_eq_true] at both
  constructor
  · intro input
    simpa [input] using both.1
  · intro output
    simpa [output] using both.2

def met (p : Poller ρ) : Option (PolledAndPollfd ρ) :=
  if p.m_index < p.m_orig_size then p.entryAt p.m_index else none

theorem met_sound {p : Poller ρ} {entry : PolledAndPollfd ρ} (met : p.met = some entry) :
    p.Meets entry := by
  unfold Poller.met at met
  split at met
  · rename_i inside
    exact ⟨inside, met⟩
  · cases met

end Poller

namespace System

variable {s s' : System} {tick : Tick}

def firstClient (t : StdioTunnel) (polled : Polled) : Bool :=
  match polled with
  | .listenSide x _ => (t.os.opens x).isEmpty
  | _ => true

theorem spaced_of_first {t : StdioTunnel} {polled : Polled} (first : firstClient t polled = true)
    (x : Int) (socket : Nat) (listener : polled = .listenSide x socket) : t.Spaced x := by
  subst listener
  intro id l _ j client
  rw [List.isEmpty_iff.mp first] at client
  cases client

/-- The system after a beat that can be made. -/
def beat? (s : System) : Beat → Option (Tick × System)
  | .poll side revents =>
      let begun := fun p : Poller Polled => p.beginRound fun i => revents.getD i .zero
      if (begun (s.tunnel side).m_poller).obeys then
        some (.poll side fun i => revents.getD i .zero, s.mapPoller side begun)
      else none
  | .pass side => do
      let entry ← (s.tunnel side).m_poller.met
      if entry.m_pollfd.revents.nonzero then none
      else some (.pass side, s.mapPoller side .advance)
  | .dispatch move => do
      let (side, event) := s.label move
      let entry ← (s.tunnel side).m_poller.met
      let s' ← s.play? move
      if entry.m_polled = event.polled ∧ entry.m_pollfd = event.poll_struct ∧
          entry.m_pollfd.revents.nonzero = true ∧
          firstClient (s.tunnel side) event.polled = true then
        some (.dispatch side event, s'.mapPoller side .advance)
      else none

theorem beat?_step {beat : Beat} (beaten : s.beat? beat = some (tick, s')) :
    LoopStep s tick s' := by
  cases beat with
  | poll side revents =>
      unfold beat? at beaten
      dsimp only at beaten
      split at beaten
      · rename_i obeys
        cases beaten
        exact .poll (Poller.obeys_sound obeys)
      · cases beaten
  | pass side =>
      unfold beat? at beaten
      dsimp only at beaten
      cases met : (s.tunnel side).m_poller.met with
      | none =>
          rw [met] at beaten
          cases beaten
      | some entry =>
          rw [met] at beaten
          change (if entry.m_pollfd.revents.nonzero then none else _) = _ at beaten
          split at beaten
          · cases beaten
          · rename_i idle
            cases beaten
            exact .pass (Poller.met_sound met) (eq_false_of_ne_true idle)
  | dispatch move =>
      unfold beat? at beaten
      dsimp only at beaten
      cases label : s.label move with
      | mk side event =>
      rw [label] at beaten
      cases met : (s.tunnel side).m_poller.met with
      | none => simp [met] at beaten
      | some entry =>
      cases played : s.play? move with
      | none => simp [met, played] at beaten
      | some s₁ =>
          simp only [met, played, Option.bind_eq_bind, Option.bind_some] at beaten
          split at beaten
          · rename_i both
            obtain ⟨polled, record, ready, first⟩ := both
            cases beaten
            have step := play?_step played
            rw [label] at step
            have same : event = ⟨entry.m_polled, entry.m_pollfd, event.calls⟩ := by
              rw [polled, record]
            rw [same] at step ⊢
            refine .dispatch (Poller.met_sound met) ready ⟨step, ?_⟩
            dsimp only
            rw [polled]
            exact spaced_of_first first
          · cases beaten

/-- The system after a schedule of beats. -/
def beatAll? (s : System) : List Beat → Option (List Tick × System)
  | [] => some ([], s)
  | beat :: beats => do
      let (tick, s') ← s.beat? beat
      let (ticks, last) ← s'.beatAll? beats
      some (tick :: ticks, last)

theorem beatAll?_run {beats : List Beat} {ticks : List Tick}
    (beaten : s.beatAll? beats = some (ticks, s')) : Run LoopStep s ticks s' := by
  induction beats generalizing s ticks with
  | nil =>
      cases beaten
      exact .nil
  | cons beat beats ih =>
      unfold beatAll? at beaten
      cases first : s.beat? beat with
      | none =>
          rw [first] at beaten
          cases beaten
      | some pair =>
          obtain ⟨tick, s₁⟩ := pair
          rw [first] at beaten
          cases later : s₁.beatAll? beats with
          | none => simp [later, bind, Option.bind] at beaten
          | some result =>
              obtain ⟨more, last⟩ := result
              simp only [later, bind, Option.bind, Option.some.injEq, Prod.mk.injEq] at beaten
              obtain ⟨rfl, rfl⟩ := beaten
              exact .cons (beat?_step first) (ih later)

def oneReady (index : Nat) (revents : PollEvents) (side : Side) (move : Move) : List Beat :=
  .poll side (List.replicate index .zero ++ [revents]) ::
    (List.replicate index (.pass side) ++ [.dispatch move])

end System

namespace StdioTunnelLocal

def acknowledging : Except Fault StdioTunnelLocal := do
  let l ← fresh.configure (fun _ => 0) [text "-L", text "8080:host:80:a", text "ssh"]
  l.start 3 4 {}

def patient : StdioTunnelLocal :=
  match acknowledging with
  | .ok l => l
  | .error _ => fresh

theorem patient_begun : Begun patient := by
  have returns : acknowledging.isOk = true := by decide +kernel
  cases result : acknowledging with
  | error fault =>
      rw [result] at returns
      cases returns
  | ok l =>
      have same : patient = l := by rw [patient, result]
      obtain ⟨l₁, configured, start⟩ := of_bind_ok result
      rw [same]
      exact .mk configured (by decide) start

end StdioTunnelLocal

namespace System

open StdioTunnelLocal (patient patient_begun)

/-- The two endpoints of an acknowledged connection after the magic string. -/
def patients : System where
  ends := fun
    | .localSide => .localEnd ((Watched.start patient).after Watched.greet).endpoint
    | .remoteSide => .remoteEnd .waiting
  wires := fun
    | .localSide => ⟨[], ((Watched.start patient).after Watched.greet).queued, [], []⟩
    | .remoteSide => .empty
  brought := fun _ _ => []

theorem patients_opened : patients.Opened := by
  obtain ⟨returns, registered, specs, read, written, state, once⟩ :
      (patient.dispatch Watched.greet.polled Watched.greet.poll_struct Watched.greet.calls).isOk =
          true ∧
        (3 : Int) ∈ (patient.registrations Watched.greet.polled).map Pollfd.fd ∧
        patient.m_connection_specs.length ≤ 65536 ∧ patient.m_read_fd ≠ STDOUT_FD ∧
        patient.m_write_fd ≠ STDOUT_FD ∧ patient.m_state = .PASS_THROUGH ∧
        ((Watched.start patient).after Watched.greet).handshakes = 1 := by decide +kernel
  obtain ⟨record, member, fd⟩ := List.mem_map.mp registered
  exact .mk patient_begun specs read written .nil state
    (Watched.step_after returns ⟨record, member, fd⟩ trivial) once
    StdioTunnelRemote.waiting_starts

theorem patients_fits : patients.Fits := by
  obtain ⟨few, small⟩ : (patients.tunnel .localSide).m_connection_map.size ≤ 32767 ∧
      (Message.handshake (patients.tunnel .localSide).connections).payload.length < 2 ^ 32 := by
    decide +kernel
  exact ⟨few, small⟩

/-- The front packet of an endpoint goes to the other one in a round of each. -/
def passesOn : Side → List Beat
  | .localSide =>
      oneReady 3 POLLOUT .localSide (.flush .localSide) ++
        oneReady 0 POLLIN .remoteSide (.fetch .remoteSide {})
  | .remoteSide =>
      oneReady 1 POLLOUT .remoteSide (.flush .remoteSide) ++
        oneReady 2 POLLIN .localSide (.fetch .localSide {})

def clientSends : Move :=
  .object .localSide ⟨.connectionLink 0 (Short.ofInt 501) 1, ⟨1, POLLIN, POLLIN⟩,
    { read := .ok (text "hi") }⟩

/-- A client comes, its link is set up, and it sends. -/
def waitsForAck : List Beat :=
  passesOn .localSide ++ (passesOn .remoteSide ++
    (oneReady 0 POLLIN .localSide
        (.object .localSide ⟨.listenSide 0 0, ⟨0, POLLIN, POLLIN⟩, {}⟩) ++
      (passesOn .localSide ++ (passesOn .remoteSide ++
        oneReady 4 POLLIN .localSide clientSends))))

theorem waitsForAck_facts : (patients.beatAll? waitsForAck).any (fun result =>
    ((result.2.tunnel .localSide).link? 0 (Short.ofInt 501)).any fun l =>
      !l.m_closing && !l.m_acknowledged) = true := by
  decide +kernel

/-- The packet of the client is under way, and its link waits. -/
theorem stop_and_wait_packet : ∃ (s : System) (l : ConnectionLink),
    (s.tunnel .localSide).link? 0 (Short.ofInt 501) = some l ∧ l.m_acknowledged = false ∧
      ((s.window .localSide (Short.ofInt 0) (Short.ofInt 501)).outstanding = 1 ∨
        (.close ∈ (s.half .remoteSide (Short.ofInt 0) (Short.ofInt 501)).inFlight ∧
          ¬ Up (s.half .remoteSide (Short.ofInt 0) (Short.ofInt 501)).phase)) := by
  obtain ⟨⟨ticks, s⟩, beaten, known⟩ := (Option.any_eq_true _ _).mp waitsForAck_facts
  obtain ⟨l, found, waits⟩ := (Option.any_eq_true _ _).mp known
  rw [Bool.and_eq_true, Bool.not_eq_true', Bool.not_eq_true'] at waits
  have here : (s.tunnel .localSide).link? (Short.ofInt 0).val (Short.ofInt 501) = some l := found
  exact ⟨s, l, found, waits.2, (stop_and_wait patients_opened patients_fits (beatAll?_run beaten)
    here waits.1).2.2 waits.2⟩

end System

/-! ## An identifier that comes back -/

namespace Poller

/-- The first record is that of a listener which is polled for clients. -/
def Fronts (p : Poller Polled) : Prop :=
  ∃ entry, p.m_polled[0]? = some entry ∧ entry.m_polled = .listenSide 0 0 ∧
    entry.m_pollfd.fd = 0 ∧ entry.m_pollfd.events = POLLIN

theorem Fronts.setEvents {p : Poller Polled} (fronts : p.Fronts) (fd : Int)
    (events : PollEvents) : (p.setEvents .stdioTunnel fd events).Fronts := by
  obtain ⟨entry, first, listener, isFd, input⟩ := fronts
  refine ⟨entry, ?_, listener, isFd, input⟩
  have apart : p.findPolled .stdioTunnel fd ≠ 0 := by
    intro zero
    have inside := (List.getElem?_eq_some_iff.mp first).1
    have found : isFor .stdioTunnel fd p.m_polled[0] = true := by
      have here := @List.findIdx_getElem _ (isFor .stdioTunnel fd) p.m_polled
        (by rw [show p.m_polled.findIdx _ = 0 from zero]; exact inside)
      simpa only [show p.m_polled.findIdx (isFor .stdioTunnel fd) = 0 from zero] using here
    rw [(List.getElem?_eq_some_iff.mp first).2] at found
    unfold isFor at found
    rw [listener] at found
    simp at found
  rw [Endpoint.getElem?_setEvents, first, Option.map_some, if_neg apart]

theorem Fronts.beginRound {p : Poller Polled} (fronts : p.Fronts) (revents : Nat → PollEvents) :
    (p.beginRound revents).Fronts := by
  obtain ⟨entry, first, rest⟩ := fronts
  refine ⟨withRevents (revents 0) entry, ?_, rest⟩
  rw [Endpoint.getElem?_beginRound, first]
  rfl

def firstOnly (i : Nat) : PollEvents := if i = 0 then POLLIN else .zero

/-- `poll` may report the listener alone, which is dispatched then. -/
theorem Fronts.reported {p : Poller Polled} (fronts : p.Fronts) :
    (p.beginRound firstOnly).Obeyed ∧
      ∃ entry, (p.beginRound firstOnly).Meets entry ∧ entry.m_polled = .listenSide 0 0 ∧
        entry.m_pollfd = ⟨0, POLLIN, POLLIN⟩ := by
  obtain ⟨entry, first, listener, isFd, input⟩ := fronts
  constructor
  · intro record member
    obtain ⟨i, found⟩ := List.mem_iff_getElem?.mp member
    rw [Endpoint.getElem?_beginRound] at found
    obtain ⟨before, there, rfl⟩ := Option.map_eq_some_iff.mp found
    cases i with
    | zero =>
        rw [first] at there
        obtain rfl := Option.some.inj there
        refine ⟨fun _ => ?_, nofun⟩
        change entry.m_pollfd.events.POLLIN = true
        rw [input]
        rfl
    | succ i => exact ⟨nofun, nofun⟩
  · refine ⟨withRevents POLLIN entry, ⟨?_, ?_⟩, listener, ?_⟩
    · change (0 : Int) < (p.m_polled.length : Int)
      have inside := (List.getElem?_eq_some_iff.mp first).1
      omega
    · change (p.beginRound firstOnly).m_polled[0]? = _
      rw [Endpoint.getElem?_beginRound, first]
      rfl
    · unfold withRevents
      rw [← isFd, ← input]

end Poller

/-- The dispatch of a listener stores the link of a client and asks for its other half. -/
theorem Endpoint.accepts_eq {e e' : Endpoint} (waitsEmpty : e.WaitsEmpty) {event : Event} {x : Int}
    {socket : Nat} (listener : event.polled = .listenSide x socket)
    (result : e.dispatch event = .ok e') :
    ∃ (conn : Short) (c : TunnelConnection) (n : Int) (m : Message), x = conn.val ∧
      (Operation.accept conn c socket n).Valid e.tunnel ∧
      e' = e.withTunnel
        ((Operation.emit m).apply ((Operation.accept conn c socket n).apply e.tunnel)) := by
  have object : event.polled ≠ .stdioTunnel := by
    rw [listener]
    exact nofun
  rw [dispatch_object object, listener] at result
  obtain ⟨t', dispatched, rfl⟩ := of_map_ok result
  obtain ⟨ops, run, script⟩ := (StdioTunnel.polledObject_run waitsEmpty.keyed dispatched).resolve_right
    fun server => nomatch server.1
  cases script with
  | listener conn c socket n =>
      obtain ⟨t₁, ⟨valid, rfl⟩, rest⟩ := run.uncons
      obtain ⟨t₂, ⟨_, rfl⟩, done⟩ := rest.uncons
      obtain rfl := done.of_nil
      exact ⟨conn, c, n, _, rfl, valid, rfl⟩

namespace System

variable {s : System} {n : Int}

/-- A client can come to the listener, and an acknowledgement is under way to link 501. -/
structure Crowded (s : System) (n : Int) : Prop where
  waitsEmpty : (s.ends .localSide).WaitsEmpty
  role : ∃ spec i, (s.tunnel .localSide).bare? 0 = some (spec, i, .listenSide 0 n)
  fronts : (s.tunnel .localSide).m_poller.Fronts
  acks : .ack ∈ (s.half .remoteSide (Short.ofInt 0) (Short.ofInt 501)).inFlight

theorem Crowded.mapPoller (crowded : s.Crowded n) {f : Poller Polled → Poller Polled}
    (alike : (s.tunnel .localSide).m_poller.Alike (f (s.tunnel .localSide).m_poller))
    (fronts : (f (s.tunnel .localSide).m_poller).Fronts) :
    (s.mapPoller .localSide f).Crowded n where
  waitsEmpty := by
    rw [ends_mapPoller_self]
    exact crowded.waitsEmpty.mapPoller alike
  role := by
    rw [tunnel_mapPoller_self]
    exact crowded.role
  fronts := by
    rw [tunnel_mapPoller_self]
    exact fronts
  acks := by
    rw [half_mapPoller alike]
    exact crowded.acks

/-- One more client. -/
theorem Crowded.client (crowded : s.Crowded n) :
    ∃ ticks s', Run (LoopStepOf Step) s ticks s' ∧ s'.Crowded (int32 (n + 1)) ∧
      ∃ l, (s'.tunnel .localSide).link? 0 (Short.ofInt n) = some l ∧ l.m_closing = false ∧
        l.m_acknowledged = true := by
  let s₁ := s.mapPoller .localSide (·.beginRound Poller.firstOnly)
  have first : s₁.Crowded n :=
    crowded.mapPoller (.beginRound _ _) (crowded.fronts.beginRound _)
  obtain ⟨obeyed, entry, meets, polled, record⟩ := crowded.fronts.reported
  have meets : (s₁.tunnel .localSide).m_poller.Meets entry := by
    rw [tunnel_mapPoller_self]
    exact meets
  obtain ⟨spec, i, role⟩ := first.role
  let client : Event := ⟨entry.m_polled, entry.m_pollfd, {}⟩
  obtain ⟨e', result⟩ := (@Endpoint.listener_returns_iff _ client _ first.waitsEmpty 0 polled).mpr
    ⟨⟨spec, i, n, role⟩, rfl, rfl⟩
  have step : (s₁.ends .localSide).Step client e' := by
    refine ⟨⟨entry.m_pollfd, ?_, rfl⟩, ?_, result⟩
    · obtain ⟨inside, here⟩ := meets
      unfold Poller.entryAt at here
      split at here
      · refine List.mem_map_of_mem (List.mem_filter.mpr ⟨List.mem_of_getElem? here, ?_⟩)
        exact decide_eq_true rfl
      · cases here
    · unfold Event.Within
      rw [show client.polled = .listenSide 0 0 from polled]
      trivial
  have other : client.polled ≠ .stdioTunnel := by
    rw [show client.polled = .listenSide 0 0 from polled]
    exact nofun
  obtain ⟨spec', i', n', role', next, _, links⟩ := Endpoint.accepts first.waitsEmpty polled result
  rw [show (s₁.ends .localSide).tunnel.bare? 0 = _ from role] at role'
  cases role'
  have poller : ∃ fd, e'.tunnel.m_poller =
      (s₁.ends .localSide).tunnel.m_poller.setEvents .stdioTunnel fd POLLOUT := by
    obtain ⟨_, _, _, _, _, _, rfl⟩ := Endpoint.accepts_eq first.waitsEmpty polled result
    rw [Endpoint.tunnel_withTunnel]
    exact ⟨_, rfl⟩
  obtain ⟨fd, poller⟩ := poller
  have after : (s₁.acted .localSide e').Crowded (int32 (n + 1)) := by
    refine ⟨?_, ?_, ?_, ?_⟩
    · rw [ends_acted_self]
      exact first.waitsEmpty.step result
    · rw [tunnel_acted_self]
      exact ⟨_, _, next⟩
    · rw [tunnel_acted_self, poller]
      exact first.fronts.setEvents fd POLLOUT
    · exact (@inFlight_acted_other s₁ .localSide e' _ _).symm ▸ first.acks
  have advanced := after.mapPoller (f := .advance) (.advance _) after.fronts
  refine ⟨_, _, .cons (.poll obeyed) (.single (.dispatch meets ?_ (.object other step))), advanced,
    .create (Short.ofInt n) (s₁.ends .localSide).tunnel.os.next_socket, ?_, rfl, rfl⟩
  · rw [record]
    rfl
  · rw [tunnel_mapPoller_self]
    change ((s₁.acted .localSide e').tunnel .localSide).link? 0 (Short.ofInt n) = _
    rw [tunnel_acted_self, links, if_pos ⟨rfl, rfl⟩]

theorem Crowded.clients (crowded : s.Crowded 502) {count : Nat} (few : count ≤ 65535) :
    ∃ ticks s', Run (LoopStepOf Step) s ticks s' ∧ s'.Crowded (502 + count) := by
  induction count with
  | zero => exact ⟨[], s, .nil, crowded⟩
  | succ count ih =>
      obtain ⟨ticks, s₁, run, crowded₁⟩ := ih (Nat.le_of_succ_le few)
      obtain ⟨more, s', step, crowded', _⟩ := crowded₁.client
      have counts : int32 (502 + (count : Int) + 1) = 502 + ((count + 1 : Nat) : Int) := by
        rw [int32]
        omega
      rw [counts] at crowded'
      exact ⟨_, s', run.append step, crowded'⟩

def acknowledged : List Beat := waitsForAck ++ passesOn .localSide

theorem acknowledged_facts : (patients.beatAll? acknowledged).any (fun result =>
    let t := result.2.tunnel .localSide
    (result.2.half .remoteSide (Short.ofInt 0) (Short.ofInt 501)).inFlight.contains .ack &&
      (t.bare? 0).any (fun bare => bare.2.2 == .listenSide 0 502) &&
        (t.m_poller.m_polled[0]?).any fun entry => entry.m_polled == .listenSide 0 0 &&
          entry.m_pollfd.fd == 0 && entry.m_pollfd.events == POLLIN) = true := by
  decide +kernel

/-- A link that takes the place of another one gets the acknowledgement meant for that. -/
theorem not_stop_and_wait :
    ¬ ∀ (s s' : System) (ticks : List Tick) (side : Side) (conn id : Short) (l : ConnectionLink),
      s.Opened → s.Fits → Run (LoopStepOf Step) s ticks s' →
      (s'.tunnel side).link? conn.val id = some l → l.m_closing = false →
      (s'.window side conn id).outstanding ≤ 1 ∧
        (l.m_acknowledged = true → (s'.window side conn id).outstanding = 0) ∧
        (l.m_acknowledged = false → (s'.window side conn id).outstanding = 1 ∨
          (.close ∈ (s'.half side.other conn id).inFlight ∧
            ¬ Up (s'.half side.other conn id).phase)) := by
  intro always
  obtain ⟨⟨ticks, s⟩, beaten, known⟩ := (Option.any_eq_true _ _).mp acknowledged_facts
  simp only [Bool.and_eq_true, List.contains_iff_mem] at known
  obtain ⟨⟨acks, role⟩, front⟩ := known
  obtain ⟨⟨spec, i, role'⟩, bare, listens⟩ := (Option.any_eq_true _ _).mp role
  obtain rfl := beq_iff_eq.mp listens
  obtain ⟨entry, first, fields⟩ := (Option.any_eq_true _ _).mp front
  simp only [Bool.and_eq_true, beq_iff_eq] at fields
  have run := beatAll?_run beaten
  have looping := patients_opened.looping_run patients_fits run
  have crowded : s.Crowded 502 :=
    ⟨looping.waitsEmpty.ends _, ⟨spec, i, bare⟩, ⟨entry, first, fields.1.1, fields.1.2, fields.2⟩, acks⟩
  obtain ⟨_, s₁, clients, crowded₁⟩ := crowded.clients (Nat.le_refl 65535)
  obtain ⟨_, s', last, crowded', l, found, up, acked⟩ := crowded₁.client
  have same : Short.ofInt (502 + ((65535 : Nat) : Int)) = Short.ofInt 501 := by decide
  rw [same] at found
  obtain ⟨_, idle, _⟩ := always patients s' _ .localSide (Short.ofInt 0) (Short.ofInt 501) l
    patients_opened patients_fits ((run.mono LoopStepOf.any).append (clients.append last)) found up
  have none := idle acked
  have some' := List.count_pos_iff.mpr crowded'.acks
  change LinkMessage.packets _ + List.count .ack (s'.half .remoteSide _ _).inFlight = 0 at none
  omega

end System

end Tun01
