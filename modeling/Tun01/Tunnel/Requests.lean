import Tun01.Tunnel.Agreement
import Tun01.Tunnel.StopAndWait

/-!
# The request of the handshake

As long as the remote endpoint waits for the handshake it can handle the request
that is under way: a dispatch that completes a frame throws nothing if the calls
it makes succeed.
-/

namespace Tun01

open StdioTunnelLocal (Begun)
open StdioTunnelRemote (Lone)

namespace StdioTunnelRemote

variable {r r' : StdioTunnelRemote} {poll_struct : Pollfd} {calls : Calls}

/-! ## The socks5 server -/

/-- The server is started for the request, after which the endpoint no longer waits. -/
theorem processFrame_server (result : r.processFrame calls = .ok r')
    (waits : r'.m_state = .HANDSHAKING) : r'.m_socks5_server = r.m_socks5_server := by
  unfold processFrame at result
  obtain ⟨⟨command, t⟩, _, result⟩ := of_bind_ok result
  dsimp only at result
  split at result
  · split at result
    · cases result
    obtain ⟨⟨count, t₁⟩, _, result⟩ := of_bind_ok result
    obtain ⟨r₁, _, result⟩ := of_bind_ok result
    obtain ⟨t₂, _, result⟩ := of_bind_ok result
    obtain rfl := Except.ok.inj result
    cases waits
  · split at result
    · obtain rfl := Except.ok.inj result
      rfl
    split at result
    · cases result
    obtain ⟨⟨id, t₁⟩, _, result⟩ := of_bind_ok result
    obtain ⟨t₂, _, result⟩ := of_bind_ok result
    obtain rfl := Except.ok.inj result
    rfl
  · obtain rfl := Except.ok.inj result
    rfl

theorem polledStdin_server (result : r.polledStdin poll_struct calls = .ok r')
    (waits : r'.m_state = .HANDSHAKING) : r'.m_socks5_server = r.m_socks5_server := by
  unfold polledStdin at result
  cases failed : poll_struct.revents.failure with
  | true =>
      rw [failed] at result
      cases result
  | false =>
  cases ready : poll_struct.revents.POLLIN with
  | false =>
      rw [failed, ready] at result
      cases result
  | true =>
      rw [failed, ready] at result
      obtain ⟨stream, _, result⟩ := of_bind_ok result
      dsimp only at result
      split at result
      · exact processFrame_server (r := r.withReader stream) result waits
      · obtain rfl := Except.ok.inj result
        rfl

theorem polledStdout_server (result : r.polledStdout poll_struct calls = .ok r') :
    r'.m_socks5_server = r.m_socks5_server := by
  unfold polledStdout at result
  split at result
  · obtain rfl := Except.ok.inj result
    rfl
  · obtain ⟨⟨stream, after, taken⟩, _, result⟩ := of_bind_ok result
    dsimp only at result
    split at result <;> (obtain rfl := Except.ok.inj result; rfl)

theorem dispatch_server {event : Event}
    (result : r.dispatch event.polled event.poll_struct event.calls = .ok r')
    (waits : r'.m_state = .HANDSHAKING) : r'.m_socks5_server = r.m_socks5_server := by
  unfold dispatch at result
  split at result
  · unfold polled at result
    obtain ⟨r₁, reads, result⟩ := of_bind_ok result
    unfold onFd at reads result
    have second : r₁.m_state = .HANDSHAKING ∧ r'.m_socks5_server = r₁.m_socks5_server := by
      split at result
      · exact ⟨polledStdout_waiting result waits, polledStdout_server result⟩
      · obtain rfl := Except.ok.inj result
        exact ⟨waits, rfl⟩
    rw [second.2]
    split at reads
    · exact polledStdin_server reads second.1
    · obtain rfl := Except.ok.inj reads
      rfl
  · obtain ⟨t, _, result⟩ := of_bind_ok result
    obtain rfl := Except.ok.inj result
    rfl

end StdioTunnelRemote

/-- The command line names the socks5 server once at most. -/
theorem StdioTunnelLocal.Begun.socks5 {l : StdioTunnelLocal} (begun : Begun l) :
    l.m_connection_specs.countP ConnectionSpec.isSocks5 ≤ 1 := by
  obtain ⟨configured, pipes, start⟩ := begun
  rename_i l₀ read_fd write_fd calls
  obtain ⟨l₁, _, connects, rfl⟩ := StdioTunnelLocal.start_started
    (StdioTunnelLocal.configure_configures configured).state start
  have specs : l₁.m_connection_specs = l₀.m_connection_specs := by rw [connects.same]
  have once := StdioTunnelLocal.configure_socks5 configured
  rw [← specs] at once
  exact once

namespace System

variable {s s' : System} {side : Side} {event : Event} {tick : Tick} {ticks : List Tick}

/-! ## What the remote endpoint relies on -/

/-- No server was started, the ports are ports, and one connection at most needs the server. -/
structure Answerable (s : System) : Prop where
  idle : ∀ r, s.ends .remoteSide = .remoteEnd r → r.m_state = .HANDSHAKING →
    r.m_socks5_server = false
  ports : ∀ x spec listens, (s.tunnel .localSide).kind? x = some (spec, listens) →
    0 ≤ spec.m_connect_port ∧ spec.m_connect_port ≤ 65535
  single : ∀ x y spec spec' listens listens',
    (s.tunnel .localSide).kind? x = some (spec, listens) →
      (s.tunnel .localSide).kind? y = some (spec', listens') →
        spec.isSocks5 = true → spec'.isSocks5 = true → x = y

theorem Answerable.same (answerable : s.Answerable)
    (kind : ∀ x, (s'.tunnel .localSide).kind? x = (s.tunnel .localSide).kind? x)
    (server : ∀ r', s'.ends .remoteSide = .remoteEnd r' → r'.m_state = .HANDSHAKING →
      ∃ r, s.ends .remoteSide = .remoteEnd r ∧ r.m_state = .HANDSHAKING ∧
        r'.m_socks5_server = r.m_socks5_server) : s'.Answerable where
  idle := by
    intro r' isRemote waits
    obtain ⟨r, before, waits', same⟩ := server r' isRemote waits
    exact same.trans (answerable.idle r before waits')
  ports := by
    intro x spec listens known
    rw [kind] at known
    exact answerable.ports x spec listens known
  single := by
    intro x y spec spec' listens listens' known known'
    rw [kind] at known known'
    exact answerable.single x y spec spec' listens listens' known known'

theorem Step.answerable (step : Step s (side, event) s') (waitsEmpty : s.WaitsEmpty)
    (answerable : s.Answerable) : s'.Answerable := by
  obtain ⟨e, dispatched, after⟩ := step.ends
  obtain ⟨l, r, isLocal, isRemote⟩ := waitsEmpty.kinds
  cases side with
  | localSide =>
      have there : s'.ends .remoteSide = s.ends .remoteSide := by
        rw [after]
        exact Function.update_of_ne (Side.other_ne .localSide) _ _
      have turn := Endpoint.dispatch_turn (waitsEmpty.ends .localSide).keyed dispatched.result
      rw [isLocal] at turn
      refine answerable.same (fun x => ?_) fun r' is waits => ⟨r', there.symm.trans is, waits, rfl⟩
      unfold tunnel
      rw [after, Function.update_self, isLocal]
      exact turn.kind x
  | remoteSide =>
      have there : s'.ends .localSide = s.ends .localSide := by
        rw [after]
        exact Function.update_of_ne (Side.other_ne .remoteSide) _ _
      refine answerable.same (fun x => ?_) fun r' is waits => ⟨r, isRemote, ?_⟩
      · unfold tunnel
        rw [there]
      · rw [after, Function.update_self] at is
        have result := dispatched.result
        rw [is] at result
        obtain ⟨r₀, before, waits'⟩ := Endpoint.dispatch_waiting result waits
        rw [isRemote] at before result
        obtain rfl := Endpoint.remoteEnd.inj before
        obtain ⟨r₁, handled, same⟩ := of_map_ok result
        obtain rfl := Endpoint.remoteEnd.inj same
        exact ⟨waits', StdioTunnelRemote.dispatch_server handled waits⟩

theorem Answerable.mapPoller {f : Poller Polled → Poller Polled} (answerable : s.Answerable) :
    (s.mapPoller side f).Answerable := by
  refine answerable.same (fun x => kept_mapPoller (g := fun t => t.kind? x) (fun _ => rfl) _) ?_
  intro r' isRemote waits
  obtain ⟨t, is⟩ := @ends_mapPoller s side f .remoteSide
  rw [is] at isRemote
  generalize s.ends .remoteSide = e at isRemote
  cases e with
  | localEnd l => cases isRemote
  | remoteEnd r =>
      cases isRemote
      exact ⟨r, rfl, waits, rfl⟩

theorem LoopStep.answerable (step : LoopStep s tick s') (waitsEmpty : s.WaitsEmpty)
    (answerable : s.Answerable) : s'.Answerable := by
  cases step with
  | poll obeyed => exact answerable.mapPoller
  | pass meets idle => exact answerable.mapPoller
  | dispatch meets ready step => exact (step.1.answerable waitsEmpty answerable).mapPoller

theorem Opened.answerable (opened : s.Opened)
    (ports : ∀ c ∈ (s.tunnel .localSide).connections, c.2.m_connect_port ≤ 65535) :
    s.Answerable := by
  obtain ⟨begun, few, read, written, waits, passing, greets, once, remote⟩ := opened
  rename_i l events w w' event r write fcntl
  obtain ⟨d, passes, queued⟩ := greeted_passes begun waits passing greets once
  obtain ⟨populated, _, parsed⟩ := begun.populated few
  have later := populated.aside passes.aside
  have named : w'.endpoint.Named :=
    (greets.kept (Watched.kept_run begun (waits.mono And.left))).keyed.toNamed
  have socks5 := begun.socks5
  -- each connection is a specification, by position
  have listed : ∀ x spec listens, w'.endpoint.kind? x = some (spec, listens) →
      ∃ k : Nat, x = (Short.ofInt k).val ∧ l.m_connection_specs[k]? = some spec ∧
        (Short.ofInt k, spec) ∈ w'.endpoint.connections := by
    intro x spec listens known
    obtain ⟨⟨c, found, isSpec⟩, _⟩ := later.kind.mp known
    obtain ⟨k, spec', _, number, here, created⟩ := later.connections x c found
    rw [created.spec] at isSpec
    rw [isSpec] at here
    refine ⟨k, number, here, (StdioTunnel.mem_connections named).mpr ⟨c, ?_, ?_⟩⟩
    · rw [← number]
      exact found
    · rw [created.spec, isSpec]
  refine ⟨?_, fun x spec listens known => ?_, ?_⟩
  · rintro r' isRemote _
    obtain rfl := Endpoint.remoteEnd.inj isRemote
    obtain rfl := StdioTunnelRemote.start_waiting remote
    rfl
  · obtain ⟨k, _, here, member⟩ := listed x spec listens known
    obtain ⟨_, _, parses⟩ := parsed spec (List.mem_of_getElem? here)
    exact ⟨parses.connect_port, ports _ member⟩
  · intro x y spec spec' listens listens' known known' first second
    obtain ⟨k, number, here, _⟩ := listed x spec listens known
    obtain ⟨k', number', here', _⟩ := listed y spec' listens' known'
    rw [number, number', position_unique socks5 here here' first second]

theorem Opened.answerable_run (opened : s.Opened) (fits : s.Fits)
    (ports : ∀ c ∈ (s.tunnel .localSide).connections, c.2.m_connect_port ≤ 65535)
    (run : Run LoopStep s ticks s') : s'.Answerable := by
  induction run with
  | nil => exact opened.answerable ports
  | snoc earlier last ih => exact last.answerable (opened.looping_run fits earlier).waitsEmpty ih

/-! ## Frames are handled -/

/-- The list of the request is one the remote endpoint can work through. -/
theorem Answerable.lists (answerable : s.Answerable) {connections : List (Short × ConnectionSpec)}
    (lists : Lists (s.tunnel .localSide) connections) : Lone connections := by
  have same : ∀ c ∈ connections, c.2.received.isSocks5 = c.2.isSocks5 := by
    intro c member
    obtain ⟨lower, upper⟩ := answerable.ports _ _ _ (lists.known c member)
    exact c.2.received_isSocks5 lower upper
  refine (List.pairwise_map.mp lists.distinct).imp_of_mem fun {c d} inC inD other first => ?_
  refine eq_false_of_ne_true fun second => other (Short.val_injective ?_)
  rw [same c inC] at first
  rw [same d inD] at second
  exact answerable.single _ _ _ _ _ _ (lists.known c inC) (lists.known d inD) first second

variable {poll_struct : Pollfd} {calls : Calls} {got : List Byte} {stream : ReadStream}

theorem Joined.carriesLinks (joined : s.Joined) (inv : s.Inv) (x : Side) :
    (s.ends x).carriesLinks = true := by
  have framed := (inv.healthy x).framed
  have connected := joined.endpoint_connected inv.kinds x
  generalize s.ends x = e at framed connected
  cases framed with
  | localEnd state pipes read write => simpa [Endpoint.carriesLinks] using state
  | remoteEnd state => exact decide_eq_true (connected _ rfl)

/-- The frame that a dispatch completes is processed, the request as well as any other. -/
theorem Delivers.handled (delivers : s.Delivers side poll_struct calls got stream) (inv : s.Inv)
    (answerable : s.Answerable) (succeed : calls.Succeed) :
    ∃ e, (s.ends side).dispatch ⟨.stdioTunnel, poll_struct, calls⟩ = .ok e := by
  rcases inv.stage with greeting | joined
  swap
  · exact delivers.returns inv (joined.carriesLinks inv side)
  obtain ⟨fd, ready, reads, fills⟩ := delivers
  obtain ⟨outcome, intact⟩ := reads_of_fill inv.healthy ready reads fills
  rw [Endpoint.dispatch_read (inv.healthy side).framed fd ready fills]
  split
  swap
  · exact ⟨_, rfl⟩
  rename_i available
  cases outcome with
  | part queue underWay =>
      unfold ReadStream.available at available
      rw [queue] at available
      cases available
  | whole payload queue nonempty bounded underWay =>
      cases side with
      | localSide =>
          unfold Wire.underWay at underWay
          rw [show (s.wires Side.localSide.other).sent = [] from greeting.silent,
            List.drop_nil] at underWay
          cases underWay
      | remoteSide =>
          obtain ⟨connections, more, front, lists, _⟩ := greeting.request
          obtain ⟨_, r, _, isRemote⟩ := inv.kinds
          have waits := greeting.waiting r isRemote
          have oldest := underWay
          rw [show (s.wires Side.remoteSide.other).underWay = _ from front] at oldest
          rw [← (List.cons.inj oldest).1] at queue bounded
          have sound := (inv.healthy .remoteSide).sound
          have empty := greeting.empty
          unfold tunnel at sound empty
          rw [isRemote] at sound empty
          obtain ⟨r', handled, _⟩ := @StdioTunnelRemote.request_handled
            (r.withReader (stream.withQueue [])) calls connections (sound.withReader _) waits empty
            (answerable.idle r isRemote waits) succeed lists.few lists.distinct
            (answerable.lists lists) (fun c member => by
              have host := Message.host_le member
              omega)
          refine ⟨.remoteEnd r', ?_⟩
          rw [isRemote]
          change (StdioTunnelRemote.processFrame (r.withReader stream) calls).map _ = _
          have same : r.withReader stream = (r.withReader (stream.withQueue [])).reading
              (Message.handshake connections).payload := by
            rw [← queue]
            rfl
          rw [same, handled]
          rfl

end System

end Tun01
