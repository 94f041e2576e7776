import Tun01.Tunnel.Delivery

/-!
# Runs of a system

Every dispatch of either endpoint keeps the invariant as long as no listener
gives out an identifier that is in use, so it holds along every run with fewer
than 65536 clients for each connection.
-/

namespace Tun01

namespace Endpoint

variable {e e' : Endpoint} {event : Event} {poll_struct : Pollfd} {calls : Calls}

/-- A dispatch does not turn an endpoint into one of the other kind. -/
theorem dispatch_kind (result : e.dispatch event = .ok e') :
    (∀ l, e = localEnd l → ∃ l', e' = localEnd l') ∧
      ∀ r, e = remoteEnd r → ∃ r', e' = remoteEnd r' := by
  constructor
  · rintro l rfl
    obtain ⟨l', _, same⟩ := of_map_ok result
    exact ⟨l', same.symm⟩
  · rintro r rfl
    obtain ⟨r', _, same⟩ := of_map_ok result
    exact ⟨r', same.symm⟩

/-- The console of the remote endpoint has nothing to do. -/
theorem dispatch_idle {r : StdioTunnelRemote} (notRead : poll_struct.fd ≠ STDIN_FD)
    (notWrite : poll_struct.fd ≠ STDOUT_FD)
    (result : (remoteEnd r).dispatch ⟨.stdioTunnel, poll_struct, calls⟩ = .ok e') :
    e' = remoteEnd r := by
  obtain ⟨r', arm, rfl⟩ := of_map_ok result
  have idle := @StdioTunnelRemote.polled_other r calls _ notRead notWrite
  change StdioTunnelRemote.polled _ _ _ = _ at arm
  rw [idle] at arm
  rw [← Except.ok.inj arm]

end Endpoint

namespace System

variable {s s' : System} {side : Side} {e : Endpoint} {poll_struct : Pollfd} {calls : Calls}
  {got : List Byte} {stream : ReadStream}

/-- The endpoints after a dispatch of one of them. -/
theorem kinds_update {ends : Side → Endpoint} {event : Event}
    (kinds : ∃ l r, s.ends .localSide = .localEnd l ∧ s.ends .remoteSide = .remoteEnd r)
    (result : (s.ends side).dispatch event = .ok e) (here : ends side = e)
    (there : ends side.other = s.ends side.other) :
    ∃ l r, ends .localSide = .localEnd l ∧ ends .remoteSide = .remoteEnd r := by
  obtain ⟨l, r, isLocal, isRemote⟩ := kinds
  obtain ⟨keepsLocal, keepsRemote⟩ := Endpoint.dispatch_kind result
  cases side with
  | localSide =>
      obtain ⟨l', same⟩ := keepsLocal l isLocal
      exact ⟨l', r, here.trans same, there.trans isRemote⟩
  | remoteSide =>
      obtain ⟨r', same⟩ := keepsRemote r isRemote
      exact ⟨l, r', there.trans isLocal, here.trans same⟩

/-! ## Frames that are read -/

/-- A fill that completes no frame changes nothing about the links. -/
theorem consumed_calm (underWay : ((s.consumed side got stream).wires side.other).underWay =
    (s.wires side.other).underWay) : Calm s (s.consumed side got stream) := by
  have either : ∀ {motive : Side → Prop}, motive side → motive side.other → ∀ x, motive x := by
    intro motive here there x
    rcases side_cases side x with rfl | rfl
    · exact here
    · exact there
  refine ⟨consumed_sameStage, fun c => ?_, either (fun c => ?_) fun c => ?_,
    either (fun c i => ?_) fun c i => ?_, either ?_ ?_, either ?_ ?_, either ?_ underWay⟩
  · rcases side_cases side .remoteSide with here | there
    · rw [here, tunnel_consumed_self]
      rfl
    · rw [there, tunnel_consumed_other]
  · rw [tunnel_consumed_self]
    rfl
  · rw [tunnel_consumed_other]
  · rw [tunnel_consumed_self, linkEnd_withReader]
  · rw [tunnel_consumed_other]
  · rw [tunnel_consumed_self]
    rfl
  · rw [tunnel_consumed_other]
  · rw [wires_consumed_self]
  · rw [wires_consumed_other]
    rfl
  · rw [wires_consumed_self]

theorem Inv.ofDelivered (inv : s.Inv) (delivered : Delivered s s')
    (kinds : ∃ l r, s'.ends .localSide = .localEnd l ∧ s'.ends .remoteSide = .remoteEnd r) :
    s'.Inv where
  kinds := kinds
  healthy := delivered.healthy
  links := fun c i => LinkState.safe_of_steps (delivered.steps c i) (inv.links c i)
  stage := Or.inr delivered.joined

/-- What an endpoint does with what it has read. -/
inductive Receives (s : System) (side : Side) (got : List Byte) (stream : ReadStream)
    (connect : ConnectResult) (e : Endpoint) : Prop where
  | part (same : e = (s.consumed side got stream).ends side)
      (calm : Calm s (s.consumed side got stream))
  | request {payload : List Byte} (greeting : s.Greeting) (isRemote : side = .remoteSide)
      (underWay : (s.wires side.other).underWay =
        payload :: ((s.consumed side got stream).wires side.other).underWay)
      (same : ∀ c i, (∀ x, ((s.consumed side got stream).acted side e).half x c i = s.half x c i) ∧
        ((s.consumed side got stream).acted side e).link c i = s.link c i)
      (delivered : Delivered s ((s.consumed side got stream).acted side e))
  | message {payload : List Byte} (joined : s.Joined)
      (underWay : (s.wires side.other).underWay =
        payload :: ((s.consumed side got stream).wires side.other).underWay)
      (processed : Processed (s.consumed side got stream) side payload connect e)
      (delivered : Delivered s ((s.consumed side got stream).acted side e))

/-- The dispatch of the descriptor frames come from. -/
theorem Inv.receives (inv : s.Inv) (fd : poll_struct.fd = (s.ends side).readFd)
    (ready : poll_struct.revents = POLLIN)
    (reads : Pipeline.FillReads (s.reader side) (s.wires side.other).pipe calls.header
      calls.body got)
    (fills : (s.reader side).fill poll_struct calls.header calls.body = .ok stream)
    (result : (s.ends side).dispatch ⟨.stdioTunnel, poll_struct, calls⟩ = .ok e) :
    s.Receives side got stream calls.connect e ∧ ∀ x, (s.consumed side got stream).Healthy x := by
  obtain ⟨outcome, intact⟩ := reads_of_fill inv.healthy ready reads fills
  have healthy := consumed_healthy inv.healthy intact
  have handled := Endpoint.dispatch_read (inv.healthy side).framed fd ready fills
  rw [result] at handled
  refine ⟨?_, healthy⟩
  cases outcome with
  | part queue underWay =>
      have none : stream.available = false := by
        unfold ReadStream.available
        rw [queue]
        rfl
      have quiet : stream.withQueue [] = stream := by
        rw [← queue, ReadStream.withQueue_self]
      rw [none] at handled
      refine .part ?_ (consumed_calm underWay)
      rw [ends_consumed_self, quiet]
      exact Except.ok.inj handled
  | whole payload queue nonempty bounded underWay =>
      have more : stream.available = true := by
        unfold ReadStream.available
        rw [queue]
        cases payload with
        | nil => exact absurd rfl nonempty
        | cons _ _ => rfl
      rw [more] at handled
      rcases inv.stage with greeting | joined
      · obtain ⟨connections, rest, request, lists, expected⟩ := greeting.request
        cases side with
        | localSide =>
            change (s.wires .remoteSide).underWay = _ at underWay
            unfold Wire.underWay at underWay
            rw [greeting.silent, List.drop_nil] at underWay
            cases underWay
        | remoteSide =>
            have request' : (s.wires .localSide).underWay = _ := underWay
            rw [request] at request'
            obtain ⟨first, later⟩ := List.cons.inj request'
            obtain ⟨l, r, isLocal, isRemote⟩ := inv.kinds
            rw [isRemote] at handled
            obtain ⟨r', processed, rfl⟩ := of_map_ok handled.symm
            rw [← first] at queue bounded
            obtain ⟨delivered, untouched⟩ := greeting.delivered isRemote request lists expected healthy
              queue later.symm bounded processed
            exact .request greeting rfl underWay untouched delivered
      · obtain ⟨e', result', processed, delivered⟩ := joined.delivered inv.kinds healthy
          (fun c i => (inv.links c i).1) queue underWay calls
        have same : e = e' := Except.ok.inj (handled.trans result')
        rw [same]
        exact .message joined underWay processed delivered

/-- The dispatch of the descriptor frames come from keeps the invariant. -/
theorem Inv.read (inv : s.Inv) (fd : poll_struct.fd = (s.ends side).readFd)
    (ready : poll_struct.revents = POLLIN)
    (reads : Pipeline.FillReads (s.reader side) (s.wires side.other).pipe calls.header
      calls.body got)
    (fills : (s.reader side).fill poll_struct calls.header calls.body = .ok stream)
    (result : (s.ends side).dispatch ⟨.stdioTunnel, poll_struct, calls⟩ = .ok e) :
    ((s.filled side got stream).acted side e).Inv := by
  have kinds : ∃ l r, ((s.consumed side got stream).acted side e).ends .localSide = .localEnd l ∧
      ((s.consumed side got stream).acted side e).ends .remoteSide = .remoteEnd r :=
    kinds_update inv.kinds result (ends_acted_self _ side e)
      ((ends_acted_other _ side e).trans (ends_consumed_other s side got stream))
  obtain ⟨receives, healthy⟩ := inv.receives fd ready reads fills result
  rw [← acted_consumed]
  cases receives with
  | part same calm =>
      rw [same, acted_same]
      exact inv.calm calm healthy
  | request _ _ _ _ delivered => exact inv.ofDelivered delivered kinds
  | message _ _ _ delivered => exact inv.ofDelivered delivered kinds

/-! ## Writes and the console -/

/-- An endpoint that changed only its writer and its own records. -/
theorem Inv.beside {wires : Side → Wire} {writer : WriteStream} (inv : s.Inv)
    (kinds : ∃ l r, Function.update s.ends side e .localSide = .localEnd l ∧
      Function.update s.ends side e .remoteSide = .remoteEnd r)
    (remote : ∀ r', e = .remoteEnd r' → ∃ r, s.ends side = .remoteEnd r ∧ r'.m_state = r.m_state)
    (framed : e.Framed)
    (beside : StdioTunnel.Beside ((s.tunnel side).mapWriter fun _ => writer) e.tunnel)
    (fields : writer.m_queue = []) (sent : ∀ x, (wires x).sent = (s.wires x).sent)
    (underWay : ∀ x, (wires x).underWay = (s.wires x).underWay)
    (intact : ∀ x, (pipeline ⟨Function.update s.ends side e, wires, s.brought⟩ x).Intact) :
    Inv ⟨Function.update s.ends side e, wires, s.brought⟩ := by
  obtain ⟨s', isAfter⟩ : ∃ s', s' = System.mk (Function.update s.ends side e) wires s.brought :=
    ⟨_, rfl⟩
  rw [← isAfter] at intact ⊢
  have here : s'.ends side = e := by
    rw [isAfter]
    exact Function.update_self side e s.ends
  have there : s'.ends side.other = s.ends side.other := by
    rw [isAfter]
    exact Function.update_of_ne side.other_ne e s.ends
  have near : s'.tunnel side = e.tunnel := by
    unfold tunnel
    rw [here]
  have far : s'.tunnel side.other = s.tunnel side.other := by
    unfold tunnel
    rw [there]
  have either : ∀ {motive : Side → Prop}, motive side → motive side.other → ∀ x, motive x := by
    intro motive own other x
    rcases side_cases side x with rfl | rfl
    · exact own
    · exact other
  have own := inv.healthy side
  have connection : ∀ c, e.tunnel.connection? c = (s.tunnel side).connection? c :=
    beside.connection?
  have bare : ∀ c, e.tunnel.bare? c = (s.tunnel side).bare? c := beside.bare?
  have kind : ∀ c, e.tunnel.kind? c = (s.tunnel side).kind? c :=
    fun c => StdioTunnel.kind?_of_bare bare c
  have linkEnd : ∀ c i, e.tunnel.linkEnd c i = (s.tunnel side).linkEnd c i := beside.looks.linkEnd
  have os : e.tunnel.os = (s.tunnel side).os := beside.os
  have sound : ((s.tunnel side).mapWriter fun _ => writer).Sound :=
    ⟨⟨own.sound.ready.poller, fields⟩, own.sound.os, own.sound.keys, own.sound.listeners,
      fun c i => ⟨(own.sound.links c i).link, (own.sound.links c i).registered⟩⟩
  have calm : Calm s s' := by
    refine ⟨⟨fun _ => ?_, ?_⟩, fun c => ?_, either (fun c => ?_) fun c => ?_,
      either (fun c i => ?_) fun c i => ?_, either ?_ ?_, ?_, ?_⟩
    · rw [isAfter]
      exact kinds
    · intro r' isRemote
      rcases side_cases side .remoteSide with same | other
      · rw [same, here] at isRemote
        rw [same]
        exact remote r' isRemote
      · rw [other, there] at isRemote
        rw [other]
        exact ⟨r', isRemote, rfl⟩
    · rcases side_cases side .remoteSide with same | other
      · rw [same, near]
        exact connection c
      · rw [other, far]
    · rw [near]
      exact kind c
    · rw [far]
    · rw [near]
      exact linkEnd c i
    · rw [far]
    · rw [near]
      exact os
    · rw [far]
    · rw [isAfter]
      exact sent
    · rw [isAfter]
      exact underWay
  refine inv.calm calm (either ?_ ?_)
  · refine ⟨?_, ?_, ?_, ?_, intact side, ?_, ?_⟩
    · rw [near]
      exact beside.looks.side.trans own.sameSide
    · rw [here]
      exact framed
    · rw [near]
      exact beside.sound sound
    · rw [near]
      refine own.numbered.same bare ?_
      rw [os]
    · unfold System.reader
      rw [near, beside.reader]
      exact own.quiet
    · rw [calm.sent]
      exact own.whole
  · have other := inv.healthy side.other
    refine ⟨?_, ?_, ?_, ?_, intact side.other, ?_, ?_⟩
    · rw [far]
      exact other.sameSide
    · rw [there]
      exact other.framed
    · rw [far]
      exact other.sound
    · rw [far]
      exact other.numbered
    · unfold System.reader
      rw [far]
      exact other.quiet
    · rw [calm.sent]
      exact other.whole

/-- The pipe of an endpoint whose writer changed. -/
theorem pipeline_written {wires : Side → Wire} {writer : WriteStream} (near : e.tunnel.m_read_stream = s.reader side)
    (written : e.tunnel.m_write_stream.toWriteStream = writer)
    (others : wires side.other = s.wires side.other) :
    pipeline ⟨Function.update s.ends side e, wires, s.brought⟩ side =
        { s.pipeline side with
          writer := writer
          pipe := (wires side).pipe
          sent := (wires side).sent
          appended := (wires side).appended
          received := (wires side).received } ∧
      pipeline ⟨Function.update s.ends side e, wires, s.brought⟩ side.other =
        s.pipeline side.other := by
  have here : Function.update s.ends side e side = e := Function.update_self side e s.ends
  have there : Function.update s.ends side e side.other = s.ends side.other :=
    Function.update_of_ne side.other_ne e s.ends
  constructor
  · unfold pipeline System.writer System.reader tunnel
    dsimp only
    rw [here, there, written]
  · unfold pipeline System.writer System.reader tunnel
    dsimp only
    rw [Side.other_other, here, there, others, near]
    rfl

/-- The dispatch of the descriptor frames go to keeps the invariant. -/
theorem Inv.write {after : Pollfd} {count : Nat} {writer : WriteStream} {taken : List Byte}
    (inv : s.Inv) (fd : poll_struct.fd = (s.ends side).writeFd)
    (ready : poll_struct.revents = POLLOUT) (writes : calls.write = .ok count)
    (within : ∀ front rest, (s.writer side).m_packet_queue = front :: rest →
      count ≤ front.request)
    (empties : (s.writer side).empty poll_struct calls.write = .ok (writer, after, taken))
    (result : (s.ends side).dispatch ⟨.stdioTunnel, poll_struct, calls⟩ = .ok e) :
    Inv { s with
      ends := Function.update s.ends side e
      wires := Function.update s.wires side ((s.wires side).gave taken) } := by
  have own := inv.healthy side
  obtain ⟨t, handled, beside⟩ := Endpoint.dispatch_write own.framed fd ready empties
  have same : e = (s.ends side).withTunnel t := Except.ok.inj (result.symm.trans handled)
  have tunnel' : e.tunnel = t := by
    rw [same, Endpoint.tunnel_withTunnel]
  have here : Function.update s.wires side ((s.wires side).gave taken) side =
      (s.wires side).gave taken := Function.update_self side _ s.wires
  have there : Function.update s.wires side ((s.wires side).gave taken) side.other =
      s.wires side.other := Function.update_of_ne side.other_ne _ s.wires
  have either : ∀ {motive : Side → Prop}, motive side → motive side.other → ∀ x, motive x := by
    intro motive near far x
    rcases side_cases side x with rfl | rfl
    · exact near
    · exact far
  obtain ⟨near, far⟩ := @pipeline_written s side e
    (Function.update s.wires side ((s.wires side).gave taken)) writer
    (by rw [tunnel', beside.reader]; rfl) (by rw [tunnel', beside.writer]; rfl) there
  have fields : writer.m_queue = [] :=
    (WriteStream.empty_queue empties).trans own.sound.ready.fields
  rw [writes] at empties
  refine @Inv.beside s side e _ writer inv ?_ ?_ ?_ ?_ fields ?_ ?_ ?_
  · exact kinds_update inv.kinds result (Function.update_self side e s.ends)
      (Function.update_of_ne side.other_ne e s.ends)
  · intro r' isRemote
    rw [same] at isRemote
    cases before : s.ends side with
    | localEnd l =>
        rw [before] at isRemote
        cases isRemote
    | remoteEnd r =>
        rw [before] at isRemote
        refine ⟨r, rfl, ?_⟩
        rw [← Endpoint.remoteEnd.inj isRemote]
  · rw [same]
    exact own.framed.withTunnel t
  · rw [tunnel']
    exact beside
  · refine either ?_ ?_
    · rw [here]
      rfl
    · rw [there]
  · refine either ?_ ?_
    · rw [here]
      rfl
    · rw [there]
  · refine either ?_ ?_
    · rw [near, here]
      exact own.intact.steps (.single (.empty _ within empties))
    · rw [far]
      exact (inv.healthy side.other).intact

/-- The dispatch of any other descriptor keeps the invariant. -/
theorem Inv.console (inv : s.Inv) (notRead : poll_struct.fd ≠ (s.ends side).readFd)
    (notWrite : poll_struct.fd ≠ (s.ends side).writeFd)
    (result : (s.ends side).dispatch ⟨.stdioTunnel, poll_struct, calls⟩ = .ok e) :
    Inv { s with ends := Function.update s.ends side e } := by
  have own := inv.healthy side
  obtain ⟨beside, _, _, framed⟩ :=
    Endpoint.dispatch_console own.framed notRead notWrite result
  obtain ⟨near, far⟩ := @pipeline_written s side e s.wires (s.writer side)
    (by rw [beside.reader]; rfl) (by rw [beside.writer]; rfl) rfl
  refine @Inv.beside s side e s.wires (s.writer side) inv ?_ ?_ framed beside own.sound.ready.fields
    (fun _ => rfl) (fun _ => rfl) fun x => ?_
  · exact kinds_update inv.kinds result (Function.update_self side e s.ends)
      (Function.update_of_ne side.other_ne e s.ends)
  · intro r' isRemote
    cases before : s.ends side with
    | localEnd l =>
        rw [before] at result
        obtain ⟨l', same⟩ := (Endpoint.dispatch_kind result).1 l rfl
        rw [same] at isRemote
        cases isRemote
    | remoteEnd r =>
        rw [before] at result notRead notWrite
        have same := Endpoint.dispatch_idle notRead notWrite result
        rw [same] at isRemote
        exact ⟨r, rfl, by rw [← Endpoint.remoteEnd.inj isRemote]⟩
  · rcases side_cases side x with rfl | rfl
    · rw [near]
      exact own.intact
    · rw [far]
      exact (inv.healthy _).intact

/-- Calls on the descriptor of the socks5 server keep the invariant. -/
theorem Inv.serves (inv : s.Inv) (call : ServerCall) :
    Inv { s with ends := Function.update s.ends side (s.serving side call) } := by
  have own := inv.healthy side
  have beside : StdioTunnel.Beside ((s.tunnel side).mapWriter fun _ => s.writer side)
      (s.serving side call).tunnel := by
    rw [tunnel_serving]
    exact .serve (s.tunnel side) call
  obtain ⟨near, far⟩ := @pipeline_written s side (s.serving side call) s.wires (s.writer side)
    (by rw [beside.reader]; rfl) (by rw [beside.writer]; rfl) rfl
  refine @Inv.beside s side _ s.wires (s.writer side) inv ?_ ?_ (own.framed.withTunnel _) beside
    own.sound.ready.fields (fun _ => rfl) (fun _ => rfl) fun x => ?_
  · obtain ⟨l, r, isLocal, isRemote⟩ := inv.kinds
    cases side with
    | localSide => exact ⟨_, r, by rw [Function.update_self, serving, isLocal]; rfl, isRemote⟩
    | remoteSide => exact ⟨l, _, isLocal, by rw [Function.update_self, serving, isRemote]; rfl⟩
  · intro r' isRemote
    unfold serving at isRemote
    cases before : s.ends side with
    | localEnd l =>
        rw [before] at isRemote
        cases isRemote
    | remoteEnd r =>
        rw [before] at isRemote
        exact ⟨r, rfl, by rw [← Endpoint.remoteEnd.inj isRemote]⟩
  · rcases side_cases side x with rfl | rfl
    · rw [near]
      exact own.intact
    · rw [far]
      exact (inv.healthy _).intact

/-- The dispatch of a link or a listener keeps the invariant. -/
theorem Inv.object (inv : s.Inv) {event : Event} (other : event.polled ≠ .stdioTunnel)
    (step : (s.ends side).Step event e) (clear : Clear (s.tunnel side) event) :
    (s.acted side e).Inv := by
  rcases inv.object_outcome other step clear with ⟨call, rfl⟩ | ⟨t, conn, id, opened, moves, rfl,
    outcome, far, links⟩
  · rw [acted_serve]
    exact inv.serves call
  obtain ⟨healthy, played, more, expected, underWay⟩ := acted_outcome inv.healthy rfl
    (e := (s.ends side).withTunnel t) (by rw [Endpoint.tunnel_withTunnel]; exact outcome)
  have stage := @acted_sameStage s side ((s.ends side).withTunnel t) _ rfl
  refine ⟨stage.kinds inv.kinds, healthy,
    fun c i => LinkState.safe_of_steps (links played c i) (inv.links c i), ?_⟩
  rcases inv.stage with greeting | joined
  · cases side with
    | localSide => exact Or.inl (greeting.acted stage played.kind expected underWay)
    | remoteSide => exact absurd greeting (far rfl)
  · exact Or.inr (joined.acted stage played.kind expected underWay)

/-! ## Steps -/

/-- Every step keeps the invariant, if the listener it dispatches has a free identifier. -/
theorem Step.inv {event : Event} (step : Step s (side, event) s') (inv : s.Inv)
    (clear : Clear (s.tunnel side) event) : s'.Inv := by
  cases step with
  | object other step => exact inv.object other step clear
  | read fd ready reads fills step => exact inv.read fd ready reads fills step.result
  | write fd ready writes within empties step =>
      exact inv.write fd ready writes within empties step.result
  | console notRead notWrite step => exact inv.console notRead notWrite step.result

end System

end Tun01
