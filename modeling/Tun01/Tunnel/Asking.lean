import Tun01.Tunnel.StopAndWait

/-!
# Records for the pipes

While both loops run each endpoint asks for input on the pipe that frames come
from, and for output on the pipe they go to as long as frames wait.
-/

namespace Tun01

open Poller (Works)

/-! ## The local endpoint before the magic string -/

namespace StdioTunnelLocal

variable {l l' : StdioTunnelLocal} {event : Event}

/-- The record for the pipe is set for the frames, whatever the dispatch was told about it. -/
theorem dispatch_passing (keyed : l.Keyed) (passing : l.m_state = .PASS_THROUGH) (piped : l.Piped)
    (result : l.dispatch event.polled event.poll_struct event.calls = .ok l') : l'.Piped := by
  unfold dispatch at result
  split at result
  · unfold polled at result
    rw [passing] at result
    exact polledPassThrough_piped keyed passing piped result
  · obtain ⟨t, handled, result⟩ := of_bind_ok result
    obtain rfl := Except.ok.inj result
    have arms := StdioTunnel.Arms.object keyed handled
    exact ⟨arms.fd.trans piped.fd, piped.pipes, piped.stdin, piped.stdout,
      piped.once.object keyed handled, fun past => arms.kept (piped.armed past)⟩

end StdioTunnelLocal

/-! ## Flags of the records -/

namespace StdioTunnel

variable {t : StdioTunnel} {f : Poller Polled → Poller Polled} {fd : Int}
  (alike : t.m_poller.Alike (f t.m_poller))

include alike

/-- The records for a descriptor are the same, flags aside. -/
theorem own_mapPoller :
    ((t.mapPoller f).own fd).map (fun record => { record with revents := .zero }) =
      (t.own fd).map fun record => { record with revents := .zero } := by
  have calm : ∀ records : List Pollfd,
      (recordsAt fd records).map (fun record => { record with revents := .zero }) =
        recordsAt fd (records.map fun record => { record with revents := .zero }) := by
    intro records
    unfold recordsAt
    rw [List.filter_map]
    rfl
  unfold own
  rw [calm, calm]
  exact congrArg (recordsAt fd) (alike.registrations .stdioTunnel)

theorem own_one_mapPoller {record : Pollfd} (one : t.own fd = [record]) :
    ∃ after, (t.mapPoller f).own fd = [after] ∧ after.events = record.events := by
  have same := @own_mapPoller t f fd alike
  rw [one, List.map_singleton] at same
  obtain ⟨after, is, calm⟩ := List.map_eq_singleton_iff.mp same
  obtain ⟨_, events, _⟩ := Pollfd.mk.inj calm
  exact ⟨after, is, events⟩

theorem mem_own_mapPoller {record : Pollfd} (member : record ∈ t.own fd) :
    ∃ after ∈ (t.mapPoller f).own fd, after.events = record.events := by
  have calm := List.mem_map_of_mem (f := fun record : Pollfd =>
    { record with revents := .zero }) member
  rw [← own_mapPoller alike] at calm
  obtain ⟨after, there, same⟩ := List.mem_map.mp calm
  obtain ⟨_, events, _⟩ := Pollfd.mk.inj same
  exact ⟨after, there, events⟩

theorem Armed.mapPoller (armed : t.Armed) : (t.mapPoller f).Armed := by
  obtain ⟨record, one, asks⟩ := armed
  obtain ⟨after, one', events⟩ := own_one_mapPoller alike one
  exact ⟨after, one', fun pending => by rw [events]; exact asks pending⟩

theorem Once.mapPoller (once : t.Once fd) : (t.mapPoller f).Once fd := by
  obtain ⟨record, one⟩ := once
  obtain ⟨after, one', _⟩ := own_one_mapPoller alike one
  exact ⟨after, one'⟩

end StdioTunnel

/-! ## Either endpoint -/

namespace Endpoint

variable {e e' : Endpoint} {event : Event} {f : Poller Polled → Poller Polled}

/-- The descriptors of the pipes stay. -/
theorem dispatch_fds (keyed : e.tunnel.Keyed) (apart : e.Apart) (result : e.dispatch event = .ok e') :
    e'.readFd = e.readFd ∧ e'.writeFd = e.writeFd := by
  cases e with
  | localEnd l =>
      obtain ⟨l', dispatched, rfl⟩ := of_map_ok result
      cases StdioTunnelLocal.dispatch_advance keyed (apart l rfl).1 dispatched with
      | passes self state passes => exact ⟨passes.read_fd, passes.write_fd⟩
      | speaks queues plain state idle read_fd write_fd => exact ⟨read_fd, write_fd⟩
  | remoteEnd r =>
      obtain ⟨r', _, rfl⟩ := of_map_ok result
      exact ⟨rfl, rfl⟩

theorem Piped.apart (piped : e.Piped) : e.Apart := by
  rintro l rfl
  have own : l.Piped := piped
  exact ⟨own.pipes, own.stdin, own.stdout⟩

theorem Piped.fd (piped : e.Piped) : e.tunnel.m_write_stream.m_fd = e.writeFd := by
  cases e with
  | localEnd l => exact StdioTunnelLocal.Piped.fd piped
  | remoteEnd r => exact StdioTunnelRemote.Piped.fd piped

/-- Input is asked for, and no call of the endpoint is about that descriptor. -/
structure Listening (e : Endpoint) : Prop where
  permits : e.Permits (· ≠ e.readFd)
  record : ∃ record ∈ e.tunnel.own e.readFd, record.events.POLLIN = true

theorem Listening.step (listening : e.Listening) (keyed : e.tunnel.Keyed) (apart : e.Apart)
    (result : e.dispatch event = .ok e') : e'.Listening := by
  obtain ⟨read_fd, _⟩ := dispatch_fds keyed apart result
  obtain ⟨drives, permits⟩ := dispatch_drives keyed listening.permits result
  obtain ⟨record, member, asks⟩ := listening.record
  have same : e'.tunnel.own e.readFd = e.tunnel.own e.readFd :=
    drives.works.spares fun no => no rfl
  refine ⟨?_, record, ?_, asks⟩
  · rw [read_fd]
    exact permits
  · rw [read_fd, same]
    exact member

/-- Both pipes are polled. -/
structure Polling (e : Endpoint) : Prop extends Listening e where
  piped : e.Piped

theorem Polling.step (polling : e.Polling) (waitsEmpty : e.WaitsEmpty) (polls : e.Polls event e') :
    e'.Polling where
  toListening := polling.toListening.step waitsEmpty.keyed polling.piped.apart polls.step.result
  piped := polling.piped.step waitsEmpty polls

theorem Polling.mapPoller (polling : e.Polling)
    (alike : e.tunnel.m_poller.Alike (f e.tunnel.m_poller)) : (e.mapPoller f).Polling := by
  obtain ⟨⟨permits, record, member, asks⟩, piped⟩ := polling
  obtain ⟨after, there, events⟩ := StdioTunnel.mem_own_mapPoller alike member
  rw [← events] at asks
  cases e with
  | localEnd l =>
      have piped : l.Piped := piped
      refine ⟨⟨?_, after, there, asks⟩, ?_⟩
      · exact ⟨permits.stdin, permits.stdout, permits.writer, permits.write_fd⟩
      · exact ⟨piped.fd, piped.pipes, piped.stdin, piped.stdout, piped.once.mapPoller alike,
          fun past => (piped.armed past).mapPoller alike⟩
  | remoteEnd r =>
      have piped : r.Piped := piped
      exact ⟨⟨permits, after, there, asks⟩, piped.fd, piped.armed.mapPoller alike⟩

/-- When the polling loop begins both pipes are polled. -/
theorem Started.polling (started : e.Started) (apart : e.Apart)
    (read : ∀ l, e = .localEnd l → l.m_read_fd ≠ STDIN_FD ∧ l.m_read_fd ≠ STDOUT_FD) :
    e.Polling := by
  refine ⟨?_, started.piped apart⟩
  cases started with
  | @localEnd _ _ l l' read_fd write_fd calls configured start =>
      have configures := StdioTunnelLocal.configure_configures configured
      obtain ⟨l₁, creates, connects, rfl⟩ := StdioTunnelLocal.start_started configures.state start
      obtain ⟨pipes, _, _⟩ := apart _ rfl
      obtain ⟨stdin, stdout⟩ := read _ rfl
      have write_fd' : write_fd = l₁.m_write_fd := by rw [connects.same]
      refine ⟨⟨stdin.symm, stdout.symm, ?_, pipes.symm⟩, ⟨l₁.m_read_fd, POLLIN, .zero⟩, ?_, rfl⟩
      · change write_fd ≠ l₁.m_read_fd
        rw [write_fd']
        exact pipes.symm
      · change _ ∈ ((((l₁.armed write_fd).toStdioTunnel.addPolled .stdioTunnel STDIN_FD
          POLLIN).addPolled .stdioTunnel STDOUT_FD .zero).addPolled .stdioTunnel l₁.m_read_fd
          POLLIN |>.addPolled .stdioTunnel l₁.m_write_fd .zero).own l₁.m_read_fd
        rw [StdioTunnel.own_addPolled, StdioTunnel.own_addPolled _ l₁.m_read_fd, if_pos rfl]
        exact List.mem_append_left _ (List.mem_append_right _ List.mem_cons_self)
  | remoteEnd start =>
      obtain rfl := StdioTunnelRemote.start_waiting start
      refine ⟨⟨?_, ?_⟩, ⟨STDIN_FD, POLLIN, .zero⟩, List.mem_cons_self, rfl⟩
      · decide
      · decide

end Endpoint

namespace Watched

variable {w w' : Watched} {l : StdioTunnelLocal} {event : Event} {events : List Event}

open StdioTunnelLocal (Begun)

/-- The endpoint looks after the standard streams only at first. -/
theorem Step.passing (step : Step w event w') (kept : w.Kept)
    (passing : w'.endpoint.m_state = .PASS_THROUGH) : w.endpoint.m_state = .PASS_THROUGH := by
  cases step.advance kept with
  | passes self state passes => exact state
  | speaks queues plain state idle read_fd write_fd =>
      rcases state with same | ⟨_, connected⟩
      · exact same.symm.trans passing
      · rw [passing] at connected
        cases connected

theorem Step.polling (step : Step w event w') (kept : w.Kept)
    (passing : w.endpoint.m_state = .PASS_THROUGH)
    (polling : (Endpoint.localEnd w.endpoint).Polling) :
    (Endpoint.localEnd w'.endpoint).Polling where
  toListening := polling.toListening.step kept.keyed polling.piped.apart step.step.result
  piped := StdioTunnelLocal.dispatch_passing kept.keyed passing polling.piped step.result

theorem polling_run (begun : Begun l) (run : Run Step (start l) events w)
    (passing : w.endpoint.m_state = .PASS_THROUGH) (polling : (Endpoint.localEnd l).Polling) :
    (Endpoint.localEnd w.endpoint).Polling := by
  induction run with
  | nil => exact polling
  | snoc earlier last ih =>
      have kept := kept_run begun earlier
      have before := last.passing kept passing
      exact last.polling kept before (ih before)

end Watched

/-! ## Both loops -/

theorem Poller.Meets.registered {ρ : Type} [DecidableEq ρ] {p : Poller ρ}
    {entry : PolledAndPollfd ρ} (meets : p.Meets entry) :
    entry.m_pollfd ∈ p.registrations entry.m_polled := by
  have here := meets.2
  unfold Poller.entryAt at here
  split at here
  · refine List.mem_map_of_mem (List.mem_filter.mpr ⟨List.mem_of_getElem? here, ?_⟩)
    exact decide_eq_true rfl
  · cases here

namespace System

variable {s s' : System} {side : Side} {tick : Tick} {ticks : List Tick} {event : Event}

/-- The pipes of the local endpoint are not its standard input. -/
structure Apart (s : System) : Prop where
  read : (s.ends .localSide).readFd ≠ STDIN_FD
  write : (s.ends .localSide).writeFd ≠ STDIN_FD

theorem Opened.polling (opened : s.Opened) (apart : s.Apart) (x : Side) : (s.ends x).Polling := by
  obtain ⟨begun, specs, read, written, waits, passing, greets, once, remote⟩ := opened
  rename_i l events w w' event r write fcntl
  cases x with
  | localSide =>
      obtain ⟨notRead, notWrite⟩ := apart
      have run := waits.mono And.left
      have kept := Watched.kept_run begun run
      obtain ⟨_, first⟩ := Watched.passes_run begun waits passing
      have fds : w'.endpoint.m_read_fd = l.m_read_fd ∧ w'.endpoint.m_write_fd = l.m_write_fd := by
        cases greets.advance kept with
        | passes self state passes =>
            exact ⟨passes.read_fd.trans first.read_fd, passes.write_fd.trans first.write_fd⟩
        | speaks queues plain state idle read_fd write_fd =>
            exact ⟨read_fd.trans first.read_fd, write_fd.trans first.write_fd⟩
      change w'.endpoint.m_read_fd ≠ STDIN_FD at notRead
      change w'.endpoint.m_write_fd ≠ STDIN_FD at notWrite
      rw [fds.1] at notRead
      rw [fds.2] at notWrite
      have start : (Endpoint.localEnd l).Polling := by
        refine begun.started.polling ?_ ?_
        · rintro _ ⟨⟩
          exact ⟨begun.poised.pipes, notWrite.symm, written.symm⟩
        · rintro _ ⟨⟩
          exact ⟨notRead, read⟩
      exact greets.polling kept passing (Watched.polling_run begun run passing start)
  | remoteSide =>
      refine (Endpoint.Started.remoteEnd remote).polling ?_ ?_
      · rintro l no
        cases no
      · rintro l no
        cases no

/-- A dispatch of one of the endpoints that `poll` may lead to. -/
theorem Step.polling (step : Step s (side, event) s') (waitsEmpty : s.WaitsEmpty)
    (record : ∃ record ∈ (s.tunnel side).registrations event.polled,
      record.fd = event.poll_struct.fd ∧ record.events = event.poll_struct.events)
    (polling : ∀ x, (s.ends x).Polling) (x : Side) : (s'.ends x).Polling := by
  obtain ⟨e, dispatched, after⟩ := step.ends
  rw [after]
  rcases side_cases side x with rfl | rfl
  · rw [Function.update_self]
    exact (polling x).step (waitsEmpty.ends x) ⟨dispatched, record⟩
  · rw [Function.update_of_ne side.other_ne]
    exact polling side.other

theorem LoopStep.polling (step : LoopStep s tick s') (waitsEmpty : s.WaitsEmpty)
    (polling : ∀ x, (s.ends x).Polling) (x : Side) : (s'.ends x).Polling := by
  have moved : ∀ {t : System} {side : Side} {f : Poller Polled → Poller Polled},
      (∀ x, (t.ends x).Polling) → (t.tunnel side).m_poller.Alike (f (t.tunnel side).m_poller) →
        ((t.mapPoller side f).ends x).Polling := by
    intro t side f polling alike
    rcases side_cases side x with rfl | rfl
    · rw [ends_mapPoller_self]
      exact (polling x).mapPoller alike
    · rw [ends_mapPoller_other]
      exact polling _
  cases step with
  | poll obeyed => exact moved polling (.beginRound _ _)
  | pass meets idle => exact moved polling (.advance _)
  | dispatch meets ready step =>
      refine moved (fun x => step.1.polling waitsEmpty ⟨_, meets.registered, rfl, rfl⟩ polling x) ?_
      exact .advance _

theorem Opened.polling_run (opened : s.Opened) (fits : s.Fits) (apart : s.Apart)
    (run : Run LoopStep s ticks s') (x : Side) : (s'.ends x).Polling := by
  induction run generalizing x with
  | nil => exact opened.polling apart x
  | snoc earlier last ih => exact last.polling (opened.looping_run fits earlier).waitsEmpty ih x

end System

end Tun01
