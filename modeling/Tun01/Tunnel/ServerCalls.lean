import Tun01.Tunnel.Start
import Tun01.Tunnel.Descriptors

/-!
# The listening descriptor of the socks5 server

The server belongs to the remote endpoint and is set up in the handshake.  Its
descriptor is accepted on whenever it is dispatched, and closed when the polling
loop ends.
-/

namespace Tun01

open StdioTunnel (Aside)

namespace ServerCall

def fd : ServerCall → Int
  | accepts fd | closed fd => fd

def closes : ServerCall → Bool
  | accepts _ => false
  | closed _ => true

end ServerCall

namespace StdioTunnel

variable {t t' : StdioTunnel} {ops : List Operation}

/-- The descriptor of the socks5 server was closed. -/
def ServerClosed (t : StdioTunnel) (fd : Int) : Prop :=
  Ledger.Released ServerCall.fd ServerCall.closes t.socks5_calls fd

/-- No call is made on the descriptor of the socks5 server after it was closed. -/
def ServerSealed (t : StdioTunnel) : Prop :=
  Ledger.Sealed ServerCall.fd ServerCall.closes t.socks5_calls

/-- The descriptor of an object that is registered was closed. -/
def Shut (t : StdioTunnel) : Polled → Int → Prop
  | .listenSide _ socket, _ | .connectionLink _ _ socket, _ => t.os.Closed socket
  | .socks5Server, fd => t.ServerClosed fd
  | .stdioTunnel, _ => False

/-- No call is made on a descriptor that was closed; in particular it is closed once. -/
structure ClosesOnce (t : StdioTunnel) : Prop where
  sockets : t.os.Sealed
  server : t.ServerSealed

/-- The same calls were made on descriptors. -/
structure SameCalls (t t' : StdioTunnel) : Prop where
  os : t'.os = t.os
  server : t'.socks5_calls = t.socks5_calls

theorem SameCalls.trans {t'' : StdioTunnel} (first : SameCalls t t') (second : SameCalls t' t'') :
    SameCalls t t'' := ⟨second.os.trans first.os, second.server.trans first.server⟩

theorem ClosesOnce.same (closes : t.ClosesOnce) (same : SameCalls t t') : t'.ClosesOnce where
  sockets := by
    rw [same.os]
    exact closes.sockets
  server := by
    unfold ServerSealed
    rw [same.server]
    exact closes.server

/-- The descriptor was not closed, and one server is registered at most. -/
structure Listening (t : StdioTunnel) : Prop where
  unclosed : ∀ call ∈ t.socks5_calls, call.closes = false
  one : (t.registrations .socks5Server).length ≤ 1

theorem Listening.up (listening : t.Listening) (fd : Int) : ¬ t.ServerClosed fd := by
  rintro ⟨call, member, closes, _⟩
  rw [listening.unclosed call member] at closes
  cases closes

theorem Listening.done (listening : t.Listening) : t.ServerSealed :=
  List.pairwise_of_forall_mem_list fun early member _ _ closes => by
    rw [listening.unclosed early member] at closes
    cases closes

theorem Listening.serves (listening : t.Listening) (serves : Serves t t')
    (records : t'.registrations .socks5Server = t.registrations .socks5Server) : t'.Listening where
  unclosed := by
    obtain ⟨fds, calls⟩ := serves
    rw [calls]
    refine List.forall_mem_append.mpr ⟨listening.unclosed, fun call member => ?_⟩
    obtain ⟨fd, _, rfl⟩ := List.mem_map.mp member
    rfl
  one := by
    rw [records]
    exact listening.one

theorem Listening.aside (listening : t.Listening) (aside : Aside t t') : t'.Listening :=
  listening.serves aside.serves (aside.records _ nofun)

theorem run_serverSame (run : Run Operation.Step t ops t') : ServerSame t t' := by
  induction run with
  | nil => exact ⟨rfl, rfl⟩
  | snoc earlier last ih =>
      refine ih.trans ?_
      rw [last.2]
      exact ⟨Operation.socks5_calls_apply _ _, Operation.registrations_unlinked _ _
        (fun no => by cases no) fun _ _ _ no => by cases no⟩

theorem Listening.run (listening : t.Listening) (run : Run Operation.Step t ops t') :
    t'.Listening := by
  have same := run_serverSame run
  exact listening.serves ⟨[], same.calls.trans (List.append_nil _).symm⟩ same.records

end StdioTunnel

theorem StdioTunnelLocal.registered_server (l : StdioTunnelLocal) :
    StdioTunnel.ServerSame l.toStdioTunnel l.registered.toStdioTunnel := by
  have add : ∀ (t : StdioTunnel) (fd : Int) (events : PollEvents),
      StdioTunnel.ServerSame t (t.addPolled .stdioTunnel fd events) := fun t fd events =>
    ⟨rfl, (Poller.registrations_addPolled _ _ _ _ _).trans (if_neg fun no => by cases no)⟩
  have stdin := add l.toStdioTunnel STDIN_FD POLLIN
  have stdout := stdin.trans (add _ STDOUT_FD .zero)
  have read := stdout.trans (add _ l.m_read_fd POLLIN)
  exact read.trans (add _ l.m_write_fd .zero)

/-! ## Runs -/

namespace Endpoint

variable {e e' : Endpoint} {event : Event} {events : List Event}

/-- The descriptor is open, and before the handshake there is no server. -/
structure ServerOpen (e : Endpoint) : Prop where
  listening : e.tunnel.Listening
  waiting : ∀ r, e = .remoteEnd r → r.m_state = .HANDSHAKING → r.registrations .socks5Server = []

theorem ServerOpen.ofNone (calls : e.tunnel.socks5_calls = [])
    (none : e.tunnel.registrations .socks5Server = []) : e.ServerOpen where
  listening := by
    refine ⟨?_, ?_⟩
    · rw [calls]
      exact List.forall_mem_nil _
    · rw [none]
      exact Nat.zero_le 1
  waiting := by
    rintro r rfl _
    exact none

theorem Started.serverOpen (started : e.Started) : e.ServerOpen := by
  cases started with
  | @localEnd _ _ l l' read_fd write_fd _ configured start =>
      have configures := StdioTunnelLocal.configure_configures configured
      obtain ⟨l₁, _, connects, rfl⟩ := StdioTunnelLocal.start_started configures.state start
      have armed : StdioTunnel.ServerSame _ (l₁.armed write_fd).toStdioTunnel :=
        connects.server.trans ⟨rfl, rfl⟩
      have all := armed.trans (StdioTunnelLocal.registered_server _)
      refine .ofNone (all.calls.trans ?_) (all.records.trans ?_)
      · exact congrArg StdioTunnel.socks5_calls configures.base
      · exact congrArg (StdioTunnel.registrations · .socks5Server) configures.base
  | remoteEnd start =>
      obtain rfl := StdioTunnelRemote.start_waiting start
      exact .ofNone rfl rfl

theorem ServerOpen.step (server : e.ServerOpen) (waitsEmpty : e.WaitsEmpty)
    (result : e.dispatch event = .ok e') : e'.ServerOpen := by
  obtain ⟨listening, waiting⟩ := server
  have none : ∀ r, e = .remoteEnd r → r.m_state = .HANDSHAKING →
      e.tunnel.registrations .socks5Server = [] := by
    rintro r rfl waits
    exact waiting r rfl waits
  -- what keeps the records keeps a server from being set up
  have kept : e'.tunnel.Listening →
      e'.tunnel.registrations .socks5Server = e.tunnel.registrations .socks5Server → e'.ServerOpen := by
    refine fun listening records => ⟨listening, ?_⟩
    rintro r' rfl waits
    obtain ⟨r, isRemote, before⟩ := dispatch_waiting result waits
    exact records.trans (none r isRemote before)
  have other : Polled.socks5Server ≠ .stdioTunnel := fun no => by cases no
  cases dispatch_turn waitsEmpty.keyed result with
  | aside same => exact kept (listening.aside same) (same.records _ other)
  | object run script => exact kept (listening.run run) (StdioTunnel.run_serverSame run).records
  | message handles before run script after =>
      refine kept (((listening.aside before).run run).aside after) ?_
      rw [after.records _ other, (StdioTunnel.run_serverSame run).records, before.records _ other]
  | @handshake r isRemote waits linkless listens keyed joined server =>
      obtain ⟨r', rfl, sets⟩ := server
      have nothing := none r isRemote waits
      subst isRemote
      have one : r'.OneServer := sets.one (by
        unfold StdioTunnelRemote.OneServer
        exact (congrArg List.length nothing).trans_le (Nat.zero_le _))
      refine ⟨⟨?_, Nat.le_trans one (Bool.toNat_le _)⟩, ?_⟩
      · change ∀ call ∈ r'.socks5_calls, _
        rw [sets.calls]
        exact listening.unclosed
      · rintro _ ⟨⟩ again
        cases (joined r' rfl).symm.trans again

theorem Started.serverOpen_run (started : e.Started) {kind : Endpoint → Event → Endpoint → Prop}
    (steps : ∀ {e event e'}, kind e event e' → e.dispatch event = .ok e')
    (run : Run kind e events e') : e'.ServerOpen :=
  (@Run.invariant _ _ _ _ _ _ (fun e => e.WaitsEmpty ∧ e.ServerOpen)
    ⟨started.waitsEmpty, started.serverOpen⟩ (fun before taken =>
      ⟨before.1.step (steps taken), before.2.step before.1 (steps taken)⟩) run).2

end Endpoint

end Tun01
