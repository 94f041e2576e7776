import Tun01.Net.PollRound
import Tun01.Tunnel.Finish
import Tun01.Tunnel.Holding
import Tun01.Tunnel.ServerCalls

/-!
# The last round

When its polling loop ends an endpoint closes the descriptors of all objects
that are registered, and leaves them registered.  An endpoint that was asked to
shut down then polls once more to send its last frame.
-/

namespace Tun01

open StdioTunnel (Aside SameCalls)

/-! ## Leaving the loop -/

namespace Polled

def socket? : Polled → Option Nat
  | listenSide _ socket | connectionLink _ _ socket => some socket
  | stdioTunnel | socks5Server => none

end Polled

namespace StdioTunnel

variable {t t' : StdioTunnel}

theorem cleanupCalls_eq (objects : List Polled) :
    objects.flatMap cleanupCalls = (objects.filterMap Polled.socket?).map Syscall.closed := by
  induction objects with
  | nil => rfl
  | cons polled rest ih =>
      rw [List.flatMap_cons, ih]
      cases polled <;> rfl

/-- What occurs at most once in a list is apart from itself. -/
theorem pairwise_of_count {p : Polled → Prop} {objects : List Polled}
    (once : ∀ x, p x → objects.count x ≤ 1) : objects.Pairwise fun a b => p a → a ≠ b := by
  induction objects with
  | nil => exact .nil
  | cons first rest ih =>
      refine List.pairwise_cons.mpr ⟨?_, ih fun x mine => ?_⟩
      · rintro other member mine rfl
        have two := once first mine
        rw [List.count_cons_self] at two
        have one := List.one_le_count_iff.mpr member
        omega
      · exact Nat.le_trans (List.count_le_count_cons ..) (once x mine)

theorem count_objects (t : StdioTunnel) (x : Polled) :
    t.objects.count x = (t.registrations x).length := by
  unfold objects registrations Poller.registrations Poller.registered
  rw [List.length_map, List.count_eq_countP, List.countP_map, List.countP_eq_length_filter]
  congr 1

namespace Holds

variable (holds : t.Holds)

include holds

/-- A registered object is there, and its socket is open. -/
theorem object {polled : Polled} (member : polled ∈ t.objects) :
    t.Points polled ∧ ∀ s, polled.socket? = some s → ¬ t.os.Closed s := by
  obtain ⟨record, registered⟩ := registered_of_object member
  cases polled with
  | stdioTunnel | socks5Server => exact ⟨trivial, fun _ no => by cases no⟩
  | listenSide x s =>
      obtain ⟨listens, up⟩ := holds.listener registered
      refine ⟨listens, ?_⟩
      rintro s' ⟨⟩
      exact up
  | connectionLink x i s =>
      obtain ⟨l, found, socket, _, up⟩ := holds.link registered
      refine ⟨⟨l, found, socket⟩, ?_⟩
      rintro s' ⟨⟩
      exact up

/-- A link or a listener has one record. -/
theorem object_once (x : Polled) (mine : x.socket?.isSome) : t.objects.count x ≤ 1 := by
  rw [count_objects]
  cases x with
  | stdioTunnel | socks5Server => cases mine
  | listenSide x s =>
      rcases holds.pointers x s with none | ⟨record, one, _⟩
      · rw [none]
        exact Nat.zero_le 1
      · rw [one]
        exact Nat.le_refl 1
  | connectionLink x i s =>
      rcases holds.registered x i s with none | ⟨record, l, one, _⟩
      · rw [none]
        exact Nat.zero_le 1
      · rw [one]
        exact Nat.le_refl 1

/-- The call that obtained the socket of an object that is there. -/
theorem obtained {polled : Polled} (points : t.Points polled) {s : Nat}
    (socket : polled.socket? = some s) : ∃ call ∈ t.os.trace, call.obtains = some s ∧
      call = match polled with
        | .listenSide x s => .listening s x
        | .connectionLink x i s => .opened s x i
        | .stdioTunnel | .socks5Server => call := by
  cases polled with
  | stdioTunnel | socks5Server => cases socket
  | listenSide x s' =>
      cases socket
      exact ⟨_, (holds.listeners x s points).1, rfl, rfl⟩
  | connectionLink x i s' =>
      cases socket
      obtain ⟨l, found, rfl⟩ := points
      exact ⟨_, (holds.links x i l found).1, rfl, rfl⟩

/-- Different objects have different sockets. -/
theorem object_unique {first second : Polled} (here : t.Points first) (there : t.Points second)
    {s : Nat} (socket : first.socket? = some s) (again : second.socket? = some s) :
    first = second := by
  obtain ⟨call, inTrace, obtains, is⟩ := holds.obtained here socket
  obtain ⟨call', inTrace', obtains', is'⟩ := holds.obtained there again
  have same := holds.orderly.owner inTrace inTrace' obtains obtains'
  rw [same] at is
  cases first with
  | stdioTunnel | socks5Server => cases socket
  | listenSide x s₁ =>
      cases second with
      | stdioTunnel | socks5Server => cases again
      | listenSide x' s₂ =>
          obtain ⟨rfl, rfl⟩ := Syscall.listening.inj (is.symm.trans is')
          rfl
      | connectionLink x' i' s₂ => cases is.symm.trans is'
  | connectionLink x i s₁ =>
      cases second with
      | stdioTunnel | socks5Server => cases again
      | listenSide x' s₂ => cases is.symm.trans is'
      | connectionLink x' i' s₂ =>
          obtain ⟨rfl, rfl, rfl⟩ := Syscall.opened.inj (is.symm.trans is')
          rfl

theorem sockets_nodup : (t.objects.filterMap Polled.socket?).Nodup := by
  have apart := pairwise_of_count holds.object_once
  refine List.pairwise_filterMap.mpr (apart.imp_of_mem fun inFirst inSecond apart => ?_)
  rintro s socket s' again rfl
  have mine : (Polled.socket? _).isSome := Option.isSome_iff_exists.mpr ⟨s, socket⟩
  exact apart mine (holds.object_unique (holds.object inFirst).1 (holds.object inSecond).1
    socket again)

/-- The end of the loop closes each registered link and listener, and nothing twice. -/
theorem endLoop_sockets : ∃ t', t.endLoop = .ok t' ∧ t'.os.Sealed ∧
    ∀ x ∈ t.objects, ∀ s, x.socket? = some s → t'.os.Closed s := by
  refine ⟨_, endLoop_returns fun x member => (holds.object member).1, ?_, ?_⟩
  · refine Ledger.sealed_append.mpr ⟨holds.orderly.done, ?_, ?_⟩
    · rw [cleanupCalls_eq, Ledger.Sealed, List.pairwise_map]
      exact holds.sockets_nodup.imp fun apart _ same => apart same.symm
    · intro call member
      rw [cleanupCalls_eq] at member
      obtain ⟨s, inSockets, rfl⟩ := List.mem_map.mp member
      obtain ⟨x, inObjects, socket⟩ := List.mem_filterMap.mp inSockets
      exact (holds.object inObjects).2 s socket
  · intro x member s socket
    refine ⟨.closed s, List.mem_append_right _ ?_, rfl, rfl⟩
    rw [cleanupCalls_eq]
    exact List.mem_map_of_mem (List.mem_filterMap.mpr ⟨x, member, socket⟩)

/-- The end of the loop closes the descriptor of each registered object, and nothing twice. -/
theorem endLoop (listening : t.Listening) : ∃ t', t.endLoop = .ok t' ∧ t'.ClosesOnce ∧
    ∀ entry ∈ t.m_poller.m_polled, entry.m_polled ≠ .stdioTunnel →
      t'.Shut entry.m_polled entry.m_pollfd.fd := by
  obtain ⟨t', ends, sockets, shut⟩ := holds.endLoop_sockets
  have calls : t'.socks5_calls = t.socks5_calls ++
      (t.registrations .socks5Server).map fun record => .closed record.fd := by
    rw [endLoop_returns fun x member => (holds.object member).1] at ends
    rw [← Except.ok.inj ends]
    rfl
  refine ⟨t', ends, ⟨sockets, ?_⟩, fun entry member other => ?_⟩
  · unfold ServerSealed
    rw [calls]
    refine Ledger.sealed_append.mpr ⟨listening.done, ?_, fun call _ => listening.up _⟩
    have one := listening.one
    match t.registrations .socks5Server, one with
    | [], _ => exact .nil
    | [record], _ => exact List.pairwise_singleton _ _
  · have object : entry.m_polled ∈ t.objects := List.mem_map_of_mem member
    cases polled : entry.m_polled with
    | stdioTunnel => exact absurd polled other
    | listenSide x s => exact shut _ object s (by rw [polled]; rfl)
    | connectionLink x i s => exact shut _ object s (by rw [polled]; rfl)
    | socks5Server =>
        refine ⟨.closed entry.m_pollfd.fd, ?_, rfl, rfl⟩
        rw [calls]
        refine List.mem_append_right _ (List.mem_map_of_mem ?_)
        exact List.mem_map_of_mem (List.mem_filter.mpr ⟨member, decide_eq_true polled⟩)

end Holds

end StdioTunnel

/-! ## One round -/

namespace Endpoint

def mapPoller (e : Endpoint) (f : Poller Polled → Poller Polled) : Endpoint :=
  e.withTunnel (e.tunnel.mapPoller f)

/--
The dispatching loop of `pollOnce`: the objects it dispatches, and the endpoint
it leaves or what was thrown.  It has no result when the fuel does not last.
-/
def dispatchLoop (calls : Int → Calls) (fuel : Nat) (e : Endpoint) :
    Option (List Polled × Except Fault Endpoint) :=
  if e.tunnel.m_poller.m_index < e.tunnel.m_poller.m_orig_size then
    match fuel with
    | 0 => none
    | fuel + 1 =>
        match e.tunnel.m_poller.entryAt e.tunnel.m_poller.m_index with
        | none => some ([], .error (.undefinedBehaviour "m_polled index out of range"))
        | some entry =>
            if entry.m_pollfd.revents.nonzero then
              match e.dispatch
                  ⟨entry.m_polled, entry.m_pollfd, calls e.tunnel.m_poller.m_index⟩ with
              | .error fault => some ([entry.m_polled], .error fault)
              | .ok e =>
                  (dispatchLoop calls fuel (e.mapPoller .advance)).map fun (objects, result) =>
                    (entry.m_polled :: objects, result)
            else
              dispatchLoop calls fuel (e.mapPoller .advance)
  else
    some ([], .ok e)

/-- `pollOnce` with the result of `poll` and of the calls made at each index. -/
def pollOnce (e : Endpoint) (calls : Int → Calls) :
    Poller.PollResult → Option (List Polled × Except Fault Endpoint)
  | .ready revents =>
      dispatchLoop calls e.tunnel.m_poller.m_polled.length (e.mapPoller (·.beginRound revents))
  | .timeout | .failed .EINTR => some ([], .ok e)
  | .failed errno => some ([], .error (.exceptionErrno errno))

/-- `startFinish` from the end of the polling loop on. -/
def finish (e : Endpoint) (calls : Int → Calls) (poll : Poller.PollResult) :
    Option (List Polled × Except Fault Endpoint) :=
  match e.tunnel.endLoop with
  | .error fault => some ([], .error fault)
  | .ok t =>
      if t.m_closed_by_request then
        match t.announce with
        | .error fault => some ([], .error fault)
        | .ok t => (e.withTunnel t).pollOnce calls poll
      else
        some ([], .ok (e.withTunnel t))

variable {e e' : Endpoint} {calls : Int → Calls}

@[simp] theorem tunnel_mapPoller (e : Endpoint) (f : Poller Polled → Poller Polled) :
    (e.mapPoller f).tunnel = e.tunnel.mapPoller f := tunnel_withTunnel e _

theorem Framed.mapPoller (framed : e.Framed) (f : Poller Polled → Poller Polled) :
    (e.mapPoller f).Framed := framed.withTunnel _

/-- The same records with the same flags, and the same place in the round. -/
structure SameTurns (p p' : Poller Polled) : Prop where
  index : p'.m_index = p.m_index
  size : p'.m_orig_size = p.m_orig_size
  turns : p'.m_polled.map Poller.turn = p.m_polled.map Poller.turn

theorem SameTurns.setEvents (p : Poller Polled) (x : Polled) (fd : Int) (events : PollEvents) :
    SameTurns p (p.setEvents x fd events) :=
  ⟨rfl, rfl, Poller.map_turn_modify p.m_polled _ events⟩

theorem SameTurns.trans {p p' p'' : Poller Polled} (first : SameTurns p p')
    (second : SameTurns p' p'') : SameTurns p p'' :=
  ⟨second.index.trans first.index, second.size.trans first.size,
    second.turns.trans first.turns⟩

/-- The record at an index has the same flags. -/
theorem SameTurns.revents {p p' : Poller Polled} (same : SameTurns p p') {i : Nat}
    {entry : PolledAndPollfd Polled} (found : p'.m_polled[i]? = some entry) :
    ∃ before, p.m_polled[i]? = some before ∧
      before.m_pollfd.revents = entry.m_pollfd.revents := by
  have turns := congrArg (·[i]?) same.turns
  simp only [List.getElem?_map, found, Option.map_some] at turns
  obtain ⟨before, there, turn⟩ := Option.map_eq_some_iff.mp turns.symm
  exact ⟨before, there, (Prod.mk.inj turn).2⟩

/-- The last packet leaves when the kernel takes all of it. -/
theorem empty_last {ws : WriteStream} {front : WritePacket} {poll_struct : Pollfd}
    (queue : ws.m_packet_queue = [front]) (rest : front.m_written ≤ front.m_size)
    (ready : poll_struct.revents = POLLOUT) :
    ∃ after taken, ws.empty poll_struct (.ok front.request) =
      .ok ({ ws with m_packet_queue := [] }, after, taken) := by
  have done : front.m_written + front.request = front.m_size := by
    unfold WritePacket.request
    omega
  unfold WriteStream.empty
  rw [queue, ready]
  simp only [POLLOUT, ↓reduceIte, WritePacket.sendPacket, ok_bind, done, beq_self_eq_true]
  exact ⟨_, _, rfl⟩

/-- A dispatch that empties the packet queue. -/
theorem dispatch_flush (framed : e.Framed) {poll_struct : Pollfd} {calls : Calls}
    (fd : poll_struct.fd = e.writeFd) (ready : poll_struct.revents = POLLOUT) {front : WritePacket}
    (queue : e.tunnel.m_write_stream.m_packet_queue = [front])
    (rest : front.m_written ≤ front.m_size) (write : calls.write = .ok front.request) :
    ∃ e', e.dispatch ⟨.stdioTunnel, poll_struct, calls⟩ = .ok e' ∧
      SameCalls e.tunnel e'.tunnel ∧ e'.tunnel.m_write_stream.m_packet_queue = [] ∧
      SameTurns e.tunnel.m_poller e'.tunnel.m_poller := by
  obtain ⟨after, taken, emptied⟩ := empty_last queue rest ready
  rw [← write] at emptied
  cases framed with
  | @localEnd l state pipes read write' =>
      change l.m_write_stream.toWriteStream.empty poll_struct calls.write = _ at emptied
      change poll_struct.fd = l.m_write_fd at fd
      have console : poll_struct.fd ≠ STDOUT_FD := by
        rw [fd]
        exact write'
      have arm : l.polled poll_struct calls = l.polledConnected poll_struct calls := by
        unfold StdioTunnelLocal.polled
        rcases state with state | state <;> rw [state]
      change ∃ e', (l.polled poll_struct calls).map localEnd = _ ∧ _
      rw [arm]
      unfold StdioTunnelLocal.polledConnected
      rw [onFd_of_ne _ _ (by rw [fd]; exact pipes.symm), ok_bind, onFd_self _ _ fd]
      unfold StdioTunnelLocal.connectedWrite
      rw [ready, emptied]
      simp only [ok_bind, POLLOUT, PollEvents.failure, Bool.or_self, Bool.false_eq_true, ↓reduceIte,
        WriteStream.pendingWrite, List.isEmpty_nil, Bool.not_true, pure_bind]
      rw [onFd_of_ne _ _ console]
      exact ⟨_, rfl, ⟨rfl, rfl⟩, rfl, (SameTurns.setEvents _ _ _ _).trans (.setEvents _ _ _ _)⟩
  | @remoteEnd r state =>
      change r.m_write_stream.toWriteStream.empty poll_struct calls.write = _ at emptied
      change poll_struct.fd = STDOUT_FD at fd
      change ∃ e', (r.polled poll_struct calls).map remoteEnd = _ ∧ _
      unfold StdioTunnelRemote.polled
      rw [onFd_of_ne _ _ (by rw [fd]; decide), ok_bind, onFd_self _ _ fd]
      unfold StdioTunnelRemote.polledStdout
      rw [ready, emptied]
      simp only [ok_bind, POLLOUT, PollEvents.failure, Bool.or_self, Bool.false_eq_true, ↓reduceIte,
        WriteStream.pendingWrite, List.isEmpty_nil, Bool.not_true]
      exact ⟨_, rfl, ⟨rfl, rfl⟩, rfl, (SameTurns.setEvents _ _ _ _).trans (.setEvents _ _ _ _)⟩

/-- From the cursor to the bound no record is ready, one aside. -/
structure Quiet (p : Poller Polled) (k n : Nat) (aside : Option Nat) : Prop where
  index : p.m_index = k
  size : p.m_orig_size = n
  inside : n ≤ p.m_polled.length
  idle : ∀ i entry, k ≤ i → i < n → aside ≠ some i → p.m_polled[i]? = some entry →
    entry.m_pollfd.revents.nonzero = false

theorem Quiet.entryAt {p : Poller Polled} {k n : Nat} {aside : Option Nat} (quiet : Quiet p k n aside)
    (more : k < n) : ∃ entry, p.entryAt p.m_index = some entry ∧ p.m_polled[k]? = some entry := by
  have inside : k < p.m_polled.length := Nat.lt_of_lt_of_le more quiet.inside
  refine ⟨p.m_polled[k], ?_, List.getElem?_eq_getElem inside⟩
  unfold Poller.entryAt
  rw [quiet.index, if_pos (by omega)]
  exact List.getElem?_eq_getElem inside

theorem Quiet.advance {p : Poller Polled} {k n : Nat} {aside : Option Nat}
    (quiet : Quiet p k n aside) : Quiet p.advance (k + 1) n aside where
  index := by
    change p.m_index + 1 = _
    rw [quiet.index]
    rfl
  size := quiet.size
  inside := quiet.inside
  idle := fun i entry above => quiet.idle i entry (Nat.le_of_succ_le above)

/-- A round in which no record is ready does nothing. -/
theorem dispatchLoop_quiet {fuel k n : Nat} (quiet : Quiet e.tunnel.m_poller k n none)
    (fits : n ≤ k + fuel) : ∃ e', dispatchLoop calls fuel e = some ([], .ok e') ∧
      SameCalls e.tunnel e'.tunnel ∧ e'.tunnel.m_write_stream = e.tunnel.m_write_stream := by
  induction fuel generalizing e k with
  | zero =>
      unfold dispatchLoop
      rw [quiet.index, quiet.size, if_neg (by omega)]
      exact ⟨e, rfl, ⟨rfl, rfl⟩, rfl⟩
  | succ fuel ih =>
      by_cases more : k < n
      · obtain ⟨entry, here, found⟩ := quiet.entryAt more
        have idle := quiet.idle k entry (Nat.le_refl k) more (by simp) found
        have next : Quiet (e.mapPoller .advance).tunnel.m_poller (k + 1) n none := by
          rw [tunnel_mapPoller]
          exact quiet.advance
        obtain ⟨e', result, same, writer⟩ := ih next (by omega)
        rw [tunnel_mapPoller] at same writer
        refine ⟨e', ?_, ⟨same.os, same.server⟩, writer⟩
        rw [← result, dispatchLoop, if_pos (by rw [quiet.index, quiet.size]; omega), here]
        dsimp only
        rw [idle]
        rfl
      · unfold dispatchLoop
        rw [quiet.index, quiet.size, if_neg (by omega)]
        exact ⟨e, rfl, ⟨rfl, rfl⟩, rfl⟩

/-- A round in which only the write end is ready sends the last packet. -/
theorem dispatchLoop_flush {fuel k n j : Nat} {front : WritePacket}
    {entry : PolledAndPollfd Polled} (framed : e.Framed)
    (quiet : Quiet e.tunnel.m_poller k n (some j)) (fits : n ≤ k + fuel) (ahead : k ≤ j)
    (within : j < n) (found : e.tunnel.m_poller.m_polled[j]? = some entry)
    (self : entry.m_polled = .stdioTunnel) (fd : entry.m_pollfd.fd = e.writeFd)
    (ready : entry.m_pollfd.revents = POLLOUT)
    (queue : e.tunnel.m_write_stream.m_packet_queue = [front])
    (rest : front.m_written ≤ front.m_size) (write : (calls j).write = .ok front.request) :
    ∃ e', dispatchLoop calls fuel e = some ([.stdioTunnel], .ok e') ∧
      SameCalls e.tunnel e'.tunnel ∧ e'.tunnel.m_write_stream.m_packet_queue = [] := by
  induction fuel generalizing e k with
  | zero => omega
  | succ fuel ih =>
      obtain ⟨first, here, foundFirst⟩ := quiet.entryAt (Nat.lt_of_le_of_lt ahead within)
      by_cases now : k = j
      · subst now
        obtain rfl : first = entry := Option.some.inj (foundFirst.symm.trans found)
        obtain ⟨e₁, dispatched, made, empty, same⟩ :=
          dispatch_flush framed fd ready queue rest write
        have next : Quiet (e₁.mapPoller .advance).tunnel.m_poller (k + 1) n none := by
          rw [tunnel_mapPoller]
          have length := congrArg List.length same.turns
          rw [List.length_map, List.length_map] at length
          refine ⟨?_, same.size.trans quiet.size, ?_, ?_⟩
          · change e₁.tunnel.m_poller.m_index + 1 = _
            rw [same.index, quiet.index]
            rfl
          · change n ≤ e₁.tunnel.m_poller.m_polled.length
            rw [length]
            exact quiet.inside
          · intro i other above below _ there
            obtain ⟨before, thereBefore, flags⟩ := same.revents there
            rw [← flags]
            exact quiet.idle i before (by omega) below (by simp; omega) thereBefore
        obtain ⟨e', result, later, writer⟩ := @dispatchLoop_quiet _ calls fuel _ _ next (by omega)
        rw [tunnel_mapPoller] at later writer
        refine ⟨e', ?_, made.trans ⟨later.os, later.server⟩, by rw [writer]; exact empty⟩
        have dispatched' : e.dispatch ⟨first.m_polled, first.m_pollfd,
            calls e.tunnel.m_poller.m_index⟩ = .ok e₁ := by
          rw [self, quiet.index]
          exact dispatched
        rw [dispatchLoop, if_pos (by rw [quiet.index, quiet.size]; omega), here]
        dsimp only
        rw [ready, if_pos (by decide), dispatched']
        dsimp only
        rw [result, self]
        rfl
      · have idle := quiet.idle k first (Nat.le_refl k) (Nat.lt_of_le_of_lt ahead within)
          (fun no => now (Option.some.inj no).symm) foundFirst
        have next : Quiet (e.mapPoller .advance).tunnel.m_poller (k + 1) n (some j) := by
          rw [tunnel_mapPoller]
          exact quiet.advance
        have tunnel := tunnel_mapPoller e .advance
        obtain ⟨e', result, same, empty⟩ := ih (framed.mapPoller _) next (by omega) (by omega)
          (by rw [tunnel]; exact found) (by rw [fd]; exact (writeFd_withTunnel e _).symm)
          (by rw [tunnel]; exact queue)
        rw [tunnel] at same
        refine ⟨e', ?_, ⟨same.os, same.server⟩, empty⟩
        rw [← result, dispatchLoop, if_pos (by rw [quiet.index, quiet.size]; omega), here]
        dsimp only
        rw [idle]
        rfl

/-! ## Ending -/

/--
The last frame can leave: only the endpoint itself is registered, nothing else
is queued, and of its descriptors `poll` reports the write end only, which takes
the whole frame.
-/
structure SendsLast (e : Endpoint) (calls : Int → Calls) (revents : Nat → PollEvents) (i : Nat) :
    Prop where
  framed : e.Framed
  alone : ∀ x ∈ e.tunnel.objects, x = .stdioTunnel
  queue : e.tunnel.m_write_stream.m_packet_queue = []
  record : ∃ entry, e.tunnel.m_poller.m_polled[i]? = some entry ∧
    entry.m_polled = .stdioTunnel ∧ entry.m_pollfd.fd = e.writeFd
  ready : ∀ j entry, e.tunnel.m_poller.m_polled[j]? = some entry →
    entry.m_polled = .stdioTunnel → revents j = if j = i then POLLOUT else .zero
  write : (calls i).write = .ok (WritePacket.padded StdioTunnel.shutdown).request

theorem getElem?_beginRound (p : Poller Polled) (revents : Nat → PollEvents) (i : Nat) :
    (p.beginRound revents).m_polled[i]? =
      p.m_polled[i]?.map (Poller.withRevents (revents i)) :=
  List.getElem?_mapIdx

theorem getElem?_setEvents (p : Poller Polled) (x : Polled) (fd : Int) (events : PollEvents)
    (i : Nat) : (p.setEvents x fd events).m_polled[i]? = p.m_polled[i]?.map fun entry =>
      if p.findPolled x fd = i then Poller.withEvents events entry else entry :=
  List.getElem?_modify ..

/-- A record of the last round, whose frame is queued. -/
def lastRecord (t : StdioTunnel) (revents : Nat → PollEvents) (j : Nat)
    (entry : PolledAndPollfd Polled) : PolledAndPollfd Polled :=
  Poller.withRevents (revents j)
    (if t.m_poller.findPolled .stdioTunnel t.m_write_stream.m_fd = j then
      Poller.withEvents POLLOUT entry
    else entry)

theorem lastRecord_same (t : StdioTunnel) (revents : Nat → PollEvents) (j : Nat)
    (entry : PolledAndPollfd Polled) :
    (lastRecord t revents j entry).m_polled = entry.m_polled ∧
      (lastRecord t revents j entry).m_pollfd.fd = entry.m_pollfd.fd ∧
      (lastRecord t revents j entry).m_pollfd.revents = revents j := by
  unfold lastRecord
  split <;> exact ⟨rfl, rfl, rfl⟩

theorem getElem?_lastRound (t : StdioTunnel) (payload : List Byte) (revents : Nat → PollEvents)
    (j : Nat) : ((t.emit payload).m_poller.beginRound revents).m_polled[j]? =
      t.m_poller.m_polled[j]?.map (lastRecord t revents j) := by
  rw [getElem?_beginRound]
  unfold StdioTunnel.emit StdioTunnel.setEvents StdioTunnel.mapPoller
  rw [getElem?_setEvents, Option.map_map]
  rfl

theorem length_lastRound (t : StdioTunnel) (payload : List Byte) (revents : Nat → PollEvents) :
    ((t.emit payload).m_poller.beginRound revents).m_polled.length =
      (t.emit payload).m_poller.m_polled.length := List.length_mapIdx

/-- In the last round the write end alone is ready. -/
theorem SendsLast.quiet {revents : Nat → PollEvents} {i : Nat} (sends : e.SendsLast calls revents i)
    {t : StdioTunnel} (poller : t.m_poller = e.tunnel.m_poller) (payload : List Byte) :
    Quiet ((t.emit payload).m_poller.beginRound revents) 0
      (t.emit payload).m_poller.m_polled.length (some i) where
  index := rfl
  size := rfl
  inside := Nat.le_of_eq (length_lastRound t payload revents).symm
  idle := by
    intro j entry _ _ apart there
    rw [getElem?_lastRound, poller] at there
    obtain ⟨before, known, rfl⟩ := Option.map_eq_some_iff.mp there
    have object : before.m_polled ∈ e.tunnel.objects :=
      List.mem_map_of_mem (List.mem_of_getElem? known)
    have others := sends.ready j before known (sends.alone _ object)
    rw [(lastRecord_same t revents j before).2.2, others,
      if_neg fun same => apart (congrArg some same.symm)]
    rfl

/-- The last round sends the frame and touches nothing else. -/
theorem SendsLast.round {revents : Nat → PollEvents} {i : Nat} (sends : e.SendsLast calls revents i)
    {t : StdioTunnel} (poller : t.m_poller = e.tunnel.m_poller)
    (writer : t.m_write_stream = e.tunnel.m_write_stream) :
    ∃ e', (e.withTunnel (t.emit StdioTunnel.shutdown)).pollOnce calls (.ready revents) =
      some ([.stdioTunnel], .ok e') ∧ SameCalls t e'.tunnel ∧
        e'.tunnel.m_write_stream.m_packet_queue = [] := by
  obtain ⟨entry, found, self, fd⟩ := sends.record
  obtain ⟨isSelf, sameFd, isReady⟩ := lastRecord_same t revents i entry
  have record : ((t.emit StdioTunnel.shutdown).m_poller.beginRound revents).m_polled[i]? =
      some (lastRecord t revents i entry) := by
    rw [getElem?_lastRound, poller, found]
    rfl
  have inside : i < (t.emit StdioTunnel.shutdown).m_poller.m_polled.length := by
    rw [← length_lastRound t _ revents]
    exact (List.getElem?_eq_some_iff.mp record).1
  have flags := sends.ready i entry found self
  rw [if_pos rfl] at flags
  have packets : (t.emit StdioTunnel.shutdown).m_write_stream.m_packet_queue =
      [.padded StdioTunnel.shutdown] := by
    change t.m_write_stream.m_packet_queue ++ [_] = _
    rw [writer, sends.queue]
    rfl
  have tunnel : ((e.withTunnel (t.emit StdioTunnel.shutdown)).mapPoller
      (·.beginRound revents)).tunnel =
        (t.emit StdioTunnel.shutdown).mapPoller (·.beginRound revents) := by
    rw [tunnel_mapPoller, tunnel_withTunnel]
  have writeFd : ((e.withTunnel (t.emit StdioTunnel.shutdown)).mapPoller
      (·.beginRound revents)).writeFd = e.writeFd := by
    unfold mapPoller
    rw [writeFd_withTunnel, writeFd_withTunnel]
  have flushed := @dispatchLoop_flush
    ((e.withTunnel (t.emit StdioTunnel.shutdown)).mapPoller (·.beginRound revents)) calls
    (t.emit StdioTunnel.shutdown).m_poller.m_polled.length 0
    (t.emit StdioTunnel.shutdown).m_poller.m_polled.length i (.padded StdioTunnel.shutdown)
    (lastRecord t revents i entry) ((sends.framed.withTunnel _).mapPoller _)
  rw [tunnel, writeFd] at flushed
  obtain ⟨e', result, same, empty⟩ := flushed (sends.quiet poller _) (by omega) (Nat.zero_le i) inside
    record (isSelf.trans self) (sameFd.trans fd) (isReady.trans flags) packets (Nat.zero_le _)
    sends.write
  refine ⟨e', ?_, ⟨same.os, same.server⟩, empty⟩
  unfold pollOnce
  rw [tunnel_withTunnel]
  exact result

/--
As long as no identifier is given out twice no descriptor is used after it was
closed: not by a handler, and not when the loop ends.  An endpoint that ends
because of a signal is done then.  One that was asked to shut down sends its
last frame in one more round, which dispatches nothing else when only the
endpoint itself is registered.
-/
theorem closed_once (started : e.Started) (fits : e.ConnectionsFit)
    {events : List Event} (run : Run Kind e events e') :
    e'.tunnel.ClosesOnce ∧
    (∀ event e'', e'.Step event e'' → ¬ e'.tunnel.Shut event.polled event.poll_struct.fd) ∧
    (∃ t, e'.tunnel.endLoop = .ok t ∧ t.ClosesOnce ∧
      ∀ entry ∈ e'.tunnel.m_poller.m_polled, entry.m_polled ≠ .stdioTunnel →
        t.Shut entry.m_polled entry.m_pollfd.fd) ∧
    (e'.tunnel.m_closed_by_request = false → ∀ calls poll, ∃ e'',
      e'.finish calls poll = some ([], .ok e'') ∧ e''.tunnel.ClosesOnce) ∧
    (e'.tunnel.m_closed_by_request = true → ∀ calls revents i, e'.SendsLast calls revents i →
      ∃ e'', e'.finish calls (.ready revents) = some ([.stdioTunnel], .ok e'') ∧
        e''.tunnel.ClosesOnce ∧ e''.tunnel.m_write_stream.m_packet_queue = []) := by
  have holding := (started.holding fits).run run
  have server := started.serverOpen_run (fun kind => kind.1.result) run
  obtain ⟨t, ends, closes, shut⟩ := holding.holds.endLoop server.listening
  have same := StdioTunnel.endLoop_same ends
  have request : t.m_closed_by_request = e'.tunnel.m_closed_by_request := by rw [same]
  have ready : t.Ready := by
    rw [same]
    exact ⟨holding.waitsEmpty.keyed.ready.poller, holding.waitsEmpty.keyed.ready.fields⟩
  refine ⟨⟨holding.holds.orderly.done, server.listening.done⟩, fun event e'' step => ?_,
    ⟨t, ends, closes, shut⟩, fun unasked calls poll => ?_, fun asked calls revents i sends => ?_⟩
  · have object := holding.object step
    generalize event.polled = polled at object
    cases polled with
    | stdioTunnel => exact id
    | socks5Server => exact server.listening.up _
    | listenSide _ _ | connectionLink _ _ _ => exact object
  · refine ⟨e'.withTunnel t, ?_, ?_⟩
    · unfold finish
      rw [ends]
      dsimp only
      rw [request, unasked]
      rfl
    · rw [tunnel_withTunnel]
      exact closes
  · have poller : t.m_poller = e'.tunnel.m_poller := by rw [same]
    have writer : t.m_write_stream = e'.tunnel.m_write_stream := by rw [same]
    obtain ⟨e'', result, alike, empty⟩ := sends.round poller writer
    refine ⟨e'', ?_, closes.same alike, empty⟩
    unfold finish
    rw [ends]
    dsimp only
    rw [request, asked, if_pos rfl, StdioTunnel.announce_request ready (request.trans asked)]
    exact result

/-! ### A link that is closed before the end -/

/-- A request to shut down arrives at a remote endpoint. -/
def shutdownArrives : Event where
  polled := .stdioTunnel
  poll_struct := ⟨STDIN_FD, POLLIN, POLLIN⟩
  calls :=
    { header := .ok (frameHeader StdioTunnel.shutdown.length)
      body := .ok StdioTunnel.shutdown }

def takesBytes (count : Nat) : Event :=
  ⟨.stdioTunnel, ⟨STDOUT_FD, POLLOUT, POLLOUT⟩, { write := .ok count }⟩

theorem clear_self {t : StdioTunnel} {event : Event} (self : event.polled = .stdioTunnel) :
    System.Clear t event := by
  intro conn socket c s n listener
  rw [self] at listener
  cases listener

/-- A connected endpoint need not be told of connections. -/
theorem Honest.connected {e : Endpoint} {event : Event} (carries : e.carriesLinks = true)
    (reply : ∀ conn id fields, e.message event = some (conn, LINK_CREATE, id, fields) →
      e.tunnel.listens conn.val = true → e.tunnel.phase conn.val id = .pending)
    (request : ∀ conn id fields, e.message event = some (conn, LINK_CREATE, id, fields) →
      e.tunnel.connects conn.val = true → e.tunnel.link? conn.val id = none) : e.Honest event where
  reply := reply
  request := request
  handshake := by
    rintro r payload rfl waits
    have connected : r.m_state = .CONNECTED := of_decide_eq_true carries
    rw [waits] at connected
    cases connected

theorem joined_introduces : (remoteEnd .waiting).completed (arrives oneConnection) =
    some oneConnection.payload ∧ joined.carriesLinks = true ∧ linked.carriesLinks = true ∧
      joined.tunnel.listens 0 = false := by
  decide +kernel

theorem waiting_honest : (remoteEnd .waiting).Honest (arrives oneConnection) where
  reply := by
    intro conn id fields no
    rw [joined_facts.2.2] at no
    cases no
  request := by
    intro conn id fields no
    rw [joined_facts.2.2] at no
    cases no
  handshake := by
    intro r payload _ _ completed
    rw [joined_introduces.1] at completed
    exact ⟨_, (Option.some.inj completed).symm, by decide, by decide, by decide⟩

theorem joined_honest : joined.Honest (arrives firstClient) := by
  obtain ⟨_, carries, _, silent⟩ := joined_introduces
  refine .connected carries (fun conn id fields is listens => ?_) fun conn id fields is _ => ?_
  · rw [linked_facts.2.2.1] at is
    cases is
    rw [show (Short.ofInt 0).val = 0 from rfl, silent] at listens
    cases listens
  · rw [linked_facts.2.2.1] at is
    cases is
    exact linked_facts.2.2.2

theorem linked_kind_run :
    Run Kind (remoteEnd .waiting) [arrives oneConnection, arrives firstClient] linked :=
  .cons ⟨joined_step, waiting_honest, clear_self rfl⟩
    (.single ⟨linked_step, joined_honest, clear_self rfl⟩)

/-- The dispatch opens no link, and comes after the handshake. -/
def opensNothing (e : Endpoint) (event : Event) : Bool :=
  e.takes event && e.carriesLinks &&
    (match event.polled with
      | .listenSide _ _ => false
      | .stdioTunnel | .connectionLink _ _ _ | .socks5Server => true) &&
    (e.message event).all fun (_, command, _, _) => command != LINK_CREATE

theorem kind_opensNothing {event : Event} (quiet : e.opensNothing event = true) :
    e.Kind event (e.after event) := by
  unfold opensNothing at quiet
  rw [Bool.and_eq_true, Bool.and_eq_true, Bool.and_eq_true] at quiet
  obtain ⟨⟨⟨takes, carries⟩, object⟩, other⟩ := quiet
  have creates : ∀ conn id fields, e.message event ≠ some (conn, LINK_CREATE, id, fields) := by
    intro conn id fields is
    rw [is] at other
    cases other
  refine ⟨step_takes takes, .connected carries (fun _ _ _ is => absurd is (creates _ _ _))
    fun _ _ _ is => absurd is (creates _ _ _), ?_⟩
  intro conn socket c s n listener
  rw [listener] at object
  cases object

def windsDown : Endpoint → List Event → Bool
  | _, [] => true
  | e, event :: events => e.opensNothing event && (e.after event).windsDown events

theorem run_windsDown {events : List Event} (winds : e.windsDown events = true) :
    Run Kind e events (events.foldl after e) := by
  induction events generalizing e with
  | nil => exact .nil
  | cons event events ih =>
      unfold windsDown at winds
      rw [Bool.and_eq_true] at winds
      exact .cons (kind_opensNothing winds.1) (ih winds.2)

def partings : List Event :=
  [tellsFirst .close, takesBytes 6, takesBytes 14, takesBytes 12, shutdownArrives]

def parted : Endpoint := partings.foldl after linked

/-- In the last round `poll` reports the write end. -/
def writeEndReady (i : Nat) : PollEvents := if i = 1 then POLLOUT else .zero

def isConnected : Endpoint → Bool
  | localEnd _ => false
  | remoteEnd r => r.m_state = .CONNECTED

theorem Framed.ofConnected (connected : e.isConnected = true) : e.Framed := by
  cases e with
  | localEnd l => cases connected
  | remoteEnd r => exact .remoteEnd (Or.inr (of_decide_eq_true connected))

theorem parted_facts :
    linked.windsDown partings = true ∧ parted.tunnel.m_closed_by_request = true ∧
      parted.tunnel.objects = [.stdioTunnel, .stdioTunnel] ∧
      parted.tunnel.m_write_stream.m_packet_queue = [] ∧
      (parted.tunnel.m_poller.m_polled[1]?.map fun entry =>
        (entry.m_polled, entry.m_pollfd.fd)) = some (.stdioTunnel, parted.writeFd) ∧
      parted.isConnected = true ∧
      parted.tunnel.os.trace = [.opened 0 0 (Short.ofInt 501), .closed 0] := by
  decide +kernel

theorem object_at {t : StdioTunnel} {i : Nat} {entry : PolledAndPollfd Polled}
    (found : t.m_poller.m_polled[i]? = some entry) : t.objects[i]? = some entry.m_polled := by
  unfold StdioTunnel.objects
  rw [List.getElem?_map, found]
  rfl

theorem parted_run : Run Kind (remoteEnd .waiting)
    ([arrives oneConnection, arrives firstClient] ++ partings) parted :=
  linked_kind_run.append (run_windsDown parted_facts.1)

theorem parted_sendsLast : parted.SendsLast
    (fun _ => { write := .ok (WritePacket.padded StdioTunnel.shutdown).request }) writeEndReady 1 := by
  obtain ⟨_, _, objects, queue, record, connected, _⟩ := parted_facts
  refine ⟨.ofConnected connected, ?_, queue, ?_, fun _ _ _ _ => rfl, rfl⟩
  · intro x member
    rw [objects] at member
    rcases List.mem_pair.mp member with rfl | rfl <;> rfl
  · obtain ⟨entry, found, same⟩ := Option.map_eq_some_iff.mp record
    obtain ⟨self, fd⟩ := Prod.mk.inj same
    exact ⟨entry, found, self, fd⟩

/-- The socket of the link was closed in time, and the last round sends the frame. -/
theorem closed_once_parted : Syscall.closed 0 ∈ parted.tunnel.os.trace ∧ ∃ e',
    parted.finish (fun _ => { write := .ok (WritePacket.padded StdioTunnel.shutdown).request })
      (.ready writeEndReady) = some ([.stdioTunnel], .ok e') ∧
    e'.tunnel.ClosesOnce ∧ e'.tunnel.m_write_stream.m_packet_queue = [] := by
  obtain ⟨_, asked, _, _, _, _, trace⟩ := parted_facts
  refine ⟨?_, (closed_once waiting_started trivial parted_run).2.2.2.2 asked _ _ 1 parted_sendsLast⟩
  rw [trace]
  exact List.mem_cons_of_mem _ (List.mem_singleton_self _)

def dismissed : Endpoint := linked.after shutdownArrives

/-- `poll` reports a descriptor that was closed. -/
def closedReported (i : Nat) : PollEvents := if i = 2 then { POLLNVAL := true } else .zero

theorem dismissed_facts :
    linked.opensNothing shutdownArrives = true ∧ dismissed.tunnel.objects =
      [.stdioTunnel, .stdioTunnel, .connectionLink 0 (Short.ofInt 501) 0] := by
  decide +kernel

/-- The last round of that endpoint dispatches the link. -/
theorem dismissed_round : (dismissed.finish (fun _ => {}) (.ready closedReported)).map
    (fun (objects, result) => (objects, result.toOption.map fun e =>
      (e.tunnel.os.trace.filter Syscall.closes).map Syscall.socket)) =
    some ([.connectionLink 0 (Short.ofInt 501) 0], some [0, 0]) := by
  decide +kernel

theorem dismissed_run : Run Kind (remoteEnd .waiting)
    ([arrives oneConnection, arrives firstClient] ++ [shutdownArrives]) dismissed :=
  linked_kind_run.append (.single (kind_opensNothing dismissed_facts.1))

/-- `poll` reports the descriptors that were closed at the end of the loop. -/
def Reports (e : Endpoint) (revents : Nat → PollEvents) : Prop :=
  ∀ i entry, e.tunnel.m_poller.m_polled[i]? = some entry →
    entry.m_polled ≠ .stdioTunnel → revents i = { POLLNVAL := true }

theorem dismissed_reports : dismissed.Reports closedReported := by
  intro i entry found other
  have known := object_at found
  rw [dismissed_facts.2] at known
  clear found
  match i with
  | 0 | 1 => exact absurd (Option.some.inj known).symm other
  | 2 => rfl
  | n + 3 => cases known

/-- The last round closes the socket of the link again. -/
theorem not_closed_once :
    ¬ ∀ (e e' e'' : Endpoint) (events : List Event) (calls : Int → Calls)
      (revents : Nat → PollEvents) (dispatched : List Polled), e.Started → e.ConnectionsFit →
      Run Kind e events e' → e'.Reports revents →
      e'.finish calls (.ready revents) = some (dispatched, .ok e'') → e''.tunnel.ClosesOnce := by
  intro always
  have round := dismissed_round
  cases result : dismissed.finish (fun _ => {}) (.ready closedReported) with
  | none =>
      rw [result] at round
      cases round
  | some pair =>
      obtain ⟨dispatched, outcome⟩ := pair
      rw [result] at round
      obtain ⟨_, closes⟩ := Prod.mk.inj (Option.some.inj round)
      cases outcome with
      | error fault => cases closes
      | ok e'' =>
          have done := always _ _ e'' _ _ _ _ waiting_started trivial dismissed_run
            dismissed_reports result
          have once := Ledger.Sealed.released_once done.sockets
          rw [show (e''.tunnel.os.trace.filter Syscall.closes).map Syscall.socket = [0, 0] from
            Option.some.inj closes] at once
          exact (by decide : ¬ [0, 0].Nodup) once

end Endpoint

end Tun01
