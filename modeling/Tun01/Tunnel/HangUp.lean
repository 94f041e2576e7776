import Tun01.Net.FillCalls
import Tun01.Tunnel.Fields
import Tun01.Tunnel.Frames
import Tun01.Tunnel.LiveLinks

/-!
# Hang-ups

A dispatch that finds input together with a hang-up.  An endpoint looks at the
hang-up first; a link reads once and then closes.
-/

namespace Tun01

def ReadStream.begun (rs : ReadStream) : List Byte := rs.m_read_buf.take rs.m_read_count

/-- Some bytes begin with a complete frame. -/
def FrameReady (bytes : List Byte) : Prop :=
  ∃ payload rest, payload.length < 2 ^ 32 ∧ bytes = frame payload ++ rest

namespace LinkMessage

/-- The data of a link before it is closed is all there was to read. -/
def ForwardsAll (messages : List LinkMessage) (data : List Byte) : Prop :=
  close ∈ messages → payloads (messages.takeWhile fun m => decide (m ≠ close)) = data

end LinkMessage

namespace StdioTunnel

variable {t t' : StdioTunnel} {conn : Short} {c : TunnelConnection} {l : ConnectionLink}

def queuedFor (t t' : StdioTunnel) (conn id : Short) : List LinkMessage :=
  (t.queued t').filterMap (LinkMessage.decode conn id)

theorem queuedFor_run {ops : List Operation} (run : Run Operation.Step t ops t') (conn id : Short) :
    t.queuedFor t' conn id = (ops.flatMap Operation.messages).filterMap (Message.about conn id) := by
  unfold queuedFor
  rw [(Queues.adds (frames_run run)).queued, Message.filterMap_decode]

theorem closingOps_about (conn : Short) (l : ConnectionLink) :
    ((closingOps conn l).flatMap Operation.messages).filterMap (Message.about conn l.m_id) =
      if l.m_closing then [] else [.close] := by
  unfold closingOps
  split
  · rfl
  · exact List.filterMap_cons_some (if_pos ⟨rfl, rfl⟩)

theorem readingOps_about (conn : Short) (c : TunnelConnection) (l : ConnectionLink)
    (bytes : List Byte) :
    ((readingOps conn c l bytes).flatMap Operation.messages).filterMap
      (Message.about conn l.m_id) = [dataMessage c bytes] := by
  unfold readingOps
  rw [List.flatMap_append, List.filterMap_append]
  have data : ([Operation.received conn l bytes, .emit (.link conn l.m_id (dataMessage c bytes))].flatMap
      Operation.messages).filterMap (Message.about conn l.m_id) = [dataMessage c bytes] :=
    List.filterMap_cons_some (if_pos ⟨rfl, rfl⟩)
  rw [data]
  split <;> rfl

theorem dataMessage_payload (c : TunnelConnection) (bytes : List Byte) :
    (dataMessage c bytes).payload = bytes ∧ dataMessage c bytes ≠ .close := by
  unfold dataMessage
  split <;> exact ⟨rfl, nofun⟩

/-- A link that finds input with a hang-up sends what one read returns, and closes. -/
theorem LinkSteps.queuedFor {revents : PollEvents} {read : SysResult (List Byte)}
    {write : SysResult Nat} {ops : List Operation}
    (steps : LinkSteps conn c l revents read write ops) (run : Run Operation.Step t ops t')
    (ready : revents.POLLIN = true) (hangup : revents.POLLHUP = true) {bytes : List Byte}
    (reads : read = .ok bytes) :
    t.queuedFor t' conn l.m_id =
      (if bytes = [] then [] else [dataMessage c bytes]) ++
        if l.m_closing then [] else [.close] := by
  have failed : revents.failure = true := by
    unfold PollEvents.failure
    rw [hangup, Bool.or_true, Bool.true_or]
  rw [queuedFor_run run]
  cases steps with
  | closes _ none =>
      rw [if_pos (none bytes reads)]
      exact closingOps_about conn l
  | @goesOn first second l' l'' input output =>
      obtain ⟨-, bytes', same, nonempty, rfl, rfl⟩ : revents.POLLIN = true ∧ ∃ bytes, read = .ok bytes ∧
          bytes ≠ [] ∧ first = readingOps conn c l bytes ∧ l' = readingLink c l := by
        rcases input with ⟨idle, _, _⟩ | input
        · rw [ready] at idle
          cases idle
        · exact input
      obtain rfl := SysResult.ok.inj (reads.symm.trans same)
      obtain ⟨ids, _, up, _⟩ := readingLink_same c l
      have silent : second.flatMap Operation.messages = [] ∧ l''.m_id = l.m_id ∧
          l''.m_closing = l.m_closing := by
        rcases output with ⟨_, rfl, rfl⟩ | ⟨_, _, _, _, rfl, rfl⟩ <;> exact ⟨rfl, ids, up⟩
      obtain ⟨silent, ids', up'⟩ := silent
      have closes := closingOps_about conn l''
      rw [ids', up'] at closes
      rw [if_neg nonempty, if_pos failed, List.flatMap_append, List.flatMap_append,
        List.filterMap_append, List.filterMap_append, silent, readingOps_about, closes]
      rfl

end StdioTunnel

namespace Endpoint

variable {e e' e'' : Endpoint} {event : Event} {events : List Event} {readable data : List Byte}

/-- Input and a hang-up at the descriptor frames come from. -/
structure PipeHangUp (e : Endpoint) (event : Event) : Prop where
  polled : event.polled = .stdioTunnel
  fd : event.poll_struct.fd = e.readFd
  input : event.poll_struct.revents.POLLIN = true
  hangup : event.poll_struct.revents.POLLHUP = true

/-- Input and a hang-up at the socket of a link, with what the socket still has to read. -/
structure LinkHangUp (event : Event) (conn : Short) (l : ConnectionLink) (data : List Byte) :
    Prop where
  polled : event.polled = .connectionLink conn.val l.m_id l.m_socket
  input : event.poll_struct.revents.POLLIN = true
  hangup : event.poll_struct.revents.POLLHUP = true
  read : event.calls.read = .ok (data.take LINK_BUFFER_SIZE)

/-- The pipe is reported closed only when no complete frame is left to read. -/
def ReportsLate (e : Endpoint) (event : Event) (readable : List Byte) : Prop :=
  ∀ fault, e.dispatch event = .error fault →
    ¬ FrameReady (e.tunnel.m_read_stream.begun ++ readable)

theorem PipeHangUp.failure (hangUp : e.PipeHangUp event) :
    event.poll_struct.revents.failure = true := by
  unfold PollEvents.failure
  rw [hangUp.hangup, Bool.or_true, Bool.true_or]

/-- A hang-up is reported without another read. -/
theorem PipeHangUp.reported (hangUp : e.PipeHangUp event) (takes : e.takesFrames = true) :
    ∃ message, e.dispatch event = .error (.exception message) := by
  have failed := hangUp.failure
  obtain ⟨polled, poll_struct, calls⟩ := event
  obtain rfl : polled = .stdioTunnel := hangUp.polled
  have fd : poll_struct.fd = e.readFd := hangUp.fd
  cases e with
  | localEnd l =>
      refine ⟨"Read pipe closed/invalid", ?_⟩
      have first : l.connectedRead poll_struct calls =
          .error (.exception "Read pipe closed/invalid") := by
        unfold StdioTunnelLocal.connectedRead
        exact if_pos failed
      have arm : l.polled poll_struct calls = l.polledConnected poll_struct calls := by
        have state : l.m_state = .HAND_SHAKE ∨ l.m_state = .CONNECTED := by
          simpa [takesFrames] using takes
        unfold StdioTunnelLocal.polled
        rcases state with state | state <;> rw [state]
      change (l.polled poll_struct calls).map localEnd = _
      rw [arm]
      unfold StdioTunnelLocal.polledConnected
      rw [onFd_self _ _ (show poll_struct.fd = l.m_read_fd from fd), first]
      rfl
  | remoteEnd r =>
      refine ⟨"Stdin closed", ?_⟩
      have first : r.polledStdin poll_struct calls = .error (.exception "Stdin closed") := by
        unfold StdioTunnelRemote.polledStdin
        exact if_pos failed
      change (r.polled poll_struct calls).map remoteEnd = _
      unfold StdioTunnelRemote.polled
      rw [onFd_self _ _ (show poll_struct.fd = STDIN_FD from fd), first]
      rfl

theorem PipeHangUp.reportsLate_iff (hangUp : e.PipeHangUp event) (takes : e.takesFrames = true) :
    e.ReportsLate event readable ↔ ¬ FrameReady (e.tunnel.m_read_stream.begun ++ readable) := by
  obtain ⟨message, reported⟩ := hangUp.reported takes
  exact ⟨fun late => late _ reported, fun none _ _ => none⟩

def queuedFor (e e' : Endpoint) (conn id : Short) : List LinkMessage :=
  e.tunnel.queuedFor e'.tunnel conn id

theorem LinkHangUp.forwardsAll_iff {conn : Short} {l : ConnectionLink}
    (hangUp : LinkHangUp event conn l data) (keyed : e.tunnel.Keyed)
    (stores : e.tunnel.Stores conn l) (result : e.dispatch event = .ok e') :
    LinkMessage.ForwardsAll (e.queuedFor e' conn l.m_id) data ↔
      l.m_closing = true ∨ data.length ≤ LINK_BUFFER_SIZE := by
  obtain ⟨conn', c, l', ops, same, known, stored, ids, _, run, steps⟩ :=
    dispatch_link keyed hangUp.polled result
  obtain rfl := Short.val_injective same
  obtain rfl : l' = l := by
    unfold StdioTunnel.Stores at stored stores
    rw [ids] at stored
    exact Option.some.inj (stored.symm.trans stores)
  have queued := steps.queuedFor run hangUp.input hangUp.hangup hangUp.read
  obtain ⟨payload, isData⟩ := StdioTunnel.dataMessage_payload c (data.take LINK_BUFFER_SIZE)
  unfold queuedFor
  rw [queued]
  cases closing : l'.m_closing with
  | true =>
      refine iff_of_true (fun closes => ?_) (Or.inl rfl)
      rw [if_pos rfl, List.append_nil] at closes
      split at closes
      · cases closes
      · exact absurd (List.mem_singleton.mp closes) isData.symm
  | false =>
      have sent : LinkMessage.payloads
          (((if data.take LINK_BUFFER_SIZE = [] then []
            else [StdioTunnel.dataMessage c (data.take LINK_BUFFER_SIZE)]) ++
              [LinkMessage.close]).takeWhile fun m => decide (m ≠ LinkMessage.close)) =
          data.take LINK_BUFFER_SIZE := by
        split
        · rename_i none
          rw [none]
          rfl
        · have kept : [StdioTunnel.dataMessage c (data.take LINK_BUFFER_SIZE), .close].takeWhile
              (fun m => decide (m ≠ .close)) =
                [StdioTunnel.dataMessage c (data.take LINK_BUFFER_SIZE)] := by
            simp [isData]
          rw [List.cons_append, List.nil_append, kept, LinkMessage.payloads_cons, payload]
          exact List.append_nil _
      rw [if_neg Bool.false_ne_true]
      unfold LinkMessage.ForwardsAll
      rw [sent, List.take_eq_self_iff]
      constructor
      · exact fun all => Or.inr (all (List.mem_append_right _ (List.mem_singleton.mpr rfl)))
      · rintro (no | fits) _
        · cases no
        · exact fits

/--
In every state a run leads to, input that is readable at a hang-up is handled
exactly if the pipe holds no complete frame, and the socket of a link no more
than one read returns.
-/
theorem hangup_drains_iff (started : e.Started) (run : Run Step e events e') :
    (∀ event readable, e'.PipeHangUp event → e'.takesFrames = true →
      (e'.ReportsLate event readable ↔
        ¬ FrameReady (e'.tunnel.m_read_stream.begun ++ readable))) ∧
    ∀ event e'' conn l data, LinkHangUp event conn l data → e'.tunnel.Stores conn l →
      e'.dispatch event = .ok e'' →
      (LinkMessage.ForwardsAll (e'.queuedFor e'' conn l.m_id) data ↔
        l.m_closing = true ∨ data.length ≤ LINK_BUFFER_SIZE) := by
  have waitsEmpty := @Run.invariant _ _ _ _ _ _ WaitsEmpty started.waitsEmpty
    (fun before step => before.step step.result) run
  exact ⟨fun event readable hangUp takes => hangUp.reportsLate_iff takes,
    fun event e'' conn l data hangUp stores result =>
      hangUp.forwardsAll_iff waitsEmpty.keyed stores result⟩

def pipeHangsUp : Event :=
  ⟨.stdioTunnel, ⟨STDIN_FD, POLLIN, { POLLIN := true, POLLHUP := true }⟩, {}⟩

theorem joined_fresh : joined.tunnel.m_read_stream.m_read_count = 0 := by
  decide +kernel

theorem joined_isRemote : joined.readFd = STDIN_FD ∧ joined.takesFrames = true := by
  decide +kernel

theorem joined_hangsUp : joined.PipeHangUp pipeHangsUp :=
  ⟨rfl, joined_isRemote.1.symm, rfl, rfl⟩

theorem joined_begun : joined.tunnel.m_read_stream.begun = [] := by
  unfold ReadStream.begun
  rw [joined_fresh, List.take_zero]

/-- A frame is not ready before its last byte. -/
theorem not_frameReady {payload bytes : List Byte} (small : payload.length < 2 ^ 32)
    (short : bytes.length < (Tun01.frame payload).length) (begins : bytes <+: Tun01.frame payload) :
    ¬ FrameReady bytes := by
  rintro ⟨payload', rest, small', same⟩
  obtain ⟨missing, whole⟩ := begins
  unfold Tun01.frame at same whole
  rw [same, List.append_assoc, List.append_assoc] at whole
  obtain ⟨headers, _⟩ := List.append_inj whole rfl
  have sizes : payload'.length = payload.length := frameHeader_injective small' small headers
  rw [frame_length, same, List.length_append, List.length_append, frameHeader_length, sizes]
    at short
  omega

def linkHangsUp (data : List Byte) : Event :=
  ⟨.connectionLink 0 (Short.ofInt 501) 0, ⟨0, POLLIN, { POLLIN := true, POLLHUP := true }⟩,
    { read := .ok (data.take LINK_BUFFER_SIZE) }⟩

theorem linkHangsUp_hangsUp {l : ConnectionLink} (id : l.m_id = Short.ofInt 501)
    (socket : l.m_socket = 0) (data : List Byte) :
    LinkHangUp (linkHangsUp data) (Short.ofInt 0) l data := by
  refine ⟨?_, rfl, rfl, rfl⟩
  rw [id, socket]
  rfl

/-- The link of the first client. -/
theorem linked_stores : ∃ l, linked.tunnel.link? 0 (Short.ofInt 501) = some l ∧
    l.m_id = Short.ofInt 501 ∧ l.m_socket = 0 ∧ l.m_closing = false := by
  have known : (linked.tunnel.link? 0 (Short.ofInt 501)).map
      (fun l => (l.m_id, l.m_socket, l.m_closing)) = some (Short.ofInt 501, 0, false) := by
    decide +kernel
  obtain ⟨l, found, same⟩ := Option.map_eq_some_iff.mp known
  obtain ⟨id, flags⟩ := Prod.mk.inj same
  obtain ⟨socket, up⟩ := Prod.mk.inj flags
  exact ⟨l, found, id, socket, up⟩

/--
Nothing is lost of a pipe that was closed within a frame, nor of a socket that
was closed after two bytes.
-/
theorem hangup_drains_linked :
    joined.ReportsLate pipeHangsUp ((Tun01.frame firstClient.payload).take 7) ∧
    ∃ (e'' : Endpoint) (l : ConnectionLink), linked.dispatch (linkHangsUp (text "hi")) = .ok e'' ∧
      LinkMessage.ForwardsAll (linked.queuedFor e'' (Short.ofInt 0) l.m_id) (text "hi") := by
  constructor
  · refine ((hangup_drains_iff waiting_started (.single joined_step)).1 _ _ joined_hangsUp
      joined_isRemote.2).mpr ?_
    rw [joined_begun, List.nil_append]
    exact @not_frameReady firstClient.payload _ (by decide +kernel) (by decide +kernel)
      (List.take_prefix _ _)
  · obtain ⟨l, found, id, socket, _⟩ := linked_stores
    have returns : (linked.dispatch (linkHangsUp (text "hi"))).isOk = true := by
      decide +kernel
    have stores : linked.tunnel.Stores (Short.ofInt 0) l := by
      unfold StdioTunnel.Stores
      rw [id]
      exact found
    refine ⟨_, l, dispatch_after returns, ?_⟩
    exact ((hangup_drains_iff waiting_started linked_run).2 _ _ _ l _
      (linkHangsUp_hangsUp id socket _) stores (dispatch_after returns)).mpr
        (Or.inr (by decide))

def overlong : List Byte := List.replicate 4097 0

/--
A client that was announced before the pipe was closed is never heard of, and of
4097 bytes in a socket that was closed the last one is lost.
-/
theorem not_hangup_drains :
    (¬ ∀ (e e' : Endpoint) (events : List Event) (event : Event) (readable : List Byte),
      e.Started → Run Step e events e' → e'.PipeHangUp event → e'.takesFrames = true →
      e'.ReportsLate event readable) ∧
    ¬ ∀ (e e' e'' : Endpoint) (events : List Event) (event : Event) (conn : Short)
      (l : ConnectionLink) (data : List Byte), e.Started → Run Step e events e' →
      LinkHangUp event conn l data → e'.tunnel.Stores conn l → e'.dispatch event = .ok e'' →
      LinkMessage.ForwardsAll (e'.queuedFor e'' conn l.m_id) data := by
  constructor
  · intro always
    have late := always _ joined _ pipeHangsUp (Tun01.frame firstClient.payload) waiting_started
      (.single joined_step) joined_hangsUp joined_isRemote.2
    obtain ⟨message, reported⟩ := joined_hangsUp.reported joined_isRemote.2
    refine late _ reported ⟨firstClient.payload, [], by decide +kernel, ?_⟩
    rw [joined_begun, List.nil_append, List.append_nil]
  · intro always
    obtain ⟨l, found, id, socket, up⟩ := linked_stores
    have returns : (linked.dispatch (linkHangsUp overlong)).isOk = true := by
      decide +kernel
    have stores : linked.tunnel.Stores (Short.ofInt 0) l := by
      unfold StdioTunnel.Stores
      rw [id]
      exact found
    have hangUp := linkHangsUp_hangsUp id socket overlong
    have waitsEmpty := (waiting_started.waitsEmpty.step joined_step.result).step linked_step.result
    have all := always _ linked _ _ _ _ l _ waiting_started linked_run hangUp stores
      (dispatch_after returns)
    rcases (hangUp.forwardsAll_iff waitsEmpty.keyed stores (dispatch_after returns)).mp all
      with closing | fits
    · rw [up] at closing
      cases closing
    · exact absurd fits (by decide +kernel)

end Endpoint

end Tun01
