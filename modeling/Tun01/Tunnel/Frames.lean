import Tun01.Tunnel.Start
import Tun01.Tunnel.System

/-!
# Frames a dispatch queues

Every frame an endpoint queues holds one message, and a dispatch adds frames to
the end of the packet queue or lets packets leave at its front, never both.
-/

namespace Tun01

open StdioTunnel (Aside)

/-! ## Messages of operations -/

def Message.greets : Message → Bool
  | handshake _ | agreed => true
  | link _ _ _ | error _ => false

/-- No operation queues a message of the handshake. -/
def Operation.plain (op : Operation) : Prop := ∀ m ∈ op.messages, m.greets = false

namespace StdioTunnel

variable {t t' t'' : StdioTunnel} {conn id : Short} {c : TunnelConnection} {l : ConnectionLink}
  {ops : List Operation}

theorem plain_of_silent {op : Operation} (silent : op.messages = []) : op.plain := by
  intro m member
  rw [silent] at member
  cases member

theorem plain_emit {m : Message} (plain : m.greets = false) : (Operation.emit m).plain := by
  intro m' member
  rw [List.mem_singleton.mp member]
  exact plain

theorem closingOps_plain (conn : Short) (l : ConnectionLink) : ∀ op ∈ closingOps conn l, op.plain := by
  unfold closingOps
  split
  · exact List.forall_mem_nil _
  · exact List.forall_mem_cons.mpr ⟨plain_of_silent rfl, List.forall_mem_singleton.mpr (plain_emit rfl)⟩

theorem readingOps_plain (conn : Short) (c : TunnelConnection) (l : ConnectionLink)
    (bytes : List Byte) : ∀ op ∈ readingOps conn c l bytes, op.plain := by
  unfold readingOps
  refine List.forall_mem_append.mpr ⟨List.forall_mem_cons.mpr
    ⟨plain_of_silent rfl, List.forall_mem_singleton.mpr (plain_emit rfl)⟩, ?_⟩
  split
  · exact List.forall_mem_singleton.mpr (plain_of_silent rfl)
  · exact List.forall_mem_nil _

theorem LinkScript.plain (script : LinkScript conn c l ops) : ∀ op ∈ ops, op.plain := by
  cases script with
  | closes => exact closingOps_plain conn l
  | goesOn first second third =>
      refine List.forall_mem_append.mpr ⟨?_, List.forall_mem_append.mpr ⟨?_, ?_⟩⟩
      · rcases first with rfl | ⟨bytes, rfl⟩
        · exact List.forall_mem_nil _
        · exact readingOps_plain conn c l bytes
      · rcases second with rfl | ⟨_, buffer, bytes, rfl⟩
        · exact List.forall_mem_nil _
        · exact List.forall_mem_singleton.mpr (plain_of_silent rfl)
      · rcases third with rfl | ⟨_, rfl⟩
        · exact List.forall_mem_nil _
        · exact closingOps_plain conn _

theorem ObjectScript.plain {polled : Polled} (script : ObjectScript polled ops) :
    ∀ op ∈ ops, op.plain := by
  cases script with
  | listener conn c socket n =>
      exact List.forall_mem_cons.mpr
        ⟨plain_of_silent rfl, List.forall_mem_singleton.mpr (plain_emit rfl)⟩
  | link conn c l script => exact script.plain
  | tunnel => exact List.forall_mem_nil _

theorem Script.plain {fields : List Byte} {connect : ConnectResult} {command : Short}
    (script : Script conn id fields connect command ops) : ∀ op ∈ ops, op.plain := by
  cases script with
  | nothing => exact List.forall_mem_nil _
  | push l bytes ids _ | acknowledged l ids | ignored l ids _ | closed l ids | establish l ids _
  | refuse l ids _ => exact List.forall_mem_singleton.mpr (plain_of_silent rfl)
  | pushForAck l bytes ids _ | connect _ =>
      exact List.forall_mem_cons.mpr
        ⟨plain_of_silent rfl, List.forall_mem_singleton.mpr (plain_emit rfl)⟩
  | close l ids =>
      exact List.forall_mem_cons.mpr ⟨plain_of_silent rfl, List.forall_mem_cons.mpr
        ⟨plain_emit rfl, List.forall_mem_singleton.mpr (plain_of_silent rfl)⟩⟩
  | fail attempt report =>
      refine List.forall_mem_append.mpr ⟨?_, List.forall_mem_append.mpr
        ⟨?_, List.forall_mem_singleton.mpr (plain_emit rfl)⟩⟩
      · rcases attempt with rfl | rfl
        · exact List.forall_mem_nil _
        · exact List.forall_mem_singleton.mpr (plain_of_silent rfl)
      · rcases report with rfl | ⟨message, rfl⟩
        · exact List.forall_mem_nil _
        · exact List.forall_mem_singleton.mpr (plain_emit rfl)

/-! ## The packet queue -/

def frames (t : StdioTunnel) : List (List Byte) :=
  t.m_write_stream.m_packet_queue.map WritePacket.payload

/-- The payloads queued since `t`. -/
def queued (t t' : StdioTunnel) : List (List Byte) := t'.frames.drop t.frames.length

/-- Packets of messages are added, or packets leave. -/
inductive Queues (t : StdioTunnel) : List Message → StdioTunnel → Prop where
  | adds {out : List Message} {t' : StdioTunnel}
      (frames : t'.frames = t.frames ++ out.map Message.payload) : Queues t out t'
  | leaves {gone : List (List Byte)} {t' : StdioTunnel} (frames : t.frames = gone ++ t'.frames) :
      Queues t [] t'

theorem Queues.queued {out : List Message} (queues : Queues t out t') :
    t.queued t' = out.map Message.payload := by
  unfold StdioTunnel.queued
  cases queues with
  | adds frames => rw [frames, List.drop_left]
  | leaves frames =>
      rw [frames, List.drop_eq_nil_of_le]
      · rfl
      · rw [List.length_append]
        exact Nat.le_add_left _ _

/-- The packet queue is the end of all that was queued. -/
theorem Queues.suffix {out : List Message} {before : List (List Byte)} (queues : Queues t out t')
    (suffix : t.frames <:+ before) : t'.frames <:+ before ++ t.queued t' := by
  rw [queues.queued]
  cases queues with
  | adds frames =>
      obtain ⟨sent, rfl⟩ := suffix
      exact ⟨sent, by rw [frames, List.append_assoc]⟩
  | leaves frames =>
      rw [List.map_nil, List.append_nil]
      exact List.IsSuffix.trans ⟨_, frames.symm⟩ suffix

theorem frames_of_writer (writer : t'.m_write_stream = t.m_write_stream) : t'.frames = t.frames := by
  unfold frames
  rw [writer]

theorem frames_of_emitting {out : List (List Byte)}
    (writer : t'.m_write_stream = t.m_write_stream.emitting out) :
    t'.frames = t.frames ++ out := by
  unfold frames
  rw [writer]
  unfold CustomWriteStream.emitting
  rw [List.map_append, List.map_map]
  have same : WritePacket.payload ∘ WritePacket.padded = id :=
    funext WritePacket.payload_ofQueue
  rw [same, List.map_id]

theorem frames_emit (t : StdioTunnel) (payload : List Byte) :
    (t.emit payload).frames = t.frames ++ [payload] := frames_of_emitting rfl

theorem Queues.none (frames : t'.frames = t.frames) : Queues t [] t' :=
  .adds (by rw [frames]; exact (List.append_nil _).symm)

/-- What operations queue. -/
theorem frames_run (run : Run Operation.Step t ops t') :
    t'.frames = t.frames ++ (ops.flatMap Operation.messages).map Message.payload := by
  induction ops generalizing t with
  | nil =>
      rw [run.of_nil]
      exact (List.append_nil _).symm
  | cons op rest ih =>
      obtain ⟨t₁, ⟨valid, rfl⟩, later⟩ := run.uncons
      rw [ih later, frames_of_emitting (Operation.writer_apply op t), List.flatMap_cons,
        List.map_append, List.append_assoc]

theorem messages_plain (plain : ∀ op ∈ ops, op.plain) :
    ∀ m ∈ ops.flatMap Operation.messages, m.greets = false := by
  intro m member
  obtain ⟨op, inOps, inMessages⟩ := List.mem_flatMap.mp member
  exact plain op inOps m inMessages

/-- Packets that leave. -/
theorem frames_empty {stream : WriteStream} {poll_struct after : Pollfd} {write : SysResult Nat}
    {taken : List Byte}
    (result : t.m_write_stream.toWriteStream.empty poll_struct write = .ok (stream, after, taken)) :
    ∃ gone, t.frames = gone ++ (t.mapWriter fun _ => stream).frames := by
  change ∃ gone, t.frames = gone ++ stream.m_packet_queue.map WritePacket.payload
  unfold frames
  unfold WriteStream.empty at result
  split at result
  · obtain ⟨rfl, _⟩ := Prod.mk.inj (Except.ok.inj result)
    exact ⟨[], rfl⟩
  · rename_i front rest packets
    rw [packets]
    split at result
    · obtain ⟨⟨sent, finished⟩, sends, result⟩ := of_bind_ok result
      obtain ⟨rfl, _⟩ := Prod.mk.inj (Except.ok.inj result)
      have same : sent.payload = front.payload := by
        unfold WritePacket.sendPacket at sends
        cases write with
        | fail errno => cases sends
        | ok count =>
            obtain ⟨rfl, _⟩ := Prod.mk.inj (Except.ok.inj sends)
            rfl
      cases finished with
      | true => exact ⟨[front.payload], rfl⟩
      | false =>
          refine ⟨[], ?_⟩
          change _ = (sent :: rest).map WritePacket.payload
          rw [List.map_cons, List.map_cons, same]
    · obtain ⟨rfl, _⟩ := Prod.mk.inj (Except.ok.inj result)
      exact ⟨[], by rw [packets]; rfl⟩

/-- What the dispatch of a listener or a link queues. -/
theorem polledObject_queues {polled : Polled} {poll_struct : Pollfd} {calls : Calls}
    (keyed : t.Keyed) (result : t.polledObject polled poll_struct calls = .ok t') :
    ∃ out : List Message, t'.frames = t.frames ++ out.map Message.payload ∧
      ∀ m ∈ out, m.greets = false := by
  rcases polledObject_run keyed result with ⟨ops, run, script⟩ | ⟨_, rfl⟩
  · exact ⟨_, frames_run run, messages_plain script.plain⟩
  · exact ⟨[], (List.append_nil _).symm, List.forall_mem_nil _⟩

/-- What a message for a connection queues. -/
theorem dispatchMessage_queues {conn : Short} {connect : ConnectResult} (keyed : t.Keyed)
    (result : t.dispatchMessage conn.val connect = .ok t') :
    ∃ out : List Message, t'.frames = t.frames ++ out.map Message.payload ∧
      ∀ m ∈ out, m.greets = false := by
  obtain ⟨command, q, id, fields, last, ops, _, _, run, script⟩ := dispatchMessage_run keyed result
  exact ⟨_, (frames_run run).trans (by rw [frames_of_writer]; rfl), messages_plain script.plain⟩

end StdioTunnel

open StdioTunnel (Queues)

/-! ## The local endpoint -/

namespace StdioTunnelLocal

variable {l l' : StdioTunnelLocal} {poll_struct : Pollfd} {calls : Calls}

theorem processFrame_queues (keyed : l.Keyed) (result : l.processFrame calls = .ok l') :
    ∃ out : List Message, l'.frames = l.frames ++ out.map Message.payload ∧
      ∀ m ∈ out, m.greets = false := by
  have nothing : ∀ l₁ : StdioTunnelLocal, l₁.m_write_stream = l.m_write_stream →
      ∃ out : List Message, l₁.frames = l.frames ++ out.map Message.payload ∧
        ∀ m ∈ out, m.greets = false := fun l₁ writer =>
    ⟨[], (StdioTunnel.frames_of_writer writer).trans (List.append_nil _).symm,
      List.forall_mem_nil _⟩
  unfold processFrame at result
  obtain ⟨⟨cmd, t⟩, first, result⟩ := of_bind_ok result
  obtain ⟨q, _, rfl⟩ := StdioTunnel.readShort_split first
  have read : Aside l.toStdioTunnel (l.toStdioTunnel.reading q) := .withReader _ _
  dsimp only at result
  split at result
  · obtain ⟨⟨message, t₁⟩, text, result⟩ := of_bind_ok result
    obtain ⟨t₂, reports, result⟩ := of_bind_ok result
    obtain rfl := Except.ok.inj result
    unfold StdioTunnel.readString at text
    obtain ⟨⟨bytes, stream⟩, _, text⟩ := of_bind_ok text
    obtain ⟨rfl, rfl⟩ := Prod.mk.inj (Except.ok.inj text)
    have both := read.trans (.withReader (l.toStdioTunnel.reading q) stream)
    rcases StdioTunnel.reportError_run (both.keyed keyed).ready reports with rfl | rfl
    · exact nothing _ rfl
    · exact ⟨[.error bytes], StdioTunnel.frames_of_emitting rfl,
        List.forall_mem_singleton.mpr rfl⟩
  split at result
  · obtain rfl := Except.ok.inj result
    exact nothing _ rfl
  split at result
  · obtain ⟨⟨id, t₁⟩, second, result⟩ := of_bind_ok result
    obtain ⟨t₂, third, result⟩ := of_bind_ok result
    obtain rfl := Except.ok.inj result
    obtain ⟨q', _, rfl⟩ := StdioTunnel.readShort_split second
    have twice := read.trans (.withReader (l.toStdioTunnel.reading q)
      ((l.toStdioTunnel.reading q).m_read_stream.withQueue q'))
    have queues := StdioTunnel.dispatchMessage_queues (twice.keyed keyed) third
    exact queues
  split at result
  · obtain rfl := Except.ok.inj result
    exact nothing _ rfl
  · obtain rfl := Except.ok.inj result
    exact nothing _ rfl

theorem connectedRead_queues (keyed : l.Keyed) (result : l.connectedRead poll_struct calls = .ok l') :
    (∃ out : List Message, l'.frames = l.frames ++ out.map Message.payload ∧
      ∀ m ∈ out, m.greets = false) ∧
      (l'.m_state = l.m_state ∨ l'.m_state = .CONNECTED) ∧ l'.m_read_fd = l.m_read_fd ∧
      l'.m_write_fd = l.m_write_fd := by
  unfold connectedRead at result
  split at result
  · cases result
  obtain ⟨stream, _, result⟩ := of_bind_ok result
  dsimp only at result
  split at result
  · have filled : Aside l.toStdioTunnel (l.toStdioTunnel.withReader stream) := .withReader _ _
    refine ⟨processFrame_queues (l := l.withReader stream) (filled.keyed keyed) result, ?_⟩
    obtain ⟨t, rfl | rfl⟩ := processFrame_state (l := l.withReader stream) result
    · exact ⟨Or.inl rfl, rfl, rfl⟩
    · exact ⟨Or.inr rfl, rfl, rfl⟩
  · obtain rfl := Except.ok.inj result
    exact ⟨⟨[], (List.append_nil _).symm, List.forall_mem_nil _⟩, Or.inl rfl, rfl, rfl⟩

theorem connectedWrite_queues (result : l.connectedWrite poll_struct calls = .ok l') :
    (∃ gone, l.frames = gone ++ l'.frames) ∧ l'.m_state = l.m_state ∧
      l'.m_read_fd = l.m_read_fd ∧ l'.m_write_fd = l.m_write_fd := by
  unfold connectedWrite at result
  split at result
  · cases result
  obtain ⟨⟨stream, after, taken⟩, empties, result⟩ := of_bind_ok result
  have leaves := StdioTunnel.frames_empty empties
  dsimp only at result
  split at result
  · obtain rfl := Except.ok.inj result
    exact ⟨leaves, rfl, rfl, rfl⟩
  · obtain rfl := Except.ok.inj result
    exact ⟨leaves, rfl, rfl, rfl⟩

theorem connectedStdout_queues (result : l.connectedStdout calls = .ok l') :
    l'.frames = l.frames ∧ l'.m_state = l.m_state ∧ l'.m_read_fd = l.m_read_fd ∧
      l'.m_write_fd = l.m_write_fd := by
  unfold connectedStdout at result
  split at result
  · obtain ⟨buffer, rfl⟩ := writeDetected_same result
    exact ⟨rfl, rfl, rfl, rfl⟩
  · obtain rfl := Except.ok.inj result
    exact ⟨rfl, rfl, rfl, rfl⟩

/-- What a dispatch of the endpoint itself queues after the handshake. -/
theorem polledConnected_queues (keyed : l.Keyed) (pipes : l.m_read_fd ≠ l.m_write_fd)
    (result : l.polledConnected poll_struct calls = .ok l') :
    (∃ out, Queues l.toStdioTunnel out l'.toStdioTunnel ∧ ∀ m ∈ out, m.greets = false) ∧
      (l'.m_state = l.m_state ∨ l'.m_state = .CONNECTED) ∧ l'.m_read_fd = l.m_read_fd ∧
      l'.m_write_fd = l.m_write_fd := by
  unfold polledConnected at result
  obtain ⟨l₁, reads, result⟩ := of_bind_ok result
  obtain ⟨l₂, writes, result⟩ := of_bind_ok result
  have last : l'.frames = l₂.frames ∧ l'.m_state = l₂.m_state ∧ l'.m_read_fd = l₂.m_read_fd ∧
      l'.m_write_fd = l₂.m_write_fd := by
    unfold onFd at result
    split at result
    · exact connectedStdout_queues result
    · obtain rfl := Except.ok.inj result
      exact ⟨rfl, rfl, rfl, rfl⟩
  obtain ⟨frames, state, read_fd, write_fd⟩ := last
  by_cases here : poll_struct.fd = l.m_read_fd
  · rw [onFd_self _ _ here] at reads
    obtain ⟨⟨out, adds, plain⟩, state₁, read_fd₁, write_fd₁⟩ := connectedRead_queues keyed reads
    rw [onFd_of_ne _ _ (by rw [here, write_fd₁]; exact pipes)] at writes
    obtain rfl := Except.ok.inj writes
    exact ⟨⟨out, .adds (frames.trans adds), plain⟩, by rw [state]; exact state₁,
      read_fd.trans read_fd₁, write_fd.trans write_fd₁⟩
  · rw [onFd_of_ne _ _ here] at reads
    obtain rfl := Except.ok.inj reads
    unfold onFd at writes
    split at writes
    · obtain ⟨⟨gone, leaves⟩, state₂, read_fd₂, write_fd₂⟩ := connectedWrite_queues writes
      exact ⟨⟨[], .leaves (leaves.trans (by rw [frames])), List.forall_mem_nil _⟩,
        Or.inl (state.trans state₂), read_fd.trans read_fd₂, write_fd.trans write_fd₂⟩
    · obtain rfl := Except.ok.inj writes
      exact ⟨⟨[], .none frames, List.forall_mem_nil _⟩, Or.inl state, read_fd, write_fd⟩

/-- What a dispatch of the local endpoint does to its state and its frames. -/
inductive Advance (l : StdioTunnelLocal) (event : Event) (l' : StdioTunnelLocal) : Prop where
  /-- it looks after the standard streams -/
  | passes (self : event.polled = .stdioTunnel) (state : l.m_state = .PASS_THROUGH)
      (passes : Passes l (l.detected event.poll_struct event.calls).1
        ((l.detected event.poll_struct event.calls).2.count .startHandshaking) l')
  /-- frames about links are queued, or frames leave -/
  | speaks {out : List Message} (queues : Queues l.toStdioTunnel out l'.toStdioTunnel)
      (plain : ∀ m ∈ out, m.greets = false)
      (state : l'.m_state = l.m_state ∨
        (l.m_state = .HAND_SHAKE ∨ l.m_state = .CONNECTED) ∧ l'.m_state = .CONNECTED)
      (idle : l.m_state = .PASS_THROUGH →
        event.polled ≠ .stdioTunnel ∧ l'.m_read_buffer = l.m_read_buffer)
      (read_fd : l'.m_read_fd = l.m_read_fd) (write_fd : l'.m_write_fd = l.m_write_fd)

theorem dispatch_advance {event : Event} (keyed : l.Keyed) (pipes : l.m_read_fd ≠ l.m_write_fd)
    (result : l.dispatch event.polled event.poll_struct event.calls = .ok l') :
    Advance l event l' := by
  have connected : l.m_state = .HAND_SHAKE ∨ l.m_state = .CONNECTED →
      l.polledConnected event.poll_struct event.calls = .ok l' → Advance l event l' := by
    intro state result
    obtain ⟨⟨out, queues, plain⟩, state', read_fd, write_fd⟩ :=
      polledConnected_queues keyed pipes result
    refine .speaks queues plain (state'.imp_right fun same => ⟨state, same⟩) (fun no => ?_) read_fd
      write_fd
    rw [no] at state
    rcases state with state | state <;> cases state
  unfold dispatch at result
  split at result
  · rename_i self
    unfold polled at result
    split at result
    · rename_i state
      exact .passes self state (passThrough_passes keyed result)
    · rename_i state
      exact connected (Or.inl state) result
    · rename_i state
      exact connected (Or.inr state) result
    · rename_i passing _ _
      obtain rfl := Except.ok.inj result
      exact .speaks (.none rfl) (List.forall_mem_nil _) (Or.inl rfl) (fun no => absurd no passing)
        rfl rfl
  · rename_i other
    obtain ⟨t, handled, result⟩ := of_bind_ok result
    obtain rfl := Except.ok.inj result
    obtain ⟨out, adds, plain⟩ := StdioTunnel.polledObject_queues keyed handled
    exact .speaks (.adds adds) plain (Or.inl rfl) (fun _ => ⟨other, rfl⟩) rfl rfl

end StdioTunnelLocal

end Tun01
