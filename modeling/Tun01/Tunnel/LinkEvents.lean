import Tun01.Tunnel.LastRound

/-!
# What links are polled for

The record of a link asks for output exactly while the link has bytes for its
socket, for input only when nothing it sent waits for an acknowledgement, and
for nothing only then.
-/

namespace Tun01

open StdioTunnel (Aside Linkless)

namespace StdioTunnel

variable {t t' : StdioTunnel}

/-- A link waits for its reply, or its one record asks for what there is to do. -/
inductive Served (l : ConnectionLink) : List Pollfd → Prop where
  | waiting (idle : l.m_buffer.unsentData = false) (acked : l.m_acknowledged = true) : Served l []
  | polled {record : Pollfd} (fd : record.fd = l.m_socket)
      (output : record.events.POLLOUT = l.m_buffer.unsentData)
      (input : record.events.POLLIN = true → l.m_acknowledged = true)
      (quiet : record.events = .zero → l.m_acknowledged = false) : Served l [record]

/-- Every link that is not closing is served; sockets and buffers are in order. -/
structure Serving (t : StdioTunnel) : Prop where
  sockets : ∀ x i l, t.link? x i = some l → l.m_socket < t.os.next_socket
  handedOut : ∀ x i s, t.os.next_socket ≤ s → t.registrations (.connectionLink x i s) = []
  buffers : ∀ x i l, t.link? x i = some l → l.m_buffer.Valid
  served : ∀ x i l, t.link? x i = some l → l.m_closing = false →
    Served l (t.registrations (.connectionLink x i l.m_socket))

/-- The link has a record. -/
def IsPolled (t : StdioTunnel) (conn : Short) (l : ConnectionLink) : Prop :=
  t.registrations (.connectionLink conn.val l.m_id l.m_socket) ≠ []

theorem Served.update {l l' : ConnectionLink} {records : List Pollfd} {events : PollEvents}
    (served : Served l records) (some' : records ≠ []) (socket : l'.m_socket = l.m_socket)
    (output : events.POLLOUT = l'.m_buffer.unsentData)
    (input : events.POLLIN = true → l'.m_acknowledged = true)
    (quiet : events = .zero → l'.m_acknowledged = false) :
    Served l' (Poller.setFirst l.m_socket events records) := by
  cases served with
  | waiting idle acked => exact absurd rfl some'
  | @polled record fd _ _ _ =>
      rw [Operation.setFirst_single fd]
      exact .polled (fd.trans (congrArg Nat.cast socket.symm)) output input quiet

end StdioTunnel

namespace Operation

open StdioTunnel

variable {t t' : StdioTunnel} {op : Operation}

/-- Handlers of an endpoint whose peer is honest make only such operations. -/
def Tends (t : StdioTunnel) : Operation → Prop
  | push conn l bytes => bytes ≠ [] ∧ t.IsPolled conn l
  | acknowledge conn l ack => ack = true ∨ t.IsPolled conn l
  | written _ l buffer bytes => ∃ write : SysResult Nat, write.WritesWithin l.m_buffer.request ∧
      l.m_buffer.writeData write = (buffer, .ok bytes)
  | establish conn l => ¬ t.IsPolled conn l
  | emit _ | received _ _ _ | close _ _ | erase _ _ | refuse _ _ | accept _ _ _ _ | attempt _ _
  | connect _ _ => True

/-- A write takes no more bytes than it was offered. -/
def Measured : Operation → Prop
  | written _ l buffer bytes => ∃ write : SysResult Nat, write.WritesWithin l.m_buffer.request ∧
      l.m_buffer.writeData write = (buffer, .ok bytes)
  | emit _ | received _ _ _ | acknowledge _ _ _ | push _ _ _ | close _ _ | erase _ _
  | establish _ _ | refuse _ _ | accept _ _ _ _ | attempt _ _ | connect _ _ => True

theorem Tends.measured (tends : op.Tends t) : op.Measured := by
  cases op with
  | written _ _ _ _ => exact tends
  | emit _ | received _ _ _ | acknowledge _ _ _ | push _ _ _ | close _ _ | erase _ _
  | establish _ _ | refuse _ _ | accept _ _ _ _ | attempt _ _ | connect _ _ => trivial

/-- A buffer that an operation stores is in order. -/
theorem buffer_stored (valid : op.Valid t) (measured : op.Measured)
    (buffers : ∀ x i l, t.link? x i = some l → l.m_buffer.Valid) {x : Int} {i : Short}
    {l : ConnectionLink} (found : (op.apply t).link? x i = some l) : l.m_buffer.Valid := by
  rw [link?_apply valid] at found
  cases stored : op.stores t with
  | none =>
      rw [stored] at found
      exact buffers x i l found
  | some entry =>
      obtain ⟨conn, id, l'⟩ := entry
      rw [stored] at found
      dsimp only at found
      split at found
      · subst found
        cases op with
        | emit _ | received _ _ _ | establish _ _ | attempt _ _ | erase _ _ | refuse _ _ =>
            cases stored
        | acknowledge conn' l₀ ack =>
            cases stored
            exact buffers _ _ l₀ valid
        | push conn' l₀ bytes =>
            cases stored
            exact SockBuffer.insert_valid (buffers _ _ l₀ valid.1) bytes
        | written conn' l₀ buffer bytes =>
            cases stored
            obtain ⟨write, within, result⟩ := measured
            exact ((buffers _ _ l₀ valid.1).writeData within result).1
        | close conn' l₀ =>
            cases stored
            exact buffers _ _ l₀ valid.1
        | accept _ _ _ _ | connect _ _ =>
            cases stored
            exact SockBuffer.fresh_valid
      · exact buffers x i l found

/-- Where nothing is about a link, it is served as before. -/
theorem served_other {conn id : Short} {stored : Option ConnectionLink} (serving : t.Serving)
    (stores : op.stores t = some (conn, id, stored))
    (about : ∀ x i s f, op.records t = some (.connectionLink x i s, f) → x = conn.val ∧ i = id)
    {x : Int} {i : Short} {l : ConnectionLink} (valid : op.Valid t)
    (found : (op.apply t).link? x i = some l) (other : ¬(x = conn.val ∧ i = id))
    (up : l.m_closing = false) :
    Served l ((op.apply t).registrations (.connectionLink x i l.m_socket)) := by
  rw [link?_apply valid, stores] at found
  dsimp only at found
  rw [if_neg other] at found
  rcases link_records op t x i l.m_socket with same | ⟨f, mine, _⟩
  · rw [same]
    exact serving.served x i l found up
  · exact absurd (about x i l.m_socket f mine) other

/-- The link an operation stores under the identifier it has at hand. -/
theorem stored_here {conn id : Short} {l l' : ConnectionLink} (valid : op.Valid t)
    (stores : op.stores t = some (conn, id, some l'))
    (found : (op.apply t).link? conn.val id = some l) : l = l' := by
  rw [link?_apply valid, stores] at found
  dsimp only at found
  rw [if_pos ⟨rfl, rfl⟩] at found
  exact (Option.some.inj found).symm

/-- After a write that left nothing, and before it, something was there exactly if there is. -/
theorem unsent_written {b b' : SockBuffer} {write : SysResult Nat} {bytes : List Byte}
    (valid : b.Valid) (within : write.WritesWithin b.request)
    (result : b.writeData write = (b', .ok bytes)) (unsent : b'.unsentData = true) :
    b.unsentData = true := by
  obtain ⟨valid', pending⟩ := valid.writeData within result
  have more := valid'.unsentData_iff.mp unsent
  refine valid.unsentData_iff.mpr ?_
  rw [pending]
  exact fun no => more (List.append_eq_nil_iff.mp no).2

/-- Data that was accepted has to be sent. -/
theorem unsent_pushed {b : SockBuffer} (valid : b.Valid) {bytes : List Byte} (some' : bytes ≠ []) :
    (b.insert bytes).unsentData = true := by
  refine (SockBuffer.insert_valid valid bytes).unsentData_iff.mpr ?_
  rw [SockBuffer.insert_pending]
  exact fun no => some' (List.append_eq_nil_iff.mp no).2

/-- The links that are not closing stay served. -/
theorem served_apply (valid : op.Valid t) (tends : op.Tends t) (serving : t.Serving) {x : Int}
    {i : Short} {l' : ConnectionLink} (found : (op.apply t).link? x i = some l')
    (up : l'.m_closing = false) :
    Served l' ((op.apply t).registrations (.connectionLink x i l'.m_socket)) := by
  cases op with
  | emit _ | received _ _ _ | attempt _ _ =>
      rcases link_records _ t x i l'.m_socket with same | ⟨f, about, _⟩
      · rw [same]
        exact serving.served x i l' found up
      · cases about
  | acknowledge conn l ack =>
      by_cases here : x = conn.val ∧ i = l.m_id
      · obtain ⟨rfl, rfl⟩ := here
        obtain rfl := stored_here valid rfl found
        have isOpen : l.m_closing = false := up
        have before := serving.served _ _ l valid isOpen
        rw [registrations_apply _ (y := .connectionLink conn.val l.m_id l.m_socket) nofun]
        dsimp only [Operation.records]
        rw [if_neg (by rw [isOpen]; exact Bool.false_ne_true)]
        dsimp only
        rw [if_pos rfl]
        by_cases polled : t.IsPolled conn l
        · refine before.update polled rfl rfl (fun input => input) fun quiet => ?_
          exact congrArg PollEvents.POLLIN quiet
        · have none : t.registrations (.connectionLink conn.val l.m_id l.m_socket) = [] :=
            not_not.mp polled
          rw [none] at before ⊢
          cases before with
          | waiting idle acked => exact .waiting idle (tends.resolve_right polled)
      · refine served_other serving rfl ?_ valid found here up
        intro x i s f about
        dsimp only [Operation.records] at about
        split at about <;> cases about
        exact ⟨rfl, rfl⟩
  | push conn l bytes =>
      by_cases here : x = conn.val ∧ i = l.m_id
      · obtain ⟨rfl, rfl⟩ := here
        obtain rfl := stored_here valid rfl found
        rw [registrations_apply _ (y := .connectionLink conn.val l.m_id l.m_socket) nofun]
        dsimp only [Operation.records]
        rw [if_pos rfl]
        refine (serving.served _ _ l valid.1 valid.2).update tends.2 rfl ?_ nofun nofun
        exact (unsent_pushed (serving.buffers _ _ l valid.1) tends.1).symm
      · refine served_other serving rfl ?_ valid found here up
        intro x i s f about
        cases about
        exact ⟨rfl, rfl⟩
  | written conn l buffer bytes =>
      by_cases here : x = conn.val ∧ i = l.m_id
      · obtain ⟨rfl, rfl⟩ := here
        obtain rfl := stored_here valid rfl found
        have before := serving.served _ _ l valid.1 up
        obtain ⟨write, within, result⟩ := tends
        have had := unsent_written (serving.buffers _ _ l valid.1) within result
        rw [registrations_apply _ (y := .connectionLink conn.val l.m_id l.m_socket) nofun]
        dsimp only [Operation.records]
        cases more : buffer.unsentData with
        | true =>
            rw [if_pos rfl]
            dsimp only
            have unsent := had more
            generalize t.registrations (.connectionLink conn.val l.m_id l.m_socket) = records at before
            cases before with
            | waiting idle acked =>
                rw [unsent] at idle
                cases idle
            | polled fd output input quiet =>
                exact .polled fd (output.trans (unsent.trans more.symm)) input quiet
        | false =>
            rw [if_neg Bool.false_ne_true]
            dsimp only
            rw [if_pos rfl]
            by_cases polled : t.IsPolled conn l
            · refine before.update polled rfl more.symm (fun input => input) fun quiet => ?_
              exact congrArg PollEvents.POLLIN quiet
            · have none : t.registrations (.connectionLink conn.val l.m_id l.m_socket) = [] :=
                not_not.mp polled
              rw [none] at before ⊢
              cases before with
              | waiting idle acked => exact .waiting more acked
      · refine served_other serving rfl ?_ valid found here up
        intro x i s f about
        dsimp only [Operation.records] at about
        split at about <;> cases about
        exact ⟨rfl, rfl⟩
  | close conn l =>
      by_cases here : x = conn.val ∧ i = l.m_id
      · obtain ⟨rfl, rfl⟩ := here
        obtain rfl := stored_here valid rfl found
        cases up
      · refine served_other serving rfl ?_ valid found here up
        intro x i s f about
        cases about
        exact ⟨rfl, rfl⟩
  | erase conn l | refuse conn l =>
      by_cases here : x = conn.val ∧ i = l.m_id
      · rw [link?_apply valid] at found
        dsimp only [Operation.stores] at found
        rw [if_pos here] at found
        cases found
      · exact served_other serving rfl (fun _ _ _ _ about => by cases about) valid found here up
  | establish conn l =>
      have before := serving.served x i l' found up
      rcases link_records (.establish conn l) t x i l'.m_socket with same | ⟨f, about, same⟩
      · rw [same]
        exact before
      · obtain ⟨isLink, rfl⟩ := Prod.mk.inj (Option.some.inj about)
        obtain ⟨rfl, rfl, _⟩ := Polled.connectionLink.inj isLink
        obtain rfl : l' = l := Option.some.inj (found.symm.trans valid.1)
        have none : t.registrations (.connectionLink conn.val l'.m_id l'.m_socket) = [] :=
          not_not.mp tends
        rw [same]
        rw [none] at before ⊢
        cases before with
        | waiting idle acked => exact .polled rfl idle.symm (fun _ => acked) nofun
  | accept conn c socket n =>
      by_cases here : x = conn.val ∧ i = Short.ofInt n
      · obtain ⟨rfl, rfl⟩ := here
        obtain rfl := stored_here valid rfl found
        have none := serving.handedOut conn.val (Short.ofInt n) t.os.next_socket (Nat.le_refl _)
        rcases link_records (.accept conn c socket n) t conn.val (Short.ofInt n)
          t.os.next_socket with same | ⟨f, about, _⟩
        · change Served _ ((apply t (.accept conn c socket n)).registrations
            (.connectionLink conn.val (Short.ofInt n) t.os.next_socket))
          rw [same, none]
          exact .waiting rfl rfl
        · cases about
      · exact served_other serving rfl (fun _ _ _ _ about => by cases about) valid found here up
  | connect conn id =>
      by_cases here : x = conn.val ∧ i = id
      · obtain ⟨rfl, rfl⟩ := here
        obtain rfl := stored_here valid rfl found
        have none := serving.handedOut conn.val i t.os.next_socket (Nat.le_refl _)
        change Served _ ((apply t (.connect conn i)).registrations
          (.connectionLink conn.val i t.os.next_socket))
        rw [registrations_apply _ (y := .connectionLink conn.val i t.os.next_socket) nofun]
        dsimp only [Operation.records]
        rw [if_pos rfl, none]
        exact .polled rfl rfl (fun _ => rfl) nofun
      · refine served_other serving rfl ?_ valid found here up
        intro x i s f about
        cases about
        exact ⟨rfl, rfl⟩

theorem serving_apply (valid : op.Valid t) (tends : op.Tends t) (serving : t.Serving) :
    (op.apply t).Serving where
  sockets := fun _ _ _ found => socket_stored valid serving.sockets found
  handedOut := records_handedOut valid serving.sockets serving.handedOut
  buffers := fun _ _ _ found => buffer_stored valid tends.measured serving.buffers found
  served := fun _ _ _ found up => served_apply valid tends serving found up

/-- One such operation as a step. -/
def TendStep (t : StdioTunnel) (op : Operation) (t' : StdioTunnel) : Prop :=
  Operation.Step t op t' ∧ op.Tends t

theorem serving_run {ops : List Operation} (run : Run TendStep t ops t') (serving : t.Serving) :
    t'.Serving := by
  refine run.invariant serving ?_
  rintro u op _ serving ⟨⟨valid, rfl⟩, tends⟩
  exact serving_apply valid tends serving

/-- Operations that are such in every state. -/
theorem tends_run {ops : List Operation} (run : Run Operation.Step t ops t')
    (always : ∀ op ∈ ops, ∀ t, op.Tends t) : Run TendStep t ops t' := by
  induction ops generalizing t with
  | nil =>
      rw [run.of_nil]
      exact .nil
  | cons op rest ih =>
      obtain ⟨t₁, taken, later⟩ := run.uncons
      obtain ⟨here, others⟩ := List.forall_mem_cons.mp always
      exact .cons ⟨taken, here t⟩ (ih later others)

end Operation

namespace StdioTunnel

open Operation (TendStep tends_run)

variable {t t' : StdioTunnel} {conn id : Short} {c : TunnelConnection} {l : ConnectionLink}

theorem closingOps_tends (conn : Short) (l : ConnectionLink) :
    ∀ op ∈ closingOps conn l, ∀ t, op.Tends t := by
  unfold closingOps
  split
  · exact List.forall_mem_nil _
  · exact List.forall_mem_cons.mpr
      ⟨fun _ => trivial, List.forall_mem_singleton.mpr fun _ => trivial⟩

/-- Reading from a link that has a record. -/
theorem readingOps_tends {bytes : List Byte} {rest : List Operation}
    (run : Run Operation.Step t (readingOps conn c l bytes ++ rest) t')
    (polled : t.IsPolled conn l) (always : ∀ op ∈ rest, ∀ t, op.Tends t) :
    Run TendStep t (readingOps conn c l bytes ++ rest) t' := by
  unfold readingOps at run ⊢
  obtain ⟨t₁, first, run⟩ := run.uncons
  obtain ⟨t₂, second, run⟩ := run.uncons
  refine .cons ⟨first, trivial⟩ (.cons ⟨second, trivial⟩ ?_)
  have stays : t₂.IsPolled conn l := by
    have same : t₂.registrations (.connectionLink conn.val l.m_id l.m_socket) =
        t₁.registrations (.connectionLink conn.val l.m_id l.m_socket) := by
      rw [second.2]
      exact registrations_emit (x := .connectionLink conn.val l.m_id l.m_socket) nofun _
    rw [first.2] at same
    exact fun none => polled (same.symm.trans none)
  change Run Operation.Step t₂ ((if c.m_spec.ackPackets then [.acknowledge conn l false] else []) ++
    rest) t' at run
  change Run TendStep t₂ ((if c.m_spec.ackPackets then [.acknowledge conn l false] else []) ++
    rest) t'
  split
  · rename_i acks
    rw [if_pos acks] at run
    obtain ⟨t₃, third, run⟩ := run.uncons
    exact .cons ⟨third, Or.inr stays⟩ (tends_run run always)
  · rename_i free
    rw [if_neg free] at run
    exact tends_run run always

/-- A link that is dispatched. -/
theorem LinkSteps.tends {revents : PollEvents} {read : SysResult (List Byte)}
    {write : SysResult Nat} {ops : List Operation}
    (steps : LinkSteps conn c l revents read write ops) (run : Run Operation.Step t ops t')
    (polled : t.IsPolled conn l) (within : write.WritesWithin l.m_buffer.request) :
    Run TendStep t ops t' := by
  cases steps with
  | closes => exact tends_run run (closingOps_tends conn l)
  | @goesOn first second l' l'' reads writes =>
      have same : l'.m_buffer = l.m_buffer := by
        rcases reads with ⟨_, _, rfl⟩ | ⟨_, _, _, _, _, rfl⟩
        · rfl
        · exact (readingLink_same c l).2.2.2
      have last : ∀ op ∈ (if revents.failure then closingOps conn l'' else []), ∀ t, op.Tends t := by
        split
        · exact closingOps_tends conn l''
        · exact List.forall_mem_nil _
      have rest : ∀ op ∈ second ++ (if revents.failure then closingOps conn l'' else []),
          ∀ t, op.Tends t := by
        refine List.forall_mem_append.mpr ⟨?_, last⟩
        rcases writes with ⟨_, rfl, _⟩ | ⟨_, buffer, bytes, outcome, rfl, _⟩
        · exact List.forall_mem_nil _
        · refine List.forall_mem_singleton.mpr fun _ => ⟨write, ?_, outcome⟩
          rw [same]
          exact within
      rcases reads with ⟨_, rfl, _⟩ | ⟨_, bytes, _, _, rfl, _⟩
      · exact tends_run run rest
      · exact readingOps_tends run polled rest

/-- A message of an honest endpoint. -/
theorem Script.tends {fields : List Byte} {connect : ConnectResult} {command : Short}
    {ops : List Operation} (script : Script conn id fields connect command ops)
    (run : Run Operation.Step t ops t')
    (data : ∀ l bytes, command = LINK_SEND ∨ command = LINK_SEND_FOR_ACK → l.m_id = id →
      Brings fields bytes → t.Stores conn l → l.m_closing = false →
      bytes ≠ [] ∧ t.IsPolled conn l)
    (reply : ∀ l, command = LINK_CREATE → l.m_id = id → t.Stores conn l →
      t.listens conn.val = true → ¬ t.IsPolled conn l) :
    Run TendStep t ops t' := by
  cases script with
  | nothing => exact tends_run run (List.forall_mem_nil _)
  | push l bytes ids brings =>
      obtain ⟨t₁, first, later⟩ := run.uncons
      rw [later.of_nil]
      exact .single ⟨first, data l bytes (Or.inl rfl) ids brings first.1.1 first.1.2⟩
  | pushForAck l bytes ids brings =>
      obtain ⟨t₁, first, later⟩ := run.uncons
      exact .cons ⟨first, data l bytes (Or.inr rfl) ids brings first.1.1 first.1.2⟩
        (tends_run later (List.forall_mem_singleton.mpr fun _ => trivial))
  | acknowledged | ignored => exact tends_run run (List.forall_mem_singleton.mpr fun _ => Or.inl rfl)
  | closed | refuse => exact tends_run run (List.forall_mem_singleton.mpr fun _ => trivial)
  | establish l ids success =>
      obtain ⟨t₁, first, later⟩ := run.uncons
      rw [later.of_nil]
      exact .single ⟨first, reply l rfl ids first.1.1 first.1.2⟩
  | connect =>
      exact tends_run run (List.forall_mem_cons.mpr
        ⟨fun _ => trivial, List.forall_mem_singleton.mpr fun _ => trivial⟩)
  | close =>
      exact tends_run run (List.forall_mem_cons.mpr ⟨fun _ => trivial, List.forall_mem_cons.mpr
        ⟨fun _ => trivial, List.forall_mem_singleton.mpr fun _ => trivial⟩⟩)
  | fail attempt report =>
      refine tends_run run (List.forall_mem_append.mpr ⟨?_, List.forall_mem_append.mpr
        ⟨?_, List.forall_mem_singleton.mpr fun _ => trivial⟩⟩)
      · rcases attempt with rfl | rfl
        · exact List.forall_mem_nil _
        · exact List.forall_mem_singleton.mpr fun _ => trivial
      · rcases report with rfl | ⟨message, rfl⟩
        · exact List.forall_mem_nil _
        · exact List.forall_mem_singleton.mpr fun _ => trivial

theorem Serving.aside (aside : Aside t t') (serving : t.Serving) : t'.Serving where
  sockets := by
    intro x i l found
    rw [aside.link?] at found
    rw [aside.os]
    exact serving.sockets x i l found
  handedOut := by
    intro x i s above
    rw [aside.os] at above
    rw [aside.records (.connectionLink x i s) nofun]
    exact serving.handedOut x i s above
  buffers := by
    intro x i l found
    rw [aside.link?] at found
    exact serving.buffers x i l found
  served := by
    intro x i l found up
    rw [aside.link?] at found
    rw [aside.records (.connectionLink x i l.m_socket) nofun]
    exact serving.served x i l found up

theorem Linkless.serving (none : t.Linkless) : t.Serving where
  sockets := by
    intro x i l found
    rw [none.link] at found
    cases found
  handedOut := fun x i s _ => none.records x i s
  buffers := by
    intro x i l found
    rw [none.link] at found
    cases found
  served := by
    intro x i l found
    rw [none.link] at found
    cases found

end StdioTunnel

/-! ## Runs -/

namespace Endpoint

open Operation (TendStep tends_run)

variable {e e' : Endpoint} {event : Event} {events : List Event}

/--
The other endpoint keeps the protocol, and the data it sends is some bytes for
a link that is up.
-/
structure Candid (e : Endpoint) (event : Event) : Prop extends Honest e event where
  data : ∀ conn command id fields, e.message event = some (conn, command, id, fields) →
    command = LINK_SEND ∨ command = LINK_SEND_FOR_ACK →
    (∀ length rest, splitShort fields = some (length, rest) → 0 < length.val) ∧
      e.tunnel.phase conn.val id ≠ .pending

/-- A dispatch while the other endpoint is honest. -/
def Fair (e : Endpoint) (event : Event) (e' : Endpoint) : Prop :=
  e.Step event e' ∧ e.Candid event

theorem Fair.serving (fair : e.Fair event e') (waitsEmpty : e.WaitsEmpty) (serving : e.tunnel.Serving) :
    e'.tunnel.Serving := by
  obtain ⟨step, candid⟩ := fair
  have keyed := waitsEmpty.keyed
  have turn := dispatch_turn keyed step.result
  cases turn with
  | aside same => exact serving.aside same
  | object run script =>
      by_cases isLink : ∃ x i s, event.polled = .connectionLink x i s
      · obtain ⟨x, i, s, polled⟩ := isLink
        obtain ⟨conn, c, l, ops, rfl, _, stores, rfl, rfl, run, steps⟩ :=
          dispatch_link keyed polled step.result
        have registered : e.tunnel.IsPolled conn l := by
          obtain ⟨record, member, _⟩ := step.registered
          rw [polled] at member
          exact List.ne_nil_of_mem member
        have within : event.calls.write.WritesWithin l.m_buffer.request := by
          have bounds := step.within
          unfold Event.Within at bounds
          rw [polled] at bounds
          exact bounds.2 l stores
        exact Operation.serving_run (steps.tends run registered within) serving
      · refine Operation.serving_run (tends_run run ?_) serving
        generalize event.polled = polled at script isLink
        cases script with
        | listener conn c socket n =>
            exact List.forall_mem_cons.mpr
              ⟨fun _ => trivial, List.forall_mem_singleton.mpr fun _ => trivial⟩
        | link conn c l script => exact absurd ⟨_, _, _, rfl⟩ isLink
        | tunnel => exact List.forall_mem_nil _
  | @message conn command id fields ops t t' handles before run script after =>
      have phase : ∀ x i, t.phase x i = e.tunnel.phase x i := by
        intro x i
        unfold StdioTunnel.phase
        rw [before.link?]
        cases e.tunnel.link? x i with
        | none => rfl
        | some l =>
            dsimp only
            rw [before.records (.connectionLink x i l.m_socket) nofun]
      have stored : ∀ {l : ConnectionLink}, l.m_id = id → t.Stores conn l →
          t.link? conn.val id = some l := by
        rintro l rfl stores
        exact stores
      have tends := script.tends run (by
        intro l bytes isData ids brings stores up
        obtain ⟨nonempty, notPending⟩ := candid.data conn command id fields handles isData
        obtain ⟨length, rest, split, size⟩ := brings
        have positive := nonempty length _ split
        refine ⟨fun none => ?_, fun none => notPending ?_⟩
        · rw [none] at size
          change (0 : Int) = length.val at size
          omega
        · rw [← phase]
          subst ids
          exact StdioTunnel.phase_of_waiting stores up none) (by
        intro l isReply ids stores listens polled
        subst isReply
        have heard : e.tunnel.listens conn.val = true := by
          unfold StdioTunnel.listens StdioTunnel.kind? StdioTunnel.bare? at listens ⊢
          rw [before.connection?] at listens
          exact listens
        have waits := candid.reply conn id fields handles heard
        rw [← phase] at waits
        obtain ⟨l', found, _, none⟩ := StdioTunnel.link?_of_pending waits
        obtain rfl := Option.some.inj (found.symm.trans (stored ids stores))
        subst ids
        exact polled none)
      exact (Operation.serving_run tends (serving.aside before)).aside after
  | handshake isRemote waits linkless listens keyed' joined server =>
      obtain ⟨_, none⟩ := waitsEmpty.waiting _ isRemote waits
      rw [isRemote] at linkless
      exact (linkless none).serving

/-- What the records of a link that is not closing ask for. -/
def AsksRightly (l : ConnectionLink) (record : Pollfd) : Prop :=
  (record.events.POLLOUT = true ↔ l.m_buffer.unsentData = true) ∧
    (record.events.POLLIN = true → l.m_acknowledged = true) ∧
    (record.events = .zero → l.m_acknowledged = false)

end Endpoint

/-- Links that are served ask for what there is to do. -/
theorem StdioTunnel.Serving.asksRightly {t : StdioTunnel} (serving : t.Serving) {conn : Int}
    {id : Short} {l : ConnectionLink} (found : t.link? conn id = some l) (up : l.m_closing = false) :
    ∀ record ∈ t.registrations (.connectionLink conn id l.m_socket),
      Endpoint.AsksRightly l record := by
  intro record member
  have served := serving.served conn id l found up
  generalize t.registrations (.connectionLink conn id l.m_socket) = records at served member
  cases served with
  | waiting idle acked => cases member
  | polled fd output input quiet =>
      obtain rfl := List.mem_singleton.mp member
      exact ⟨by rw [output], input, quiet⟩

end Tun01
