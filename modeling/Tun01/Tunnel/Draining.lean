import Tun01.Protocol.Deliveries
import Tun01.Tunnel.Containment
import Tun01.Tunnel.Truncation

/-!
# Buffers of links that are written

A dispatch that only writes to the socket of a link leaves everything as it is
but for the bytes the link holds.  Each such dispatch can write something,
unless the size of a queue is no positive `int`.
-/

namespace Tun01

/-! ## Buffers -/

namespace SockBuffer

variable {b : SockBuffer}

/-- The array is drained, and the size of the queue is no positive `int`. -/
structure Overfull (b : SockBuffer) : Prop where
  drained : b.m_output_position = BUFFER_SIZE
  waiting : b.m_queue ≠ []
  size : int32 b.m_queue.length ≤ 0

/-- A buffer with unsent data asks the kernel to take some of it. -/
theorem Valid.asks (valid : b.Valid) (unsent : b.unsentData = true) (fits : ¬ b.Overfull) :
    b.Refillable ∧ 0 < b.request := by
  have upper := valid.upper
  by_cases drained : b.m_output_position = BUFFER_SIZE
  · have waiting : b.m_queue ≠ [] := by
      unfold unsentData at unsent
      rw [decide_eq_false (fun no => no drained), Bool.false_or] at unsent
      intro none
      rw [none] at unsent
      cases unsent
    have positive : 0 < int32 b.m_queue.length :=
      Int.not_le.mp fun size => fits ⟨drained, waiting, size⟩
    refine ⟨fun _ => Int.le_of_lt positive, ?_⟩
    have bounds := fillSize_bounds (Int.le_of_lt positive)
    have some : 0 < b.fillSize := by
      have size : (0 : Int) < BUFFER_SIZE := by decide
      unfold fillSize
      split
      · exact size
      · exact positive
    have position : b.refill.m_output_position = b.m_output_position - b.fillSize := by
      unfold SockBuffer.refill
      rw [if_pos drained]
    unfold request
    rw [position]
    omega
  · refine ⟨fun no => absurd no drained, ?_⟩
    have same : b.refill = b := by
      unfold SockBuffer.refill
      rw [if_neg drained]
    unfold request
    rw [same]
    omega

end SockBuffer

/-! ## Links -/

namespace StdioTunnel

variable {t t' : StdioTunnel} {c : TunnelConnection} {l : ConnectionLink} {id : Short}
  {poll_struct : Pollfd} {calls : Calls}

/-- A link that is reported writable and nothing else writes. -/
theorem linkPolled_writable (t : StdioTunnel) (c : TunnelConnection) (l : ConnectionLink)
    (read : SysResult (List Byte)) (write : SysResult Nat) :
    t.linkPolled c l POLLOUT read write = (t.linkWrite c l write).map Prod.fst := by
  unfold linkPolled linkPollIn linkPollOut
  change (t.linkWrite c l write >>= fun written => .ok written.1) = _
  cases t.linkWrite c l write <;> rfl

/-- The link of a record that is reported writable and nothing else. -/
theorem polledObject_writable (sound : t.Sound) {x : Int} {socket : Nat} {record : Pollfd}
    (registered : record ∈ t.registrations (.connectionLink x id socket))
    (ready : poll_struct.revents = POLLOUT)
    (result : t.polledObject (.connectionLink x id socket) poll_struct calls = .ok t') :
    ∃ (conn : Short) (c : TunnelConnection) (l l' : ConnectionLink), conn.val = x ∧
      c.m_id = conn.val ∧ t.link? conn.val id = some l ∧ t.phase conn.val id = .opened ∧
      t.linkWrite c l calls.write = .ok (t', l') := by
  rcases (sound.links x id).registered socket with none | ⟨l, record', found, isSocket, up, only, _⟩
  · rw [none] at registered
    cases registered
  · obtain ⟨c, known⟩ := Option.isSome_iff_exists.mp (connection?_of_link? found)
    obtain ⟨isConn, conn, rfl⟩ := sound.keys x c known
    have isOpen : t.phase conn.val id = .opened := by
      refine phase_of_registered found up ?_
      rw [isSocket, only]
      exact List.cons_ne_nil _ _
    unfold polledObject at result
    simp only [known, found, isSocket, ↓reduceIte] at result
    rw [ready, linkPolled_writable] at result
    obtain ⟨⟨t₁, l'⟩, written, rfl⟩ := of_map_ok result
    exact ⟨conn, c, l, l', rfl, isConn, found, isOpen, written⟩

/-- The kernel may take all the bytes a link has in its array. -/
theorem polledObject_drains {conn : Short} (sound : t.Sound)
    (found : t.link? conn.val id = some l) (refillable : l.m_buffer.Refillable)
    (ready : poll_struct.revents = POLLOUT) (writes : calls.write = .ok l.m_buffer.request) :
    ∃ t', t.polledObject (.connectionLink conn.val id l.m_socket) poll_struct calls = .ok t' := by
  obtain ⟨c, known, _⟩ := sound.connection_of_link found
  obtain ⟨_, valid, _⟩ := (sound.links conn.val id).link l found
  obtain ⟨buffer, bytes, outcome⟩ := valid.writes_iff.mpr ⟨refillable, l.m_buffer.request, rfl⟩
  obtain ⟨result, written⟩ := linkWrite_returns (t := t) (c := c) outcome
  unfold polledObject
  simp only [known, found, ↓reduceIte]
  rw [ready, linkPolled_writable, writes, written]
  exact ⟨_, rfl⟩

/-- What a write that takes something leaves of the endpoint and its link. -/
theorem linkWrite_drains {conn : Short} (sound : t.Sound) (isConn : c.m_id = conn.val)
    (found : t.link? conn.val id = some l) (isOpen : t.phase conn.val id = .opened) {count : Nat}
    {l' : ConnectionLink} (within : (SysResult.ok count).WritesWithin l.m_buffer.request)
    (some : 0 < count) (result : t.linkWrite c l (.ok count) = .ok (t', l')) :
    Plays t t' conn id Half.Act ∧ t'.m_write_stream = t.m_write_stream ∧
      t'.phase conn.val id = t.phase conn.val id ∧
      (t'.held conn.val id).length < (t.held conn.val id).length := by
  obtain ⟨plays, found', isOpen'⟩ := linkWrite_plays sound isConn found isOpen within result
  obtain ⟨ids, valid, _⟩ := (sound.links conn.val id).link l found
  obtain ⟨buffer, bytes, outcome, _, rfl, _⟩ :=
    linkWrite_run isConn (show t.Stores conn l by rw [Stores, ids]; exact found) result
  have length := valid.written_length within outcome
  have front := congrArg List.length (valid.writeData within outcome).2
  rw [List.length_append] at front
  refine ⟨plays, ?_, isOpen'.trans isOpen.symm, ?_⟩
  · unfold linkWrite at result
    rw [outcome] at result
    simp only [ok_bind] at result
    split at result <;> (obtain ⟨rfl, _⟩ := Prod.mk.inj (Except.ok.inj result); rfl)
  · rw [held_of_link found, held_of_link found']
    dsimp only
    omega

end StdioTunnel

end Tun01
