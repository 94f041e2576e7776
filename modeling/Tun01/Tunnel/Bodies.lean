import Tun01.Tunnel.Fields

/-!
# The bodies of link messages

What `receiveData` takes from the queue for the length the other endpoint has
chosen, and what `ConnectSide` leaves there of a message for a link it does not
know.
-/

namespace Tun01

namespace StdioTunnel

variable {t t' : StdioTunnel} {c : TunnelConnection} {l l' : ConnectionLink} {length : Short}
  {rest : List Byte}

/-! ## Lengths -/

/-- The bytes a length announces were moved from the queue to the buffer of the link. -/
structure Moved (t : StdioTunnel) (c : TunnelConnection) (l : ConnectionLink) (length : Short)
    (rest : List Byte) (t' : StdioTunnel) (l' : ConnectionLink) : Prop where
  lower : 0 ≤ length.val
  upper : length.val ≤ LINK_BUFFER_SIZE
  there : length.val ≤ rest.length
  queue : t'.m_read_stream = t.m_read_stream.withQueue (rest.drop length.val.toNat)
  appended : l.m_closing = false →
    l'.m_buffer = l.m_buffer.insert (rest.take length.val.toNat) ∧
      (t.link? c.m_id l.m_id = some l → t'.link? c.m_id l.m_id = some l')
  ignored : l.m_closing = true → l' = l ∧ t'.m_connection_map = t.m_connection_map

/-- The length is refused before anything is copied, or just its bytes are moved. -/
def BoundedReceive (t : StdioTunnel) (c : TunnelConnection) (l : ConnectionLink)
    (length : Short) (rest : List Byte) : Prop :=
  (∃ message, t.receiveData c l = .error (.exception message)) ∨
    ∃ t' l', t.receiveData c l = .ok (t', l') ∧ Moved t c l length rest t' l'

/-- What `receiveData` does with a length its checks let through. -/
theorem receiveData_moved (queue : t.m_read_stream.m_queue = WriteStream.shortBytes length ++ rest)
    (lower : 0 ≤ length.val) (upper : length.val ≤ LINK_BUFFER_SIZE)
    (there : length.val ≤ rest.length) :
    ∃ t' l', t.receiveData c l = .ok (t', l') ∧ Moved t c l length rest t' l' := by
  have first : t.readShort = .ok (length, t.reading rest) := readShort_found (by rw [queue]; simp)
  have second : (t.reading rest).readBytes length.val =
      .ok (rest.take length.val.toNat, t.reading (rest.drop length.val.toNat)) := by
    unfold readBytes ReadStream.readBytes ReadStream.takeRange
    rw [if_pos ⟨lower, there⟩]
    rfl
  unfold receiveData
  rw [first, ok_bind]
  dsimp only
  rw [if_neg (Int.not_lt.mpr upper)]
  change ∃ t' l', ((t.reading rest).readBytes length.val >>= _) = Except.ok (t', l') ∧ _
  have size : ((rest.take length.val.toNat).length : Int) = length.val := by
    rw [List.length_take]
    omega
  rw [second, ok_bind]
  dsimp only
  rw [SockBuffer.pushOnBuffer_whole _ size]
  cases closing : l.m_closing with
  | true =>
      exact ⟨_, _, rfl, lower, upper, there, rfl,
        fun up => absurd (closing.symm.trans up) nofun, fun _ => ⟨rfl, rfl⟩⟩
  | false =>
      refine ⟨_, _, rfl, lower, upper, there, rfl, fun _ => ⟨rfl, fun stored => ?_⟩,
        fun down => absurd (closing.symm.trans down) nofun⟩
      exact link?_putLink_self (connection?_of_link? (t := t) stored)

/-- The bound on a length is one-sided, and nothing looks at how much the queue holds. -/
theorem receiveData_bounded_iff
    (queue : t.m_read_stream.m_queue = WriteStream.shortBytes length ++ rest) :
    BoundedReceive t c l length rest ↔
      LINK_BUFFER_SIZE < length.val ∨ 0 ≤ length.val ∧ length.val ≤ rest.length := by
  have first : t.readShort = .ok (length, t.reading rest) := readShort_found (by rw [queue]; simp)
  by_cases long : (LINK_BUFFER_SIZE : Int) < length.val
  · refine iff_of_true (Or.inl ⟨"Bad receive length", ?_⟩) (Or.inl long)
    unfold receiveData
    rw [first, ok_bind]
    dsimp only
    rw [if_pos long]
    rfl
  · constructor
    · rintro (⟨message, refused⟩ | ⟨t', l', _, moved⟩)
      · unfold receiveData at refused
        rw [first, ok_bind] at refused
        dsimp only at refused
        rw [if_neg long] at refused
        by_cases inside : 0 ≤ length.val ∧ length.val ≤ rest.length
        · exact Or.inr inside
        · have outside : (t.reading rest).readBytes length.val =
              .error (.undefinedBehaviour "iterator outside the queue") := by
            unfold readBytes ReadStream.readBytes ReadStream.takeRange
            rw [if_neg (by exact inside)]
            rfl
          change ((t.reading rest).readBytes length.val >>= _) = _ at refused
          rw [outside] at refused
          cases refused
      · exact Or.inr ⟨moved.lower, moved.there⟩
    · rintro (no | ⟨lower, there⟩)
      · exact absurd no long
      · exact Or.inr (receiveData_moved queue lower (Int.not_lt.mp long) there)

def connector : TunnelConnection :=
  ⟨⟨.CONNECT, text "host", 80, 8080, 0⟩, 0, .empty, .connectSide⟩

def pending (queue : List Byte) : StdioTunnel := (StdioTunnel.fresh .remoteSide).reading queue

theorem receiveData_bounded_one :
    BoundedReceive (pending (WriteStream.shortBytes (Short.ofInt 1) ++ [7])) connector
      (.create (Short.ofInt 501) 3) (Short.ofInt 1) [7] :=
  (receiveData_bounded_iff rfl).mpr (Or.inr ⟨by decide, by decide⟩)

/-- A negative length passes the check and is used as an offset. -/
theorem not_receiveData_bounded :
    ¬ ∀ (t : StdioTunnel) (c : TunnelConnection) (l : ConnectionLink) (length : Short)
      (rest : List Byte), t.m_read_stream.m_queue = WriteStream.shortBytes length ++ rest →
      BoundedReceive t c l length rest := by
  intro always
  have outside : faultOf ((pending (WriteStream.shortBytes (Short.ofInt (-1)))).receiveData
      connector (.create (Short.ofInt 501) 3)) =
      some (.undefinedBehaviour "iterator outside the queue") := by decide +kernel
  have fault := faultOf_eq_some outside
  rcases always (pending (WriteStream.shortBytes (Short.ofInt (-1)))) connector
    (.create (Short.ofInt 501) 3) (Short.ofInt (-1)) [] rfl with ⟨_, refused⟩ | ⟨_, _, moved, _⟩
  · rw [fault] at refused
    cases refused
  · rw [fault] at moved
    cases moved

/-! ## Unknown links -/

/-- The fields of a message of another kind than `LINK_CREATE`, after the link. -/
inductive LinkBody (command : Short) : List Byte → Prop where
  | data (sends : command = LINK_SEND ∨ command = LINK_SEND_FOR_ACK) (bytes : List Byte)
      (small : bytes.length ≤ LINK_BUFFER_SIZE) :
      LinkBody command (WriteStream.shortBytes (Short.ofInt bytes.length) ++ bytes)
  | none (bare : ¬ (command = LINK_SEND ∨ command = LINK_SEND_FOR_ACK)) : LinkBody command []

/-- `ConnectSide` returns as soon as it has read the link and not found it. -/
theorem connectProcessMessage_unknown {command id : Short} {rest : List Byte}
    (unknown : t.link? c.m_id id = none) (other : command ≠ LINK_CREATE)
    (queue : t.m_read_stream.m_queue =
      WriteStream.shortBytes command ++ (WriteStream.shortBytes id ++ rest))
    (connect : ConnectResult) : t.connectProcessMessage c connect = .ok (t.reading rest) := by
  have first : t.readShort = .ok (command, t.reading (WriteStream.shortBytes id ++ rest)) :=
    readShort_found (by rw [queue]; simp)
  have second : (t.reading (WriteStream.shortBytes id ++ rest)).readShort =
      .ok (id, t.reading rest) := readShort_reading t id rest
  have absent : (t.reading rest).link? c.m_id id = Option.none := unknown
  unfold connectProcessMessage
  rw [first, ok_bind]
  dsimp only
  rw [second, ok_bind]
  dsimp only
  rw [if_neg other, absent]
  rfl

/--
A message for a link `ConnectSide` does not know is taken from the queue whole
exactly if it carries no data.
-/
theorem unknown_link_skipped_iff {command id : Short} {body following : List Byte}
    (unknown : t.link? c.m_id id = none) (other : command ≠ LINK_CREATE)
    (well : LinkBody command body)
    (queue : t.m_read_stream.m_queue =
      WriteStream.shortBytes command ++ (WriteStream.shortBytes id ++ (body ++ following)))
    (connect : ConnectResult) :
    (∀ t', t.connectProcessMessage c connect = .ok t' → t'.m_read_stream.m_queue = following) ↔
      ¬ (command = LINK_SEND ∨ command = LINK_SEND_FOR_ACK) := by
  have returns := connectProcessMessage_unknown unknown other queue connect
  constructor
  · intro skipped sends
    have left := skipped _ returns
    cases well with
    | none bare => exact bare sends
    | data _ bytes small =>
        have sizes := congrArg List.length left
        simp only [reading, ReadStream.withQueue_queue, List.length_append,
          WriteStream.shortBytes_length] at sizes
        omega
  · intro bare t' result
    obtain rfl := Except.ok.inj (returns.symm.trans result)
    cases well with
    | none _ => rfl
    | data sends bytes small => exact absurd sends bare

def closesUnknown : StdioTunnel :=
  pending (WriteStream.shortBytes LINK_CLOSE ++ (WriteStream.shortBytes (Short.ofInt 501) ++ [9]))

theorem unknown_link_skipped_close : ∃ t',
    closesUnknown.connectProcessMessage connector .connected = .ok t' ∧
      t'.m_read_stream.m_queue = [9] :=
  have returns := @connectProcessMessage_unknown closesUnknown connector LINK_CLOSE (Short.ofInt 501)
    [9] rfl (by decide) rfl .connected
  ⟨_, returns, (unknown_link_skipped_iff rfl (by decide) (.none (by decide)) rfl .connected).mpr
    (by decide) _ returns⟩

/-- The length and the bytes of a data message stay in front of the next command. -/
theorem not_unknown_link_skipped :
    ¬ ∀ (t t' : StdioTunnel) (c : TunnelConnection) (command id : Short)
      (body following : List Byte) (connect : ConnectResult),
      t.link? c.m_id id = Option.none → command ≠ LINK_CREATE → LinkBody command body →
      t.m_read_stream.m_queue =
        WriteStream.shortBytes command ++ (WriteStream.shortBytes id ++ (body ++ following)) →
      t.connectProcessMessage c connect = .ok t' → t'.m_read_stream.m_queue = following := by
  intro always
  let body : List Byte := WriteStream.shortBytes (Short.ofInt 1) ++ [7]
  let t := pending (WriteStream.shortBytes LINK_SEND ++
    (WriteStream.shortBytes (Short.ofInt 501) ++ (body ++ [])))
  have returns : t.connectProcessMessage connector .connected = .ok (t.reading (body ++ [])) :=
    connectProcessMessage_unknown rfl (by decide) rfl .connected
  have left := always t _ connector LINK_SEND (Short.ofInt 501) body [] .connected rfl (by decide)
    (.data (Or.inl rfl) [7] (by decide)) rfl returns
  cases left

end StdioTunnel

end Tun01
