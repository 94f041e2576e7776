import Mathlib.Data.List.Induction
import Tun01.Net.ReadStream
import Mathlib.Logic.Relation

/-!
# Frames over a byte stream

A `WriteStream` and a `ReadStream` joined by a pipe.  Writes are cut short
anywhere and reads return any positive part of what the pipe holds, so the two
cut points are unrelated.  The invariant splits the bytes of the frames sent
into those of completed frames, the part of the current frame in `m_read_buf`,
the pipe and the unwritten rest of the packets.
-/

namespace Tun01

/-! ## One fill -/

namespace ReadStream

/-- The array of the stream starts with exactly this part of a frame. -/
structure Holds (rs : ReadStream) (part : List Byte) : Prop where
  count : rs.m_read_count = part.length
  bytes : rs.m_read_buf.take rs.m_read_count = part
  size : rs.m_read_buf.length = rs.m_read_size
  roomy : 4 ≤ rs.m_read_size

theorem fresh_holds : fresh.Holds [] where
  count := rfl
  bytes := rfl
  size := by rw [fresh, List.length_replicate]
  roomy := by decide

namespace Holds

theorem part_le {rs : ReadStream} {part : List Byte} (holds : rs.Holds part) :
    part.length ≤ rs.m_read_size := by
  rw [← holds.bytes, ← holds.size, List.length_take]
  exact Nat.min_le_right _ _

/-- Bytes that fit extend the part. -/
theorem received {rs : ReadStream} {part bytes : List Byte} (holds : rs.Holds part)
    (fits : part.length + bytes.length ≤ rs.m_read_size) :
    (rs.received bytes).Holds (part ++ bytes) where
  count := by
    rw [List.length_append, ← holds.count]
    rfl
  bytes := by
    have whole := @take_overwrite_end rs.m_read_buf bytes
      rs.m_read_count (by rw [holds.count, holds.size]; exact fits)
    rw [holds.bytes] at whole
    exact whole
  size := by
    change (overwrite rs.m_read_buf rs.m_read_count bytes).length = rs.m_read_size
    rw [overwrite_length, holds.size]
    rw [holds.count, holds.size]
    exact holds.part_le
  roomy := holds.roomy

/-- With the header present, `length` is the number it encodes. -/
theorem length_eq {rs : ReadStream} {part rest : List Byte} {n : Nat}
    (holds : rs.Holds part) (header : part = frameHeader n ++ rest) (small : n < 2 ^ 32) :
    rs.length = n := by
  have split : rs.m_read_buf =
      frameHeader n ++ (rest ++ rs.m_read_buf.drop rs.m_read_count) := by
    conv_lhs => rw [← List.take_append_drop rs.m_read_count rs.m_read_buf, holds.bytes, header]
    rw [List.append_assoc]
  unfold length
  rw [split, frameHeader, bytesLE_htonl]
  change (ntohl (htonl (BitVec.ofNat 32 n))).toNat = n
  rw [ntohl_htonl, BitVec.toNat_ofNat, Nat.mod_eq_of_lt small]

/-- With the header present, `length` is the size of the payload. -/
theorem length_of_started {rs : ReadStream} {part payload : List Byte} (holds : rs.Holds part)
    (header : 4 ≤ part.length) (started : part <+: frame payload)
    (small : payload.length < 2 ^ 32) : rs.length = payload.length := by
  have heads : frameHeader payload.length = part.take 4 := by
    obtain ⟨rest, whole⟩ := started
    have taken := congrArg (List.take 4) whole
    rw [List.take_append_of_le_length header] at taken
    exact taken.symm
  refine @ReadStream.Holds.length_eq _ _ (part.drop 4) _ holds ?_ small
  rw [heads, List.take_append_drop]

/-- Regrowing keeps the part and makes room for the frame. -/
theorem reserve {rs : ReadStream} {part : List Byte} (holds : rs.Holds part)
    (inside : part.length ≤ rs.length + 4) :
    rs.reserve.Holds part ∧ rs.length + 4 ≤ rs.reserve.m_read_size ∧
      rs.reserve.m_queue = rs.m_queue := by
  unfold ReadStream.reserve
  split
  · rename_i larger
    have taken : (rs.m_read_buf.take rs.m_read_count).length = part.length := by
      rw [holds.bytes]
    have kept := @take_overwrite_end (List.replicate (rs.length + 4) 0)
      (rs.m_read_buf.take rs.m_read_count) 0
      (by rw [List.length_replicate, taken, Nat.zero_add]; exact inside)
    rw [taken, Nat.zero_add, List.take_zero, List.nil_append, holds.bytes] at kept
    refine ⟨⟨holds.count, ?_, ?_, ?_⟩, Nat.le_refl _, rfl⟩
    · change (overwrite _ 0 (rs.m_read_buf.take rs.m_read_count)).take rs.m_read_count = part
      rw [holds.bytes, holds.count]
      exact kept
    · change (overwrite _ 0 _).length = rs.length + 4
      rw [overwrite_length (Nat.zero_le _), List.length_replicate]
    · change 4 ≤ rs.length + 4
      omega
  · rename_i enough
    exact ⟨holds, Nat.le_of_not_lt enough, rfl⟩

end Holds

/-- What one fill did: it kept a part of the frame, or queued its whole payload. -/
inductive Filled (rs rs' : ReadStream) (part payload : List Byte) : Prop where
  | unfinished (holds : rs'.Holds part) (queue : rs'.m_queue = rs.m_queue)
      (short : part.length < (frame payload).length)
  | finished (done : part = frame payload) (holds : rs'.Holds [])
      (queue : rs'.m_queue = rs.m_queue ++ payload) (bounded : payload.length ≤ 50000000)

theorem complete_filled {rs : ReadStream} {part payload : List Byte} (holds : rs.Holds part)
    (bounded : payload.length ≤ 50000000) (prefixed : part <+: frame payload) : Filled rs (rs.complete payload.length) part payload := by
  have bound := prefixed.length_le
  rw [frame_length] at bound
  unfold complete
  split
  · rename_i full
    have done : part = frame payload :=
      prefixed.eq_of_length (by rw [frame_length, ← full, holds.count])
    refine .finished done ⟨rfl, rfl, holds.size, holds.roomy⟩ ?_ bounded
    change rs.m_queue ++ (rs.m_read_buf.take rs.m_read_count).drop 4 = _
    rw [holds.bytes, done]
    rfl
  · rename_i less
    refine .unfinished holds rfl ?_
    rw [holds.count] at less
    rw [frame_length]
    omega

/--
The body read.  `got` is what it returned; `EAGAIN` returns nothing and loses
nothing.
-/
theorem fillBody_filled {rs : ReadStream} {part payload got : List Byte}
    {body : SysResult (List Byte)} (holds : rs.Holds part) (header : 4 ≤ part.length)
    (bounded : payload.length ≤ 50000000) (prefixed : part ++ got <+: frame payload)
    (result : body = .ok got ∨ (body = .fail .EAGAIN ∧ got = [])) :
    ∃ rs', rs.fillBody body = .ok rs' ∧ Filled rs rs' (part ++ got) payload := by
  have fits := prefixed.length_le
  rw [List.length_append, frame_length] at fits
  have length : rs.length = payload.length :=
    holds.length_of_started header ((List.prefix_append part got).trans prefixed) (by omega)
  obtain ⟨regrown, room, queue⟩ := holds.reserve (by omega)
  have small : ¬ rs.length > 50000000 := by omega
  rcases result with rfl | ⟨rfl, rfl⟩
  · have extended := @ReadStream.Holds.received _ _ got regrown (by omega)
    refine ⟨(rs.reserve.received got).complete rs.length, ?_, ?_⟩
    · rw [fillBody, if_neg small]
    · rw [length]
      cases complete_filled extended bounded prefixed with
      | unfinished holds' queue' short => exact .unfinished holds' (queue'.trans queue) short
      | finished done holds' queue' =>
          exact .finished done holds' (queue'.trans (congrArg (· ++ payload) queue)) bounded
  · rw [List.append_nil] at prefixed ⊢
    refine ⟨rs.reserve.complete rs.length, ?_, ?_⟩
    · rw [fillBody, if_neg small]
    · rw [length]
      cases complete_filled regrown bounded prefixed with
      | unfinished holds' queue' short => exact .unfinished holds' (queue'.trans queue) short
      | finished done holds' queue' =>
          exact .finished done holds' (queue'.trans (congrArg (· ++ payload) queue)) bounded

/-- What a fill returns: a frame that is too long is refused once its header is there. -/
structure Fills (rs : ReadStream) (result : Except Fault ReadStream) (part payload : List Byte) :
    Prop where
  filled : ∀ rs', result = .ok rs' → Filled rs rs' part payload
  returns : payload.length ≤ 50000000 → ∃ rs', result = .ok rs'

theorem fillBody_fills {rs : ReadStream} {part payload got : List Byte}
    {body : SysResult (List Byte)} (holds : rs.Holds part) (header : 4 ≤ part.length)
    (small : payload.length < 2 ^ 32) (prefixed : part ++ got <+: frame payload)
    (result : body = .ok got ∨ (body = .fail .EAGAIN ∧ got = [])) :
    Fills rs (rs.fillBody body) (part ++ got) payload := by
  by_cases bounded : payload.length ≤ 50000000
  · obtain ⟨rs', returned, filled⟩ := fillBody_filled holds header bounded prefixed result
    refine ⟨fun rs'' same => ?_, fun _ => ⟨rs', returned⟩⟩
    rw [← Except.ok.inj (returned.symm.trans same)]
    exact filled
  · have length : rs.length = payload.length :=
      holds.length_of_started header ((List.prefix_append part got).trans prefixed) small
    have refused : rs.fillBody body = .error (.exception "Bad read length") := by
      unfold fillBody
      exact if_pos (by rw [length]; exact Nat.lt_of_not_le bounded)
    refine ⟨fun rs'' same => ?_, fun fits => absurd fits bounded⟩
    rw [refused] at same
    cases same

end ReadStream

/--
A writer and a reader on one pipe.  `sent` are the payloads given to `send`,
`appended` what the fills appended to `m_queue`, and `received` all the bytes
the reads returned.
-/
structure Pipeline where
  writer : WriteStream
  pipe : List Byte
  reader : ReadStream
  sent : List (List Byte)
  appended : List (List Byte)
  received : List Byte

namespace Pipeline

def initial : Pipeline := ⟨.fresh, [], .fresh, [], [], []⟩

/-- A read of at most `request` bytes returns some first part of the pipe. -/
inductive Reads (pipe : List Byte) (request : Nat) : SysResult (List Byte) → List Byte → Prop where
  | data {got rest : List Byte} (split : pipe = got ++ rest) (positive : got ≠ [])
      (bounded : got.length ≤ request) : Reads pipe request (.ok got) got

/-- A body read may also find the pipe empty. -/
inductive BodyReads (pipe : List Byte) (request : Nat) :
    SysResult (List Byte) → List Byte → Prop where
  | data {result : SysResult (List Byte)} {got : List Byte} (read : Reads pipe request result got) :
      BodyReads pipe request result got
  | again : BodyReads pipe request (.fail .EAGAIN) []

/--
The results of the reads of one fill against a pipe, and the bytes they
returned in all.  The second read is made only when the header is complete.
-/
inductive FillReads (rs : ReadStream) (pipe : List Byte) :
    SysResult (List Byte) → SysResult (List Byte) → List Byte → Prop where
  | body {header body : SysResult (List Byte)} {got : List Byte}
      (present : ¬ rs.m_read_count < 4) (read : BodyReads pipe rs.bodyRequest body got) :
      FillReads rs pipe header body got
  | header {body : SysResult (List Byte)} {head : List Byte} (missing : rs.m_read_count < 4)
      (read : Reads pipe rs.headerRequest (.ok head) head)
      (stillMissing : (rs.received head).m_read_count < 4) :
      FillReads rs pipe (.ok head) body head
  | both {body : SysResult (List Byte)} {head got : List Byte} (missing : rs.m_read_count < 4)
      (readHeader : Reads pipe rs.headerRequest (.ok head) head)
      (present : ¬ (rs.received head).m_read_count < 4)
      (readBody : BodyReads (pipe.drop head.length) (rs.received head).bodyRequest body got) :
      FillReads rs pipe (.ok head) body (head ++ got)

/-- The steps of writer and reader, in any order. -/
inductive Step : Pipeline → Pipeline → Prop where
  | write (p : Pipeline) (bytes : List Byte) :
      Step p { p with writer := p.writer.writeBytes bytes }
  | send (p : Pipeline) (nonempty : p.writer.m_queue ≠ [])
      (bounded : p.writer.m_queue.length < 2 ^ 32) :
      Step p { p with writer := p.writer.send, sent := p.sent ++ [p.writer.m_queue] }
  | empty (p : Pipeline) {poll_struct poll_struct' : Pollfd} {count : Nat} {writer : WriteStream}
      {taken : List Byte}
      (bounded : ∀ front rest, p.writer.m_packet_queue = front :: rest → count ≤ front.request)
      (result : p.writer.empty poll_struct (.ok count) = .ok (writer, poll_struct', taken)) :
      Step p { p with writer := writer, pipe := p.pipe ++ taken }
  | fill (p : Pipeline) {poll_struct : Pollfd} {header body : SysResult (List Byte)}
      {got : List Byte} {reader : ReadStream} (ready : poll_struct.revents.POLLIN = true)
      (reads : FillReads p.reader p.pipe header body got)
      (result : p.reader.fill poll_struct header body = .ok reader) :
      Step p
        { p with
          reader := reader
          pipe := p.pipe.drop got.length
          received := p.received ++ got
          appended :=
            if reader.m_queue = p.reader.m_queue then p.appended
            else p.appended ++ [reader.m_queue.drop p.reader.m_queue.length] }
  | consume (p : Pipeline) (count : Nat) :
      Step p { p with reader := p.reader.withQueue (p.reader.m_queue.drop count) }

def pending (p : Pipeline) : List Byte :=
  (p.writer.m_packet_queue.map WritePacket.unwritten).flatten

/-- Each packet is a frame of which some bytes are left. -/
def PacketsOpen (ws : WriteStream) : Prop :=
  ∀ packet ∈ ws.m_packet_queue,
    packet.m_buf.length = packet.m_size ∧ packet.m_written < packet.m_size

/--
The invariant.  `rest` are the frames the reader has not completed and `part`
is what it holds of the first of them.
-/
structure Inv (p : Pipeline) (rest : List (List Byte)) (part : List Byte) : Prop where
  sent : p.sent = p.appended ++ rest
  received : p.received = (p.appended.map frame).flatten ++ part
  onTheWay : part ++ p.pipe ++ p.pending = (rest.map frame).flatten
  holds : p.reader.Holds part
  short : ∀ next more, rest = next :: more → part.length < (frame next).length
  payloads : ∀ payload ∈ p.sent, payload ≠ [] ∧ payload.length < 2 ^ 32
  packets : PacketsOpen p.writer

/-! ### Reads -/

theorem Reads.spec {pipe got : List Byte} {request : Nat} {result : SysResult (List Byte)}
    (read : Reads pipe request result got) :
    result = .ok got ∧ got <+: pipe ∧ got ≠ [] ∧ got.length ≤ request := by
  cases read with
  | data split positive bounded => exact ⟨rfl, ⟨_, split.symm⟩, positive, bounded⟩

theorem BodyReads.spec {pipe got : List Byte} {request : Nat} {result : SysResult (List Byte)}
    (read : BodyReads pipe request result got) :
    (result = .ok got ∨ (result = .fail .EAGAIN ∧ got = [])) ∧ got <+: pipe ∧
      got.length ≤ request := by
  cases read with
  | data read =>
      obtain ⟨ok, inPipe, -, bounded⟩ := read.spec
      exact ⟨Or.inl ok, inPipe, bounded⟩
  | again => exact ⟨Or.inr ⟨rfl, rfl⟩, List.nil_prefix, Nat.zero_le _⟩

/-- A first part of the bytes under way that is no longer than the next frame is part of it. -/
theorem prefix_frame {part got pipe pending next tail : List Byte}
    (whole : part ++ pipe ++ pending = frame next ++ tail) (inPipe : got <+: pipe)
    (bounded : (part ++ got).length ≤ (frame next).length) : part ++ got <+: frame next := by
  have underWay : part ++ got <+: part ++ pipe ++ pending :=
    ((List.prefix_append_right_inj part).mpr inPipe).trans (List.prefix_append _ _)
  rw [whole] at underWay
  exact List.prefix_of_prefix_length_le underWay (List.prefix_append _ _) bounded

/-- The body read of a fill, whatever it returned. -/
theorem body_fills {rs : ReadStream} {part pipe pending next tail got : List Byte}
    {body : SysResult (List Byte)} (holds : rs.Holds part) (header : 4 ≤ part.length)
    (short : part.length ≤ (frame next).length) (small : next.length < 2 ^ 32)
    (whole : part ++ pipe ++ pending = frame next ++ tail)
    (read : BodyReads pipe rs.bodyRequest body got) :
    ReadStream.Fills rs (rs.fillBody body) (part ++ got) next ∧ got <+: pipe := by
  obtain ⟨result, inPipe, atMost⟩ := read.spec
  have started : part <+: frame next := by
    have := prefix_frame whole (List.nil_prefix (l := pipe)) (by simpa using short)
    simpa using this
  have length : rs.length = next.length := holds.length_of_started header started small
  have size : (part ++ got).length ≤ (frame next).length := by
    rw [ReadStream.bodyRequest, length, holds.count] at atMost
    rw [frame_length] at short ⊢
    rw [List.length_append]
    omega
  exact ⟨ReadStream.fillBody_fills holds header small (prefix_frame whole inPipe size) result,
    inPipe⟩

theorem readHeader_ok {rs : ReadStream} {head : List Byte} (positive : head ≠ []) :
    rs.readHeader (.ok head) = .ok (rs.received head) := by
  cases head with
  | nil => exact absurd rfl positive
  | cons byte more => rfl

/--
One fill against the bytes under way: what it read extends the part of the next
frame or completes it, and it returns unless that frame is too long.
-/
theorem fill_fills {rs : ReadStream} {poll_struct : Pollfd} {header body : SysResult (List Byte)}
    {part pipe pending got next tail : List Byte} (ready : poll_struct.revents.POLLIN = true)
    (holds : rs.Holds part) (short : part.length < (frame next).length)
    (small : next.length < 2 ^ 32) (whole : part ++ pipe ++ pending = frame next ++ tail)
    (reads : FillReads rs pipe header body got) :
    ReadStream.Fills rs (rs.fill poll_struct header body) (part ++ got) next ∧ got <+: pipe := by
  have frameSize : 4 ≤ (frame next).length := by
    rw [frame_length]
    omega
  cases reads with
  | body present read =>
      have header4 : 4 ≤ part.length := by
        rw [holds.count] at present
        omega
      have done := body_fills holds header4 (Nat.le_of_lt short) small whole read
      rw [ReadStream.fill, if_pos ready, if_neg present]
      exact done
  | header missing read stillMissing =>
      obtain ⟨-, inPipe, positive, atMost⟩ := read.spec
      rw [ReadStream.headerRequest, holds.count] at atMost
      rw [holds.count] at missing
      have fits : part.length + got.length ≤ rs.m_read_size := by
        have roomy := holds.roomy
        omega
      have result : rs.fill poll_struct (.ok got) body = .ok (rs.received got) := by
        rw [ReadStream.fill, if_pos ready, if_pos (by rw [holds.count]; exact missing),
          readHeader_ok positive]
        exact if_pos stillMissing
      refine ⟨⟨fun rs' same => ?_, fun _ => ⟨_, result⟩⟩, inPipe⟩
      rw [← Except.ok.inj (result.symm.trans same)]
      refine .unfinished (holds.received fits) rfl ?_
      rw [← (holds.received fits).count]
      omega
  | @both _ head got missing readHeader present readBody =>
      obtain ⟨-, inPipe, positive, atMost⟩ := readHeader.spec
      rw [ReadStream.headerRequest, holds.count] at atMost
      have missing' := missing
      rw [holds.count] at missing'
      have fits : part.length + head.length ≤ rs.m_read_size := by
        have roomy := holds.roomy
        omega
      have extended := holds.received fits
      have header4 : 4 ≤ (part ++ head).length := by
        rw [← extended.count]
        omega
      have bound4 : (part ++ head).length ≤ (frame next).length := by
        rw [List.length_append]
        omega
      have pipeSplit : head ++ pipe.drop head.length = pipe := by
        obtain ⟨more, joined⟩ := inPipe
        rw [← joined, List.drop_left]
      have whole' : (part ++ head) ++ pipe.drop head.length ++ pending = frame next ++ tail := by
        rw [List.append_assoc part, pipeSplit]
        exact whole
      obtain ⟨⟨filled, returns⟩, inRest⟩ :=
        body_fills extended header4 bound4 small whole' readBody
      have result : rs.fill poll_struct (.ok head) body = (rs.received head).fillBody body := by
        rw [ReadStream.fill, if_pos ready, if_pos missing, readHeader_ok positive]
        exact if_neg present
      rw [result]
      refine ⟨⟨fun rs' same => ?_, returns⟩, ?_⟩
      · rw [← List.append_assoc]
        cases filled rs' same with
        | unfinished holds' queue short' => exact .unfinished holds' queue short'
        | finished done holds' queue bounded => exact .finished done holds' queue bounded
      · have joined := (List.prefix_append_right_inj head).mpr inRest
        rw [pipeSplit] at joined
        exact joined

/-- One `empty` hands the pipe a first part of the pending bytes. -/
theorem empty_pending {ws ws' : WriteStream} {poll_struct poll_struct' : Pollfd} {count : Nat}
    {taken : List Byte} (packets : PacketsOpen ws)
    (bounded : ∀ front rest, ws.m_packet_queue = front :: rest → count ≤ front.request)
    (result : ws.empty poll_struct (.ok count) = .ok (ws', poll_struct', taken)) :
    (ws.m_packet_queue.map WritePacket.unwritten).flatten =
        taken ++ (ws'.m_packet_queue.map WritePacket.unwritten).flatten ∧
      PacketsOpen ws' := by
  unfold WriteStream.empty at result
  cases queue : ws.m_packet_queue with
  | nil =>
      rw [queue] at result
      cases result
      exact ⟨by rw [queue]; rfl, packets⟩
  | cons front rest =>
      rw [queue] at result
      by_cases writable : poll_struct.revents.POLLOUT = true
      · obtain ⟨size, left⟩ := packets front (by rw [queue]; exact List.mem_cons_self)
        have atMost := bounded front rest queue
        rw [WritePacket.request] at atMost
        simp only [writable, if_true, WritePacket.sendPacket, bind, Except.bind] at result
        simp only [Except.ok.injEq, Prod.mk.injEq] at result
        obtain ⟨rfl, -, rfl⟩ := result
        rw [Nat.add_sub_cancel_left]
        by_cases full : front.m_written + count = front.m_size
        · have all : front.unwritten.take count = front.unwritten := by
            apply List.take_of_length_le
            rw [WritePacket.unwritten, List.length_drop]
            omega
          simp only [full, beq_self_eq_true, if_true, all]
          exact ⟨rfl, fun packet inRest =>
            packets packet (by rw [queue]; exact List.mem_cons_of_mem _ inRest)⟩
        · have open' : (front.m_written + count == front.m_size) = false := by simp [full]
          simp only [open', Bool.false_eq_true, if_false, List.map_cons, List.flatten_cons]
          constructor
          · rw [← List.append_assoc]
            congr 1
            simp only [WritePacket.unwritten]
            rw [← List.drop_drop, List.take_append_drop]
          · intro packet member
            rcases List.mem_cons.mp member with rfl | inRest
            · exact ⟨size, by change front.m_written + count < front.m_size; omega⟩
            · exact packets packet (by rw [queue]; exact List.mem_cons_of_mem _ inRest)
      · simp only [writable, Bool.false_eq_true, if_false, Except.ok.injEq, Prod.mk.injEq] at result
        obtain ⟨rfl, -, rfl⟩ := result
        exact ⟨by rw [queue]; rfl, packets⟩

/-! ### The invariant over runs -/

theorem initial_inv : Inv initial [] [] where
  sent := rfl
  received := rfl
  onTheWay := rfl
  holds := ReadStream.fresh_holds
  short := fun _ _ impossible => by cases impossible
  payloads := fun _ member => by cases member
  packets := fun _ member => by cases member

/-- With a frame outstanding, the bytes under way begin with it. -/
theorem Inv.whole {p : Pipeline} {next part : List Byte} {more : List (List Byte)}
    (inv : Inv p (next :: more) part) :
    part ++ p.pipe ++ p.pending = frame next ++ (more.map frame).flatten :=
  inv.onTheWay

/-- A read that returns bytes, or a part already held, belongs to an outstanding frame. -/
theorem Inv.outstanding {p : Pipeline} {rest : List (List Byte)} {part got : List Byte}
    {header body : SysResult (List Byte)} (inv : Inv p rest part)
    (reads : FillReads p.reader p.pipe header body got) : rest ≠ [] := by
  rintro rfl
  have none := inv.onTheWay
  simp only [List.map_nil, List.flatten_nil, List.append_eq_nil_iff] at none
  obtain ⟨⟨noPart, noPipe⟩, -⟩ := none
  cases reads with
  | body present read =>
      rw [inv.holds.count, noPart] at present
      exact present (by decide)
  | header missing read stillMissing =>
      obtain ⟨-, inPipe, positive, -⟩ := read.spec
      rw [noPipe] at inPipe
      exact positive (List.prefix_nil.mp inPipe)
  | both missing readHeader present readBody =>
      obtain ⟨-, inPipe, positive, -⟩ := readHeader.spec
      rw [noPipe] at inPipe
      exact positive (List.prefix_nil.mp inPipe)

/-- A fill in a state with the invariant, and what is outstanding after it. -/
theorem Inv.fill {p : Pipeline} {rest : List (List Byte)} {part got : List Byte}
    {poll_struct : Pollfd} {header body : SysResult (List Byte)} (inv : Inv p rest part)
    (ready : poll_struct.revents.POLLIN = true)
    (reads : FillReads p.reader p.pipe header body got) :
    ∃ next more, rest = next :: more ∧ next ≠ [] ∧ got <+: p.pipe ∧
      ReadStream.Fills p.reader (p.reader.fill poll_struct header body) (part ++ got) next := by
  cases rest with
  | nil => exact absurd rfl (inv.outstanding reads)
  | cons next more =>
      obtain ⟨nonempty, small⟩ := inv.payloads next (by rw [inv.sent]; simp)
      obtain ⟨fills, inPipe⟩ :=
        fill_fills ready inv.holds (inv.short next more rfl) small inv.whole reads
      exact ⟨next, more, rfl, nonempty, inPipe, fills⟩

/-- Every step keeps the invariant. -/
theorem Step.inv {p p' : Pipeline} (step : Step p p') {rest : List (List Byte)}
    {part : List Byte} (inv : Inv p rest part) : ∃ rest' part', Inv p' rest' part' := by
  cases step with
  | write bytes => exact ⟨rest, part, { inv with }⟩
  | send nonempty bounded =>
      refine ⟨rest ++ [p.writer.m_queue], part, ?_⟩
      have sent := WriteStream.send_of_nonempty nonempty
      constructor
      · change p.sent ++ [p.writer.m_queue] = p.appended ++ (rest ++ [p.writer.m_queue])
        rw [inv.sent, List.append_assoc]
      · exact inv.received
      · change part ++ p.pipe ++ (p.writer.send.m_packet_queue.map WritePacket.unwritten).flatten = _
        rw [sent, List.map_append, List.flatten_append, ← List.append_assoc]
        change part ++ p.pipe ++ p.pending ++ _ = _
        rw [inv.onTheWay, List.map_append, List.flatten_append]
        simp
      · exact inv.holds
      · intro next more head
        cases rest with
        | nil =>
            have none := inv.onTheWay
            simp only [List.map_nil, List.flatten_nil, List.append_eq_nil_iff] at none
            rw [none.1.1, frame_length]
            exact Nat.succ_pos _
        | cons first others =>
            have same : first = next := (List.cons.inj head).1
            rw [← same]
            exact inv.short first others rfl
      · intro payload member
        rcases List.mem_append.mp member with old | new
        · exact inv.payloads payload old
        · rw [List.mem_singleton.mp new]
          exact ⟨nonempty, bounded⟩
      · intro packet member
        rw [show p.writer.send.m_packet_queue = _ from congrArg WriteStream.m_packet_queue sent,
          List.mem_append] at member
        rcases member with old | new
        · exact inv.packets packet old
        · rw [List.mem_singleton.mp new]
          simp
  | empty bounded result =>
      obtain ⟨pending, packets⟩ := empty_pending inv.packets bounded result
      refine ⟨rest, part, { inv with onTheWay := ?_, packets := packets }⟩
      rw [← inv.onTheWay]
      unfold Pipeline.pending
      rw [pending]
      simp only [List.append_assoc]
  | @fill poll_struct header body got reader ready reads result =>
      obtain ⟨next, more, rfl, nonempty, inPipe, fills⟩ := inv.fill ready reads
      have pipeSplit : got ++ p.pipe.drop got.length = p.pipe := by
        obtain ⟨tail, joined⟩ := inPipe
        rw [← joined, List.drop_left]
      have onTheWay : part ++ got ++ p.pipe.drop got.length ++ p.pending =
          ((next :: more).map frame).flatten := by
        rw [List.append_assoc part, pipeSplit]
        exact inv.onTheWay
      cases fills.filled reader result with
      | unfinished holds queue short =>
          refine ⟨next :: more, part ++ got, ?_, ?_, onTheWay, holds, ?_, inv.payloads, inv.packets⟩
          · change p.sent = (if _ then p.appended else _) ++ _
            rw [if_pos queue]
            exact inv.sent
          · change p.received ++ got = ((if _ then p.appended else _).map frame).flatten ++ _
            rw [if_pos queue, inv.received, List.append_assoc]
          · intro first others head
            rw [← (List.cons.inj head).1]
            exact short
      | finished done holds queue =>
          have grew : ¬ reader.m_queue = p.reader.m_queue := by
            rw [queue]
            intro same
            exact nonempty (List.append_right_eq_self.mp same)
          have added : reader.m_queue.drop p.reader.m_queue.length = next := by
            rw [queue, List.drop_left]
          refine ⟨more, [], ?_, ?_, ?_, holds, ?_, inv.payloads, inv.packets⟩
          · change p.sent = (if _ then p.appended else _) ++ more
            rw [if_neg grew, added, inv.sent, List.append_assoc]
            rfl
          · change p.received ++ got = ((if _ then p.appended else _).map frame).flatten ++ []
            rw [if_neg grew, added, inv.received, List.append_assoc, done]
            simp
          · rw [done, List.append_assoc] at onTheWay
            exact List.append_cancel_left onTheWay
          · intro first others head
            rw [frame_length]
            exact Nat.succ_pos _
  | consume count =>
      exact ⟨rest, part, { inv with holds := { inv.holds with } }⟩

theorem reachable_inv {p : Pipeline} (run : Relation.ReflTransGen Step initial p) :
    ∃ rest part, Inv p rest part := by
  induction run with
  | refl => exact ⟨[], [], initial_inv⟩
  | tail _ step ih =>
      obtain ⟨rest, part, inv⟩ := ih
      exact step.inv inv

/-- What is under way are whole frames, the first of them perhaps read in part. -/
def Intact (p : Pipeline) : Prop := ∃ rest part, Inv p rest part

theorem Intact.steps {p p' : Pipeline} (intact : p.Intact)
    (steps : Relation.ReflTransGen Step p p') : p'.Intact := by
  induction steps with
  | refl => exact intact
  | tail _ step ih =>
      obtain ⟨rest, part, inv⟩ := ih
      exact step.inv inv

/-- The bytes already queued by the reader do not matter. -/
theorem Intact.withQueue {p : Pipeline} (intact : p.Intact) (queue : List Byte) :
    Intact { p with reader := p.reader.withQueue queue } := by
  obtain ⟨rest, part, inv⟩ := intact
  exact ⟨rest, part, { inv with holds := { inv.holds with } }⟩

/-- Payloads that are sent one after the other. -/
theorem emits (p : Pipeline) (clean : p.writer.m_queue = []) {out : List (List Byte)}
    (fits : ∀ payload ∈ out, payload ≠ [] ∧ payload.length < 2 ^ 32) :
    Relation.ReflTransGen Step p
      { p with
        writer := ⟨[], p.writer.m_packet_queue ++ out.map WritePacket.padded⟩
        sent := p.sent ++ out } := by
  induction out generalizing p with
  | nil =>
      rw [List.map_nil, List.append_nil, List.append_nil, ← clean]
  | cons payload rest ih =>
      obtain ⟨nonempty, small⟩ := fits payload List.mem_cons_self
      let written : Pipeline := { p with writer := p.writer.writeBytes payload }
      have queue : written.writer.m_queue = payload := by
        rw [WriteStream.writeBytes_queue, clean, List.nil_append]
      have write : Step p written := .write p payload
      have send := Step.send written (by rw [queue]; exact nonempty) (by rw [queue]; exact small)
      rw [WriteStream.send_of_nonempty (by rw [queue]; exact nonempty), queue] at send
      have later := ih { written with
        writer := ⟨[], written.writer.m_packet_queue ++ [.padded payload]⟩
        sent := written.sent ++ [payload] } rfl
        fun x member => fits x (List.mem_cons_of_mem _ member)
      refine .trans (.tail (.single write) send) ?_
      have arranged : p.writer.m_packet_queue ++ (payload :: rest).map WritePacket.padded =
          (written.writer.m_packet_queue ++ [.padded payload]) ++ rest.map WritePacket.padded := by
        rw [List.append_assoc]
        rfl
      have history : p.sent ++ payload :: rest = (written.sent ++ [payload]) ++ rest := by
        rw [List.append_assoc]
        rfl
      rw [arranged, history]
      exact later

/-- When pipe and packets are empty nothing is outstanding. -/
theorem Inv.drained {p : Pipeline} {rest : List (List Byte)} {part : List Byte}
    (inv : Inv p rest part) (noPipe : p.pipe = []) (noPackets : p.writer.m_packet_queue = []) :
    rest = [] := by
  cases rest with
  | nil => rfl
  | cons next more =>
      have whole := congrArg List.length inv.whole
      have short := inv.short next more rfl
      simp only [noPipe, Pipeline.pending, noPackets, List.map_nil, List.flatten_nil,
        List.append_nil, List.length_append] at whole
      omega

/--
Framing round trip for payloads of at most 50000000 bytes.  Whatever the cut
points on both sides, the fills have appended the first payloads sent, each
whole and only once all bytes of its frame were read; once pipe and packets are
empty they have appended all of them.  The next fill returns, and appends
nothing or the next payload.
-/
theorem framing_roundtrip {p : Pipeline} (run : Relation.ReflTransGen Step initial p)
    (bounded : ∀ payload ∈ p.sent, payload.length ≤ 50000000) :
    p.appended <+: p.sent ∧
    (p.appended.map frame).flatten <+: p.received ∧
    (p.pipe = [] → p.writer.m_packet_queue = [] → p.appended = p.sent) ∧
    ∀ (poll_struct : Pollfd) (header body : SysResult (List Byte)) (got : List Byte),
      poll_struct.revents.POLLIN = true → FillReads p.reader p.pipe header body got →
      ∃ reader, p.reader.fill poll_struct header body = .ok reader ∧
        (reader.m_queue = p.reader.m_queue ∨
          ∃ payload more, p.sent = p.appended ++ payload :: more ∧
            reader.m_queue = p.reader.m_queue ++ payload ∧
            p.received ++ got = ((p.appended ++ [payload]).map frame).flatten) := by
  obtain ⟨rest, part, inv⟩ := reachable_inv run
  refine ⟨⟨rest, inv.sent.symm⟩, ⟨part, inv.received.symm⟩, ?_, ?_⟩
  · intro noPipe noPackets
    have none := inv.drained noPipe noPackets
    rw [inv.sent, none, List.append_nil]
  · intro poll_struct header body got ready reads
    obtain ⟨next, more, rfl, nonempty, -, fills⟩ := inv.fill ready reads
    obtain ⟨reader, result⟩ := fills.returns (bounded next (by rw [inv.sent]; simp))
    refine ⟨reader, result, ?_⟩
    cases fills.filled reader result with
    | unfinished holds queue short => exact Or.inl queue
    | finished done holds queue =>
        refine Or.inr ⟨next, more, inv.sent, queue, ?_⟩
        rw [inv.received, List.append_assoc, done]
        simp

/-- A step whose packet, if it makes one, stays in the array it allocates. -/
structure ExactStep (p p' : Pipeline) : Prop where
  step : Step p p'
  exact : p'.sent ≠ p.sent → p.writer.sendExact = .ok p'.writer

/-- The round trip of payloads that are sent one after the other. -/
structure RoundTrip (out : List (List Byte)) (p : Pipeline) : Prop where
  sends : ∀ payload, p.sent ++ [payload] <+: out → p.writer.m_queue = payload →
    ∃ writer, p.writer.sendExact = .ok writer
  inOrder : p.appended <+: p.sent
  whole : (p.appended.map frame).flatten <+: p.received
  all : p.pipe = [] → p.writer.m_packet_queue = [] → p.appended = p.sent
  next : ∀ (poll_struct : Pollfd) (header body : SysResult (List Byte)) (got : List Byte),
    poll_struct.revents.POLLIN = true → FillReads p.reader p.pipe header body got →
    ∃ reader, p.reader.fill poll_struct header body = .ok reader ∧
      (reader.m_queue = p.reader.m_queue ∨
        ∃ payload more, p.sent = p.appended ++ payload :: more ∧
          reader.m_queue = p.reader.m_queue ++ payload ∧
          p.received ++ got = ((p.appended ++ [payload]).map frame).flatten)

/-- Payloads that make the round trip have four bytes at least, and can be sent. -/
theorem sends_long {out : List (List Byte)}
    (fits : ∀ payload ∈ out, payload ≠ [] ∧ payload.length ≤ 50000000)
    (trips : ∀ p, Relation.ReflTransGen ExactStep initial p → p.sent <+: out → RoundTrip out p)
    (front : List (List Byte)) (first : front <+: out) :
    (∀ payload ∈ front, 4 ≤ payload.length) ∧
      ∃ p, Relation.ReflTransGen ExactStep initial p ∧ p.sent = front ∧ p.writer.m_queue = [] := by
  induction front using List.reverseRec with
  | nil => exact ⟨nofun, initial, .refl, rfl, rfl⟩
  | append_singleton front payload ih =>
      obtain ⟨long, p, run, sent, clean⟩ := ih ((List.prefix_append _ _).trans first)
      obtain ⟨nonempty, small⟩ := fits payload (first.subset (by simp))
      let written : Pipeline := { p with writer := p.writer.writeBytes payload }
      have queue : written.writer.m_queue = payload := by
        rw [WriteStream.writeBytes_queue, clean, List.nil_append]
      have some' : written.writer.m_queue ≠ [] := by rwa [queue]
      have before : Relation.ReflTransGen ExactStep initial written :=
        .tail run ⟨.write p payload, fun other => absurd rfl other⟩
      obtain ⟨writer, sends⟩ := (trips written before (by
        change p.sent <+: out
        rw [sent]
        exact (List.prefix_append _ _).trans first)).sends payload (by
          change p.sent ++ [payload] <+: out
          rw [sent]
          exact first) queue
      have enough : 4 ≤ payload.length := by
        rw [WriteStream.sendExact_eq some', queue] at sends
        by_contra short
        rw [if_neg short] at sends
        cases sends
      have exact : written.writer.sendExact = .ok written.writer.send := by
        rw [WriteStream.sendExact_eq some', if_pos (by rwa [queue])]
      refine ⟨?_, _, .tail before ⟨.send written some' (by rw [queue]; omega), fun _ => exact⟩, ?_,
        WriteStream.send_queue _⟩
      · intro other member
        rcases List.mem_append.mp member with earlier | last
        · exact long other earlier
        · rw [List.mem_singleton.mp last]
          exact enough
      · change p.sent ++ [written.writer.m_queue] = front ++ [payload]
        rw [queue, sent]

/--
Payloads of at most 50000000 bytes make the round trip, in every run, exactly if
each has four bytes at least: the constructor of a shorter one stores past its
array.
-/
theorem framing_roundtrip_iff {out : List (List Byte)}
    (fits : ∀ payload ∈ out, payload ≠ [] ∧ payload.length ≤ 50000000) :
    (∀ p, Relation.ReflTransGen ExactStep initial p → p.sent <+: out → RoundTrip out p) ↔
      ∀ payload ∈ out, 4 ≤ payload.length := by
  constructor
  · intro trips
    exact (sends_long fits trips out (List.prefix_refl out)).1
  · intro long p run sent
    have steps : Relation.ReflTransGen Step initial p :=
      Relation.ReflTransGen.mono (fun _ _ step => step.step) _ _ run
    obtain ⟨inOrder, whole, all, next⟩ := framing_roundtrip steps fun payload member =>
      (fits payload (sent.subset member)).2
    refine ⟨?_, inOrder, whole, all, next⟩
    intro payload following queue
    have member : payload ∈ out := following.subset (by simp)
    have fields : p.writer.m_queue ≠ [] := by
      rw [queue]
      exact (fits payload member).1
    refine ⟨p.writer.send, ?_⟩
    rw [WriteStream.sendExact_eq fields, if_pos]
    rw [queue]
    exact long payload member

/-! ### Two frames, cut on both sides -/

def ready : Pollfd :=
  ⟨1, { POLLIN with POLLOUT := true }, { POLLIN with POLLOUT := true }⟩

/-- What a read returns that gets `count` bytes; no bytes are there yet for none. -/
def reading (pipe : List Byte) (count : Nat) : SysResult (List Byte) :=
  if count = 0 then .fail .EAGAIN else .ok (pipe.take count)

/-- A read of the body that gets `count` bytes of a pipe with as many. -/
def canRead (pipe : List Byte) (request count : Nat) : Bool :=
  decide (count ≤ pipe.length) && decide (count ≤ request)

theorem reads_body {pipe : List Byte} {request count : Nat}
    (can : canRead pipe request count = true) :
    BodyReads pipe request (reading pipe count) (pipe.take count) := by
  unfold canRead at can
  rw [Bool.and_eq_true, decide_eq_true_eq, decide_eq_true_eq] at can
  unfold reading
  split
  · rename_i none
    rw [none]
    exact .again
  · refine .data (.data (List.take_append_drop count pipe).symm ?_ ?_)
    · rw [Ne, ← List.length_eq_zero_iff, List.length_take]
      omega
    · rw [List.length_take]
      omega

/-- One move of the two ends, with the sizes that its system calls return. -/
inductive Move where
  | write (bytes : List Byte)
  | send
  | empty (count : Nat)
  | fill (header body : Nat)

/-- The two ends after a fill. -/
def filled (p : Pipeline) (got : List Byte) (reader : ReadStream) : Pipeline :=
  { p with
    reader := reader
    pipe := p.pipe.drop got.length
    received := p.received ++ got
    appended :=
      if reader.m_queue = p.reader.m_queue then p.appended
      else p.appended ++ [reader.m_queue.drop p.reader.m_queue.length] }

/-- The two ends after a move, if it can be made. -/
def move (p : Pipeline) : Move → Option Pipeline
  | .write bytes => some { p with writer := p.writer.writeBytes bytes }
  | .send =>
      match p.writer.sendExact with
      | .ok writer =>
          if p.writer.m_queue.length < 2 ^ 32 ∧ p.writer.m_queue ≠ [] then
            some { p with writer := writer, sent := p.sent ++ [p.writer.m_queue] }
          else
            none
      | .error _ => none
  | .empty count =>
      match p.writer.empty ready (.ok count) with
      | .ok (writer, _, taken) =>
          if (p.writer.m_packet_queue.all fun packet => decide (count ≤ packet.request)) then
            some { p with writer := writer, pipe := p.pipe ++ taken }
          else
            none
      | .error _ => none
  | .fill header body =>
      let head := p.pipe.take header
      let rest := p.pipe.drop header
      let after := p.reader.received head
      match p.reader.fill ready (.ok head) (reading rest body) with
      | .ok reader =>
          if p.reader.m_read_count < 4 then
            if header ≠ 0 ∧ canRead p.pipe p.reader.headerRequest header = true then
              if after.m_read_count < 4 then
                some (p.filled head reader)
              else if canRead rest after.bodyRequest body = true then
                some (p.filled (head ++ rest.take body) reader)
              else
                none
            else
              none
          else if header = 0 ∧ canRead rest p.reader.bodyRequest body = true then
            some (p.filled (rest.take body) reader)
          else
            none
      | .error _ => none

/-- A move is a step. -/
theorem step_move {p p' : Pipeline} {m : Move} (moved : p.move m = some p') : ExactStep p p' := by
  cases m with
  | write bytes =>
      obtain rfl := Option.some.inj moved
      exact ⟨.write p bytes, fun other => absurd rfl other⟩
  | send =>
      unfold move at moved
      cases sends : p.writer.sendExact with
      | error fault =>
          rw [sends] at moved
          cases moved
      | ok writer =>
          rw [sends] at moved
          obtain ⟨⟨small, fields⟩, moved⟩ := Option.ite_none_right_eq_some.mp moved
          obtain rfl := Option.some.inj moved
          have exact := sends
          rw [WriteStream.sendExact_eq fields] at sends
          split at sends
          · obtain rfl := Except.ok.inj sends
            exact ⟨.send p fields small, fun _ => exact⟩
          · cases sends
  | empty count =>
      unfold move at moved
      dsimp only at moved
      cases result : p.writer.empty ready (.ok count) with
      | error fault =>
          rw [result] at moved
          cases moved
      | ok done =>
          obtain ⟨writer, after, taken⟩ := done
          rw [result] at moved
          obtain ⟨fits, moved⟩ := Option.ite_none_right_eq_some.mp moved
          obtain rfl := Option.some.inj moved
          refine ⟨.empty p ?_ result, fun other => absurd rfl other⟩
          intro front rest queue
          rw [queue] at fits
          exact of_decide_eq_true (List.all_eq_true.mp fits front List.mem_cons_self)
  | fill header body =>
      have only : ∀ {got reader}, (p.filled got reader).sent ≠ p.sent →
          p.writer.sendExact = .ok (p.filled got reader).writer := fun other => absurd rfl other
      unfold move at moved
      dsimp only at moved
      split at moved
      · rename_i reader result
        split at moved
        · rename_i missing
          obtain ⟨⟨some', can⟩, moved⟩ := Option.ite_none_right_eq_some.mp moved
          have first : Reads p.pipe p.reader.headerRequest (.ok (p.pipe.take header))
              (p.pipe.take header) := by
            have read := reads_body can
            unfold reading at read
            rw [if_neg some'] at read
            cases read with
            | data read => exact read
          split at moved
          · rename_i still
            obtain rfl := Option.some.inj moved
            exact ⟨.fill p rfl (.header missing first still) result, only⟩
          · rename_i present
            obtain ⟨can', moved⟩ := Option.ite_none_right_eq_some.mp moved
            obtain rfl := Option.some.inj moved
            refine ⟨.fill p rfl (.both missing first present ?_) result, only⟩
            have size : (p.pipe.take header).length = header := by
              unfold canRead at can
              rw [Bool.and_eq_true, decide_eq_true_eq] at can
              rw [List.length_take, Nat.min_eq_left can.1]
            rw [size]
            exact reads_body can'
        · rename_i present
          obtain ⟨⟨rfl, can⟩, moved⟩ := Option.ite_none_right_eq_some.mp moved
          obtain rfl := Option.some.inj moved
          exact ⟨.fill p rfl (.body present (reads_body can)) result, only⟩
      · cases moved

theorem run_moves {p p' : Pipeline} {moves : List Move}
    (moved : moves.foldlM move p = some p') : Relation.ReflTransGen ExactStep p p' := by
  induction moves generalizing p with
  | nil =>
      obtain rfl := Option.some.inj moved
      exact .refl
  | cons first rest ih =>
      obtain ⟨next, step, later⟩ := Option.bind_eq_some_iff.mp moved
      exact .head (step_move step) (ih later)

def twoPayloads : List (List Byte) := [[1, 2, 3, 4], [5, 6, 7, 8, 9]]

/--
The first frame is cut after six bytes, the reads get three bytes of its header,
then the fourth with one byte of the payload; of the second frame they get the
header with two bytes, nothing, and the rest.
-/
def cuts : List Move :=
  [.write [1, 2, 3, 4], .send, .write [5, 6], .write [7, 8, 9], .send, .empty 6, .fill 3 0,
    .fill 1 1, .empty 2, .fill 0 3, .empty 9, .fill 4 2, .fill 0 0, .fill 0 3]

theorem cuts_made : (cuts.foldlM move initial).map
    (fun p => (p.sent, p.pipe, p.writer.m_packet_queue)) = some (twoPayloads, [], []) := by
  decide +kernel

theorem framing_roundtrip_cuts :
    ∃ p, Relation.ReflTransGen ExactStep initial p ∧ p.appended = twoPayloads := by
  obtain ⟨p, moved, ends⟩ := Option.map_eq_some_iff.mp cuts_made
  obtain ⟨sent, ends⟩ := Prod.mk.inj ends
  obtain ⟨pipe, packets⟩ := Prod.mk.inj ends
  have trips := (@framing_roundtrip_iff twoPayloads (by decide)).mpr (by decide)
  have prefixed : p.sent <+: twoPayloads := sent ▸ List.prefix_refl _
  exact ⟨p, run_moves moved, ((trips p (run_moves moved) prefixed).all pipe packets).trans sent⟩

/-- The two bytes of CMD_SHUTDOWN are no room for the word. -/
theorem not_framing_roundtrip :
    ¬ ∀ (out : List (List Byte)) (p : Pipeline),
      (∀ payload ∈ out, payload ≠ [] ∧ payload.length ≤ 50000000) →
      Relation.ReflTransGen ExactStep initial p → p.sent <+: out → RoundTrip out p := by
  intro always
  have written : ExactStep initial { initial with writer := WriteStream.fresh.writeBytes [1, 148] } :=
    ⟨.write initial [1, 148], fun other => absurd rfl other⟩
  obtain ⟨writer, sends⟩ := (always [[1, 148]] _ (by decide) (.single written)
    (List.nil_prefix)).sends [1, 148] (List.prefix_refl _) rfl
  have fault : (WriteStream.fresh.writeBytes [1, 148]).sendExact.isOk = false := by decide
  rw [show (WriteStream.fresh.writeBytes [1, 148]).sendExact = .ok writer from sends] at fault
  cases fault

end Pipeline

end Tun01
