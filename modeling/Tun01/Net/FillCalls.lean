import Tun01.Lib.Run
import Tun01.Net.Framing

/-!
# The calls of one fill

`fill` once more, with the reads and the allocation it makes in order and the
stream it leaves behind, also where it throws.  Along every sequence of fills
the reads stay inside the array, whatever lengths arrive.
-/

namespace Tun01

/-! ## Calls -/

/-- What `fill` asks of the system; `size` is the size of the array it reads into. -/
inductive FillCall where
  /-- `read(fd, m_read_buf + count, 4 - count)` -/
  | header (count size : Nat)
  /-- `new char[length + 4]`, the bytes read so far, and what `memmove` copies of them -/
  | allocate (length : Nat) (read copied : List Byte)
  /-- `read(fd, m_read_buf + count, length + 4 - count)` -/
  | body (length count size : Nat)
  deriving DecidableEq

namespace FillCall

/-- The request of a read and its result. -/
def read? (header body : SysResult (List Byte)) :
    FillCall → Option (Nat × SysResult (List Byte))
  | .header count _ => some (4 - count, header)
  | .allocate _ _ _ => none
  | .body length count _ => some (length + 4 - count, body)

/-- A read returns no more than it was asked for. -/
def Serves (header body : SysResult (List Byte)) (call : FillCall) : Prop :=
  ∀ request result, call.read? header body = some (request, result) → result.ReadsWithin request

def got (header body : SysResult (List Byte)) (call : FillCall) : List Byte :=
  match call.read? header body with
  | some (_, .ok bytes) => bytes
  | _ => []

/-- The call stays inside the array; the request of a read does not wrap around. -/
def Safe : FillCall → Prop
  | .header count size => count ≤ 4 ∧ count + (4 - count) ≤ size
  | .allocate length read copied => length ≤ 50000000 ∧ copied = read
  | .body length count size =>
      length ≤ 50000000 ∧ count ≤ length + 4 ∧ count + (length + 4 - count) ≤ size

end FillCall

/-- The calls of a fill, the stream it leaves and how it ends. -/
structure FillOutcome where
  calls : List FillCall
  stream : ReadStream
  result : Except Fault Unit

namespace ReadStream

def partRead (rs : ReadStream) : List Byte := rs.m_read_buf.take rs.m_read_count

/-- The allocation of `fill`, when the frame does not fit. -/
def growth (rs : ReadStream) : List FillCall :=
  if rs.length + 4 > rs.m_read_size then [.allocate rs.length rs.partRead rs.reserve.partRead]
  else []

/-- The part of `fill` that runs once the header is there. -/
def bodyOutcome (rs : ReadStream) (read : SysResult (List Byte)) : FillOutcome :=
  if rs.length > 50000000 then
    ⟨[], rs, .error (.exception "Bad read length")⟩
  else
    let calls := rs.growth ++ [.body rs.length rs.reserve.m_read_count rs.reserve.m_read_size]
    match read with
    | .fail .EAGAIN => ⟨calls, rs.reserve.complete rs.length, .ok ()⟩
    | .fail errno => ⟨calls, rs.reserve, .error (.exceptionErrno errno)⟩
    | .ok bytes => ⟨calls, (rs.reserve.received bytes).complete rs.length, .ok ()⟩

/-- `fill` with its calls. -/
def fillOutcome (rs : ReadStream) (poll_struct : Pollfd) (header body : SysResult (List Byte)) :
    FillOutcome :=
  if poll_struct.revents.POLLIN then
    if rs.m_read_count < 4 then
      let call := FillCall.header rs.m_read_count rs.m_read_size
      match rs.readHeader header with
      | .error fault => ⟨[call], rs, .error fault⟩
      | .ok rs =>
          if rs.m_read_count < 4 then ⟨[call], rs, .ok ()⟩
          else { rs.bodyOutcome body with calls := call :: (rs.bodyOutcome body).calls }
    else
      rs.bodyOutcome body
  else
    ⟨[], rs, .ok ()⟩

theorem fillBody_eq_outcome (rs : ReadStream) (read : SysResult (List Byte)) :
    rs.fillBody read = (rs.bodyOutcome read).result.map fun _ => (rs.bodyOutcome read).stream := by
  unfold fillBody bodyOutcome
  split
  · rfl
  · cases read with
    | ok bytes => rfl
    | fail errno => cases errno <;> rfl

/-- The outcome is that of `fill`. -/
theorem fill_eq_outcome (rs : ReadStream) (poll_struct : Pollfd)
    (header body : SysResult (List Byte)) :
    rs.fill poll_struct header body =
      (rs.fillOutcome poll_struct header body).result.map fun _ =>
        (rs.fillOutcome poll_struct header body).stream := by
  unfold fill fillOutcome
  split
  · split
    · cases rs.readHeader header with
      | error fault => rfl
      | ok rs₁ =>
          rw [ok_bind]
          dsimp only
          split
          · rfl
          · exact fillBody_eq_outcome rs₁ body
    · exact fillBody_eq_outcome rs body
  · rfl

/-! ## The invariant -/

/-- The bytes read lie inside the array and inside the frame their header announces. -/
structure InBounds (rs : ReadStream) : Prop where
  size : rs.m_read_buf.length = rs.m_read_size
  roomy : 4 ≤ rs.m_read_size
  inside : rs.m_read_count ≤ rs.m_read_size
  framed : rs.m_read_count ≤ rs.length + 4

theorem fresh_inBounds : fresh.InBounds where
  size := by rw [fresh, List.length_replicate]
  roomy := by decide
  inside := Nat.zero_le _
  framed := Nat.zero_le _

/-- The announced length depends on the first four bytes of the array. -/
theorem length_take (rs : ReadStream) :
    rs.length = { rs with m_read_buf := rs.m_read_buf.take 4 : ReadStream }.length := by
  unfold length
  match rs.m_read_buf with
  | [] | [_] | [_, _] | [_, _, _] | _ :: _ :: _ :: _ :: _ => rfl

theorem length_congr {rs rs' : ReadStream} (same : rs'.m_read_buf.take 4 = rs.m_read_buf.take 4) :
    rs'.length = rs.length := by
  rw [length_take rs', length_take rs, same]
  rfl

namespace InBounds

variable {rs : ReadStream}

theorem holds (bounds : rs.InBounds) : rs.Holds rs.partRead where
  count := by
    rw [partRead, List.length_take, bounds.size, Nat.min_eq_left bounds.inside]
  bytes := rfl
  size := bounds.size
  roomy := bounds.roomy

theorem partRead_length (bounds : rs.InBounds) : rs.partRead.length = rs.m_read_count :=
  bounds.holds.count.symm

/-- With the header there, bytes that arrive do not change the announced length. -/
theorem length_received (header : 4 ≤ rs.m_read_count) (bounds : rs.InBounds)
    (bytes : List Byte) : (rs.received bytes).length = rs.length := by
  apply length_congr
  have kept := @take_overwrite rs.m_read_buf bytes rs.m_read_count
    (by rw [bounds.size]; exact bounds.inside)
  have front := congrArg (List.take 4) kept
  rw [List.take_take, List.take_take, Nat.min_eq_left header] at front
  exact front

/-- Bytes that fit into the array and the frame keep the invariant. -/
theorem received (bounds : rs.InBounds) {bytes : List Byte}
    (room : rs.m_read_count + bytes.length ≤ rs.m_read_size)
    (framed : rs.m_read_count + bytes.length ≤ (rs.received bytes).length + 4) :
    (rs.received bytes).InBounds where
  size := (bounds.holds.received (by rw [bounds.partRead_length]; exact room)).size
  roomy := bounds.roomy
  inside := room
  framed := framed

theorem partRead_received (bounds : rs.InBounds) {bytes : List Byte}
    (room : rs.m_read_count + bytes.length ≤ rs.m_read_size) :
    (rs.received bytes).partRead = rs.partRead ++ bytes :=
  (bounds.holds.received (by rw [bounds.partRead_length]; exact room)).bytes

/-- Regrowing keeps the bytes read and makes room for the frame. -/
theorem reserve_spec (bounds : rs.InBounds) :
    rs.reserve.partRead = rs.partRead ∧ rs.length + 4 ≤ rs.reserve.m_read_size ∧
      rs.reserve.m_queue = rs.m_queue ∧ rs.reserve.m_read_count = rs.m_read_count := by
  obtain ⟨held, room, queue⟩ := bounds.holds.reserve
    (by rw [bounds.partRead_length]; exact bounds.framed)
  exact ⟨held.bytes, room, queue, by rw [held.count, bounds.partRead_length]⟩

theorem length_reserve (header : 4 ≤ rs.m_read_count) (bounds : rs.InBounds) :
    rs.reserve.length = rs.length := by
  apply length_congr
  obtain ⟨kept, _, _, count⟩ := bounds.reserve_spec
  unfold partRead at kept
  rw [count] at kept
  have front := congrArg (List.take 4) kept
  rw [List.take_take, List.take_take, Nat.min_eq_left header] at front
  exact front

theorem reserve (header : 4 ≤ rs.m_read_count) (bounds : rs.InBounds) : rs.reserve.InBounds where
  size := (bounds.holds.reserve (by rw [bounds.partRead_length]; exact bounds.framed)).1.size
  roomy := (bounds.holds.reserve (by rw [bounds.partRead_length]; exact bounds.framed)).1.roomy
  inside := by
    obtain ⟨_, room, _, count⟩ := bounds.reserve_spec
    rw [count]
    exact Nat.le_trans bounds.framed room
  framed := by
    rw [length_reserve header bounds, bounds.reserve_spec.2.2.2]
    exact bounds.framed

/-- A completed frame leaves the array empty. -/
theorem complete (bounds : rs.InBounds) (length : Nat) : (rs.complete length).InBounds := by
  unfold ReadStream.complete
  split
  · exact ⟨bounds.size, bounds.roomy, Nat.zero_le _, Nat.zero_le _⟩
  · exact bounds

end InBounds

/-! ## One fill -/

variable {rs rs' : ReadStream} {poll_struct : Pollfd} {header body : SysResult (List Byte)}

theorem readHeader_received (result : rs.readHeader header = .ok rs') :
    ∃ bytes, header = .ok bytes ∧ bytes ≠ [] ∧ rs' = rs.received bytes := by
  cases header with
  | fail errno => cases result
  | ok bytes =>
      cases bytes with
      | nil => cases result
      | cons b rest => exact ⟨b :: rest, rfl, List.cons_ne_nil b rest, (Except.ok.inj result).symm⟩

/-- What arrives for the header fits. -/
theorem InBounds.readHeader (bounds : rs.InBounds) (early : rs.m_read_count < 4)
    (within : header.ReadsWithin (4 - rs.m_read_count)) (result : rs.readHeader header = .ok rs') :
    rs'.InBounds := by
  obtain ⟨bytes, rfl, _, rfl⟩ := readHeader_received result
  have few := within bytes rfl
  have roomy := bounds.roomy
  exact bounds.received (by omega) (by omega)

theorem bodyOutcome_safe (bounds : rs.InBounds) (read : SysResult (List Byte)) :
    ∀ call ∈ (rs.bodyOutcome read).calls, call.Safe := by
  obtain ⟨kept, room, _, count⟩ := bounds.reserve_spec
  have framed := bounds.framed
  unfold bodyOutcome
  split
  · exact fun _ member => by cases member
  · rename_i short
    have safe : ∀ call ∈ rs.growth ++
        [.body rs.length rs.reserve.m_read_count rs.reserve.m_read_size], call.Safe := by
      intro call member
      rcases List.mem_append.mp member with grows | reads
      · unfold growth at grows
        split at grows
        · rw [List.mem_singleton.mp grows]
          exact ⟨Nat.le_of_not_lt short, kept⟩
        · cases grows
      · rw [List.mem_singleton.mp reads, count]
        exact ⟨Nat.le_of_not_lt short, framed, by omega⟩
    cases read with
    | ok bytes => exact safe
    | fail errno => cases errno <;> exact safe

theorem bodyOutcome_inBounds (there : 4 ≤ rs.m_read_count) (bounds : rs.InBounds)
    {read : SysResult (List Byte)}
    (serves : ∀ call ∈ (rs.bodyOutcome read).calls, call.Serves header read) :
    (rs.bodyOutcome read).stream.InBounds := by
  have regrown := InBounds.reserve there bounds
  obtain ⟨_, room, _, count⟩ := bounds.reserve_spec
  unfold bodyOutcome at serves ⊢
  split at serves
  · rename_i long
    rw [if_pos long]
    exact bounds
  · rename_i short
    rw [if_neg short]
    cases read with
    | fail errno =>
        cases errno with
        | EAGAIN => exact regrown.complete _
        | EINTR | EBADF | EPIPE | ECONNRESET | ECONNABORTED | EHOSTUNREACH | other code =>
            exact regrown
    | ok bytes =>
        have within : bytes.length ≤ rs.length + 4 - rs.m_read_count := by
          have served := serves _ (List.mem_append_right _ (List.mem_singleton_self _)) _ _ rfl
          rw [count] at served
          exact served bytes rfl
        have framed := bounds.framed
        refine (regrown.received ?_ ?_).complete _
        · omega
        · rw [InBounds.length_received (by omega) regrown, InBounds.length_reserve there bounds]
          omega

/-- A fill of a stream in bounds makes safe calls and leaves the stream in bounds. -/
theorem fillOutcome_safe (bounds : rs.InBounds)
    (serves : ∀ call ∈ (rs.fillOutcome poll_struct header body).calls, call.Serves header body) :
    (∀ call ∈ (rs.fillOutcome poll_struct header body).calls, call.Safe) ∧
      (rs.fillOutcome poll_struct header body).stream.InBounds := by
  have roomy := bounds.roomy
  unfold fillOutcome at serves ⊢
  split
  · rename_i ready
    rw [if_pos ready] at serves
    split
    · rename_i early
      rw [if_pos early] at serves
      have first : FillCall.Safe (.header rs.m_read_count rs.m_read_size) :=
        ⟨Nat.le_of_lt early, by omega⟩
      cases result : rs.readHeader header with
      | error fault =>
          exact ⟨fun call member => by rw [List.mem_singleton.mp member]; exact first, bounds⟩
      | ok rs' =>
          rw [result] at serves
          dsimp only at serves ⊢
          have within : header.ReadsWithin (4 - rs.m_read_count) := by
            split at serves
            · exact serves _ (List.mem_singleton_self _) _ _ rfl
            · exact serves _ List.mem_cons_self _ _ rfl
          have bounds' := bounds.readHeader early within result
          split
          · exact ⟨fun call member => by rw [List.mem_singleton.mp member]; exact first, bounds'⟩
          · rename_i there
            rw [if_neg there] at serves
            constructor
            · intro call member
              rcases List.mem_cons.mp member with rfl | later
              · exact first
              · exact bodyOutcome_safe bounds' body call later
            · exact bodyOutcome_inBounds (Nat.le_of_not_lt there) bounds'
                fun call member => serves call (List.mem_cons_of_mem _ member)
    · rename_i there
      rw [if_neg there] at serves
      exact ⟨bodyOutcome_safe bounds body,
        bodyOutcome_inBounds (Nat.le_of_not_lt there) bounds serves⟩
  · exact ⟨fun _ member => (List.not_mem_nil member).elim, bounds⟩

/-- A fill in which no read returns more than it was asked for. -/
def FillStep (rs : ReadStream)
    (event : Pollfd × SysResult (List Byte) × SysResult (List Byte)) (rs' : ReadStream) : Prop :=
  (∀ call ∈ (rs.fillOutcome event.1 event.2.1 event.2.2).calls,
    call.Serves event.2.1 event.2.2) ∧
  rs' = (rs.fillOutcome event.1 event.2.1 event.2.2).stream

theorem fills_inBounds {events : List (Pollfd × SysResult (List Byte) × SysResult (List Byte))}
    (run : Run FillStep fresh events rs) : rs.InBounds :=
  run.invariant fresh_inBounds fun bounds step => by
    rw [step.2]
    exact (fillOutcome_safe bounds step.1).2

/-- With the header there, a length above the limit is refused before anything else. -/
theorem bodyOutcome_refused (long : rs.length > 50000000) (read : SysResult (List Byte)) :
    rs.bodyOutcome read = ⟨[], rs, .error (.exception "Bad read length")⟩ := by
  rw [bodyOutcome, if_pos long]

/--
After any sequence of fills, whatever bytes arrived: the count is within the
array, the next fill reads inside it and copies what was read when it grows,
and a length above the limit is refused without a read of the body.
-/
theorem fill_in_bounds {events : List (Pollfd × SysResult (List Byte) × SysResult (List Byte))}
    (run : Run FillStep fresh events rs) :
    rs.m_read_count ≤ rs.m_read_size ∧ rs.m_read_buf.length = rs.m_read_size ∧
    (∀ poll_struct header body,
      (∀ call ∈ (rs.fillOutcome poll_struct header body).calls, call.Serves header body) →
      ∀ call ∈ (rs.fillOutcome poll_struct header body).calls, call.Safe) ∧
    (4 ≤ rs.m_read_count → rs.length > 50000000 → ∀ poll_struct header body,
      poll_struct.revents.POLLIN = true →
      rs.fillOutcome poll_struct header body =
        ⟨[], rs, .error (.exception "Bad read length")⟩) ∧
    (rs.m_read_count < 4 → ∀ poll_struct header body rs', poll_struct.revents.POLLIN = true →
      rs.readHeader header = .ok rs' → 4 ≤ rs'.m_read_count → rs'.length > 50000000 →
      rs.fillOutcome poll_struct header body =
        ⟨[.header rs.m_read_count rs.m_read_size], rs',
          .error (.exception "Bad read length")⟩) := by
  have bounds := fills_inBounds run
  refine ⟨bounds.inside, bounds.size, fun _ _ _ serves => (fillOutcome_safe bounds serves).1,
    ?_, ?_⟩
  · intro there long poll_struct header body ready
    unfold fillOutcome
    rw [if_pos ready, if_neg (Nat.not_lt.mpr there)]
    exact bodyOutcome_refused long body
  · intro early poll_struct header body rs' ready result there long
    unfold fillOutcome
    rw [if_pos ready, if_pos early, result]
    dsimp only
    rw [if_neg (Nat.not_lt.mpr there), bodyOutcome_refused long body]

def hostile : ReadStream :=
  (fresh.fillOutcome ⟨0, POLLIN, POLLIN⟩ (.ok [255, 255, 255, 255]) (.fail .EAGAIN)).stream

theorem hostile_facts :
    (fresh.fillOutcome ⟨0, POLLIN, POLLIN⟩ (.ok [255, 255, 255, 255]) (.fail .EAGAIN)).calls =
        [.header 0 4096] ∧
      hostile.m_read_count = 4 ∧ hostile.length = 4294967295 := by
  decide +kernel

theorem fill_in_bounds_hostile :
    hostile.m_read_count ≤ hostile.m_read_size ∧
      hostile.fillOutcome ⟨0, POLLIN, POLLIN⟩ (.ok []) (.ok [1]) =
        ⟨[], hostile, .error (.exception "Bad read length")⟩ := by
  obtain ⟨calls, count, length⟩ := hostile_facts
  have step : FillStep fresh (⟨0, POLLIN, POLLIN⟩, .ok [255, 255, 255, 255], .fail .EAGAIN)
      hostile := by
    refine ⟨fun call member => ?_, rfl⟩
    dsimp only at member
    rw [calls] at member
    rw [List.mem_singleton.mp member]
    intro request result read bytes returned
    obtain ⟨rfl, rfl⟩ := Prod.mk.inj (Option.some.inj read)
    obtain rfl := SysResult.ok.inj returned
    decide
  obtain ⟨inside, _, _, refused, _⟩ := fill_in_bounds (.single step)
  exact ⟨inside, refused (by omega) (by omega) _ _ _ rfl⟩

/-! ## The end of the stream -/

/-- The stream when the body is asked for. -/
def headed (rs : ReadStream) (header : SysResult (List Byte)) : ReadStream :=
  if rs.m_read_count < 4 then
    match header with
    | .ok bytes => rs.received bytes
    | .fail _ => rs
  else
    rs

/-- The header is complete and allowed, and bytes of the body are missing. -/
def WantsBody (rs : ReadStream) : Prop :=
  4 ≤ rs.m_read_count ∧ rs.length ≤ 50000000 ∧ rs.m_read_count < rs.length + 4

/-- A read that was to return bytes and returned none is reported as the end of the stream. -/
def ReportsEnd (o : FillOutcome) (header body : SysResult (List Byte)) : Prop :=
  ∀ call ∈ o.calls, ∀ request, call.read? header body = some (request, .ok []) → 0 < request →
    o.result = .error (.exception "End of file in ReadStream::fill")

/-- A read that would have to wait ends the fill, which keeps all it has read. -/
def KeepsWaiting (rs : ReadStream) (o : FillOutcome) (header body : SysResult (List Byte)) :
    Prop :=
  ∀ call ∈ o.calls, ∀ request, call.read? header body = some (request, .fail .EAGAIN) →
    0 < request → o.result = .ok () ∧ o.stream.m_queue = rs.m_queue ∧
      o.stream.partRead = rs.partRead ++ o.calls.flatMap (FillCall.got header body)

theorem growth_read? {call : FillCall} (member : call ∈ rs.growth) :
    call.read? header body = none := by
  unfold growth at member
  split at member
  · rw [List.mem_singleton.mp member]
    rfl
  · cases member

theorem growth_got (rs : ReadStream) (header body : SysResult (List Byte)) :
    rs.growth.flatMap (FillCall.got header body) = [] := by
  rw [List.flatMap_eq_nil_iff]
  intro call member
  rw [FillCall.got, growth_read? member]

/-- Among the calls for the body there is one read. -/
theorem body_read? {length count size request : Nat} {result : SysResult (List Byte)}
    {call : FillCall} (member : call ∈ rs.growth ++ [.body length count size])
    (reads : call.read? header body = some (request, result)) :
    request = length + 4 - count ∧ result = body := by
  rcases List.mem_append.mp member with grows | last
  · rw [growth_read? grows] at reads
    cases reads
  · rw [List.mem_singleton.mp last] at reads
    obtain ⟨rfl, rfl⟩ := Prod.mk.inj (Option.some.inj reads)
    exact ⟨rfl, rfl⟩

theorem bodyOutcome_keepsWaiting (bounds : rs.InBounds) :
    KeepsWaiting rs (rs.bodyOutcome body) header body := by
  obtain ⟨kept, _, queue, count⟩ := bounds.reserve_spec
  intro call member request reads positive
  unfold bodyOutcome at member ⊢
  split at member
  · cases member
  · rename_i short
    rw [if_neg short]
    cases body with
    | ok bytes =>
        obtain ⟨_, no⟩ := body_read? member reads
        cases no
    | fail errno =>
        cases errno with
        | EINTR | EBADF | EPIPE | ECONNRESET | ECONNABORTED | EHOSTUNREACH | other code =>
            obtain ⟨_, no⟩ := body_read? member reads
            cases no
        | EAGAIN =>
            obtain ⟨asked, _⟩ := body_read? member reads
            have unfinished : rs.reserve.complete rs.length = rs.reserve :=
              if_neg (by omega)
            refine ⟨rfl, ?_, ?_⟩
            · exact (congrArg m_queue unfinished).trans queue
            · dsimp only
              rw [unfinished, kept, List.flatMap_append, growth_got]
              exact (List.append_nil _).symm

/-- The body read takes no bytes for a reason to wait. -/
theorem bodyOutcome_reportsEnd (there : 4 ≤ rs.m_read_count) (bounds : rs.InBounds) :
    ReportsEnd (rs.bodyOutcome body) header body ↔ ¬ (body = .ok [] ∧ rs.WantsBody) := by
  obtain ⟨_, _, _, count⟩ := bounds.reserve_spec
  constructor
  · rintro reports ⟨rfl, _, short, missing⟩
    have returns : (rs.bodyOutcome (.ok [])).result = .ok () := by
      rw [bodyOutcome, if_neg (Nat.not_lt.mpr short)]
    have member : FillCall.body rs.length rs.m_read_count rs.reserve.m_read_size ∈
        (rs.bodyOutcome (.ok [])).calls := by
      rw [bodyOutcome, if_neg (Nat.not_lt.mpr short), count]
      exact List.mem_append_right _ (List.mem_singleton_self _)
    have ended := reports _ member _ rfl (by omega)
    rw [returns] at ended
    cases ended
  · intro wanted call member request reads positive
    unfold bodyOutcome at member
    split at member
    · cases member
    · rename_i short
      have asked : request = rs.length + 4 - rs.reserve.m_read_count ∧ .ok [] = body := by
        cases body with
        | ok bytes => exact body_read? member reads
        | fail errno => cases errno <;> exact body_read? member reads
      obtain ⟨rfl, rfl⟩ := asked
      exact absurd ⟨rfl, there, Nat.le_of_not_lt short, by omega⟩ wanted

/-- A header read that brought bytes neither ends the stream nor waits. -/
theorem headed_alike {bytes : List Byte} {call : FillCall} {o : FillOutcome} (bounds : rs.InBounds)
    (some' : bytes ≠ []) (room : rs.m_read_count + bytes.length ≤ rs.m_read_size)
    (first : call.read? (.ok bytes) body = some (4 - rs.m_read_count, .ok bytes)) :
    (ReportsEnd { o with calls := call :: o.calls } (.ok bytes) body ∧
        KeepsWaiting rs { o with calls := call :: o.calls } (.ok bytes) body) ↔
      ReportsEnd o (.ok bytes) body ∧ KeepsWaiting (rs.received bytes) o (.ok bytes) body := by
  have got : call.got (.ok bytes) body = bytes := by rw [FillCall.got, first]
  have parts : (rs.received bytes).partRead ++ o.calls.flatMap (FillCall.got (.ok bytes) body) =
      rs.partRead ++ (call :: o.calls).flatMap (FillCall.got (.ok bytes) body) := by
    rw [bounds.partRead_received room, List.flatMap_cons, got, List.append_assoc]
  constructor
  · rintro ⟨reports, waits⟩
    refine ⟨fun c member => reports c (List.mem_cons_of_mem _ member), ?_⟩
    intro c member request reads positive
    obtain ⟨ends, queue, kept⟩ := waits c (List.mem_cons_of_mem _ member) request reads positive
    exact ⟨ends, queue, kept.trans parts.symm⟩
  · rintro ⟨reports, waits⟩
    constructor
    · intro c member request reads positive
      rcases List.mem_cons.mp member with rfl | later
      · rw [first] at reads
        exact absurd (SysResult.ok.inj (Prod.mk.inj (Option.some.inj reads)).2) some'
      · exact reports c later request reads positive
    · intro c member request reads positive
      rcases List.mem_cons.mp member with rfl | later
      · rw [first] at reads
        cases reads
      · obtain ⟨ends, queue, kept⟩ := waits c later request reads positive
        exact ⟨ends, queue, kept.trans parts⟩

/--
After any sequence of fills, at every position in a frame: an end of the stream
is reported and nothing is lost when bytes are not there yet, exactly if it is
not the header read that has to wait and not the body read that finds the end.
-/
theorem fill_ends_alike
    {events : List (Pollfd × SysResult (List Byte) × SysResult (List Byte))}
    (run : Run FillStep fresh events rs) (ready : poll_struct.revents.POLLIN = true)
    (serves : ∀ call ∈ (rs.fillOutcome poll_struct header body).calls,
      call.Serves header body) :
    (ReportsEnd (rs.fillOutcome poll_struct header body) header body ∧
        KeepsWaiting rs (rs.fillOutcome poll_struct header body) header body) ↔
      ¬ (rs.m_read_count < 4 ∧ header = .fail .EAGAIN) ∧
        ¬ (body = .ok [] ∧ (rs.headed header).WantsBody) := by
  have bounds := fills_inBounds run
  unfold fillOutcome at serves ⊢
  rw [if_pos ready] at serves ⊢
  by_cases early : rs.m_read_count < 4
  · rw [if_pos early] at serves ⊢
    have asks : 0 < 4 - rs.m_read_count := by omega
    cases header with
    | fail errno =>
        have idle : ¬ (rs.headed (.fail errno)).WantsBody := by
          rw [headed, if_pos early]
          exact fun wants => Nat.not_le.mpr early wants.1
        constructor
        · rintro ⟨_, waits⟩
          refine ⟨?_, fun wants => idle wants.2⟩
          rintro ⟨_, same⟩
          obtain rfl := SysResult.fail.inj same
          obtain ⟨returned, _⟩ := waits _ (List.mem_singleton_self _) _ rfl asks
          cases returned
        · rintro ⟨other, _⟩
          constructor
          · intro call member request reads
            rw [List.mem_singleton.mp member] at reads
            cases reads
          · intro call member request reads
            rw [List.mem_singleton.mp member] at reads
            cases reads
            exact absurd ⟨early, rfl⟩ other
    | ok bytes =>
        have same : rs.headed (.ok bytes) = rs.received bytes := if_pos early
        have other : ¬ (rs.m_read_count < 4 ∧ SysResult.ok bytes = .fail .EAGAIN) := nofun
        rw [same]
        cases bytes with
        | nil =>
            have idle : ¬ (rs.received []).WantsBody :=
              fun wants => Nat.not_le.mpr early wants.1
            refine ⟨fun _ => ⟨other, fun wants => idle wants.2⟩, fun _ => ⟨?_, ?_⟩⟩
            · exact fun _ _ _ _ _ => rfl
            · intro call member request reads
              rw [List.mem_singleton.mp member] at reads
              cases reads
        | cons b rest =>
            rw [show rs.readHeader (.ok (b :: rest)) = .ok (rs.received (b :: rest)) from rfl]
              at serves ⊢
            dsimp only at serves ⊢
            have within : (b :: rest).length ≤ 4 - rs.m_read_count := by
              split at serves
              · exact serves _ (List.mem_singleton_self _) _ _ rfl _ rfl
              · exact serves _ List.mem_cons_self _ _ rfl _ rfl
            have roomy := bounds.roomy
            have room : rs.m_read_count + (b :: rest).length ≤ rs.m_read_size := by omega
            by_cases there : (rs.received (b :: rest)).m_read_count < 4
            · have idle : ¬ (rs.received (b :: rest)).WantsBody :=
                fun wants => Nat.not_le.mpr there wants.1
              rw [if_pos there]
              refine ⟨fun _ => ⟨other, fun wants => idle wants.2⟩, fun _ => ?_⟩
              refine (headed_alike (o := ⟨[], _, _⟩) bounds (List.cons_ne_nil _ _) room rfl).mpr
                ⟨fun _ member => ?_, fun _ member => ?_⟩ <;> cases member
            · have bounds' : (rs.received (b :: rest)).InBounds :=
                bounds.received room (by omega)
              rw [if_neg there, headed_alike bounds (List.cons_ne_nil _ _) room rfl]
              refine Iff.trans (and_iff_left (bodyOutcome_keepsWaiting bounds')) ?_
              rw [bodyOutcome_reportsEnd (Nat.le_of_not_lt there) bounds']
              exact (and_iff_right other).symm
  · have there := Nat.le_of_not_lt early
    have same : rs.headed header = rs := if_neg early
    rw [if_neg early, same]
    refine Iff.trans (and_iff_left (bodyOutcome_keepsWaiting bounds)) ?_
    rw [bodyOutcome_reportsEnd there bounds]
    exact (and_iff_right fun no => early no.1).symm

/-- A header that is not complete asks for no body. -/
theorem headed_empty (early : rs.m_read_count < 4) : ¬ (rs.headed (.ok [])).WantsBody := by
  rw [headed, if_pos early]
  exact fun wants => Nat.not_le.mpr early wants.1

def halfHeader : ReadStream :=
  (fresh.fillOutcome ⟨0, POLLIN, POLLIN⟩ (.ok [0, 0]) (.fail .EAGAIN)).stream

def halfBody : ReadStream :=
  (fresh.fillOutcome ⟨0, POLLIN, POLLIN⟩ (.ok [0, 0, 0, 3]) (.ok [7])).stream

theorem half_facts :
    (fresh.fillOutcome ⟨0, POLLIN, POLLIN⟩ (.ok [0, 0]) (.fail .EAGAIN)).calls =
        [.header 0 4096] ∧
      (fresh.fillOutcome ⟨0, POLLIN, POLLIN⟩ (.ok [0, 0, 0, 3]) (.ok [7])).calls =
        [.header 0 4096, .body 3 4 4096] ∧
      halfHeader.m_read_count = 2 ∧ halfBody.m_read_count = 5 ∧
      halfBody.partRead = [0, 0, 0, 3, 7] ∧
      (halfHeader.fillOutcome ⟨0, POLLIN, POLLIN⟩ (.ok []) (.ok [])).calls = [.header 2 4096] ∧
      (halfBody.fillOutcome ⟨0, POLLIN, POLLIN⟩ (.ok []) (.fail .EAGAIN)).calls =
        [.body 3 5 4096] := by
  decide +kernel

/--
A stream that ends in a header is reported, and one that waits in a body keeps
what it has.
-/
theorem fill_ends_alike_halves :
    (halfHeader.fillOutcome ⟨0, POLLIN, POLLIN⟩ (.ok []) (.ok [])).result =
        .error (.exception "End of file in ReadStream::fill") ∧
      (halfBody.fillOutcome ⟨0, POLLIN, POLLIN⟩ (.ok []) (.fail .EAGAIN)).stream.partRead =
        [0, 0, 0, 3, 7] := by
  obtain ⟨header, both, two, five, read, headerCall, bodyCall⟩ := half_facts
  have serves : ∀ (call : FillCall) (header body : SysResult (List Byte)) (request : Nat)
      (bytes : List Byte), call.read? header body = some (request, .ok bytes) →
        bytes.length ≤ request → call.Serves header body := by
    intro call header body request bytes reads within request' result reads' bytes' returned
    rw [reads] at reads'
    obtain ⟨rfl, rfl⟩ := Prod.mk.inj (Option.some.inj reads')
    rw [← SysResult.ok.inj returned]
    exact within
  have first : FillStep fresh (⟨0, POLLIN, POLLIN⟩, .ok [0, 0], .fail .EAGAIN) halfHeader := by
    refine ⟨fun call member => ?_, rfl⟩
    dsimp only at member
    rw [header] at member
    rw [List.mem_singleton.mp member]
    exact serves _ _ _ 4 [0, 0] rfl (by decide)
  have second : FillStep fresh (⟨0, POLLIN, POLLIN⟩, .ok [0, 0, 0, 3], .ok [7]) halfBody := by
    refine ⟨fun call member => ?_, rfl⟩
    dsimp only at member
    rw [both] at member
    rcases List.mem_pair.mp member with rfl | rfl
    · exact serves _ _ _ 4 [0, 0, 0, 3] rfl (by decide)
    · exact serves _ _ _ 3 [7] rfl (by decide)
  have asked : ¬ (halfHeader.m_read_count < 4 ∧
      (SysResult.ok [] : SysResult (List Byte)) = .fail .EAGAIN) := fun no => by cases no.2
  have missing : ¬ ((SysResult.ok [] : SysResult (List Byte)) = .ok [] ∧
      (halfHeader.headed (.ok [])).WantsBody) := fun wants => headed_empty (by omega) wants.2
  have past : ¬ (halfBody.m_read_count < 4 ∧
      (SysResult.ok [] : SysResult (List Byte)) = .fail .EAGAIN) := fun no => by cases no.2
  have open' : ¬ ((SysResult.fail .EAGAIN : SysResult (List Byte)) = .ok [] ∧
      (halfBody.headed (.ok [])).WantsBody) := fun no => by cases no.1
  constructor
  · have ends := ((@fill_ends_alike halfHeader ⟨0, POLLIN, POLLIN⟩ (.ok []) (.ok []) _
      (.single first) rfl (by
        rw [headerCall]
        intro call member
        rw [List.mem_singleton.mp member]
        exact serves _ _ _ 2 [] rfl (Nat.zero_le _))).mpr ⟨asked, missing⟩).1
    exact ends (.header 2 4096) (by rw [headerCall]; exact List.mem_singleton_self _) 2 rfl
      (by decide)
  · have waits := ((@fill_ends_alike halfBody ⟨0, POLLIN, POLLIN⟩ (.ok []) (.fail .EAGAIN) _
      (.single second) rfl (by
        rw [bodyCall]
        intro call member request result reads bytes returned
        rw [List.mem_singleton.mp member] at reads
        obtain ⟨rfl, rfl⟩ := Prod.mk.inj (Option.some.inj reads)
        cases returned)).mpr ⟨past, open'⟩).2
    obtain ⟨_, _, kept⟩ := waits (.body 3 5 4096)
      (by rw [bodyCall]; exact List.mem_singleton_self _) 2 rfl (by decide)
    rw [kept, bodyCall, read]
    rfl

/-- A stream that ends behind the header of a frame is taken for a slow one. -/
theorem not_fill_ends_alike :
    ¬ ∀ (events : List (Pollfd × SysResult (List Byte) × SysResult (List Byte)))
      (rs : ReadStream) (poll_struct : Pollfd) (header body : SysResult (List Byte)),
      Run FillStep fresh events rs → poll_struct.revents.POLLIN = true →
      (∀ call ∈ (rs.fillOutcome poll_struct header body).calls, call.Serves header body) →
      ReportsEnd (rs.fillOutcome poll_struct header body) header body ∧
        KeepsWaiting rs (rs.fillOutcome poll_struct header body) header body := by
  intro always
  obtain ⟨calls, returns⟩ :
      (fresh.fillOutcome ⟨0, POLLIN, POLLIN⟩ (.ok [0, 0, 0, 1]) (.ok [])).calls =
          [.header 0 4096, .body 1 4 4096] ∧
        (fresh.fillOutcome ⟨0, POLLIN, POLLIN⟩ (.ok [0, 0, 0, 1]) (.ok [])).result.isOk = true := by
    decide +kernel
  have serves : ∀ call ∈ [FillCall.header 0 4096, .body 1 4 4096],
      call.Serves (.ok [0, 0, 0, 1]) (.ok []) := by
    intro call member request result read bytes returned
    rcases List.mem_cons.mp member with rfl | last
    · obtain ⟨rfl, rfl⟩ := Prod.mk.inj (Option.some.inj read)
      obtain rfl := SysResult.ok.inj returned
      decide
    · rw [List.mem_singleton.mp last] at read
      obtain ⟨rfl, rfl⟩ := Prod.mk.inj (Option.some.inj read)
      obtain rfl := SysResult.ok.inj returned
      exact Nat.zero_le _
  obtain ⟨reports, _⟩ := always [] fresh ⟨0, POLLIN, POLLIN⟩ (.ok [0, 0, 0, 1]) (.ok []) .nil rfl
    (by rw [calls]; exact serves)
  have ended := reports (.body 1 4 4096)
    (by rw [calls]; exact List.mem_cons_of_mem _ (List.mem_singleton_self _)) 1 rfl (by decide)
  rw [ended] at returns
  cases returns

end ReadStream

end Tun01
