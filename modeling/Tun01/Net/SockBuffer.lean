import Tun01.Lib.Run
import Tun01.Net.Base

/-!
# Socket buffers

Bytes for a descriptor wait in `m_queue`; `writeData` stages up to 4096 of
them at the end of `m_output_buf` and writes from `m_output_position` on.
-/

namespace Tun01

structure SockBuffer where
  m_queue : List Byte
  m_output_buf : List Byte
  m_output_position : Int
  deriving DecidableEq, Repr

namespace SockBuffer

def BUFFER_SIZE : Nat := 4096

def fresh : SockBuffer := ⟨[], List.replicate BUFFER_SIZE 0, BUFFER_SIZE⟩

def unsentData (b : SockBuffer) : Bool :=
  decide (b.m_output_position ≠ BUFFER_SIZE) || !b.m_queue.isEmpty

/-- `m_queue.insert` at the end of the queue -/
def insert (b : SockBuffer) (bytes : List Byte) : SockBuffer :=
  { b with m_queue := b.m_queue ++ bytes }

/-- `pushOnBuffer`, whose length is an `int` -/
def pushOnBuffer (b : SockBuffer) (bytes : List Byte) (length : Int) : SockBuffer :=
  b.insert (bytes.take length.toNat)

def clear (b : SockBuffer) : SockBuffer :=
  { b with m_output_position := BUFFER_SIZE, m_queue := [] }

/-- The number of bytes the refill moves; the queue size is cut to an `int`. -/
def fillSize (b : SockBuffer) : Int :=
  if int32 b.m_queue.length > BUFFER_SIZE then BUFFER_SIZE else int32 b.m_queue.length

/-- The first half of `writeData`: a drained array is filled from the queue. -/
def refill (b : SockBuffer) : SockBuffer :=
  if b.m_output_position = BUFFER_SIZE then
    { m_queue := b.m_queue.drop b.fillSize.toNat
      m_output_buf := overwrite b.m_output_buf (BUFFER_SIZE - b.fillSize).toNat
        (b.m_queue.take b.fillSize.toNat)
      m_output_position := b.m_output_position - b.fillSize }
  else
    b

/-- The staged bytes, `m_output_buf[m_output_position ..]`. -/
def staged (b : SockBuffer) : List Byte := b.m_output_buf.drop b.m_output_position.toNat

def pending (b : SockBuffer) : List Byte := b.staged ++ b.m_queue

/-- The number of bytes the next `write` is asked to take. -/
def request (b : SockBuffer) : Nat := (BUFFER_SIZE - b.refill.m_output_position).toNat

/--
`writeData` with the result of its `write`: the buffer afterwards, and the
bytes written or the exception.
-/
def writeData (b : SockBuffer) (write : SysResult Nat) : SockBuffer × Except Fault (List Byte) :=
  let b := b.refill
  if b.m_output_position > BUFFER_SIZE then
    (b, .error (.undefinedBehaviour "m_output_position past the array"))
  else
    match write with
    | .fail errno => (b, .error (.exceptionErrno errno))
    | .ok write_count =>
        ({ b with m_output_position := b.m_output_position + write_count },
          .ok (b.staged.take write_count))

/-- `read_total += read_count` -/
def addCount (read_total : Int) (read_count : Nat) : Except Fault Int :=
  if read_total + read_count ≤ INT_MAX then .ok (read_total + read_count)
  else .error (.undefinedBehaviour "read_total overflows")

/-- The loop of `readData` with the results of the reads it makes. -/
def readLoop (b : SockBuffer) (read_total : Int) :
    List (SysResult (List Byte)) → Except Fault (SockBuffer × Int)
  | [] => .ok (b, read_total)
  | .fail errno :: _ =>
      if errno = .EAGAIN ∨ errno = .EHOSTUNREACH ∨ errno = .ECONNRESET then .ok (b, read_total)
      else .error (.exceptionErrno errno)
  | .ok bytes :: reads => do
      let b := b.insert bytes
      let read_total ← addCount read_total bytes.length
      if bytes.length = BUFFER_SIZE then
        b.readLoop read_total reads
      else
        return (b, read_total)

/-- `readData` without the virtual `processReadData`: the buffer and the number of bytes read. -/
def readData (b : SockBuffer) (reads : List (SysResult (List Byte))) :
    Except Fault (SockBuffer × Int) :=
  b.readLoop 0 reads

/-! ## What is kept -/

/-- The array has its size and the position is inside it. -/
structure Valid (b : SockBuffer) : Prop where
  size : b.m_output_buf.length = BUFFER_SIZE
  lower : 0 ≤ b.m_output_position
  upper : b.m_output_position ≤ BUFFER_SIZE

theorem fresh_valid : fresh.Valid :=
  ⟨by rw [fresh, List.length_replicate], Int.natCast_nonneg _, Int.le_refl _⟩

@[simp] theorem fresh_pending : fresh.pending = [] := by
  rw [pending, staged, fresh]
  simp

theorem insert_valid {b : SockBuffer} (valid : b.Valid) (bytes : List Byte) :
    (b.insert bytes).Valid :=
  ⟨valid.size, valid.lower, valid.upper⟩

@[simp] theorem insert_pending (b : SockBuffer) (bytes : List Byte) :
    (b.insert bytes).pending = b.pending ++ bytes :=
  (List.append_assoc b.staged b.m_queue bytes).symm

/-- The bytes an array holds, pushed as a whole. -/
@[simp] theorem pushOnBuffer_whole (b : SockBuffer) {bytes : List Byte} {length : Int}
    (size : (bytes.length : Int) = length) : b.pushOnBuffer bytes length = b.insert bytes := by
  unfold pushOnBuffer
  rw [← size, Int.toNat_natCast, List.take_length]

theorem Valid.staged_length {b : SockBuffer} (valid : b.Valid) :
    (b.staged.length : Int) = BUFFER_SIZE - b.m_output_position := by
  have lower := valid.lower
  have upper := valid.upper
  rw [staged, List.length_drop, valid.size]
  omega

/-- `unsentData` is true exactly when something is pending. -/
theorem Valid.unsentData_iff {b : SockBuffer} (valid : b.Valid) :
    b.unsentData = true ↔ b.pending ≠ [] := by
  have length := valid.staged_length
  have upper := valid.upper
  have stagedEmpty : b.staged = [] ↔ b.m_output_position = BUFFER_SIZE := by
    rw [← List.length_eq_zero_iff]
    omega
  have bothEmpty : b.pending = [] ↔ b.staged = [] ∧ b.m_queue = [] := List.append_eq_nil_iff
  rw [unsentData, Bool.or_eq_true, decide_eq_true_iff, Bool.not_eq_true', List.isEmpty_eq_false_iff]
  tauto

/--
A refill moves bytes from the queue to the array, unless the queue is so long
that its size is negative as an `int`; then only the position moves, out of
the array.
-/
theorem Valid.refill {b : SockBuffer} (valid : b.Valid) :
    (b.refill.Valid ∧ b.refill.pending = b.pending) ∨
      b.refill.m_output_position > BUFFER_SIZE := by
  unfold SockBuffer.refill
  split
  · rename_i drained
    by_cases negative : b.fillSize < 0
    · right
      change b.m_output_position - b.fillSize > BUFFER_SIZE
      omega
    · left
      have nonneg : 0 ≤ b.fillSize := Int.not_lt.mp negative
      have most : b.fillSize ≤ BUFFER_SIZE := by
        unfold fillSize
        split <;> omega
      have available : b.fillSize ≤ b.m_queue.length := by
        have cut : int32 b.m_queue.length ≤ b.m_queue.length := by
          unfold int32
          omega
        unfold fillSize
        split <;> omega
      have moved : (b.m_queue.take b.fillSize.toNat).length = b.fillSize.toNat := by
        rw [List.length_take]
        omega
      have start : (BUFFER_SIZE - b.fillSize).toNat ≤ b.m_output_buf.length := by
        rw [valid.size]
        omega
      have size : (overwrite b.m_output_buf (BUFFER_SIZE - b.fillSize).toNat
          (b.m_queue.take b.fillSize.toNat)).length = BUFFER_SIZE := by
        rw [overwrite_length start, valid.size]
      refine ⟨⟨size, ?_, ?_⟩, ?_⟩
      · change 0 ≤ b.m_output_position - b.fillSize
        omega
      · change b.m_output_position - b.fillSize ≤ BUFFER_SIZE
        omega
      · have whole := @overwrite_to_end b.m_output_buf
          (b.m_queue.take b.fillSize.toNat) (BUFFER_SIZE - b.fillSize).toNat (by rw [moved, valid.size]; omega)
        have before : b.staged = [] := by
          apply List.drop_eq_nil_of_le
          rw [valid.size, drained]
          omega
        have kept : (b.m_output_buf.take (BUFFER_SIZE - b.fillSize).toNat).length =
            (b.m_output_position - b.fillSize).toNat := by
          rw [List.length_take, valid.size, drained]
          omega
        unfold pending
        rw [before, List.nil_append]
        unfold staged
        dsimp only
        rw [whole, ← kept, List.drop_left, List.take_append_drop]
  · exact Or.inl ⟨valid, rfl⟩

/-- A write that is accepted removes a first part of what is pending. -/
theorem Valid.writeData {b b' : SockBuffer} {write : SysResult Nat} {written : List Byte}
    (valid : b.Valid) (within : write.WritesWithin b.request)
    (result : b.writeData write = (b', .ok written)) :
    b'.Valid ∧ b.pending = written ++ b'.pending := by
  unfold SockBuffer.writeData at result
  rcases valid.refill with ⟨valid', same⟩ | outside
  · have upper := valid'.upper
    rw [if_neg (by omega)] at result
    cases write with
    | fail errno => cases (Prod.mk.inj result).2
    | ok write_count =>
        have atMost := within write_count rfl
        unfold request at atMost
        obtain ⟨rfl, taken⟩ := Prod.mk.inj result
        have written' := Except.ok.inj taken
        have lower := valid'.lower
        refine ⟨⟨valid'.size, ?_, ?_⟩, ?_⟩
        · change 0 ≤ b.refill.m_output_position + write_count
          omega
        · change b.refill.m_output_position + write_count ≤ BUFFER_SIZE
          omega
        · rw [← same, ← written']
          have rest : b.refill.m_output_buf.drop (b.refill.m_output_position + write_count).toNat =
              b.refill.staged.drop write_count := by
            rw [staged, List.drop_drop]
            congr 1
            omega
          unfold pending
          change _ = b.refill.staged.take write_count ++
            (b.refill.m_output_buf.drop (b.refill.m_output_position + write_count).toNat ++ _)
          rw [rest, ← List.append_assoc, List.take_append_drop]
  · rw [if_pos outside] at result
    cases (Prod.mk.inj result).2

/-! ## Any sequence of calls -/

/-- A write does not refill the array with a negative number of bytes. -/
def Refillable (b : SockBuffer) : Prop :=
  b.m_output_position = BUFFER_SIZE → 0 ≤ int32 b.m_queue.length

/-- The bytes the reads of one `readData` return; a read that is short is the last. -/
def readBytes : List (SysResult (List Byte)) → List Byte
  | [] => []
  | .fail _ :: _ => []
  | .ok bytes :: reads =>
      if bytes.length = BUFFER_SIZE then bytes ++ readBytes reads else bytes

/-- The buffer after `readData`, also when a later read made it throw. -/
def afterRead (b : SockBuffer) : List (SysResult (List Byte)) → SockBuffer
  | [] => b
  | .fail _ :: _ => b
  | .ok bytes :: reads =>
      let b := b.insert bytes
      if bytes.length = BUFFER_SIZE then b.afterRead reads else b

theorem of_addCount {read_total total : Int} {read_count : Nat}
    (result : addCount read_total read_count = .ok total) : total = read_total + read_count := by
  unfold addCount at result
  split at result
  · exact (Except.ok.inj result).symm
  · cases result

theorem readLoop_ok {b b' : SockBuffer} {reads : List (SysResult (List Byte))} {total count : Int}
    (result : b.readLoop total reads = .ok (b', count)) :
    b' = b.afterRead reads ∧ count = total + (readBytes reads).length := by
  induction reads generalizing b total with
  | nil =>
      obtain ⟨rfl, rfl⟩ := Prod.mk.inj (Except.ok.inj result)
      exact ⟨rfl, (Int.add_zero _).symm⟩
  | cons read reads ih =>
      cases read with
      | fail errno =>
          unfold readLoop at result
          split at result
          · obtain ⟨rfl, rfl⟩ := Prod.mk.inj (Except.ok.inj result)
            exact ⟨rfl, (Int.add_zero _).symm⟩
          · cases result
      | ok bytes =>
          unfold readLoop at result
          unfold afterRead readBytes
          dsimp only at result ⊢
          obtain ⟨total', added, result⟩ := of_bind_ok result
          rw [of_addCount added] at result
          split at result
          · rename_i full
            obtain ⟨same, length⟩ := ih result
            rw [if_pos full, if_pos full, List.length_append, length]
            exact ⟨same, by omega⟩
          · rename_i short
            obtain ⟨rfl, rfl⟩ := Prod.mk.inj (Except.ok.inj result)
            rw [if_neg short, if_neg short]
            exact ⟨rfl, rfl⟩

/-- `readData` that returns has queued what it read. -/
theorem readData_ok {b b' : SockBuffer} {reads : List (SysResult (List Byte))} {count : Int}
    (result : b.readData reads = .ok (b', count)) :
    b' = b.afterRead reads ∧ count = (readBytes reads).length := by
  obtain ⟨same, length⟩ := readLoop_ok result
  exact ⟨same, length.trans (Int.zero_add _)⟩

theorem afterRead_kept {b : SockBuffer} (valid : b.Valid) (reads : List (SysResult (List Byte))) :
    (b.afterRead reads).Valid ∧ (b.afterRead reads).pending = b.pending ++ readBytes reads := by
  induction reads generalizing b with
  | nil => exact ⟨valid, (List.append_nil _).symm⟩
  | cons read reads ih =>
      cases read with
      | fail errno => exact ⟨valid, (List.append_nil _).symm⟩
      | ok bytes =>
          unfold afterRead readBytes
          dsimp only
          split
          · obtain ⟨valid', pending⟩ := ih (insert_valid valid bytes)
            refine ⟨valid', ?_⟩
            rw [pending, insert_pending, List.append_assoc]
          · exact ⟨insert_valid valid bytes, insert_pending b bytes⟩

/-- A buffer with the bytes it was given and those it has written. -/
structure Usage where
  buffer : SockBuffer
  accepted : List Byte
  written : List Byte

inductive Call where
  | pushOnBuffer (bytes : List Byte)
  | readData (reads : List (SysResult (List Byte)))
  | writeData (write : SysResult Nat)

/-- What a `writeData` has written: nothing when it throws. -/
def writtenBytes : Except Fault (List Byte) → List Byte
  | .ok bytes => bytes
  | .error _ => []

namespace Usage

def initial : Usage := ⟨.fresh, [], []⟩

/--
One call.  The length of what is pushed is an `int`, a `readData` counts no
further than an `int`, and a `write` accepts no more than it was asked to take.
-/
inductive Step (u : Usage) : Call → Usage → Prop where
  | push (bytes : List Byte) (int : (bytes.length : Int) ≤ INT_MAX) :
      Step u (.pushOnBuffer bytes)
        ⟨u.buffer.pushOnBuffer bytes bytes.length, u.accepted ++ bytes, u.written⟩
  | read (reads : List (SysResult (List Byte)))
      (defined : ∀ what, u.buffer.readData reads ≠ .error (.undefinedBehaviour what)) :
      Step u (.readData reads) ⟨u.buffer.afterRead reads, u.accepted ++ readBytes reads, u.written⟩
  | write {write : SysResult Nat} {b : SockBuffer} {outcome : Except Fault (List Byte)}
      (within : write.WritesWithin u.buffer.request)
      (result : u.buffer.writeData write = (b, outcome)) :
      Step u (.writeData write) ⟨b, u.accepted, u.written ++ writtenBytes outcome⟩

/-- A `writeData` can refill the array. -/
def MayRefill (u : Usage) : Call → Prop
  | .writeData _ => u.buffer.Refillable
  | .pushOnBuffer _ | .readData _ => True

/-- First in, first out: what was accepted is what was written and what is pending. -/
structure Fifo (u : Usage) : Prop where
  valid : u.buffer.Valid
  bytes : u.accepted = u.written ++ u.buffer.pending

end Usage

/-- A refill leaves the array exactly when the queue size is negative as an `int`. -/
theorem Valid.refill_outside {b : SockBuffer} (valid : b.Valid) :
    b.refill.m_output_position > BUFFER_SIZE ↔
      b.m_output_position = BUFFER_SIZE ∧ int32 b.m_queue.length < 0 := by
  have upper := valid.upper
  have sign : b.fillSize < 0 ↔ int32 b.m_queue.length < 0 := by
    have size : (0 : Int) ≤ BUFFER_SIZE := Int.natCast_nonneg _
    unfold fillSize
    split <;> omega
  unfold SockBuffer.refill
  split
  · rename_i drained
    rw [← sign]
    change b.m_output_position - b.fillSize > BUFFER_SIZE ↔ _
    omega
  · rename_i staged
    omega

theorem Valid.refillable_iff {b : SockBuffer} (valid : b.Valid) :
    b.Refillable ↔ ¬ b.refill.m_output_position > BUFFER_SIZE := by
  rw [valid.refill_outside]
  constructor
  · rintro refillable ⟨drained, negative⟩
    exact Int.not_lt.mpr (refillable drained) negative
  · intro inside drained
    exact Int.not_lt.mp fun negative => inside ⟨drained, negative⟩

/-- Whether the write leaves the array does not depend on its result. -/
theorem writeData_overruns (b : SockBuffer) (write : SysResult Nat) :
    (b.writeData write).2 = .error (.undefinedBehaviour "m_output_position past the array") ↔
      b.refill.m_output_position > BUFFER_SIZE := by
  unfold writeData
  dsimp only
  constructor
  · intro overruns
    split at overruns
    · assumption
    · cases write with
      | fail errno => cases overruns
      | ok count => cases overruns
  · intro outside
    rw [if_pos outside]

/-- A refill that leaves the array makes the write undefined. -/
theorem writeData_outside {b : SockBuffer} (outside : b.refill.m_output_position > BUFFER_SIZE)
    (write : SysResult Nat) : b.writeData write =
      (b.refill, .error (.undefinedBehaviour "m_output_position past the array")) :=
  if_pos outside

/-- The bytes a refill moves come from the queue and fit the end of the array. -/
theorem fillSize_bounds {b : SockBuffer} (nonnegative : 0 ≤ int32 b.m_queue.length) :
    0 ≤ b.fillSize ∧ b.fillSize ≤ BUFFER_SIZE ∧ b.fillSize ≤ b.m_queue.length := by
  have cut : int32 b.m_queue.length ≤ b.m_queue.length := by
    unfold int32
    omega
  unfold fillSize
  split <;> omega

namespace Usage

/-- One call keeps the order of the bytes exactly when it does not refill past the array. -/
theorem Step.fifo {u u' : Usage} {call : Call} (step : Step u call u') (fifo : u.Fifo) :
    u'.Fifo ↔ u.MayRefill call := by
  obtain ⟨valid, bytes⟩ := fifo
  cases step with
  | push more _ =>
      rw [pushOnBuffer_whole _ rfl]
      refine ⟨fun _ => trivial, fun _ => ⟨insert_valid valid more, ?_⟩⟩
      change u.accepted ++ more = u.written ++ (u.buffer.insert more).pending
      rw [bytes, insert_pending, List.append_assoc]
  | read reads _ =>
      obtain ⟨valid', pending⟩ := afterRead_kept valid reads
      refine ⟨fun _ => trivial, fun _ => ⟨valid', ?_⟩⟩
      change u.accepted ++ readBytes reads = u.written ++ (u.buffer.afterRead reads).pending
      rw [bytes, pending, List.append_assoc]
  | @write result b outcome within written =>
      have outside := valid.refill_outside
      constructor
      · intro after drained
        by_contra negative
        have past := outside.mpr ⟨drained, Int.not_le.mp negative⟩
        unfold writeData at written
        rw [if_pos past] at written
        have upper := after.valid.upper
        rw [← (Prod.mk.inj written).1] at upper
        change u.buffer.refill.m_output_position ≤ BUFFER_SIZE at upper
        omega
      · intro refillable
        have inside : ¬ u.buffer.refill.m_output_position > BUFFER_SIZE := by
          intro past
          obtain ⟨drained, negative⟩ := outside.mp past
          exact Int.not_le.mpr negative (refillable drained)
        cases outcome with
        | ok taken =>
            obtain ⟨valid', pending⟩ := valid.writeData within written
            refine ⟨valid', ?_⟩
            change u.accepted = u.written ++ taken ++ b.pending
            rw [bytes, pending, List.append_assoc]
        | error fault =>
            obtain ⟨valid', pending⟩ := valid.refill.resolve_right inside
            unfold writeData at written
            rw [if_neg inside] at written
            cases result with
            | ok count => cases (Prod.mk.inj written).2
            | fail errno =>
                rw [← (Prod.mk.inj written).1]
                refine ⟨valid', ?_⟩
                change u.accepted = u.written ++ [] ++ u.buffer.refill.pending
                rw [bytes, pending, List.append_nil]

/--
A buffer is first in, first out along every run of calls whose refills find a
queue whose size is not negative as an `int`, and a call that refills from any
other queue ends this.
-/
theorem run_fifo {calls : List Call} {u : Usage}
    (run : Run (fun u call u' => Step u call u' ∧ u.MayRefill call) initial calls u) :
    u.accepted = u.written ++ (u.buffer.m_output_buf.drop u.buffer.m_output_position.toNat ++
        u.buffer.m_queue) ∧
      (u.buffer.unsentData = true ↔
        u.buffer.m_output_buf.drop u.buffer.m_output_position.toNat ++ u.buffer.m_queue ≠ []) ∧
      0 ≤ u.buffer.m_output_position ∧ u.buffer.m_output_position ≤ 4096 ∧
      u.buffer.m_output_buf.length = 4096 ∧
      (∀ errno b fault, u.buffer.writeData (.fail errno) = (b, .error fault) →
        u.MayRefill (.writeData (.fail errno)) → b.pending = u.buffer.pending) ∧
      (u.buffer.m_output_position = 4096 → 0 ≤ int32 u.buffer.m_queue.length →
        0 ≤ u.buffer.fillSize ∧ u.buffer.fillSize ≤ 4096 ∧
          u.buffer.fillSize ≤ u.buffer.m_queue.length) ∧
      ∀ call u', Step u call u' → (u'.Fifo ↔ u.MayRefill call) := by
  have fifo : u.Fifo := by
    refine run.invariant ⟨fresh_valid, ?_⟩ fun before step => (step.1.fifo before).mpr step.2
    change [] = [] ++ fresh.pending
    rw [fresh_pending]
    rfl
  refine ⟨fifo.bytes, fifo.valid.unsentData_iff, fifo.valid.lower, fifo.valid.upper,
    fifo.valid.size, ?_, fun _ nonnegative => fillSize_bounds nonnegative,
    fun call u' step => step.fifo fifo⟩
  intro errno b fault throws refillable
  have step : Step u (.writeData (.fail errno)) ⟨b, u.accepted, u.written ++ []⟩ :=
    @Step.write u (.fail errno) b (.error fault) (fun count no => by cases no) throws
  have after := ((step.fifo fifo).mpr refillable).bytes
  change u.accepted = u.written ++ [] ++ b.pending at after
  rw [fifo.bytes, List.append_nil] at after
  exact (List.append_cancel_left after).symm

/-- After a `writeData`. -/
def write (u : Usage) (result : SysResult Nat) : Usage where
  buffer := (u.buffer.writeData result).1
  accepted := u.accepted
  written := u.written ++ writtenBytes (u.buffer.writeData result).2

theorem step_write {u : Usage} {result : SysResult Nat}
    (within : result.WritesWithin u.buffer.request) : Step u (.writeData result) (u.write result) :=
  .write within rfl

theorem write_outside {u : Usage} (outside : u.buffer.refill.m_output_position > BUFFER_SIZE)
    (result : SysResult Nat) : (u.write result).buffer = u.buffer.refill :=
  congrArg Prod.fst (writeData_outside outside result)

/-- After a `pushOnBuffer`. -/
def push (u : Usage) (bytes : List Byte) : Usage where
  buffer := u.buffer.pushOnBuffer bytes bytes.length
  accepted := u.accepted ++ bytes
  written := u.written

def interrupted : Usage := ((initial.push [1, 2, 3, 4, 5]).write (.ok 2)).write (.fail .EAGAIN)

def resumed : Usage := (interrupted.push [6]).write (.ok 3)

theorem resumed_facts :
    2 ≤ (initial.push [1, 2, 3, 4, 5]).buffer.request ∧
      3 ≤ (interrupted.push [6]).buffer.request ∧ resumed.written = [1, 2, 3, 4, 5] ∧
      resumed.buffer.m_queue = [6] := by
  decide +kernel

/-- A queue that is short enough can refill the array. -/
theorem refillable_of_short {b : SockBuffer} (short : b.m_queue.length ≤ 6) : b.Refillable := by
  intro _
  unfold int32
  omega

theorem run_fifo_resumed :
    resumed.accepted = resumed.written ++
      (resumed.buffer.m_output_buf.drop resumed.buffer.m_output_position.toNat ++
        resumed.buffer.m_queue) ∧
      resumed.written = [1, 2, 3, 4, 5] ∧ resumed.buffer.unsentData = true := by
  obtain ⟨two, three, written, queue⟩ := resumed_facts
  have first := @step_write (initial.push [1, 2, 3, 4, 5]) (.ok 2)
    (fun count same => SysResult.ok.inj same ▸ two)
  have second := @step_write ((initial.push [1, 2, 3, 4, 5]).write (.ok 2)) (.fail .EAGAIN)
    (fun _ no => by cases no)
  have third := @step_write (interrupted.push [6]) (.ok 3)
    (fun count same => SysResult.ok.inj same ▸ three)
  have run : Run (fun u call u' => Step u call u' ∧ u.MayRefill call) initial _ resumed :=
    .cons ⟨.push [1, 2, 3, 4, 5] (by decide), trivial⟩
      (.cons ⟨first, refillable_of_short (by decide +kernel)⟩
        (.cons ⟨second, refillable_of_short (by decide +kernel)⟩
          (.cons ⟨.push [6] (by decide), trivial⟩
            (.single ⟨third, refillable_of_short (by decide +kernel)⟩))))
  obtain ⟨order, unsent, _⟩ := run_fifo run
  refine ⟨order, written, unsent.mpr fun none => ?_⟩
  rw [queue] at none
  exact List.cons_ne_nil _ _ (List.append_eq_nil_iff.mp none).2

/-- A queue of `2 ^ 31` bytes has a negative size as an `int`: the refill leaves the array. -/
theorem not_in_range : ¬ ∀ calls u, Run Step initial calls u →
    0 ≤ u.buffer.m_output_position ∧ u.buffer.m_output_position ≤ 4096 := by
  intro always
  obtain ⟨half, size⟩ : ∃ half : List Byte, half.length = 1073741824 :=
    ⟨List.replicate 1073741824 0, List.length_replicate⟩
  have int : (half.length : Int) ≤ INT_MAX := by
    rw [size]
    decide
  have valid := insert_valid (insert_valid fresh_valid half) half
  have length : ((fresh.insert half).insert half).m_queue.length = 2147483648 := by
    change (([] ++ half) ++ half).length = _
    rw [List.nil_append, List.length_append, size]
  have pushed : ((initial.push half).push half).buffer = (fresh.insert half).insert half := by
    unfold push
    dsimp only
    rw [pushOnBuffer_whole _ rfl, pushOnBuffer_whole _ rfl]
    rfl
  have outside := valid.refill_outside.mpr ⟨rfl, by rw [length]; decide⟩
  have run : Run Step initial [.pushOnBuffer half, .pushOnBuffer half]
      ((initial.push half).push half) := .cons (.push half int) (.single (.push half int))
  have written := @step_write ((initial.push half).push half) (.ok 0)
    (fun count same => SysResult.ok.inj same ▸ Nat.zero_le _)
  have inRange := (always _ _ (run.snoc written)).2
  rw [← pushed] at outside
  rw [write_outside outside] at inRange
  have size : (BUFFER_SIZE : Int) = 4096 := rfl
  omega

end Usage

end SockBuffer

end Tun01
