import Mathlib.Logic.Function.Basic
import Tun01.Lib.Run
import Tun01.Net.Base

/-!
# The copying between a client and its target

`copyloop` waits for one of its two descriptors, reads from it and writes all it
has read to the other one, in as many calls as that takes.
-/

namespace Tun01

/-- The arguments of `copyloop`: the client and its target. -/
inductive Peer where
  | fd1
  | fd2
  deriving DecidableEq, Repr

namespace Peer

def other : Peer → Peer
  | fd1 => fd2
  | fd2 => fd1

@[simp] theorem other_other (p : Peer) : p.other.other = p := by cases p <;> rfl

theorem other_ne (p : Peer) : p.other ≠ p := by cases p <;> exact fun no => by cases no

theorem eq_or_eq_other (p q : Peer) : p = q ∨ p = q.other := by
  cases p <;> cases q <;> first | exact Or.inl rfl | exact Or.inr rfl

end Peer

/-- What `poll` returns for the two descriptors. -/
inductive Report where
  | timeout
  | failed (errno : Errno)
  | ready (first second : PollEvents)
  deriving DecidableEq, Repr

/-- Why `copyloop` returned. -/
inductive Exit where
  | idle
  | pollFailed
  | noInput (infd : Peer)
  /-- with the bytes that were read and not written -/
  | writeFailed (infd : Peer) (rest : List Byte)
  deriving DecidableEq, Repr

/-- The call `copyloop` is about to make; `buf` holds the bytes of the last `read`. -/
inductive Point where
  | polling
  | reading (infd : Peer)
  | writing (infd : Peer) (buf : List Byte) (sent : Nat)
  | returned (exit : Exit)
  deriving DecidableEq, Repr

/-- What a call of `copyloop` returned. -/
inductive CopyCall where
  | poll (report : Report)
  | read (result : SysResult (List Byte))
  | write (result : SysResult Nat)
  deriving DecidableEq, Repr

namespace Point

def pending (p : Peer) : Point → List Byte
  | .writing infd buf sent => if infd = p then buf.drop sent else []
  | .returned (.writeFailed infd rest) => if infd = p then rest else []
  | .returned .idle | .returned .pollFailed | .returned (.noInput _) | .polling | .reading _ => []

end Point

structure CopyLoop where
  point : Point
  /-- the bytes read from each descriptor so far -/
  taken : Peer → List Byte
  /-- the bytes each descriptor has accepted so far -/
  given : Peer → List Byte

namespace CopyLoop

/-- `THREAD_STACK_SIZE`, for glibc -/
def THREAD_STACK_SIZE : Nat := 32 * 1024

/-- `sizeof buf` -/
def sizeofBuf : Nat := min (16 * 1024) (THREAD_STACK_SIZE / 2)

/-! ## The code -/

def start : CopyLoop := ⟨.polling, fun _ => [], fun _ => []⟩

/-- The `switch` on the result of `poll`, and the choice of `infd`. -/
def afterPoll : Report → Point
  | .timeout => .returned .idle
  | .failed errno => if errno = .EINTR ∨ errno = .EAGAIN then .polling else .returned .pollFailed
  | .ready first _ => .reading (if first.POLLIN then .fd1 else .fd2)

/-- `if (n <= 0) return;` -/
def afterRead (infd : Peer) : SysResult (List Byte) → Point
  | .fail _ => .returned (.noInput infd)
  | .ok bytes => if bytes = [] then .returned (.noInput infd) else .writing infd bytes 0

def afterWrite (infd : Peer) (buf : List Byte) (sent : Nat) : SysResult Nat → Point
  | .fail _ => .returned (.writeFailed infd (buf.drop sent))
  | .ok m => if sent + m < buf.length then .writing infd buf (sent + m) else .polling

/-- The bytes a `read` brought. -/
def bytesRead : SysResult (List Byte) → List Byte
  | .ok bytes => bytes
  | .fail _ => []

/-- The bytes of `buf + sent` a `write` took. -/
def bytesWritten (rest : List Byte) : SysResult Nat → List Byte
  | .ok m => rest.take m
  | .fail _ => []

def tookFrom (s : CopyLoop) (infd : Peer) (bytes : List Byte) : Peer → List Byte :=
  Function.update s.taken infd (s.taken infd ++ bytes)

def gaveTo (s : CopyLoop) (outfd : Peer) (bytes : List Byte) : Peer → List Byte :=
  Function.update s.given outfd (s.given outfd ++ bytes)

/-- One call; `read` and `write` move no more bytes than they are asked for. -/
inductive Step (s : CopyLoop) : CopyCall → CopyLoop → Prop where
  | poll (report : Report) (here : s.point = .polling) :
      Step s (.poll report) { s with point := afterPoll report }
  | read {infd : Peer} {result : SysResult (List Byte)} (here : s.point = .reading infd)
      (within : result.ReadsWithin sizeofBuf) :
      Step s (.read result)
        { s with
          point := afterRead infd result
          taken := s.tookFrom infd (bytesRead result) }
  | write {infd : Peer} {buf : List Byte} {sent : Nat} {result : SysResult Nat}
      (here : s.point = .writing infd buf sent) (within : result.WritesWithin (buf.length - sent)) :
      Step s (.write result)
        { s with
          point := afterWrite infd buf sent result
          given := s.gaveTo infd.other (bytesWritten (buf.drop sent) result) }

/-! ## What is on its way -/

variable {s s' : CopyLoop} {call : CopyCall} {calls : List CopyCall}

theorem pending_afterPoll (p : Peer) (report : Report) : (afterPoll report).pending p = [] := by
  cases report with
  | timeout => rfl
  | failed errno =>
      unfold afterPoll
      dsimp only
      split <;> rfl
  | ready first second => rfl

theorem pending_afterRead (p infd : Peer) (result : SysResult (List Byte)) :
    (afterRead infd result).pending p = if infd = p then bytesRead result else [] := by
  cases result with
  | fail errno => exact (ite_self []).symm
  | ok bytes =>
      unfold afterRead
      dsimp only
      split
      · rename_i nothing
        rw [nothing]
        exact (ite_self []).symm
      · rfl

theorem pending_afterWrite (p infd : Peer) {buf : List Byte} {sent : Nat}
    {result : SysResult Nat} (within : result.WritesWithin (buf.length - sent)) :
    (if infd = p then buf.drop sent else []) =
      (if infd = p then bytesWritten (buf.drop sent) result else []) ++
        (afterWrite infd buf sent result).pending p := by
  by_cases mine : infd = p
  · rw [if_pos mine, if_pos mine]
    cases result with
    | fail errno => exact (if_pos mine).symm
    | ok m =>
        unfold afterWrite
        dsimp only
        have split := List.take_append_drop m (buf.drop sent)
        split
        · change _ = _ ++ if infd = p then _ else _
          rw [if_pos mine, ← List.drop_drop]
          exact split.symm
        · rename_i whole
          have nothing : (buf.drop sent).drop m = [] := by
            rw [List.drop_drop, List.drop_eq_nil_iff]
            exact Nat.not_lt.mp whole
          rw [nothing] at split
          exact split.symm
  · rw [if_neg mine, if_neg mine, List.nil_append]
    cases result with
    | fail errno => exact (if_neg mine).symm
    | ok m =>
        unfold afterWrite
        dsimp only
        split
        · exact (if_neg mine).symm
        · rfl

/-- Everything read was written or is on its way, and what is on its way fits in `buf`. -/
structure Relays (s : CopyLoop) : Prop where
  kept : ∀ p, s.taken p = s.given p.other ++ s.point.pending p
  room : ∀ p, (s.point.pending p).length ≤ sizeofBuf

theorem start_relays : start.Relays where
  kept := fun _ => rfl
  room := fun _ => Nat.zero_le _

/-- A point about one descriptor. -/
theorem pending_one {point : Point} {p : Peer} (some' : point.pending p ≠ []) :
    point.pending p.other = [] := by
  have apart : ∀ {infd : Peer} {rest : List Byte}, (if infd = p then rest else []) ≠ [] →
      (if infd = p.other then rest else []) = [] := by
    intro infd rest mine
    refine if_neg ?_
    rintro rfl
    rw [if_neg p.other_ne] at mine
    exact mine rfl
  cases point with
  | polling | reading _ => rfl
  | writing infd buf sent => exact apart some'
  | returned exit =>
      cases exit with
      | idle | pollFailed | noInput _ => rfl
      | writeFailed infd rest => exact apart some'

theorem returned_pending {point : Point} {exit : Exit} {p : Peer} (ended : point = .returned exit)
    (some' : point.pending p ≠ []) : exit = .writeFailed p (point.pending p) := by
  subst ended
  cases exit with
  | idle | pollFailed | noInput _ => exact absurd rfl some'
  | writeFailed infd rest =>
      by_cases mine : infd = p
      · subst mine
        exact congrArg _ (if_pos rfl).symm
      · exact absurd (if_neg mine) some'

theorem Step.kept (step : Step s call s')
    (kept : ∀ p, s.taken p = s.given p.other ++ s.point.pending p) (p : Peer) :
    s'.taken p = s'.given p.other ++ s'.point.pending p := by
  have before := kept p
  cases step with
  | poll report here =>
      rw [here] at before
      rw [pending_afterPoll]
      exact before
  | @read infd result here within =>
      rw [here] at before
      change s.taken p = s.given p.other ++ [] at before
      rw [List.append_nil] at before
      unfold tookFrom
      dsimp only
      rw [pending_afterRead]
      by_cases mine : infd = p
      · subst mine
        rw [Function.update_self, if_pos rfl, before]
      · rw [Function.update_of_ne fun same => mine same.symm, if_neg mine, before,
          List.append_nil]
  | @write infd buf sent result here within =>
      rw [here] at before
      change s.taken p = s.given p.other ++ if infd = p then buf.drop sent else [] at before
      rw [pending_afterWrite p infd within, ← List.append_assoc] at before
      refine before.trans (congrArg (· ++ _) ?_)
      unfold gaveTo
      dsimp only
      by_cases mine : infd = p
      · subst mine
        rw [Function.update_self, if_pos rfl]
      · have apart : p.other ≠ infd.other := fun same => mine (by
          rw [← p.other_other, same, Peer.other_other])
        rw [Function.update_of_ne apart, if_neg mine, List.append_nil]

theorem Step.room (step : Step s call s') (room : ∀ p, (s.point.pending p).length ≤ sizeofBuf)
    (p : Peer) : (s'.point.pending p).length ≤ sizeofBuf := by
  cases step with
  | poll report here =>
      rw [pending_afterPoll]
      exact Nat.zero_le _
  | @read infd result here within =>
      rw [pending_afterRead]
      split
      · cases result with
        | fail errno => exact Nat.zero_le _
        | ok bytes => exact within bytes rfl
      · exact Nat.zero_le _
  | @write infd buf sent result here within =>
      have before := room p
      rw [here] at before
      change (if infd = p then buf.drop sent else []).length ≤ _ at before
      rw [pending_afterWrite p infd within, List.length_append] at before
      exact Nat.le_trans (Nat.le_add_left _ _) before

theorem Relays.step (relays : s.Relays) (step : Step s call s') : s'.Relays where
  kept := step.kept relays.kept
  room := step.room relays.room

/-- A `write` that takes bytes takes them from those on their way. -/
theorem Step.progress {m : Nat} (step : Step s (.write (.ok m)) s') :
    ∃ p, (s'.point.pending p).length + m = (s.point.pending p).length ∧
      ∀ q, q ≠ p → s'.point.pending q = [] ∧ s.point.pending q = [] := by
  generalize isWrite : CopyCall.write (.ok m) = call at step
  cases step with
  | poll report here => cases isWrite
  | read here within => cases isWrite
  | @write infd buf sent result here within =>
      cases isWrite
      have split := pending_afterWrite infd infd within
      rw [if_pos rfl, if_pos rfl] at split
      refine ⟨infd, ?_, fun q other => ?_⟩
      · have before : s.point.pending infd = buf.drop sent := by
          rw [here]
          exact if_pos rfl
        have length := congrArg List.length split
        have taken : (bytesWritten (buf.drop sent) (.ok m)).length = m := by
          refine List.length_take_of_le ?_
          rw [List.length_drop]
          exact within m rfl
        rw [List.length_append, taken] at length
        rw [before, length, Nat.add_comm]
      · have mine : infd ≠ q := fun same => other same.symm
        have none := pending_afterWrite q infd within
        rw [if_neg mine, if_neg mine, List.nil_append] at none
        refine ⟨none.symm, ?_⟩
        rw [here]
        exact if_neg mine

def onTheirWay (s : CopyLoop) (p : Peer) : Nat :=
  (s.point.pending p).length + (s.point.pending p.other).length

theorem Step.shrinks {m : Nat} (step : Step s (.write (.ok m)) s') (p : Peer) :
    s'.onTheirWay p + m = s.onTheirWay p := by
  obtain ⟨q, less, others⟩ := step.progress
  unfold onTheirWay
  rcases Peer.eq_or_eq_other p q with rfl | rfl
  · obtain ⟨after, before⟩ := others p.other p.other_ne
    rw [after, before]
    exact less
  · obtain ⟨after, before⟩ := others q.other q.other_ne
    rw [Peer.other_other, after, before, List.length_nil, Nat.zero_add, Nat.zero_add]
    exact less

/-- A call of `write` that took something. -/
def Writes (s : CopyLoop) (call : CopyCall) (s' : CopyLoop) : Prop :=
  Step s call s' ∧ ∃ m, 0 < m ∧ call = .write (.ok m)

theorem writes_bounded (run : Run Writes s calls s') (p : Peer) :
    calls.length + s'.onTheirWay p ≤ s.onTheirWay p := by
  induction run with
  | nil => exact Nat.le_of_eq (Nat.zero_add _)
  | snoc _ last ih =>
      obtain ⟨step, m, positive, rfl⟩ := last
      have less := step.shrinks p
      rw [List.length_append, List.length_singleton]
      omega

/--
What was read from one descriptor was written to the other one in the same
order, up to what is on its way; that fits in `buf`, goes one way at a time, and
is lost only where a `write` failed.  Writes that take bytes come to an end.
-/
theorem copyloop_relays (run : Run Step start calls s) (p : Peer) :
    s.taken p = s.given p.other ++ s.point.pending p ∧
      (s.point.pending p).length ≤ sizeofBuf ∧
      (s.point.pending p ≠ [] → s.point.pending p.other = []) ∧
      (∀ exit, s.point = .returned exit → s.point.pending p ≠ [] →
        exit = .writeFailed p (s.point.pending p)) ∧
      ∀ more s', Run Writes s more s' → more.length ≤ sizeofBuf := by
  have relays : s.Relays := run.invariant start_relays fun holds step => holds.step step
  refine ⟨relays.kept p, relays.room p, pending_one, fun _ => returned_pending, ?_⟩
  intro more s' writes
  have bound := writes_bounded writes p
  have room := relays.room p
  have room' := relays.room p.other
  unfold onTheirWay at bound
  by_cases some' : s.point.pending p = []
  · rw [some', List.length_nil, Nat.zero_add] at bound
    omega
  · rw [pending_one some', List.length_nil, Nat.add_zero] at bound
    omega

/-- The client sends two bytes, and the target takes one of them. -/
theorem copyloop_relays_hi :
    ∃ s : CopyLoop, s.taken .fd1 = text "hi" ∧ s.given .fd2 = text "h" ∧ s.point.pending .fd1 = text "i" ∧
      s.taken .fd1 = s.given .fd2 ++ s.point.pending .fd1 := by
  have run : ∃ s : CopyLoop, Run Step start
      [.poll (.ready POLLIN .zero), .read (.ok (text "hi")), .write (.ok 1)] s ∧
        s.taken .fd1 = text "hi" ∧ s.given .fd2 = text "h" ∧ s.point.pending .fd1 = text "i" := by
    refine ⟨_, .cons (.poll _ rfl) (.cons (@Step.read _ .fd1 _ rfl ?_) (.single (.write rfl ?_))),
      rfl, rfl, rfl⟩
    · rintro _ ⟨rfl⟩
      decide
    · rintro _ ⟨rfl⟩
      decide
  obtain ⟨s, run, taken, given, pending⟩ := run
  exact ⟨s, taken, given, pending, (copyloop_relays run .fd1).1⟩

end CopyLoop

end Tun01
