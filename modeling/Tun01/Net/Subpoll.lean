import Tun01.Net.Poller

/-!
# `poll` by `select`

On systems without `poll` the program has its own, which asks `select`.  The
sets it passes are indexed by descriptor, the answer is read back by slot.
-/

namespace Tun01

/-- Three `fd_set`s. -/
structure FdSets where
  readfds : Int → Bool
  writefds : Int → Bool
  exceptfds : Int → Bool

namespace FdSets

/-- `FD_ZERO` -/
def zero : FdSets := ⟨fun _ => false, fun _ => false, fun _ => false⟩

/-- `FD_SET` where it is asked for, and in any case for exceptions. -/
def mark (sets : FdSets) (slot : Pollfd) : FdSets where
  readfds := if slot.events.POLLIN then Function.update sets.readfds slot.fd true else sets.readfds
  writefds :=
    if slot.events.POLLOUT then Function.update sets.writefds slot.fd true else sets.writefds
  exceptfds := Function.update sets.exceptfds slot.fd true

def any (sets : FdSets) (fd : Int) : Bool :=
  sets.exceptfds fd || sets.readfds fd || sets.writefds fd

end FdSets

/-- What `select` returns: the descriptors that are ready, none in time, or an error. -/
inductive SelectResult where
  | ready (sets : FdSets)
  | timeout
  | failed (errno : Errno)

/--
`select`, from the bound on descriptors and the sets.  It reports descriptors
that it was asked about, and at least one.
-/
structure Selects (select : Int → FdSets → SelectResult) : Prop where
  asked : ∀ {nfds sets ready}, select nfds sets = .ready ready → ∀ fd,
    (ready.readfds fd = true → sets.readfds fd = true) ∧
    (ready.writefds fd = true → sets.writefds fd = true) ∧
    (ready.exceptfds fd = true → sets.exceptfds fd = true)
  some : ∀ {nfds sets ready}, select nfds sets = .ready ready → ∃ fd, ready.any fd = true

/-! ## The two loops -/

def FD_SETSIZE : Int := 1024

/-- The first loop: the sets and `max_fd`. -/
def collectFds : List Pollfd → FdSets → Int → Except Fault (FdSets × Int)
  | [], sets, max_fd => .ok (sets, max_fd)
  | slot :: rest, sets, max_fd =>
      if 0 ≤ slot.fd ∧ slot.fd < FD_SETSIZE then
        collectFds rest (sets.mark slot) (if max_fd < slot.fd then slot.fd else max_fd)
      else
        .error (.undefinedBehaviour "FD_SET out of range")

def readyFlags (ready : FdSets) (fd : Int) : PollEvents :=
  { POLLHUP := ready.exceptfds fd, POLLIN := ready.readfds fd, POLLOUT := ready.writefds fd }

/-- The second loop: the slots with flags and their number. -/
def answerFds (ready : FdSets) : List Pollfd → Int × List Pollfd
  | [] => (0, [])
  | slot :: rest =>
      let (result, slots) := answerFds ready rest
      (if ready.any slot.fd then result + 1 else result,
        { slot with revents := readyFlags ready slot.fd } :: slots)

/-- The program's own `poll`. -/
def subpoll (select : Int → FdSets → SelectResult) (pollfds : List Pollfd) :
    Except Fault (Int × List Pollfd) := do
  let (sets, max_fd) ← collectFds pollfds .zero (-1)
  match select (max_fd + 1) sets with
  | .ready ready => .ok (answerFds ready pollfds)
  | .timeout => .ok (0, pollfds.map fun slot => { slot with revents := .zero })
  | .failed _ => .ok (-1, pollfds.map fun slot => { slot with revents := .zero })

variable {select : Int → FdSets → SelectResult} {pollfds : List Pollfd} {sets sets' ready : FdSets}
  {fd max_fd max_fd' : Int}

theorem collectFds_returns (range : ∀ slot ∈ pollfds, 0 ≤ slot.fd ∧ slot.fd < FD_SETSIZE)
    (sets : FdSets) (max_fd : Int) : ∃ sets' max_fd', collectFds pollfds sets max_fd =
      .ok (sets', max_fd') := by
  induction pollfds generalizing sets max_fd with
  | nil => exact ⟨_, _, rfl⟩
  | cons slot rest ih =>
      obtain ⟨here, later⟩ := List.forall_mem_cons.mp range
      obtain ⟨sets', max_fd', collected⟩ := ih later (sets.mark slot)
        (if max_fd < slot.fd then slot.fd else max_fd)
      refine ⟨sets', max_fd', ?_⟩
      unfold collectFds
      rw [if_pos here]
      exact collected

/-- A slot asks about its descriptor, and the other sets stay as they are. -/
theorem mem_mark (slot : Pollfd) (fd : Int) :
    ((sets.mark slot).readfds fd = true ↔
      sets.readfds fd = true ∨ (slot.fd = fd ∧ slot.events.POLLIN = true)) ∧
    ((sets.mark slot).writefds fd = true ↔
      sets.writefds fd = true ∨ (slot.fd = fd ∧ slot.events.POLLOUT = true)) ∧
    ((sets.mark slot).exceptfds fd = true ↔ sets.exceptfds fd = true ∨ slot.fd = fd) := by
  have updated : ∀ (set : Int → Bool), Function.update set slot.fd true fd = true ↔
      set fd = true ∨ slot.fd = fd := by
    intro set
    by_cases same : fd = slot.fd
    · subst same
      rw [Function.update_self]
      exact iff_of_true rfl (Or.inr rfl)
    · rw [Function.update_of_ne same]
      exact (or_iff_left fun back => same back.symm).symm
  unfold FdSets.mark
  refine ⟨?_, ?_, updated _⟩
  · cases slot.events.POLLIN <;> simp [updated]
  · cases slot.events.POLLOUT <;> simp [updated]

/-- A set has a descriptor exactly if a slot with this descriptor asks for it. -/
theorem mem_collectFds (collected : collectFds pollfds sets max_fd = .ok (sets', max_fd'))
    (fd : Int) :
    (sets'.readfds fd = true ↔ sets.readfds fd = true ∨
      ∃ slot ∈ pollfds, slot.fd = fd ∧ slot.events.POLLIN = true) ∧
    (sets'.writefds fd = true ↔ sets.writefds fd = true ∨
      ∃ slot ∈ pollfds, slot.fd = fd ∧ slot.events.POLLOUT = true) ∧
    (sets'.exceptfds fd = true ↔ sets.exceptfds fd = true ∨ ∃ slot ∈ pollfds, slot.fd = fd) := by
  induction pollfds generalizing sets max_fd with
  | nil =>
      cases collected
      simp
  | cons slot rest ih =>
      unfold collectFds at collected
      split at collected
      · obtain ⟨input, output, exception⟩ := ih collected
        obtain ⟨input', output', exception'⟩ := @mem_mark sets slot fd
        rw [input, output, exception, input', output', exception', List.exists_mem_cons_iff,
          List.exists_mem_cons_iff, List.exists_mem_cons_iff, or_assoc, or_assoc, or_assoc]
        exact ⟨Iff.rfl, Iff.rfl, Iff.rfl⟩
      · cases collected

/-- `max_fd` is above no descriptor less than all of them, and is one of them if it has grown. -/
theorem collectFds_max (collected : collectFds pollfds sets max_fd = .ok (sets', max_fd')) :
    max_fd ≤ max_fd' ∧ (∀ slot ∈ pollfds, slot.fd ≤ max_fd') ∧
      (max_fd' = max_fd ∨ ∃ slot ∈ pollfds, slot.fd = max_fd') := by
  induction pollfds generalizing sets max_fd with
  | nil =>
      cases collected
      exact ⟨le_rfl, (fun _ no => by cases no), Or.inl rfl⟩
  | cons slot rest ih =>
      unfold collectFds at collected
      split at collected
      · obtain ⟨grows, bounds, reached⟩ := ih collected
        rw [List.forall_mem_cons, List.exists_mem_cons_iff]
        split at grows <;> rename_i larger
        · rw [if_pos larger] at reached
          refine ⟨(larger.trans_le grows).le, ⟨grows, bounds⟩, Or.inr ?_⟩
          exact reached.imp_left Eq.symm
        · rw [if_neg larger] at reached
          refine ⟨grows, ⟨(not_lt.mp larger).trans grows, bounds⟩, ?_⟩
          exact reached.imp_right Or.inr
      · cases collected

/-! ## The answer -/

/-- The second loop gives each slot the flags of its descriptor. -/
theorem answerFds_slots (ready : FdSets) (pollfds : List Pollfd) :
    (answerFds ready pollfds).2 =
      pollfds.map fun slot => { slot with revents := readyFlags ready slot.fd } := by
  induction pollfds with
  | nil => rfl
  | cons slot rest ih => exact congrArg (_ :: ·) ih

theorem nonzero_readyFlags (ready : FdSets) (fd : Int) :
    (readyFlags ready fd).nonzero = ready.any fd := by
  unfold readyFlags PollEvents.nonzero FdSets.any
  cases ready.readfds fd <;> cases ready.writefds fd <;> cases ready.exceptfds fd <;> rfl

/-- The number it returns is that of the slots with flags. -/
theorem answerFds_count (ready : FdSets) (pollfds : List Pollfd) :
    (answerFds ready pollfds).1 = pollfds.countP fun slot => ready.any slot.fd := by
  induction pollfds with
  | nil => rfl
  | cons slot rest ih =>
      unfold answerFds
      dsimp only
      rw [List.countP_cons, ih]
      split
      · rw [Int.natCast_add]
        rfl
      · rfl

/-- `select` has reported a descriptor that some slot asked about. -/
theorem Selects.reaches (selects : Selects select) {nfds : Int}
    (collected : collectFds pollfds .zero max_fd = .ok (sets, max_fd'))
    (reports : select nfds sets = .ready ready) :
    ∃ slot ∈ pollfds, ready.any slot.fd = true := by
  obtain ⟨fd, is⟩ := selects.some reports
  obtain ⟨input, output, exception⟩ := selects.asked reports fd
  obtain ⟨input', output', exception'⟩ := mem_collectFds collected fd
  have asked : ∃ slot ∈ pollfds, slot.fd = fd := by
    unfold FdSets.any at is
    rw [Bool.or_eq_true, Bool.or_eq_true] at is
    rcases is with (hung | readable) | writable
    · exact (exception'.mp (exception hung)).resolve_left fun no => by cases no
    · obtain ⟨slot, member, same, _⟩ :=
        (input'.mp (input readable)).resolve_left fun no => by cases no
      exact ⟨slot, member, same⟩
    · obtain ⟨slot, member, same, _⟩ :=
        (output'.mp (output writable)).resolve_left fun no => by cases no
      exact ⟨slot, member, same⟩
  obtain ⟨slot, member, rfl⟩ := asked
  exact ⟨slot, member, is⟩

namespace Poller

variable {ρ : Type} {p : Poller ρ}

/-- The `pollfd`s that are passed to `poll`. -/
def slots (p : Poller ρ) : List Pollfd := p.m_polled.map PolledAndPollfd.m_pollfd

/-- A record with this descriptor asks for the event. -/
def Asks (p : Poller ρ) (event : PollEvents → Bool) (fd : Int) : Prop :=
  ∃ slot ∈ p.slots, slot.fd = fd ∧ event slot.events = true

/-- Where no two records have the same descriptor, a record asks for itself. -/
theorem Asks.own {event : PollEvents → Bool} {slot : Pollfd} (asks : p.Asks event slot.fd)
    (distinct : (p.slots.map Pollfd.fd).Nodup) (member : slot ∈ p.slots) :
    event slot.events = true := by
  obtain ⟨other, inSlots, same, asked⟩ := asks
  rw [← List.inj_on_of_nodup_map distinct inSlots member same]
  exact asked

/-- The round that begins with the flags of the answer. -/
theorem slots_beginRound (ready : FdSets) : ∃ revents,
    (p.beginRound revents).slots =
      p.slots.map fun slot => { slot with revents := readyFlags ready slot.fd } := by
  refine ⟨fun i => (p.slots[i]?).elim .zero fun slot => readyFlags ready slot.fd, ?_⟩
  refine List.ext_getElem? fun i => ?_
  unfold slots beginRound
  dsimp only
  rw [List.getElem?_map, List.getElem?_mapIdx, List.getElem?_map, List.getElem?_map,
    List.getElem?_map]
  cases p.m_polled[i]? <;> rfl

/--
The sets and the bound for `select`: a descriptor is in a set exactly if a record
asks for it, and the bound is right above the highest descriptor.
-/
structure Collected (p : Poller ρ) (nfds : Int) (sets : FdSets) : Prop where
  readfds : ∀ fd, sets.readfds fd = true ↔ p.Asks PollEvents.POLLIN fd
  writefds : ∀ fd, sets.writefds fd = true ↔ p.Asks PollEvents.POLLOUT fd
  exceptfds : ∀ fd, sets.exceptfds fd = true ↔ ∃ slot ∈ p.slots, slot.fd = fd
  bounds : ∀ slot ∈ p.slots, slot.fd < nfds
  reached : nfds = 0 ∨ ∃ slot ∈ p.slots, slot.fd + 1 = nfds

theorem Collected.of_collectFds {max_fd : Int}
    (collected : collectFds p.slots .zero (-1) = .ok (sets, max_fd)) :
    p.Collected (max_fd + 1) sets := by
  have mem := mem_collectFds collected
  obtain ⟨_, bounds, reached⟩ := collectFds_max collected
  refine ⟨fun fd => ?_, fun fd => ?_, fun fd => ?_, fun slot member => ?_, ?_⟩
  · exact (mem fd).1.trans (or_iff_right fun no => by cases no)
  · exact (mem fd).2.1.trans (or_iff_right fun no => by cases no)
  · exact (mem fd).2.2.trans (or_iff_right fun no => by cases no)
  · exact Int.lt_add_one_iff.mpr (bounds slot member)
  · rcases reached with rfl | ⟨slot, member, rfl⟩
    · exact Or.inl rfl
    · exact Or.inr ⟨slot, member, rfl⟩

/-- A round begins with these flags, each the record's own answer from `select`. -/
structure Answered (p : Poller ρ) (ready : FdSets) (revents : Nat → PollEvents) : Prop where
  flags : (p.beginRound revents).slots =
    p.slots.map fun slot => { slot with revents := readyFlags ready slot.fd }
  asked : ∀ slot ∈ (p.beginRound revents).slots,
    (slot.revents.POLLIN = true → p.Asks PollEvents.POLLIN slot.fd) ∧
    (slot.revents.POLLOUT = true → p.Asks PollEvents.POLLOUT slot.fd)
  own : (p.slots.map Pollfd.fd).Nodup → ∀ slot ∈ (p.beginRound revents).slots,
    (slot.revents.POLLIN = true → slot.events.POLLIN = true) ∧
    (slot.revents.POLLOUT = true → slot.events.POLLOUT = true)

/-- What `select` reports is among what it was asked, so a round may begin with it. -/
theorem Collected.answered (selects : Selects select) {nfds : Int}
    (collected : p.Collected nfds sets) (reports : select nfds sets = .ready ready) :
    ∃ revents, p.Answered ready revents := by
  obtain ⟨revents, begins⟩ := @slots_beginRound _ p ready
  have asksIn : ∀ fd, ready.readfds fd = true → p.Asks PollEvents.POLLIN fd :=
    fun fd readable => (collected.readfds fd).mp ((selects.asked reports fd).1 readable)
  have asksOut : ∀ fd, ready.writefds fd = true → p.Asks PollEvents.POLLOUT fd :=
    fun fd writable => (collected.writefds fd).mp ((selects.asked reports fd).2.1 writable)
  refine ⟨revents, begins, ?_, fun distinct => ?_⟩
  · rw [begins]
    rintro _ member
    obtain ⟨slot, _, rfl⟩ := List.mem_map.mp member
    exact ⟨asksIn slot.fd, asksOut slot.fd⟩
  · rw [begins]
    rintro _ member
    obtain ⟨slot, inSlots, rfl⟩ := List.mem_map.mp member
    exact ⟨fun readable => (asksIn slot.fd readable).own distinct inSlots,
      fun writable => (asksOut slot.fd writable).own distinct inSlots⟩

/--
The program's own `poll` asks `select` once, about what the records ask for, and
answers by its result.  After a time-out and after an error no record has flags
and the value is 0 or -1; otherwise a round begins with what `select` reported
of each record's descriptor, and the value is the positive number of records that
have flags.
-/
theorem subpoll_returns (selects : Selects select)
    (range : ∀ slot ∈ p.slots, 0 ≤ slot.fd ∧ slot.fd < FD_SETSIZE) :
    ∃ nfds sets, p.Collected nfds sets ∧
      match select nfds sets with
      | .timeout => subpoll select p.slots =
          .ok (0, p.slots.map fun slot => { slot with revents := .zero })
      | .failed _ => subpoll select p.slots =
          .ok (-1, p.slots.map fun slot => { slot with revents := .zero })
      | .ready ready => ∃ (number : Nat) (revents : Nat → PollEvents),
          subpoll select p.slots = .ok (number, (p.beginRound revents).slots) ∧
          p.Answered ready revents ∧ 0 < number ∧
          number = (p.beginRound revents).slots.countP fun slot => slot.revents.nonzero := by
  obtain ⟨sets, max_fd, collected⟩ := collectFds_returns range .zero (-1)
  refine ⟨max_fd + 1, sets, Collected.of_collectFds collected, ?_⟩
  unfold subpoll
  rw [collected, ok_bind]
  dsimp only
  cases reports : select (max_fd + 1) sets with
  | timeout => rfl
  | failed errno => rfl
  | ready ready =>
      obtain ⟨revents, answered⟩ := (Collected.of_collectFds collected).answered selects reports
      have number : (p.beginRound revents).slots.countP (fun slot => slot.revents.nonzero) =
          p.slots.countP fun slot => ready.any slot.fd := by
        rw [answered.flags, List.countP_map]
        refine List.countP_congr fun slot _ => ?_
        rw [← nonzero_readyFlags]
        rfl
      obtain ⟨slot, member, is⟩ := selects.reaches collected reports
      refine ⟨_, revents, ?_, answered, ?_, rfl⟩
      · rw [number, answered.flags, ← answerFds_slots, ← answerFds_count]
      · rw [number]
        exact List.countP_pos_iff.mpr ⟨slot, member, is⟩

def stdinReadable (_nfds : Int) (sets : FdSets) : SelectResult :=
  if sets.readfds 0 then .ready ⟨fun fd => fd == 0, fun _ => false, fun _ => false⟩ else .timeout

theorem stdinReadable_selects : Selects stdinReadable where
  asked := by
    intro nfds sets ready reports fd
    unfold stdinReadable at reports
    split at reports
    · rename_i asks
      cases reports
      refine ⟨fun is => ?_, (fun no => by cases no), (fun no => by cases no)⟩
      rw [eq_of_beq is]
      exact asks
    · cases reports
  some := by
    intro nfds sets ready reports
    unfold stdinReadable at reports
    split at reports
    · cases reports
      exact ⟨0, rfl⟩
    · cases reports

/--
Of two records the one for standard input is reported.  Without a record that asks
for its input the call times out.
-/
theorem subpoll_returns_stdin :
    (∃ revents, subpoll stdinReadable ((fresh.addPolled 7 0 POLLIN).addPolled 7 1 POLLOUT).slots =
        .ok (1, (((fresh.addPolled 7 0 POLLIN).addPolled 7 1 POLLOUT).beginRound revents).slots) ∧
      (((fresh.addPolled 7 0 POLLIN).addPolled 7 1 POLLOUT).beginRound revents).slots =
        [⟨0, POLLIN, POLLIN⟩, ⟨1, POLLOUT, .zero⟩]) ∧
      subpoll stdinReadable (fresh.addPolled 7 1 POLLOUT).slots =
        .ok (0, [⟨1, POLLOUT, .zero⟩]) := by
  obtain ⟨nfds, sets, collected, returns⟩ := subpoll_returns stdinReadable_selects
    (p := (fresh.addPolled 7 0 POLLIN).addPolled 7 1 POLLOUT) (by decide)
  obtain ⟨nfds', sets', collected', returns'⟩ := subpoll_returns stdinReadable_selects
    (p := fresh.addPolled 7 1 POLLOUT) (by decide)
  constructor
  · have asks : stdinReadable nfds sets =
        .ready ⟨fun fd => fd == 0, fun _ => false, fun _ => false⟩ :=
      if_pos ((collected.readfds 0).mpr ⟨⟨0, POLLIN, .zero⟩, by decide, rfl, rfl⟩)
    rw [asks] at returns
    obtain ⟨number, revents, polled, answered, _, counted⟩ := returns
    have flags := answered.flags
    rw [flags] at counted
    cases counted
    exact ⟨revents, polled, flags⟩
  · have silent : stdinReadable nfds' sets' = .timeout := by
      refine if_neg fun asks => ?_
      obtain ⟨slot, member, same, _⟩ := (collected'.readfds 0).mp asks
      rw [List.mem_singleton.mp member] at same
      cases same
    rw [silent] at returns'
    exact returns'

end Poller

end Tun01
