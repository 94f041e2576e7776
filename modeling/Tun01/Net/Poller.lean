import Tun01.Net.Base
import Mathlib.Data.List.Nodup

/-!
# The poller

`Poller` keeps shared records of a polled object and its `pollfd`.  A round
copies the flags `poll` returned into the records and walks them by index,
while the handlers it calls add, remove and change records of the same list;
`removePolled` corrects the cursor `m_index` and the bound `m_orig_size`.
-/

namespace Tun01

/-- A shared record; `ptr` is the address `make_shared` gave it. -/
structure PolledAndPollfd (ρ : Type) where
  ptr : Nat
  m_polled : ρ
  m_pollfd : Pollfd
  deriving DecidableEq, Repr

/--
The poller.  `heap` is the next unused address, so records that are alive at
the same time have different addresses.
-/
structure Poller (ρ : Type) where
  m_polled : List (PolledAndPollfd ρ)
  m_orig_size : Int
  m_index : Int
  m_finishing : Bool
  heap : Nat
  distinct : (m_polled.map PolledAndPollfd.ptr).Nodup
  allocated : ∀ entry ∈ m_polled, entry.ptr < heap

namespace Poller

variable {ρ : Type}

/-- The poller as it is constructed; cursor and bound are set by each round. -/
def fresh : Poller ρ where
  m_polled := []
  m_orig_size := 0
  m_index := 0
  m_finishing := false
  heap := 0
  distinct := List.nodup_nil
  allocated := fun _ member => by cases member

def requestFinish (p : Poller ρ) : Poller ρ := { p with m_finishing := true }

/-- `addPolled`, with the descriptor and events that `setPollfd` fills in. -/
def addPolled (p : Poller ρ) (to_add : ρ) (fd : Int) (events : PollEvents) : Poller ρ where
  m_polled := p.m_polled ++ [⟨p.heap, to_add, ⟨fd, events, .zero⟩⟩]
  m_orig_size := p.m_orig_size
  m_index := p.m_index
  m_finishing := p.m_finishing
  heap := p.heap + 1
  distinct := by
    rw [List.map_append, List.nodup_append]
    refine ⟨p.distinct, List.nodup_singleton _, ?_⟩
    intro first firstIn second secondIn same
    obtain ⟨entry, entryIn, rfl⟩ := List.mem_map.mp firstIn
    have below := p.allocated entry entryIn
    rw [same, List.mem_singleton.mp secondIn] at below
    exact Nat.lt_irrefl _ below
  allocated := by
    intro entry member
    rcases List.mem_append.mp member with old | new
    · exact Nat.lt_succ_of_lt (p.allocated entry old)
    · rw [List.mem_singleton.mp new]
      exact Nat.lt_succ_self _

/-! ## Cursor and bound -/

/-- `removePolled` once the record to erase is found at `index`. -/
def eraseAt (p : Poller ρ) (index : Nat) : Poller ρ where
  m_polled := p.m_polled.eraseIdx index
  m_orig_size := if (index : Int) < p.m_orig_size then p.m_orig_size - 1 else p.m_orig_size
  m_index := if (index : Int) ≤ p.m_index then p.m_index - 1 else p.m_index
  m_finishing := p.m_finishing
  heap := p.heap
  distinct := p.distinct.sublist ((List.eraseIdx_sublist _ _).map _)
  allocated := fun entry member => p.allocated entry ((List.eraseIdx_sublist _ _).mem member)

/-- `m_polled[i]` -/
def entryAt (p : Poller ρ) (i : Int) : Option (PolledAndPollfd ρ) :=
  if 0 ≤ i then p.m_polled[i.toNat]? else none

def gap (p : Poller ρ) : Nat := (p.m_orig_size - p.m_index).toNat

theorem eraseAt_cursor (p : Poller ρ) (index : Nat) (inside : p.m_index < p.m_orig_size) :
    (p.eraseAt index).m_index < (p.eraseAt index).m_orig_size ∧
      (p.eraseAt index).gap ≤ p.gap := by
  unfold gap eraseAt
  dsimp only
  split <;> split <;> omega

/-- `m_index++` -/
def advance (p : Poller ρ) : Poller ρ := { p with m_index := p.m_index + 1 }

theorem advance_gap (p : Poller ρ) (inside : p.m_index < p.m_orig_size) :
    p.advance.gap < p.gap := by
  unfold gap advance
  dsimp only
  omega

/-! ## Records -/

def withEvents (events : PollEvents) (entry : PolledAndPollfd ρ) : PolledAndPollfd ρ :=
  { entry with m_pollfd := { entry.m_pollfd with events := events } }

theorem map_ptr_modify (entries : List (PolledAndPollfd ρ)) (index : Nat) (events : PollEvents) :
    (entries.modify index (withEvents events)).map PolledAndPollfd.ptr =
      entries.map PolledAndPollfd.ptr := by
  induction entries generalizing index with
  | nil => cases index <;> rfl
  | cons entry rest ih =>
      cases index with
      | zero => rfl
      | succ index => exact congrArg (entry.ptr :: ·) (ih index)

def withRevents (revents : PollEvents) (entry : PolledAndPollfd ρ) : PolledAndPollfd ρ :=
  { entry with m_pollfd := { entry.m_pollfd with revents := revents } }

theorem map_ptr_mapIdx (entries : List (PolledAndPollfd ρ)) (revents : Nat → PollEvents) :
    (entries.mapIdx fun i => withRevents (revents i)).map PolledAndPollfd.ptr =
      entries.map PolledAndPollfd.ptr := by
  apply List.ext_getElem?
  intro i
  rw [List.getElem?_map, List.getElem?_map, List.getElem?_mapIdx, Option.map_map]
  cases entries[i]? <;> rfl

/-- The start of a round: `m_pollfds` filled by `poll` and copied back. -/
def beginRound (p : Poller ρ) (revents : Nat → PollEvents) : Poller ρ where
  m_polled := p.m_polled.mapIdx fun i => withRevents (revents i)
  m_orig_size := p.m_polled.length
  m_index := 0
  m_finishing := p.m_finishing
  heap := p.heap
  distinct := by
    rw [map_ptr_mapIdx]
    exact p.distinct
  allocated := by
    intro entry member
    have inPtrs := List.mem_map_of_mem (f := PolledAndPollfd.ptr) member
    rw [map_ptr_mapIdx] at inPtrs
    obtain ⟨old, oldIn, same⟩ := List.mem_map.mp inPtrs
    rw [← same]
    exact p.allocated old oldIn

variable [DecidableEq ρ]

/-- The test of `findPolled`. -/
def isFor (to_find : ρ) (fd : Int) (entry : PolledAndPollfd ρ) : Bool :=
  decide (entry.m_polled = to_find) && decide (entry.m_pollfd.fd = fd)

/-- `findPolled` as an index; the size of the list stands for `end()`. -/
def findPolled (p : Poller ρ) (to_find : ρ) (fd : Int) : Nat :=
  p.m_polled.findIdx (isFor to_find fd)

def setEvents (p : Poller ρ) (to_set : ρ) (fd : Int) (events : PollEvents) : Poller ρ where
  m_polled := p.m_polled.modify (p.findPolled to_set fd) (withEvents events)
  m_orig_size := p.m_orig_size
  m_index := p.m_index
  m_finishing := p.m_finishing
  heap := p.heap
  distinct := by
    rw [map_ptr_modify]
    exact p.distinct
  allocated := by
    intro entry member
    have inPtrs := List.mem_map_of_mem (f := PolledAndPollfd.ptr) member
    rw [map_ptr_modify] at inPtrs
    obtain ⟨old, oldIn, same⟩ := List.mem_map.mp inPtrs
    rw [← same]
    exact p.allocated old oldIn

def removePolled (p : Poller ρ) (to_remove : ρ) (fd : Int) : Poller ρ :=
  if p.findPolled to_remove fd < p.m_polled.length then
    p.eraseAt (p.findPolled to_remove fd)
  else
    p

/-! ## Registrations of one object -/

/-- The `pollfd`s in the records of an object. -/
def registered (x : ρ) (entries : List (PolledAndPollfd ρ)) : List Pollfd :=
  (entries.filter fun entry => decide (entry.m_polled = x)).map PolledAndPollfd.m_pollfd

def registrations (p : Poller ρ) (x : ρ) : List Pollfd := registered x p.m_polled

/-- New events for the first record with a descriptor. -/
def setFirst (fd : Int) (events : PollEvents) : List Pollfd → List Pollfd
  | [] => []
  | first :: rest =>
      if first.fd = fd then { first with events := events } :: rest
      else first :: setFirst fd events rest

theorem registered_cons (x : ρ) (entry : PolledAndPollfd ρ) (rest : List (PolledAndPollfd ρ)) :
    registered x (entry :: rest) =
      if entry.m_polled = x then entry.m_pollfd :: registered x rest else registered x rest := by
  unfold registered
  rw [List.filter_cons]
  by_cases here : entry.m_polled = x
  · rw [if_pos here, if_pos (decide_eq_true here), List.map_cons]
  · rw [if_neg here, if_neg (by simpa using here)]

theorem registrations_addPolled (p : Poller ρ) (to_add : ρ) (fd : Int) (events : PollEvents)
    (x : ρ) :
    (p.addPolled to_add fd events).registrations x =
      if to_add = x then p.registrations x ++ [⟨fd, events, .zero⟩] else p.registrations x := by
  unfold registrations registered addPolled
  dsimp only
  rw [List.filter_append, List.map_append, List.filter_singleton]
  by_cases same : to_add = x
  · rw [if_pos same, decide_eq_true same]
    rfl
  · rw [if_neg same, decide_eq_false same]
    exact List.append_nil _

theorem registered_modify (to_set : ρ) (fd : Int) (events : PollEvents) (x : ρ)
    (entries : List (PolledAndPollfd ρ)) :
    registered x (entries.modify (entries.findIdx (isFor to_set fd)) (withEvents events)) =
      if to_set = x then setFirst fd events (registered x entries) else registered x entries := by
  induction entries with
  | nil => simp [registered, setFirst]
  | cons entry rest ih =>
      rw [List.findIdx_cons]
      by_cases here : isFor to_set fd entry = true
      · rw [here]
        change registered x (withEvents events entry :: rest) = _
        rw [registered_cons, registered_cons]
        simp only [isFor, Bool.and_eq_true, decide_eq_true_eq] at here
        change (if entry.m_polled = x then _ else _) = _
        rw [← here.1]
        by_cases same : entry.m_polled = x
        · rw [if_pos same, if_pos same, if_pos same, setFirst, if_pos here.2]
          rfl
        · rw [if_neg same, if_neg same, if_neg same]
      · rw [Bool.eq_false_iff.mpr here]
        change registered x (entry :: rest.modify (rest.findIdx (isFor to_set fd))
          (withEvents events)) = _
        rw [registered_cons, registered_cons, ih]
        simp only [isFor, Bool.and_eq_true, decide_eq_true_eq, not_and] at here
        by_cases same : to_set = x
        · by_cases mine : entry.m_polled = x
          · rw [if_pos same, if_pos mine, if_pos mine, setFirst,
              if_neg (here (mine.trans same.symm)), if_pos same]
          · rw [if_pos same, if_neg mine, if_neg mine, if_pos same]
        · rw [if_neg same, if_neg same]

theorem registrations_setEvents (p : Poller ρ) (to_set : ρ) (fd : Int) (events : PollEvents)
    (x : ρ) :
    (p.setEvents to_set fd events).registrations x =
      if to_set = x then setFirst fd events (p.registrations x) else p.registrations x :=
  registered_modify to_set fd events x p.m_polled

theorem registered_eraseIdx (to_remove : ρ) (fd : Int) (x : ρ)
    (entries : List (PolledAndPollfd ρ)) :
    registered x (entries.eraseIdx (entries.findIdx (isFor to_remove fd))) =
      if to_remove = x then (registered x entries).eraseP (fun record => decide (record.fd = fd))
      else registered x entries := by
  induction entries with
  | nil => simp [registered]
  | cons entry rest ih =>
      rw [List.findIdx_cons]
      by_cases here : isFor to_remove fd entry = true
      · rw [here]
        change registered x rest = _
        rw [registered_cons]
        simp only [isFor, Bool.and_eq_true, decide_eq_true_eq] at here
        rw [← here.1]
        by_cases same : entry.m_polled = x
        · rw [if_pos same, if_pos same, List.eraseP_cons_of_pos (by simpa using here.2)]
        · rw [if_neg same, if_neg same]
      · rw [Bool.eq_false_iff.mpr here]
        change registered x (entry :: rest.eraseIdx (rest.findIdx (isFor to_remove fd))) = _
        rw [registered_cons, registered_cons, ih]
        simp only [isFor, Bool.and_eq_true, decide_eq_true_eq, not_and] at here
        by_cases same : to_remove = x
        · by_cases mine : entry.m_polled = x
          · rw [if_pos same, if_pos mine, if_pos mine, if_pos same,
              List.eraseP_cons_of_neg (by simpa using here (mine.trans same.symm))]
          · rw [if_pos same, if_neg mine, if_neg mine, if_pos same]
        · rw [if_neg same, if_neg same]

theorem registrations_removePolled (p : Poller ρ) (to_remove : ρ) (fd : Int) (x : ρ) :
    (p.removePolled to_remove fd).registrations x =
      if to_remove = x then
        (p.registrations x).eraseP (fun record => decide (record.fd = fd))
      else p.registrations x := by
  have erased := registered_eraseIdx to_remove fd x p.m_polled
  unfold removePolled
  split
  · exact erased
  · rename_i outside
    have past := List.eraseIdx_of_length_le (Nat.not_lt.mp outside)
    rw [findPolled] at past
    rw [past] at erased
    exact erased

/-! ## A round -/

/-- What `poll` returned: flags for each record, nothing in time, or an error. -/
inductive PollResult where
  | ready (revents : Nat → PollEvents)
  | timeout
  | failed (errno : Errno)

/-- The calls a handler may make on the poller that dispatches it. -/
inductive Op (ρ : Type) where
  | addPolled (to_add : ρ) (fd : Int) (events : PollEvents)
  | setEvents (to_set : ρ) (fd : Int) (events : PollEvents)
  | removePolled (to_remove : ρ) (fd : Int)

/-- What happens to records during a round, by address. -/
inductive RoundEvent where
  | dispatched (ptr : Nat)
  | added (ptr : Nat)
  | removed (ptr : Nat)
  deriving DecidableEq, Repr

def applyOp (p : Poller ρ) : Op ρ → Poller ρ × List RoundEvent
  | .addPolled to_add fd events => (p.addPolled to_add fd events, [.added p.heap])
  | .setEvents to_set fd events => (p.setEvents to_set fd events, [])
  | .removePolled to_remove fd =>
      (p.removePolled to_remove fd,
        ((p.m_polled[p.findPolled to_remove fd]?).map fun entry =>
          RoundEvent.removed entry.ptr).toList)

def applyOps (p : Poller ρ) : List (Op ρ) → Poller ρ × List RoundEvent
  | [] => (p, [])
  | op :: ops =>
      let (p, events) := p.applyOp op
      let (p, more) := p.applyOps ops
      (p, events ++ more)

abbrev Callback (σ ρ : Type) := σ → ρ → Pollfd → σ × List (Op ρ)

theorem applyOp_cursor (p : Poller ρ) (op : Op ρ) (inside : p.m_index < p.m_orig_size) :
    (p.applyOp op).1.m_index < (p.applyOp op).1.m_orig_size ∧ (p.applyOp op).1.gap ≤ p.gap := by
  cases op with
  | addPolled to_add fd events => exact ⟨inside, Nat.le_refl _⟩
  | setEvents to_set fd events => exact ⟨inside, Nat.le_refl _⟩
  | removePolled to_remove fd =>
      change (p.removePolled to_remove fd).m_index < (p.removePolled to_remove fd).m_orig_size ∧
        (p.removePolled to_remove fd).gap ≤ p.gap
      unfold removePolled
      split
      · exact p.eraseAt_cursor _ inside
      · exact ⟨inside, Nat.le_refl _⟩

theorem applyOps_cursor (p : Poller ρ) (ops : List (Op ρ)) (inside : p.m_index < p.m_orig_size) :
    (p.applyOps ops).1.m_index < (p.applyOps ops).1.m_orig_size ∧
      (p.applyOps ops).1.gap ≤ p.gap := by
  induction ops generalizing p with
  | nil => exact ⟨inside, Nat.le_refl _⟩
  | cons op ops ih =>
      obtain ⟨inside', smaller⟩ := p.applyOp_cursor op inside
      obtain ⟨last, smallest⟩ := ih _ inside'
      exact ⟨last, Nat.le_trans smallest smaller⟩

/-- The dispatching loop of `pollOnce`, with what it did to the records. -/
def dispatchLoop {σ : Type} (polled : Callback σ ρ) (s : σ) (p : Poller ρ) :
    Except Fault (σ × Poller ρ × List RoundEvent) :=
  if _inside : p.m_index < p.m_orig_size then
    match p.entryAt p.m_index with
    | none => .error (.undefinedBehaviour "m_polled index out of range")
    | some entry =>
        if entry.m_pollfd.revents.nonzero then
          let (s, ops) := polled s entry.m_polled entry.m_pollfd
          match dispatchLoop polled s (p.applyOps ops).1.advance with
          | .error fault => .error fault
          | .ok (s, last, events) =>
              .ok (s, last, .dispatched entry.ptr :: ((p.applyOps ops).2 ++ events))
        else
          dispatchLoop polled s p.advance
  else
    .ok (s, p, [])
termination_by p.gap
decreasing_by
  · obtain ⟨inside', smaller⟩ := p.applyOps_cursor ops _inside
    exact Nat.lt_of_lt_of_le (advance_gap _ inside') smaller
  · exact advance_gap p _inside

/-- `pollOnce` with the result of `poll`. -/
def pollOnce {σ : Type} (polled : Callback σ ρ) (s : σ) (p : Poller ρ) :
    PollResult → Except Fault (σ × Poller ρ × List RoundEvent)
  | .ready revents => dispatchLoop polled s (p.beginRound revents)
  | .timeout => .ok (s, { p with m_orig_size := p.m_polled.length }, [])
  | .failed .EINTR => .ok (s, { p with m_orig_size := p.m_polled.length }, [])
  | .failed errno => .error (.exceptionErrno errno)

end Poller

end Tun01
