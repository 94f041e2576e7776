import Tun01.Lib.Doubling
import Tun01.Lib.Run
import Tun01.Net.PollRound

/-!
# The array of a round

`pollOnce` copies the `pollfd`s of all records into an array, lets `poll` fill in
the flags and copies them back.  The array is kept from round to round and is
replaced by a larger one when there are more records than it has slots.
-/

namespace Tun01

/-- The poller with its array; a slot of a new array has no value yet. -/
structure PollArray (ρ : Type) where
  poller : Poller ρ
  m_size : Nat
  m_pollfds : Vector (Option Pollfd) m_size
  positive : 0 < m_size

namespace Poller

variable {ρ : Type}

/-- `m_pollfd = value` -/
def withPollfd (value : Pollfd) (entry : PolledAndPollfd ρ) : PolledAndPollfd ρ :=
  { entry with m_pollfd := value }

theorem map_ptr_modify_pollfd (entries : List (PolledAndPollfd ρ)) (i : Nat) (value : Pollfd) :
    (entries.modify i (withPollfd value)).map PolledAndPollfd.ptr =
      entries.map PolledAndPollfd.ptr := by
  refine List.ext_getElem? fun j => ?_
  rw [List.getElem?_map, List.getElem?_map, List.getElem?_modify]
  cases entries[j]? with
  | none => rfl
  | some entry =>
      change some (PolledAndPollfd.ptr (if i = j then withPollfd value entry else entry)) = _
      split <;> rfl

/-- `m_polled[i]->m_pollfd = value` -/
def storePollfd (p : Poller ρ) (i : Nat) (value : Pollfd) : Poller ρ where
  m_polled := p.m_polled.modify i (withPollfd value)
  m_orig_size := p.m_orig_size
  m_index := p.m_index
  m_finishing := p.m_finishing
  heap := p.heap
  distinct := by
    rw [map_ptr_modify_pollfd]
    exact p.distinct
  allocated := by
    intro entry member
    have inPtrs := List.mem_map_of_mem (f := PolledAndPollfd.ptr) member
    rw [map_ptr_modify_pollfd] at inPtrs
    obtain ⟨old, oldIn, same⟩ := List.mem_map.mp inPtrs
    rw [← same]
    exact p.allocated old oldIn

/-- Pollers are the same if their members are. -/
theorem eq_of_members {p p' : Poller ρ} (entries : p.m_polled = p'.m_polled)
    (bound : p.m_orig_size = p'.m_orig_size) (cursor : p.m_index = p'.m_index)
    (finishing : p.m_finishing = p'.m_finishing) (heap : p.heap = p'.heap) : p = p' := by
  cases p
  cases p'
  subst entries bound cursor finishing heap
  rfl

end Poller

namespace PollArray

variable {ρ σ : Type}

def INITIAL_SIZE : Nat := 10

/-- The array as it is constructed, for the poller it belongs to. -/
def start (p : Poller ρ) : PollArray ρ where
  poller := p
  m_size := INITIAL_SIZE
  m_pollfds := Vector.replicate _ none
  positive := by decide

/-! ## A round -/

/-- `m_orig_size`, the number of records as an `int`. -/
def m_orig_size (p : Poller ρ) : Int := int32 p.m_polled.length

/-- A larger array when there are too many records. -/
def reserve (a : PollArray ρ) : Except Fault (PollArray ρ) :=
  if (a.m_size : Int) < m_orig_size a.poller then
    match reached : Doubling.reach INT_MAX (m_orig_size a.poller).toNat a.m_size a.positive with
    | some size => .ok
        { poller := a.poller
          m_size := size
          m_pollfds := Vector.replicate _ none
          positive := by
            obtain ⟨k, same⟩ := Doubling.reach_power reached
            rw [same]
            exact Nat.mul_pos a.positive (Nat.two_pow_pos k) }
    | none => .error (.undefinedBehaviour "signed integer overflow")
  else
    .ok a

/-- `m_pollfds[i] = m_polled[i]->m_pollfd` for a number of indices from `i` on. -/
def copyIn {size : Nat} (entries : List (PolledAndPollfd ρ)) (slots : Vector (Option Pollfd) size)
    (i : Nat) : Nat → Except Fault (Vector (Option Pollfd) size)
  | 0 => .ok slots
  | count + 1 =>
      match entries[i]? with
      | none => .error (.undefinedBehaviour "m_polled index out of range")
      | some entry =>
          if _inside : i < size then
            copyIn entries (slots.set i (some entry.m_pollfd)) (i + 1) count
          else
            .error (.undefinedBehaviour "m_pollfds index out of range")

/-- `poll` fills in the flags of the first slots. -/
def filled {size : Nat} (slots : Vector (Option Pollfd) size) (count : Nat)
    (revents : Nat → PollEvents) : Vector (Option Pollfd) size :=
  slots.mapIdx fun i slot =>
    if i < count then slot.map fun value => { value with revents := revents i } else slot

/-- `m_polled[i]->m_pollfd = m_pollfds[i]` for a number of indices from `i` on. -/
def copyOut {size : Nat} (slots : Vector (Option Pollfd) size) (p : Poller ρ) (i : Nat) :
    Nat → Except Fault (Poller ρ)
  | 0 => .ok p
  | count + 1 =>
      if _inside : i < size then
        match slots[i] with
        | none => .error (.undefinedBehaviour "indeterminate pollfd")
        | some value =>
            if i < p.m_polled.length then
              copyOut slots (p.storePollfd i value) (i + 1) count
            else
              .error (.undefinedBehaviour "m_polled index out of range")
      else
        .error (.undefinedBehaviour "m_pollfds index out of range")

variable [DecidableEq ρ]

/-- `pollOnce` with its array and the result of `poll`. -/
def pollOnce (polled : Poller.Callback σ ρ) (s : σ) (a : PollArray ρ) (result : Poller.PollResult) :
    Except Fault (σ × PollArray ρ × List Poller.RoundEvent) := do
  let a ← a.reserve
  let bound := m_orig_size a.poller
  let slots ← copyIn a.poller.m_polled a.m_pollfds 0 bound.toNat
  match result with
  | .ready revents =>
      let slots := filled slots bound.toNat revents
      let p ← copyOut slots a.poller 0 bound.toNat
      let (s, p, events) ←
        Poller.dispatchLoop polled s { p with m_orig_size := bound, m_index := 0 }
      .ok (s, { a with poller := p, m_pollfds := slots }, events)
  | .timeout | .failed .EINTR =>
      .ok (s, { a with poller := { a.poller with m_orig_size := bound }, m_pollfds := slots }, [])
  | .failed errno => .error (.exceptionErrno errno)

/-! ## Copying -/

omit [DecidableEq ρ]

theorem copyIn_copies {size count : Nat} {entries : List (PolledAndPollfd ρ)}
    {slots : Vector (Option Pollfd) size} {i : Nat} (known : i + count ≤ entries.length)
    (room : i + count ≤ size) : ∃ slots', copyIn entries slots i count = .ok slots' ∧
      ∀ (j : Nat) (inside : j < size), slots'[j] =
        if i ≤ j ∧ j < i + count then entries[j]?.map PolledAndPollfd.m_pollfd else slots[j] := by
  induction count generalizing slots i with
  | zero =>
      refine ⟨slots, rfl, fun j inside => ?_⟩
      rw [if_neg (by omega)]
  | succ count ih =>
      have here : i < entries.length := by omega
      have inside : i < size := by omega
      obtain ⟨slots', copied, values⟩ := @ih (slots.set i (some (entries[i]).m_pollfd)) (i + 1)
        (by omega) (by omega)
      refine ⟨slots', ?_, fun j within => ?_⟩
      · unfold copyIn
        rw [List.getElem?_eq_getElem here]
        dsimp only
        rw [dif_pos inside]
        exact copied
      · rw [values j within, Vector.getElem_set]
        by_cases same : i = j
        · subst same
          rw [if_neg (by omega), if_pos rfl, if_pos (by omega), List.getElem?_eq_getElem here]
          rfl
        · rw [if_neg same]
          by_cases later : i + 1 ≤ j ∧ j < i + 1 + count
          · rw [if_pos later, if_pos (by omega)]
          · rw [if_neg later, if_neg (by omega)]

/-- The `pollfd` of a record with new flags. -/
def reported (entry : Option (PolledAndPollfd ρ)) (revents : PollEvents) : Pollfd :=
  match entry with
  | none => ⟨0, .zero, revents⟩
  | some entry => { entry.m_pollfd with revents := revents }

/-- The records with the values of their slots, for some of them. -/
theorem copyOut_copies {size count : Nat} {slots : Vector (Option Pollfd) size} {p : Poller ρ}
    {i : Nat} {values : Nat → Pollfd} (known : i + count ≤ p.m_polled.length)
    (room : i + count ≤ size)
    (stored : ∀ (j : Nat) (inside : j < size), i ≤ j → j < i + count → slots[j] = some (values j)) :
    ∃ p', copyOut slots p i count = .ok p' ∧ p'.m_finishing = p.m_finishing ∧ p'.heap = p.heap ∧
      ∀ j, p'.m_polled[j]? = if i ≤ j ∧ j < i + count
        then p.m_polled[j]?.map (Poller.withPollfd (values j)) else p.m_polled[j]? := by
  induction count generalizing p i with
  | zero =>
      refine ⟨p, rfl, rfl, rfl, fun j => ?_⟩
      rw [if_neg (by omega)]
  | succ count ih =>
      have here : i < p.m_polled.length := by omega
      have inside : i < size := by omega
      have length : (p.storePollfd i (values i)).m_polled.length = p.m_polled.length :=
        List.length_modify ..
      obtain ⟨p', copied, finishing, heap, entries⟩ := @ih (p.storePollfd i (values i)) (i + 1)
        (by rw [length]; omega) (by omega)
        (fun j within first last => stored j within (by omega) (by omega))
      refine ⟨p', ?_, finishing, heap, fun j => ?_⟩
      · unfold copyOut
        rw [dif_pos inside, stored i inside (Nat.le_refl i) (by omega)]
        dsimp only
        rw [if_pos here]
        exact copied
      · rw [entries j]
        change (if _ then ((p.m_polled.modify i _)[j]?).map _ else (p.m_polled.modify i _)[j]?) = _
        rw [List.getElem?_modify]
        by_cases same : i = j
        · subst same
          rw [if_neg (by omega), if_pos (by omega)]
          simp
        · by_cases later : i + 1 ≤ j ∧ j < i + 1 + count
          · rw [if_pos later, if_pos (by omega)]
            simp [same]
          · rw [if_neg later, if_neg (by omega)]
            simp [same]

/-! ## The size of the array -/

/-- The array was doubled some times. -/
def Doubled (a : PollArray ρ) : Prop := ∃ k, a.m_size = INITIAL_SIZE * 2 ^ k

theorem m_orig_size_of_few {p : Poller ρ} (few : p.m_polled.length ≤ INT_MAX) :
    m_orig_size p = p.m_polled.length := by
  unfold INT_MAX at few
  unfold m_orig_size int32
  omega

/-- The array can be doubled until it has this many slots, and no further. -/
theorem doubles_iff {a : PollArray ρ} (doubled : a.Doubled) {wanted : Nat} :
    (Doubling.reach INT_MAX wanted a.m_size a.positive).isSome = true ↔
      wanted ≤ a.m_size ∨ wanted ≤ INITIAL_SIZE * 2 ^ 27 := by
  obtain ⟨k, size⟩ := doubled
  rw [Doubling.reach_isSome_iff, size]
  constructor
  · rintro ⟨j, large, rfl | within⟩
    · rw [Nat.pow_zero, Nat.mul_one] at large
      exact Or.inl large
    · rw [Nat.mul_assoc, ← Nat.pow_add] at large within
      right
      have few : k + j ≤ 27 := by
        by_contra more
        have power := Nat.pow_le_pow_right Nat.two_pos (Nat.lt_of_not_le more)
        have long := Nat.mul_le_mul_left INITIAL_SIZE power
        exact absurd (Nat.le_trans long within) (by decide)
      exact Nat.le_trans large (Nat.mul_le_mul_left _ (Nat.pow_le_pow_right Nat.two_pos few))
  · rintro (large | few)
    · exact ⟨0, by rwa [Nat.pow_zero, Nat.mul_one], Or.inl rfl⟩
    · by_cases far : 27 ≤ k
      · refine ⟨0, ?_, Or.inl rfl⟩
        rw [Nat.pow_zero, Nat.mul_one]
        exact Nat.le_trans few (Nat.mul_le_mul_left _ (Nat.pow_le_pow_right Nat.two_pos far))
      · refine ⟨27 - k, ?_, Or.inr ?_⟩
        · rw [Nat.mul_assoc, ← Nat.pow_add, Nat.add_sub_cancel' (by omega)]
          exact few
        · rw [Nat.mul_assoc, ← Nat.pow_add, Nat.add_sub_cancel' (by omega)]
          decide

theorem reserve_returns {a : PollArray ρ} (doubled : a.Doubled)
    (few : a.poller.m_polled.length ≤ INITIAL_SIZE * 2 ^ 27) : ∃ b, a.reserve = .ok b ∧
      b.poller = a.poller ∧ b.Doubled ∧ a.poller.m_polled.length ≤ b.m_size ∧
      (b.m_size = a.m_size ∨ b.m_size < 2 * a.poller.m_polled.length) := by
  have bound : m_orig_size a.poller = a.poller.m_polled.length :=
    m_orig_size_of_few (Nat.le_trans few (by decide))
  unfold reserve
  by_cases small : (a.m_size : Int) < m_orig_size a.poller
  · rw [if_pos small]
    have large := (doubles_iff doubled).mpr (Or.inr few)
    split
    · rename_i size reached
      rw [bound, Int.toNat_natCast] at reached
      obtain ⟨k, same⟩ := doubled
      obtain ⟨enough, rest⟩ := Doubling.reach_large reached
      obtain ⟨j, power⟩ := Doubling.reach_power reached
      refine ⟨_, rfl, rfl, ⟨k + j, power.trans ?_⟩, enough, rest⟩
      rw [same, Nat.mul_assoc, ← Nat.pow_add]
    · rename_i none
      rw [bound, Int.toNat_natCast] at none
      rw [none] at large
      cases large
  · rw [if_neg small]
    rw [bound] at small
    exact ⟨a, rfl, rfl, doubled, by omega, Or.inl rfl⟩

/-- The next larger array would have more slots than an `int` can count. -/
theorem reserve_overflows {a : PollArray ρ} (doubled : a.Doubled)
    (many : INITIAL_SIZE * 2 ^ 27 < a.poller.m_polled.length)
    (counted : a.poller.m_polled.length ≤ INT_MAX) (small : a.m_size < a.poller.m_polled.length) :
    a.reserve = .error (.undefinedBehaviour "signed integer overflow") := by
  have bound := m_orig_size_of_few counted
  unfold reserve
  rw [if_pos (by omega)]
  split
  · rename_i size reached
    rw [bound, Int.toNat_natCast] at reached
    have large := (doubles_iff doubled).mp (Option.isSome_iff_exists.mpr ⟨size, reached⟩)
    omega
  · rfl

variable [DecidableEq ρ]

/-- A round with the array is a round of the records, and the array has a slot for each. -/
theorem pollOnce_agrees {a : PollArray ρ} (doubled : a.Doubled)
    (few : a.poller.m_polled.length ≤ INITIAL_SIZE * 2 ^ 27) (polled : Poller.Callback σ ρ) (s : σ)
    (result : Poller.PollResult) : ∃ b : PollArray ρ, b.Doubled ∧
      a.poller.m_polled.length ≤ b.m_size ∧
      (b.m_size = a.m_size ∨ b.m_size < 2 * a.poller.m_polled.length) ∧
      pollOnce polled s a result = (a.poller.pollOnce polled s result).map fun (s, p, events) =>
        (s, { b with poller := p }, events) := by
  obtain ⟨⟨p₀, size, old, positive⟩, reserved, rfl, doubled', enough, growth⟩ :=
    reserve_returns doubled few
  change a.poller.m_polled.length ≤ size at enough
  have bound : m_orig_size a.poller = a.poller.m_polled.length :=
    m_orig_size_of_few (Nat.le_trans few (by decide))
  obtain ⟨slots, inward, values⟩ := @copyIn_copies _ _ a.poller.m_polled.length a.poller.m_polled
    old 0 (by omega) (by omega)
  unfold pollOnce
  rw [reserved, ok_bind]
  dsimp only
  rw [bound, Int.toNat_natCast, inward, ok_bind]
  cases result with
  | timeout => exact ⟨⟨a.poller, size, slots, positive⟩, doubled', enough, growth, rfl⟩
  | failed errno =>
      refine ⟨⟨a.poller, size, slots, positive⟩, doubled', enough, growth, ?_⟩
      cases errno <;> rfl
  | ready revents =>
      obtain ⟨p, outward, finishing, heap, entries⟩ := @copyOut_copies _ _ a.poller.m_polled.length
        (filled slots a.poller.m_polled.length revents) a.poller 0
        (fun j => reported (a.poller.m_polled[j]?) (revents j)) (by omega) (by omega) (by
          intro j inside _ last
          have known : j < a.poller.m_polled.length := by omega
          unfold filled
          rw [Vector.getElem_mapIdx, if_pos known, values j inside, if_pos (by omega),
            List.getElem?_eq_getElem known]
          rfl)
      have round : { p with m_orig_size := (a.poller.m_polled.length : Int), m_index := 0 } =
          a.poller.beginRound revents := by
        refine Poller.eq_of_members (List.ext_getElem? fun j => ?_) rfl rfl finishing heap
        change p.m_polled[j]? = (a.poller.m_polled.mapIdx _)[j]?
        rw [entries, List.getElem?_mapIdx]
        cases found : a.poller.m_polled[j]? with
        | none => exact ite_self none
        | some entry =>
            have known := (List.getElem?_eq_some_iff.mp found).1
            rw [if_pos (by omega)]
            rfl
      refine ⟨⟨a.poller, size, filled slots a.poller.m_polled.length revents, positive⟩, doubled',
        enough, growth, ?_⟩
      dsimp only
      rw [outward, ok_bind, round]
      unfold Poller.pollOnce
      dsimp only
      cases Poller.dispatchLoop polled s (a.poller.beginRound revents) with
      | error fault => rfl
      | ok outcome => rfl

end PollArray

/-! ## Many rounds -/

/-- A call on a poller from outside of its rounds, or a round. -/
inductive PollerCall (ρ : Type) where
  | op (op : Poller.Op ρ)
  | pollOnce (result : Poller.PollResult)

variable {ρ σ : Type} [DecidableEq ρ]

def Poller.called (polled : Poller.Callback σ ρ) (s : σ) (p : Poller ρ) :
    PollerCall ρ → Except Fault (σ × Poller ρ)
  | .op op => .ok (s, (p.applyOp op).1)
  | .pollOnce result => (p.pollOnce polled s result).map fun (s, p, _) => (s, p)

/-- `poll` fails, and not because of a signal. -/
def PollerCall.fails : PollerCall ρ → Bool
  | .pollOnce (.failed errno) => errno != .EINTR
  | .op _ | .pollOnce .timeout | .pollOnce (.ready _) => false

theorem Poller.called_returns (polled : Poller.Callback σ ρ) (s : σ) (p : Poller ρ)
    {call : PollerCall ρ} (fine : call.fails = false) : ∃ st, p.called polled s call = .ok st := by
  cases call with
  | op op => exact ⟨_, rfl⟩
  | pollOnce result =>
      have excused : ∀ errno, result = .failed errno → errno = .EINTR := by
        rintro errno rfl
        exact of_not_not fun other => Bool.eq_false_iff.mp fine (bne_iff_ne.mpr other)
      obtain ⟨outcome, returns⟩ := pollOnce_returns polled s p excused
      unfold called
      dsimp only
      rw [returns]
      exact ⟨_, rfl⟩

/-- A round does not begin with more than `n` records. -/
def Poller.Few (n : Nat) (p : Poller ρ) : PollerCall ρ → Prop
  | .op _ => True
  | .pollOnce _ => p.m_polled.length ≤ n

namespace PollArray

def called (polled : Poller.Callback σ ρ) (s : σ) (a : PollArray ρ) :
    PollerCall ρ → Except Fault (σ × PollArray ρ)
  | .op op => .ok (s, { a with poller := (a.poller.applyOp op).1 })
  | .pollOnce result => (a.pollOnce polled s result).map fun (s, a, _) => (s, a)

/-- A call that returns; a round leaves a slot for each record it began with. -/
structure Step (polled : Poller.Callback σ ρ) (st : σ × PollArray ρ) (call : PollerCall ρ)
    (st' : σ × PollArray ρ) : Prop where
  returns : st.2.called polled st.1 call = .ok st'
  room : ∀ result, call = .pollOnce result → st.2.poller.m_polled.length ≤ st'.2.m_size

variable {polled : Poller.Callback σ ρ} {s : σ} {a : PollArray ρ} {p : Poller ρ} {n : Nat}
  {call : PollerCall ρ} {calls : List (PollerCall ρ)}

/-- The array was doubled some times, and has fewer than `2 * n` slots unless it is the first. -/
structure Suits (n : Nat) (a : PollArray ρ) : Prop where
  doubled : a.Doubled
  short : a.m_size = INITIAL_SIZE ∨ a.m_size < 2 * n

theorem Suits.called (suits : a.Suits n) (few : a.poller.Few n call)
    (small : n ≤ INITIAL_SIZE * 2 ^ 27) : ∃ b : PollArray ρ, b.Suits n ∧
      (∀ result, call = .pollOnce result → a.poller.m_polled.length ≤ b.m_size) ∧
      a.called polled s call = (a.poller.called polled s call).map fun (s, p) =>
        (s, { b with poller := p }) := by
  cases call with
  | op op => exact ⟨a, suits, fun _ no => (by cases no), rfl⟩
  | pollOnce result =>
      obtain ⟨b, doubled, room, growth, agrees⟩ :=
        pollOnce_agrees suits.doubled (Nat.le_trans few small) polled s result
      have short : b.m_size = INITIAL_SIZE ∨ b.m_size < 2 * n := by
        rcases growth with same | short
        · rw [same]
          exact suits.short
        · exact Or.inr (Nat.lt_of_lt_of_le short (Nat.mul_le_mul_left 2 few))
      refine ⟨b, ⟨doubled, short⟩, fun _ _ => room, ?_⟩
      unfold PollArray.called Poller.called
      dsimp only
      rw [agrees]
      cases a.poller.pollOnce polled s result with
      | error fault => rfl
      | ok outcome => rfl

/--
Whatever calls are made on a poller, as long as no round begins with more than
`n` records: rounds return unless `poll` fails, so that no index leaves the
records or the array and no slot is read before it is stored to; the records and
faults are those of the poller without an array; and the array has a slot for
each record, ten doubled some times and fewer than `2 * n` unless it is the first.
-/
theorem calls_agree (small : n ≤ INITIAL_SIZE * 2 ^ 27) {st : σ × Poller ρ}
    (run : Run (fun st call st' => st.2.called polled st.1 call = .ok st' ∧ st.2.Few n call)
      (s, p) calls st) :
    ∃ a : PollArray ρ, a.poller = st.2 ∧ a.Suits n ∧
      Run (Step polled) (s, start p) calls (st.1, a) ∧
      ∀ call, st.2.Few n call →
        (a.called polled st.1 call).map (fun st => (st.1, st.2.poller)) =
            st.2.called polled st.1 call ∧
          (call.fails = false → ∃ st', a.called polled st.1 call = .ok st') := by
  have agrees : ∀ (a : PollArray ρ), a.Suits n → ∀ (s : σ) call, a.poller.Few n call →
      (a.called polled s call).map (fun st => (st.1, st.2.poller)) =
          a.poller.called polled s call ∧
        (call.fails = false → ∃ st', a.called polled s call = .ok st') := by
    intro a suits s call few
    obtain ⟨b, _, _, same⟩ := @Suits.called _ _ _ polled s _ _ _ suits few small
    rw [same]
    refine ⟨?_, fun fine => ?_⟩
    · cases a.poller.called polled s call with
      | error fault => rfl
      | ok outcome => rfl
    · obtain ⟨outcome, returns⟩ := a.poller.called_returns polled s fine
      rw [returns]
      exact ⟨_, rfl⟩
  induction run with
  | nil =>
      have suits : (start p).Suits n := ⟨⟨0, rfl⟩, Or.inl rfl⟩
      exact ⟨start p, rfl, suits, .nil, agrees _ suits s⟩
  | @snoc calls st st' call earlier last ih =>
      obtain ⟨s₁, p₁⟩ := st
      obtain ⟨a, same, suits, run, _⟩ := ih
      change a.poller = p₁ at same
      subst same
      obtain ⟨taken, few⟩ := last
      obtain ⟨b, suits', room, after⟩ := @Suits.called _ _ _ polled s₁ _ _ _ suits few small
      rw [taken] at after
      have suits'' : ({ b with poller := st'.2 } : PollArray ρ).Suits n := ⟨suits'.1, suits'.2⟩
      exact ⟨{ b with poller := st'.2 }, rfl, suits'', .snoc run ⟨after, room⟩,
        agrees _ suits'' st'.1⟩

/-- Calls from outside of a round are those of the records. -/
theorem run_ops {ops : List (Poller.Op ρ)} {st : σ × PollArray ρ}
    (run : Run (Step polled) (s, a) (ops.map .op) st) :
    st.2.poller = (a.poller.applyOps ops).1 := by
  induction ops generalizing a with
  | nil =>
      rw [run.of_nil]
      rfl
  | cons op ops ih =>
      obtain ⟨st₁, taken, later⟩ := run.uncons
      obtain rfl := Except.ok.inj taken.returns
      exact ih later

end PollArray

namespace Poller

theorem run_ops (polled : Callback σ ρ) (s : σ) (p : Poller ρ) (n : Nat) (ops : List (Op ρ)) :
    Run (fun st call st' => st.2.called polled st.1 call = .ok st' ∧ st.2.Few n call)
      (s, p) (ops.map .op) (s, (p.applyOps ops).1) := by
  induction ops generalizing p with
  | nil => exact .nil
  | cons op ops ih => exact .cons ⟨rfl, trivial⟩ (ih _)

end Poller

namespace PollArray

def counts : Poller.Callback Nat Nat := fun s _ _ => (s + 1, [])

def crowd : List (Poller.Op Nat) := (List.range 11).map fun i => .addPolled i i POLLIN

theorem crowd_length : ((Poller.fresh : Poller Nat).applyOps crowd).1.m_polled.length = 11 := by
  decide

/-- With the eleventh record the array is doubled. -/
theorem calls_agree_doubled : ∃ (a : PollArray Nat) (dispatched : Nat), a.m_size = 20 ∧
    Run (Step counts) (0, start .fresh)
      (crowd.map .op ++ [.pollOnce (.ready fun _ => POLLIN)]) (dispatched, a) := by
  obtain ⟨⟨dispatched, p⟩, round⟩ := @Poller.called_returns _ _ _ counts 0
    (Poller.fresh.applyOps crowd).1 (.pollOnce (.ready fun _ => POLLIN)) rfl
  obtain ⟨a, _, suits, run, _⟩ := calls_agree (n := 11) (by decide)
    ((Poller.run_ops counts 0 .fresh 11 crowd).snoc ⟨round, Nat.le_of_eq crowd_length⟩)
  refine ⟨a, dispatched, ?_, run⟩
  have room : 11 ≤ a.m_size := by
    obtain ⟨st, adds, last⟩ := run.unsnoc
    have before : st.2.poller = ((Poller.fresh : Poller Nat).applyOps crowd).1 := run_ops adds
    have room := last.room _ rfl
    rw [before, crowd_length] at room
    exact room
  obtain ⟨k, size⟩ := suits.doubled
  have short : a.m_size < 22 := suits.short.resolve_left fun first => by
    rw [first] at room
    exact absurd room (by decide)
  match k with
  | 0 => exact absurd (size ▸ room) (by decide)
  | 1 => exact size
  | k + 2 =>
      have large := Nat.mul_le_mul_left INITIAL_SIZE
        (Nat.pow_le_pow_right Nat.two_pos (Nat.le_add_left 2 k))
      rw [← size] at large
      exact absurd (Nat.lt_of_le_of_lt large short) (by decide)

end PollArray

end Tun01
