import Tun01.Net.Poller

/-!
# Dispatch under mutation

While a round runs, the list of records is the visited records, the records of
the snapshot that are still registered and not yet visited, and the records
added during the round.  Every call a handler makes keeps this split, so the
cursor meets exactly the snapshot's records that are still registered.
-/

namespace Tun01.Poller

variable {ρ : Type}

/-- Some record of the poller lives at this address. -/
def Registered (p : Poller ρ) (ptr : Nat) : Prop :=
  ptr ∈ p.m_polled.map PolledAndPollfd.ptr

instance (p : Poller ρ) (ptr : Nat) : Decidable (p.Registered ptr) :=
  inferInstanceAs (Decidable (_ ∈ _))

def turn (entry : PolledAndPollfd ρ) : Nat × PollEvents := (entry.ptr, entry.m_pollfd.revents)

def dispatches (events : List RoundEvent) : List Nat :=
  events.filterMap fun
    | .dispatched ptr => some ptr
    | _ => none

/-! ## Erasing a record -/

/-- Addresses are distinct, so erasing one index is filtering out one address. -/
theorem eraseIdx_eq_filter {entries : List (PolledAndPollfd ρ)}
    (distinct : (entries.map PolledAndPollfd.ptr).Nodup) {index : Nat}
    (inside : index < entries.length) :
    entries.eraseIdx index =
      entries.filter fun entry => decide (entry.ptr ≠ (entries[index]).ptr) := by
  induction entries generalizing index with
  | nil => exact absurd inside (Nat.not_lt_zero _)
  | cons first rest ih =>
      obtain ⟨fresh, distinct'⟩ := List.nodup_cons.mp distinct
      cases index with
      | zero =>
          have others : rest.filter (fun entry => decide (entry.ptr ≠ first.ptr)) = rest := by
            apply List.filter_eq_self.mpr
            intro entry member
            have other : entry.ptr ≠ first.ptr := by
              intro same
              exact fresh (same ▸ List.mem_map_of_mem member)
            simpa using other
          simpa using others.symm
      | succ index =>
          have inside' : index < rest.length := Nat.lt_of_succ_lt_succ inside
          have other : first.ptr ≠ (rest[index]).ptr := by
            intro same
            exact fresh (same ▸ List.mem_map_of_mem (List.getElem_mem inside'))
          rw [List.eraseIdx_cons_succ, ih distinct' inside']
          simp [other]

/-- After an erasure the registered addresses are the others. -/
theorem eraseAt_registered (p : Poller ρ) {index : Nat} (inside : index < p.m_polled.length)
    (ptr : Nat) :
    (p.eraseAt index).Registered ptr ↔ p.Registered ptr ∧ ptr ≠ (p.m_polled[index]).ptr := by
  unfold Registered eraseAt
  dsimp only
  rw [eraseIdx_eq_filter p.distinct inside]
  constructor
  · intro member
    obtain ⟨entry, entryIn, rfl⟩ := List.mem_map.mp member
    obtain ⟨old, other⟩ := List.mem_filter.mp entryIn
    exact ⟨List.mem_map_of_mem old, by simpa using other⟩
  · rintro ⟨member, other⟩
    obtain ⟨entry, entryIn, rfl⟩ := List.mem_map.mp member
    exact List.mem_map_of_mem (List.mem_filter.mpr ⟨entryIn, by simpa using other⟩)

/-! ## The walk -/

/--
The split of the list during a round.  `waiting` are the turns of the snapshot
that are not over; those whose record is still registered form `todo`.  The
cursor points `behind` records before the first of them.
-/
structure Split (p : Poller ρ) (behind : Int) (waiting : List (Nat × PollEvents))
    (visited todo added : List (PolledAndPollfd ρ)) : Prop where
  entries : p.m_polled = visited ++ todo ++ added
  cursor : p.m_index + behind = visited.length
  bound : p.m_orig_size = visited.length + todo.length
  turns : todo.map turn = waiting.filter fun t => decide (p.Registered t.1)

/-- The walk has reached the turns `waiting`. -/
def Walk (p : Poller ρ) (behind : Int) (waiting : List (Nat × PollEvents)) : Prop :=
  ∃ visited todo added, Split p behind waiting visited todo added

theorem Walk.addPolled {p : Poller ρ} {waiting : List (Nat × PollEvents)} (walk : Walk p 1 waiting)
    (old : ∀ t ∈ waiting, t.1 < p.heap) (to_add : ρ) (fd : Int) (events : PollEvents) :
    Walk (p.addPolled to_add fd events) 1 waiting := by
  obtain ⟨visited, todo, added, split⟩ := walk
  refine ⟨visited, todo, added ++ [⟨p.heap, to_add, ⟨fd, events, .zero⟩⟩], ?_, split.cursor,
    split.bound, ?_⟩
  · change p.m_polled ++ _ = _
    rw [split.entries, List.append_assoc _ added]
  · rw [split.turns]
    apply List.filter_congr
    intro t member
    have below := old t member
    have same : (p.addPolled to_add fd events).Registered t.1 ↔ p.Registered t.1 := by
      unfold Registered Poller.addPolled
      rw [List.map_append, List.mem_append, List.map_singleton, List.mem_singleton]
      constructor
      · rintro (known | fresh)
        · exact known
        · exact absurd fresh (Nat.ne_of_lt below)
      · exact Or.inl
    exact decide_eq_decide.mpr same.symm

theorem Walk.eraseAt {p : Poller ρ} {waiting : List (Nat × PollEvents)} (walk : Walk p 1 waiting)
    {index : Nat} (inside : index < p.m_polled.length) : Walk (p.eraseAt index) 1 waiting := by
  obtain ⟨visited, todo, added, split⟩ := walk
  let gone := (p.m_polled[index]).ptr
  have turns (todo' : List (PolledAndPollfd ρ))
      (kept : todo.filter (fun entry => decide (entry.ptr ≠ gone)) = todo') :
      todo'.map turn = waiting.filter fun t => decide ((p.eraseAt index).Registered t.1) := by
    have outer : waiting.filter (fun t => decide ((p.eraseAt index).Registered t.1)) =
        (waiting.filter fun t => decide (p.Registered t.1)).filter
          fun t => decide (t.1 ≠ gone) := by
      rw [List.filter_filter]
      apply List.filter_congr
      intro t _
      rw [decide_eq_decide.mpr (p.eraseAt_registered inside t.1), Bool.decide_and, Bool.and_comm]
    rw [outer, ← split.turns, List.filter_map, ← kept]
    rfl
  have distinct := p.distinct
  rw [split.entries, List.map_append, List.map_append] at distinct
  have untouched (member : gone ∉ todo.map PolledAndPollfd.ptr) :
      todo.filter (fun entry => decide (entry.ptr ≠ gone)) = todo := by
    apply List.filter_eq_self.mpr
    intro entry entryIn
    have other : entry.ptr ≠ gone := fun same => member (same ▸ List.mem_map_of_mem entryIn)
    simpa using other
  have cursor := split.cursor
  have bound := split.bound
  by_cases inVisited : index < visited.length
  · -- the record was visited before, or is the one being dispatched
    have goneIn : gone ∈ visited.map PolledAndPollfd.ptr := by
      have same : p.m_polled[index] = visited[index] := by
        simp only [split.entries, List.append_assoc]
        exact List.getElem_append_left inVisited
      change (p.m_polled[index]).ptr ∈ _
      rw [same]
      exact List.mem_map_of_mem (List.getElem_mem _)
    have apart : gone ∉ todo.map PolledAndPollfd.ptr := by
      have disjoint := (List.nodup_append.mp (List.nodup_append.mp distinct).1).2.2
      intro inTodo
      exact disjoint _ goneIn _ inTodo rfl
    refine ⟨visited.eraseIdx index, todo, added, ?_, ?_, ?_, turns todo (untouched apart)⟩
    · change p.m_polled.eraseIdx index = _
      rw [split.entries, List.append_assoc, List.eraseIdx_append_of_lt_length inVisited,
        List.append_assoc]
    · rw [List.length_eraseIdx_of_lt inVisited]
      change (if (index : Int) ≤ p.m_index then p.m_index - 1 else p.m_index) + 1 = _
      rw [if_pos (by omega)]
      omega
    · rw [List.length_eraseIdx_of_lt inVisited]
      change (if (index : Int) < p.m_orig_size then p.m_orig_size - 1 else p.m_orig_size) = _
      rw [if_pos (by omega)]
      omega
  · have after : visited.length ≤ index := Nat.le_of_not_lt inVisited
    have cursorKept : (p.eraseAt index).m_index + 1 = visited.length := by
      change (if (index : Int) ≤ p.m_index then p.m_index - 1 else p.m_index) + 1 = _
      rw [if_neg (by omega)]
      exact cursor
    by_cases inTodo : index < visited.length + todo.length
    · -- the record waits for its turn
      have within : index - visited.length < todo.length := by omega
      have same : p.m_polled[index] = todo[index - visited.length] := by
        simp only [split.entries, List.append_assoc]
        rw [List.getElem_append_right after, List.getElem_append_left within]
      have distinctTodo := (List.nodup_append.mp (List.nodup_append.mp distinct).1).2.1
      have kept : todo.filter (fun entry => decide (entry.ptr ≠ gone)) =
          todo.eraseIdx (index - visited.length) := by
        rw [eraseIdx_eq_filter distinctTodo within]
        change todo.filter (fun entry => decide (entry.ptr ≠ (p.m_polled[index]).ptr)) = _
        rw [same]
      refine ⟨visited, todo.eraseIdx (index - visited.length), added, ?_, cursorKept, ?_,
        turns _ kept⟩
      · change p.m_polled.eraseIdx index = _
        rw [split.entries, List.append_assoc, List.eraseIdx_append_of_length_le after,
          List.eraseIdx_append_of_lt_length within, List.append_assoc]
      · rw [List.length_eraseIdx_of_lt within]
        change (if (index : Int) < p.m_orig_size then p.m_orig_size - 1 else p.m_orig_size) = _
        rw [if_pos (by omega)]
        omega
    · -- the record was added during the round
      have beyond : visited.length + todo.length ≤ index := Nat.le_of_not_lt inTodo
      have size : index < (visited ++ todo ++ added).length := by
        rw [← split.entries]
        exact inside
      have goneIn : gone ∈ added.map PolledAndPollfd.ptr := by
        have within : index - (visited ++ todo).length < added.length := by
          simp only [List.length_append] at size ⊢
          omega
        have same : p.m_polled[index] = added[index - (visited ++ todo).length] := by
          simp only [split.entries]
          exact List.getElem_append_right (by rw [List.length_append]; exact beyond)
        change (p.m_polled[index]).ptr ∈ _
        rw [same]
        exact List.mem_map_of_mem (List.getElem_mem _)
      have apart : gone ∉ todo.map PolledAndPollfd.ptr := by
        have disjoint := (List.nodup_append.mp distinct).2.2
        intro inTodo
        exact disjoint _ (List.mem_append_right _ inTodo) _ goneIn rfl
      refine ⟨visited, todo, added.eraseIdx (index - (visited ++ todo).length), ?_, cursorKept, ?_,
        turns todo (untouched apart)⟩
      · change p.m_polled.eraseIdx index = _
        rw [split.entries, List.eraseIdx_append_of_length_le]
        rw [List.length_append]
        exact beyond
      · change (if (index : Int) < p.m_orig_size then p.m_orig_size - 1 else p.m_orig_size) = _
        rw [if_neg (by omega)]
        exact bound

/-- Changing anything but addresses and flags of records does not move the walk. -/
theorem Walk.of_turns {p q : Poller ρ} {behind : Int} {waiting : List (Nat × PollEvents)}
    (walk : Walk p behind waiting) (index : q.m_index = p.m_index)
    (size : q.m_orig_size = p.m_orig_size)
    (same : q.m_polled.map turn = p.m_polled.map turn) : Walk q behind waiting := by
  obtain ⟨visited, todo, added, split⟩ := walk
  rw [split.entries, List.map_append, List.map_append] at same
  obtain ⟨front, added', entries, frontTurns, -⟩ := List.map_eq_append_iff.mp same
  obtain ⟨visited', todo', rfl, visitedTurns, todoTurns⟩ := List.map_eq_append_iff.mp frontTurns
  have visitedSize := congrArg List.length visitedTurns
  have todoSize := congrArg List.length todoTurns
  rw [List.length_map, List.length_map] at visitedSize todoSize
  have ptrs : q.m_polled.map PolledAndPollfd.ptr = p.m_polled.map PolledAndPollfd.ptr := by
    have firsts := congrArg (List.map Prod.fst) same
    rw [← List.map_append, ← List.map_append, ← split.entries, List.map_map, List.map_map] at firsts
    exact firsts
  refine ⟨visited', todo', added', entries, ?_, ?_, ?_⟩
  · rw [index, visitedSize]
    exact split.cursor
  · rw [size, visitedSize, todoSize]
    exact split.bound
  · rw [todoTurns, split.turns]
    apply List.filter_congr
    intro t _
    have known : p.Registered t.1 ↔ q.Registered t.1 := by
      unfold Registered
      rw [ptrs]
    exact decide_eq_decide.mpr known

theorem map_turn_modify (entries : List (PolledAndPollfd ρ)) (index : Nat) (events : PollEvents) :
    (entries.modify index (withEvents events)).map turn = entries.map turn := by
  induction entries generalizing index with
  | nil => cases index <;> rfl
  | cons entry rest ih =>
      cases index with
      | zero => rfl
      | succ index => exact congrArg (turn entry :: ·) (ih index)

/-- What a call does to the registered addresses, and what it reports. -/
structure Effect (p q : Poller ρ) (events : List RoundEvent) : Prop where
  heap : p.heap ≤ q.heap
  removed : ∀ ptr, .removed ptr ∈ events → ¬ q.Registered ptr ∧ ptr < q.heap
  missing : ∀ ptr, p.Registered ptr → ¬ q.Registered ptr → .removed ptr ∈ events
  added : ∀ ptr, .added ptr ∈ events → p.heap ≤ ptr
  gone : ∀ ptr, ptr < p.heap → ¬ p.Registered ptr → ¬ q.Registered ptr
  quiet : dispatches events = []

/-- A call that keeps the addresses reports nothing. -/
theorem Effect.of_ptrs {p q : Poller ρ} (heap : q.heap = p.heap)
    (same : ∀ ptr, q.Registered ptr ↔ p.Registered ptr) : Effect p q [] where
  heap := Nat.le_of_eq heap.symm
  removed := fun _ member => by cases member
  missing := fun ptr known lost => absurd ((same ptr).mpr known) lost
  added := fun _ member => by cases member
  gone := fun ptr _ unknown known => unknown ((same ptr).mp known)
  quiet := rfl

theorem Effect.trans {p q r : Poller ρ} {first second : List RoundEvent}
    (one : Effect p q first) (two : Effect q r second) : Effect p r (first ++ second) where
  heap := Nat.le_trans one.heap two.heap
  removed := by
    intro ptr member
    rcases List.mem_append.mp member with early | late
    · obtain ⟨lost, below⟩ := one.removed ptr early
      exact ⟨two.gone ptr below lost, Nat.lt_of_lt_of_le below two.heap⟩
    · exact two.removed ptr late
  missing := by
    intro ptr known lost
    by_cases between : q.Registered ptr
    · exact List.mem_append_right _ (two.missing ptr between lost)
    · exact List.mem_append_left _ (one.missing ptr known between)
  added := by
    intro ptr member
    rcases List.mem_append.mp member with early | late
    · exact one.added ptr early
    · exact Nat.le_trans one.heap (two.added ptr late)
  gone := fun ptr below unknown =>
    two.gone ptr (Nat.lt_of_lt_of_le below one.heap) (one.gone ptr below unknown)
  quiet := by
    have joined : dispatches (first ++ second) = dispatches first ++ dispatches second :=
      List.filterMap_append
    rw [joined, one.quiet, two.quiet, List.append_nil]

/-! ## What a round reports -/

theorem mem_dispatches (events : List RoundEvent) (ptr : Nat) :
    ptr ∈ dispatches events ↔ .dispatched ptr ∈ events := by
  unfold dispatches
  rw [List.mem_filterMap]
  constructor
  · rintro ⟨event, member, same⟩
    cases event with
    | dispatched other =>
        cases same
        exact member
    | added other => cases same
    | removed other => cases same
  · intro member
    exact ⟨_, member, rfl⟩

theorem dispatches_append (first second : List RoundEvent) :
    dispatches (first ++ second) = dispatches first ++ dispatches second :=
  List.filterMap_append

/-- What the loop reports when it starts with the turns `waiting`. -/
structure RoundSpec (p : Poller ρ) (waiting : List (Nat × PollEvents))
    (events : List RoundEvent) : Prop where
  order : (dispatches events).Sublist ((waiting.filter fun t => t.2.nonzero).map Prod.fst)
  served : ∀ before t after, waiting = before ++ t :: after → t.2.nonzero = true →
    t.1 ∈ dispatches events ∨ ¬ p.Registered t.1 ∨
      ∃ early late, events = early ++ .removed t.1 :: late ∧
        dispatches early ⊆ before.map Prod.fst
  registered : ∀ ptr ∈ dispatches events, p.Registered ptr
  added : ∀ ptr, .added ptr ∈ events → p.heap ≤ ptr
  final : events.Pairwise fun earlier later =>
    ∀ ptr, earlier = .removed ptr → later ≠ .dispatched ptr

/-- A turn whose record is gone, or has no flag set, is passed over. -/
theorem RoundSpec.skip {p : Poller ρ} {t : Nat × PollEvents} {waiting : List (Nat × PollEvents)}
    {events : List RoundEvent} (spec : RoundSpec p waiting events)
    (pass : ¬ p.Registered t.1 ∨ ¬ t.2.nonzero = true) : RoundSpec p (t :: waiting) events where
  order := by
    refine spec.order.trans ((List.Sublist.filter _ ?_).map _)
    exact List.sublist_cons_self _ _
  served := by
    intro before t' after whole flags
    cases before with
    | nil =>
        obtain ⟨rfl, -⟩ := List.cons.inj whole
        rcases pass with gone | idle
        · exact Or.inr (Or.inl gone)
        · exact absurd flags idle
    | cons first more =>
        obtain ⟨rfl, rest⟩ := List.cons.inj whole
        rcases spec.served more t' after rest flags with done | gone | ⟨early, late, split, inside⟩
        · exact Or.inl done
        · exact Or.inr (Or.inl gone)
        · exact Or.inr (Or.inr ⟨early, late, split, fun ptr member =>
            List.mem_cons_of_mem _ (inside member)⟩)
  registered := spec.registered
  added := spec.added
  final := spec.final

/-- A dispatched turn, the calls of its handler, and the rest of the round. -/
theorem RoundSpec.dispatch {p q : Poller ρ} {t : Nat × PollEvents}
    {waiting : List (Nat × PollEvents)} {calls events : List RoundEvent}
    (known : p.Registered t.1) (flags : t.2.nonzero = true) (old : ∀ u ∈ waiting, u.1 < p.heap)
    (effect : Effect p q calls) (spec : RoundSpec q waiting events) :
    RoundSpec p (t :: waiting) (.dispatched t.1 :: (calls ++ events)) := by
  have rest : dispatches (.dispatched t.1 :: (calls ++ events)) = t.1 :: dispatches events := by
    change t.1 :: dispatches (calls ++ events) = _
    rw [dispatches_append, effect.quiet, List.nil_append]
  have inWaiting : ∀ ptr ∈ dispatches events, ptr < p.heap := by
    intro ptr member
    obtain ⟨u, inFiltered, rfl⟩ := List.mem_map.mp (spec.order.mem member)
    exact old u (List.mem_filter.mp inFiltered).1
  constructor
  · rw [rest, List.filter_cons_of_pos (by simpa using flags)]
    exact spec.order.cons_cons _
  · intro before t' after whole flags'
    rw [rest]
    cases before with
    | nil =>
        obtain ⟨rfl, -⟩ := List.cons.inj whole
        exact Or.inl List.mem_cons_self
    | cons first more =>
        obtain ⟨rfl, tail⟩ := List.cons.inj whole
        rcases spec.served more t' after tail flags' with done | gone | ⟨early, late, split, inside⟩
        · exact Or.inl (List.mem_cons_of_mem _ done)
        · by_cases before' : p.Registered t'.1
          · -- the handler of an earlier turn removed the record
            obtain ⟨early, late, split⟩ := List.append_of_mem (effect.missing _ before' gone)
            refine Or.inr (Or.inr ⟨.dispatched t.1 :: early, late ++ events, ?_, ?_⟩)
            · rw [split]
              simp
            · have none : dispatches early = [] := by
                have quiet := effect.quiet
                rw [split, dispatches_append] at quiet
                exact (List.append_eq_nil_iff.mp quiet).1
              intro ptr member
              change ptr ∈ t.1 :: dispatches early at member
              rw [none, List.mem_singleton] at member
              rw [member]
              exact List.mem_cons_self
          · exact Or.inr (Or.inl before')
        · refine Or.inr (Or.inr ⟨.dispatched t.1 :: (calls ++ early), late, ?_, ?_⟩)
          · rw [split]
            simp
          · intro ptr member
            change ptr ∈ t.1 :: dispatches (calls ++ early) at member
            rw [dispatches_append, effect.quiet, List.nil_append] at member
            rcases List.mem_cons.mp member with rfl | later
            · exact List.mem_cons_self
            · exact List.mem_cons_of_mem _ (inside later)
  · intro ptr member
    rw [rest] at member
    rcases List.mem_cons.mp member with rfl | later
    · exact known
    · by_contra unknown
      exact effect.gone ptr (inWaiting ptr later) unknown (spec.registered ptr later)
  · intro ptr member
    rcases List.mem_cons.mp member with impossible | inRest
    · cases impossible
    · rcases List.mem_append.mp inRest with inCalls | inEvents
      · exact effect.added ptr inCalls
      · exact Nat.le_trans effect.heap (spec.added ptr inEvents)
  · refine List.pairwise_cons.mpr ⟨fun later _ ptr impossible => RoundEvent.noConfusion impossible, ?_⟩
    refine List.pairwise_append.mpr ⟨?_, spec.final, ?_⟩
    · refine List.pairwise_of_forall_mem_list ?_
      rintro earlier - later inCalls ptr - rfl
      have listed := (mem_dispatches calls ptr).mpr inCalls
      rw [effect.quiet] at listed
      cases listed
    · rintro earlier inCalls later inEvents ptr rfl rfl
      exact (effect.removed ptr inCalls).1
        (spec.registered ptr ((mem_dispatches events ptr).mpr inEvents))

theorem entryAt_split {p : Poller ρ} {visited todo added : List (PolledAndPollfd ρ)}
    {entry : PolledAndPollfd ρ} (entries : p.m_polled = visited ++ entry :: todo ++ added)
    (cursor : p.m_index = visited.length) : p.entryAt p.m_index = some entry := by
  rw [entryAt, cursor, if_pos (Int.natCast_nonneg _), Int.toNat_natCast, entries, List.append_assoc,
    List.getElem?_append_right (Nat.le_refl _), Nat.sub_self]
  rfl

/-- A round starts with every record waiting. -/
theorem beginRound_walk (p : Poller ρ) (revents : Nat → PollEvents) :
    Walk (p.beginRound revents) 0 ((p.beginRound revents).m_polled.map turn) := by
  refine ⟨[], (p.beginRound revents).m_polled, [], ?_, rfl, ?_, ?_⟩
  · simp
  · simp [beginRound]
  · symm
    apply List.filter_eq_self.mpr
    intro t member
    obtain ⟨entry, entryIn, rfl⟩ := List.mem_map.mp member
    exact decide_eq_true (List.mem_map_of_mem entryIn)

/-! ## The loop -/

variable [DecidableEq ρ]

theorem applyOp_effect (p : Poller ρ) (op : Op ρ) : Effect p (p.applyOp op).1 (p.applyOp op).2 := by
  cases op with
  | addPolled to_add fd events =>
      have same (ptr : Nat) : (p.addPolled to_add fd events).Registered ptr ↔
          p.Registered ptr ∨ ptr = p.heap := by
        unfold Registered addPolled
        rw [List.map_append, List.mem_append, List.map_singleton, List.mem_singleton]
      refine ⟨Nat.le_succ _, ?_, ?_, ?_, ?_, rfl⟩
      · intro ptr member
        cases List.mem_singleton.mp member
      · intro ptr known lost
        exact absurd ((same ptr).mpr (Or.inl known)) lost
      · intro ptr member
        cases List.mem_singleton.mp member
        exact Nat.le_refl _
      · intro ptr below unknown known
        rcases (same ptr).mp known with old | fresh
        · exact unknown old
        · exact Nat.ne_of_lt below fresh
  | setEvents to_set fd events =>
      refine Effect.of_ptrs rfl ?_
      intro ptr
      change ptr ∈ (p.m_polled.modify _ (withEvents events)).map PolledAndPollfd.ptr ↔ _
      rw [map_ptr_modify]
      rfl
  | removePolled to_remove fd =>
      change Effect p (p.removePolled to_remove fd)
        ((p.m_polled[p.findPolled to_remove fd]?).map fun entry =>
          RoundEvent.removed entry.ptr).toList
      unfold removePolled
      split
      · rename_i inside
        have same := p.eraseAt_registered inside
        rw [List.getElem?_eq_getElem inside]
        refine ⟨Nat.le_refl _, ?_, ?_, ?_, ?_, rfl⟩
        · intro ptr member
          cases List.mem_singleton.mp member
          refine ⟨fun known => ((same _).mp known).2 rfl, ?_⟩
          exact p.allocated _ (List.getElem_mem inside)
        · intro ptr known lost
          by_cases other : ptr = (p.m_polled[p.findPolled to_remove fd]).ptr
          · rw [other]
            exact List.mem_singleton.mpr rfl
          · exact absurd ((same ptr).mpr ⟨known, other⟩) lost
        · intro ptr member
          cases List.mem_singleton.mp member
        · intro ptr _ unknown known
          exact unknown ((same ptr).mp known).1
      · rename_i outside
        rw [List.getElem?_eq_none (Nat.le_of_not_lt outside)]
        exact Effect.of_ptrs rfl fun _ => Iff.rfl

theorem applyOp_walk {p : Poller ρ} {waiting : List (Nat × PollEvents)} (walk : Walk p 1 waiting)
    (old : ∀ t ∈ waiting, t.1 < p.heap) (op : Op ρ) : Walk (p.applyOp op).1 1 waiting := by
  cases op with
  | addPolled to_add fd events => exact walk.addPolled old to_add fd events
  | setEvents to_set fd events => exact walk.of_turns rfl rfl (map_turn_modify _ _ _)
  | removePolled to_remove fd =>
      change Walk (p.removePolled to_remove fd) 1 waiting
      unfold removePolled
      split
      · rename_i inside
        exact walk.eraseAt inside
      · exact walk

/-- A whole handler: its calls keep the walk and compose their effects. -/
theorem applyOps_walk {p : Poller ρ} {waiting : List (Nat × PollEvents)} (walk : Walk p 1 waiting)
    (old : ∀ t ∈ waiting, t.1 < p.heap) (ops : List (Op ρ)) :
    Walk (p.applyOps ops).1 1 waiting ∧ Effect p (p.applyOps ops).1 (p.applyOps ops).2 := by
  induction ops generalizing p with
  | nil => exact ⟨walk, Effect.of_ptrs rfl fun _ => Iff.rfl⟩
  | cons op ops ih =>
      have effect := p.applyOp_effect op
      have old' : ∀ t ∈ waiting, t.1 < (p.applyOp op).1.heap := fun t member =>
        Nat.lt_of_lt_of_le (old t member) effect.heap
      obtain ⟨walk', effect'⟩ := ih (applyOp_walk walk old op) old'
      exact ⟨walk', effect.trans effect'⟩

/-- The loop of a round ends without leaving the list, and reports as specified. -/
theorem dispatchLoop_spec {σ : Type} (polled : Callback σ ρ) (s : σ) (p : Poller ρ)
    (waiting : List (Nat × PollEvents)) (walk : Walk p 0 waiting)
    (old : ∀ t ∈ waiting, t.1 < p.heap) :
    ∃ s' q events, dispatchLoop polled s p = .ok (s', q, events) ∧
      RoundSpec p waiting events := by
  induction waiting generalizing s p with
  | nil =>
      obtain ⟨visited, todo, added, split⟩ := walk
      have empty : todo = [] := List.map_eq_nil_iff.mp split.turns
      have done : ¬ p.m_index < p.m_orig_size := by
        have cursor := split.cursor
        have bound := split.bound
        rw [empty, List.length_nil] at bound
        omega
      refine ⟨s, p, [], ?_, ?_⟩
      · rw [dispatchLoop, dif_neg done]
      · exact ⟨List.nil_sublist _, fun before t after whole => by simp at whole,
          fun _ member => (List.not_mem_nil member).elim,
          fun _ member => (List.not_mem_nil member).elim, List.Pairwise.nil⟩
  | cons t waiting ih =>
      have old' : ∀ u ∈ waiting, u.1 < p.heap := fun u member =>
        old u (List.mem_cons_of_mem _ member)
      obtain ⟨visited, todo, added, split⟩ := walk
      by_cases known : p.Registered t.1
      · have turns := split.turns
        rw [List.filter_cons_of_pos (by simpa using known)] at turns
        obtain ⟨entry, todo', rfl, entryTurn, turns'⟩ := List.map_eq_cons_iff.mp turns
        have cursor : p.m_index = visited.length := by
          have := split.cursor
          omega
        have bound := split.bound
        rw [List.length_cons] at bound
        have inside : p.m_index < p.m_orig_size := by omega
        have found := entryAt_split split.entries cursor
        have passed : Walk p 1 waiting := by
          refine ⟨visited ++ [entry], todo', added, ?_, ?_, ?_, turns'⟩
          · rw [split.entries]
            simp
          · rw [List.length_append, List.length_singleton]
            omega
          · rw [List.length_append, List.length_singleton]
            omega
        have advanced {q : Poller ρ} (walk : Walk q 1 waiting) : Walk q.advance 0 waiting := by
          obtain ⟨visited, todo, added, split⟩ := walk
          refine ⟨visited, todo, added, split.entries, ?_, split.bound, split.turns⟩
          have cursor := split.cursor
          change q.m_index + 1 + 0 = _
          omega
        have flags : entry.m_pollfd.revents = t.2 := congrArg Prod.snd entryTurn
        have address : entry.ptr = t.1 := congrArg Prod.fst entryTurn
        by_cases nonzero : t.2.nonzero = true
        · obtain ⟨walk', effect⟩ :=
            applyOps_walk passed old' (polled s entry.m_polled entry.m_pollfd).2
          have old'' : ∀ u ∈ waiting,
              u.1 < (p.applyOps (polled s entry.m_polled entry.m_pollfd).2).1.advance.heap :=
            fun u member => Nat.lt_of_lt_of_le (old' u member) effect.heap
          obtain ⟨s', q, events, result, spec⟩ :=
            ih (polled s entry.m_polled entry.m_pollfd).1 _ (advanced walk') old''
          refine ⟨s', q, _, ?_, RoundSpec.dispatch known nonzero old' effect
            ⟨spec.order, spec.served, spec.registered, spec.added, spec.final⟩⟩
          rw [dispatchLoop, dif_pos inside, found]
          simp only [flags, nonzero, if_true, result, address]
        · obtain ⟨s', q, events, result, spec⟩ := ih s p.advance (advanced passed) old'
          refine ⟨s', q, events, ?_, RoundSpec.skip
            ⟨spec.order, spec.served, spec.registered, spec.added, spec.final⟩ (Or.inr nonzero)⟩
          rw [dispatchLoop, dif_pos inside, found]
          simp only [flags, nonzero, if_false, result, Bool.false_eq_true]
      · have turns := split.turns
        rw [List.filter_cons_of_neg (by simpa using known)] at turns
        obtain ⟨s', q, events, result, spec⟩ :=
          ih s p ⟨visited, todo, added, split.entries, split.cursor, split.bound, turns⟩ old'
        exact ⟨s', q, events, result, spec.skip (Or.inl known)⟩

omit [DecidableEq ρ] in
theorem beginRound_old (p : Poller ρ) (revents : Nat → PollEvents) :
    ∀ t ∈ (p.beginRound revents).m_polled.map turn, t.1 < (p.beginRound revents).heap := by
  intro t member
  obtain ⟨entry, entryIn, rfl⟩ := List.mem_map.mp member
  exact (p.beginRound revents).allocated entry entryIn

/-- A round returns, unless `poll` fails for another reason than a signal. -/
theorem pollOnce_returns {σ : Type} (polled : Callback σ ρ) (s : σ) (p : Poller ρ)
    {result : PollResult} (fine : ∀ errno, result = .failed errno → errno = .EINTR) :
    ∃ outcome, pollOnce polled s p result = .ok outcome := by
  cases result with
  | timeout => exact ⟨_, rfl⟩
  | failed errno =>
      obtain rfl := fine errno rfl
      exact ⟨_, rfl⟩
  | ready revents =>
      obtain ⟨s', q, events, returns, _⟩ :=
        dispatchLoop_spec polled s _ _ (p.beginRound_walk revents) (p.beginRound_old revents)
      exact ⟨_, returns⟩

end Tun01.Poller
