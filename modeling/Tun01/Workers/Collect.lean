import Mathlib.Data.List.Nodup
import Mathlib.Tactic.FinCases
import Tun01.Workers.Server

/-!
# Collecting the finished workers

What one call of `collect` does to the list, the blocks and the threads.
-/

namespace Tun01

namespace Socks5Server

/-- What the `done` flag of an entry says. -/
def finished (s : Socks5Server) (thread : Nat) : Bool :=
  match s.heap.find? thread with
  | none => false
  | some block => block.done

def unfinished (s : Socks5Server) (thread : Nat) : Bool := !s.finished thread

def pt (s : Socks5Server) (thread : Nat) : Option Nat := (s.heap.find? thread).bind Thread.pt

def reapCalls (s : Socks5Server) (threads : List Nat) : List ReapCall :=
  threads.flatMap fun thread => [.pthread_join (s.pt thread), .free thread]

theorem reapCalls_cons (s : Socks5Server) (thread : Nat) (threads : List Nat) :
    s.reapCalls (thread :: threads) =
      .pthread_join (s.pt thread) :: .free thread :: s.reapCalls threads := rfl

/--
The entries are different allocated blocks, and a flag that is set was set by
the entry's own worker, which nobody has joined.
-/
structure Collectable (s : Socks5Server) : Prop where
  distinct : s.m_threads.contents.Nodup
  allocated : ∀ thread ∈ s.m_threads.contents, ∃ block, s.heap.find? thread = some block
  joinable : ∀ thread ∈ s.m_threads.contents, s.finished thread = true →
    ∃ pt, s.pt thread = some pt ∧ s.workers.find? pt = some ⟨thread, .returned⟩

/-- The loop has gone over the entries `rest`, which followed the entries `kept`. -/
structure CollectedFrom (s : Socks5Server) (kept rest : List Nat) (s' : Socks5Server)
    (calls : List ReapCall) : Prop where
  contents : s'.m_threads.contents = kept ++ rest.filter s.unfinished
  calls : calls = s.reapCalls (rest.filter s.finished)
  heap : ∀ thread, s'.heap.find? thread =
    if thread ∈ rest.filter s.finished then none else s.heap.find? thread
  workers : ∀ pt, s'.workers.find? pt =
    if some pt ∈ (rest.filter s.finished).map s.pt then none else s.workers.find? pt
  descriptors : s'.descriptors = s.descriptors

theorem finished_of_heap {s : Socks5Server} {thread : Nat} {block : Thread}
    (allocated : s.heap.find? thread = some block) : s.finished thread = block.done := by
  unfold finished
  rw [allocated]

theorem pt_of_heap {s : Socks5Server} {thread : Nat} {block : Thread}
    (allocated : s.heap.find? thread = some block) : s.pt thread = block.pt := by
  unfold pt
  rw [allocated]
  rfl

section Reap

variable {s : Socks5Server} {kept rest : List Nat} {thread pt : Nat}

/-- Taking out the entry behind `kept` leaves the others in their order. -/
theorem reap_contents (split : s.m_threads.contents = kept ++ thread :: rest)
    (workers : OrderedMap Nat Worker) :
    (s.reap kept.length thread workers).m_threads.contents = kept ++ rest := by
  have inside : kept.length < s.m_threads.count := by
    rw [← Sblist.contents_length, split, List.length_append, List.length_cons]
    omega
  change (s.m_threads.delete kept.length).contents = kept ++ rest
  rw [Sblist.delete_contents inside, split, List.eraseIdx_append_of_length_le (Nat.le_refl _),
    Nat.sub_self, List.eraseIdx_cons_zero]

theorem reap_heap {other : Nat} (different : thread ≠ other) (i : Nat)
    (workers : OrderedMap Nat Worker) :
    (s.reap i thread workers).heap.find? other = s.heap.find? other :=
  OrderedMap.find?_erase_of_ne _ different

theorem reap_finished {other : Nat} (different : thread ≠ other) (i : Nat)
    (workers : OrderedMap Nat Worker) :
    (s.reap i thread workers).finished other = s.finished other := by
  unfold finished
  rw [reap_heap different]

theorem reap_pt {other : Nat} (different : thread ≠ other) (i : Nat)
    (workers : OrderedMap Nat Worker) : (s.reap i thread workers).pt other = s.pt other := by
  unfold Socks5Server.pt
  rw [reap_heap different]

/-- Another finished entry stays joinable: it has a thread of its own. -/
theorem Collectable.reap (collectable : s.Collectable)
    (split : s.m_threads.contents = kept ++ thread :: rest)
    (worker : s.workers.find? pt = some ⟨thread, .returned⟩) :
    (s.reap kept.length thread (s.workers.erase pt)).Collectable := by
  have contents := reap_contents split (s.workers.erase pt)
  have distinct := collectable.distinct
  rw [split] at distinct
  have different : ∀ other ∈ kept ++ rest, thread ≠ other := by
    intro other member same
    have twice := List.nodup_middle.mp distinct
    exact (List.nodup_cons.mp twice).1 (same ▸ member)
  have before : ∀ other ∈ kept ++ rest, other ∈ s.m_threads.contents := by
    intro other member
    rw [split]
    rcases List.mem_append.mp member with first | later
    · exact List.mem_append_left _ first
    · exact List.mem_append_right _ (List.mem_cons_of_mem _ later)
  constructor
  case distinct =>
    rw [contents]
    exact (List.nodup_cons.mp (List.nodup_middle.mp distinct)).2
  case allocated =>
    intro other member
    rw [contents] at member
    rw [reap_heap (different other member)]
    exact collectable.allocated other (before other member)
  case joinable =>
    intro other member finished
    rw [contents] at member
    rw [reap_finished (different other member)] at finished
    obtain ⟨handle, stored, joinable⟩ := collectable.joinable other (before other member) finished
    refine ⟨handle, (reap_pt (different other member) _ _).trans stored, ?_⟩
    have own : pt ≠ handle := by
      intro same
      rw [← same, worker] at joinable
      exact different other member (congrArg Worker.data (Option.some.inj joinable))
    exact (OrderedMap.find?_erase_of_ne _ own).trans joinable

end Reap

/-! ## The loop -/

theorem CollectedFrom.skip {s s' : Socks5Server} {kept rest : List Nat} {thread : Nat}
    {calls : List ReapCall} (runs : s.finished thread = false)
    (collected : s.CollectedFrom (kept ++ [thread]) rest s' calls) :
    s.CollectedFrom kept (thread :: rest) s' calls := by
  have keeps : s.unfinished thread = true := by
    unfold unfinished
    rw [runs]
    rfl
  have passes : (thread :: rest).filter s.finished = rest.filter s.finished :=
    List.filter_cons_of_neg (by rw [runs]; exact Bool.false_ne_true)
  constructor
  case contents =>
    rw [collected.contents, List.filter_cons_of_pos keeps, List.append_assoc]
    rfl
  case calls => rw [passes, collected.calls]
  case heap =>
    intro other
    rw [passes, collected.heap]
  case workers =>
    intro pt
    rw [passes, collected.workers]
  case descriptors => exact collected.descriptors

theorem CollectedFrom.reap {s s' : Socks5Server} {kept rest : List Nat} {thread pt : Nat}
    {calls : List ReapCall} (finished : s.finished thread = true) (stored : s.pt thread = some pt)
    (own : thread ∉ rest)
    (collected : (s.reap kept.length thread (s.workers.erase pt)).CollectedFrom kept rest s' calls) :
    s.CollectedFrom kept (thread :: rest) s'
      (.pthread_join (some pt) :: .free thread :: calls) := by
  have different : ∀ other ∈ rest, thread ≠ other := by
    intro other member same
    exact own (same ▸ member)
  have finishes : rest.filter (s.reap kept.length thread (s.workers.erase pt)).finished =
      rest.filter s.finished :=
    List.filter_congr fun other member => reap_finished (different other member) _ _
  have keeps : rest.filter (s.reap kept.length thread (s.workers.erase pt)).unfinished =
      rest.filter s.unfinished := by
    refine List.filter_congr fun other member => ?_
    unfold unfinished
    rw [reap_finished (different other member)]
  have handles : (rest.filter s.finished).map
      (s.reap kept.length thread (s.workers.erase pt)).pt = (rest.filter s.finished).map s.pt := by
    refine List.map_congr_left fun other member => ?_
    exact reap_pt (different other (List.mem_of_mem_filter member)) _ _
  have takes : (thread :: rest).filter s.finished = thread :: rest.filter s.finished :=
    List.filter_cons_of_pos finished
  constructor
  case contents =>
    have gone : s.unfinished thread ≠ true := by
      unfold unfinished
      rw [finished]
      exact Bool.false_ne_true
    rw [collected.contents, keeps, List.filter_cons_of_neg gone]
  case calls =>
    have later : (s.reap kept.length thread (s.workers.erase pt)).reapCalls
        (rest.filter s.finished) = s.reapCalls (rest.filter s.finished) := by
      refine List.flatMap_congr fun other member => ?_
      rw [reap_pt (different other (List.mem_of_mem_filter member))]
    rw [collected.calls, finishes, later, takes, reapCalls_cons, stored]
  case heap =>
    intro other
    rw [collected.heap, finishes, takes]
    change (if _ then _ else (s.heap.erase thread).find? other) = _
    rw [OrderedMap.find?_erase]
    by_cases later : other ∈ rest.filter s.finished
    · rw [if_pos later, if_pos (List.mem_cons_of_mem _ later)]
    · by_cases same : thread = other
      · rw [if_neg later, if_pos same, if_pos (same ▸ List.mem_cons_self)]
      · rw [if_neg later, if_neg same, if_neg]
        exact fun member => (List.mem_cons.mp member).elim (fun here => same here.symm) later
  case workers =>
    intro handle
    rw [collected.workers, finishes, handles, takes, List.map_cons, stored]
    change (if _ then _ else (s.workers.erase pt).find? handle) = _
    rw [OrderedMap.find?_erase]
    by_cases later : some handle ∈ (rest.filter s.finished).map s.pt
    · rw [if_pos later, if_pos (List.mem_cons_of_mem _ later)]
    · by_cases same : pt = handle
      · rw [if_neg later, if_pos same, if_pos (same ▸ List.mem_cons_self)]
      · rw [if_neg later, if_neg same, if_neg]
        exact fun member => (List.mem_cons.mp member).elim
          (fun here => same (Option.some.inj here).symm) later
  case descriptors => exact collected.descriptors

/-- From any index the loop ends, and goes over the entries from there on. -/
theorem collectFrom_spec {s : Socks5Server} {kept rest : List Nat} (collectable : s.Collectable)
    (split : s.m_threads.contents = kept ++ rest) :
    ∃ s' calls, s.collectFrom kept.length = .ok (s', calls) ∧
      s.CollectedFrom kept rest s' calls := by
  induction rest generalizing s kept with
  | nil =>
      refine ⟨s, [], collectFrom_end ?_, ?_⟩
      · rw [← Sblist.contents_length, split, List.append_nil]
      · exact ⟨split, rfl, fun _ => rfl, fun _ => rfl, rfl⟩
  | cons thread rest ih =>
      have member : thread ∈ s.m_threads.contents := by
        rw [split]
        exact List.mem_append_right _ List.mem_cons_self
      have here : s.m_threads.get kept.length = some thread := by
        rw [Sblist.get_eq, split, List.getElem?_append_right (Nat.le_refl _), Nat.sub_self]
        rfl
      obtain ⟨block, allocated⟩ := collectable.allocated thread member
      have flag := finished_of_heap allocated
      cases done : block.done with
      | false =>
          have onward : s.m_threads.contents = (kept ++ [thread]) ++ rest := by
            rw [split, List.append_assoc]
            rfl
          obtain ⟨s', calls, ends, collected⟩ := ih collectable onward
          refine ⟨s', calls, ?_, collected.skip (flag.trans done)⟩
          rw [collectFrom_unfinished here allocated done, ← ends, List.length_append]
          rfl
      | true =>
          obtain ⟨pt, stored, worker⟩ := collectable.joinable thread member (flag.trans done)
          have joins : s.pthread_join block.pt = .ok (s.workers.erase pt) := by
            rw [← pt_of_heap allocated, stored, pthread_join, worker]
            rfl
          have own : thread ∉ rest := by
            have distinct := collectable.distinct
            rw [split] at distinct
            have single := (List.nodup_cons.mp (List.nodup_middle.mp distinct)).1
            exact fun later => single (List.mem_append_right _ later)
          obtain ⟨s', calls, ends, collected⟩ := ih (collectable.reap split worker)
            (reap_contents split (s.workers.erase pt))
          refine ⟨s', _, ?_, collected.reap (flag.trans done) stored own⟩
          rw [collectFrom_finished here allocated done joins, ends, ← pt_of_heap allocated, stored]
          rfl

/-! ## The whole call -/

/-- Different finished entries have different threads. -/
theorem Collectable.pt_injective {s : Socks5Server} (collectable : s.Collectable)
    {thread other : Nat} (first : thread ∈ s.m_threads.contents.filter s.finished)
    (second : other ∈ s.m_threads.contents.filter s.finished) (same : s.pt thread = s.pt other) :
    thread = other := by
  obtain ⟨member, finished⟩ := List.mem_filter.mp first
  obtain ⟨member', finished'⟩ := List.mem_filter.mp second
  obtain ⟨pt, stored, worker⟩ := collectable.joinable thread member finished
  obtain ⟨pt', stored', worker'⟩ := collectable.joinable other member' finished'
  have handle : pt = pt' := Option.some.inj (stored.symm.trans (same.trans stored'))
  rw [handle, worker'] at worker
  exact (congrArg Worker.data (Option.some.inj worker)).symm

theorem mem_reapCalls {s : Socks5Server} {threads : List Nat} {call : ReapCall} :
    call ∈ s.reapCalls threads ↔
      ∃ thread ∈ threads, call = .pthread_join (s.pt thread) ∨ call = .free thread := by
  simp [reapCalls]

theorem reapCalls_nodup {s : Socks5Server} {threads : List Nat} (distinct : threads.Nodup)
    (own : ∀ thread ∈ threads, ∀ other ∈ threads, s.pt thread = s.pt other → thread = other) :
    (s.reapCalls threads).Nodup := by
  induction threads with
  | nil => exact List.nodup_nil
  | cons thread rest ih =>
      obtain ⟨apart, distinct⟩ := List.nodup_cons.mp distinct
      have later := ih distinct fun first member second member' =>
        own first (List.mem_cons_of_mem _ member) second (List.mem_cons_of_mem _ member')
      have joined : ReapCall.pthread_join (s.pt thread) ∉ s.reapCalls rest := by
        intro again
        obtain ⟨other, member, same | same⟩ := mem_reapCalls.mp again
        · have equal := own thread List.mem_cons_self other (List.mem_cons_of_mem _ member)
            (ReapCall.pthread_join.inj same)
          exact apart (equal ▸ member)
        · cases same
      have freed : ReapCall.free thread ∉ s.reapCalls rest := by
        intro again
        obtain ⟨other, member, same | same⟩ := mem_reapCalls.mp again
        · cases same
        · exact apart (ReapCall.free.inj same ▸ member)
      rw [reapCalls_cons, List.nodup_cons, List.nodup_cons]
      refine ⟨?_, freed, later⟩
      intro member
      rcases List.mem_cons.mp member with same | again
      · cases same
      · exact joined again

/--
`collect` comes to an end and touches no freed block; it joins and frees every
finished entry once, and the unfinished ones stay, in their order.
-/
theorem collect_reaps {s : Socks5Server} (collectable : s.Collectable) :
    ∃ s' calls, s.collect = .ok (s', calls) ∧ calls.Nodup ∧
      s.CollectedFrom [] s.m_threads.contents s' calls := by
  obtain ⟨s', calls, ends, collected⟩ :=
    @collectFrom_spec s [] s.m_threads.contents collectable rfl
  refine ⟨s', calls, ends, ?_, collected⟩
  rw [collected.calls]
  exact reapCalls_nodup (collectable.distinct.filter _)
    fun _ first _ second same => collectable.pt_injective first second same

/-- Four entries, all but the third finished. -/
def crowded : Socks5Server where
  m_threads := ⟨8, 4, 8, [10, 20, 30, 40], Nat.le_refl 4, Nat.le_add_right 4 4, Nat.succ_pos 7⟩
  heap := (((OrderedMap.empty.insert 10 ⟨some 1, some 5, true⟩).insert 20
    ⟨some 2, some 6, true⟩).insert 30 ⟨some 3, some 7, false⟩).insert 40 ⟨some 4, some 8, true⟩
  workers := (((OrderedMap.empty.insert 1 ⟨10, .returned⟩).insert 2 ⟨20, .returned⟩).insert 3
    ⟨30, .serving⟩).insert 4 ⟨40, .returned⟩
  descriptors := [7]

theorem collect_reaps_crowded : ∃ s' calls, crowded.collect = .ok (s', calls) ∧ calls.Nodup ∧
    crowded.CollectedFrom [] [10, 20, 30, 40] s' calls := by
  refine collect_reaps ⟨by decide, ?_, ?_⟩
  · intro thread member
    fin_cases member <;> exact ⟨_, rfl⟩
  · intro thread member finished
    fin_cases member
    · exact ⟨1, rfl, rfl⟩
    · exact ⟨2, rfl, rfl⟩
    · cases finished
    · exact ⟨4, rfl, rfl⟩

end Socks5Server

end Tun01
