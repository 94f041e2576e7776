import Tun01.Lib.Run
import Tun01.Workers.Collect

/-!
# The worker table

Calls of `polled` and the workers in between, in any order: which worker an
entry of the list belongs to, and which entry keeps a descriptor open.
-/

namespace Tun01

namespace Socks5Server

/-! ## Steps -/

/-- The kernel hands out an address, a descriptor and a handle that are not in use. -/
structure Offers (s : Socks5Server) (calls : Admission) : Prop where
  block : ∀ curr, calls.malloc = some curr → s.heap.find? curr = none
  descriptor : ∀ fd, calls.accept = .ok fd → fd ∉ s.descriptors
  handle : ∀ pt, calls.pthread_create = some pt → s.workers.find? pt = none

/-- What happens next: a half of `polled`, or a worker that goes on. -/
inductive Event where
  | collect
  | client (calls : Admission)
  | close (pt : Nat)
  | finish (pt : Nat)

/-- The server, and whether `polled` has collected but not yet admitted. -/
structure Table where
  server : Socks5Server
  collected : Bool

namespace Table

def fresh : Table := ⟨Socks5Server.fresh, false⟩

inductive Step : Table → Event → Table → Prop where
  | collect {s s' : Socks5Server} {calls : List ReapCall} :
      s.collect = .ok (s', calls) → Step ⟨s, false⟩ .collect ⟨s', true⟩
  | client {s : Socks5Server} {calls : Admission} :
      s.Offers calls → Step ⟨s, true⟩ (.client calls) ⟨s.takeClient calls, false⟩
  | close {s : Socks5Server} {collected : Bool} {pt : Nat} {worker : Worker} {block : Thread}
      {fd : Int} : s.workers.find? pt = some worker → worker.phase = .serving →
      s.heap.find? worker.data = some block → block.client = some fd →
      Step ⟨s, collected⟩ (.close pt) ⟨s.closeClient pt worker fd, collected⟩
  | finish {s : Socks5Server} {collected : Bool} {pt : Nat} {worker : Worker} {block : Thread} :
      s.workers.find? pt = some worker → worker.phase = .closed →
      s.heap.find? worker.data = some block →
      Step ⟨s, collected⟩ (.finish pt) ⟨s.finish pt worker, collected⟩

end Table

/-! ## Admission -/

/-- The list has room for one more entry. -/
def Room (s : Socks5Server) (calls : Admission) : Prop :=
  s.m_threads.count = s.m_threads.capa → calls.realloc = true

/-- Everything before `pthread_create` succeeds. -/
inductive Reaches (s : Socks5Server) (calls : Admission) : Nat → Int → Prop where
  | intro {curr : Nat} {fd : Int} : calls.malloc = some curr → calls.accept = .ok fd →
      s.Room calls → Reaches s calls curr fd

/-- A new entry at the end of the list, for a descriptor just accepted. -/
structure Admitted (s : Socks5Server) (curr : Nat) (fd : Int) (pt : Option Nat)
    (s' : Socks5Server) : Prop where
  contents : s'.m_threads.contents = s.m_threads.contents ++ [curr]
  heap : ∀ thread, s'.heap.find? thread =
    if curr = thread then some ⟨pt, some fd, false⟩ else s.heap.find? thread
  workers : ∀ handle, s'.workers.find? handle =
    if pt = some handle then some ⟨curr, .serving⟩ else s.workers.find? handle
  descriptors : s'.descriptors = fd :: s.descriptors

section Admit

variable {s : Socks5Server} {calls : Admission}

theorem add_isSome_iff (curr : Nat) :
    (s.m_threads.add calls.realloc curr).isSome = true ↔ s.Room calls := by
  unfold Sblist.add Sblist.growIfNeeded Room
  rw [Option.isSome_map]
  constructor
  · intro added full
    rw [dif_pos full] at added
    by_contra none
    rw [if_neg none] at added
    cases added
  · intro room
    by_cases full : s.m_threads.count = s.m_threads.capa
    · rw [dif_pos full, if_pos (room full)]
      rfl
    · rw [dif_neg full]
      rfl

/-- A failure before `pthread_create` undoes everything done for the client. -/
theorem takeClient_rejected (offers : s.Offers calls) (stops : ∀ curr fd, ¬ s.Reaches calls curr fd) :
    s.takeClient calls = s := by
  unfold takeClient
  cases allocated : calls.malloc with
  | none => rfl
  | some curr =>
      have undone := OrderedMap.erase_insert (⟨none, none, false⟩ : Thread)
        (offers.block curr allocated)
      dsimp only
      cases answer : calls.accept with
      | fail errno =>
          change { s with heap := (s.heap.insert curr ⟨none, none, false⟩).erase curr } = s
          rw [undone]
      | ok fd =>
          have full : s.m_threads.add calls.realloc curr = none := by
            rw [← Option.not_isSome_iff_eq_none, add_isSome_iff curr]
            exact fun room => stops curr fd ⟨allocated, answer, room⟩
          dsimp only
          rw [show ((s.allocate curr).accepted curr fd).m_threads.add calls.realloc curr = none
            from full]
          change { s with
            heap := ((s.heap.insert curr ⟨none, none, false⟩).modify curr _).erase curr
            descriptors := (fd :: s.descriptors).erase fd } = s
          rw [OrderedMap.erase_modify, undone, List.erase_cons_head]

theorem takeClient_admitted {curr : Nat} {fd : Int} (reaches : s.Reaches calls curr fd) :
    s.Admitted curr fd calls.pthread_create (s.takeClient calls) := by
  obtain ⟨allocated, answer, room⟩ := reaches
  obtain ⟨m_threads, added⟩ := Option.isSome_iff_exists.mp ((add_isSome_iff curr).mpr room)
  have stored : ∀ thread, ((s.allocate curr).accepted curr fd).heap.find? thread =
      if curr = thread then some ⟨none, some fd, false⟩ else s.heap.find? thread := by
    intro thread
    change ((s.heap.insert curr _).modify curr _).find? thread = _
    rw [OrderedMap.find?_modify, OrderedMap.find?_insert]
    split <;> rfl
  unfold takeClient
  rw [allocated]
  dsimp only
  rw [answer]
  dsimp only
  rw [show ((s.allocate curr).accepted curr fd).m_threads.add calls.realloc curr =
    some m_threads from added]
  dsimp only
  cases created : calls.pthread_create with
  | none => exact ⟨Sblist.add_contents added, stored, fun _ => rfl, rfl⟩
  | some pt =>
      refine ⟨Sblist.add_contents added, ?_, ?_, rfl⟩
      · intro thread
        change (((s.allocate curr).accepted curr fd).heap.modify curr _).find? thread = _
        rw [OrderedMap.find?_modify, stored]
        split <;> rfl
      · intro handle
        change (s.workers.insert pt _).find? handle = _
        rw [OrderedMap.find?_insert]
        simp only [Option.some.injEq]

end Admit

/-! ## Entries -/

/-- How an entry and its worker stand, with the descriptor that the entry keeps open. -/
inductive Entry (s : Socks5Server) (thread : Nat) : Option Int → Prop where
  /-- `pthread_create` failed -/
  | stranded {fd : Int} : s.heap.find? thread = some ⟨none, some fd, false⟩ →
      Entry s thread (some fd)
  | serving {pt : Nat} {fd : Int} : s.heap.find? thread = some ⟨some pt, some fd, false⟩ →
      s.workers.find? pt = some ⟨thread, .serving⟩ → Entry s thread (some fd)
  | closed {pt : Nat} {fd : Int} : s.heap.find? thread = some ⟨some pt, some fd, false⟩ →
      s.workers.find? pt = some ⟨thread, .closed⟩ → Entry s thread none
  | returned {pt : Nat} {fd : Int} : s.heap.find? thread = some ⟨some pt, some fd, true⟩ →
      s.workers.find? pt = some ⟨thread, .returned⟩ → Entry s thread none

namespace Entry

variable {s s' : Socks5Server} {thread : Nat} {held : Option Int}

theorem allocated (entry : s.Entry thread held) : ∃ block, s.heap.find? thread = some block := by
  cases entry with
  | stranded block => exact ⟨_, block⟩
  | serving block => exact ⟨_, block⟩
  | closed block => exact ⟨_, block⟩
  | returned block => exact ⟨_, block⟩

/-- The handle in an entry is that of a thread started with this entry. -/
theorem worker (entry : s.Entry thread held) {pt : Nat} (stored : s.pt thread = some pt) :
    ∃ phase, s.workers.find? pt = some ⟨thread, phase⟩ := by
  cases entry with
  | stranded block =>
      rw [pt_of_heap block] at stored
      cases stored
  | serving block worker =>
      rw [pt_of_heap block] at stored
      exact ⟨_, Option.some.inj stored ▸ worker⟩
  | closed block worker =>
      rw [pt_of_heap block] at stored
      exact ⟨_, Option.some.inj stored ▸ worker⟩
  | returned block worker =>
      rw [pt_of_heap block] at stored
      exact ⟨_, Option.some.inj stored ▸ worker⟩

/-- An entry with a descriptor open is not finished. -/
theorem unfinished {fd : Int} (entry : s.Entry thread (some fd)) : s.finished thread = false := by
  cases entry with
  | stranded block => exact finished_of_heap block
  | serving block => exact finished_of_heap block

theorem returned_of_finished (entry : s.Entry thread held) (finished : s.finished thread = true) :
    ∃ pt, s.pt thread = some pt ∧ s.workers.find? pt = some ⟨thread, .returned⟩ := by
  cases entry with
  | stranded block =>
      rw [finished_of_heap block] at finished
      cases finished
  | serving block =>
      rw [finished_of_heap block] at finished
      cases finished
  | closed block =>
      rw [finished_of_heap block] at finished
      cases finished
  | returned block worker => exact ⟨_, pt_of_heap block, worker⟩

/-- An entry stands in one way only. -/
theorem unique {other : Option Int} (entry : s.Entry thread held) (entry' : s.Entry thread other) :
    held = other := by
  cases entry with
  | stranded block =>
      cases entry' with
      | stranded block' => simp_all
      | serving block' => simp_all
      | closed block' => simp_all
      | returned block' => simp_all
  | serving block worker =>
      cases entry' with
      | stranded block' => simp_all
      | serving block' => simp_all
      | closed block' worker' => simp_all
      | returned block' => simp_all
  | closed block worker =>
      cases entry' with
      | stranded block' => simp_all
      | serving block' worker' => simp_all
      | closed => rfl
      | returned => rfl
  | returned block worker =>
      cases entry' with
      | stranded block' => simp_all
      | serving block' => simp_all
      | closed => rfl
      | returned => rfl

end Entry

/-- The block and the thread of an entry are as before. -/
structure Untouched (s s' : Socks5Server) (thread : Nat) : Prop where
  block : s'.heap.find? thread = s.heap.find? thread
  worker : ∀ pt, s.pt thread = some pt → s'.workers.find? pt = s.workers.find? pt

namespace Untouched

variable {s s' : Socks5Server} {thread : Nat} {held : Option Int}

theorem pt (same : s.Untouched s' thread) : s'.pt thread = s.pt thread := by
  unfold Socks5Server.pt
  rw [same.block]

theorem symm (same : s.Untouched s' thread) : s'.Untouched s thread where
  block := same.block.symm
  worker := fun pt stored => (same.worker pt (same.pt ▸ stored)).symm

theorem entry (same : s.Untouched s' thread) (entry : s.Entry thread held) :
    s'.Entry thread held := by
  cases entry with
  | stranded here => exact .stranded (same.block.trans here)
  | serving here runs =>
      exact .serving (same.block.trans here) ((same.worker _ (pt_of_heap here)).trans runs)
  | closed here runs =>
      exact .closed (same.block.trans here) ((same.worker _ (pt_of_heap here)).trans runs)
  | returned here runs =>
      exact .returned (same.block.trans here) ((same.worker _ (pt_of_heap here)).trans runs)

theorem entry_iff (same : s.Untouched s' thread) : s'.Entry thread held ↔ s.Entry thread held :=
  ⟨same.symm.entry, same.entry⟩

end Untouched

/--
The entries are different and stand in one of the four ways, every thread was
started with an entry, and a descriptor is open exactly while one entry keeps it.
-/
structure Sound (s : Socks5Server) : Prop where
  distinct : s.m_threads.contents.Nodup
  entries : ∀ thread ∈ s.m_threads.contents, ∃ held, s.Entry thread held
  started : ∀ pt worker, s.workers.find? pt = some worker →
    worker.data ∈ s.m_threads.contents ∧ s.pt worker.data = some pt
  keeps : ∀ fd, fd ∈ s.descriptors ↔ ∃ thread ∈ s.m_threads.contents, s.Entry thread (some fd)
  single : ∀ thread ∈ s.m_threads.contents, ∀ other ∈ s.m_threads.contents, ∀ fd,
    s.Entry thread (some fd) → s.Entry other (some fd) → thread = other
  once : s.descriptors.Nodup

theorem fresh_sound : fresh.Sound where
  distinct := List.nodup_nil
  entries := fun _ member => absurd member List.not_mem_nil
  started := fun _ _ started => nomatch started
  keeps := fun _ => ⟨fun member => absurd member List.not_mem_nil,
    fun ⟨_, member, _⟩ => absurd member List.not_mem_nil⟩
  single := fun _ member => absurd member List.not_mem_nil
  once := List.nodup_nil

theorem Sound.collectable {s : Socks5Server} (sound : s.Sound) : s.Collectable where
  distinct := sound.distinct
  allocated := fun thread member => (sound.entries thread member).elim fun _ entry => entry.allocated
  joinable := fun thread member finished =>
    (sound.entries thread member).elim fun _ entry => entry.returned_of_finished finished

/-- No two entries have the same thread. -/
theorem Sound.own_thread {s : Socks5Server} (sound : s.Sound) {thread other pt : Nat}
    (member : thread ∈ s.m_threads.contents) (member' : other ∈ s.m_threads.contents)
    (stored : s.pt thread = some pt) (stored' : s.pt other = some pt) : thread = other := by
  obtain ⟨_, entry⟩ := sound.entries thread member
  obtain ⟨_, entry'⟩ := sound.entries other member'
  obtain ⟨phase, worker⟩ := entry.worker stored
  obtain ⟨phase', worker'⟩ := entry'.worker stored'
  exact congrArg Worker.data (Option.some.inj (worker.symm.trans worker'))

end Socks5Server

end Tun01
