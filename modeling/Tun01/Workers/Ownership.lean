import Tun01.Workers.Table

/-!
# Who owns an accepted client

Every step keeps the table sound; whether every entry has a worker depends on
`pthread_create` alone.
-/

namespace Tun01

namespace Socks5Server

variable {s s' : Socks5Server}

/-! ## Collecting -/

section Collect

variable {calls : List ReapCall}

theorem mem_survivors (collected : s.CollectedFrom [] s.m_threads.contents s' calls)
    {thread : Nat} : thread ∈ s'.m_threads.contents ↔
      thread ∈ s.m_threads.contents ∧ s.finished thread = false := by
  rw [collected.contents, List.nil_append, List.mem_filter]
  unfold unfinished
  rw [Bool.not_eq_true']

/-- An entry that is not finished keeps its block and its thread. -/
theorem survivor_same (sound : s.Sound)
    (collected : s.CollectedFrom [] s.m_threads.contents s' calls) {thread : Nat}
    (member : thread ∈ s.m_threads.contents) (runs : s.finished thread = false) :
    s.Untouched s' thread := by
  constructor
  · rw [collected.heap, if_neg]
    intro gone
    rw [(List.mem_filter.mp gone).2] at runs
    cases runs
  · intro pt stored
    rw [collected.workers, if_neg]
    intro joined
    obtain ⟨other, gone, handle⟩ := List.mem_map.mp joined
    obtain ⟨member', finished⟩ := List.mem_filter.mp gone
    rw [sound.own_thread member member' stored handle, finished] at runs
    cases runs

theorem Sound.collect (sound : s.Sound) (collects : s.collect = .ok (s', calls)) : s'.Sound := by
  obtain ⟨t, calls', ends, collected⟩ :=
    @collectFrom_spec s [] s.m_threads.contents sound.collectable rfl
  obtain ⟨rfl, rfl⟩ := Prod.mk.inj (Except.ok.inj (ends.symm.trans collects))
  constructor
  case distinct =>
    rw [collected.contents]
    exact sound.distinct.filter _
  case entries =>
    intro thread member
    obtain ⟨before, runs⟩ := (mem_survivors collected).mp member
    obtain ⟨held, entry⟩ := sound.entries thread before
    exact ⟨held, (survivor_same sound collected before runs).entry entry⟩
  case started =>
    intro pt worker found
    rw [collected.workers] at found
    split at found
    · cases found
    · rename_i kept
      obtain ⟨before, stored⟩ := sound.started pt worker found
      have runs : s.finished worker.data = false := by
        by_contra finished
        refine kept (List.mem_map.mpr ⟨worker.data, List.mem_filter.mpr ⟨before, ?_⟩, stored⟩)
        exact Bool.eq_true_of_not_eq_false finished
      exact ⟨(mem_survivors collected).mpr ⟨before, runs⟩,
        (survivor_same sound collected before runs).pt.trans stored⟩
  case keeps =>
    intro fd
    rw [collected.descriptors, sound.keeps]
    constructor
    · rintro ⟨thread, member, entry⟩
      exact ⟨thread, (mem_survivors collected).mpr ⟨member, entry.unfinished⟩,
        (survivor_same sound collected member entry.unfinished).entry entry⟩
    · rintro ⟨thread, member, entry⟩
      obtain ⟨before, runs⟩ := (mem_survivors collected).mp member
      exact ⟨thread, before, (survivor_same sound collected before runs).symm.entry entry⟩
  case single =>
    intro thread member other member' fd entry entry'
    obtain ⟨before, runs⟩ := (mem_survivors collected).mp member
    obtain ⟨before', runs'⟩ := (mem_survivors collected).mp member'
    exact sound.single thread before other before' fd
      ((survivor_same sound collected before runs).symm.entry entry)
      ((survivor_same sound collected before' runs').symm.entry entry')
  case once =>
    rw [collected.descriptors]
    exact sound.once

end Collect

/-! ## Admission -/

section Admit

variable {calls : Admission} {curr : Nat} {fd : Int}

/-- The entries that were there are not touched. -/
theorem Admitted.untouched (admitted : s.Admitted curr fd calls.pthread_create s')
    (sound : s.Sound) (offers : s.Offers calls) (absent : s.heap.find? curr = none)
    {thread : Nat} (member : thread ∈ s.m_threads.contents) : s.Untouched s' thread := by
  obtain ⟨held, entry⟩ := sound.entries thread member
  constructor
  case block =>
    rw [admitted.heap, if_neg]
    intro same
    obtain ⟨block, allocated⟩ := entry.allocated
    rw [← same, absent] at allocated
    cases allocated
  case worker =>
    intro pt stored
    rw [admitted.workers, if_neg]
    intro created
    obtain ⟨phase, worker⟩ := entry.worker stored
    rw [offers.handle pt created] at worker
    cases worker

/-- The new entry keeps the descriptor just accepted. -/
theorem Admitted.entry (admitted : s.Admitted curr fd calls.pthread_create s') :
    s'.Entry curr (some fd) := by
  have block := admitted.heap curr
  rw [if_pos rfl] at block
  cases created : calls.pthread_create with
  | none =>
      rw [created] at block
      exact .stranded block
  | some pt =>
      have worker := admitted.workers pt
      rw [if_pos created] at worker
      rw [created] at block
      exact .serving block worker

theorem Admitted.held (admitted : s.Admitted curr fd calls.pthread_create s') {other : Int}
    (entry : s'.Entry curr (some other)) : other = fd := by
  have block := admitted.heap curr
  rw [if_pos rfl] at block
  cases entry with
  | stranded here =>
      rw [here] at block
      exact Option.some.inj (congrArg Thread.client (Option.some.inj block))
  | serving here =>
      rw [here] at block
      exact Option.some.inj (congrArg Thread.client (Option.some.inj block))

theorem Sound.admitted (sound : s.Sound) (offers : s.Offers calls)
    (reaches : s.Reaches calls curr fd) (admitted : s.Admitted curr fd calls.pthread_create s') :
    s'.Sound := by
  have absent : s.heap.find? curr = none := by
    cases reaches with
    | intro allocated => exact offers.block curr allocated
  have unused : fd ∉ s.descriptors := by
    cases reaches with
    | intro _ accepted => exact offers.descriptor fd accepted
  have untouched := fun {thread} => @admitted.untouched _ _ _ _ _ sound offers absent thread
  have outside : curr ∉ s.m_threads.contents := by
    intro member
    obtain ⟨_, entry⟩ := sound.entries curr member
    obtain ⟨_, allocated⟩ := entry.allocated
    rw [absent] at allocated
    cases allocated
  constructor
  case distinct =>
    rw [admitted.contents]
    exact List.nodup_append.mpr ⟨sound.distinct, List.nodup_singleton _, by
      intro thread member other new same
      exact outside (List.mem_singleton.mp new ▸ same ▸ member)⟩
  case entries =>
    intro thread member
    rw [admitted.contents, List.mem_append, List.mem_singleton] at member
    rcases member with before | rfl
    · obtain ⟨held, entry⟩ := sound.entries thread before
      exact ⟨held, (untouched before).entry entry⟩
    · exact ⟨_, admitted.entry⟩
  case started =>
    intro pt worker found
    rw [admitted.workers] at found
    rw [admitted.contents, List.mem_append, List.mem_singleton]
    split at found
    · rename_i created
      rw [← Option.some.inj found]
      refine ⟨Or.inr rfl, ?_⟩
      unfold Socks5Server.pt
      rw [admitted.heap, if_pos rfl]
      exact created
    · obtain ⟨before, stored⟩ := sound.started pt worker found
      exact ⟨Or.inl before, (untouched before).pt.trans stored⟩
  case keeps =>
    intro other
    rw [admitted.descriptors, admitted.contents, List.mem_cons, sound.keeps]
    constructor
    · rintro (rfl | ⟨thread, member, entry⟩)
      · exact ⟨curr, List.mem_append_right _ (List.mem_singleton_self _), admitted.entry⟩
      · exact ⟨thread, List.mem_append_left _ member, (untouched member).entry entry⟩
    · rintro ⟨thread, member, entry⟩
      rcases List.mem_append.mp member with before | new
      · exact Or.inr ⟨thread, before, (untouched before).symm.entry entry⟩
      · rw [List.mem_singleton.mp new] at entry
        exact Or.inl (admitted.held entry)
  case single =>
    -- the new entry keeps a descriptor that no other entry keeps
    have apart : ∀ thread ∈ s.m_threads.contents, ¬ s'.Entry thread (some fd) := by
      intro thread before entry
      exact unused ((sound.keeps fd).mpr ⟨thread, before, (untouched before).symm.entry entry⟩)
    intro thread member other member' held entry entry'
    rw [admitted.contents, List.mem_append, List.mem_singleton] at member member'
    rcases member with before | rfl
    · rcases member' with before' | rfl
      · exact sound.single thread before other before' held ((untouched before).symm.entry entry)
          ((untouched before').symm.entry entry')
      · exact absurd (admitted.held entry' ▸ entry) (apart thread before)
    · rcases member' with before' | rfl
      · exact absurd (admitted.held entry ▸ entry') (apart other before')
      · rfl
  case once =>
    rw [admitted.descriptors]
    exact List.nodup_cons.mpr ⟨unused, sound.once⟩

theorem Sound.takeClient (sound : s.Sound) (offers : s.Offers calls) :
    (s.takeClient calls).Sound := by
  by_cases stops : ∀ curr fd, ¬ s.Reaches calls curr fd
  · rw [takeClient_rejected offers stops]
    exact sound
  · push Not at stops
    obtain ⟨curr, fd, reaches⟩ := stops
    exact sound.admitted offers reaches (takeClient_admitted reaches)

end Admit

/-! ## Workers that go on -/

/-- The worker of one entry has gone on, and keeps no descriptor open. -/
structure Moved (s : Socks5Server) (thread : Nat) (s' : Socks5Server) : Prop where
  contents : s'.m_threads.contents = s.m_threads.contents
  others : ∀ other ∈ s.m_threads.contents, other ≠ thread → s.Untouched s' other
  handle : s'.pt thread = s.pt thread
  workers : ∀ pt worker, s'.workers.find? pt = some worker →
    ∃ phase, s.workers.find? pt = some ⟨worker.data, phase⟩
  entry : s'.Entry thread none
  descriptors : ∀ fd, fd ∈ s'.descriptors ↔ fd ∈ s.descriptors ∧ ¬ s.Entry thread (some fd)
  once : s'.descriptors.Nodup

namespace Moved

variable {thread : Nat}

theorem entry_iff (moved : s.Moved thread s') {other : Nat}
    (member : other ∈ s.m_threads.contents) {fd : Int} :
    s'.Entry other (some fd) ↔ other ≠ thread ∧ s.Entry other (some fd) := by
  by_cases same : other = thread
  · subst same
    constructor
    · intro entry
      cases entry.unique moved.entry
    · rintro ⟨different, _⟩
      exact absurd rfl different
  · rw [(moved.others other member same).entry_iff]
    exact ⟨fun entry => ⟨same, entry⟩, And.right⟩

theorem pt (moved : s.Moved thread s') {other : Nat} (member : other ∈ s.m_threads.contents) :
    s'.pt other = s.pt other := by
  by_cases same : other = thread
  · rw [same, moved.handle]
  · exact (moved.others other member same).pt

theorem sound (moved : s.Moved thread s') (sound : s.Sound)
    (inside : thread ∈ s.m_threads.contents) : s'.Sound := by
  constructor
  case distinct =>
    rw [moved.contents]
    exact sound.distinct
  case entries =>
    intro other member
    rw [moved.contents] at member
    by_cases same : other = thread
    · exact ⟨none, same ▸ moved.entry⟩
    · obtain ⟨held, entry⟩ := sound.entries other member
      exact ⟨held, (moved.others other member same).entry entry⟩
  case started =>
    intro pt worker found
    obtain ⟨phase, before⟩ := moved.workers pt worker found
    obtain ⟨member, stored⟩ := sound.started pt _ before
    rw [moved.contents]
    exact ⟨member, (moved.pt member).trans stored⟩
  case keeps =>
    intro fd
    rw [moved.descriptors, sound.keeps, moved.contents]
    constructor
    · rintro ⟨⟨other, member, entry⟩, gone⟩
      refine ⟨other, member, (moved.entry_iff member).mpr ⟨?_, entry⟩⟩
      intro same
      exact gone (same ▸ entry)
    · rintro ⟨other, member, entry⟩
      obtain ⟨different, entry⟩ := (moved.entry_iff member).mp entry
      refine ⟨⟨other, member, entry⟩, ?_⟩
      intro own
      exact different (sound.single other member thread inside fd entry own)
  case single =>
    intro other member third member' fd entry entry'
    rw [moved.contents] at member member'
    exact sound.single other member third member' fd ((moved.entry_iff member).mp entry).2
      ((moved.entry_iff member').mp entry').2
  case once => exact moved.once

end Moved

section Worker

variable {pt : Nat} {worker : Worker} {block : Thread}

/-- A change of one worker's phase touches no other entry. -/
theorem Sound.untouched (sound : s.Sound) (running : s.workers.find? pt = some worker)
    (heap : ∀ other, other ≠ worker.data → s'.heap.find? other = s.heap.find? other)
    (workers : ∀ handle, handle ≠ pt → s'.workers.find? handle = s.workers.find? handle)
    {other : Nat} (member : other ∈ s.m_threads.contents) (different : other ≠ worker.data) :
    s.Untouched s' other := by
  obtain ⟨inside, stored⟩ := sound.started pt worker running
  refine ⟨heap other different, fun handle stored' => workers handle ?_⟩
  intro same
  rw [same] at stored'
  exact different (sound.own_thread member inside stored' stored)

/-- The block of a worker that serves its client. -/
theorem Sound.serving_block (sound : s.Sound) (running : s.workers.find? pt = some worker)
    (serving : worker.phase = .serving) : ∃ fd,
    s.heap.find? worker.data = some ⟨some pt, some fd, false⟩ ∧
      s.Entry worker.data (some fd) := by
  obtain ⟨inside, stored⟩ := sound.started pt worker running
  obtain ⟨held, entry⟩ := sound.entries _ inside
  have same := entry
  cases entry with
  | stranded here =>
      rw [pt_of_heap here] at stored
      cases stored
  | serving here =>
      rw [pt_of_heap here] at stored
      exact ⟨_, Option.some.inj stored ▸ here, same⟩
  | closed here runs =>
      rw [pt_of_heap here] at stored
      rw [Option.some.inj stored, running] at runs
      rw [Option.some.inj runs] at serving
      cases serving
  | returned here runs =>
      rw [pt_of_heap here] at stored
      rw [Option.some.inj stored, running] at runs
      rw [Option.some.inj runs] at serving
      cases serving

/-- The block of a worker that has closed its client. -/
theorem Sound.closed_block (sound : s.Sound) (running : s.workers.find? pt = some worker)
    (closed : worker.phase = .closed) : ∃ fd,
    s.heap.find? worker.data = some ⟨some pt, some fd, false⟩ ∧ s.Entry worker.data none := by
  obtain ⟨inside, stored⟩ := sound.started pt worker running
  obtain ⟨held, entry⟩ := sound.entries _ inside
  have same := entry
  cases entry with
  | stranded here =>
      rw [pt_of_heap here] at stored
      cases stored
  | serving here runs =>
      rw [pt_of_heap here] at stored
      rw [Option.some.inj stored, running] at runs
      rw [Option.some.inj runs] at closed
      cases closed
  | closed here =>
      rw [pt_of_heap here] at stored
      exact ⟨_, Option.some.inj stored ▸ here, same⟩
  | returned here runs =>
      rw [pt_of_heap here] at stored
      rw [Option.some.inj stored, running] at runs
      rw [Option.some.inj runs] at closed
      cases closed

theorem Sound.closeClient_moved (sound : s.Sound) (running : s.workers.find? pt = some worker)
    {fd : Int} (entry : s.Entry worker.data (some fd))
    (here : s.heap.find? worker.data = some ⟨some pt, some fd, false⟩) :
    s.Moved worker.data (s.closeClient pt worker fd) where
  contents := rfl
  others := by
    intro other member different
    refine sound.untouched running ?_ ?_ member different
    · exact fun _ _ => rfl
    · exact fun _ apart => OrderedMap.find?_insert_of_ne _ _ apart.symm
  handle := rfl
  workers := by
    intro handle other found
    change (s.workers.insert pt _).find? handle = some other at found
    rw [OrderedMap.find?_insert] at found
    split at found
    · rename_i same
      rw [← same, running, ← Option.some.inj found]
      exact ⟨worker.phase, rfl⟩
    · exact ⟨other.phase, found⟩
  entry := .closed here (OrderedMap.find?_insert_self _ _ _)
  descriptors := by
    intro other
    change other ∈ s.descriptors.erase fd ↔ _
    rw [sound.once.mem_erase_iff, and_comm]
    refine and_congr_right fun _ => not_congr ?_
    constructor
    · rintro rfl
      exact entry
    · intro entry'
      exact (Option.some.inj (entry.unique entry')).symm
  once := sound.once.erase fd

theorem Sound.finish_moved (sound : s.Sound) (running : s.workers.find? pt = some worker)
    {fd : Int} (entry : s.Entry worker.data none)
    (here : s.heap.find? worker.data = some ⟨some pt, some fd, false⟩) :
    s.Moved worker.data (s.finish pt worker) where
  contents := rfl
  others := by
    intro other member different
    refine sound.untouched running ?_ ?_ member different
    · exact fun _ apart => OrderedMap.find?_modify_of_ne _ _ apart.symm
    · exact fun _ apart => OrderedMap.find?_insert_of_ne _ _ apart.symm
  handle := by
    change ((s.heap.modify worker.data _).find? worker.data).bind Thread.pt = _
    rw [OrderedMap.find?_modify_self, here, pt_of_heap here]
    rfl
  workers := by
    intro handle other found
    change (s.workers.insert pt _).find? handle = some other at found
    rw [OrderedMap.find?_insert] at found
    split at found
    · rename_i same
      rw [← same, running, ← Option.some.inj found]
      exact ⟨worker.phase, rfl⟩
    · exact ⟨other.phase, found⟩
  entry := by
    have block : (s.finish pt worker).heap.find? worker.data =
        some ⟨some pt, some fd, true⟩ := by
      change (s.heap.modify worker.data _).find? worker.data = _
      rw [OrderedMap.find?_modify_self, here]
      rfl
    exact .returned block (OrderedMap.find?_insert_self _ _ _)
  descriptors := by
    intro other
    constructor
    · intro opened
      refine ⟨opened, fun entry' => ?_⟩
      cases entry.unique entry'
    · exact And.left
  once := sound.once

end Worker

/-- Every entry has a thread. -/
def Manned (s : Socks5Server) : Prop := ∀ thread ∈ s.m_threads.contents, s.pt thread ≠ none

theorem Moved.manned {thread : Nat} (moved : s.Moved thread s') (manned : s.Manned) :
    s'.Manned := by
  intro other member
  rw [moved.contents] at member
  rw [moved.pt member]
  exact manned other member

/-- A client that got into the list has a thread unless `pthread_create` failed. -/
theorem takeClient_manned_iff {calls : Admission} {curr : Nat} {fd : Int} (sound : s.Sound)
    (offers : s.Offers calls) (reaches : s.Reaches calls curr fd) (manned : s.Manned) :
    (s.takeClient calls).Manned ↔ calls.pthread_create ≠ none := by
  have admitted := takeClient_admitted reaches
  have absent : s.heap.find? curr = none := by
    cases reaches with
    | intro allocated => exact offers.block curr allocated
  have new : (s.takeClient calls).pt curr = calls.pthread_create := by
    unfold Socks5Server.pt
    rw [admitted.heap, if_pos rfl]
    rfl
  constructor
  · intro all
    rw [← new]
    refine all curr ?_
    rw [admitted.contents]
    exact List.mem_append_right _ (List.mem_singleton_self _)
  · intro created thread member
    rw [admitted.contents] at member
    rcases List.mem_append.mp member with before | here
    · rw [(admitted.untouched sound offers absent before).pt]
      exact manned thread before
    · rw [List.mem_singleton.mp here, new]
      exact created

/-- A thread with this handle, started with an entry of the list, still serves the client. -/
def Serves (s : Socks5Server) (pt : Nat) (fd : Int) : Prop :=
  ∃ worker block, s.workers.find? pt = some worker ∧ worker.phase = .serving ∧
    worker.data ∈ s.m_threads.contents ∧ s.heap.find? worker.data = some block ∧
    block.client = some fd

namespace Table

/-- The call of `pthread_create` fails, after everything before it succeeded. -/
def Strands (t : Table) : Event → Prop
  | .client calls => calls.pthread_create = none ∧ ∃ curr fd, t.server.Reaches calls curr fd
  | _ => False

variable {t u : Table} {event : Event} {events : List Event}

/-- A step of a worker moves the entry it was started with. -/
theorem Step.moved {pt : Nat} (step : Step t event u) (own : event = .close pt ∨ event = .finish pt)
    (sound : t.server.Sound) : ∃ thread ∈ t.server.m_threads.contents,
    t.server.Moved thread u.server := by
  cases step with
  | collect => rcases own with own | own <;> cases own
  | client => rcases own with own | own <;> cases own
  | close running serving block client =>
      obtain ⟨fd, here, entry⟩ := sound.serving_block running serving
      rw [here] at block
      have same := congrArg Thread.client (Option.some.inj block)
      rw [client] at same
      have moved := sound.closeClient_moved running entry here
      rw [Option.some.inj same] at moved
      exact ⟨_, (sound.started _ _ running).1, moved⟩
  | finish running closed =>
      obtain ⟨fd, here, entry⟩ := sound.closed_block running closed
      exact ⟨_, (sound.started _ _ running).1, sound.finish_moved running entry here⟩

theorem Step.sound (step : Step t event u) (sound : t.server.Sound) : u.server.Sound := by
  cases event with
  | collect =>
      cases step with
      | collect collects => exact sound.collect collects
  | client calls =>
      cases step with
      | client offers => exact sound.takeClient offers
  | close pt =>
      obtain ⟨thread, inside, moved⟩ := step.moved (Or.inl rfl) sound
      exact moved.sound sound inside
  | finish pt =>
      obtain ⟨thread, inside, moved⟩ := step.moved (Or.inr rfl) sound
      exact moved.sound sound inside

/-- In every run the table stays sound, whatever fails. -/
theorem run_sound (run : Run Step fresh events t) : t.server.Sound := by
  induction run with
  | nil => exact fresh_sound
  | snoc _ last ih => exact last.sound ih

/-- A step leaves every entry with a thread unless `pthread_create` fails in it. -/
theorem Step.manned_iff (step : Step t event u) (sound : t.server.Sound)
    (manned : t.server.Manned) : u.server.Manned ↔ ¬ Strands t event := by
  cases event with
  | collect =>
      cases step with
      | @collect s s' calls collects =>
          refine ⟨fun _ strands => strands.elim, fun _ => ?_⟩
          obtain ⟨survivor, calls', ends, collected⟩ :=
            @collectFrom_spec s [] s.m_threads.contents sound.collectable rfl
          obtain ⟨rfl, rfl⟩ := Prod.mk.inj (Except.ok.inj (ends.symm.trans collects))
          intro thread member
          obtain ⟨before, runs⟩ := (mem_survivors collected).mp member
          rw [(survivor_same sound collected before runs).pt]
          exact manned thread before
  | client calls =>
      cases step with
      | @client s calls offers =>
          by_cases stops : ∀ curr fd, ¬ s.Reaches calls curr fd
          · rw [takeClient_rejected offers stops]
            refine ⟨?_, fun _ => manned⟩
            rintro _ ⟨_, curr, fd, reaches⟩
            exact stops curr fd reaches
          · push Not at stops
            obtain ⟨curr, fd, reaches⟩ := stops
            rw [takeClient_manned_iff sound offers reaches manned]
            exact ⟨fun created strands => created strands.1,
              fun free fails => free ⟨fails, curr, fd, reaches⟩⟩
  | close pt =>
      obtain ⟨thread, _, moved⟩ := step.moved (Or.inl rfl) sound
      exact ⟨fun _ strands => strands.elim, fun _ => moved.manned manned⟩
  | finish pt =>
      obtain ⟨thread, _, moved⟩ := step.moved (Or.inr rfl) sound
      exact ⟨fun _ strands => strands.elim, fun _ => moved.manned manned⟩

/-! ## Every worker comes to an end -/

/-- Workers alone lead from one sound table to another, and no finished entry is lost. -/
structure Leads (collected : Bool) (s s' : Socks5Server) : Prop where
  run : ∃ events, Run Step ⟨s, collected⟩ events ⟨s', collected⟩
  contents : s'.m_threads.contents = s.m_threads.contents
  sound : s'.Sound
  manned : s'.Manned
  kept : ∀ thread ∈ s.m_threads.contents, s.finished thread = true → s'.finished thread = true

namespace Leads

variable {collected : Bool} {s s' s'' : Socks5Server}

theorem refl (sound : s.Sound) (manned : s.Manned) : Leads collected s s :=
  ⟨⟨[], .nil⟩, rfl, sound, manned, fun _ _ finished => finished⟩

theorem trans (first : Leads collected s s') (second : Leads collected s' s'') :
    Leads collected s s'' where
  run := by
    obtain ⟨events, run⟩ := first.run
    obtain ⟨more, later⟩ := second.run
    exact ⟨events ++ more, run.append later⟩
  contents := second.contents.trans first.contents
  sound := second.sound
  manned := second.manned
  kept := fun thread member finished =>
    second.kept thread (first.contents ▸ member) (first.kept thread member finished)

/-- One step of a worker whose entry was not finished. -/
theorem moved {event : Event} {thread : Nat} (step : Step ⟨s, collected⟩ event ⟨s', collected⟩)
    (sound : s.Sound) (manned : s.Manned) (moved : s.Moved thread s')
    (unfinished : s.finished thread = false) : Leads collected s s' where
  run := ⟨_, .single step⟩
  contents := moved.contents
  sound := step.sound sound
  manned := moved.manned manned
  kept := by
    intro other member finished
    have different : other ≠ thread := by
      rintro rfl
      rw [unfinished] at finished
      cases finished
    have block := (moved.others other member different).block
    unfold Socks5Server.finished at finished ⊢
    rw [block]
    exact finished

end Leads

variable {collected : Bool} {s : Socks5Server}

/-- A worker that has closed its client sets the flag of its entry. -/
theorem closed_leads {thread pt : Nat} {fd : Int} (sound : s.Sound) (manned : s.Manned)
    (here : s.heap.find? thread = some ⟨some pt, some fd, false⟩)
    (running : s.workers.find? pt = some ⟨thread, .closed⟩) :
    ∃ s', Leads collected s s' ∧ s'.finished thread = true := by
  have entry : s.Entry thread none := .closed here running
  have moved := sound.finish_moved running entry here
  refine ⟨s.finish pt ⟨thread, .closed⟩,
    .moved (.finish running rfl here) sound manned moved (finished_of_heap here), ?_⟩
  have block : (s.finish pt ⟨thread, .closed⟩).heap.find? thread =
      some ⟨some pt, some fd, true⟩ := by
    change (s.heap.modify thread _).find? thread = _
    rw [OrderedMap.find?_modify_self, here]
    rfl
  exact finished_of_heap block

/-- The worker of any entry goes on until the flag of the entry is set. -/
theorem entry_leads (sound : s.Sound) (manned : s.Manned) {thread : Nat}
    (member : thread ∈ s.m_threads.contents) :
    ∃ s', Leads collected s s' ∧ s'.finished thread = true := by
  obtain ⟨held, entry⟩ := sound.entries thread member
  have same := entry
  cases entry with
  | stranded here => exact absurd (pt_of_heap here) (manned thread member)
  | @serving pt fd here running =>
      have moved := sound.closeClient_moved running same here
      have first : Leads collected s (s.closeClient pt ⟨thread, .serving⟩ fd) :=
        .moved (.close running rfl here rfl) sound manned moved (finished_of_heap here)
      obtain ⟨s', second, finished⟩ := closed_leads first.sound first.manned
        (show (s.closeClient pt ⟨thread, .serving⟩ fd).heap.find? thread = _ from here)
        (OrderedMap.find?_insert_self _ _ _)
      exact ⟨s', first.trans second, finished⟩
  | closed here running => exact closed_leads sound manned here running
  | returned here => exact ⟨s, .refl sound manned, finished_of_heap here⟩

theorem entries_lead {threads : List Nat} (sound : s.Sound) (manned : s.Manned)
    (members : ∀ thread ∈ threads, thread ∈ s.m_threads.contents) :
    ∃ s', Leads collected s s' ∧ ∀ thread ∈ threads, s'.finished thread = true := by
  induction threads with
  | nil => exact ⟨s, .refl sound manned, fun _ member => absurd member List.not_mem_nil⟩
  | cons thread rest ih =>
      obtain ⟨here, later⟩ := List.forall_mem_cons.mp members
      obtain ⟨s', first, done⟩ := ih later
      have member : thread ∈ s'.m_threads.contents := first.contents ▸ here
      obtain ⟨s'', second, finished⟩ := entry_leads first.sound first.manned member
      refine ⟨s'', first.trans second, List.forall_mem_cons.mpr ⟨finished, ?_⟩⟩
      intro other member'
      exact second.kept other (first.contents ▸ later other member') (done other member')

/-- Once all workers have come to an end, one `collect` empties the list. -/
theorem collect_empties (sound : s.Sound) (manned : s.Manned) :
    ∃ events u, Run Step ⟨s, false⟩ events u ∧ u.server.m_threads.contents = [] := by
  obtain ⟨s', leads, finished⟩ :=
    @entries_lead false s s.m_threads.contents sound manned fun _ member => member
  obtain ⟨events, run⟩ := leads.run
  obtain ⟨u, calls, ends, reaped⟩ :=
    @collectFrom_spec s' [] s'.m_threads.contents leads.sound.collectable rfl
  refine ⟨_, ⟨u, true⟩, run.snoc (.collect ends), ?_⟩
  rw [reaped.contents, List.nil_append]
  refine List.filter_eq_nil_iff.mpr fun thread member unfinished => ?_
  rw [Socks5Server.unfinished, finished thread (leads.contents ▸ member)] at unfinished
  cases unfinished

/--
Every entry belongs to a thread started and not joined, every open client to
exactly one such thread, and `collect` can still empty the list.
-/
structure Owned (t : Table) : Prop where
  entry : ∀ thread ∈ t.server.m_threads.contents, ∃ pt phase,
    t.server.pt thread = some pt ∧ t.server.workers.find? pt = some ⟨thread, phase⟩
  client : ∀ fd ∈ t.server.descriptors, ∃! pt, t.server.Serves pt fd
  empties : ∃ events u, Run Step t events u ∧ u.server.m_threads.contents = []

theorem Owned.manned {t : Table} (owned : t.Owned) : t.server.Manned := by
  intro thread member none
  obtain ⟨pt, phase, stored, _⟩ := owned.entry thread member
  rw [stored] at none
  cases none

/-- The thread that serves a client was started with the entry that keeps it open. -/
theorem serves_entry (sound : s.Sound) {pt : Nat} {fd : Int} (serves : s.Serves pt fd) :
    ∃ thread ∈ s.m_threads.contents, s.pt thread = some pt ∧ s.Entry thread (some fd) := by
  obtain ⟨worker, block, running, serving, inside, here, client⟩ := serves
  obtain ⟨fd', here', entry⟩ := sound.serving_block running serving
  rw [here'] at here
  have same := congrArg Thread.client (Option.some.inj here)
  rw [client] at same
  exact ⟨worker.data, inside, (sound.started pt worker running).2, Option.some.inj same ▸ entry⟩

theorem served_once (sound : s.Sound) (manned : s.Manned) {fd : Int} (opened : fd ∈ s.descriptors) :
    ∃! pt, s.Serves pt fd := by
  obtain ⟨thread, member, entry⟩ := (sound.keeps fd).mp opened
  have kept := entry
  cases entry with
  | stranded here => exact absurd (pt_of_heap here) (manned thread member)
  | @serving pt _ here running =>
      refine ⟨pt, ⟨_, _, running, rfl, member, here, rfl⟩, ?_⟩
      intro other serves
      obtain ⟨thread', member', stored, entry'⟩ := serves_entry sound serves
      rw [sound.single thread' member' thread member fd entry' kept, pt_of_heap here] at stored
      exact (Option.some.inj stored).symm

theorem owned_of_manned {t : Table} (sound : t.server.Sound) (manned : t.server.Manned) :
    t.Owned where
  entry := by
    intro thread member
    obtain ⟨held, entry⟩ := sound.entries thread member
    obtain ⟨pt, stored⟩ := Option.ne_none_iff_exists'.mp (manned thread member)
    obtain ⟨phase, worker⟩ := entry.worker stored
    exact ⟨pt, phase, stored, worker⟩
  client := fun fd opened => served_once sound manned opened
  empties := by
    obtain ⟨s, collected⟩ := t
    cases collected with
    | false => exact collect_empties sound manned
    | true =>
        -- the call of `polled` under way ends first, with no memory for another client
        have offers : s.Offers ⟨none, .fail (.other 0), false, none⟩ :=
          ⟨nofun, nofun, nofun⟩
        obtain ⟨events, u, run, empty⟩ := collect_empties sound manned
        exact ⟨_, u, .cons (.client offers) run, empty⟩

/--
The workers own every entry and every client at each point of a run exactly
when no `pthread_create` of the run fails.
-/
theorem run_owned_iff (events : List Event) (t : Table) :
    Run (fun t event u => Step t event u ∧ u.Owned) fresh events t ↔
      Run (fun t event u => Step t event u ∧ ¬ Strands t event) fresh events t := by
  constructor
  · intro run
    induction run with
    | nil => exact .nil
    | @snoc _ t u _ before last ih =>
        have sound := run_sound (before.mono And.left)
        have manned : t.server.Manned := by
          cases before with
          | nil => exact fun _ member => absurd member List.not_mem_nil
          | snoc _ earlier => exact earlier.2.manned
        exact ih.snoc ⟨last.1, (last.1.manned_iff sound manned).mp last.2.manned⟩
  · intro run
    have holds : t.server.Manned ∧
        Run (fun t event u => Step t event u ∧ u.Owned) fresh events t := by
      induction run with
      | nil => exact ⟨fun _ member => absurd member List.not_mem_nil, .nil⟩
      | snoc before last ih =>
          have sound := run_sound (before.mono And.left)
          have manned := (last.1.manned_iff sound ih.1).mpr last.2
          exact ⟨manned, ih.2.snoc ⟨last.1, owned_of_manned (last.1.sound sound) manned⟩⟩
    exact holds.2

/-- A client is accepted and put into the list, then `pthread_create` fails. -/
theorem not_run_owned : ¬ ∀ events t, Run Step fresh events t → t.Owned := by
  intro owned
  have collects : Step fresh .collect ⟨Socks5Server.fresh, true⟩ :=
    .collect (collectFrom_end (Nat.le_refl 0))
  have offers : Socks5Server.fresh.Offers ⟨some 100, .ok 7, true, none⟩ :=
    ⟨fun _ _ => rfl, fun _ _ => List.not_mem_nil, nofun⟩
  have manned := (owned _ _ (.cons collects (.single (.client offers)))).manned
  exact manned 100 List.mem_cons_self rfl

end Table

end Socks5Server

end Tun01
