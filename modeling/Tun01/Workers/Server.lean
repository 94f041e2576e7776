import Tun01.Lib.OrderedMap
import Tun01.Net.Base
import Tun01.Workers.Sblist

/-!
# The socks5 server

The list of workers that `polled` keeps: `collect` takes the finished ones out,
the rest of `polled` accepts one client and starts a worker for it.  Blocks of
the allocator and threads are numbered by their addresses and handles.
-/

namespace Tun01

/-- How far `socks5_clientthread` has come with its client. -/
inductive WorkerPhase where
  /-- before `close(t->client.fd)` -/
  | serving
  /-- before `t->done = 1` -/
  | closed
  | returned
  deriving DecidableEq, Repr

/-- A thread that was started and not joined: the argument it was started with. -/
structure Worker where
  data : Nat
  phase : WorkerPhase
  deriving DecidableEq, Repr

/-- `struct thread`; `none` is a field that was not stored to. -/
structure Thread where
  pt : Option Nat
  client : Option Int
  done : Bool
  deriving DecidableEq, Repr

/-- The calls `collect` makes for an entry. -/
inductive ReapCall where
  | pthread_join (pt : Option Nat)
  | free (thread : Nat)
  deriving DecidableEq, Repr

structure Socks5Server where
  m_threads : Sblist Nat
  /-- the allocated thread records -/
  heap : OrderedMap Nat Thread
  /-- by the handle of the thread -/
  workers : OrderedMap Nat Worker
  /-- the accepted descriptors that are open -/
  descriptors : List Int

namespace Socks5Server

/-- `Socks5Server()` -/
def fresh : Socks5Server where
  m_threads := .new 8 (by decide)
  heap := .empty
  workers := .empty
  descriptors := []

/-! ## Collecting -/

/-- `pthread_join`: the threads left.  It would wait for a thread that still runs. -/
def pthread_join (s : Socks5Server) (pt : Option Nat) : Except Fault (OrderedMap Nat Worker) :=
  match pt with
  | none => .error (.undefinedBehaviour "join of an indeterminate handle")
  | some pt =>
      match s.workers.find? pt with
      | none => .error (.undefinedBehaviour "join of no thread")
      | some worker =>
          if worker.phase = .returned then .ok (s.workers.erase pt)
          else .error (.undefinedBehaviour "join of a running thread")

/-- The entry at an index has been joined: take it out of the list and free it. -/
def reap (s : Socks5Server) (i : Nat) (thread : Nat) (workers : OrderedMap Nat Worker) :
    Socks5Server :=
  { s with
    m_threads := s.m_threads.delete i
    heap := s.heap.erase thread
    workers := workers }

/-- The loop of `collect` from an index, with the calls it makes. -/
def collectFrom (s : Socks5Server) (i : Nat) : Except Fault (Socks5Server × List ReapCall) :=
  if _inside : i < s.m_threads.count then
    match s.m_threads.get i with
    | none => .error (.undefinedBehaviour "null pointer")
    | some thread =>
        match s.heap.find? thread with
        | none => .error (.undefinedBehaviour "use after free")
        | some block =>
            if block.done then do
              let workers ← s.pthread_join block.pt
              let (s', calls) ← collectFrom (s.reap i thread workers) i
              .ok (s', .pthread_join block.pt :: .free thread :: calls)
            else collectFrom s (i + 1)
  else .ok (s, [])
termination_by s.m_threads.count - i
decreasing_by
  · change (s.m_threads.delete i).count - i < s.m_threads.count - i
    rw [Sblist.delete_count _inside]
    omega
  · omega

/-- `Socks5Server::collect` -/
def collect (s : Socks5Server) : Except Fault (Socks5Server × List ReapCall) := s.collectFrom 0

theorem collectFrom_end {s : Socks5Server} {i : Nat} (past : s.m_threads.count ≤ i) :
    s.collectFrom i = .ok (s, []) := by
  rw [collectFrom, dif_neg (Nat.not_lt.mpr past)]

theorem collectFrom_unfinished {s : Socks5Server} {i thread : Nat} {block : Thread}
    (here : s.m_threads.get i = some thread) (allocated : s.heap.find? thread = some block)
    (runs : block.done = false) : s.collectFrom i = s.collectFrom (i + 1) := by
  have inside : i < s.m_threads.count := by
    by_contra past
    rw [Sblist.get, if_neg past] at here
    cases here
  rw [collectFrom, dif_pos inside, here]
  dsimp only
  rw [allocated]
  dsimp only
  rw [runs, if_neg Bool.false_ne_true]

theorem collectFrom_finished {s : Socks5Server} {i thread : Nat} {block : Thread}
    {workers : OrderedMap Nat Worker} (here : s.m_threads.get i = some thread)
    (allocated : s.heap.find? thread = some block) (finished : block.done = true)
    (joins : s.pthread_join block.pt = .ok workers) :
    s.collectFrom i = ((s.reap i thread workers).collectFrom i).map fun result =>
      (result.1, .pthread_join block.pt :: .free thread :: result.2) := by
  have inside : i < s.m_threads.count := by
    by_contra past
    rw [Sblist.get, if_neg past] at here
    cases here
  rw [collectFrom, dif_pos inside, here]
  dsimp only
  rw [allocated]
  dsimp only
  rw [finished, if_pos rfl, joins, ok_bind]
  cases (s.reap i thread workers).collectFrom i <;> rfl

/-! ## Admitting a client -/

/-- What the calls that `polled` makes for a client come to. -/
structure Admission where
  /-- the address of the block, unless memory is exhausted -/
  malloc : Option Nat
  accept : SysResult Int
  /-- whether `realloc` finds room, when the list has to grow -/
  realloc : Bool
  /-- the handle of the new thread, unless `pthread_create` fails -/
  pthread_create : Option Nat

/-- A block just allocated, with `curr->done = 0`. -/
def allocate (s : Socks5Server) (curr : Nat) : Socks5Server :=
  { s with heap := s.heap.insert curr ⟨none, none, false⟩ }

def free (s : Socks5Server) (curr : Nat) : Socks5Server :=
  { s with heap := s.heap.erase curr }

/-- `curr->client = c`, with the descriptor just accepted. -/
def accepted (s : Socks5Server) (curr : Nat) (fd : Int) : Socks5Server :=
  { s with
    heap := s.heap.modify curr fun block => { block with client := some fd }
    descriptors := fd :: s.descriptors }

def close (s : Socks5Server) (fd : Int) : Socks5Server :=
  { s with descriptors := s.descriptors.erase fd }

/-- `pthread_create(&curr->pt, a, socks5_clientthread, curr)`, when it succeeds. -/
def create (s : Socks5Server) (curr pt : Nat) : Socks5Server :=
  { s with
    heap := s.heap.modify curr fun block => { block with pt := some pt }
    workers := s.workers.insert pt ⟨curr, .serving⟩ }

/-- `Socks5Server::polled` after `collect()` -/
def takeClient (s : Socks5Server) (calls : Admission) : Socks5Server :=
  match calls.malloc with
  | none => s
  | some curr =>
      let s := s.allocate curr
      match calls.accept with
      | .fail _ => s.free curr
      | .ok fd =>
          let s := s.accepted curr fd
          match s.m_threads.add calls.realloc curr with
          | none => (s.close fd).free curr
          | some m_threads =>
              let s := { s with m_threads := m_threads }
              match calls.pthread_create with
              -- only a message, which is commented out
              | none => s
              | some pt => s.create curr pt

/-! ## The workers -/

/-- `close(t->client.fd)` at the end of `socks5_clientthread` -/
def closeClient (s : Socks5Server) (pt : Nat) (worker : Worker) (fd : Int) : Socks5Server :=
  { s.close fd with workers := s.workers.insert pt { worker with phase := .closed } }

/-- `t->done = 1; return 0;` -/
def finish (s : Socks5Server) (pt : Nat) (worker : Worker) : Socks5Server :=
  { s with
    heap := s.heap.modify worker.data fun block => { block with done := true }
    workers := s.workers.insert pt { worker with phase := .returned } }

end Socks5Server

end Tun01
