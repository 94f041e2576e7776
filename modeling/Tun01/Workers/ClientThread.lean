import Mathlib.Logic.Relation
import Tun01.Workers.Dialogue
import Tun01.Workers.Relay
import Tun01.Workers.Table

/-!
# The thread of a client

`socks5_clientthread` is the dialogue, the copying, and the descriptors they
leave to close.  Seen from the list of workers it is a worker.
-/

namespace Tun01

open Relation (ReflTransGen)
open Dialogue ErrorCode Request
open Socks5Server (Table)

/-- The calls of a thread that make or end a descriptor. -/
inductive DescriptorCall where
  | socket (fd : Int)
  | close (fd : Int)
  deriving DecidableEq, Repr

def DescriptorCall.apply (opened : List Int) : DescriptorCall → List Int
  | socket fd => fd :: opened
  | close fd => opened.erase fd

/-- Only open descriptors are closed. -/
def Careful (opened : List Int) : List DescriptorCall → Prop
  | [] => True
  | call :: calls => (∀ fd, call = .close fd → fd ∈ opened) ∧ Careful (call.apply opened) calls

theorem careful_append {opened : List Int} {calls more : List DescriptorCall} :
    Careful opened (calls ++ more) ↔
      Careful opened calls ∧ Careful (calls.foldl DescriptorCall.apply opened) more := by
  induction calls generalizing opened with
  | nil => exact (iff_of_eq (true_and _)).symm
  | cons call calls ih => exact (and_congr_right fun _ => ih).trans and_assoc.symm

theorem careful_close {opened : List Int} {fd : Int} (held : fd ∈ opened) :
    Careful opened [.close fd] := by
  refine ⟨?_, trivial⟩
  rintro _ ⟨rfl⟩
  exact held

theorem careful_socket (opened : List Int) (fd : Int) : Careful opened [.socket fd] :=
  ⟨fun _ no => (by cases no), trivial⟩

/-! ## The code -/

/-- `connect_socks_target` from the call of `socket` on. -/
def connectCalls (net : Network) (remote : Addrinfo) : List DescriptorCall :=
  match net.socket remote.ai_family with
  | .fail _ => []
  | .ok fd =>
      match net.connect fd remote.ai_addr with
      | .fail _ => [.socket fd, .close fd]
      | .ok _ => [.socket fd]

/-- `connect_socks_target` from the call of `resolve` on. -/
def dialCalls (net : Network) (target : List Byte × Nat) : List DescriptorCall :=
  match net.resolve target.1 target.2 with
  | none => []
  | some remote => connectCalls net remote

/-- An accepted client, and what the thread that serves it finds. -/
structure Client where
  fd : Int
  net : Network
  writes : Nat → SysResult Nat
  buf : List Byte
  namebuf : List Byte
  pieces : List Piece
  textual : net.Textual
  size : buf.length = 1024
  room : namebuf.length = 256
  /-- a new socket is not the descriptor of the client, which is open -/
  fresh : ∀ family fd', net.socket family = .ok fd' → 0 ≤ fd' ∧ fd' ≠ fd

namespace Client

def dialogue (c : Client) : Dialogue :=
  socks5_handshake c.net c.writes c.buf c.namebuf c.pieces

/-- The calls of `socks5_handshake`. -/
def obtained (c : Client) : List DescriptorCall := c.dialogue.resolved.flatMap (dialCalls c.net)

end Client

/-- Where `socks5_clientthread` is. -/
inductive Stage where
  | handshaking
  | copying (remotefd : Int)
  /-- before `close(remotefd)` -/
  | copied (remotefd : Int)
  /-- before `close(t->client.fd)` -/
  | served
  /-- before `t->done = 1` -/
  | closed
  | returned
  deriving DecidableEq, Repr

/-- The target, from the end of the dialogue to `close(remotefd)`. -/
def Stage.remotefd? : Stage → Option Int
  | copying remotefd | copied remotefd => some remotefd
  | handshaking | served | closed | returned => none

def Stage.phase : Stage → WorkerPhase
  | handshaking | copying _ | copied _ | served => .serving
  | closed => .closed
  | returned => .returned

structure ClientThread where
  stage : Stage
  loop : CopyLoop
  calls : List DescriptorCall
  done : Bool

namespace ClientThread

def start : ClientThread := ⟨.handshaking, .start, [], false⟩

/-- `int remotefd = socks5_handshake(t); if (remotefd != -1)` -/
def handshake (c : Client) (t : ClientThread) : ClientThread :=
  { t with
    stage := if c.dialogue.ret ≠ -1 then .copying c.dialogue.ret else .served
    calls := t.calls ++ c.obtained }

inductive Step (c : Client) (t : ClientThread) : ClientThread → Prop where
  | handshake (here : t.stage = .handshaking) : Step c t (t.handshake c)
  | copy {remotefd : Int} {call : CopyCall} {loop : CopyLoop} (here : t.stage = .copying remotefd)
      (step : CopyLoop.Step t.loop call loop) : Step c t { t with loop := loop }
  | leave {remotefd : Int} {exit : Exit} (here : t.stage = .copying remotefd)
      (ended : t.loop.point = .returned exit) : Step c t { t with stage := .copied remotefd }
  | closeRemote {remotefd : Int} (here : t.stage = .copied remotefd) :
      Step c t { t with stage := .served, calls := t.calls ++ [.close remotefd] }
  | closeClient (here : t.stage = .served) :
      Step c t { t with stage := .closed, calls := t.calls ++ [.close c.fd] }
  | finish (here : t.stage = .closed) : Step c t { t with stage := .returned, done := true }

end ClientThread

/-! ## The target -/

/-- A connection is refused with a code, and its socket is closed. -/
theorem eval_errno_returned (errno : Errno) : (eval_errno errno).returned < 0 := by
  unfold eval_errno
  split_ifs <;> decide

/-- The socket of a target is left open exactly when it is connected. -/
theorem dial_cases (net : Network) (target : List Byte × Nat) :
    (net.dial target.1 target.2 < 0 ∧
      ∀ opened, Careful opened (dialCalls net target) ∧
        (dialCalls net target).foldl DescriptorCall.apply opened = opened) ∨
    ∃ family fd, net.socket family = .ok fd ∧ net.dial target.1 target.2 = fd ∧
      dialCalls net target = [.socket fd] := by
  unfold Network.dial dialCalls
  cases net.resolve target.1 target.2 with
  | none =>
      refine Or.inl ⟨?_, fun _ => ⟨trivial, rfl⟩⟩
      dsimp only
      decide
  | some remote =>
      dsimp only
      unfold connectRemote connectCalls
      cases socket : net.socket remote.ai_family with
      | fail errno => exact Or.inl ⟨eval_errno_returned errno, fun _ => ⟨trivial, rfl⟩⟩
      | ok fd =>
          dsimp only
          cases net.connect fd remote.ai_addr with
          | fail errno =>
              refine Or.inl ⟨eval_errno_returned errno, fun opened => ⟨?_, ?_⟩⟩
              · exact ⟨fun _ no => (by cases no), careful_close List.mem_cons_self⟩
              · exact List.erase_cons_head fd opened
          | ok _ => exact Or.inr ⟨_, fd, socket, rfl, rfl⟩

/-- A request is refused with a code. -/
theorem violated_returned {msg : List Byte} {code : ErrorCode}
    (refused : violated msg = some code) : code.returned < 0 := by
  obtain ⟨condition, found, rfl⟩ := Option.map_eq_some_iff.mp refused
  have member := List.mem_of_find?_eq_some found
  unfold conditions at member
  simp only [List.mem_cons, List.not_mem_nil, or_false] at member
  rcases member with rfl | rfl | rfl | rfl | rfl | rfl <;> dsimp only <;> decide

namespace Client

variable {c : Client}

/-- The dialogue names no target, or one that it connects to or not. -/
theorem dialogue_end (c : Client) : (c.dialogue.resolved = [] ∧ c.dialogue.ret = -1) ∨
    ∃ target, c.dialogue.resolved = [target] ∧ c.dialogue.ret =
      if c.writes 10 = .ok 10 ∧ 0 ≤ c.net.dial target.1 target.2 then
        c.net.dial target.1 target.2 else -1 := by
  have conclude_end : ∀ {resolved : List (List Byte × Nat)} {ret : Int} {reply left : List Byte},
      (conclude c.writes resolved ret reply left).resolved = resolved ∧
        (conclude c.writes resolved ret reply left).ret =
          if c.writes 10 = .ok 10 ∧ 0 ≤ ret then ret else -1 := by
    intro resolved ret reply left
    refine ⟨conclude_resolved, ?_⟩
    unfold conclude
    split <;> rfl
  unfold dialogue
  cases c.pieces with
  | nil => exact Or.inl ⟨rfl, rfl⟩
  | cons first pieces =>
      rw [socks5_handshake_cons c.textual c.size c.room]
      by_cases taken : c.writes 2 = .ok 2
      · rw [if_pos taken]
        cases pieces with
        | nil => exact Or.inl ⟨rfl, rfl⟩
        | cons second later =>
            dsimp only
            obtain ⟨resolved, ret⟩ := @conclude_end (lookups c.net second.bytes)
              (answer c.net second.bytes) (response (answer c.net second.bytes)) (stream later)
            unfold lookups answer at resolved ret ⊢
            cases refused : violated second.bytes with
            | some code =>
                rw [refused] at resolved ret
                refine Or.inl ⟨resolved, ret.trans (if_neg fun both => ?_)⟩
                exact Int.not_lt.mpr both.2 (violated_returned refused)
            | none =>
                rw [refused] at resolved ret
                exact Or.inr ⟨_, resolved, ret⟩
      · rw [if_neg taken]
        exact Or.inl ⟨rfl, rfl⟩

/-- The target is connected, but the reply that says so is not written whole. -/
def Strands (c : Client) : Prop :=
  c.writes 10 ≠ .ok 10 ∧ ∃ target ∈ c.dialogue.resolved, 0 ≤ c.net.dial target.1 target.2

/-- What the dialogue leaves open. -/
inductive Obtains (c : Client) : Prop where
  | nothing (keeps : ∀ opened, Careful opened c.obtained ∧
        c.obtained.foldl DescriptorCall.apply opened = opened)
      (ret : c.dialogue.ret = -1) (none : ¬ c.Strands)
  | target (fd : Int) (calls : c.obtained = [.socket fd]) (valid : 0 ≤ fd) (apart : fd ≠ c.fd)
      (ret : c.dialogue.ret = if c.writes 10 = .ok 10 then fd else -1)
      (strands : c.Strands ↔ c.writes 10 ≠ .ok 10)

theorem obtains (c : Client) : c.Obtains := by
  rcases c.dialogue_end with ⟨resolved, ret⟩ | ⟨target, resolved, ret⟩
  · refine .nothing (fun opened => ?_) ret ?_
    · unfold obtained
      rw [resolved]
      exact ⟨trivial, rfl⟩
    · rintro ⟨_, target, member, _⟩
      rw [resolved] at member
      cases member
  · have obtained : c.obtained = dialCalls c.net target := by
      unfold Client.obtained
      rw [resolved, List.flatMap_cons, List.flatMap_nil, List.append_nil]
    rcases dial_cases c.net target with
      ⟨refused, keeps⟩ | ⟨family, fd, socket, dial, calls⟩
    · refine .nothing (fun opened => obtained ▸ keeps opened) ?_ ?_
      · rw [ret, if_neg fun both => Int.not_lt.mpr both.2 refused]
      · rintro ⟨_, other, member, connected⟩
        rw [resolved, List.mem_singleton] at member
        rw [member] at connected
        exact Int.not_lt.mpr connected refused
    · obtain ⟨valid, apart⟩ := c.fresh family fd socket
      refine .target fd (obtained.trans calls) valid apart ?_ ?_
      · rw [ret, dial]
        by_cases whole : c.writes 10 = .ok 10
        · rw [if_pos ⟨whole, valid⟩, if_pos whole]
        · rw [if_neg fun both => whole both.1, if_neg whole]
      · refine ⟨And.left, fun short => ⟨short, target, ?_, ?_⟩⟩
        · rw [resolved]
          exact List.mem_singleton_self target
        · rw [dial]
          exact valid

end Client

namespace ClientThread

variable {c : Client} {t t' : ClientThread}

/-! ## Descriptors -/

def holding (c : Client) (t : ClientThread) : List Int :=
  t.calls.foldl DescriptorCall.apply [c.fd]

/-- `close(remotefd)`, where there is one. -/
def released (c : Client) : List DescriptorCall :=
  if c.dialogue.ret ≠ -1 then [.close c.dialogue.ret] else []

/-- The calls made at each stage. -/
def callsAt (c : Client) : Stage → List DescriptorCall
  | .handshaking => []
  | .copying _ | .copied _ => c.obtained
  | .served => c.obtained ++ released c
  | .closed | .returned => c.obtained ++ released c ++ [.close c.fd]

theorem handshake_served (failed : c.dialogue.ret = -1) : (t.handshake c).stage = .served :=
  if_neg (not_not_intro failed)

structure Inv (c : Client) (t : ClientThread) : Prop where
  calls : t.calls = callsAt c t.stage
  remote : ∀ fd, t.stage.remotefd? = some fd → fd = c.dialogue.ret ∧ c.dialogue.ret ≠ -1
  done : t.done = true ↔ t.stage = .returned
  loop : ∃ calls, Run CopyLoop.Step .start calls t.loop

theorem Inv.running (inv : Inv c t) {stage : Stage} (before : t.stage ≠ .returned)
    (after : stage ≠ .returned) : t.done = true ↔ stage = .returned :=
  iff_of_false (mt inv.done.mp before) after

theorem Inv.step (inv : Inv c t) (step : Step c t t') : Inv c t' := by
  have calls := inv.calls
  cases step with
  | handshake here =>
      rw [here] at calls
      have apart : t.stage ≠ .returned := by
        rw [here]
        exact fun no => by cases no
      by_cases connected : c.dialogue.ret ≠ -1
      · have stage : (t.handshake c).stage = .copying c.dialogue.ret := if_pos connected
        constructor
        case calls =>
          rw [stage]
          exact congrArg (· ++ c.obtained) calls
        case remote =>
          rw [stage]
          rintro _ ⟨rfl⟩
          exact ⟨rfl, connected⟩
        case done =>
          rw [stage]
          exact inv.running apart fun no => by cases no
        case loop => exact inv.loop
      · have stage := @handshake_served c t (not_not.mp connected)
        constructor
        case calls =>
          rw [stage]
          refine (congrArg (· ++ c.obtained) calls).trans ?_
          unfold callsAt released
          rw [if_neg connected, List.append_nil]
          rfl
        case remote =>
          rw [stage]
          exact fun _ no => by cases no
        case done =>
          rw [stage]
          exact inv.running apart fun no => by cases no
        case loop => exact inv.loop
  | copy here step =>
      obtain ⟨path, run⟩ := inv.loop
      exact ⟨calls, inv.remote, inv.done, _, run.snoc step⟩
  | @leave fd exit here ended =>
      rw [here] at calls
      constructor
      case calls => exact calls
      case remote =>
        rintro _ ⟨rfl⟩
        exact inv.remote fd (congrArg Stage.remotefd? here)
      case done => exact inv.running (by rw [here]; exact fun no => by cases no) fun no => by cases no
      case loop => exact inv.loop
  | @closeRemote fd here =>
      obtain ⟨rfl, connected⟩ := inv.remote fd (congrArg Stage.remotefd? here)
      rw [here] at calls
      constructor
      case calls =>
        unfold callsAt released
        dsimp only
        rw [if_pos connected, calls]
        rfl
      case remote => exact fun _ no => by cases no
      case done => exact inv.running (by rw [here]; exact fun no => by cases no) fun no => by cases no
      case loop => exact inv.loop
  | closeClient here =>
      rw [here] at calls
      constructor
      case calls => exact congrArg (· ++ _) calls
      case remote => exact fun _ no => by cases no
      case done => exact inv.running (by rw [here]; exact fun no => by cases no) fun no => by cases no
      case loop => exact inv.loop
  | finish here =>
      rw [here] at calls
      exact ⟨calls, fun _ no => (by cases no), ⟨fun _ => rfl, fun _ => rfl⟩, inv.loop⟩

theorem inv_run (run : ReflTransGen (Step c) start t) : Inv c t := by
  induction run with
  | refl =>
      exact ⟨rfl, fun _ no => (by cases no), ⟨fun no => (by cases no), fun no => (by cases no)⟩, [],
        .nil⟩
  | tail _ last ih => exact ih.step last

/-- What is open at each stage, with what the thread leaves behind. -/
def openAt (c : Client) (rest : List Int) : Stage → List Int
  | .handshaking => [c.fd]
  | .copying remotefd | .copied remotefd => [remotefd, c.fd]
  | .served => rest ++ [c.fd]
  | .closed | .returned => rest

theorem Inv.holding_eq (inv : Inv c t) : ∃ rest, (rest = [] ↔ ¬ c.Strands) ∧ c.fd ∉ rest ∧
    t.holding c = openAt c rest t.stage := by
  have calls := inv.calls
  have remote := inv.remote
  unfold holding
  cases c.obtains with
  | nothing keeps ret none =>
      have quiet : released c = [] := if_neg (not_not_intro ret)
      refine ⟨[], iff_of_true rfl none, List.not_mem_nil, ?_⟩
      cases stage : t.stage with
      | handshaking =>
          rw [calls, stage]
          rfl
      | copying fd | copied fd =>
          exact absurd ret (remote fd (congrArg Stage.remotefd? stage)).2
      | served =>
          rw [calls, stage, callsAt, quiet, List.append_nil, (keeps _).2]
          rfl
      | closed | returned =>
          rw [calls, stage, callsAt, quiet, List.append_nil, List.foldl_append, (keeps _).2]
          exact List.erase_cons_head c.fd []
  | target fd obtained valid apart ret strands =>
      by_cases whole : c.writes 10 = .ok 10
      · rw [if_pos whole] at ret
        have freed : released c = [.close fd] := by
          unfold released
          rw [ret, if_pos]
          omega
        refine ⟨[], iff_of_true rfl fun strand => strands.mp strand whole, List.not_mem_nil, ?_⟩
        cases stage : t.stage with
        | handshaking =>
            rw [calls, stage]
            rfl
        | copying fd' | copied fd' =>
            obtain ⟨rfl, _⟩ := remote fd' (congrArg Stage.remotefd? stage)
            rw [calls, stage, callsAt, obtained, ret]
            rfl
        | served =>
            rw [calls, stage, callsAt, obtained, freed]
            exact List.erase_cons_head fd [c.fd]
        | closed | returned =>
            rw [calls, stage, callsAt, obtained, freed]
            change (([fd, c.fd] : List Int).erase fd).erase c.fd = []
            rw [List.erase_cons_head, List.erase_cons_head]
      · rw [if_neg whole] at ret
        have quiet : released c = [] := if_neg (not_not_intro ret)
        refine ⟨[fd], iff_of_false (List.cons_ne_nil _ _) (not_not_intro (strands.mpr whole)),
          fun member => apart (List.mem_singleton.mp member).symm, ?_⟩
        cases stage : t.stage with
        | handshaking =>
            rw [calls, stage]
            rfl
        | copying fd' | copied fd' =>
            exact absurd ret (remote fd' (congrArg Stage.remotefd? stage)).2
        | served =>
            rw [calls, stage, callsAt, obtained, quiet]
            rfl
        | closed | returned =>
            rw [calls, stage, callsAt, obtained, quiet]
            change ([fd, c.fd] : List Int).erase c.fd = [fd]
            rw [List.erase_cons_tail (by simpa using apart), List.erase_cons_head]

theorem Step.careful (step : Step c t t') (inv : Inv c t) (careful : Careful [c.fd] t.calls) :
    Careful [c.fd] t'.calls := by
  obtain ⟨rest, _, _, held⟩ := inv.holding_eq
  cases step with
  | handshake here =>
      refine careful_append.mpr ⟨careful, ?_⟩
      cases c.obtains with
      | nothing keeps ret none => exact (keeps _).1
      | target fd obtained valid apart ret strands =>
          rw [obtained]
          exact careful_socket _ fd
  | copy here step => exact careful
  | leave here ended => exact careful
  | closeRemote here =>
      refine careful_append.mpr ⟨careful, careful_close ?_⟩
      rw [here] at held
      change _ ∈ t.holding c
      rw [held]
      exact List.mem_cons_self
  | closeClient here =>
      refine careful_append.mpr ⟨careful, careful_close ?_⟩
      rw [here] at held
      change _ ∈ t.holding c
      rw [held]
      exact List.mem_append_right rest (List.mem_singleton_self c.fd)
  | finish here => exact careful

theorem careful_run (run : ReflTransGen (Step c) start t) : Careful [c.fd] t.calls := by
  induction run with
  | refl => exact trivial
  | tail earlier last ih => exact last.careful (inv_run earlier) ih

/--
A thread closes open descriptors only.  It has its client open while it serves
it, both descriptors while it copies, and sets `done` after it has closed the
client; then nothing is open, unless a connected target was not announced.
-/
theorem thread_descriptors (run : ReflTransGen (Step c) start t) :
    Careful [c.fd] t.calls ∧
      (c.fd ∈ t.holding c ↔ t.stage.phase = .serving) ∧
      (∀ fd, t.stage.remotefd? = some fd → fd ∈ t.holding c) ∧
      (t.done = true ↔ t.stage.phase = .returned) ∧
      (t.stage.phase ≠ .serving → (t.holding c = [] ↔ ¬ c.Strands)) := by
  have inv := inv_run run
  obtain ⟨rest, left, absent, held⟩ := inv.holding_eq
  have returned : t.stage = .returned ↔ t.stage.phase = .returned := by
    cases t.stage <;> simp [Stage.phase]
  refine ⟨careful_run run, ?_, ?_, inv.done.trans returned, ?_⟩
  · rw [held]
    cases t.stage <;> simp [openAt, Stage.phase, absent]
  · intro fd copies
    rw [held]
    cases stage : t.stage with
    | copying fd' | copied fd' =>
        rw [stage] at copies
        rw [← Option.some.inj copies]
        exact List.mem_cons_self
    | handshaking | served | closed | returned =>
        rw [stage] at copies
        cases copies
  · intro closed
    rw [held, ← left]
    cases stage : t.stage with
    | closed | returned => rfl
    | handshaking | copying _ | copied _ | served =>
        rw [stage] at closed
        exact absurd rfl closed

/-- A client that hangs up while it is told that the target is connected. -/
def hungUp : Client where
  fd := 7
  net := loopback
  writes count := .ok (if count = 10 then 3 else count)
  buf := List.replicate 1024 0
  namebuf := List.replicate 256 0
  pieces := [greets, requests]
  textual := loopback_textual
  size := List.length_replicate
  room := List.length_replicate
  fresh := by
    rintro family fd' ⟨rfl⟩
    exact ⟨by decide, by decide⟩

theorem hungUp_run : ∃ t, ReflTransGen (Step hungUp) start t ∧ t.stage = .returned ∧
    hungUp.Strands := by
  obtain ⟨failed, target⟩ : hungUp.dialogue.ret = -1 ∧
      hungUp.dialogue.resolved = [(text "127.0.0.1", 80)] := by
    decide +kernel
  refine ⟨_, ((ReflTransGen.single (.handshake rfl)).tail
    (.closeClient (handshake_served failed))).tail (.finish rfl), rfl, fun no => (by cases no),
    (text "127.0.0.1", 80), ?_, Int.le_of_lt (by decide : (0 : Int) < 9)⟩
  rw [target]
  exact List.mem_singleton_self _

/-- Its thread leaves the socket of the target open. -/
theorem thread_descriptors_hungUp :
    ∃ t, ReflTransGen (Step hungUp) start t ∧ t.done = true ∧ t.holding hungUp ≠ [] := by
  obtain ⟨t, run, returned, strands⟩ := hungUp_run
  have phase : t.stage.phase = .returned := congrArg Stage.phase returned
  obtain ⟨_, _, _, done, left⟩ := thread_descriptors run
  refine ⟨t, run, done.mpr phase, fun none => (left ?_).mp none strands⟩
  rw [phase]
  exact fun no => by cases no

/-! ## The worker -/

variable {s : Socks5Server} {collected : Bool} {pt data : Nat} {block : Thread}

/-- A worker of the list, as far as the thread is. -/
structure Runs (c : Client) (t : ClientThread) (s u : Socks5Server) (pt data : Nat) : Prop where
  worker : u.workers.find? pt = some ⟨data, t.stage.phase⟩
  block : ∃ block, u.heap.find? data = some block ∧ block.client = some c.fd ∧
    (block.done = true ↔ t.done = true)
  descriptors : u.descriptors =
    if t.stage.phase = .serving then s.descriptors else s.descriptors.erase c.fd

/--
What the list of workers sees of a thread is a run of its worker: the client is
closed, then the thread is done, and the rest makes no difference.
-/
theorem thread_refines (found : s.workers.find? pt = some ⟨data, .serving⟩)
    (allocated : s.heap.find? data = some block) (client : block.client = some c.fd)
    (fresh : block.done = false) (run : ReflTransGen (Step c) start t) :
    ∃ events u, Run Table.Step ⟨s, collected⟩ events ⟨u, collected⟩ ∧ Runs c t s u pt data ∧
      ∀ event ∈ events, event = .close pt ∨ event = .finish pt := by
  induction run with
  | refl =>
      refine ⟨[], s, .nil, ⟨found, ⟨block, allocated, client, ?_⟩, (if_pos rfl).symm⟩,
        List.forall_mem_nil _⟩
      rw [fresh]
      rfl
  | @tail t t' earlier last ih =>
      obtain ⟨events, u, path, ⟨worker, ⟨block', here', client', done⟩, descriptors⟩, own⟩ := ih
      have inv := inv_run earlier
      have stutters : t'.stage.phase = t.stage.phase → t'.done = t.done →
          ∃ events u, Run Table.Step ⟨s, collected⟩ events ⟨u, collected⟩ ∧
            Runs c t' s u pt data ∧ ∀ event ∈ events, event = .close pt ∨ event = .finish pt :=
        fun phase same => ⟨events, u, path, ⟨phase ▸ worker,
          ⟨block', here', client', same ▸ done⟩, phase ▸ descriptors⟩, own⟩
      have more : ∀ {event : Socks5Server.Event}, event = .close pt ∨ event = .finish pt →
          ∀ x ∈ events ++ [event], x = .close pt ∨ x = .finish pt := fun mine =>
        List.forall_mem_append.mpr ⟨own, List.forall_mem_singleton.mpr mine⟩
      cases last with
      | handshake here =>
          refine stutters ?_ rfl
          rw [here]
          unfold handshake
          dsimp only
          split <;> rfl
      | copy here step => exact stutters rfl rfl
      | leave here ended => exact stutters (by rw [here]; rfl) rfl
      | closeRemote here => exact stutters (by rw [here]; rfl) rfl
      | closeClient here =>
          rw [here] at worker descriptors
          refine ⟨_, u.closeClient pt ⟨data, .serving⟩ c.fd,
            path.snoc (.close worker rfl here' client'),
            ⟨OrderedMap.find?_insert_self _ _ _, ⟨block', here', client', done⟩, ?_⟩,
            more (Or.inl rfl)⟩
          exact congrArg (·.erase c.fd) descriptors
      | finish here =>
          rw [here] at worker descriptors
          refine ⟨_, u.finish pt ⟨data, .closed⟩, path.snoc (.finish worker rfl here'),
            ⟨OrderedMap.find?_insert_self _ _ _, ⟨{ block' with done := true }, ?_, client', ?_⟩,
              descriptors⟩, more (Or.inr rfl)⟩
          · change (u.heap.modify data _).find? data = _
            rw [OrderedMap.find?_modify_self, here']
            rfl
          · exact iff_of_true rfl rfl

/-- The client was accepted by a server without others. -/
theorem thread_refines_hungUp :
    ∃ (events : List Socks5Server.Event) (u : Socks5Server),
      Run Table.Step ⟨Socks5Server.fresh.takeClient ⟨some 100, .ok 7, true, some 1⟩, false⟩ events
        ⟨u, false⟩ ∧ u.workers.find? 1 = some ⟨100, .returned⟩ := by
  obtain ⟨t, run, returned, _⟩ := hungUp_run
  obtain ⟨events, u, path, runs, _⟩ := @thread_refines hungUp t
    (Socks5Server.fresh.takeClient ⟨some 100, .ok 7, true, some 1⟩) false 1 100
    ⟨some 1, some 7, false⟩ rfl rfl rfl rfl run
  refine ⟨events, u, path, ?_⟩
  rw [runs.worker, returned]
  rfl

end ClientThread

end Tun01
