import Tun01.Tunnel.Clients

/-!
# Schedules

A schedule names the dispatches of a run one after the other.  It is played by
evaluating the two endpoints, with whole packets and whole frames on the pipes.
-/

namespace Tun01

/-- One dispatch of one endpoint. -/
inductive Move where
  | object (side : Side) (event : Event)
  /-- the front packet goes to the pipe -/
  | flush (side : Side)
  /-- a frame is read from the pipe -/
  | fetch (side : Side) (calls : Calls)

namespace System

/-! ## Reads and writes of whole frames -/

def frontRequest (s : System) (side : Side) : Nat :=
  match (s.writer side).m_packet_queue with
  | [] => 0
  | front :: _ => front.request

def header (s : System) (side : Side) : List Byte :=
  (s.wires side.other).pipe.take (s.reader side).headerRequest

def body (s : System) (side : Side) : List Byte :=
  ((s.wires side.other).pipe.drop (s.header side).length).take
    ((s.reader side).received (s.header side)).bodyRequest

def arrived (s : System) (side : Side) : Bool :=
  decide ((s.reader side).m_read_count < 4) && !(s.header side).isEmpty &&
    !decide (((s.reader side).received (s.header side)).m_read_count < 4) &&
    !(s.body side).isEmpty

theorem arrived_reads {s : System} {side : Side} (arrived : s.arrived side = true) :
    Pipeline.FillReads (s.reader side) (s.wires side.other).pipe (.ok (s.header side))
      (.ok (s.body side)) (s.header side ++ s.body side) := by
  unfold System.arrived at arrived
  simp only [Bool.and_eq_true, decide_eq_true_eq, Bool.not_eq_true', decide_eq_false_iff_not,
    List.isEmpty_eq_false_iff] at arrived
  obtain ⟨⟨⟨missing, some'⟩, present⟩, more⟩ := arrived
  refine .both missing (.data (List.take_append_drop _ _).symm some' (List.length_take_le _ _))
    present (.data (.data (List.take_append_drop _ _).symm more (List.length_take_le _ _)))

/-! ## Playing a schedule -/

/-- The endpoint and the dispatch of a move. -/
def label (s : System) : Move → Side × Event
  | .object side event => (side, event)
  | .flush side =>
      (side, ⟨.stdioTunnel, ⟨(s.ends side).writeFd, POLLOUT, POLLOUT⟩,
        { write := .ok (s.frontRequest side) }⟩)
  | .fetch side calls =>
      (side, ⟨.stdioTunnel, ⟨(s.ends side).readFd, POLLIN, POLLIN⟩,
        { calls with header := .ok (s.header side), body := .ok (s.body side) }⟩)

/-- The pipes when an endpoint has become another by a move. -/
def moved (s : System) (side : Side) (event : Event) (e : Endpoint) : Move → Option System
  | .object _ _ => if event.polled = .stdioTunnel then none else some (s.acted side e)
  | .flush _ =>
      match (s.writer side).empty event.poll_struct event.calls.write with
      | .ok (_, _, taken) =>
          some { s with
            ends := Function.update s.ends side e
            wires := Function.update s.wires side ((s.wires side).gave taken) }
      | .error _ => none
  | .fetch _ _ =>
      match (s.reader side).fill event.poll_struct event.calls.header event.calls.body with
      | .ok stream =>
          if s.arrived side then
            some ((s.filled side (s.header side ++ s.body side) stream).acted side e)
          else none
      | .error _ => none

/-- The system after a move that can be made. -/
def play? (s : System) (move : Move) : Option System :=
  let (side, event) := s.label move
  if (s.ends side).hasRecord event && event.within (s.tunnel side) then
    match (s.ends side).dispatch event with
    | .ok e => s.moved side event e move
    | .error _ => none
  else
    none

variable {s s' : System}

/-- A move that can be made is a step. -/
theorem play?_step {move : Move} (played : s.play? move = some s') :
    Step s (s.label move) s' := by
  unfold play? at played
  dsimp only at played
  split at played
  · rename_i ready
    rw [Bool.and_eq_true] at ready
    split at played
    · rename_i e result
      have step : (s.ends (s.label move).1).Step (s.label move).2 e :=
        ⟨Endpoint.hasRecord_sound ready.1, Event.within_sound ready.2, result⟩
      cases move with
      | object side event =>
          dsimp only [moved] at played
          split at played
          · cases played
          · rename_i other
            cases played
            exact .object other step
      | flush side =>
          dsimp only [moved] at played
          split at played
          · rename_i stream after taken empties
            cases played
            refine .write rfl rfl rfl ?_ empties step
            intro front rest packets
            unfold frontRequest
            rw [packets]
          · cases played
      | fetch side calls =>
          dsimp only [moved] at played
          split at played
          · rename_i stream fills
            split at played
            · rename_i arrived
              cases played
              exact .read rfl rfl (arrived_reads arrived) fills step
            · cases played
          · cases played
    · cases played
  · cases played

/-- The labels of a schedule and the system after it. -/
def playAll? (s : System) : List Move → Option (List (Side × Event) × System)
  | [] => some ([], s)
  | move :: moves => do
      let s' ← s.play? move
      let (labels, last) ← s'.playAll? moves
      some (s.label move :: labels, last)

/-- A schedule that can be played is a run. -/
theorem playAll?_run {moves : List Move} {labels : List (Side × Event)}
    (played : s.playAll? moves = some (labels, s')) : Run Step s labels s' := by
  induction moves generalizing s labels with
  | nil =>
      cases played
      exact .nil
  | cons move moves ih =>
      unfold playAll? at played
      cases first : s.play? move with
      | none =>
          rw [first] at played
          cases played
      | some s₁ =>
          rw [first] at played
          cases later : s₁.playAll? moves with
          | none =>
              simp [later, bind, Option.bind] at played
          | some result =>
              obtain ⟨more, last⟩ := result
              simp only [later, bind, Option.bind, Option.some.injEq, Prod.mk.injEq] at played
              obtain ⟨rfl, rfl⟩ := played
              exact .cons (play?_step first) (ih later)

def playAll (s : System) (moves : List Move) : System :=
  match s.playAll? moves with
  | some (_, last) => last
  | none => s

theorem playAll_run {moves : List Move} (played : (s.playAll? moves).isSome = true) :
    ∃ labels, Run Step s labels (s.playAll moves) := by
  unfold playAll
  cases result : s.playAll? moves with
  | none =>
      rw [result] at played
      cases played
  | some last => exact ⟨last.1, playAll?_run result⟩

/-! ## Two endpoints after the magic string -/

/-- The local endpoint has one connection and has just queued its request. -/
def greeted : System where
  ends := fun
    | .localSide => .localEnd ((Watched.start .passing).after Watched.greet).endpoint
    | .remoteSide => .remoteEnd .waiting
  wires := fun
    | .localSide => ⟨[], ((Watched.start .passing).after Watched.greet).queued, [], []⟩
    | .remoteSide => .empty
  brought := fun _ _ => []

theorem greeted_opened : greeted.Opened := by
  obtain ⟨specs, read, written, state, once⟩ :
      StdioTunnelLocal.passing.m_connection_specs.length ≤ 65536 ∧
        StdioTunnelLocal.passing.m_read_fd ≠ STDOUT_FD ∧
        StdioTunnelLocal.passing.m_write_fd ≠ STDOUT_FD ∧
        StdioTunnelLocal.passing.m_state = .PASS_THROUGH ∧
        ((Watched.start .passing).after Watched.greet).handshakes = 1 := by decide +kernel
  exact .mk StdioTunnelLocal.passing_begun specs read written .nil state Watched.greet_step once
    StdioTunnelRemote.waiting_starts

theorem greeted_fits : greeted.Fits := by
  obtain ⟨few, small⟩ : (greeted.tunnel .localSide).m_connection_map.size ≤ 32767 ∧
      (Message.handshake (greeted.tunnel .localSide).connections).payload.length < 2 ^ 32 := by
    decide +kernel
  exact ⟨few, small⟩

def handshake : List Move :=
  [.flush .localSide, .fetch .remoteSide {}, .flush .remoteSide, .fetch .localSide {}]

end System

end Tun01
