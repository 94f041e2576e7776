import Tun01.Tunnel.Frames

/-!
# Runs of the local endpoint up to the handshake

The handshake starts in the dispatch that reads the magic string.  A run is
watched: the calls of `startHandshaking` and the payloads of the frames the
endpoint queues are listed along it.
-/

namespace Tun01

namespace LocalState

/-- The order in which the local endpoint goes through its states. -/
def rank : LocalState → Nat
  | INITIAL => 0
  | SET_STDIO_READ => 1
  | SET_STDIO_WRITE => 2
  | SET_PIPE_READ => 3
  | PASS_THROUGH => 4
  | HAND_SHAKE => 5
  | CONNECTED => 6
  | SHUT_DOWN => 7

end LocalState

/-- A frame whose command is `CMD_CREATE`. -/
def isCreate (payload : List Byte) : Bool := (splitShort payload).map Prod.fst = some CMD_CREATE

theorem Message.isCreate_payload (m : Message) : isCreate m.payload = m.greets := by
  have command : ∀ (s : Short) (rest : List Byte),
      isCreate (WriteStream.shortBytes s ++ rest) = decide (s = CMD_CREATE) := by
    intro s rest
    unfold isCreate
    rw [splitShort_shortBytes]
    exact decide_eq_decide.mpr Option.some_inj
  cases m with
  | link conn id m =>
      exact (command CMD_CONNECTION _).trans (by decide : decide (CMD_CONNECTION = CMD_CREATE) = false)
  | error message =>
      exact (command CMD_ERROR _).trans (by decide : decide (CMD_ERROR = CMD_CREATE) = false)
  | handshake connections => exact (command CMD_CREATE _).trans (decide_eq_true rfl)
  | agreed => decide

theorem countP_isCreate (out : List Message) :
    (out.map Message.payload).countP isCreate = out.countP Message.greets := by
  rw [List.countP_map]
  exact List.countP_congr fun m _ => by rw [Function.comp_apply, Message.isCreate_payload]

theorem countP_plain {out : List Message} (plain : ∀ m ∈ out, m.greets = false) :
    (out.map Message.payload).countP isCreate = 0 := by
  rw [countP_isCreate, List.countP_eq_zero]
  intro m member
  rw [plain m member]
  exact Bool.false_ne_true

namespace StdioTunnelLocal

/-- The calls of `startHandshaking` a dispatch makes. -/
def handshakes (l : StdioTunnelLocal) (event : Event) : Nat :=
  if event.polled = .stdioTunnel ∧ l.m_state = .PASS_THROUGH then
    (l.detected event.poll_struct event.calls).2.count .startHandshaking
  else
    0

/-- What the dispatch reads after the magic string, in the same call of `readData`, is harmless. -/
def Single (l : StdioTunnelLocal) (event : Event) : Prop :=
  event.polled = .stdioTunnel → l.m_state = .PASS_THROUGH → event.poll_struct.fd = l.m_read_fd →
    l.m_read_buffer.Once (SockBuffer.chunks event.calls.reads)

/-- No client is accepted before the handshake. -/
def Unvisited (l : StdioTunnelLocal) (event : Event) : Prop :=
  l.m_state = .PASS_THROUGH → ∀ conn socket, event.polled ≠ .listenSide conn socket

/-! ## The start -/

/-- The local endpoint when its polling loop begins, with two pipes. -/
inductive Begun : StdioTunnelLocal → Prop where
  | mk {bindStatus : ConnectionSpec → Int} {args : List (List Byte)} {l l' : StdioTunnelLocal}
      {read_fd write_fd : Int} {calls : Calls}
      (configured : StdioTunnelLocal.fresh.configure bindStatus args = .ok l)
      (pipes : read_fd ≠ write_fd) (start : l.start read_fd write_fd calls = .ok l') : Begun l'

variable {l l' : StdioTunnelLocal}

theorem Begun.started (begun : Begun l) : (Endpoint.localEnd l).Started := by
  obtain ⟨configured, _, start⟩ := begun
  exact .localEnd configured start

/-- What holds when the polling loop begins. -/
structure Poised (l : StdioTunnelLocal) : Prop where
  state : l.m_state = .PASS_THROUGH
  pipes : l.m_read_fd ≠ l.m_write_fd
  count : l.m_read_buffer.m_recognized_count = 0
  magic : l.m_read_buffer.m_magic_string = magicString
  frames : l.frames = []

theorem Begun.poised (begun : Begun l) : Poised l := by
  obtain ⟨configured, pipes, start⟩ := begun
  have configures := configure_configures configured
  obtain ⟨l₁, _, connects, rfl⟩ := start_started configures.state start
  have buffer : l₁.m_read_buffer = _ := congrArg StdioTunnelLocal.m_read_buffer connects.same
  have read_fd : l₁.m_read_fd = _ := congrArg StdioTunnelLocal.m_read_fd connects.same
  have write_fd : l₁.m_write_fd = _ := congrArg StdioTunnelLocal.m_write_fd connects.same
  refine ⟨rfl, ?_, ?_, ?_, ?_⟩
  · change l₁.m_read_fd ≠ l₁.m_write_fd
    rw [read_fd, write_fd]
    exact pipes
  · change l₁.m_read_buffer.m_recognized_count = 0
    rw [buffer]
    exact configures.recognized
  · change l₁.m_read_buffer.m_magic_string = magicString
    rw [buffer]
    exact configures.magic
  · have writer := connects.writer
    rw [show StdioTunnelLocal.toStdioTunnel _ = _ from configures.base] at writer
    change l₁.toStdioTunnel.frames = []
    unfold StdioTunnel.frames
    rw [writer]
    rfl

/-- `setPollfd` moves the endpoint to the next state. -/
theorem addSelf_rank (result : l.addSelf = .ok l') : l.m_state.rank < l'.m_state.rank := by
  unfold addSelf at result
  obtain ⟨⟨l₁, fd, events⟩, sets, result⟩ := of_bind_ok result
  obtain rfl := Except.ok.inj result
  change l.m_state.rank < l₁.m_state.rank
  unfold setPollfd at sets
  split at sets
  all_goals rename_i state
  · obtain ⟨rfl, _⟩ := Prod.mk.inj (Except.ok.inj sets)
    rw [state]
    exact Nat.lt_succ_self _
  · obtain ⟨rfl, _⟩ := Prod.mk.inj (Except.ok.inj sets)
    rw [state]
    exact Nat.lt_succ_self _
  · obtain ⟨rfl, _⟩ := Prod.mk.inj (Except.ok.inj sets)
    rw [state]
    exact Nat.lt_succ_self _
  · obtain ⟨rfl, _⟩ := Prod.mk.inj (Except.ok.inj sets)
    rw [state]
    exact Nat.lt_succ_self _
  · cases sets

end StdioTunnelLocal

/-! ## Watched runs -/

/-- The local endpoint, with what it has called and queued so far. -/
structure Watched where
  endpoint : StdioTunnelLocal
  handshakes : Nat
  queued : List (List Byte)

namespace Watched

open StdioTunnelLocal (Advance Passes Single Unvisited Begun)

variable {w w' : Watched} {l : StdioTunnelLocal} {event : Event} {events : List Event}

def start (l : StdioTunnelLocal) : Watched := ⟨l, 0, []⟩

/-- One dispatch. -/
structure Step (w : Watched) (event : Event) (w' : Watched) : Prop where
  step : (Endpoint.localEnd w.endpoint).Step event (.localEnd w'.endpoint)
  handshakes : w'.handshakes = w.handshakes + w.endpoint.handshakes event
  queued : w'.queued = w.queued ++ w.endpoint.toStdioTunnel.queued w'.endpoint.toStdioTunnel

theorem Step.result (step : Step w event w') :
    w.endpoint.dispatch event.polled event.poll_struct event.calls = .ok w'.endpoint := by
  obtain ⟨l, dispatched, same⟩ := of_map_ok step.step.result
  rw [← Endpoint.localEnd.inj same]
  exact dispatched

/-- What is kept along every run. -/
structure Kept (w : Watched) : Prop where
  keyed : w.endpoint.Keyed
  pipes : w.endpoint.m_read_fd ≠ w.endpoint.m_write_fd
  creates : w.queued.countP isCreate = w.handshakes
  suffix : w.endpoint.frames <:+ w.queued
  stage : (w.endpoint.m_state = .PASS_THROUGH ∧ w.handshakes = 0 ∧
      w.endpoint.m_read_buffer.m_recognized_count < magicString.length ∧
      w.endpoint.m_read_buffer.m_magic_string = magicString) ∨
    ((w.endpoint.m_state = .HAND_SHAKE ∨ w.endpoint.m_state = .CONNECTED) ∧ 0 < w.handshakes)

theorem kept_start (begun : Begun l) : (start l).Kept where
  keyed := begun.started.keyed.1
  pipes := begun.poised.pipes
  creates := rfl
  suffix := by
    change l.frames <:+ []
    rw [begun.poised.frames]
  stage := by
    refine Or.inl ⟨begun.poised.state, rfl, ?_, begun.poised.magic⟩
    change l.m_read_buffer.m_recognized_count < _
    rw [begun.poised.count]
    decide

theorem Step.advance (step : Step w event w') (kept : w.Kept) :
    Advance w.endpoint event w'.endpoint :=
  StdioTunnelLocal.dispatch_advance kept.keyed kept.pipes step.result

/-- The calls of the detector in a dispatch that does not complete the magic string. -/
theorem detected_below (below : l.m_read_buffer.m_recognized_count < magicString.length)
    (magic : l.m_read_buffer.m_magic_string = magicString) (poll_struct : Pollfd) (calls : Calls)
    (none : (l.detected poll_struct calls).2.count .startHandshaking = 0) :
    (l.detected poll_struct calls).1.m_recognized_count < magicString.length ∧
      (l.detected poll_struct calls).1.m_magic_string = magicString := by
  unfold StdioTunnelLocal.detected at none ⊢
  split
  · rename_i here
    rw [if_pos here] at none
    have same := MagicStringDetector.detectAll_same l.m_read_buffer
      (SockBuffer.chunks calls.reads)
    rcases MagicStringDetector.detectAll_magic (by rw [magic]; exact below)
      (SockBuffer.chunks calls.reads) with ⟨_, called⟩ | ⟨count, _, inside, after, _⟩
    · exact absurd called (List.count_eq_zero.mp none)
    · rw [magic] at inside
      exact ⟨by rw [after]; exact inside, same.magic.trans magic⟩
  · exact ⟨below, magic⟩

theorem Step.kept (step : Step w event w') (kept : w.Kept) : w'.Kept := by
  have keyed : w'.endpoint.Keyed :=
    (Endpoint.dispatch_turn (e := .localEnd w.endpoint) kept.keyed step.step.result).keyed kept.keyed
  cases step.advance kept with
  | passes self state passes =>
      have made : w.endpoint.handshakes event =
          (w.endpoint.detected event.poll_struct event.calls).2.count .startHandshaking :=
        if_pos ⟨self, state⟩
      have none : w.handshakes = 0 := by
        rcases kept.stage with ⟨_, none, _⟩ | ⟨other, _⟩
        · exact none
        · rw [state] at other
          rcases other with no | no <;> cases no
      have queues : StdioTunnel.Queues w.endpoint.toStdioTunnel
          (List.replicate (w.endpoint.handshakes event)
            (.handshake w.endpoint.connections)) w'.endpoint.toStdioTunnel := by
        refine .adds ?_
        rw [StdioTunnel.frames_of_emitting passes.writer, made, List.map_replicate]
      refine ⟨keyed, ?_, ?_, ?_, ?_⟩
      · rw [passes.read_fd, passes.write_fd]
        exact kept.pipes
      · rw [step.queued, step.handshakes, queues.queued, List.countP_append, kept.creates,
          countP_isCreate, List.countP_replicate]
        rfl
      · rw [step.queued]
        exact queues.suffix kept.suffix
      · rw [passes.state, step.handshakes, none, Nat.zero_add, made]
        split
        · rename_i quiet
          rw [quiet]
          refine Or.inl ⟨state, rfl, ?_⟩
          rcases kept.stage with ⟨_, _, below, magic⟩ | ⟨other, _⟩
          · obtain ⟨buffer, detector⟩ := passes.detector
            rw [detector]
            exact detected_below below magic event.poll_struct event.calls quiet
          · rw [state] at other
            rcases other with no | no <;> cases no
        · rename_i some
          exact Or.inr ⟨Or.inl rfl, Nat.pos_of_ne_zero some⟩
  | @speaks out queues plain state idle read_fd write_fd =>
      have made : w.endpoint.handshakes event = 0 :=
        if_neg fun both => (idle both.2).1 both.1
      refine ⟨keyed, ?_, ?_, ?_, ?_⟩
      · rw [read_fd, write_fd]
        exact kept.pipes
      · rw [step.queued, step.handshakes, queues.queued, List.countP_append, kept.creates, made,
          countP_plain plain]
      · rw [step.queued]
        exact queues.suffix kept.suffix
      · rw [step.handshakes, made, Nat.add_zero]
        rcases kept.stage with ⟨passing, none, below⟩ | ⟨framed, some⟩
        · rcases state with same | ⟨other, _⟩
          · refine Or.inl ⟨same.trans passing, none, ?_⟩
            rw [(idle passing).2]
            exact below
          · rw [passing] at other
            rcases other with no | no <;> cases no
        · refine Or.inr ⟨?_, some⟩
          rcases state with same | ⟨_, connected⟩
          · rw [same]
            exact framed
          · exact Or.inr connected

theorem kept_run (begun : Begun l) (run : Run Step (start l) events w) : w.Kept :=
  run.invariant (kept_start begun) fun kept step => step.kept kept

/-- A dispatch does not move the endpoint back. -/
theorem Step.rank (step : Step w event w') (kept : w.Kept) :
    w.endpoint.m_state.rank ≤ w'.endpoint.m_state.rank := by
  cases step.advance kept with
  | passes self state passes =>
      rw [passes.state, state]
      split <;> decide
  | speaks queues plain state idle read_fd write_fd =>
      rcases state with same | ⟨framed, connected⟩
      · rw [same]
      · rw [connected]
        rcases framed with before | before
        · rw [before]
          decide
        · rw [before]

/-- A handshake starts at most once in a run, and the state never goes back. -/
structure Orderly (start : Watched) (events : List Event) (w : Watched) : Prop where
  handshakes : w.handshakes ≤ 1
  creates : w.queued.countP isCreate ≤ 1
  forward : Run (fun w event w' => Step w event w' ∧
    w.endpoint.m_state.rank ≤ w'.endpoint.m_state.rank) start events w

theorem forward_run (begun : Begun l) (run : Run Step (start l) events w) :
    Run (fun w event w' => Step w event w' ∧
      w.endpoint.m_state.rank ≤ w'.endpoint.m_state.rank) (start l) events w := by
  induction run with
  | nil => exact .nil
  | snoc run last ih => exact .snoc ih ⟨last, last.rank (kept_run begun run)⟩

/-- A dispatch completes one handshake at most exactly when what it reads is harmless. -/
theorem Kept.single_iff (kept : w.Kept) (event : Event) :
    w.endpoint.Single event ↔
      w.handshakes + w.endpoint.handshakes event ≤ max 1 w.handshakes := by
  by_cases both : event.polled = .stdioTunnel ∧ w.endpoint.m_state = .PASS_THROUGH
  · rcases kept.stage with ⟨_, none, below, magic⟩ | ⟨other, _⟩
    · rw [StdioTunnelLocal.handshakes, if_pos both, none, Nat.zero_add, Nat.max_zero,
        StdioTunnelLocal.detected]
      split
      · rename_i here
        rw [MagicStringDetector.detectAll_once (by rw [magic]; exact below)]
        exact ⟨fun single => single both.1 both.2 here, fun once _ _ _ => once⟩
      · rename_i other
        exact iff_of_true (fun _ _ here => absurd here other) (Nat.zero_le _)
    · rw [both.2] at other
      rcases other with no | no <;> cases no
  · rw [StdioTunnelLocal.handshakes, if_neg both]
    exact iff_of_true (fun self state => absurd ⟨self, state⟩ both) (Nat.le_max_right _ _)

/--
`startHandshaking` is called at most once, one `CMD_CREATE` frame is queued at
most, and the state never goes back, if and only if the dispatch that reads the
magic string reads nothing after it, in the same call of `readData`, that starts
another handshake.  The bound holds in a last dispatch that throws, too.
-/
theorem handshake_once (begun : Begun l) (run : Run Step (start l) events w) :
    (∀ l₁ l₂, StdioTunnelLocal.addSelf l₁ = .ok l₂ → l₁.m_state.rank < l₂.m_state.rank) ∧
      (Orderly (start l) events w ↔
        Run (fun w event w' => Step w event w' ∧ w.endpoint.Single event) (start l) events w) ∧
      ∀ event, w.handshakes ≤ 1 → w.endpoint.Single event →
        w.handshakes + w.endpoint.handshakes event ≤ 1 := by
  have kept := kept_run begun run
  refine ⟨fun _ _ => StdioTunnelLocal.addSelf_rank, ?_, fun event few single => ?_⟩
  swap
  · have bound := (kept.single_iff event).mp single
    rwa [Nat.max_eq_left few] at bound
  constructor
  · intro orderly
    have few := run.bounded Watched.handshakes 1 (fun step => by
      rw [step.handshakes]
      exact Nat.le_add_right _ _) orderly.handshakes
    clear run kept orderly
    induction few with
    | nil => exact .nil
    | snoc few last ih =>
        have before := kept_run begun (few.mono And.left)
        refine .snoc ih ⟨last.1, (before.single_iff _).mpr ?_⟩
        rw [← last.1.handshakes]
        exact Nat.le_trans last.2 (Nat.le_max_left _ _)
  · intro single
    have few : w.handshakes ≤ 1 := by
      clear kept
      induction single with
      | nil => exact Nat.zero_le _
      | snoc earlier last ih =>
          have before := kept_run begun (earlier.mono And.left)
          have bound := (before.single_iff _).mp last.2
          rwa [← last.1.handshakes, Nat.max_eq_left (ih (earlier.mono And.left))] at bound
    exact ⟨few, by rw [kept.creates]; exact few, forward_run begun run⟩

/-! ## The first frame -/

/-- The frames queued begin with the request of the handshake. -/
def Greeted (w : Watched) : Prop :=
  w.queued = [] ∨ ∃ connections more,
    w.queued = (Message.handshake connections).payload :: more

theorem Greeted.earlier (greeted : w'.Greeted) (step : Step w event w') : w.Greeted := by
  unfold Greeted at greeted ⊢
  cases same : w.queued with
  | nil => exact Or.inl rfl
  | cons first rest =>
      refine Or.inr ?_
      rw [step.queued, same] at greeted
      rcases greeted with no | ⟨connections, more, front⟩
      · cases no
      · exact ⟨connections, rest, by rw [(List.cons.inj front).1]⟩

theorem Greeted.later (greeted : w.Greeted) (some : w.queued ≠ []) (step : Step w event w') :
    w'.Greeted := by
  rcases greeted with none | ⟨connections, more, front⟩
  · exact absurd none some
  · exact Or.inr ⟨connections, _, by rw [step.queued, front, List.cons_append]⟩

/-- After the handshake something was queued. -/
theorem Kept.queued (kept : w.Kept) (some : 0 < w.handshakes) : w.queued ≠ [] := by
  intro none
  have creates := kept.creates
  rw [none] at creates
  exact absurd creates (Nat.ne_of_lt some)

/-- A client that is accepted queues the request for its link. -/
theorem Step.accepting (step : Step w event w') (kept : w.Kept) {conn : Int} {socket : Nat}
    (listener : event.polled = .listenSide conn socket) :
    ∃ (conn id : Short), w'.queued = w.queued ++ [(Message.link conn id .create).payload] := by
  have result := step.result
  unfold StdioTunnelLocal.dispatch at result
  rw [listener] at result
  obtain ⟨t, handled, result⟩ := of_bind_ok result
  obtain ⟨ops, run, script⟩ :=
    (StdioTunnel.polledObject_run kept.keyed handled).resolve_right fun server => nomatch server.1
  have frames := StdioTunnel.frames_run run
  have after : t = w'.endpoint.toStdioTunnel :=
    congrArg StdioTunnelLocal.toStdioTunnel (Except.ok.inj result)
  rw [after] at frames
  have queues := StdioTunnel.Queues.adds frames
  rw [step.queued, queues.queued]
  cases script with
  | listener conn c socket n => exact ⟨conn, Short.ofInt n, rfl⟩

/-- Before the handshake nothing is queued, and there is no link. -/
structure Silent (w : Watched) : Prop where
  queued : w.endpoint.m_state = .PASS_THROUGH → w.queued = []
  linkless : w.endpoint.m_state = .PASS_THROUGH → w.endpoint.Linkless
  greeted : w.Greeted

theorem silent_start (begun : Begun l) : (start l).Silent :=
  ⟨fun _ => rfl, fun _ => begun.started.keyed.2, Or.inl rfl⟩

/-- Before the handshake the endpoint only looks after the standard streams. -/
theorem Step.passes (step : Step w event w') (kept : w.Kept)
    (unvisited : w.endpoint.Unvisited event) (silent : w.Silent)
    (passing : w.endpoint.m_state = .PASS_THROUGH) :
    ∃ d, Passes w.endpoint d (w.endpoint.handshakes event) w'.endpoint := by
  cases step.advance kept with
  | passes self state passes =>
      rw [StdioTunnelLocal.handshakes, if_pos ⟨self, state⟩]
      exact ⟨_, passes⟩
  | speaks queues plain state idle read_fd write_fd =>
      have other := (idle passing).1
      rw [StdioTunnelLocal.handshakes, if_neg fun both => other both.1]
      have result := step.result
      obtain ⟨record, member, _⟩ := step.step.registered
      unfold StdioTunnelLocal.dispatch at result
      cases object : event.polled with
      | stdioTunnel => exact absurd object other
      | listenSide conn socket => exact absurd object (unvisited passing conn socket)
      | connectionLink conn id socket =>
          rw [object] at member
          change record ∈ w.endpoint.registrations _ at member
          rw [(silent.linkless passing).records] at member
          cases member
      | socks5Server =>
          rw [object] at result
          rw [← Except.ok.inj result]
          exact ⟨_, .quiet (.serve _ _) rfl rfl rfl ⟨w.endpoint.m_read_buffer.toSockBuffer, rfl⟩ rfl
            rfl rfl⟩

theorem Step.silent (step : Step w event w') (kept : w.Kept)
    (unvisited : w.endpoint.Unvisited event) (silent : w.Silent) : w'.Silent := by
  rcases kept.stage with ⟨passing, _⟩ | ⟨framed, some⟩
  · obtain ⟨d, passes⟩ := step.passes kept unvisited silent passing
    have frames := StdioTunnel.Queues.adds
      ((StdioTunnel.frames_of_emitting passes.writer).trans (by rw [List.map_replicate]) :
        w'.endpoint.frames = w.endpoint.frames ++ (List.replicate _
          (Message.handshake w.endpoint.connections)).map Message.payload)
    have queued := step.queued
    rw [silent.queued passing, List.nil_append, frames.queued, List.map_replicate] at queued
    refine ⟨fun still => ?_, fun _ => ?_, ?_⟩
    · rw [passes.state] at still
      split at still
      · rename_i none
        rw [queued, none]
        rfl
      · cases still
    · exact (StdioTunnel.Starts.aside passes.aside).linkless (silent.linkless passing)
    · rw [Greeted, queued]
      cases w.endpoint.handshakes event with
      | zero => exact Or.inl rfl
      | succ n => exact Or.inr ⟨_, _, List.replicate_succ⟩
  · have greeted := silent.greeted.later (kept.queued some) step
    have past : w'.endpoint.m_state ≠ .PASS_THROUGH := by
      intro no
      have forward := step.rank kept
      rw [no] at forward
      rcases framed with state | state <;> (rw [state] at forward; exact absurd forward (by decide))
    exact ⟨fun no => absurd no past, fun no => absurd no past, greeted⟩

theorem silent_run (begun : Begun l)
    (run : Run (fun w event w' => Step w event w' ∧ w.endpoint.Unvisited event) (start l) events w) :
    w.Silent := by
  induction run with
  | nil => exact silent_start begun
  | snoc earlier last ih => exact last.1.silent (kept_run begun (earlier.mono And.left)) last.2 ih

/-- Up to the handshake the endpoint only looks after the standard streams. -/
theorem passes_run (begun : Begun l)
    (run : Run (fun w event w' => Step w event w' ∧ w.endpoint.Unvisited event) (start l) events w)
    (passing : w.endpoint.m_state = .PASS_THROUGH) : ∃ d, Passes l d 0 w.endpoint := by
  induction run with
  | nil => exact ⟨_, .refl l⟩
  | @snoc _ w w' event earlier last ih =>
      have kept := kept_run begun (earlier.mono And.left)
      have before : w.endpoint.m_state = .PASS_THROUGH := by
        have forward := last.1.rank kept
        rw [passing] at forward
        rcases kept.stage with ⟨state, _⟩ | ⟨state | state, _⟩
        · exact state
        · rw [state] at forward
          exact absurd forward (by decide)
        · rw [state] at forward
          exact absurd forward (by decide)
      obtain ⟨d, first⟩ := ih before
      obtain ⟨d', second⟩ := last.1.passes kept last.2 (silent_run begun earlier) before
      have none : w.endpoint.handshakes event = 0 := by
        have state := second.state
        rw [passing] at state
        by_contra some
        rw [if_neg some] at state
        cases state
      rw [none] at second
      exact ⟨d', first.trans second⟩

/--
The first frame the local endpoint queues is the request of the handshake if and
only if no client is accepted before the handshake.  Frames leave in the order
they were queued.
-/
theorem handshake_first (begun : Begun l) (run : Run Step (start l) events w) :
    w.endpoint.frames <:+ w.queued ∧
      (w.Greeted ↔
        Run (fun w event w' => Step w event w' ∧ w.endpoint.Unvisited event) (start l) events
          w) := by
  refine ⟨(kept_run begun run).suffix, ?_, ?_⟩
  · intro greeted
    induction run with
    | nil => exact .nil
    | @snoc _ w w' _ earlier last ih =>
        have kept := kept_run begun earlier
        have before := greeted.earlier last
        refine .snoc (ih before) ⟨last, fun passing conn socket listener => ?_⟩
        rcases kept.stage with ⟨_, none, _⟩ | ⟨other, _⟩
        · obtain ⟨x, id, queued⟩ := last.accepting kept listener
          have empty : w.queued = [] := by
            rcases before with empty | ⟨connections, more, front⟩
            · exact empty
            · have creates := kept.creates
              rw [none, List.countP_eq_zero] at creates
              have first := creates (Message.handshake connections).payload
                (by rw [front]; exact List.mem_cons_self)
              rw [Message.isCreate_payload] at first
              exact absurd rfl first
          rw [empty, List.nil_append] at queued
          rcases greeted with no | ⟨connections, more, front⟩
          · rw [queued] at no
            cases no
          · rw [queued] at front
            have same := congrArg isCreate (List.cons.inj front).1
            rw [Message.isCreate_payload, Message.isCreate_payload] at same
            cases same
        · rw [passing] at other
          rcases other with no | no <;> cases no
  · intro unvisited
    exact (silent_run begun unvisited).greeted

end Watched

/-! ## Runs out of order -/

namespace StdioTunnelLocal

def beginning : Except Fault StdioTunnelLocal := do
  let l ← fresh.configure (fun _ => 0) [text "-L", text "8080:host:80", text "ssh"]
  l.start 3 4 {}

def passing : StdioTunnelLocal :=
  match beginning with
  | .ok l => l
  | .error _ => fresh

/-- Zeros before the magic string start no attempt. -/
theorem processReadData_zeros {l : StdioTunnelLocal} {calls : Calls}
    (count : l.m_read_buffer.m_recognized_count = 0)
    (magic : l.m_read_buffer.m_magic_string = magicString)
    (pattern : l.m_read_buffer.m_login_pattern = []) (n : Nat) (rest : List Byte) :
    l.processReadData calls (List.replicate n 0 ++ rest) = l.processReadData calls rest := by
  have same : (l.setDetector fun d => { d with m_recognized_count := 0 }) = l := by
    unfold setDetector
    rw [← count]
  have login : l.detectLogin 0 calls = .ok l := by
    unfold detectLogin
    dsimp only
    rw [pattern, if_neg fun both => absurd both.2.1 (Nat.not_lt_zero _)]
    exact if_neg (Nat.not_lt_zero _)
  have first : magicString.getD 0 0 = 83 := by decide
  induction n with
  | zero => rfl
  | succ n ih =>
      rw [List.replicate_succ, List.cons_append, processReadData]
      dsimp only
      rw [magic, count, if_neg (Nat.not_lt_zero _), first, if_neg (by decide), same, login, ok_bind]
      exact ih

theorem detectLoop_zeros {l : StdioTunnelLocal} {calls : Calls}
    (count : l.m_read_buffer.m_recognized_count = 0)
    (magic : l.m_read_buffer.m_magic_string = magicString)
    (pattern : l.m_read_buffer.m_login_pattern = []) (n : Nat) (chunk : List Byte)
    (total : Int) (reads : List (SysResult (List Byte))) :
    l.detectLoop total calls (.ok (List.replicate n 0 ++ chunk) :: reads) = (do
      let l ← l.processReadData calls chunk
      let l := l.setDetector fun d =>
        { d with toSockBuffer := d.toSockBuffer.insert (List.replicate n 0 ++ chunk) }
      let read_total ← SockBuffer.addCount total (List.replicate n 0 ++ chunk).length
      if (List.replicate n 0 ++ chunk).length = SockBuffer.BUFFER_SIZE then
        l.detectLoop read_total calls reads
      else
        return (l, read_total)) := by
  rw [detectLoop, processReadData_zeros count magic pattern]

theorem passing_begun : Begun passing := by
  have returns : beginning.isOk = true := by decide +kernel
  cases result : beginning with
  | error fault =>
      rw [result] at returns
      cases returns
  | ok l =>
      have same : passing = l := by rw [passing, result]
      obtain ⟨l₁, configured, start⟩ := of_bind_ok result
      rw [same]
      exact .mk configured (by decide) start

end StdioTunnelLocal

namespace Watched

open StdioTunnelLocal (Begun passing passing_begun)

variable {w w' : Watched} {l : StdioTunnelLocal} {event : Event} {events : List Event}

/-- After a dispatch that returns. -/
def after (w : Watched) (event : Event) : Watched :=
  match w.endpoint.dispatch event.polled event.poll_struct event.calls with
  | .ok l => ⟨l, w.handshakes + w.endpoint.handshakes event,
      w.queued ++ w.endpoint.toStdioTunnel.queued l.toStdioTunnel⟩
  | .error _ => w

theorem step_after
    (returns : (w.endpoint.dispatch event.polled event.poll_struct event.calls).isOk = true)
    (registered : ∃ record ∈ w.endpoint.registrations event.polled,
      record.fd = event.poll_struct.fd) (within : event.Within w.endpoint.toStdioTunnel) :
    Step w event (w.after event) := by
  unfold after
  cases result : w.endpoint.dispatch event.polled event.poll_struct event.calls with
  | error fault =>
      rw [result] at returns
      cases returns
  | ok l =>
      refine ⟨⟨registered, within, ?_⟩, rfl, rfl⟩
      change (w.endpoint.dispatch event.polled event.poll_struct event.calls).map _ = _
      rw [result]
      rfl

def greet : Event := ⟨.stdioTunnel, ⟨3, POLLIN, POLLIN⟩, { reads := [.ok magicString] }⟩

theorem greet_facts :
    (passing.dispatch greet.polled greet.poll_struct greet.calls).isOk = true ∧
      (3 : Int) ∈ (passing.registrations greet.polled).map Pollfd.fd ∧
      passing.m_read_buffer.m_recognized_count = 0 ∧
      passing.m_read_buffer.m_magic_string = magicString := by
  decide +kernel

theorem greet_step : Step (start passing) greet ((start passing).after greet) := by
  obtain ⟨returns, registered, _⟩ := greet_facts
  obtain ⟨record, member, fd⟩ := List.mem_map.mp registered
  exact step_after returns ⟨record, member, fd⟩ trivial

theorem greet_single : passing.Single greet := by
  obtain ⟨_, _, count, magic⟩ := greet_facts
  intro _ _ _ text same
  have chunks : SockBuffer.chunks greet.calls.reads = [magicString] := rfl
  have rest : Matcher.rest magicString (some 0) [magicString] = some [] := by decide
  rw [chunks, magic, count, rest] at same
  exact Or.inl (Option.some.inj same).symm

theorem handshake_once_greet : Orderly (start passing) [greet] ((start passing).after greet) :=
  (handshake_once passing_begun (.single greet_step)).2.1.mpr (.single ⟨greet_step, greet_single⟩)

theorem handshake_first_greet : ((start passing).after greet).Greeted :=
  (handshake_first passing_begun (.single greet_step)).2.mpr
    (.single ⟨greet_step, fun _ _ _ no => by cases no⟩)

def visit : Event := ⟨.listenSide 0 0, ⟨0, POLLIN, POLLIN⟩, {}⟩

theorem visit_facts :
    (passing.dispatch visit.polled visit.poll_struct visit.calls).isOk = true ∧
      (0 : Int) ∈ (passing.registrations visit.polled).map Pollfd.fd ∧
      ((start passing).after visit).queued.map isCreate = [false] := by
  decide +kernel

/-- A client that comes before the handshake. -/
theorem not_handshake_first : ¬ ∀ l events w, Begun l → Run Step (start l) events w → w.Greeted := by
  intro always
  obtain ⟨returns, registered, queued⟩ := visit_facts
  obtain ⟨record, member, fd⟩ := List.mem_map.mp registered
  have step : Step (start passing) visit ((start passing).after visit) :=
    step_after returns ⟨record, member, fd⟩ trivial
  rcases always _ _ _ passing_begun (.single step) with none | ⟨connections, more, front⟩
  · rw [none] at queued
    cases queued
  · rw [front, List.map_cons, Message.isCreate_payload] at queued
    cases queued

def child : List (List Byte) := [List.replicate 4065 0 ++ magicString, [0]]

/-- Both chunks are read by one call of `readData`. -/
def full : Event := ⟨.stdioTunnel, ⟨3, POLLIN, POLLIN⟩, { reads := child.map .ok }⟩

theorem passing_facts : passing.m_state = .PASS_THROUGH ∧
    passing.m_read_buffer.m_recognized_count = 0 ∧
    passing.m_read_buffer.m_magic_string = magicString ∧
    passing.m_read_buffer.m_login_pattern = [] ∧ passing.m_read_fd = 3 ∧
    (3 : Int) ∈ (passing.registrations .stdioTunnel).map Pollfd.fd := by
  decide +kernel

theorem full_returns :
    (passing.dispatch full.polled full.poll_struct full.calls).isOk = true := by
  obtain ⟨state, count, magic, pattern, -⟩ := passing_facts
  change (passing.polled full.poll_struct full.calls).isOk = true
  unfold StdioTunnelLocal.polled
  rw [state]
  dsimp only
  unfold StdioTunnelLocal.polledPassThrough StdioTunnelLocal.passRead full child
  dsimp only
  unfold StdioTunnelLocal.readDetected
  rw [List.map_cons, StdioTunnelLocal.detectLoop_zeros count magic pattern]
  decide +kernel

/-- The first chunk completes the magic string, and the second starts another handshake. -/
theorem full_twice : ¬ passing.Single full := by
  obtain ⟨state, count, magic, _, fd, _⟩ := passing_facts
  intro single
  have once := single rfl state fd.symm
  have chunks : SockBuffer.chunks full.calls.reads = child := by
    have whole : (List.replicate 4065 (0 : Byte) ++ magicString).length =
        SockBuffer.BUFFER_SIZE := by
      rw [List.length_append, List.length_replicate]
      rfl
    unfold full child
    dsimp only
    rw [List.map_cons, SockBuffer.chunks, if_pos whole]
    rfl
  have zeros : ∀ n, Matcher.Restarts magicString (List.replicate n 0) := by
    intro n
    induction n with
    | zero => exact .nil
    | succ n ih => exact @Matcher.Restarts.attempt _ _ 0 0 _ (by decide) (by decide) ih
  have complete : Matcher.state magicString (List.replicate 4065 0 ++ magicString) = none :=
    (Matcher.state_none_iff (by decide)).mpr
      ⟨_, [], zeros 4065, by rw [List.append_nil]⟩
  have rest : Matcher.rest magicString (some 0) child = some [0] := if_pos complete
  rw [chunks] at once
  rcases once [0] (by rw [magic, count]; exact rest) with no | ⟨c, more, same, nonzero, _⟩
  · cases no
  · exact nonzero (List.cons.inj same).1.symm

/-- Two handshakes in one call of `readData`. -/
theorem not_handshake_once :
    ¬ ∀ l events w, Begun l → Run Step (start l) events w → Orderly (start l) events w := by
  intro always
  obtain ⟨-, -, -, -, -, registered⟩ := passing_facts
  obtain ⟨record, member, fd⟩ := List.mem_map.mp registered
  have step : Step (start passing) full ((start passing).after full) :=
    step_after full_returns ⟨record, member, fd⟩ trivial
  have orderly := always _ _ _ passing_begun (.single step)
  have few := orderly.handshakes
  rw [step.handshakes] at few
  exact full_twice (((kept_start passing_begun).single_iff full).mpr
    (Nat.le_trans few (Nat.le_max_left _ _)))

end Watched

end Tun01
