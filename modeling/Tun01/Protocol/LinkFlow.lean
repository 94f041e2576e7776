import Tun01.Protocol.LinkSafety
import Mathlib.Logic.Relation

/-!
# The bytes of one link

As long as an identifier has been given to one client only, the bytes written
at an end are a first part of the bytes read at the other, nothing is lost
between two ends that are up, and each end sends nothing after its `close`.
-/

namespace Tun01

open LinkMessage

/-! ## One direction -/

def Phase.takes : Phase → Bool
  | .pending | .opened => true
  | .absent | .closing => false

/-- What the bytes read at one end and written at the other have to do with each other. -/
structure Flow (source target : Half) : Prop where
  written : target.output <+: source.input
  kept : target.phase.takes = true →
    source.input = target.output ++ (target.held ++ payloads source.inFlight)

namespace Flow

variable {source target : Half}

theorem emit_source (flow : Flow source target) {m : LinkMessage} (bare : m.payload = []) :
    Flow (source.emit m) target where
  written := flow.written
  kept := by
    intro takes
    change source.input = target.output ++ (target.held ++ payloads (source.inFlight ++ [m]))
    rw [payloads_append, payloads_cons, bare, payloads_nil, List.append_nil, List.append_nil]
    exact flow.kept takes

theorem emit_target (flow : Flow source target) (m : LinkMessage) : Flow source (target.emit m) :=
  ⟨flow.written, flow.kept⟩

/-- A message without bytes is handled. -/
theorem handled (flow : Flow source target) {m : LinkMessage} {rest : List LinkMessage}
    (head : source.inFlight = m :: rest) (bare : m.payload = []) :
    Flow (source.handled rest) target where
  written := flow.written
  kept := by
    intro takes
    have kept := flow.kept takes
    rw [head, payloads_cons, bare, List.nil_append] at kept
    exact kept

/-- A target that takes no more keeps what it has written. -/
theorem stopped (flow : Flow source target) {stopped : Half} (output : stopped.output = target.output)
    (stops : stopped.phase.takes = false) : Flow source stopped where
  written := output ▸ flow.written
  kept := by
    intro takes
    rw [stops] at takes
    cases takes

theorem acts_source (flow : Flow source target) {source' : Half} (act : source.Act source') :
    Flow source' target := by
  cases act with
  | read bytes m isOpen carries =>
      refine ⟨flow.written.trans (List.prefix_append _ _), ?_⟩
      intro takes
      have payload : m.payload = bytes := by rcases carries with rfl | rfl <;> rfl
      change source.input ++ bytes =
        target.output ++ (target.held ++ payloads (source.inFlight ++ [m]))
      rw [flow.kept takes, payloads_append, payloads_cons, payload, payloads_nil]
      simp only [List.append_assoc, List.append_nil]
  | write written rest isOpen front => exact ⟨flow.written, flow.kept⟩
  | close isOpen =>
      have sameBytes : Flow { source with phase := .closing } target := ⟨flow.written, flow.kept⟩
      exact sameBytes.emit_source rfl

theorem acts_target (flow : Flow source target) {target' : Half} (act : target.Act target') :
    Flow source target' := by
  cases act with
  | read bytes m isOpen carries => exact ⟨flow.written, flow.kept⟩
  | write written rest isOpen front =>
      have all := flow.kept (by rw [isOpen]; rfl)
      rw [front] at all
      refine ⟨⟨rest ++ payloads source.inFlight, ?_⟩, ?_⟩
      · simp only [all, List.append_assoc]
      · intro _
        simp only [all, List.append_assoc]
  | close isOpen => exact flow.stopped rfl rfl

theorem receive_source (flow : Flow source target) {m : LinkMessage} {source' : Half}
    (receive : source.Receive m source') : Flow source' target := by
  cases receive with
  | send bytes isOpen => exact ⟨flow.written, flow.kept⟩
  | sendForAck bytes isOpen =>
      have sameBytes : Flow { source with held := source.held ++ bytes } target :=
        ⟨flow.written, flow.kept⟩
      exact sameBytes.emit_source rfl
  | ack isOpen => exact flow
  | ignored _ isClosing clean => exact flow
  | close isOpen =>
      have sameBytes : Flow { source with phase := .absent, held := [] } target :=
        ⟨flow.written, flow.kept⟩
      exact sameBytes.emit_source rfl
  | closed isClosing => exact ⟨flow.written, flow.kept⟩

theorem receive_target (flow : Flow source target) {m : LinkMessage} {rest : List LinkMessage}
    {target' : Half} (head : source.inFlight = m :: rest) (receive : target.Receive m target') :
    Flow (source.handled rest) target' := by
  cases receive with
  | send bytes isOpen =>
      refine ⟨flow.written, fun _ => ?_⟩
      have all := flow.kept (by rw [isOpen]; rfl)
      rw [head, payloads_cons] at all
      change source.input = (target.output ++ ((target.held ++ bytes) ++ payloads rest))
      rw [all, List.append_assoc target.held]
      rfl
  | sendForAck bytes isOpen =>
      refine ⟨flow.written, fun _ => ?_⟩
      have all := flow.kept (by rw [isOpen]; rfl)
      rw [head, payloads_cons] at all
      change source.input = (target.output ++ ((target.held ++ bytes) ++ payloads rest))
      rw [all, List.append_assoc target.held]
      rfl
  | ack isOpen => exact flow.handled head rfl
  | ignored _ isClosing clean =>
      have sameBytes : Flow (source.handled rest) { target with output := target.output } :=
        @Flow.stopped (source.handled rest) { target with phase := .closing }
          ⟨flow.written, by intro takes; cases takes⟩ _ rfl (by rw [isClosing]; rfl)
      exact sameBytes
  | close isOpen =>
      have quiet : Flow (source.handled rest) { target with phase := .absent, held := [] } :=
        ⟨flow.written, by intro takes; cases takes⟩
      exact quiet.emit_target _
  | closed isClosing => exact ⟨flow.written, by intro takes; cases takes⟩

end Flow

/-! ## What an end has sent -/

/-- Nothing follows a `close`, and none was sent while the end takes bytes. -/
structure ClosesOnce (h : Half) : Prop where
  last : ∀ before after, h.sent = before ++ .close :: after → after = []
  notYet : h.phase.takes = true → .close ∉ h.sent

namespace ClosesOnce

/-- A message added to a history without `close`. -/
theorem append {h h' : Half} {m : LinkMessage} (clean : .close ∉ h.sent)
    (sent : h'.sent = h.sent ++ [m]) (quiet : h'.phase.takes = true → m ≠ .close) :
    ClosesOnce h' where
  last := by
    intro before after same
    rw [sent] at same
    rcases List.append_eq_append_iff.mp same with ⟨more, rfl, single⟩ | ⟨more, old, _⟩
    · cases more with
      | nil => exact (List.cons.inj single).2.symm
      | cons first more =>
          have ended := (List.cons.inj single).2
          cases more <;> cases ended
    · cases more with
      | nil =>
          rename_i single
          exact (List.cons.inj single).2
      | cons first more =>
          rename_i rest
          rw [List.cons_append] at rest
          rw [old, (List.cons.inj rest).1.symm] at clean
          exact absurd (List.mem_append_right _ List.mem_cons_self) clean
  notYet := by
    intro takes member
    rw [sent, List.mem_append, List.mem_singleton] at member
    rcases member with old | new
    · exact clean old
    · exact quiet takes new.symm

theorem same {h h' : Half} (once : ClosesOnce h) (sent : h'.sent = h.sent)
    (phase : h'.phase.takes = true → h.phase.takes = true) : ClosesOnce h' where
  last := by
    rw [sent]
    exact once.last
  notYet := by
    rw [sent]
    exact fun takes => once.notYet (phase takes)

theorem acts {h h' : Half} (once : ClosesOnce h) (act : h.Act h') : ClosesOnce h' := by
  have clean : h.phase = .opened → .close ∉ h.sent := fun isOpen =>
    once.notYet (by rw [isOpen]; rfl)
  cases act with
  | read bytes m isOpen carries =>
      refine append (clean isOpen) rfl fun _ => ?_
      rcases carries with rfl | rfl <;> simp
  | write written rest isOpen front => exact once.same rfl id
  | close isOpen => exact append (clean isOpen) rfl fun takes => by cases takes

theorem receive {h h' : Half} {m : LinkMessage} (once : ClosesOnce h)
    (receive : h.Receive m h') : ClosesOnce h' := by
  have clean : h.phase = .opened → .close ∉ h.sent := fun isOpen =>
    once.notYet (by rw [isOpen]; rfl)
  cases receive with
  | send bytes isOpen => exact once.same rfl id
  | sendForAck bytes isOpen => exact append (clean isOpen) rfl fun _ => by simp
  | ack isOpen => exact once
  | ignored _ isClosing clean => exact once
  | close isOpen => exact append (clean isOpen) rfl fun takes => by cases takes
  | closed isClosing => exact once.same rfl fun takes => by cases takes

end ClosesOnce

/-! ## Phases and requests -/

namespace Half

theorem Act.opened {h h' : Half} (act : h.Act h') : h.phase = .opened := act.shape.1

/-- An end that acts or receives is not waiting, before or after. -/
theorem Act.not_pending {h h' : Half} (act : h.Act h') : h'.phase ≠ .pending := by
  rcases act.shape.2 with ⟨phase, _⟩ | ⟨phase, _⟩ <;> rw [phase] <;> decide

theorem Receive.up {h h' : Half} {m : LinkMessage} (receive : h.Receive m h') :
    h.phase = .opened ∨ h.phase = .closing := by
  cases receive <;> first | exact Or.inl ‹_› | exact Or.inr ‹_›

theorem Receive.not_pending {h h' : Half} {m : LinkMessage} (receive : h.Receive m h') :
    h'.phase ≠ .pending := by
  have up := receive.up
  rcases receive.shape with ⟨_, _, same, _⟩ | ⟨_, gone, _⟩
  · rw [same]
    rcases up with phase | phase <;> rw [phase] <;> decide
  · rw [gone]
    decide

theorem Act.asks {h h' : Half} (act : h.Act h') (asks : .create ∈ h'.inFlight) :
    .create ∈ h.inFlight := by
  rcases act.shape.2 with ⟨_, more, clean, out⟩ | ⟨_, out⟩
  · rw [out, List.mem_append] at asks
    exact asks.resolve_right clean.not_create
  · rw [out, List.mem_append] at asks
    exact asks.resolve_right (by decide)

theorem Receive.asks {h h' : Half} {m : LinkMessage} (receive : h.Receive m h')
    (asks : .create ∈ h'.inFlight) : .create ∈ h.inFlight := by
  rcases receive.shape with ⟨_, _, _, out | ⟨_, out⟩⟩ | ⟨_, _, ⟨_, out⟩ | ⟨_, out⟩⟩
  · rwa [out] at asks
  · rw [out, List.mem_append] at asks
    exact asks.resolve_right (by decide)
  · rw [out, List.mem_append] at asks
    exact asks.resolve_right (by decide)
  · rwa [out] at asks

end Half

/-! ## Both directions -/

namespace LinkState

/-- An end nothing has happened at. -/
structure Untouched (h : Half) : Prop where
  absent : h.phase = .absent
  sent : h.sent = []
  input : h.input = []
  output : h.output = []

/-- What holds of a link whose identifier was given to one client at most. -/
structure Orderly (s : LinkState) : Prop where
  unused : s.accepts = 0 → Untouched s.listener
  asked : s.accepts = 0 ∨ .create ∈ s.listener.inFlight → Untouched s.connector
  waiting : s.listener.phase = .pending → s.listener.input = [] ∧ s.listener.output = []
  listenerOnce : ClosesOnce s.listener
  connectorOnce : ClosesOnce s.connector
  forward : Flow s.listener s.connector
  backward : Flow s.connector s.listener

/-- The invariant as it is used: it speaks of identifiers given to one client. -/
def Safe (s : LinkState) : Prop := s.Lawful ∧ (s.accepts ≤ 1 → s.Orderly)

def unused : LinkState := ⟨⟨⟨.absent, [], [], []⟩, [], []⟩, ⟨⟨.absent, [], [], []⟩, [], []⟩, 0⟩

theorem unused_safe : unused.Safe := by
  have untouched : Untouched unused.listener := ⟨rfl, rfl, rfl, rfl⟩
  have once : ClosesOnce unused.listener :=
    ⟨fun before _ no => (by cases before <;> cases no), fun _ => List.not_mem_nil⟩
  have flow : Flow unused.listener unused.connector := ⟨List.prefix_refl _, fun no => (by cases no)⟩
  exact ⟨⟨rfl, rfl⟩, fun _ => ⟨fun _ => untouched, fun _ => untouched, fun no => (by cases no),
    once, once, flow, flow⟩⟩

/-- Every step keeps the order of messages and the flow of bytes. -/
theorem Step.orderly {s s' : LinkState} (step : s.Step s') (lawful : s.Lawful)
    (orderly : s.accepts ≤ 1 → s.Orderly) (single : s'.accepts ≤ 1) : s'.Orderly := by
  cases step with
  | accept unused =>
      have none : s.accepts = 0 := Nat.le_zero.mp (Nat.le_of_succ_le_succ single)
      have before := orderly (by rw [none]; exact Nat.zero_le 1)
      have fresh := before.unused none
      have quiet := before.asked (Or.inl none)
      unfold Lawful at lawful
      rw [unused, quiet.absent] at lawful
      refine ⟨fun zero => absurd zero (Nat.succ_ne_zero _), fun _ => quiet,
        fun _ => ⟨fresh.input, fresh.output⟩, ?_, before.connectorOnce, ?_, ?_⟩
      · refine .append (h := s.listener) (m := .create) ?_ rfl fun _ => by simp
        rw [fresh.sent]
        exact List.not_mem_nil
      · have kept : Flow { s.listener with phase := .pending, held := [] } s.connector :=
          ⟨before.forward.written, before.forward.kept⟩
        exact kept.emit_source rfl
      · refine ⟨before.backward.written, fun _ => ?_⟩
        change s.connector.input = s.listener.output ++ ([] ++ payloads s.connector.inFlight)
        rw [quiet.input, fresh.output, lawful.2]
        rfl
  | listenerActs act =>
      have before := orderly single
      have isOpen := act.opened
      refine ⟨?_, ?_, fun waits => absurd waits act.not_pending, before.listenerOnce.acts act,
        before.connectorOnce, before.forward.acts_source act, before.backward.acts_target act⟩
      · intro none
        rw [(before.unused none).absent] at isOpen
        cases isOpen
      · rintro (none | asks)
        · exact before.asked (Or.inl none)
        · exact before.asked (Or.inr (act.asks asks))
  | connectorActs act =>
      have before := orderly single
      refine ⟨before.unused, ?_, before.waiting, before.listenerOnce,
        before.connectorOnce.acts act, before.forward.acts_target act,
        before.backward.acts_source act⟩
      intro asks
      have isOpen := act.opened
      rw [(before.asked asks).absent] at isOpen
      cases isOpen
  | listenerReceives head receive =>
      have before := orderly single
      refine ⟨?_, ?_, fun waits => absurd waits receive.not_pending,
        before.listenerOnce.receive receive, before.connectorOnce.same rfl id, ?_,
        before.backward.receive_target head receive⟩
      · intro none
        have up := receive.up
        rw [(before.unused none).absent] at up
        rcases up with up | up <;> cases up
      · intro asks
        have quiet := before.asked (asks.imp_right receive.asks)
        exact ⟨quiet.absent, quiet.sent, quiet.input, quiet.output⟩
      · have flow := before.forward.receive_source receive
        exact ⟨flow.written, flow.kept⟩
  | connectorReceives head receive =>
      have before := orderly single
      refine ⟨?_, ?_, before.waiting, before.listenerOnce.same rfl id,
        before.connectorOnce.receive receive, before.forward.receive_target head receive, ?_⟩
      · intro none
        have fresh := before.unused none
        exact ⟨fresh.absent, fresh.sent, fresh.input, fresh.output⟩
      · intro asks
        have up := receive.up
        have still : s.accepts = 0 ∨ LinkMessage.create ∈ s.listener.inFlight :=
          asks.imp_right fun inRest => head ▸ List.mem_cons_of_mem _ inRest
        rw [(before.asked still).absent] at up
        rcases up with up | up <;> cases up
      · have flow := before.backward.receive_source receive
        exact ⟨flow.written, flow.kept⟩
  | connected head unused =>
      have before := orderly single
      have quiet := before.asked (Or.inr (head ▸ List.mem_cons_self))
      unfold Lawful at lawful
      rw [head] at lawful
      obtain ⟨waits, _, ended, _⟩ := lawful.connectorAsked
      have used : s.accepts ≠ 0 := by
        intro none
        rw [(before.unused none).absent] at waits
        cases waits
      refine ⟨fun none => absurd none used, ?_, before.waiting, before.listenerOnce.same rfl id,
        ?_, ?_, ?_⟩
      · rintro (none | asks)
        · exact absurd none used
        · change LinkMessage.create ∈ _ at asks
          rw [Half.handled, ended] at asks
          cases asks
      · refine .append (h := s.connector) (m := .created true) ?_ rfl fun _ => by simp
        rw [quiet.sent]
        exact List.not_mem_nil
      · refine ⟨before.forward.written, fun _ => ?_⟩
        change s.listener.input = s.connector.output ++ ([] ++ payloads _)
        rw [(before.waiting waits).1, quiet.output, ended]
        rfl
      · have kept : Flow { s.connector with phase := .opened, held := [] } s.listener :=
          ⟨before.backward.written, before.backward.kept⟩
        have flow := kept.emit_source (m := .created true) rfl
        exact ⟨flow.written, flow.kept⟩
  | refused head unused =>
      have before := orderly single
      have quiet := before.asked (Or.inr (head ▸ List.mem_cons_self))
      unfold Lawful at lawful
      rw [head] at lawful
      obtain ⟨waits, _, ended, _⟩ := lawful.connectorAsked
      have used : s.accepts ≠ 0 := by
        intro none
        rw [(before.unused none).absent] at waits
        cases waits
      refine ⟨fun none => absurd none used, ?_, before.waiting, before.listenerOnce.same rfl id,
        ?_, (before.forward.handled head rfl).emit_target _, ?_⟩
      · rintro (none | asks)
        · exact absurd none used
        · change LinkMessage.create ∈ _ at asks
          rw [Half.handled, ended] at asks
          cases asks
      · refine .append (h := s.connector) (m := .created false) ?_ rfl fun _ => by simp
        rw [quiet.sent]
        exact List.not_mem_nil
      · have flow := before.backward.emit_source (m := .created false) rfl
        exact ⟨flow.written, flow.kept⟩
  | established head waits =>
      have before := orderly single
      refine ⟨?_, ?_, (fun waits => by cases waits), ?_, before.connectorOnce.same rfl id, ?_, ?_⟩
      · intro none
        rw [(before.unused none).absent] at waits
        cases waits
      · intro asks
        have quiet := before.asked asks
        exact ⟨quiet.absent, quiet.sent, quiet.input, quiet.output⟩
      · exact before.listenerOnce.same rfl fun _ => by rw [waits]; rfl
      · exact ⟨before.forward.written, before.forward.kept⟩
      · have flow := before.backward.handled head rfl
        exact ⟨flow.written, fun _ => flow.kept (by rw [waits]; rfl)⟩
  | failed head waits =>
      have before := orderly single
      refine ⟨?_, ?_, (fun waits => by cases waits), ?_, before.connectorOnce.same rfl id, ?_, ?_⟩
      · intro none
        rw [(before.unused none).absent] at waits
        cases waits
      · intro asks
        have quiet := before.asked asks
        exact ⟨quiet.absent, quiet.sent, quiet.input, quiet.output⟩
      · exact before.listenerOnce.same rfl fun takes => by cases takes
      · exact ⟨before.forward.written, before.forward.kept⟩
      · exact (before.backward.handled head rfl).stopped rfl rfl

/-- Every step keeps the invariant of a link. -/
theorem Step.safe {s s' : LinkState} (step : s.Step s') (safe : s.Safe) : s'.Safe :=
  ⟨step.lawful safe.1, step.orderly safe.1 safe.2⟩

/-- So does any number of steps. -/
theorem safe_of_steps {s s' : LinkState} (steps : Relation.ReflTransGen Step s s')
    (safe : s.Safe) : s'.Safe := by
  induction steps with
  | refl => exact safe
  | tail _ step ih => exact step.safe ih

end LinkState

end Tun01
