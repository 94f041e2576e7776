import Tun01.Protocol.LinkSafety

/-!
# Deliveries

The steps of a link in which an end takes the oldest message of the other.
What may still follow from the messages under way becomes less with each of
them, so the messages under way at any time can all be delivered.
-/

namespace Tun01

namespace LinkMessage

/-- How many messages may follow from a message, itself included; a request also starts a link. -/
def weight : LinkMessage → Nat
  | create => 3
  | sendForAck _ => 2
  | created _ | send _ | ack | close => 1

theorem weight_pos (m : LinkMessage) : 0 < m.weight := by
  cases m <;> exact Nat.succ_pos _

def weights (messages : List LinkMessage) : Nat := (messages.map weight).sum

@[simp] theorem weights_nil : weights [] = 0 := rfl

@[simp] theorem weights_cons (m : LinkMessage) (rest : List LinkMessage) :
    weights (m :: rest) = m.weight + weights rest := by
  unfold weights
  rw [List.map_cons, List.sum_cons]

@[simp] theorem weights_append (first second : List LinkMessage) :
    weights (first ++ second) = weights first + weights second := by
  unfold weights
  rw [List.map_append, List.sum_append]

end LinkMessage

open LinkMessage

/-- An end that has the link will answer the `close` of the other. -/
def Phase.weight : Phase → Nat
  | .absent => 0
  | .pending | .opened | .closing => 1

namespace Half

def potential (h : Half) : Nat := h.phase.weight + weights h.inFlight

@[simp] theorem potential_emit (h : Half) (m : LinkMessage) :
    (h.emit m).potential = h.potential + m.weight := by
  unfold potential emit
  dsimp only
  rw [weights_append, weights_cons, weights_nil, Nat.add_zero, Nat.add_assoc]

/-- The oldest message is taken away. -/
theorem potential_handled {h : Half} {m : LinkMessage} {rest : List LinkMessage}
    (head : h.inFlight = m :: rest) : (h.handled rest).potential + m.weight = h.potential := by
  unfold potential handled
  dsimp only
  rw [head, weights_cons]
  omega

/-- What an end sends because of a message weighs less than the message. -/
theorem Receive.potential {h h' : Half} {m : LinkMessage} (receive : h.Receive m h') :
    h'.potential < h.potential + m.weight := by
  cases receive with
  | send _ _ | ack _ => exact Nat.lt_succ_self _
  | sendForAck bytes isOpen =>
      rw [potential_emit]
      exact Nat.add_lt_add_left Nat.one_lt_two _
  | ignored m _ _ => exact Nat.lt_add_of_pos_right m.weight_pos
  | close isOpen =>
      rw [potential_emit]
      unfold Half.potential
      dsimp only
      rw [isOpen]
      refine Nat.add_lt_add_right ?_ 1
      exact Nat.add_lt_add_right Nat.zero_lt_one _
  | closed isClosing =>
      unfold Half.potential
      dsimp only
      rw [isClosing]
      have less : Phase.absent.weight < Phase.closing.weight := by decide
      omega

end Half

namespace LinkState

variable {s s' : LinkState}

/-- An end takes the oldest message of the other. -/
inductive Deliver (s : LinkState) : LinkState → Prop where
  | listenerReceives {m : LinkMessage} {rest : List LinkMessage} {listener : Half}
      (head : s.connector.inFlight = m :: rest) (receive : s.listener.Receive m listener) :
      Deliver s ⟨listener, s.connector.handled rest, s.accepts⟩
  | connectorReceives {m : LinkMessage} {rest : List LinkMessage} {connector : Half}
      (head : s.listener.inFlight = m :: rest) (receive : s.connector.Receive m connector) :
      Deliver s ⟨s.listener.handled rest, connector, s.accepts⟩
  | connected {rest : List LinkMessage} (head : s.listener.inFlight = .create :: rest)
      (unused : s.connector.phase = .absent) :
      Deliver s ⟨s.listener.handled rest,
        { s.connector with phase := .opened, held := [] }.emit (.created true), s.accepts⟩
  | refused {rest : List LinkMessage} (head : s.listener.inFlight = .create :: rest)
      (unused : s.connector.phase = .absent) :
      Deliver s ⟨s.listener.handled rest, s.connector.emit (.created false), s.accepts⟩
  | established {rest : List LinkMessage} (head : s.connector.inFlight = .created true :: rest)
      (waiting : s.listener.phase = .pending) :
      Deliver s ⟨{ s.listener with phase := .opened }, s.connector.handled rest, s.accepts⟩
  | failed {rest : List LinkMessage} (head : s.connector.inFlight = .created false :: rest)
      (waiting : s.listener.phase = .pending) :
      Deliver s ⟨{ s.listener with phase := .absent, held := [] }, s.connector.handled rest,
        s.accepts⟩

theorem Deliver.step (deliver : Deliver s s') : Step s s' := by
  cases deliver with
  | listenerReceives head receive => exact .listenerReceives head receive
  | connectorReceives head receive => exact .connectorReceives head receive
  | connected head unused => exact .connected head unused
  | refused head unused => exact .refused head unused
  | established head waiting => exact .established head waiting
  | failed head waiting => exact .failed head waiting

def held (s : LinkState) : Nat := s.listener.held.length + s.connector.held.length

def potential (s : LinkState) : Nat := s.listener.potential + s.connector.potential

/-- Each delivery leaves less to be delivered. -/
theorem Deliver.potential (deliver : Deliver s s') : s'.potential < s.potential := by
  unfold LinkState.potential
  cases deliver with
  | listenerReceives head receive =>
      have taken := Half.potential_handled head
      have reply := receive.potential
      dsimp only
      omega
  | connectorReceives head receive =>
      have taken := Half.potential_handled head
      have reply := receive.potential
      dsimp only
      omega
  | connected head unused =>
      have taken := Half.potential_handled head
      have started : ({ s.connector with phase := .opened, held := [] } : Half).potential =
          s.connector.potential + 1 := by
        unfold Half.potential
        dsimp only
        rw [unused, Nat.add_right_comm]
        rfl
      dsimp only
      rw [Half.potential_emit, started]
      simp only [LinkMessage.weight] at taken ⊢
      omega
  | refused head unused =>
      have taken := Half.potential_handled head
      dsimp only
      rw [Half.potential_emit]
      simp only [LinkMessage.weight] at taken ⊢
      omega
  | established head waiting =>
      have taken := Half.potential_handled head
      have same : ({ s.listener with phase := .opened } : Half).potential =
          s.listener.potential := by
        unfold Half.potential
        dsimp only
        rw [waiting]
        rfl
      dsimp only
      rw [same]
      simp only [LinkMessage.weight] at taken
      omega
  | failed head waiting =>
      have taken := Half.potential_handled head
      have given : ({ s.listener with phase := .absent, held := [] } : Half).potential + 1 =
          s.listener.potential := by
        unfold Half.potential
        dsimp only
        rw [waiting, Nat.add_right_comm]
        rfl
      dsimp only at given ⊢
      simp only [LinkMessage.weight] at taken
      omega

end LinkState

end Tun01
