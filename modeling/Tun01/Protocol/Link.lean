import Tun01.Net.Base

/-!
# The protocol of one link

What the two ends of a link do, without sockets, frames and other links.  The
listener accepts a client and asks the connector for a link; from the reply on
both ends send traffic and each closes once.  `Lawful` ties the two phases to
the messages under way, `Flow` the bytes written at one end to the bytes read
at the other.
-/

namespace Tun01

/-- What a link message says, without the identifiers it carries. -/
inductive LinkMessage where
  | create
  | created (success : Bool)
  | send (bytes : List Byte)
  | sendForAck (bytes : List Byte)
  | ack
  | close
  deriving DecidableEq, Repr

namespace LinkMessage

def traffic : LinkMessage → Bool
  | send _ | sendForAck _ | ack => true
  | create | created _ | close => false

def payload : LinkMessage → List Byte
  | send bytes | sendForAck bytes => bytes
  | create | created _ | ack | close => []

def payloads (messages : List LinkMessage) : List Byte := messages.flatMap payload

@[simp] theorem payloads_nil : payloads [] = [] := rfl

@[simp] theorem payloads_cons (m : LinkMessage) (rest : List LinkMessage) :
    payloads (m :: rest) = m.payload ++ payloads rest := rfl

@[simp] theorem payloads_append (first second : List LinkMessage) :
    payloads (first ++ second) = payloads first ++ payloads second :=
  List.flatMap_append

/-- Only traffic. -/
def Traffic (messages : List LinkMessage) : Prop := ∀ m ∈ messages, m.traffic = true

/-- Traffic and then one `close`, the last message. -/
def Closing : List LinkMessage → Prop
  | [] => False
  | m :: rest => (m = close ∧ rest = []) ∨ (m.traffic = true ∧ Closing rest)

@[simp] theorem traffic_nil : Traffic [] := fun _ member => by cases member

@[simp] theorem traffic_cons (m : LinkMessage) (rest : List LinkMessage) :
    Traffic (m :: rest) ↔ m.traffic = true ∧ Traffic rest := List.forall_mem_cons

@[simp] theorem traffic_append (first second : List LinkMessage) :
    Traffic (first ++ second) ↔ Traffic first ∧ Traffic second := List.forall_mem_append

theorem Traffic.closing {messages : List LinkMessage} (clean : Traffic messages) :
    Closing (messages ++ [close]) := by
  induction messages with
  | nil => exact Or.inl ⟨rfl, rfl⟩
  | cons m rest ih =>
      obtain ⟨first, later⟩ := (traffic_cons m rest).mp clean
      exact Or.inr ⟨first, ih later⟩

theorem Closing.tail {m : LinkMessage} {rest : List LinkMessage} (closing : Closing (m :: rest))
    (clean : m.traffic = true) : Closing rest := by
  rcases closing with ⟨rfl, _⟩ | ⟨_, later⟩
  · cases clean
  · exact later

theorem Closing.not_create {messages : List LinkMessage} (closing : Closing messages) :
    create ∉ messages := by
  induction messages with
  | nil => exact List.not_mem_nil
  | cons m rest ih =>
      rcases closing with ⟨rfl, rfl⟩ | ⟨clean, later⟩
      · decide
      · intro member
        rcases List.mem_cons.mp member with rfl | inRest
        · cases clean
        · exact ih later inRest

theorem Traffic.not_create {messages : List LinkMessage} (clean : Traffic messages) :
    create ∉ messages := fun member => by cases clean _ member

end LinkMessage

open LinkMessage

/-- An end is `pending` between its request and the reply. -/
inductive Phase where
  | absent
  | pending
  | opened
  | closing
  deriving DecidableEq, Repr

/-- One end: its phase, the bytes it holds, and the bytes read and written at its socket. -/
structure LinkEnd where
  phase : Phase
  held : List Byte
  input : List Byte
  output : List Byte
  deriving DecidableEq, Repr

/-- An end with everything it has sent and the part the other end has not handled. -/
structure Half extends LinkEnd where
  sent : List LinkMessage
  inFlight : List LinkMessage
  deriving DecidableEq, Repr

namespace Half

def emit (h : Half) (m : LinkMessage) : Half :=
  { h with sent := h.sent ++ [m], inFlight := h.inFlight ++ [m] }

def handled (h : Half) (rest : List LinkMessage) : Half := { h with inFlight := rest }

/-- What an end does on its own. -/
inductive Act (h : Half) : Half → Prop where
  | read (bytes : List Byte) (m : LinkMessage) (isOpen : h.phase = .opened)
      (carries : m = .send bytes ∨ m = .sendForAck bytes) :
      Act h ({ h with input := h.input ++ bytes }.emit m)
  | write (written rest : List Byte) (isOpen : h.phase = .opened)
      (front : h.held = written ++ rest) :
      Act h { h with held := rest, output := h.output ++ written }
  | close (isOpen : h.phase = .opened) : Act h ({ h with phase := .closing }.emit .close)

/-- What an end does with a message of a link that is up. -/
inductive Receive (h : Half) : LinkMessage → Half → Prop where
  | send (bytes : List Byte) (isOpen : h.phase = .opened) :
      Receive h (.send bytes) { h with held := h.held ++ bytes }
  | sendForAck (bytes : List Byte) (isOpen : h.phase = .opened) :
      Receive h (.sendForAck bytes) ({ h with held := h.held ++ bytes }.emit .ack)
  | ack (isOpen : h.phase = .opened) : Receive h .ack h
  | ignored (m : LinkMessage) (isClosing : h.phase = .closing) (clean : m.traffic = true) :
      Receive h m h
  | close (isOpen : h.phase = .opened) :
      Receive h .close ({ h with phase := .absent, held := [] }.emit .close)
  | closed (isClosing : h.phase = .closing) :
      Receive h .close { h with phase := .absent, held := [] }

end Half

/-- Both ends; `accepts` counts the clients the listener gave this identifier. -/
structure LinkState where
  listener : Half
  connector : Half
  accepts : Nat
  deriving DecidableEq, Repr

namespace LinkState

/-- One step of a link. -/
inductive Step (s : LinkState) : LinkState → Prop where
  | accept (unused : s.listener.phase = .absent) :
      Step s ⟨{ s.listener with phase := .pending, held := [] }.emit .create, s.connector,
        s.accepts + 1⟩
  | listenerActs {listener : Half} (act : s.listener.Act listener) :
      Step s { s with listener := listener }
  | connectorActs {connector : Half} (act : s.connector.Act connector) :
      Step s { s with connector := connector }
  | listenerReceives {m : LinkMessage} {rest : List LinkMessage} {listener : Half}
      (head : s.connector.inFlight = m :: rest) (receive : s.listener.Receive m listener) :
      Step s ⟨listener, s.connector.handled rest, s.accepts⟩
  | connectorReceives {m : LinkMessage} {rest : List LinkMessage} {connector : Half}
      (head : s.listener.inFlight = m :: rest) (receive : s.connector.Receive m connector) :
      Step s ⟨s.listener.handled rest, connector, s.accepts⟩
  | connected {rest : List LinkMessage} (head : s.listener.inFlight = .create :: rest)
      (unused : s.connector.phase = .absent) :
      Step s ⟨s.listener.handled rest,
        { s.connector with phase := .opened, held := [] }.emit (.created true), s.accepts⟩
  | refused {rest : List LinkMessage} (head : s.listener.inFlight = .create :: rest)
      (unused : s.connector.phase = .absent) :
      Step s ⟨s.listener.handled rest, s.connector.emit (.created false), s.accepts⟩
  | established {rest : List LinkMessage} (head : s.connector.inFlight = .created true :: rest)
      (waiting : s.listener.phase = .pending) :
      Step s ⟨{ s.listener with phase := .opened }, s.connector.handled rest, s.accepts⟩
  | failed {rest : List LinkMessage} (head : s.connector.inFlight = .created false :: rest)
      (waiting : s.listener.phase = .pending) :
      Step s ⟨{ s.listener with phase := .absent, held := [] }, s.connector.handled rest,
        s.accepts⟩

/-! ## Life cycle -/

/-- What may be under way in each pair of phases. -/
def LawfulAt : Phase → Phase → List LinkMessage → List LinkMessage → Prop
  | .absent, .absent, out, back => out = [] ∧ back = []
  | .pending, .absent, out, back =>
      (out = [.create] ∧ back = []) ∨ (out = [] ∧ back = [.created false])
  | .pending, .opened, out, back => out = [] ∧ ∃ rest, Traffic rest ∧ back = .created true :: rest
  | .pending, .closing, out, back =>
      (out = [] ∧ ∃ rest, Closing rest ∧ back = .created true :: rest) ∨
        ((∃ old, Closing old ∧ out = old ++ [.create]) ∧ back = [])
  | .opened, .opened, out, back => Traffic out ∧ Traffic back
  | .opened, .closing, out, back => Traffic out ∧ Closing back
  | .closing, .opened, out, back => Closing out ∧ Traffic back
  | .closing, .closing, out, back => Closing out ∧ Closing back
  | .closing, .absent, out, back => out = [] ∧ Closing back
  | .absent, .closing, out, back => Closing out ∧ back = []
  | _, _, _, _ => False

/-- The life cycle invariant of a link. -/
def Lawful (s : LinkState) : Prop :=
  LawfulAt s.listener.phase s.connector.phase s.listener.inFlight s.connector.inFlight

end LinkState

end Tun01
