import Tun01.Protocol.Link

/-!
# Safety of one link

Every step keeps the life cycle invariant.  While an identifier has been given
to one client only, every step also keeps the order of the messages sent and
the flow of bytes in both directions.
-/

namespace Tun01

open LinkMessage

/-! ## What acts and receipts do to phase and messages -/

namespace Half

theorem Act.shape {h h' : Half} (act : h.Act h') :
    h.phase = .opened ∧
      ((h'.phase = .opened ∧ ∃ more, Traffic more ∧ h'.inFlight = h.inFlight ++ more) ∨
        (h'.phase = .closing ∧ h'.inFlight = h.inFlight ++ [.close])) := by
  cases act with
  | read bytes m isOpen carries =>
      refine ⟨isOpen, Or.inl ⟨isOpen, [m], ?_, rfl⟩⟩
      rcases carries with rfl | rfl <;> simp [traffic]
  | write written rest isOpen front =>
      exact ⟨isOpen, Or.inl ⟨isOpen, [], traffic_nil, (List.append_nil _).symm⟩⟩
  | close isOpen => exact ⟨isOpen, Or.inr ⟨rfl, rfl⟩⟩

theorem Receive.shape {h h' : Half} {m : LinkMessage} (receive : h.Receive m h') :
    (m.traffic = true ∧ (h.phase = .opened ∨ h.phase = .closing) ∧ h'.phase = h.phase ∧
        (h'.inFlight = h.inFlight ∨ (h.phase = .opened ∧ h'.inFlight = h.inFlight ++ [.ack]))) ∨
      (m = .close ∧ h'.phase = .absent ∧
        ((h.phase = .opened ∧ h'.inFlight = h.inFlight ++ [.close]) ∨
          (h.phase = .closing ∧ h'.inFlight = h.inFlight))) := by
  cases receive with
  | send bytes isOpen => exact Or.inl ⟨rfl, Or.inl isOpen, rfl, Or.inl rfl⟩
  | sendForAck bytes isOpen => exact Or.inl ⟨rfl, Or.inl isOpen, rfl, Or.inr ⟨isOpen, rfl⟩⟩
  | ack isOpen => exact Or.inl ⟨rfl, Or.inl isOpen, rfl, Or.inl rfl⟩
  | ignored _ isClosing clean => exact Or.inl ⟨clean, Or.inr isClosing, rfl, Or.inl rfl⟩
  | close isOpen => exact Or.inr ⟨rfl, rfl, Or.inl ⟨isOpen, rfl⟩⟩
  | closed isClosing => exact Or.inr ⟨rfl, rfl, Or.inr ⟨isClosing, rfl⟩⟩

end Half

/-! ## Life cycle -/

namespace LinkState

section LawfulAt

variable {l c : Phase} {out back more rest : List LinkMessage} {m : LinkMessage}

theorem LawfulAt.listenerSends (lawful : LawfulAt .opened c out back) (clean : Traffic more) :
    LawfulAt .opened c (out ++ more) back := by
  cases c with
  | absent | pending => exact lawful.elim
  | opened | closing => exact ⟨(traffic_append out more).mpr ⟨lawful.1, clean⟩, lawful.2⟩

theorem LawfulAt.listenerCloses (lawful : LawfulAt .opened c out back) :
    LawfulAt .closing c (out ++ [.close]) back := by
  cases c with
  | absent | pending => exact lawful.elim
  | opened | closing => exact ⟨lawful.1.closing, lawful.2⟩

theorem LawfulAt.connectorSends (lawful : LawfulAt l .opened out back) (clean : Traffic more) :
    LawfulAt l .opened out (back ++ more) := by
  cases l with
  | absent => exact lawful.elim
  | pending =>
      obtain ⟨none, rest, kept, rfl⟩ := lawful
      exact ⟨none, rest ++ more, (traffic_append rest more).mpr ⟨kept, clean⟩, rfl⟩
  | opened | closing => exact ⟨lawful.1, (traffic_append back more).mpr ⟨lawful.2, clean⟩⟩

theorem LawfulAt.connectorCloses (lawful : LawfulAt l .opened out back) :
    LawfulAt l .closing out (back ++ [.close]) := by
  cases l with
  | absent => exact lawful.elim
  | pending =>
      obtain ⟨none, rest, kept, rfl⟩ := lawful
      exact Or.inl ⟨none, rest ++ [.close], kept.closing, rfl⟩
  | opened | closing => exact ⟨lawful.1, lawful.2.closing⟩

/-- An end that is up takes traffic from a channel that is not about to be reused. -/
theorem LawfulAt.listenerTakes (lawful : LawfulAt l c out (m :: rest)) (clean : m.traffic = true)
    (up : l = .opened ∨ l = .closing) : LawfulAt l c out rest := by
  rcases up with rfl | rfl
  · cases c with
    | absent | pending => exact lawful.elim
    | opened => exact ⟨lawful.1, ((traffic_cons m rest).mp lawful.2).2⟩
    | closing => exact ⟨lawful.1, lawful.2.tail clean⟩
  · cases c with
    | pending => exact lawful.elim
    | absent | closing => exact ⟨lawful.1, lawful.2.tail clean⟩
    | opened => exact ⟨lawful.1, ((traffic_cons m rest).mp lawful.2).2⟩

theorem LawfulAt.connectorTakes (lawful : LawfulAt l c (m :: rest) back)
    (clean : m.traffic = true) (up : c = .opened ∨ c = .closing) : LawfulAt l c rest back := by
  rcases up with rfl | rfl
  · cases l with
    | absent => exact lawful.elim
    | pending => cases lawful.1
    | opened => exact ⟨((traffic_cons m rest).mp lawful.1).2, lawful.2⟩
    | closing => exact ⟨lawful.1.tail clean, lawful.2⟩
  · cases l with
    | absent | closing => exact ⟨lawful.1.tail clean, lawful.2⟩
    | opened => exact ⟨((traffic_cons m rest).mp lawful.1).2, lawful.2⟩
    | pending =>
        rcases lawful with ⟨none, _⟩ | ⟨⟨old, closing, asked⟩, none⟩
        · cases none
        · cases old with
          | nil => exact closing.elim
          | cons first old =>
              obtain ⟨rfl, rfl⟩ := List.cons.inj asked
              exact Or.inr ⟨⟨old, closing.tail clean, rfl⟩, none⟩

theorem closing_close (closing : Closing (.close :: rest)) : rest = [] := by
  rcases closing with ⟨_, none⟩ | ⟨clean, _⟩
  · exact none
  · cases clean

/-- The listener handles `close` from a connector that is closing. -/
theorem LawfulAt.listenerClosed (lawful : LawfulAt l c out (.close :: rest)) :
    (l = .opened → LawfulAt .absent c (out ++ [.close]) rest) ∧
      (l = .closing → LawfulAt .absent c out rest) := by
  constructor
  · rintro rfl
    cases c with
    | absent | pending => exact lawful.elim
    | opened => cases ((traffic_cons _ rest).mp lawful.2).1
    | closing => exact ⟨lawful.1.closing, closing_close lawful.2⟩
  · rintro rfl
    cases c with
    | pending => exact lawful.elim
    | opened => cases ((traffic_cons _ rest).mp lawful.2).1
    | absent => exact ⟨lawful.1, closing_close lawful.2⟩
    | closing => exact ⟨lawful.1, closing_close lawful.2⟩

theorem LawfulAt.connectorClosed (lawful : LawfulAt l c (.close :: rest) back) :
    (c = .opened → LawfulAt l .absent rest (back ++ [.close])) ∧
      (c = .closing → LawfulAt l .absent rest back) := by
  constructor
  · rintro rfl
    cases l with
    | absent => exact lawful.elim
    | pending => cases lawful.1
    | opened => cases ((traffic_cons _ rest).mp lawful.1).1
    | closing => exact ⟨closing_close lawful.1, lawful.2.closing⟩
  · rintro rfl
    cases l with
    | opened => cases ((traffic_cons _ rest).mp lawful.1).1
    | absent => exact ⟨closing_close lawful.1, lawful.2⟩
    | closing => exact ⟨closing_close lawful.1, lawful.2⟩
    | pending =>
        rcases lawful with ⟨none, _⟩ | ⟨⟨old, closing, asked⟩, none⟩
        · cases none
        · cases old with
          | nil => exact closing.elim
          | cons first old =>
              obtain ⟨rfl, rfl⟩ := List.cons.inj asked
              rw [closing_close closing]
              exact Or.inl ⟨rfl, none⟩

/-- The connector handles `create` only while the listener waits for the reply. -/
theorem LawfulAt.connectorAsked (lawful : LawfulAt l c (.create :: rest) back) :
    l = .pending ∧ c = .absent ∧ rest = [] ∧ back = [] := by
  cases l <;> cases c <;> try exact lawful.elim
  case pending.absent =>
    rcases lawful with ⟨asked, none⟩ | ⟨none, _⟩
    · exact ⟨rfl, rfl, (List.cons.inj asked).2, none⟩
    · cases none
  case pending.closing =>
    rcases lawful with ⟨none, _⟩ | ⟨⟨old, closing, asked⟩, _⟩
    · cases none
    · cases old with
      | nil => exact closing.elim
      | cons first old =>
          rw [← (List.cons.inj asked).1] at closing
          exact absurd List.mem_cons_self closing.not_create
  case absent.absent => cases lawful.1
  case pending.opened => cases lawful.1
  case opened.opened => exact absurd List.mem_cons_self lawful.1.not_create
  case opened.closing => exact absurd List.mem_cons_self lawful.1.not_create
  case closing.opened => exact absurd List.mem_cons_self lawful.1.not_create
  case closing.closing => exact absurd List.mem_cons_self lawful.1.not_create
  case closing.absent => cases lawful.1
  case absent.closing => exact absurd List.mem_cons_self lawful.1.not_create

theorem closing_created {success : Bool} : ¬ Closing (.created success :: rest) := by
  rintro (⟨closed, _⟩ | ⟨clean, _⟩)
  · cases closed
  · cases clean

/-- The reply is the first message the listener finds, while it waits for it. -/
theorem LawfulAt.listenerTold {success : Bool}
    (lawful : LawfulAt l c out (.created success :: rest)) :
    l = .pending ∧ out = [] ∧
      ((success = true ∧ ((c = .opened ∧ Traffic rest) ∨ (c = .closing ∧ Closing rest))) ∨
        (success = false ∧ c = .absent ∧ rest = [])) := by
  cases l <;> cases c <;> try exact lawful.elim
  case pending.absent =>
    rcases lawful with ⟨_, none⟩ | ⟨none, told⟩
    · cases none
    · obtain ⟨same, ended⟩ := List.cons.inj told
      exact ⟨rfl, none, Or.inr ⟨LinkMessage.created.inj same, rfl, ended⟩⟩
  case pending.opened =>
    obtain ⟨none, more, clean, told⟩ := lawful
    obtain ⟨same, ended⟩ := List.cons.inj told
    exact ⟨rfl, none, Or.inl ⟨LinkMessage.created.inj same, Or.inl ⟨rfl, ended ▸ clean⟩⟩⟩
  case pending.closing =>
    rcases lawful with ⟨none, more, closing, told⟩ | ⟨_, none⟩
    · obtain ⟨same, ended⟩ := List.cons.inj told
      exact ⟨rfl, none, Or.inl ⟨LinkMessage.created.inj same, Or.inr ⟨rfl, ended ▸ closing⟩⟩⟩
    · cases none
  case absent.absent => cases lawful.2
  case absent.closing => cases lawful.2
  case opened.opened => cases ((traffic_cons _ rest).mp lawful.2).1
  case closing.opened => cases ((traffic_cons _ rest).mp lawful.2).1
  case opened.closing => exact absurd lawful.2 closing_created
  case closing.closing => exact absurd lawful.2 closing_created
  case closing.absent => exact absurd lawful.2 closing_created

theorem closing_front (closing : Closing (m :: rest)) : m.traffic = true ∨ m = .close := by
  rcases closing with ⟨closed, _⟩ | ⟨clean, _⟩
  · exact Or.inr closed
  · exact Or.inl clean

/-- The front message of the connector, and the phase the listener is in. -/
theorem LawfulAt.listenerFinds (lawful : LawfulAt l c out (m :: rest)) :
    (∃ success, m = .created success ∧ l = .pending) ∨
      ((m.traffic = true ∨ m = .close) ∧ (l = .opened ∨ l = .closing)) := by
  cases l <;> cases c <;> try exact lawful.elim
  case pending.absent =>
    rcases lawful with ⟨_, none⟩ | ⟨_, told⟩
    · cases none
    · exact Or.inl ⟨false, (List.cons.inj told).1, rfl⟩
  case pending.opened =>
    obtain ⟨_, _, _, told⟩ := lawful
    exact Or.inl ⟨true, (List.cons.inj told).1, rfl⟩
  case pending.closing =>
    rcases lawful with ⟨_, _, _, told⟩ | ⟨_, none⟩
    · exact Or.inl ⟨true, (List.cons.inj told).1, rfl⟩
    · cases none
  case absent.absent => cases lawful.2
  case absent.closing => cases lawful.2
  case opened.opened => exact Or.inr ⟨Or.inl ((traffic_cons _ rest).mp lawful.2).1, Or.inl rfl⟩
  case closing.opened => exact Or.inr ⟨Or.inl ((traffic_cons _ rest).mp lawful.2).1, Or.inr rfl⟩
  case opened.closing => exact Or.inr ⟨closing_front lawful.2, Or.inl rfl⟩
  case closing.closing => exact Or.inr ⟨closing_front lawful.2, Or.inr rfl⟩
  case closing.absent => exact Or.inr ⟨closing_front lawful.2, Or.inr rfl⟩

/-- The front message of the listener, and the phase the connector is in. -/
theorem LawfulAt.connectorFinds (lawful : LawfulAt l c (m :: rest) back) :
    (m = .create ∧ l = .pending ∧ c = .absent) ∨
      ((m.traffic = true ∨ m = .close) ∧ (c = .opened ∨ c = .closing)) := by
  cases l <;> cases c <;> try exact lawful.elim
  case pending.absent =>
    rcases lawful with ⟨asked, _⟩ | ⟨none, _⟩
    · exact Or.inl ⟨(List.cons.inj asked).1, rfl, rfl⟩
    · cases none
  case pending.closing =>
    rcases lawful with ⟨none, _⟩ | ⟨⟨old, closing, asked⟩, _⟩
    · cases none
    · cases old with
      | nil => exact closing.elim
      | cons first old =>
          rw [← (List.cons.inj asked).1] at closing
          exact Or.inr ⟨closing_front closing, Or.inr rfl⟩
  case absent.absent => cases lawful.1
  case pending.opened => cases lawful.1
  case opened.opened => exact Or.inr ⟨Or.inl ((traffic_cons _ rest).mp lawful.1).1, Or.inl rfl⟩
  case opened.closing => exact Or.inr ⟨Or.inl ((traffic_cons _ rest).mp lawful.1).1, Or.inr rfl⟩
  case closing.opened => exact Or.inr ⟨closing_front lawful.1, Or.inl rfl⟩
  case closing.closing => exact Or.inr ⟨closing_front lawful.1, Or.inr rfl⟩
  case closing.absent => cases lawful.1
  case absent.closing => exact Or.inr ⟨closing_front lawful.1, Or.inr rfl⟩

/-- With nothing under way both ends have the link up, or neither has it. -/
theorem LawfulAt.quiet (lawful : LawfulAt l c [] []) :
    (l = .opened ∧ c = .opened) ∨ (l = .absent ∧ c = .absent) := by
  cases l <;> cases c <;> try exact lawful.elim
  case absent.absent => exact Or.inr ⟨rfl, rfl⟩
  case opened.opened => exact Or.inl ⟨rfl, rfl⟩
  case pending.absent => rcases lawful with ⟨no, _⟩ | ⟨_, no⟩ <;> cases no
  case pending.opened =>
    obtain ⟨_, _, _, no⟩ := lawful
    cases no
  case pending.closing =>
    rcases lawful with ⟨_, _, _, no⟩ | ⟨⟨old, _, no⟩, _⟩
    · cases no
    · cases old <;> cases no
  case opened.closing => exact lawful.2.elim
  case closing.opened => exact lawful.1.elim
  case closing.closing => exact lawful.1.elim
  case closing.absent => exact lawful.2.elim
  case absent.closing => exact lawful.1.elim

/-- A listener without a link may ask for one: the connector has none or is closing it. -/
theorem LawfulAt.accept (lawful : LawfulAt .absent c out back) :
    LawfulAt .pending c (out ++ [.create]) back := by
  cases c with
  | pending | opened => exact lawful.elim
  | absent =>
      obtain ⟨rfl, rfl⟩ := lawful
      exact Or.inl ⟨rfl, rfl⟩
  | closing => exact Or.inr ⟨⟨out, lawful.1, rfl⟩, lawful.2⟩

end LawfulAt

/-- Every step keeps the life cycle invariant. -/
theorem Step.lawful {s s' : LinkState} (step : s.Step s') (lawful : s.Lawful) : s'.Lawful := by
  unfold Lawful at lawful
  cases step with
  | accept unused =>
      rw [unused] at lawful
      exact lawful.accept
  | listenerActs act =>
      obtain ⟨isOpen, ⟨same, more, clean, out⟩ | ⟨closing, out⟩⟩ := act.shape
      · rw [isOpen] at lawful
        unfold Lawful
        rw [same, out]
        exact lawful.listenerSends clean
      · rw [isOpen] at lawful
        unfold Lawful
        rw [closing, out]
        exact lawful.listenerCloses
  | connectorActs act =>
      obtain ⟨isOpen, ⟨same, more, clean, out⟩ | ⟨closing, out⟩⟩ := act.shape
      · rw [isOpen] at lawful
        unfold Lawful
        rw [same, out]
        exact lawful.connectorSends clean
      · rw [isOpen] at lawful
        unfold Lawful
        rw [closing, out]
        exact lawful.connectorCloses
  | listenerReceives head receive =>
      rw [head] at lawful
      unfold Lawful
      rcases receive.shape with ⟨clean, up, same, out | ⟨isOpen, out⟩⟩ |
        ⟨rfl, gone, ⟨isOpen, out⟩ | ⟨isClosing, out⟩⟩
      · rw [same, out]
        exact lawful.listenerTakes clean up
      · rw [same, out, isOpen]
        exact (isOpen ▸ lawful.listenerTakes clean up).listenerSends (by simp [traffic])
      · rw [gone, out]
        exact lawful.listenerClosed.1 isOpen
      · rw [gone, out]
        exact lawful.listenerClosed.2 isClosing
  | connectorReceives head receive =>
      rw [head] at lawful
      unfold Lawful
      rcases receive.shape with ⟨clean, up, same, out | ⟨isOpen, out⟩⟩ |
        ⟨rfl, gone, ⟨isOpen, out⟩ | ⟨isClosing, out⟩⟩
      · rw [same, out]
        exact lawful.connectorTakes clean up
      · rw [same, out, isOpen]
        exact (isOpen ▸ lawful.connectorTakes clean up).connectorSends (by simp [traffic])
      · rw [gone, out]
        exact lawful.connectorClosed.1 isOpen
      · rw [gone, out]
        exact lawful.connectorClosed.2 isClosing
  | connected head unused =>
      rw [head] at lawful
      obtain ⟨waiting, _, none, quiet⟩ := lawful.connectorAsked
      unfold Lawful
      simp [Half.handled, Half.emit, waiting, none, quiet, LawfulAt]
  | refused head unused =>
      rw [head] at lawful
      obtain ⟨waiting, _, none, quiet⟩ := lawful.connectorAsked
      unfold Lawful
      simp [Half.handled, Half.emit, waiting, unused, none, quiet, LawfulAt]
  | established head waiting =>
      rw [head] at lawful
      obtain ⟨_, none, ⟨_, ⟨up, clean⟩ | ⟨up, closing⟩⟩ | ⟨no, _⟩⟩ := lawful.listenerTold
      · unfold Lawful
        simpa [Half.handled, none, up, LawfulAt] using clean
      · unfold Lawful
        simpa [Half.handled, none, up, LawfulAt] using closing
      · cases no
  | failed head waiting =>
      rw [head] at lawful
      obtain ⟨_, none, ⟨no, _⟩ | ⟨_, gone, ended⟩⟩ := lawful.listenerTold
      · cases no
      · unfold Lawful
        simp [Half.handled, none, gone, ended, LawfulAt]

end LinkState

end Tun01
