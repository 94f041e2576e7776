import Tun01.Protocol.LinkFlow
import Tun01.Tunnel.Outcome
import Tun01.Tunnel.System

/-!
# The links of a system

A link of the link protocol is made of the views its two endpoints have of it
and of the messages about it on the two wires.  What a handler does to one
endpoint is a step of the link it is about and leaves every other link alone.
-/

namespace Tun01

/-! ## Wires -/

namespace Wire

variable {w : Wire}

theorem queued_emitting (w : Wire) (before : CustomWriteStream) (out : List (List Byte)) :
    w.queued before.toWriteStream (before.emitting out).toWriteStream =
      { w with sent := w.sent ++ out } := by
  unfold queued CustomWriteStream.emitting
  dsimp only
  rw [List.drop_left, List.map_map]
  have same : WritePacket.payload ∘ WritePacket.padded = id := by
    funext queue
    exact WritePacket.payload_ofQueue queue
  rw [same, List.map_id]

/-- The other endpoint has taken frames that were sent only. -/
def Ordered (w : Wire) : Prop := w.appended.length ≤ w.sent.length

theorem underWay_append (ordered : w.Ordered) (out : List (List Byte)) :
    { w with sent := w.sent ++ out }.underWay = w.underWay ++ out :=
  List.drop_append_of_le_length ordered

end Wire

/-! ## Halves and links -/

namespace System

def half (s : System) (side : Side) (conn id : Short) : Half where
  toLinkEnd := (s.tunnel side).linkEnd conn.val id
  sent := (s.wires side).sent.filterMap (LinkMessage.decode conn id)
  inFlight := (s.wires side).underWay.filterMap (LinkMessage.decode conn id)

def listenerSide (s : System) (conn : Short) : Side :=
  if (s.tunnel .localSide).listens conn.val then .localSide else .remoteSide

def link (s : System) (conn id : Short) : LinkState where
  listener := s.half (s.listenerSide conn) conn id
  connector := s.half (s.listenerSide conn).other conn id
  accepts := ((s.tunnel (s.listenerSide conn)).os.socketsOf conn.val id).length

variable {s s' : System} {side : Side} {e : Endpoint}

@[simp] theorem ends_acted_self (s : System) (side : Side) (e : Endpoint) :
    (s.acted side e).ends side = e := Function.update_self side _ s.ends

@[simp] theorem ends_acted_other (s : System) (side : Side) (e : Endpoint) :
    (s.acted side e).ends side.other = s.ends side.other :=
  Function.update_of_ne side.other_ne _ s.ends

@[simp] theorem tunnel_acted_self (s : System) (side : Side) (e : Endpoint) :
    (s.acted side e).tunnel side = e.tunnel := by
  unfold tunnel
  rw [ends_acted_self]

@[simp] theorem tunnel_acted_other (s : System) (side : Side) (e : Endpoint) :
    (s.acted side e).tunnel side.other = s.tunnel side.other := by
  unfold tunnel
  rw [ends_acted_other]

@[simp] theorem wires_acted_other (s : System) (side : Side) (e : Endpoint) :
    (s.acted side e).wires side.other = s.wires side.other :=
  Function.update_of_ne side.other_ne _ s.wires

theorem wires_acted_self {out : List (List Byte)}
    (writer : e.tunnel.m_write_stream = (s.tunnel side).m_write_stream.emitting out) :
    (s.acted side e).wires side = { s.wires side with sent := (s.wires side).sent ++ out } := by
  have updated : (s.acted side e).wires side =
      (s.wires side).queued (s.writer side) e.tunnel.m_write_stream.toWriteStream :=
    Function.update_self side _ s.wires
  rw [updated, writer]
  exact Wire.queued_emitting (s.wires side) (s.tunnel side).m_write_stream out

theorem half_other_of_same (tunnel : s'.tunnel side = s.tunnel side)
    (wire : s'.wires side = s.wires side) (c i : Short) : s'.half side c i = s.half side c i := by
  unfold half
  rw [tunnel, wire]

/-- What the dispatch of one endpoint does to the links, when it is about one of them. -/
structure Played (s s' : System) (side : Side) (conn id : Short) (opened : Nat)
    (moves : Half → Half → Prop) : Prop where
  own : moves (s.half side conn id) (s'.half side conn id)
  others : ∀ c i, ¬(c = conn ∧ i = id) → s'.half side c i = s.half side c i
  far : ∀ c i, s'.half side.other c i = s.half side.other c i
  kind : ∀ x c, (s'.tunnel x).kind? c = (s.tunnel x).kind? c
  near : ∀ c i, ((s'.tunnel side).os.socketsOf c i).length =
    ((s.tunnel side).os.socketsOf c i).length + if c = conn.val ∧ i = id then opened else 0
  distant : s'.tunnel side.other = s.tunnel side.other

/-- A message is about no link but its own. -/
theorem about_other {conn id c i : Short} {out : List Message}
    (own : ∀ m ∈ out, m.Own (s.tunnel side).side conn id)
    (other : ¬(c = conn ∧ i = id)) : out.filterMap (Message.about c i) = [] := by
  rw [List.filterMap_eq_nil_iff]
  intro m member
  have mine := own m member
  cases m with
  | link conn' id' m =>
      obtain ⟨rfl, rfl, _⟩ := mine
      refine if_neg ?_
      rintro ⟨rfl, rfl⟩
      exact other ⟨rfl, rfl⟩
  | error _ | handshake _ | agreed => rfl


/-- A handler plays a part of its link and adds messages about it to the wire. -/
theorem acted_played {conn id : Short} {opened : Nat} {moves : Half → Half → Prop}
    (ordered : (s.wires side).Ordered)
    (outcome : StdioTunnel.Outcome (s.tunnel side) e.tunnel conn id opened moves) :
    Played s (s.acted side e) side conn id opened moves ∧ ∃ out : List Message,
      (∀ m ∈ out, m.Own (s.tunnel side).side conn id) ∧
      e.tunnel.m_write_stream =
        (s.tunnel side).m_write_stream.emitting (out.map Message.payload) := by
  obtain ⟨t₀, prepares, after, out, moved, own, step⟩ := outcome
  have writer : e.tunnel.m_write_stream =
      (s.tunnel side).m_write_stream.emitting (out.map Message.payload) := by
    rw [moved.change.writer, prepares.looks.writer]
  have wire := wires_acted_self writer
  have half : ∀ c i, (s.acted side e).half side c i =
      (s.half side c i).extend (e.tunnel.linkEnd c.val i)
        (out.filterMap (Message.about c i)) := by
    intro c i
    unfold System.half
    rw [tunnel_acted_self, wire, Wire.underWay_append ordered, List.filterMap_append,
      List.filterMap_append, Message.filterMap_decode]
    rfl
  have kinds : ∀ c, e.tunnel.kind? c = (s.tunnel side).kind? c := fun c =>
    (StdioTunnel.kind?_of_bare moved.change.bare c).trans (prepares.kind c)
  rw [prepares.looks.side] at own
  refine ⟨⟨?_, ?_, ?_, ?_, ?_, tunnel_acted_other s side e⟩, out, own, writer⟩
  · rw [half, moved.own]
    exact step _ (prepares.looks.linkEnd conn.val id).symm
  · intro c i other
    have same : e.tunnel.linkEnd c.val i = (s.tunnel side).linkEnd c.val i :=
      (moved.change.linkEnd fun here => other
        ⟨Short.val_injective here.1, here.2⟩).trans (prepares.looks.linkEnd c.val i)
    rw [half, about_other own other, same]
    unfold Half.extend
    rw [List.append_nil, List.append_nil]
    rfl
  · exact half_other_of_same (tunnel_acted_other s side e) (wires_acted_other s side e)
  · intro x c
    by_cases here : x = side
    · rw [here, tunnel_acted_self]
      exact kinds c
    · have there : x = side.other := by
        cases x <;> cases side <;> first | rfl | exact absurd rfl here
      rw [there, tunnel_acted_other]
  · intro c i
    rw [tunnel_acted_self, moved.change.sockets c i]
    exact prepares.sockets c i

/-! ## Steps of a link -/

theorem listenerSide_of_kind (kind : ∀ x c, (s'.tunnel x).kind? c = (s.tunnel x).kind? c)
    (conn : Short) : s'.listenerSide conn = s.listenerSide conn := by
  unfold listenerSide
  rw [StdioTunnel.listens_of_kind (kind .localSide)]

/-- A link whose listener is known. -/
theorem link_of_listener {conn : Short} (here : s.listenerSide conn = side) (id : Short) :
    s.link conn id = ⟨s.half side conn id, s.half side.other conn id,
      ((s.tunnel side).os.socketsOf conn.val id).length⟩ := by
  unfold link
  rw [here]

theorem link_of_connector {conn : Short} (there : s.listenerSide conn = side.other) (id : Short) :
    s.link conn id = ⟨s.half side.other conn id, s.half side conn id,
      ((s.tunnel side.other).os.socketsOf conn.val id).length⟩ := by
  rw [link_of_listener there, Side.other_other]

theorem here_or_there (s : System) (side : Side) (conn : Short) :
    s.listenerSide conn = side ∨ s.listenerSide conn = side.other := by
  cases s.listenerSide conn <;> cases side <;> first | exact Or.inl rfl | exact Or.inr rfl

namespace Played

variable {conn id : Short} {opened : Nat} {moves : Half → Half → Prop}

theorem listener (played : Played s s' side conn id opened moves) (c : Short) :
    s'.listenerSide c = s.listenerSide c := listenerSide_of_kind played.kind c

theorem link_others (played : Played s s' side conn id opened moves) {c i : Short}
    (other : ¬(c = conn ∧ i = id)) : s'.link c i = s.link c i := by
  have other' : ¬(c.val = conn.val ∧ i = id) := fun same =>
    other ⟨Short.val_injective same.1, same.2⟩
  rcases here_or_there s side c with here | there
  · rw [link_of_listener here, link_of_listener ((played.listener c).trans here),
      played.others c i other, played.far, played.near, if_neg other', Nat.add_zero]
  · rw [link_of_connector there, link_of_connector ((played.listener c).trans there),
      played.others c i other, played.far, played.distant]

theorem link_listener (played : Played s s' side conn id opened moves)
    (here : s.listenerSide conn = side) :
    s'.link conn id = ⟨s'.half side conn id, s.half side.other conn id,
      (s.link conn id).accepts + opened⟩ := by
  rw [link_of_listener ((played.listener conn).trans here), link_of_listener here, played.far,
    played.near, if_pos ⟨rfl, rfl⟩]

theorem link_connector (played : Played s s' side conn id opened moves)
    (there : s.listenerSide conn = side.other) :
    s'.link conn id = ⟨s.half side.other conn id, s'.half side conn id,
      (s.link conn id).accepts⟩ := by
  rw [link_of_connector ((played.listener conn).trans there), link_of_connector there, played.far,
    played.distant]

end Played

/-- An end that acts on its own makes steps of its link. -/
theorem acts_steps {l : LinkState} {h : Half} (acts : Relation.ReflTransGen Half.Act l.listener h) :
    Relation.ReflTransGen LinkState.Step l { l with listener := h } := by
  induction acts with
  | refl => exact .refl
  | tail _ act ih => exact ih.tail (.listenerActs act)

theorem acts_steps' {l : LinkState} {h : Half}
    (acts : Relation.ReflTransGen Half.Act l.connector h) :
    Relation.ReflTransGen LinkState.Step l { l with connector := h } := by
  induction acts with
  | refl => exact .refl
  | tail _ act ih => exact ih.tail (.connectorActs act)

/-- The dispatch of a link. -/
theorem Played.acts {conn id : Short}
    (played : Played s s' side conn id 0 (Relation.ReflTransGen Half.Act)) (c i : Short) :
    Relation.ReflTransGen LinkState.Step (s.link c i) (s'.link c i) := by
  by_cases mine : c = conn ∧ i = id
  · obtain ⟨rfl, rfl⟩ := mine
    rcases here_or_there s side c with here | there
    · have acts := acts_steps (l := s.link c i) (h := s'.half side c i)
        (by rw [link_of_listener here]; exact played.own)
      rw [played.link_listener here]
      rw [link_of_listener here] at acts ⊢
      exact acts
    · have acts := acts_steps' (l := s.link c i) (h := s'.half side c i)
        (by rw [link_of_connector there]; exact played.own)
      rw [played.link_connector there]
      rw [link_of_connector there] at acts ⊢
      exact acts
  · rw [played.link_others mine]

/-- A client is accepted. -/
theorem Played.accepts {conn id : Short}
    (played : Played s s' side conn id 1 fun h h' =>
      h' = ({ h with phase := .pending, held := [] } : Half).emit .create)
    (here : s.listenerSide conn = side) (unused : (s.half side conn id).phase = .absent)
    (c i : Short) : Relation.ReflTransGen LinkState.Step (s.link c i) (s'.link c i) := by
  by_cases mine : c = conn ∧ i = id
  · obtain ⟨rfl, rfl⟩ := mine
    rw [played.link_listener here, played.own, link_of_listener here]
    exact .single (.accept unused)
  · rw [played.link_others mine]

/-! ## Frames that are taken -/

/-- An endpoint has taken a payload from the wire and has not acted on it yet. -/
structure Taken (s s' : System) (side : Side) (payload : List Byte) : Prop where
  near : ∀ c i, s'.half side c i = s.half side c i
  far : ∀ c i, s'.half side.other c i =
    (s.half side.other c i).handled (s'.half side.other c i).inFlight
  front : ∀ c i, (s.half side.other c i).inFlight =
    (LinkMessage.decode c i payload).toList ++ (s'.half side.other c i).inFlight
  kind : ∀ x c, (s'.tunnel x).kind? c = (s.tunnel x).kind? c
  sockets : ∀ x, (s'.tunnel x).os = (s.tunnel x).os

namespace Taken

variable {s₁ : System} {payload : List Byte} {conn id : Short} {opened : Nat}
  {moves : Half → Half → Prop} {m : LinkMessage}

theorem listener (taken : Taken s s₁ side payload) (c : Short) :
    s₁.listenerSide c = s.listenerSide c := listenerSide_of_kind taken.kind c

/-- A payload that is not about a link leaves it alone. -/
theorem link_same (taken : Taken s s₁ side payload) {c i : Short}
    (other : LinkMessage.decode c i payload = none) : s₁.link c i = s.link c i := by
  have far : s₁.half side.other c i = s.half side.other c i := by
    have front := taken.front c i
    rw [other, Option.toList_none, List.nil_append] at front
    rw [taken.far c i, ← front]
    rfl
  rcases here_or_there s side c with here | there
  · rw [link_of_listener here, link_of_listener ((taken.listener c).trans here), taken.near, far,
      taken.sockets]
  · rw [link_of_connector there, link_of_connector ((taken.listener c).trans there), taken.near,
      far, taken.sockets]

theorem others (taken : Taken s s₁ side payload) (played : Played s₁ s' side conn id opened moves)
    {c i : Short} (mine : ¬(c = conn ∧ i = id)) (other : LinkMessage.decode c i payload = none) :
    s'.link c i = s.link c i := (played.link_others mine).trans (taken.link_same other)

/-- The listener handles the front message of the connector. -/
theorem byListener (taken : Taken s s₁ side payload)
    (played : Played s₁ s' side conn id opened moves)
    (about : LinkMessage.decode conn id payload = some m) (here : s.listenerSide conn = side) :
    ∃ rest listener, (s.link conn id).connector.inFlight = m :: rest ∧
      moves (s.link conn id).listener listener ∧
      s'.link conn id = ⟨listener, (s.link conn id).connector.handled rest,
        (s.link conn id).accepts + opened⟩ := by
  have here₁ := (taken.listener conn).trans here
  have front := taken.front conn id
  rw [about] at front
  refine ⟨(s₁.half side.other conn id).inFlight, s'.half side conn id, ?_, ?_, ?_⟩
  · rw [link_of_listener here]
    exact front
  · rw [link_of_listener here, ← taken.near]
    exact played.own
  · rw [played.link_listener here₁, link_of_listener here₁, link_of_listener here, taken.sockets]
    congr 1
    exact taken.far conn id

/-- The connector handles the front message of the listener. -/
theorem byConnector (taken : Taken s s₁ side payload)
    (played : Played s₁ s' side conn id opened moves)
    (about : LinkMessage.decode conn id payload = some m)
    (there : s.listenerSide conn = side.other) :
    ∃ rest connector, (s.link conn id).listener.inFlight = m :: rest ∧
      moves (s.link conn id).connector connector ∧
      s'.link conn id = ⟨(s.link conn id).listener.handled rest, connector,
        (s.link conn id).accepts⟩ := by
  have there₁ := (taken.listener conn).trans there
  have front := taken.front conn id
  rw [about] at front
  refine ⟨(s₁.half side.other conn id).inFlight, s'.half side conn id, ?_, ?_, ?_⟩
  · rw [link_of_connector there]
    exact front
  · rw [link_of_connector there, ← taken.near]
    exact played.own
  · rw [played.link_connector there₁, link_of_connector there₁, link_of_connector there,
      taken.sockets]
    congr 1
    exact taken.far conn id

end Taken

end System

end Tun01
