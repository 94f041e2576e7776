import Tun01.Protocol.LinkFlow
import Tun01.Tunnel.LinkOps
import Tun01.Tunnel.Endpoint

/-!
# Handlers as moves of the link protocol

What the handlers of a link do, seen from the link: each of them is a step, or
a few steps, of the end of a link, and the frames it queues are the messages of
these steps.
-/

namespace Tun01

def Half.extend (h : Half) (after : LinkEnd) (more : List LinkMessage) : Half :=
  ⟨after, h.sent ++ more, h.inFlight ++ more⟩

/-- A message the handlers of a link may send. -/
def Message.Own (side : Side) (conn id : Short) : Message → Prop
  | .link conn' id' m => conn' = conn ∧ id' = id ∧ m.fits = true
  | .error message => side = .remoteSide ∧ message.length < 2 ^ 31
  | .handshake _ | .agreed => False

namespace StdioTunnel

variable {t t' : StdioTunnel} {conn id : Short} {c : TunnelConnection} {l : ConnectionLink}

/-- The endpoint changes as its end of the link does, and sends the messages of the change. -/
def Plays (t t' : StdioTunnel) (conn id : Short) (moves : Half → Half → Prop) : Prop :=
  ∃ (after : LinkEnd) (out : List Message),
    Moves t t' conn.val id after (out.map Message.payload) ∧ (∀ m ∈ out, m.Own t.side conn id) ∧
      ∀ h : Half, h.toLinkEnd = t.linkEnd conn.val id →
        moves h (h.extend after (out.filterMap (Message.about conn id)))

theorem Plays.mono {moves coarse : Half → Half → Prop} (plays : Plays t t' conn id moves)
    (finer : ∀ h h', moves h h' → coarse h h') : Plays t t' conn id coarse := by
  obtain ⟨after, out, change, own, step⟩ := plays
  exact ⟨after, out, change, own, fun h same => finer _ _ (step h same)⟩

theorem Plays.trans {t'' : StdioTunnel} {moves more both : Half → Half → Prop}
    (first : Plays t t' conn id moves) (second : Plays t' t'' conn id more)
    (compose : ∀ h h' h'', moves h h' → more h' h'' → both h h'') : Plays t t'' conn id both := by
  obtain ⟨middle, out, change, own, step⟩ := first
  obtain ⟨after, out', change', own', step'⟩ := second
  refine ⟨after, out ++ out', ?_, ?_, ?_⟩
  · rw [List.map_append]
    exact change.trans change'
  · intro m member
    rcases List.mem_append.mp member with before | later
    · exact own m before
    · rw [← change.change.side]
      exact own' m later
  · intro h same
    have last := step' (h.extend middle (out.filterMap (Message.about conn id))) change.own.symm
    have all := compose _ _ _ (step h same) last
    unfold Half.extend at all
    rw [List.append_assoc, List.append_assoc, ← List.filterMap_append] at all
    exact all

/-- A change without messages. -/
theorem Moves.plays {moves : Half → Half → Prop} {after : LinkEnd}
    (change : Moves t t' conn.val id after [])
    (step : ∀ h : Half, h.toLinkEnd = t.linkEnd conn.val id → moves h { h with toLinkEnd := after }) :
    Plays t t' conn id moves := by
  refine ⟨after, [], change, (fun _ member => by cases member), fun h same => ?_⟩
  have last := step h same
  unfold Half.extend
  rw [List.filterMap_nil, List.append_nil, List.append_nil]
  exact last

/-- A change with one message. -/
theorem Moves.playsOne {moves : Half → Half → Prop} {after : LinkEnd} {m : LinkMessage}
    (change : Moves t t' conn.val id after [m.encode conn id]) (fits : m.fits = true)
    (step : ∀ h : Half, h.toLinkEnd = t.linkEnd conn.val id →
      moves h (({ h with toLinkEnd := after } : Half).emit m)) : Plays t t' conn id moves := by
  refine ⟨after, [.link conn id m], change, ?_, fun h same => ?_⟩
  · intro message member
    rw [List.mem_singleton.mp member]
    exact ⟨rfl, rfl, fits⟩
  · have last := step h same
    have about : [Message.link conn id m].filterMap (Message.about conn id) = [m] := by
      simp [Message.about]
    unfold Half.extend
    rw [about]
    exact last

/-- A change and then one message. -/
theorem Moves.playsEmit {moves : Half → Half → Prop} {after : LinkEnd}
    (change : Moves t t' conn.val id after []) {m : LinkMessage} (fits : m.fits = true)
    (step : ∀ h : Half, h.toLinkEnd = t.linkEnd conn.val id →
      moves h (({ h with toLinkEnd := after } : Half).emit m)) :
    Plays t (t'.emit (m.encode conn id)) conn id moves := by
  have emitted := Moves.emit change.sound conn.val id (m.encode conn id)
  rw [change.own] at emitted
  exact (change.trans emitted).playsOne fits step

/-! ## Sending -/

/-- The header, the fields and `send` are one frame with the message. -/
theorem send_message (ready : t.Ready) (isConn : c.m_id = conn.val) (m : LinkMessage) :
    ((t.writeLinkHeader c m.command id).writeBytes m.fields).send =
      .ok (t.emit (m.encode conn id)) := by
  have whole : (t.writeLinkHeader c m.command id).writeBytes m.fields =
      t.writeBytes (m.encode conn id) := by
    rw [writeLinkHeader_eq, writeBytes_writeBytes, isConn, Short.ofInt_val]
    unfold LinkMessage.encode
    simp only [List.append_assoc]
  rw [whole]
  exact send_writeBytes ready (LinkMessage.encode_ne_nil conn id m)

theorem send_bare (ready : t.Ready) (isConn : c.m_id = conn.val) (m : LinkMessage)
    (bare : m.fields = []) :
    (t.writeLinkHeader c m.command id).send = .ok (t.emit (m.encode conn id)) := by
  have sent := @send_message _ _ id _ ready isConn m
  rw [bare] at sent
  rw [← sent]
  congr 1
  rw [writeLinkHeader_eq, writeBytes_writeBytes, List.append_nil]

/-- `closeLink` on a link that is up. -/
theorem closeLink_plays (sound : t.Sound) (isConn : c.m_id = conn.val)
    (found : t.link? conn.val id = some l) (isOpen : t.phase conn.val id = .opened) :
    ∃ t', t.closeLink c l = .ok t' ∧ Plays t t' conn id Half.Act := by
  have up : l.m_closing = false := by
    obtain ⟨x, same, up⟩ := link?_of_opened isOpen
    rw [found] at same
    rw [Option.some.inj same]
    exact up
  have ids := ((sound.links conn.val id).link l found).1
  have closing := Moves.setClosing sound found isConn
  have sent := @send_bare (t.setClosing c l) _ id _ closing.sound.ready isConn .close rfl
  refine ⟨_, ?_, closing.playsEmit (m := .close) rfl fun h same => ?_⟩
  · unfold closeLink
    rw [up, ids]
    exact sent
  · rw [← same]
    exact .close (by rw [show h.phase = _ from congrArg LinkEnd.phase same]; exact isOpen)

/-- `sendData` after bytes were read. -/
theorem sendData_eq (ready : t.Ready) (isConn : c.m_id = conn.val) (ids : l.m_id = id)
    (bytes : List Byte) :
    t.sendData c l bytes = .ok (t.emit (LinkMessage.encode conn id
      (if c.m_spec.ackPackets then .sendForAck bytes else .send bytes))) := by
  unfold sendData
  rw [ids, writeShort_eq, writeBytes_writeBytes]
  cases c.m_spec.ackPackets with
  | true => exact send_message (c := c) ready isConn (.sendForAck bytes)
  | false => exact send_message (c := c) ready isConn (.send bytes)

/-- `setAcknowledged` changes a flag of the link and its events. -/
theorem setAcknowledged_moves (sound : t.Sound) (isConn : c.m_id = conn.val)
    (found : t.link? conn.val id = some l) (ack : Bool) :
    Moves t (t.setAcknowledged c l ack).1 conn.val id (t.linkEnd conn.val id) [] ∧
      (t.setAcknowledged c l ack).1.link? conn.val id = some (t.setAcknowledged c l ack).2 ∧
      (t.setAcknowledged c l ack).2.m_buffer = l.m_buffer ∧
      (t.setAcknowledged c l ack).2.m_socket = l.m_socket ∧
      (t.setAcknowledged c l ack).2.m_closing = l.m_closing := by
  obtain ⟨ids, valid, _⟩ := (sound.links conn.val id).link l found
  let l' : ConnectionLink := { l with m_acknowledged := ack }
  have put := @Moves.put _ _ _ _ l' sound found rfl rfl rfl valid
  have same : { t.linkEnd conn.val id with held := l'.m_buffer.pending } = t.linkEnd conn.val id := by
    have held := held_of_link found
    change LinkEnd.mk _ l.m_buffer.pending _ _ = _
    rw [← held]
    rfl
  rw [same] at put
  have stored : (t.putLink conn.val l').link? conn.val id = some l' := by
    have self := link?_putLink_self (l := l') (connection?_of_link? found)
    rwa [show l'.m_id = id from ids] at self
  unfold setAcknowledged
  dsimp only
  rw [isConn]
  split
  · exact ⟨put, stored, rfl, rfl, rfl⟩
  · refine ⟨?_, stored, rfl, rfl, rfl⟩
    have events := Moves.setEvents put.sound conn.val id l.m_socket
      { POLLIN := ack, POLLOUT := l.m_buffer.unsentData }
    rw [put.own] at events
    have pointer : linkPointer c l' = .connectionLink conn.val id l.m_socket := by
      rw [linkPointer, isConn, show l'.m_id = id from ids]
    rw [← pointer] at events
    exact put.trans events

/-! ## Dispatch of a link -/

theorem linkRead_plays (sound : t.Sound) (isConn : c.m_id = conn.val)
    (found : t.link? conn.val id = some l) (isOpen : t.phase conn.val id = .opened)
    {read : SysResult (List Byte)} (within : read.ReadsWithin LINK_BUFFER_SIZE) :
    ∃ t' l' closed, t.linkRead c l read = .ok (t', l', closed) ∧ Plays t t' conn id Half.Act ∧
      (closed = false → t'.link? conn.val id = some l' ∧ l'.m_buffer = l.m_buffer ∧
        t'.phase conn.val id = .opened) := by
  obtain ⟨ids, _, mine⟩ := (sound.links conn.val id).link l found
  have closes : ∃ t' l' closed,
      (do let t' ← t.closeLink c l; return (t', l, true) : Except Fault _) = .ok (t', l', closed) ∧
        Plays t t' conn id Half.Act ∧ (closed = false → t'.link? conn.val id = some l' ∧
          l'.m_buffer = l.m_buffer ∧ t'.phase conn.val id = .opened) := by
    obtain ⟨t', result, plays⟩ := closeLink_plays sound isConn found isOpen
    refine ⟨t', l, true, ?_, plays, fun no => by cases no⟩
    rw [result]
    rfl
  match read with
  | .fail errno => exact closes
  | .ok [] => exact closes
  | .ok (b :: bytes) =>
      let m : LinkMessage :=
        if c.m_spec.ackPackets then .sendForAck (b :: bytes) else .send (b :: bytes)
      have carries : m = .send (b :: bytes) ∨ m = .sendForAck (b :: bytes) := by
        cases acks : c.m_spec.ackPackets with
        | true => exact Or.inr (by simp only [m, acks, ↓reduceIte])
        | false => exact Or.inl (by simp only [m, acks]; rfl)
      have fits : m.fits = true := by
        have small := within _ rfl
        rcases carries with is | is <;> rw [is] <;> exact decide_eq_true small
      have received := Moves.received sound mine (b :: bytes)
      have sent : (t.log (.received l.m_socket (b :: bytes))).sendData c l (b :: bytes) =
          .ok ((t.log (.received l.m_socket (b :: bytes))).emit (m.encode conn id)) :=
        sendData_eq received.sound.ready isConn ids (b :: bytes)
      have plays : Plays t ((t.log (.received l.m_socket (b :: bytes))).emit (m.encode conn id))
          conn id Half.Act := by
        refine received.playsEmit fits fun h same => ?_
        have phase : h.phase = .opened := by
          rw [show h.phase = _ from congrArg LinkEnd.phase same]
          exact isOpen
        rw [← same]
        exact .read (b :: bytes) m phase carries
      have emitted := Moves.emit received.sound conn.val id (m.encode conn id)
      have foundAfter : ((t.log (.received l.m_socket (b :: bytes))).emit
          (m.encode conn id)).link? conn.val id = some l := found
      have phaseAfter : ((t.log (.received l.m_socket (b :: bytes))).emit
          (m.encode conn id)).phase conn.val id = .opened := by
        have view := congrArg LinkEnd.phase (emitted.own.trans received.own)
        exact view.trans isOpen
      cases acks : c.m_spec.ackPackets with
      | false =>
          refine ⟨_, l, false, ?_, plays, fun _ => ⟨foundAfter, rfl, phaseAfter⟩⟩
          unfold linkRead
          dsimp only
          rw [sent]
          simp only [ok_bind, acks]
          rfl
      | true =>
          obtain ⟨acked, stored, buffer, _, _⟩ :=
            setAcknowledged_moves (c := c) emitted.sound isConn foundAfter false
          refine ⟨_, _, false, ?_, plays.trans (@Moves.plays _ _ _ _ (fun h h' => h' = h) _ acked ?_) ?_,
            fun _ => ⟨stored, buffer, ?_⟩⟩
          · unfold linkRead
            dsimp only
            rw [sent]
            simp only [ok_bind, acks]
            rfl
          · intro h same
            rw [← same]
          · rintro h h' h'' act rfl
            exact act
          · have view := congrArg LinkEnd.phase acked.own
            exact view.trans phaseAfter

theorem linkWrite_plays (sound : t.Sound) (isConn : c.m_id = conn.val)
    (found : t.link? conn.val id = some l) (isOpen : t.phase conn.val id = .opened)
    {write : SysResult Nat} (within : write.WritesWithin l.m_buffer.request) {l' : ConnectionLink}
    (result : t.linkWrite c l write = .ok (t', l')) :
    Plays t t' conn id Half.Act ∧ t'.link? conn.val id = some l' ∧
      t'.phase conn.val id = .opened := by
  obtain ⟨ids, valid, mine⟩ := (sound.links conn.val id).link l found
  unfold linkWrite at result
  rcases written : l.m_buffer.writeData write with ⟨buffer, outcome⟩
  rw [written] at result
  cases outcome with
  | error fault => cases result
  | ok bytes =>
      obtain ⟨valid', pending⟩ := valid.writeData within written
      let link : ConnectionLink := { l with m_buffer := buffer }
      have put := @Moves.put _ _ _ _ link sound found rfl rfl rfl valid'
      have sent := Moves.sent put.sound (s := l.m_socket)
        (show l.m_socket ∈ (t.putLink conn.val link).os.socketsOf conn.val id from mine) bytes
      rw [put.own] at sent
      have both := put.trans sent
      have stored : ((t.putLink conn.val link).log (.sent l.m_socket bytes)).link? conn.val id =
          some link := by
        have self := link?_putLink_self (l := link) (connection?_of_link? found)
        rwa [show link.m_id = id from ids] at self
      have plays : Plays t ((t.putLink conn.val link).log (.sent l.m_socket bytes)) conn id
          Half.Act := by
        refine both.plays fun h same => ?_
        have phase : h.phase = .opened := by
          rw [show h.phase = _ from congrArg LinkEnd.phase same]
          exact isOpen
        have front : h.held = bytes ++ buffer.pending := by
          rw [show h.held = _ from congrArg LinkEnd.held same, ← pending]
          exact held_of_link found
        rw [← same]
        exact .write bytes buffer.pending phase front
      have view : ((t.putLink conn.val link).log (.sent l.m_socket bytes)).phase conn.val id =
          .opened := (congrArg LinkEnd.phase both.own).trans isOpen
      simp only [ok_bind, isConn] at result
      split at result
      · obtain ⟨rfl, rfl⟩ := Prod.mk.inj (Except.ok.inj result)
        exact ⟨plays, stored, view⟩
      · obtain ⟨rfl, rfl⟩ := Prod.mk.inj (Except.ok.inj result)
        have events := Moves.setEvents both.sound conn.val id l.m_socket
          { POLLIN := l.m_acknowledged }
        have pointer : linkPointer c link = .connectionLink conn.val id l.m_socket := by
          rw [linkPointer, isConn, show link.m_id = id from ids]
        rw [← pointer] at events
        refine ⟨plays.trans (@Moves.plays _ _ _ _ (fun h h' => h' = h) _ events ?_) ?_, stored, ?_⟩
        · intro h same
          rw [← same]
        · rintro h h' h'' act rfl
          exact act
        · exact (congrArg LinkEnd.phase events.own).trans view

/-- The dispatch of a link that is registered: it reads or closes, writes, and may close. -/
theorem linkPolled_plays (sound : t.Sound) (isConn : c.m_id = conn.val)
    (found : t.link? conn.val id = some l) (isOpen : t.phase conn.val id = .opened)
    {revents : PollEvents} {read : SysResult (List Byte)} {write : SysResult Nat}
    (reads : read.ReadsWithin LINK_BUFFER_SIZE) (writes : write.WritesWithin l.m_buffer.request)
    (result : t.linkPolled c l revents read write = .ok t') :
    Plays t t' conn id (Relation.ReflTransGen Half.Act) := by
  have idle : Plays t t conn id (Relation.ReflTransGen Half.Act) :=
    (Moves.refl sound conn.val id).plays fun h same => by
      rw [← same]
  have single : ∀ {a b : StdioTunnel}, Plays a b conn id Half.Act →
      Plays a b conn id (Relation.ReflTransGen Half.Act) :=
    fun plays => plays.mono fun _ _ act => .single act
  have join : ∀ {a b d : StdioTunnel}, Plays a b conn id (Relation.ReflTransGen Half.Act) →
      Plays b d conn id Half.Act → Plays a d conn id (Relation.ReflTransGen Half.Act) :=
    fun first second => first.trans second fun _ _ _ many one => many.tail one
  obtain ⟨t₁, l₁, closed, first, plays₁, more₁⟩ : ∃ t₁ l₁ closed,
      t.linkPollIn c l revents read = .ok (t₁, l₁, closed) ∧
      Plays t t₁ conn id (Relation.ReflTransGen Half.Act) ∧
      (closed = false → t₁.link? conn.val id = some l₁ ∧ l₁.m_buffer = l.m_buffer ∧
        t₁.phase conn.val id = .opened) := by
    unfold linkPollIn
    split
    · obtain ⟨t₁, l₁, closed, first, plays, more⟩ :=
        linkRead_plays sound isConn found isOpen reads
      exact ⟨t₁, l₁, closed, first, single plays, more⟩
    · exact ⟨t, l, false, rfl, idle, fun _ => ⟨found, rfl, isOpen⟩⟩
  unfold linkPolled at result
  rw [first] at result
  simp only [ok_bind] at result
  cases closed with
  | true =>
      rw [← Except.ok.inj result]
      exact plays₁
  | false =>
      obtain ⟨found₁, buffer₁, isOpen₁⟩ := more₁ rfl
      have sound₁ : t₁.Sound := plays₁.choose_spec.choose_spec.1.sound
      cases second : t₁.linkPollOut c l₁ revents write with
      | error fault =>
          rw [second] at result
          cases result
      | ok pair =>
          obtain ⟨t₂, l₂⟩ := pair
          rw [second, ok_bind] at result
          obtain ⟨plays₂, found₂, isOpen₂⟩ :
              Plays t t₂ conn id (Relation.ReflTransGen Half.Act) ∧
                t₂.link? conn.val id = some l₂ ∧ t₂.phase conn.val id = .opened := by
            unfold linkPollOut at second
            split at second
            · obtain ⟨plays, found₂, isOpen₂⟩ := linkWrite_plays sound₁ isConn found₁ isOpen₁
                (by rw [buffer₁]; exact writes) second
              exact ⟨join plays₁ plays, found₂, isOpen₂⟩
            · obtain ⟨rfl, rfl⟩ := Prod.mk.inj (Except.ok.inj second)
              exact ⟨plays₁, found₁, isOpen₁⟩
          have sound₂ : t₂.Sound := plays₂.choose_spec.choose_spec.1.sound
          dsimp only at result
          cases failure : revents.failure with
          | true =>
              obtain ⟨t₃, third, plays₃⟩ := closeLink_plays sound₂ isConn found₂ isOpen₂
              simp only [failure, third] at result
              rw [← Except.ok.inj result]
              exact join plays₂ plays₃
          | false =>
              simp only [failure] at result
              rw [← Except.ok.inj result]
              exact plays₂

def withReader (t : StdioTunnel) (stream : ReadStream) : StdioTunnel :=
  { t with m_read_stream := stream }

def reading (t : StdioTunnel) (queue : List Byte) : StdioTunnel :=
  { t with m_read_stream := t.m_read_stream.withQueue queue }

@[simp] theorem readShort_reading (t : StdioTunnel) (s : Short) (rest : List Byte) :
    (t.reading (WriteStream.shortBytes s ++ rest)).readShort = .ok (s, t.reading rest) := by
  have read := ReadStream.readShort_shortBytes t.m_read_stream s rest
  unfold readShort reading
  dsimp only
  rw [read]
  rfl

@[simp] theorem readShort_reading_last (t : StdioTunnel) (s : Short) :
    (t.reading (WriteStream.shortBytes s)).readShort = .ok (s, t.reading []) :=
  readShort_reading t s []

@[simp] theorem readBytes_reading (t : StdioTunnel) (bytes : List Byte) :
    (t.reading bytes).readBytes bytes.length = .ok (bytes, t.reading []) := by
  have read := ReadStream.readBytes_append t.m_read_stream bytes []
  rw [List.append_nil] at read
  unfold readBytes reading
  dsimp only
  rw [read]
  rfl

theorem Sound.withReader (sound : t.Sound) (stream : ReadStream) : (t.withReader stream).Sound where
  ready := ⟨sound.ready.poller, sound.ready.fields⟩
  os := sound.os
  keys := sound.keys
  listeners := sound.listeners
  links := fun c i => ⟨(sound.links c i).link, (sound.links c i).registered⟩

theorem Sound.reading (sound : t.Sound) (queue : List Byte) : (t.reading queue).Sound :=
  sound.withReader (t.m_read_stream.withQueue queue)

theorem phase_closing_iff (found : t.link? conn.val id = some l) :
    t.phase conn.val id = .closing ↔ l.m_closing = true := by
  constructor
  · intro closing
    cases up : l.m_closing with
    | true => rfl
    | false =>
        unfold phase at closing
        simp only [found, up, Bool.false_eq_true, ↓reduceIte] at closing
        split at closing <;> cases closing
  · exact phase_of_closing found

/-! ## Messages of a link that is up -/

theorem length_short {bytes : List Byte} (small : bytes.length ≤ LINK_BUFFER_SIZE) :
    (Short.ofInt bytes.length).val = bytes.length := by
  have bound : LINK_BUFFER_SIZE = 4096 := rfl
  exact Short.val_ofInt_of_range (by omega) (by omega)

/-- `receiveData` once the bytes are read. -/
theorem receiveData_read {bytes : List Byte} (small : bytes.length ≤ LINK_BUFFER_SIZE) :
    (t.reading (WriteStream.shortBytes (Short.ofInt bytes.length) ++ bytes)).receiveData c l =
      if l.m_closing then .ok (t.reading [], l)
      else
        .ok (((t.reading []).putLink c.m_id
          { l with m_buffer := l.m_buffer.insert bytes }).setEvents
            (linkPointer c { l with m_buffer := l.m_buffer.insert bytes }) l.m_socket POLLOUT,
          { l with m_buffer := l.m_buffer.insert bytes }) := by
  have length := length_short small
  have fine : ¬ (Short.ofInt bytes.length).val > LINK_BUFFER_SIZE := by
    rw [length]
    exact Int.not_lt.mpr (Int.ofNat_le.mpr small)
  have read := readBytes_reading t bytes
  unfold receiveData
  rw [readShort_reading, ok_bind]
  dsimp only
  rw [if_neg fine, length, read, ok_bind]
  dsimp only
  rw [SockBuffer.pushOnBuffer_whole _ rfl]
  split <;> rfl

/-- `receiveData` on a link that is closing drops the bytes. -/
theorem receiveData_closing (closing : l.m_closing = true) {bytes : List Byte}
    (small : bytes.length ≤ LINK_BUFFER_SIZE) :
    (t.reading (WriteStream.shortBytes (Short.ofInt bytes.length) ++ bytes)).receiveData c l =
      .ok (t.reading [], l) := by
  rw [receiveData_read small, if_pos closing]

/-- `receiveData` on a link that is up keeps the bytes for the socket. -/
theorem receiveData_open (sound : t.Sound) (isConn : c.m_id = conn.val)
    (found : t.link? conn.val id = some l) (up : l.m_closing = false) {bytes : List Byte}
    (small : bytes.length ≤ LINK_BUFFER_SIZE) :
    ∃ t' l', (t.reading (WriteStream.shortBytes (Short.ofInt bytes.length) ++ bytes)).receiveData
        c l = .ok (t', l') ∧ l'.m_closing = false ∧ l'.m_id = id ∧
      Moves (t.reading []) t' conn.val id
        { t.linkEnd conn.val id with held := (t.linkEnd conn.val id).held ++ bytes } [] := by
  obtain ⟨ids, valid, _⟩ := (sound.links conn.val id).link l found
  let l' : ConnectionLink := { l with m_buffer := l.m_buffer.insert bytes }
  have put := @Moves.put _ _ _ _ l' (sound.reading []) found rfl rfl rfl
    (SockBuffer.insert_valid valid bytes)
  have held : l'.m_buffer.pending = (t.linkEnd conn.val id).held ++ bytes := by
    rw [show (t.linkEnd conn.val id).held = l.m_buffer.pending from held_of_link found]
    exact SockBuffer.insert_pending l.m_buffer bytes
  rw [held] at put
  have events := Moves.setEvents put.sound conn.val id l.m_socket POLLOUT
  rw [put.own] at events
  have pointer : linkPointer c l' = .connectionLink conn.val id l.m_socket := by
    rw [linkPointer, isConn, show l'.m_id = id from ids]
  rw [← pointer] at events
  refine ⟨_, l', ?_, up, ids, put.trans events⟩
  rw [receiveData_read small, if_neg (by rw [up]; exact Bool.false_ne_true), isConn]

/-- A message of a link that is up, as the protocol has it. -/
theorem processLinkMessage_plays (sound : t.Sound) (isConn : c.m_id = conn.val)
    (found : t.link? conn.val id = some l)
    (up : t.phase conn.val id = .opened ∨ t.phase conn.val id = .closing) {m : LinkMessage}
    (kind : m.traffic = true ∨ m = .close) (fits : m.fits = true) :
    ∃ t', (t.reading m.fields).processLinkMessage c m.command l = .ok t' ∧
      Plays (t.reading []) t' conn id fun h h' => h.Receive m h' := by
  obtain ⟨ids, valid, _⟩ := (sound.links conn.val id).link l found
  have sound' := sound.reading []
  have phases : ∀ h : Half, h.toLinkEnd = (t.reading []).linkEnd conn.val id →
      h.phase = t.phase conn.val id := fun h same => congrArg LinkEnd.phase same
  have opened : l.m_closing = false → t.phase conn.val id = .opened := by
    intro notClosing
    rcases up with isOpen | closing
    · exact isOpen
    · rw [(phase_closing_iff found).mp closing] at notClosing
      cases notClosing
  have ignore : l.m_closing = true → m.traffic = true →
      Plays (t.reading []) (t.reading []) conn id fun h h' => h.Receive m h' := by
    intro closing clean
    refine (Moves.refl sound' conn.val id).plays fun h same => ?_
    rw [← same]
    exact .ignored m ((phases h same).trans ((phase_closing_iff found).mpr closing)) clean
  cases m with
  | create => rcases kind with no | no <;> cases no
  | created _ => rcases kind with no | no <;> cases no
  | send bytes =>
      have small := of_decide_eq_true fits
      cases closing : l.m_closing with
      | true =>
          refine ⟨t.reading [], ?_, ignore closing rfl⟩
          unfold processLinkMessage
          simp only [LinkMessage.command, LinkMessage.fields, ↓reduceIte, ok_bind,
            receiveData_closing closing small]
          rfl
      | false =>
          obtain ⟨t', l', result, _, _, moves⟩ :=
            receiveData_open sound isConn found closing small
          refine ⟨t', ?_, moves.plays fun h same => ?_⟩
          · unfold processLinkMessage
            simp only [LinkMessage.command, LinkMessage.fields, ↓reduceIte, ok_bind,
              result]
            rfl
          · have bytesHeld : h.held = (t.linkEnd conn.val id).held := congrArg LinkEnd.held same
            have receive := Half.Receive.send (h := h) bytes ((phases h same).trans (opened closing))
            rw [bytesHeld] at receive
            change h.Receive _ { h with toLinkEnd := { (t.reading []).linkEnd conn.val id with
              held := (t.linkEnd conn.val id).held ++ bytes } }
            rw [← same]
            exact receive
  | sendForAck bytes =>
      have small := of_decide_eq_true fits
      cases closing : l.m_closing with
      | true =>
          obtain ⟨moves, _⟩ := setAcknowledged_moves (c := c) sound' isConn found true
          refine ⟨((t.reading []).setAcknowledged c l true).1, ?_, moves.plays fun h same => ?_⟩
          · unfold processLinkMessage
            simp only [LinkMessage.command, LinkMessage.fields, ok_bind,
              receiveData_closing closing small, closing]
            rfl
          · rw [← same]
            exact .ignored _ ((phases h same).trans ((phase_closing_iff found).mpr closing)) rfl
      | false =>
          obtain ⟨t', l', result, closing', ids', moves⟩ :=
            receiveData_open sound isConn found closing small
          refine ⟨t'.emit (LinkMessage.ack.encode conn id), ?_,
            moves.playsEmit (m := .ack) rfl fun h same => ?_⟩
          · have sent := @send_bare _ _ id _ moves.sound.ready isConn .ack rfl
            unfold processLinkMessage
            simp only [LinkMessage.command, LinkMessage.fields, ok_bind, result, closing',
              ids']
            exact sent
          · have bytesHeld : h.held = (t.linkEnd conn.val id).held := congrArg LinkEnd.held same
            have receive := Half.Receive.sendForAck (h := h) bytes
              ((phases h same).trans (opened closing))
            rw [bytesHeld] at receive
            change h.Receive _ (({ h with toLinkEnd := { (t.reading []).linkEnd conn.val id with
              held := (t.linkEnd conn.val id).held ++ bytes } } : Half).emit .ack)
            rw [← same]
            exact receive
  | ack =>
      obtain ⟨moves, _⟩ := setAcknowledged_moves (c := c) sound' isConn found true
      refine ⟨((t.reading []).setAcknowledged c l true).1, rfl, moves.plays fun h same => ?_⟩
      rw [← same]
      cases closing : l.m_closing with
      | true => exact .ignored _ ((phases h same).trans ((phase_closing_iff found).mpr closing)) rfl
      | false => exact .ack ((phases h same).trans (opened closing))
  | close =>
      cases closing : l.m_closing with
      | true =>
          have phase := (phase_closing_iff found).mpr closing
          have erased := @Moves.erase _ conn.val id sound'
            (show t.phase conn.val id ≠ .opened by rw [phase]; decide)
          refine ⟨(t.reading []).eraseLink conn.val id, ?_, erased.plays fun h same => ?_⟩
          · unfold processLinkMessage closeLink
            simp only [LinkMessage.command, LinkMessage.fields, closing, isConn, ids]
            rfl
          · have receive := Half.Receive.closed (h := h) ((phases h same).trans phase)
            rw [← same]
            exact receive
      | false =>
          have closed := Moves.setClosing sound' found isConn
          have emitted := Moves.emit closed.sound conn.val id (LinkMessage.close.encode conn id)
          rw [closed.own] at emitted
          have both := closed.trans emitted
          have erased := @Moves.erase _ conn.val id both.sound
            (by
              rw [show StdioTunnel.phase _ conn.val id = _ from congrArg LinkEnd.phase both.own]
              exact fun no => by cases no)
          rw [both.own] at erased
          have sent := @send_bare _ _ id _ closed.sound.ready isConn .close rfl
          refine ⟨_, ?_, (both.trans erased).playsOne (m := .close) rfl fun h same => ?_⟩
          · have closes : (t.reading []).closeLink c l =
                .ok (((t.reading []).setClosing c l).emit (LinkMessage.close.encode conn id)) := by
              unfold closeLink
              rw [if_neg (by rw [closing]; exact Bool.false_ne_true), ids]
              exact sent
            unfold processLinkMessage
            simp only [LinkMessage.command, LinkMessage.fields, ok_bind, closes, isConn,
              ids]
            rfl
          · have receive := Half.Receive.close (h := h) ((phases h same).trans (opened closing))
            rw [← same]
            exact receive

def linkFields (id : Short) (m : LinkMessage) : List Byte :=
  WriteStream.shortBytes m.command ++ (WriteStream.shortBytes id ++ m.fields)

/-- The reply to a request that was granted. -/
theorem listenProcessMessage_established (sound : t.Sound) (isConn : c.m_id = conn.val)
    (waiting : t.phase conn.val id = .pending) :
    ∃ t', (t.reading (linkFields id (.created true))).listenProcessMessage c = .ok t' ∧
      Plays (t.reading []) t' conn id fun h h' => h' = { h with phase := .opened } := by
  have sound' := sound.reading []
  obtain ⟨l, found⟩ : ∃ l, t.link? conn.val id = some l := by
    cases found : t.link? conn.val id with
    | some l => exact ⟨l, rfl⟩
    | none =>
        rw [phase_of_none found] at waiting
        cases waiting
  have ids := ((sound.links conn.val id).link l found).1
  have moves := Moves.establish sound' found waiting
  refine ⟨_, ?_, moves.plays fun h same => ?_⟩
  · have pointer : linkPointer c l = .connectionLink conn.val id l.m_socket := by
      rw [linkPointer, isConn, ids]
    have stored : (t.reading (WriteStream.shortBytes LINK_SUCCESS)).link? conn.val id = some l := found
    unfold listenProcessMessage linkFields
    simp only [LinkMessage.command, LinkMessage.fields, ok_bind, readShort_reading,
      isConn, ↓reduceIte, stored, readShort_reading_last, pointer]
    rfl
  · rw [← same]

/-- The reply to a request that was refused. -/
theorem listenProcessMessage_failed (sound : t.Sound) (isConn : c.m_id = conn.val)
    (waiting : t.phase conn.val id = .pending) :
    ∃ t', (t.reading (linkFields id (.created false))).listenProcessMessage c = .ok t' ∧
      Plays (t.reading []) t' conn id fun h h' => h' = { h with phase := .absent, held := [] } := by
  have sound' := sound.reading []
  obtain ⟨l, found⟩ : ∃ l, t.link? conn.val id = some l := by
    cases found : t.link? conn.val id with
    | some l => exact ⟨l, rfl⟩
    | none =>
        rw [phase_of_none found] at waiting
        cases waiting
  obtain ⟨ids, _, mine⟩ := (sound.links conn.val id).link l found
  have closed := Moves.closed sound' (s := l.m_socket) mine
  have erased := @Moves.erase _ conn.val id closed.sound
    (by
      rw [show StdioTunnel.phase _ conn.val id = _ from congrArg LinkEnd.phase closed.own]
      change t.phase conn.val id ≠ .opened
      rw [waiting]
      exact fun no => by cases no)
  rw [closed.own] at erased
  refine ⟨_, ?_, (closed.trans erased).plays fun h same => ?_⟩
  · have stored : (t.reading (WriteStream.shortBytes LINK_FAILURE)).link? conn.val id = some l := found
    have refused : LINK_FAILURE ≠ LINK_SUCCESS := by decide
    unfold listenProcessMessage linkFields
    simp only [LinkMessage.command, LinkMessage.fields, ok_bind, readShort_reading,
      isConn, Bool.false_eq_true, ↓reduceIte, stored, readShort_reading_last, refused]
    rfl
  · rw [← same]

/-- Every other message of the other side. -/
theorem listenProcessMessage_plays (sound : t.Sound) (isConn : c.m_id = conn.val)
    (up : t.phase conn.val id = .opened ∨ t.phase conn.val id = .closing) {m : LinkMessage}
    (kind : m.traffic = true ∨ m = .close) (fits : m.fits = true) :
    ∃ t', (t.reading (linkFields id m)).listenProcessMessage c = .ok t' ∧
      Plays (t.reading []) t' conn id fun h h' => h.Receive m h' := by
  obtain ⟨l, found⟩ : ∃ l, t.link? conn.val id = some l := by
    cases found : t.link? conn.val id with
    | some l => exact ⟨l, rfl⟩
    | none =>
        rw [phase_of_none found] at up
        rcases up with no | no <;> cases no
  obtain ⟨t', result, plays⟩ := processLinkMessage_plays sound isConn found up kind fits
  refine ⟨t', ?_, plays⟩
  have stored : (t.reading m.fields).link? conn.val id = some l := found
  have other := LinkMessage.command_ne_create kind
  unfold listenProcessMessage linkFields
  simp only [ok_bind, readShort_reading, isConn, stored, other, ↓reduceIte]
  exact result

def accepting (t : StdioTunnel) (c : TunnelConnection) (s : Nat) (n : Int) : StdioTunnel :=
  (t.setNextId c s (int32 (n + 1))).openSocket c.m_id (Short.ofInt n)

/-- A client is accepted and gets an identifier without a link. -/
theorem listenPolled_accepts (sound : t.Sound) (isConn : c.m_id = conn.val)
    (found : t.connection? conn.val = some c) {s : Nat} {n : Int}
    (role : c.role = .listenSide s n) (unused : t.phase conn.val (Short.ofInt n) = .absent) :
    ∃ t', t.listenPolled c s n (.ok ()) (.ok ()) = .ok t' ∧ Looks t (t.accepting c s n) ∧
      Plays (t.accepting c s n) t' conn (Short.ofInt n) fun h h' =>
        h' = ({ h with phase := .pending, held := [] } : Half).emit .create := by
  have bare : t.bare? c.m_id = some (c.m_spec, c.m_id, .listenSide s n) := by
    unfold bare?
    rw [isConn, found, ← isConn, ← role]
    rfl
  have counted := sound.setNextId bare (int32 (n + 1))
  have sound' : (t.accepting c s n).Sound := counted.openSocket c.m_id (Short.ofInt n)
  have looks : Looks t (t.accepting c s n) := by
    have opened := Looks.openSocket counted c.m_id (Short.ofInt n)
    exact ⟨rfl, rfl, fun x i =>
      (opened.linkEnd x i).trans (linkEnd_setNextId t c s (int32 (n + 1)) x i)⟩
  have known : ((t.accepting c s n).connection? conn.val).isSome := by
    unfold connection? accepting openSocket setNextId
    dsimp only
    rw [isConn, OrderedMap.find?_modify_self, Option.isSome_map]
    exact Option.isSome_iff_exists.mpr ⟨c, found⟩
  have phase : (t.accepting c s n).phase conn.val (Short.ofInt n) = .absent :=
    (congrArg LinkEnd.phase (looks.linkEnd conn.val (Short.ofInt n))).trans unused
  have mine : t.os.next_socket ∈ (t.accepting c s n).os.socketsOf conn.val (Short.ofInt n) := by
    have own := mem_socketsOf_openSocket (t.setNextId c s (int32 (n + 1))) c.m_id (Short.ofInt n)
    rw [isConn] at own
    unfold accepting
    rw [isConn]
    exact own
  have created := Moves.create sound' known phase mine
  have sent := @send_bare _ _ (Short.ofInt n) _ created.sound.ready isConn .create rfl
  refine ⟨_, ?_, looks, created.playsEmit (m := .create) rfl fun h same => ?_⟩
  · have order : t.accepting c s n =
        (t.openSocket c.m_id (Short.ofInt n)).setNextId c s (int32 (n + 1)) := rfl
    unfold listenPolled
    dsimp only
    rw [← sent, order, ← isConn]
    rfl
  · rw [← same]

/-! ## The connecting side -/

theorem reportError_plays (sound : t.Sound) (conn id : Short) {message : List Byte}
    (small : message.length < 2 ^ 31) :
    ∃ t', t.reportError message = .ok t' ∧ t'.os = t.os ∧
      Plays t t' conn id fun h h' => h' = h := by
  unfold reportError
  cases side : t.side with
  | localSide =>
      refine ⟨t, rfl, rfl, (Moves.refl sound conn.val id).plays fun h same => ?_⟩
      rw [← same]
  | remoteSide =>
      have emitted := Moves.emit sound conn.val id (Message.error message).payload
      have sent := send_writeBytes sound.ready (Message.payload_ne_nil (.error message))
      refine ⟨t.emit (Message.error message).payload, ?_, rfl, t.linkEnd conn.val id,
        [.error message], emitted, ?_, fun h same => ?_⟩
      · rw [← sent]
        dsimp only
        rw [writeString_eq, writeShort_eq, writeBytes_writeBytes]
        rfl
      · intro m member
        rw [List.mem_singleton.mp member]
        exact ⟨side, small⟩
      · have none : [Message.error message].filterMap (Message.about conn id) = [] := rfl
        unfold Half.extend
        rw [none, List.append_nil, List.append_nil, ← same]

/-- A host name that came in a frame fits into an error message. -/
theorem report_small {host before after : List Byte} (fits : host.length ≤ 50000000)
    (first : before.length ≤ 100) (second : after.length ≤ 100) :
    (before ++ host ++ after).length < 2 ^ 31 := by
  rw [List.length_append, List.length_append]
  omega

/-- A connection attempt starts as it is, or with a socket. -/
def Attempt (t t₀ : StdioTunnel) (conn : Int) (id : Short) : Prop :=
  t₀ = t ∨ t₀ = t.openSocket conn id

/-- The attempt to connect: a link that is up, or errors. -/
theorem connectLink_plays (sound : t.Sound) (isConn : c.m_id = conn.val)
    (known : (t.connection? conn.val).isSome) (unused : t.phase conn.val id = .absent)
    (host : c.m_spec.m_connect_host.length ≤ 50000000) (connect : ConnectResult) :
    ∃ t₀ t' success, t.connectLink c id connect = .ok (t', success) ∧
      Attempt t t₀ conn.val id ∧ Plays t₀ t' conn id fun h h' =>
        h' = if success then { h with phase := .opened, held := [] } else h := by
  have noHost := @report_small _ [] (text " not found") host (by simp)
    (by simp [text])
  have noConnection := @report_small _ (text "Failed to connect to ") [] host
    (by simp [text]) (by simp)
  rw [List.nil_append] at noHost
  rw [List.append_nil] at noConnection
  have opened := sound.openSocket conn.val id
  have fails : ∀ {message : List Byte}, message.length < 2 ^ 31 → ∃ t₀ t' success,
      (do
        let t' ← (t.openSocket conn.val id).reportError message
        return (t'.log (.closed t.os.next_socket), false) : Except Fault _) = .ok (t', success) ∧
      Attempt t t₀ conn.val id ∧ Plays t₀ t' conn id fun h h' =>
        h' = if success then { h with phase := .opened, held := [] } else h := by
    intro message small
    obtain ⟨t₁, result, sameOs, plays⟩ := reportError_plays opened conn id small
    have mine : t.os.next_socket ∈ t₁.os.socketsOf conn.val id := by
      rw [sameOs]
      exact mem_socketsOf_openSocket t conn.val id
    have closed := Moves.closed (plays.choose_spec.choose_spec.1.sound) mine
    refine ⟨t.openSocket conn.val id, t₁.log (.closed t.os.next_socket), false, ?_, Or.inr rfl,
      plays.trans (@Moves.plays _ _ _ _ (fun h h' => h' = h) _ closed fun h same => by rw [← same])
        fun _ _ _ first second => second.trans first⟩
    rw [result]
    rfl
  cases connect with
  | hostNotFound =>
      obtain ⟨t', result, _, plays⟩ := reportError_plays sound conn id noHost
      refine ⟨t, t', false, ?_, Or.inl rfl, plays⟩
      unfold connectLink
      rw [result]
      rfl
  | noSocket =>
      obtain ⟨t', result, _, plays⟩ := @reportError_plays _ sound conn id
        (text "Cannot create connect socket") (by simp [text])
      refine ⟨t, t', false, ?_, Or.inl rfl, plays⟩
      unfold connectLink
      rw [result]
      rfl
  | connectFailed =>
      unfold connectLink
      rw [isConn]
      exact fails noConnection
  | fcntlFailed =>
      unfold connectLink
      rw [isConn]
      exact fails (by simp [text])
  | connected =>
      have phase : (t.openSocket conn.val id).phase conn.val id = .absent := unused
      have moves := Moves.connect opened known phase (mem_socketsOf_openSocket t conn.val id)
      refine ⟨t.openSocket conn.val id, _, true, ?_, Or.inr rfl, moves.plays fun h same => ?_⟩
      · unfold connectLink
        dsimp only
        rw [linkPointer, isConn]
        rfl
      · rw [← same]
        rfl

/-- A request for a link. -/
theorem connectProcessMessage_create (sound : t.Sound) (isConn : c.m_id = conn.val)
    (known : (t.connection? conn.val).isSome) (unused : t.phase conn.val id = .absent)
    (host : c.m_spec.m_connect_host.length ≤ 50000000) (connect : ConnectResult) :
    ∃ t₀ t', (t.reading (linkFields id .create)).connectProcessMessage c connect = .ok t' ∧
      Attempt (t.reading []) t₀ conn.val id ∧ Plays t₀ t' conn id fun h h' =>
        h' = ({ h with phase := .opened, held := [] } : Half).emit (.created true) ∨
          h' = h.emit (.created false) := by
  have sound' := sound.reading []
  obtain ⟨t₀, t₁, success, result, attempt, plays⟩ := connectLink_plays sound' isConn known unused host connect
  have sound₁ : t₁.Sound := plays.choose_spec.choose_spec.1.sound
  have sent := @send_message _ _ id _ sound₁.ready isConn (.created success)
  have emitted : Plays t₁ (t₁.emit ((LinkMessage.created success).encode conn id)) conn id
      fun h h' => h' = h.emit (.created success) :=
    (Moves.refl sound₁ conn.val id).playsEmit (m := .created success) rfl fun h same => by
      rw [← same]
  refine ⟨t₀, _, ?_, attempt, plays.trans emitted ?_⟩
  · unfold connectProcessMessage linkFields
    simp only [LinkMessage.command, LinkMessage.fields, ok_bind, readShort_reading,
      List.append_nil, readShort_reading_last, ↓reduceIte, result]
    exact sent
  · rintro h h' h'' rfl rfl
    cases success with
    | true => exact Or.inl rfl
    | false => exact Or.inr rfl

/-- Every other message of the other side. -/
theorem connectProcessMessage_plays (sound : t.Sound) (isConn : c.m_id = conn.val)
    (up : t.phase conn.val id = .opened ∨ t.phase conn.val id = .closing) {m : LinkMessage}
    (kind : m.traffic = true ∨ m = .close) (fits : m.fits = true) (connect : ConnectResult) :
    ∃ t', (t.reading (linkFields id m)).connectProcessMessage c connect = .ok t' ∧
      Plays (t.reading []) t' conn id fun h h' => h.Receive m h' := by
  obtain ⟨l, found⟩ : ∃ l, t.link? conn.val id = some l := by
    cases found : t.link? conn.val id with
    | some l => exact ⟨l, rfl⟩
    | none =>
        rw [phase_of_none found] at up
        rcases up with no | no <;> cases no
  obtain ⟨t', result, plays⟩ := processLinkMessage_plays sound isConn found up kind fits
  refine ⟨t', ?_, plays⟩
  have stored : (t.reading m.fields).link? conn.val id = some l := found
  have other := LinkMessage.command_ne_create kind
  unfold connectProcessMessage linkFields
  simp only [ok_bind, readShort_reading, isConn, stored, other, ↓reduceIte]
  exact result

end StdioTunnel

end Tun01
