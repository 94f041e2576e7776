import Tun01.Tunnel.Message
import Tun01.Tunnel.Sockets

/-!
# An endpoint seen from one of its links

`linkEnd` is the end of one link in an endpoint, as the link protocol knows it.
`Change` says that two states of an endpoint differ in one link and in the
frames it has queued, `Sound` what the maps, the poller and the sockets of an
endpoint have to do with each other between two calls of handlers.
-/

namespace Tun01

/-! ## Frames that are queued -/

def CustomWriteStream.emitting (w : CustomWriteStream) (out : List (List Byte)) :
    CustomWriteStream :=
  { w with m_packet_queue := w.m_packet_queue ++ out.map WritePacket.padded }

@[simp] theorem CustomWriteStream.emitting_nil (w : CustomWriteStream) : w.emitting [] = w := by
  unfold emitting
  rw [List.map_nil, List.append_nil]

theorem CustomWriteStream.emitting_emitting (w : CustomWriteStream) (out more : List (List Byte)) :
    (w.emitting out).emitting more = w.emitting (out ++ more) := by
  unfold emitting
  simp only [List.map_append, List.append_assoc]

namespace StdioTunnel

/-- The stream is bound to the poller and holds no field of a message yet. -/
structure Ready (t : StdioTunnel) : Prop where
  poller : t.m_write_stream.m_poller = true
  fields : t.m_write_stream.m_queue = []

def emit (t : StdioTunnel) (payload : List Byte) : StdioTunnel :=
  { t with m_write_stream := t.m_write_stream.emitting [payload] }.setEvents .stdioTunnel
    t.m_write_stream.m_fd POLLOUT

theorem writeBytes_writeBytes (t : StdioTunnel) (first second : List Byte) :
    (t.writeBytes first).writeBytes second = t.writeBytes (first ++ second) := by
  unfold writeBytes mapWriter WriteStream.writeBytes
  simp only [List.append_assoc]

theorem writeShort_eq (t : StdioTunnel) (s : Short) :
    t.writeShort s = t.writeBytes (WriteStream.shortBytes s) := rfl

theorem writeString_eq (t : StdioTunnel) (message : List Byte) :
    t.writeString message =
      t.writeBytes (WriteStream.longBytes message.length ++ message) := by
  unfold writeString writeBytes mapWriter WriteStream.writeString WriteStream.writeLong
    WriteStream.writeBytes
  simp only [List.append_assoc]

/-- The fields written since the last `send` become one frame. -/
theorem send_writeBytes {t : StdioTunnel} (ready : t.Ready) {bytes : List Byte}
    (some' : bytes ≠ []) : (t.writeBytes bytes).send = .ok (t.emit bytes) := by
  have queue : (t.m_write_stream.toWriteStream.writeBytes bytes).m_queue = bytes := by
    rw [WriteStream.writeBytes_queue, ready.fields, List.nil_append]
  have sent := @WriteStream.send_of_nonempty (t.m_write_stream.toWriteStream.writeBytes bytes)
    (by rw [queue]; exact some')
  rw [queue] at sent
  unfold send
  rw [if_pos (show (t.writeBytes bytes).m_write_stream.m_poller = true from ready.poller)]
  unfold mapWriter writeBytes mapWriter
  dsimp only
  rw [sent]
  unfold emit CustomWriteStream.emitting
  rw [ready.fields]
  rfl

theorem writeLinkHeader_eq (t : StdioTunnel) (conn : TunnelConnection) (command id : Short) :
    t.writeLinkHeader conn command id =
      t.writeBytes (WriteStream.shortBytes CMD_CONNECTION ++
        (WriteStream.shortBytes (Short.ofInt conn.m_id) ++
          (WriteStream.shortBytes command ++ WriteStream.shortBytes id))) := by
  unfold writeLinkHeader
  simp only [writeShort_eq, writeBytes_writeBytes, List.append_assoc]

/-! ## What can be observed -/

def bare? (t : StdioTunnel) (conn : Int) : Option (ConnectionSpec × Int × Role) :=
  (t.connection? conn).map fun c => (c.m_spec, c.m_id, c.role)

def registrations (t : StdioTunnel) (x : Polled) : List Pollfd := t.m_poller.registrations x

/-- The phase of a link, or of an identifier without one. -/
def phase (t : StdioTunnel) (conn : Int) (id : Short) : Phase :=
  match t.link? conn id with
  | none => .absent
  | some l =>
      if l.m_closing then .closing
      else if t.registrations (.connectionLink conn id l.m_socket) = [] then .pending
      else .opened

def held (t : StdioTunnel) (conn : Int) (id : Short) : List Byte :=
  match t.link? conn id with
  | none => []
  | some l => l.m_buffer.pending

def linkEnd (t : StdioTunnel) (conn : Int) (id : Short) : LinkEnd :=
  ⟨t.phase conn id, t.held conn id, t.os.input conn id, t.os.output conn id⟩

theorem phase_of_waiting {t : StdioTunnel} {conn : Int} {id : Short} {l : ConnectionLink}
    (found : t.link? conn id = some l) (up : l.m_closing = false)
    (none : t.registrations (.connectionLink conn id l.m_socket) = []) :
    t.phase conn id = .pending := by
  unfold phase
  simp only [found, up, none, Bool.false_eq_true, ↓reduceIte]

theorem phase_of_registered {t : StdioTunnel} {conn : Int} {id : Short} {l : ConnectionLink}
    (found : t.link? conn id = some l) (up : l.m_closing = false)
    (some' : t.registrations (.connectionLink conn id l.m_socket) ≠ []) :
    t.phase conn id = .opened := by
  unfold phase
  simp only [found, up, some', Bool.false_eq_true, ↓reduceIte]

theorem phase_of_closing {t : StdioTunnel} {conn : Int} {id : Short} {l : ConnectionLink}
    (found : t.link? conn id = some l) (closing : l.m_closing = true) :
    t.phase conn id = .closing := by
  unfold phase
  simp only [found, closing, ↓reduceIte]

theorem phase_of_none {t : StdioTunnel} {conn : Int} {id : Short}
    (none : t.link? conn id = none) : t.phase conn id = .absent := by
  unfold phase
  rw [none]

theorem held_of_link {t : StdioTunnel} {conn : Int} {id : Short} {l : ConnectionLink}
    (found : t.link? conn id = some l) : t.held conn id = l.m_buffer.pending := by
  unfold held
  rw [found]

/-- A link that is up is stored, and not closing. -/
theorem link?_of_opened {t : StdioTunnel} {conn : Int} {id : Short}
    (isOpen : t.phase conn id = .opened) :
    ∃ l, t.link? conn id = some l ∧ l.m_closing = false := by
  unfold phase at isOpen
  cases found : t.link? conn id with
  | none =>
      rw [found] at isOpen
      cases isOpen
  | some l =>
      refine ⟨l, rfl, ?_⟩
      cases closing : l.m_closing with
      | false => rfl
      | true =>
          simp only [found, closing, ↓reduceIte] at isOpen
          cases isOpen

theorem link?_of_absent {t : StdioTunnel} {conn : Int} {id : Short}
    (absent : t.phase conn id = .absent) : t.link? conn id = none := by
  unfold phase at absent
  cases found : t.link? conn id with
  | none => rfl
  | some l =>
      rw [found] at absent
      dsimp only at absent
      repeat' split at absent
      all_goals cases absent

/-- A link that waits for its reply is stored, not closing and not registered. -/
theorem link?_of_pending {t : StdioTunnel} {conn : Int} {id : Short}
    (waits : t.phase conn id = .pending) : ∃ l, t.link? conn id = some l ∧
      l.m_closing = false ∧ t.registrations (.connectionLink conn id l.m_socket) = [] := by
  unfold phase at waits
  cases found : t.link? conn id with
  | none =>
      rw [found] at waits
      cases waits
  | some l =>
      rw [found] at waits
      dsimp only at waits
      cases closing : l.m_closing with
      | true =>
          rw [closing] at waits
          cases waits
      | false =>
          rw [closing] at waits
          by_cases none : t.registrations (.connectionLink conn id l.m_socket) = []
          · exact ⟨l, rfl, closing, none⟩
          · rw [if_neg Bool.false_ne_true, if_neg none] at waits
            cases waits

/-- The two states differ in one link and in queued frames only. -/
structure Change (t t' : StdioTunnel) (conn : Int) (id : Short) (out : List (List Byte)) : Prop where
  side : t'.side = t.side
  reader : t'.m_read_stream = t.m_read_stream
  writer : t'.m_write_stream = t.m_write_stream.emitting out
  bare : ∀ c, t'.bare? c = t.bare? c
  link : ∀ c i, ¬(c = conn ∧ i = id) → t'.link? c i = t.link? c i
  registrations : ∀ x, x ≠ .stdioTunnel → (∀ s, x ≠ .connectionLink conn id s) →
    t'.registrations x = t.registrations x
  opened : t'.os.opened = t.os.opened
  input : ∀ c i, ¬(c = conn ∧ i = id) → t'.os.input c i = t.os.input c i
  output : ∀ c i, ¬(c = conn ∧ i = id) → t'.os.output c i = t.os.output c i

theorem Change.refl (t : StdioTunnel) (conn : Int) (id : Short) : Change t t conn id [] where
  side := rfl
  reader := rfl
  writer := (CustomWriteStream.emitting_nil _).symm
  bare := fun _ => rfl
  link := fun _ _ _ => rfl
  registrations := fun _ _ _ => rfl
  opened := rfl
  input := fun _ _ _ => rfl
  output := fun _ _ _ => rfl

theorem Change.trans {t t' t'' : StdioTunnel} {conn : Int} {id : Short} {out more : List (List Byte)}
    (first : Change t t' conn id out) (second : Change t' t'' conn id more) :
    Change t t'' conn id (out ++ more) where
  side := second.side.trans first.side
  reader := second.reader.trans first.reader
  writer := by rw [second.writer, first.writer, CustomWriteStream.emitting_emitting]
  bare := fun c => (second.bare c).trans (first.bare c)
  link := fun c i other => (second.link c i other).trans (first.link c i other)
  registrations := fun x own link =>
    (second.registrations x own link).trans (first.registrations x own link)
  opened := second.opened.trans first.opened
  input := fun c i other => (second.input c i other).trans (first.input c i other)
  output := fun c i other => (second.output c i other).trans (first.output c i other)

theorem Change.sockets {t t' : StdioTunnel} {conn : Int} {id : Short} {out : List (List Byte)}
    (change : Change t t' conn id out) (c : Int) (i : Short) :
    t'.os.socketsOf c i = t.os.socketsOf c i := by
  unfold Kernel.socketsOf
  rw [change.opened]

/-- The other links of the endpoint look the same. -/
theorem Change.linkEnd {t t' : StdioTunnel} {conn : Int} {id : Short} {out : List (List Byte)}
    (change : Change t t' conn id out) {c : Int} {i : Short} (other : ¬(c = conn ∧ i = id)) :
    t'.linkEnd c i = t.linkEnd c i := by
  have records : ∀ s, t'.registrations (.connectionLink c i s) =
      t.registrations (.connectionLink c i s) := by
    intro s
    refine change.registrations _ (by simp) fun s' same => other ?_
    obtain ⟨sameConn, sameLink, _⟩ := Polled.connectionLink.inj same
    exact ⟨sameConn, sameLink⟩
  unfold StdioTunnel.linkEnd phase held
  rw [change.link c i other, change.input c i other, change.output c i other]
  simp only [records]

/-! ## Soundness -/

/-- One identifier: its link, and the records of the poller for it. -/
structure SoundAt (t : StdioTunnel) (conn : Int) (id : Short) : Prop where
  link : ∀ l, t.link? conn id = some l →
    l.m_id = id ∧ l.m_buffer.Valid ∧ l.m_socket ∈ t.os.socketsOf conn id
  registered : ∀ s, t.registrations (.connectionLink conn id s) = [] ∨
    ∃ l record, t.link? conn id = some l ∧ l.m_socket = s ∧ l.m_closing = false ∧
      t.registrations (.connectionLink conn id s) = [record] ∧ record.fd = s

/-- An endpoint between two calls of handlers. -/
structure Sound (t : StdioTunnel) : Prop where
  ready : t.Ready
  os : t.os.Sound
  keys : ∀ c conn, t.connection? c = some conn → conn.m_id = c ∧ ∃ s : Short, s.val = c
  listeners : ∀ c s record, record ∈ t.registrations (.listenSide c s) →
    record.fd = s ∧ ∃ spec n, t.bare? c = some (spec, c, .listenSide s n)
  links : ∀ c i, t.SoundAt c i

theorem keys_of_bare {t t' : StdioTunnel}
    (keys : ∀ c conn, t.connection? c = some conn → conn.m_id = c ∧ ∃ s : Short, s.val = c)
    (bare : ∀ c, t'.bare? c = t.bare? c) :
    ∀ c conn, t'.connection? c = some conn → conn.m_id = c ∧ ∃ s : Short, s.val = c := by
  intro c conn found
  have same := bare c
  unfold bare? at same
  rw [found] at same
  cases before : t.connection? c with
  | none =>
      rw [before] at same
      cases same
  | some old =>
      rw [before] at same
      obtain ⟨sameId, inRange⟩ := keys c old before
      have ids := congrArg (fun x => x.2.1) (Option.some.inj same)
      exact ⟨ids.trans sameId, inRange⟩

/-- After a change it is enough to look at the link that changed. -/
theorem Change.sound {t t' : StdioTunnel} {conn : Int} {id : Short} {out : List (List Byte)}
    (change : Change t t' conn id out) (sound : t.Sound) (os : t'.os.Sound)
    (own : t'.SoundAt conn id) : t'.Sound where
  ready := by
    rcases sound.ready with ⟨poller, fields⟩
    constructor <;> rw [change.writer]
    · exact poller
    · exact fields
  os := os
  keys := keys_of_bare sound.keys change.bare
  listeners := by
    intro c s record member
    rw [change.registrations _ (by simp) (by simp)] at member
    obtain ⟨fd, spec, n, role⟩ := sound.listeners c s record member
    exact ⟨fd, spec, n, (change.bare c).trans role⟩
  links := by
    intro c i
    by_cases mine : c = conn ∧ i = id
    · rw [mine.1, mine.2]
      exact own
    · have before := sound.links c i
      have records : ∀ s, t'.registrations (.connectionLink c i s) =
          t.registrations (.connectionLink c i s) := by
        intro s
        refine change.registrations _ (by simp) fun s' same => mine ?_
        obtain ⟨sameConn, sameLink, _⟩ := Polled.connectionLink.inj same
        exact ⟨sameConn, sameLink⟩
      constructor
      · rw [change.link c i mine, change.sockets c i]
        exact before.link
      · intro s
        rw [change.link c i mine, records]
        exact before.registered s

/-- One link moves to a new view, and the endpoint stays sound. -/
structure Moves (t t' : StdioTunnel) (conn : Int) (id : Short) (after : LinkEnd)
    (out : List (List Byte)) : Prop where
  change : Change t t' conn id out
  sound : t'.Sound
  own : t'.linkEnd conn id = after

theorem Moves.refl {t : StdioTunnel} (sound : t.Sound) (conn : Int) (id : Short) :
    Moves t t conn id (t.linkEnd conn id) [] := ⟨.refl t conn id, sound, rfl⟩

theorem Moves.trans {t t' t'' : StdioTunnel} {conn : Int} {id : Short} {middle after : LinkEnd}
    {out more : List (List Byte)} (first : Moves t t' conn id middle out)
    (second : Moves t' t'' conn id after more) : Moves t t'' conn id after (out ++ more) :=
  ⟨first.change.trans second.change, second.sound, second.own⟩

/-! ## States that look the same -/

/-- The links and the queued frames are the same. -/
structure Looks (t t' : StdioTunnel) : Prop where
  side : t'.side = t.side
  writer : t'.m_write_stream = t.m_write_stream
  linkEnd : ∀ c i, t'.linkEnd c i = t.linkEnd c i

end StdioTunnel

end Tun01
