import Tun01.Lib.Run
import Tun01.Tunnel.Outcome

/-!
# What handlers do, one operation at a time

Every handler of a listener or a link is a short sequence of operations, in any
state of the endpoint and for any message.  What one operation changes is said
here once, so that a fact about runs is proved for one operation.
-/

namespace Tun01

/-- An operation of a handler; `l` is the link as it is stored. -/
inductive Operation where
  /-- a frame is queued -/
  | emit (m : Message)
  | received (conn : Short) (l : ConnectionLink) (bytes : List Byte)
  | acknowledge (conn : Short) (l : ConnectionLink) (ack : Bool)
  | push (conn : Short) (l : ConnectionLink) (bytes : List Byte)
  | written (conn : Short) (l : ConnectionLink) (buffer : SockBuffer) (bytes : List Byte)
  | close (conn : Short) (l : ConnectionLink)
  | erase (conn : Short) (l : ConnectionLink)
  /-- the listener is told that its link is up -/
  | establish (conn : Short) (l : ConnectionLink)
  /-- the listener is told that there will be no link -/
  | refuse (conn : Short) (l : ConnectionLink)
  | accept (conn : Short) (c : TunnelConnection) (socket : Nat) (n : Int)
  /-- a socket that could not be connected -/
  | attempt (conn id : Short)
  | connect (conn id : Short)

def Role.socket? : Role → Option Nat
  | .listenSide m_listen_socket _ => some m_listen_socket
  | .connectSide => none

namespace StdioTunnel

/-- The link is the one stored under its identifier. -/
def Stores (t : StdioTunnel) (conn : Short) (l : ConnectionLink) : Prop :=
  t.link? conn.val l.m_id = some l

def listenSocket? (t : StdioTunnel) (x : Int) : Option Nat :=
  (t.bare? x).bind fun b => b.2.2.socket?

theorem listenSocket?_of_bare {t t' : StdioTunnel} (bare : ∀ x, t'.bare? x = t.bare? x) (x : Int) :
    t'.listenSocket? x = t.listenSocket? x := by
  unfold listenSocket?
  rw [bare x]

theorem listenSocket?_of_connection {t : StdioTunnel} {x : Int} {c : TunnelConnection}
    (known : t.connection? x = some c) : t.listenSocket? x = c.role.socket? := by
  unfold listenSocket? bare?
  rw [known]
  rfl

def setLinkEvents (t : StdioTunnel) (conn : Short) (l : ConnectionLink) (events : PollEvents) :
    StdioTunnel :=
  t.setEvents (.connectionLink conn.val l.m_id l.m_socket) l.m_socket events

/-- Connections and links carry the identifiers they are stored under. -/
structure Named (t : StdioTunnel) : Prop where
  keys : ∀ x c, t.connection? x = some c → c.m_id = x ∧ ∃ s : Short, s.val = x
  ids : ∀ x i l, t.link? x i = some l → l.m_id = i

/-- Connections and links carry the identifiers they are stored under; the writer is set up. -/
structure Keyed (t : StdioTunnel) : Prop extends Named t where
  ready : t.Ready

theorem Sound.keyed {t : StdioTunnel} (sound : t.Sound) : t.Keyed where
  ready := sound.ready
  keys := sound.keys
  ids := fun x i l found => ((sound.links x i).link l found).1

end StdioTunnel

namespace Operation

/-! ## Effects -/

/-- The endpoint after an operation. -/
def apply (t : StdioTunnel) : Operation → StdioTunnel
  | emit m => t.emit m.payload
  | received _ l bytes => t.log (.received l.m_socket bytes)
  | acknowledge conn l ack =>
      let t := t.putLink conn.val { l with m_acknowledged := ack }
      if l.m_closing then t
      else t.setLinkEvents conn l { POLLIN := ack, POLLOUT := l.m_buffer.unsentData }
  | push conn l bytes =>
      (t.putLink conn.val { l with m_buffer := l.m_buffer.insert bytes }).setLinkEvents conn
        l POLLOUT
  | written conn l buffer bytes =>
      let t := (t.putLink conn.val { l with m_buffer := buffer }).log (.sent l.m_socket bytes)
      if buffer.unsentData then t else t.setLinkEvents conn l { POLLIN := l.m_acknowledged }
  | close conn l =>
      ((t.putLink conn.val { l with m_closing := true }).log (.closed l.m_socket)).removePolled
        (.connectionLink conn.val l.m_id l.m_socket) l.m_socket
  | erase conn l => t.eraseLink conn.val l.m_id
  | establish conn l => t.addPolled (.connectionLink conn.val l.m_id l.m_socket) l.m_socket POLLIN
  | refuse conn l => (t.log (.closed l.m_socket)).eraseLink conn.val l.m_id
  | accept conn c socket n =>
      ((t.openSocket conn.val (Short.ofInt n)).setNextId c socket (int32 (n + 1))).putLink conn.val
        (.create (Short.ofInt n) t.os.next_socket)
  | attempt conn id => (t.openSocket conn.val id).log (.closed t.os.next_socket)
  | connect conn id =>
      ((t.openSocket conn.val id).addPolled (.connectionLink conn.val id t.os.next_socket)
        t.os.next_socket POLLIN).putLink conn.val (.create id t.os.next_socket)

/-- When a handler makes the operation. -/
def Valid (t : StdioTunnel) : Operation → Prop
  | emit _ => True
  | received conn l _ | acknowledge conn l _ => t.Stores conn l
  | push conn l _ | close conn l => t.Stores conn l ∧ l.m_closing = false
  | written conn l buffer bytes =>
      t.Stores conn l ∧ ∃ write, l.m_buffer.writeData write = (buffer, .ok bytes)
  | erase conn l => t.Stores conn l ∧ l.m_closing = true
  | establish conn l | refuse conn l => t.Stores conn l ∧ t.listens conn.val = true
  | accept conn c socket n =>
      t.connection? conn.val = some c ∧ c.m_id = conn.val ∧ c.role = .listenSide socket n
  | attempt conn _ | connect conn _ =>
      ∃ c, t.connection? conn.val = some c ∧ c.role = .connectSide

/-- One operation as a step. -/
def Step (t : StdioTunnel) (op : Operation) (t' : StdioTunnel) : Prop :=
  op.Valid t ∧ t' = op.apply t

/-- The entry of a link map that changes. -/
def stores (t : StdioTunnel) : Operation → Option (Short × Short × Option ConnectionLink)
  | emit _ | received _ _ _ | establish _ _ | attempt _ _ => none
  | acknowledge conn l ack => some (conn, l.m_id, some { l with m_acknowledged := ack })
  | push conn l bytes =>
      some (conn, l.m_id, some { l with m_buffer := l.m_buffer.insert bytes })
  | written conn l buffer _ => some (conn, l.m_id, some { l with m_buffer := buffer })
  | close conn l => some (conn, l.m_id, some { l with m_closing := true })
  | erase conn l | refuse conn l => some (conn, l.m_id, none)
  | accept conn _ _ n =>
      some (conn, Short.ofInt n, some (.create (Short.ofInt n) t.os.next_socket))
  | connect conn id => some (conn, id, some (.create id t.os.next_socket))

/-- The records of the poller that change, those of the endpoint itself apart. -/
def records (t : StdioTunnel) : Operation → Option (Polled × (List Pollfd → List Pollfd))
  | emit _ | received _ _ _ | erase _ _ | refuse _ _ | accept _ _ _ _ | attempt _ _ => none
  | acknowledge conn l ack =>
      if l.m_closing then none
      else some (.connectionLink conn.val l.m_id l.m_socket,
        Poller.setFirst l.m_socket { POLLIN := ack, POLLOUT := l.m_buffer.unsentData })
  | push conn l _ =>
      some (.connectionLink conn.val l.m_id l.m_socket, Poller.setFirst l.m_socket POLLOUT)
  | written conn l buffer _ =>
      if buffer.unsentData then none
      else some (.connectionLink conn.val l.m_id l.m_socket,
        Poller.setFirst l.m_socket { POLLIN := l.m_acknowledged })
  | close conn l =>
      some (.connectionLink conn.val l.m_id l.m_socket,
        fun records => records.eraseP fun record => decide (record.fd = l.m_socket))
  | establish conn l =>
      some (.connectionLink conn.val l.m_id l.m_socket,
        fun records => records ++ [⟨l.m_socket, POLLIN, .zero⟩])
  | connect conn id =>
      some (.connectionLink conn.val id t.os.next_socket,
        fun records => records ++ [⟨t.os.next_socket, POLLIN, .zero⟩])

/-- The calls made on sockets. -/
def calls (t : StdioTunnel) : Operation → List Syscall
  | emit _ | acknowledge _ _ _ | push _ _ _ | erase _ _ | establish _ _ => []
  | received _ l bytes => [.received l.m_socket bytes]
  | written _ l _ bytes => [.sent l.m_socket bytes]
  | close _ l | refuse _ l => [.closed l.m_socket]
  | accept conn _ _ n => [.opened t.os.next_socket conn.val (Short.ofInt n)]
  | attempt conn id => [.opened t.os.next_socket conn.val id, .closed t.os.next_socket]
  | connect conn id => [.opened t.os.next_socket conn.val id]

def messages : Operation → List Message
  | emit m => [m]
  | _ => []

variable {t t' : StdioTunnel} {op : Operation}

/-- A link that is put where there is a connection. -/
theorem link?_put (known : (t.connection? x).isSome) (l : ConnectionLink) (y : Int) (i : Short) :
    (t.putLink x l).link? y i = if y = x ∧ i = l.m_id then some l else t.link? y i := by
  split
  · rename_i same
    rw [same.1, same.2]
    exact StdioTunnel.link?_putLink_self known
  · rename_i other
    exact StdioTunnel.link?_putLink_of_ne other

theorem link?_erased (t : StdioTunnel) (x : Int) (id : Short) (y : Int) (i : Short) :
    (t.eraseLink x id).link? y i = if y = x ∧ i = id then none else t.link? y i := by
  split
  · rename_i same
    rw [same.1, same.2]
    exact StdioTunnel.link?_eraseLink_self
  · rename_i other
    exact StdioTunnel.link?_eraseLink_of_ne other

/-- The link maps after an operation. -/
theorem link?_apply (valid : op.Valid t) (x : Int) (i : Short) :
    (op.apply t).link? x i =
      match op.stores t with
      | none => t.link? x i
      | some (conn, id, l) => if x = conn.val ∧ i = id then l else t.link? x i := by
  cases op with
  | emit _ | received _ _ _ | establish _ _ | attempt _ _ => rfl
  | acknowledge conn l ack =>
      have put := link?_put (StdioTunnel.connection?_of_link? valid)
        { l with m_acknowledged := ack } x i
      change (apply t (acknowledge conn l ack)).link? x i = _
      unfold apply
      dsimp only
      split
      · exact put
      · exact put
  | push conn l bytes =>
      exact link?_put (StdioTunnel.connection?_of_link? valid.1) _ x i
  | written conn l buffer bytes =>
      have put := link?_put (StdioTunnel.connection?_of_link? valid.1)
        { l with m_buffer := buffer } x i
      change (apply t (written conn l buffer bytes)).link? x i = _
      unfold apply
      dsimp only
      split
      · exact put
      · exact put
  | close conn l => exact link?_put (StdioTunnel.connection?_of_link? valid.1) _ x i
  | erase conn l => exact link?_erased t conn.val l.m_id x i
  | refuse conn l => exact link?_erased _ conn.val l.m_id x i
  | accept conn c socket n =>
      have known : (((t.openSocket conn.val (Short.ofInt n)).setNextId c socket
          (int32 (n + 1))).connection? conn.val).isSome := by
        have found : (t.openSocket conn.val (Short.ofInt n)).connection? conn.val = some c := valid.1
        unfold StdioTunnel.connection? StdioTunnel.setNextId
        dsimp only
        rw [valid.2.1, OrderedMap.find?_modify_self]
        rw [StdioTunnel.connection?] at found
        rw [found]
        rfl
      have put := link?_put known (.create (Short.ofInt n) t.os.next_socket) x i
      rw [StdioTunnel.link?_setNextId] at put
      exact put
  | connect conn id =>
      obtain ⟨c, found, _⟩ := valid
      have known : (t.connection? conn.val).isSome := by rw [found]; rfl
      exact link?_put known (.create id t.os.next_socket) x i

/-- The records of the poller after an operation. -/
theorem registrations_apply (op : Operation) {y : Polled} (other : y ≠ .stdioTunnel) :
    (op.apply t).registrations y =
      match op.records t with
      | none => t.registrations y
      | some (x, f) => if x = y then f (t.registrations y) else t.registrations y := by
  cases op with
  | emit m => exact StdioTunnel.registrations_emit other m.payload
  | received _ _ _ | erase _ _ | refuse _ _ | accept _ _ _ _ | attempt _ _ => rfl
  | acknowledge conn l ack =>
      unfold apply records
      dsimp only
      split
      · rfl
      · exact Poller.registrations_setEvents _ _ _ _ _
  | push conn l bytes => exact Poller.registrations_setEvents _ _ _ _ _
  | written conn l buffer bytes =>
      unfold apply records
      dsimp only
      split
      · rfl
      · exact Poller.registrations_setEvents _ _ _ _ _
  | close conn l => exact Poller.registrations_removePolled _ _ _ _
  | establish conn l => exact Poller.registrations_addPolled _ _ _ _ _
  | connect conn id => exact Poller.registrations_addPolled _ _ _ _ _

/-- No operation is about the records of a listener. -/
theorem registrations_unlinked (op : Operation) (t : StdioTunnel) {x : Polled}
    (other : x ≠ .stdioTunnel) (unlinked : ∀ c i s, x ≠ .connectionLink c i s) :
    (op.apply t).registrations x = t.registrations x := by
  rw [registrations_apply op other]
  cases about : op.records t with
  | none => rfl
  | some entry =>
      obtain ⟨y, f⟩ := entry
      refine if_neg ?_
      rintro rfl
      cases op with
      | emit _ | received _ _ _ | erase _ _ | refuse _ _ | accept _ _ _ _ | attempt _ _ =>
          cases about
      | push _ _ _ | close _ _ | establish _ _ | connect _ _ =>
          cases about
          exact unlinked _ _ _ rfl
      | acknowledge _ _ _ | written _ _ _ _ =>
          dsimp only [records] at about
          split at about
          · cases about
          · cases about
            exact unlinked _ _ _ rfl

theorem registrations_listener (op : Operation) (t : StdioTunnel) (x : Int) (s : Nat) :
    (op.apply t).registrations (.listenSide x s) = t.registrations (.listenSide x s) :=
  op.registrations_unlinked t (fun no => by cases no) fun _ _ _ no => by cases no

theorem socks5_calls_apply (op : Operation) (t : StdioTunnel) :
    (op.apply t).socks5_calls = t.socks5_calls := by
  cases op with
  | acknowledge _ _ _ | written _ _ _ _ =>
      unfold apply
      dsimp only
      split <;> rfl
  | emit _ | received _ _ _ | push _ _ _ | close _ _ | erase _ _ | establish _ _ | refuse _ _
  | accept _ _ _ _ | attempt _ _ | connect _ _ => rfl

/-- The calls made after an operation. -/
theorem trace_apply (op : Operation) (t : StdioTunnel) :
    (op.apply t).os.trace = t.os.trace ++ op.calls t := by
  cases op with
  | emit _ | push _ _ _ | erase _ _ | establish _ _ => exact (List.append_nil _).symm
  | acknowledge conn l ack =>
      unfold apply
      dsimp only
      split <;> exact (List.append_nil _).symm
  | received _ _ _ | close _ _ | refuse _ _ | accept _ _ _ _ | connect _ _ => rfl
  | written conn l buffer bytes =>
      unfold apply
      dsimp only
      split <;> rfl
  | attempt conn id => exact List.append_assoc _ _ _

/-- The writer after an operation. -/
theorem writer_apply (op : Operation) (t : StdioTunnel) :
    (op.apply t).m_write_stream = t.m_write_stream.emitting (op.messages.map Message.payload) := by
  cases op with
  | emit m => rfl
  | push _ _ _ | received _ _ _ | erase _ _ | establish _ _ | close _ _ | refuse _ _
  | accept _ _ _ _ | attempt _ _ | connect _ _ =>
      exact (CustomWriteStream.emitting_nil _).symm
  | acknowledge _ _ _ | written _ _ _ _ =>
      unfold apply
      dsimp only
      split <;> exact (CustomWriteStream.emitting_nil _).symm

/-- What no operation changes. -/
structure Kept (t t' : StdioTunnel) : Prop where
  listeners : ∀ x, t'.listenSocket? x = t.listenSocket? x
  side : t'.side = t.side
  reader : t'.m_read_stream = t.m_read_stream
  request : t'.m_closed_by_request = t.m_closed_by_request
  finishing : t'.m_poller.m_finishing = t.m_poller.m_finishing
  kind : ∀ x, t'.kind? x = t.kind? x
  ids : ∀ x, (t'.connection? x).map TunnelConnection.m_id =
    (t.connection? x).map TunnelConnection.m_id

theorem Kept.refl (t : StdioTunnel) : Kept t t :=
  ⟨fun _ => rfl, rfl, rfl, rfl, rfl, fun _ => rfl, fun _ => rfl⟩

theorem Kept.trans {t'' : StdioTunnel} (first : Kept t t') (second : Kept t' t'') : Kept t t'' where
  listeners := fun x => (second.listeners x).trans (first.listeners x)
  side := second.side.trans first.side
  reader := second.reader.trans first.reader
  request := second.request.trans first.request
  finishing := second.finishing.trans first.finishing
  kind := fun x => (second.kind x).trans (first.kind x)
  ids := fun x => (second.ids x).trans (first.ids x)

theorem ids_of_bare (t : StdioTunnel) (x : Int) :
    (t.connection? x).map TunnelConnection.m_id = (t.bare? x).map fun b => b.2.1 := by
  unfold StdioTunnel.bare?
  rw [Option.map_map]
  rfl

/-- What does not change the maps and the streams, the links apart. -/
theorem Kept.ofBare (side : t'.side = t.side) (reader : t'.m_read_stream = t.m_read_stream)
    (request : t'.m_closed_by_request = t.m_closed_by_request)
    (finishing : t'.m_poller.m_finishing = t.m_poller.m_finishing)
    (bare : ∀ x, t'.bare? x = t.bare? x) : Kept t t' where
  listeners := StdioTunnel.listenSocket?_of_bare bare
  side := side
  reader := reader
  request := request
  finishing := finishing
  kind := StdioTunnel.kind?_of_bare bare
  ids := by
    intro x
    rw [ids_of_bare, ids_of_bare, bare]

theorem removePolled_finishing (p : Poller Polled) (x : Polled) (fd : Int) :
    (p.removePolled x fd).m_finishing = p.m_finishing := by
  unfold Poller.removePolled
  split <;> rfl

/-- The counter of a listener is not part of what is kept. -/
theorem Kept.setNextId {c : TunnelConnection} {socket : Nat} {x n : Int}
    (found : t.connection? x = some c) (same : c.m_id = x) (role : c.role = .listenSide socket n)
    (next : Int) : Kept t (t.setNextId c socket next) where
  listeners := by
    intro y
    unfold StdioTunnel.listenSocket?
    rw [StdioTunnel.bare?_setNextId]
    split
    · rename_i here
      rw [← here, same]
      unfold StdioTunnel.bare?
      rw [found]
      change some socket = c.role.socket?
      rw [role]
      rfl
    · rfl
  side := rfl
  reader := rfl
  request := rfl
  finishing := rfl
  kind := by
    intro y
    unfold StdioTunnel.kind?
    rw [StdioTunnel.bare?_setNextId]
    split
    · rename_i here
      rw [← here, same]
      unfold StdioTunnel.bare?
      rw [found]
      change some (c.m_spec, true) = some (c.m_spec, c.role.listens)
      rw [role]
      rfl
    · rfl
  ids := by
    intro y
    rw [ids_of_bare, ids_of_bare, StdioTunnel.bare?_setNextId]
    split
    · rw [Option.map_map]
      rfl
    · rfl

/-- Only a client changes more of a connection than its links. -/
theorem bare_apply (client : ∀ conn c socket n, op ≠ .accept conn c socket n) (x : Int) :
    (op.apply t).bare? x = t.bare? x := by
  have put : ∀ (t : StdioTunnel) (y : Int) (l : ConnectionLink),
      (t.putLink y l).bare? x = t.bare? x := fun t y l => StdioTunnel.bare?_mapLinks t y _ x
  have erased : ∀ (t : StdioTunnel) (y : Int) (id : Short),
      (t.eraseLink y id).bare? x = t.bare? x := fun t y id => StdioTunnel.bare?_mapLinks t y _ x
  cases op with
  | emit _ | received _ _ _ | establish _ _ | attempt _ _ => rfl
  | acknowledge conn l ack =>
      unfold apply
      dsimp only
      split <;> exact put t conn.val _
  | push conn l _ | close conn l => exact put t conn.val _
  | written conn l buffer bytes =>
      unfold apply
      dsimp only
      split <;> exact put t conn.val _
  | erase conn l => exact erased t conn.val _
  | refuse conn l => exact erased (t.log _) conn.val _
  | connect conn id => exact put _ conn.val _
  | accept conn c socket n => exact absurd rfl (client conn c socket n)

theorem kept (valid : op.Valid t) : Kept t (op.apply t) := by
  have bare := @bare_apply t op
  cases op with
  | emit _ | received _ _ _ | establish _ _ | attempt _ _ | push _ _ _ | erase _ _ | refuse _ _
  | connect _ _ => exact .ofBare rfl rfl rfl rfl (bare fun _ _ _ _ no => by cases no)
  | close conn l =>
      exact .ofBare rfl rfl rfl (removePolled_finishing _ _ _) (bare fun _ _ _ _ no => by cases no)
  | acknowledge conn l ack =>
      refine .ofBare ?_ ?_ ?_ ?_ (bare fun _ _ _ _ no => by cases no)
      all_goals
        unfold apply
        dsimp only
        split <;> rfl
  | written conn l buffer bytes =>
      refine .ofBare ?_ ?_ ?_ ?_ (bare fun _ _ _ _ no => by cases no)
      all_goals
        unfold apply
        dsimp only
        split <;> rfl
  | accept conn c socket n =>
      obtain ⟨found, same, role⟩ := valid
      have counted := Kept.setNextId (t := t.openSocket conn.val (Short.ofInt n)) found same role
        (int32 (n + 1))
      have opened : Kept t (t.openSocket conn.val (Short.ofInt n)) :=
        .ofBare rfl rfl rfl rfl fun _ => rfl
      have put := StdioTunnel.bare?_mapLinks ((t.openSocket conn.val (Short.ofInt n)).setNextId c
        socket (int32 (n + 1))) conn.val
      exact (opened.trans counted).trans (.ofBare rfl rfl rfl rfl (put _))

/-- Identifiers and streams stay in order. -/
theorem keyed (valid : op.Valid t) (keyed : t.Keyed) : (op.apply t).Keyed where
  ready := by
    constructor <;> rw [writer_apply]
    · exact keyed.ready.poller
    · exact keyed.ready.fields
  keys := by
    intro x c found
    have same := (kept valid).ids x
    rw [found] at same
    cases before : t.connection? x with
    | none =>
        rw [before] at same
        cases same
    | some c' =>
        rw [before] at same
        obtain ⟨isConn, inRange⟩ := keyed.keys x c' before
        exact ⟨(Option.some.inj same).trans isConn, inRange⟩
  ids := by
    intro x i l found
    rw [link?_apply valid] at found
    cases stored : op.stores t with
    | none =>
        rw [stored] at found
        exact keyed.ids x i l found
    | some entry =>
        obtain ⟨conn, id, l'⟩ := entry
        rw [stored] at found
        dsimp only at found
        split at found
        · rename_i here
          rw [here.2]
          cases op with
          | emit _ | received _ _ _ | establish _ _ | attempt _ _ => cases stored
          | acknowledge _ _ _ | push _ _ _ | written _ _ _ _ | close _ _ | erase _ _ | refuse _ _
          | accept _ _ _ _ | connect _ _ =>
              cases stored
              cases found <;> rfl
        · exact keyed.ids x i l found

theorem run_kept {ops : List Operation} (run : Run Step t ops t') : Kept t t' := by
  induction run with
  | nil => exact .refl _
  | snoc earlier last ih =>
      obtain ⟨valid, rfl⟩ := last
      exact ih.trans (kept valid)

end Operation

end Tun01
