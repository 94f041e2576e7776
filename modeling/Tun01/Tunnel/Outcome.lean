import Tun01.Tunnel.Handlers
import Tun01.Tunnel.Numbering

/-!
# What a dispatch does to a link

Every dispatch of a listener or a link, and every frame about a link, moves one
link as the link protocol has it, after at most one socket was obtained for it.
-/

namespace Tun01

/-! ## Who listens -/

def Role.listens : Role → Bool
  | .listenSide _ _ => true
  | .connectSide => false

namespace StdioTunnel

def kind? (t : StdioTunnel) (conn : Int) : Option (ConnectionSpec × Bool) :=
  (t.bare? conn).map fun b => (b.1, b.2.2.listens)

def listens (t : StdioTunnel) (conn : Int) : Bool :=
  match t.kind? conn with
  | some (_, listens) => listens
  | none => false

variable {t t' t₀ : StdioTunnel} {conn id : Short} {c : TunnelConnection}

theorem kind?_of_connection {x : Int} (found : t.connection? x = some c) :
    t.kind? x = some (c.m_spec, c.role.listens) := by
  unfold kind? bare?
  rw [found]
  rfl

theorem listens_of_connection {x : Int} (found : t.connection? x = some c) :
    t.listens x = c.role.listens := by
  unfold listens
  rw [kind?_of_connection found]

theorem kind?_of_bare (bare : ∀ x, t'.bare? x = t.bare? x) (x : Int) :
    t'.kind? x = t.kind? x := by
  unfold kind?
  rw [bare x]

theorem listens_of_kind (kind : ∀ x, t'.kind? x = t.kind? x) (x : Int) :
    t'.listens x = t.listens x := by
  unfold listens
  rw [kind x]

/-! ## Records of the endpoint itself -/

/-- Only what concerns the endpoint itself and the socks5 server differs. -/
structure Beside (t t' : StdioTunnel) : Prop where
  same : t' = { t with m_poller := t'.m_poller, socks5_calls := t'.socks5_calls }
  others : ∀ x, x ≠ .stdioTunnel → x ≠ .socks5Server → t'.registrations x = t.registrations x

namespace Beside

theorem refl (t : StdioTunnel) : Beside t t := ⟨rfl, fun _ _ _ => rfl⟩

theorem trans {t'' : StdioTunnel} (first : Beside t t') (second : Beside t' t'') :
    Beside t t'' where
  same := by
    rw [second.same, first.same]
  others := fun x own server =>
    (second.others x own server).trans (first.others x own server)

theorem setEvents (t : StdioTunnel) (fd : Int) (events : PollEvents) :
    Beside t (t.setEvents .stdioTunnel fd events) where
  same := rfl
  others := by
    intro x own _
    exact (Poller.registrations_setEvents _ _ _ _ _).trans (if_neg own.symm)

theorem removePolled (t : StdioTunnel) (fd : Int) :
    Beside t (t.removePolled .stdioTunnel fd) where
  same := rfl
  others := by
    intro x own _
    exact (Poller.registrations_removePolled _ _ _ _).trans (if_neg own.symm)

theorem addServer (t : StdioTunnel) (fd : Int) :
    Beside t (t.addPolled .socks5Server fd POLLIN) where
  same := rfl
  others := by
    intro x _ server
    exact (Poller.registrations_addPolled _ _ _ _ _).trans (if_neg server.symm)

theorem serve (t : StdioTunnel) (call : ServerCall) : Beside t (t.serve call) :=
  ⟨rfl, fun _ _ _ => rfl⟩

variable (beside : Beside t t')

include beside

theorem connection? (x : Int) : t'.connection? x = t.connection? x := by
  rw [beside.same]
  rfl

theorem writer : t'.m_write_stream = t.m_write_stream := by rw [beside.same]

theorem reader : t'.m_read_stream = t.m_read_stream := by rw [beside.same]

theorem os : t'.os = t.os := by rw [beside.same]

theorem link? (x : Int) (i : Short) : t'.link? x i = t.link? x i := by
  unfold StdioTunnel.link?
  rw [beside.connection?]

theorem looks : Looks t t' where
  side := by rw [beside.same]
  writer := beside.writer
  linkEnd := by
    intro c i
    have link := beside.link? c i
    have records : ∀ s, t'.registrations (.connectionLink c i s) =
        t.registrations (.connectionLink c i s) := fun s =>
      beside.others _ (fun no => by cases no) (fun no => by cases no)
    unfold linkEnd phase held
    rw [link, beside.os]
    simp only [records]

theorem bare? (x : Int) : t'.bare? x = t.bare? x := by
  unfold StdioTunnel.bare?
  rw [beside.connection?]

theorem sound (sound : t.Sound) : t'.Sound where
  ready := by
    constructor <;> rw [beside.writer]
    · exact sound.ready.poller
    · exact sound.ready.fields
  os := by
    rw [beside.os]
    exact sound.os
  keys := keys_of_bare sound.keys beside.bare?
  listeners := by
    intro c s record member
    rw [beside.others _ (fun no => by cases no) (fun no => by cases no)] at member
    rw [beside.bare?]
    exact sound.listeners c s record member
  links := by
    intro c i
    have link := beside.link? c i
    constructor
    · rw [link, beside.os]
      exact (sound.links c i).link
    · intro s
      rw [beside.others _ (fun no => by cases no) (fun no => by cases no), link]
      exact (sound.links c i).registered s

end Beside

/-! ## Handlers that obtain a socket first -/

/-- What a handler has done before the moves of its link: at most it obtained sockets. -/
structure Prepares (t t₀ : StdioTunnel) (conn id : Short) (opened : Nat) : Prop where
  looks : Looks t t₀
  reader : t₀.m_read_stream = t.m_read_stream
  kind : ∀ x, t₀.kind? x = t.kind? x
  numbered : t.Numbered → t₀.Numbered
  sockets : ∀ x i, (t₀.os.socketsOf x i).length =
    (t.os.socketsOf x i).length + if x = conn.val ∧ i = id then opened else 0

theorem Prepares.refl (t : StdioTunnel) (conn id : Short) : Prepares t t conn id 0 where
  looks := ⟨rfl, rfl, fun _ _ => rfl⟩
  reader := rfl
  kind := fun _ => rfl
  numbered := fun numbers => numbers
  sockets := by
    intro x i
    rw [ite_self, Nat.add_zero]

theorem socketsOf_openSocket (t : StdioTunnel) (x : Int) (id : Short) (y : Int) (i : Short) :
    ((t.openSocket x id).os.socketsOf y i).length =
      (t.os.socketsOf y i).length + if y = x ∧ i = id then 1 else 0 := by
  rw [Kernel.socketsOf_length, Kernel.socketsOf_length, opens_openSocket, List.map_append,
    List.count_append]
  congr 1
  by_cases sameConn : x = y
  · by_cases sameLink : id = i
    · rw [if_pos sameConn, if_pos ⟨sameConn.symm, sameLink.symm⟩, sameLink]
      simp
    · rw [if_pos sameConn, if_neg fun same => sameLink same.2.symm]
      simp [sameLink]
  · rw [if_neg sameConn, if_neg fun same => sameConn same.1.symm]
    rfl

/-- A connection attempt of a connecting side. -/
theorem Prepares.attempt (sound : t.Sound) (connects : t.listens conn.val = false)
    (attempt : Attempt t t₀ conn.val id) : ∃ opened, Prepares t t₀ conn id opened := by
  rcases attempt with rfl | rfl
  · exact ⟨0, .refl t₀ conn id⟩
  refine ⟨1, Looks.openSocket sound conn.val id, rfl, fun _ => rfl, ?_,
    socketsOf_openSocket t conn.val id⟩
  intro numbers
  refine numbers.openSocket id fun spec i s n role => ?_
  unfold listens kind? at connects
  rw [role] at connects
  cases connects

/-- A client that is accepted. -/
theorem Prepares.accepting (isConn : c.m_id = conn.val)
    (found : t.connection? conn.val = some c) {s : Nat} {n : Int}
    (role : c.role = .listenSide s n) (looks : Looks t (t.accepting c s n)) :
    Prepares t (t.accepting c s n) conn (Short.ofInt n) 1 := by
  have bare : t.bare? c.m_id = some (c.m_spec, c.m_id, .listenSide s n) := by
    unfold bare?
    rw [isConn, found, ← isConn, ← role]
    rfl
  refine ⟨looks, rfl, ?_, fun numbers => numbers.accepting bare, ?_⟩
  · intro x
    unfold kind?
    change ((t.setNextId c s (int32 (n + 1))).bare? x).map _ = _
    rw [bare?_setNextId]
    split
    · rename_i same
      rw [← same, bare]
      rfl
    · rfl
  · intro x i
    unfold StdioTunnel.accepting
    rw [socketsOf_openSocket, isConn]
    rfl

/-- A handler with the moves of its link. -/
def Outcome (t t' : StdioTunnel) (conn id : Short) (opened : Nat)
    (moves : Half → Half → Prop) : Prop :=
  ∃ t₀, Prepares t t₀ conn id opened ∧ Plays t₀ t' conn id moves

theorem Plays.outcome {moves : Half → Half → Prop} (plays : Plays t t' conn id moves) :
    Outcome t t' conn id 0 moves := ⟨t, .refl t conn id, plays⟩

end StdioTunnel

namespace StdioTunnel

variable {t t' : StdioTunnel} {conn id : Short} {c : TunnelConnection} {poll_struct : Pollfd}
  {calls : Calls}

/-- The dispatch of a link: the record of the poller says that it is up. -/
theorem polledObject_link (sound : t.Sound) {x : Int} {socket : Nat} {record : Pollfd}
    (registered : record ∈ t.registrations (.connectionLink x id socket))
    (reads : calls.read.ReadsWithin LINK_BUFFER_SIZE)
    (writes : ∀ l, t.link? x id = some l → calls.write.WritesWithin l.m_buffer.request)
    (result : t.polledObject (.connectionLink x id socket) poll_struct calls = .ok t') :
    ∃ conn : Short, conn.val = x ∧
      Outcome t t' conn id 0 (Relation.ReflTransGen Half.Act) := by
  rcases (sound.links x id).registered socket with none | ⟨l, record', found, isSocket, up, only, _⟩
  · rw [none] at registered
    cases registered
  · obtain ⟨c, known⟩ := Option.isSome_iff_exists.mp (connection?_of_link? found)
    obtain ⟨isConn, conn, rfl⟩ := sound.keys x c known
    have isOpen : t.phase conn.val id = .opened := by
      refine phase_of_registered found up ?_
      rw [isSocket, only]
      exact List.cons_ne_nil _ _
    unfold polledObject at result
    simp only [known, found, isSocket, ↓reduceIte] at result
    exact ⟨conn, rfl, (linkPolled_plays sound isConn found isOpen reads (writes l found)
      result).outcome⟩

/-- A listener that is registered. -/
theorem Sound.listener (sound : t.Sound) {x : Int} {socket : Nat} {record : Pollfd}
    (registered : record ∈ t.registrations (.listenSide x socket)) :
    ∃ (conn : Short) (c : TunnelConnection) (n : Int), conn.val = x ∧ t.connection? conn.val = some c ∧
      c.m_id = conn.val ∧ c.role = .listenSide socket n := by
  obtain ⟨_, spec, n, bare⟩ := sound.listeners x socket record registered
  unfold bare? at bare
  obtain ⟨c, known, same⟩ := Option.map_eq_some_iff.mp bare
  obtain ⟨isConn, conn, rfl⟩ := sound.keys x c known
  have role : c.role = .listenSide socket n := congrArg (fun b => b.2.2) same
  exact ⟨conn, c, n, rfl, known, isConn, role⟩

/-- The dispatch of a listener accepts a client. -/
theorem polledObject_listener (sound : t.Sound) {socket : Nat} {n : Int}
    (isConn : c.m_id = conn.val) (known : t.connection? conn.val = some c)
    (role : c.role = .listenSide socket n) (unused : t.link? conn.val (Short.ofInt n) = none)
    (result : t.polledObject (.listenSide conn.val socket) poll_struct calls = .ok t') :
    Outcome t t' conn (Short.ofInt n) 1 fun h h' =>
      h' = ({ h with phase := .pending, held := [] } : Half).emit .create := by
  unfold polledObject at result
  simp only [known, role, ↓reduceIte] at result
  cases accept : calls.accept with
  | fail errno =>
      rw [accept] at result
      cases result
  | ok _ =>
      cases fcntl : calls.fcntl with
      | fail errno =>
          rw [accept, fcntl] at result
          cases result
      | ok _ =>
          obtain ⟨t₁, accepted, looks, plays⟩ := listenPolled_accepts sound isConn known role
            (phase_of_none unused)
          rw [accept, fcntl, accepted] at result
          rw [← Except.ok.inj result]
          exact ⟨_, .accepting isConn known role looks, plays⟩

/-! ## Frames about links -/

/-- The connection of a link. -/
theorem Sound.connection_of_link (sound : t.Sound) {l : ConnectionLink}
    (found : t.link? conn.val id = some l) :
    ∃ c, t.connection? conn.val = some c ∧ c.m_id = conn.val := by
  obtain ⟨c, known⟩ := Option.isSome_iff_exists.mp (connection?_of_link? found)
  exact ⟨c, known, (sound.keys _ c known).1⟩

theorem link_of_phase (stored : t.phase conn.val id ≠ .absent) :
    ∃ l, t.link? conn.val id = some l := by
  cases found : t.link? conn.val id with
  | some l => exact ⟨l, rfl⟩
  | none => exact absurd (phase_of_none found) stored

/-- The reply to a request of this listener. -/
theorem dispatchMessage_created (sound : t.Sound) (listens : t.listens conn.val = true)
    (waiting : t.phase conn.val id = .pending) (success : Bool) (connect : ConnectResult) :
    ∃ t', (t.reading (linkFields id (.created success))).dispatchMessage conn.val connect =
        .ok t' ∧
      Outcome (t.reading []) t' conn id 0 fun h h' =>
        h' = if success then { h with phase := .opened }
          else { h with phase := .absent, held := [] } := by
  obtain ⟨l, found⟩ := @link_of_phase t conn id
    (by rw [waiting]; exact fun no => by cases no)
  obtain ⟨c, known, isConn⟩ := sound.connection_of_link found
  rw [listens_of_connection known] at listens
  have known' : (t.reading (linkFields id (.created success))).connection? conn.val = some c :=
    known
  unfold dispatchMessage processMessage
  rw [known']
  cases role : c.role with
  | connectSide =>
      rw [role] at listens
      cases listens
  | listenSide socket n =>
      simp only [role]
      cases success with
      | true =>
          obtain ⟨t', result, plays⟩ := listenProcessMessage_established sound isConn waiting
          exact ⟨t', result, plays.outcome⟩
      | false =>
          obtain ⟨t', result, plays⟩ := listenProcessMessage_failed sound isConn waiting
          exact ⟨t', result, plays.outcome⟩

/-- A request to this connector. -/
theorem dispatchMessage_create (sound : t.Sound) (known : t.connection? conn.val = some c)
    (role : c.role = .connectSide) (unused : t.phase conn.val id = .absent)
    (host : c.m_spec.m_connect_host.length ≤ 50000000) (connect : ConnectResult) :
    ∃ t' opened, (t.reading (linkFields id .create)).dispatchMessage conn.val connect = .ok t' ∧
      Outcome (t.reading []) t' conn id opened fun h h' =>
        h' = ({ h with phase := .opened, held := [] } : Half).emit (.created true) ∨
          h' = h.emit (.created false) := by
  have isConn := (sound.keys _ c known).1
  obtain ⟨t₀, t', result, attempt, plays⟩ := connectProcessMessage_create sound isConn
    (Option.isSome_iff_exists.mpr ⟨c, known⟩) unused host connect
  have connects : (t.reading []).listens conn.val = false := by
    rw [listens_of_connection (show (t.reading []).connection? conn.val = some c from known), role]
    rfl
  obtain ⟨opened, prepares⟩ := Prepares.attempt (sound.reading []) connects attempt
  refine ⟨t', opened, ?_, t₀, prepares, plays⟩
  have known' : (t.reading (linkFields id .create)).connection? conn.val = some c := known
  unfold dispatchMessage processMessage
  rw [known']
  simp only [role]
  exact result

/-- Every other message of a link that is up. -/
theorem dispatchMessage_up (sound : t.Sound)
    (up : t.phase conn.val id = .opened ∨ t.phase conn.val id = .closing) {m : LinkMessage}
    (kind : m.traffic = true ∨ m = .close) (fits : m.fits = true) (connect : ConnectResult) :
    ∃ t', (t.reading (linkFields id m)).dispatchMessage conn.val connect = .ok t' ∧
      Outcome (t.reading []) t' conn id 0 fun h h' => h.Receive m h' := by
  obtain ⟨l, found⟩ := @link_of_phase t conn id
    (by rcases up with phase | phase <;> (rw [phase]; exact fun no => by cases no))
  obtain ⟨c, known, isConn⟩ := sound.connection_of_link found
  have known' : (t.reading (linkFields id m)).connection? conn.val = some c := known
  unfold dispatchMessage processMessage
  rw [known']
  cases role : c.role with
  | listenSide socket n =>
      simp only [role]
      obtain ⟨t', result, plays⟩ := listenProcessMessage_plays sound isConn up kind fits
      exact ⟨t', result, plays.outcome⟩
  | connectSide =>
      simp only [role]
      obtain ⟨t', result, plays⟩ := connectProcessMessage_plays sound isConn up kind fits connect
      exact ⟨t', result, plays.outcome⟩

end StdioTunnel

end Tun01
