import Tun01.Tunnel.View

/-!
# The operations of a link

Each handler of a link is a sequence of a few operations on its endpoint.  For
every operation: the change it makes, that the endpoint stays sound, and the
view of the link afterwards.
-/

namespace Tun01

namespace StdioTunnel

variable {t : StdioTunnel} {conn : Int} {id : Short} {l l' : ConnectionLink}

/-! ## Maps -/

theorem link?_mapLinks (t : StdioTunnel) (conn : Int)
    (f : OrderedMap Short ConnectionLink → OrderedMap Short ConnectionLink) (c : Int) (i : Short) :
    (t.mapLinks conn f).link? c i =
      if conn = c then (t.connection? conn).bind fun x => (f x.m_link_map).find? i
      else t.link? c i := by
  unfold link? connection? mapLinks
  dsimp only
  rw [OrderedMap.find?_modify]
  by_cases same : conn = c
  · rw [if_pos same, if_pos same, ← same, Option.bind_map]
    rfl
  · rw [if_neg same, if_neg same]

@[simp] theorem bare?_mapLinks (t : StdioTunnel) (conn : Int)
    (f : OrderedMap Short ConnectionLink → OrderedMap Short ConnectionLink) (c : Int) :
    (t.mapLinks conn f).bare? c = t.bare? c := by
  unfold bare? connection? mapLinks
  dsimp only
  rw [OrderedMap.find?_modify]
  split
  · rw [Option.map_map]
    rfl
  · rfl

theorem link?_putLink_self (known : (t.connection? conn).isSome) :
    (t.putLink conn l).link? conn l.m_id = some l := by
  unfold putLink
  rw [link?_mapLinks, if_pos rfl]
  obtain ⟨x, found⟩ := Option.isSome_iff_exists.mp known
  rw [found, Option.bind_some, OrderedMap.find?_insert_self]

theorem link?_putLink_of_ne {c : Int} {i : Short} (other : ¬(c = conn ∧ i = l.m_id)) :
    (t.putLink conn l).link? c i = t.link? c i := by
  unfold putLink
  rw [link?_mapLinks]
  split
  · rename_i same
    have ids : l.m_id ≠ i := fun equal => other ⟨same.symm, equal.symm⟩
    simp only [OrderedMap.find?_insert_of_ne _ _ ids]
    rw [same]
    rfl
  · rfl

theorem link?_eraseLink_self : (t.eraseLink conn id).link? conn id = none := by
  unfold eraseLink
  rw [link?_mapLinks, if_pos rfl]
  cases t.connection? conn with
  | none => rfl
  | some x => exact OrderedMap.find?_erase_self _ _

theorem link?_eraseLink_of_ne {c : Int} {i : Short} (other : ¬(c = conn ∧ i = id)) :
    (t.eraseLink conn id).link? c i = t.link? c i := by
  unfold eraseLink
  rw [link?_mapLinks]
  split
  · rename_i same
    have ids : id ≠ i := fun equal => other ⟨same.symm, equal.symm⟩
    simp only [OrderedMap.find?_erase_of_ne _ ids]
    rw [same]
    rfl
  · rfl

theorem connection?_of_link? (found : t.link? conn id = some l) :
    (t.connection? conn).isSome := by
  cases known : t.connection? conn with
  | some x => rfl
  | none =>
      unfold link? at found
      rw [known] at found
      cases found

/-! ## Changes -/

theorem Change.putLink (t : StdioTunnel) (conn : Int) (l : ConnectionLink) :
    Change t (t.putLink conn l) conn l.m_id [] where
  side := rfl
  reader := rfl
  writer := (CustomWriteStream.emitting_nil _).symm
  bare := bare?_mapLinks t conn _
  link := fun _ _ other => link?_putLink_of_ne other
  registrations := fun _ _ _ => rfl
  opened := rfl
  input := fun _ _ _ => rfl
  output := fun _ _ _ => rfl

theorem Change.eraseLink (t : StdioTunnel) (conn : Int) (id : Short) :
    Change t (t.eraseLink conn id) conn id [] where
  side := rfl
  reader := rfl
  writer := (CustomWriteStream.emitting_nil _).symm
  bare := bare?_mapLinks t conn _
  link := fun _ _ other => link?_eraseLink_of_ne other
  registrations := fun _ _ _ => rfl
  opened := rfl
  input := fun _ _ _ => rfl
  output := fun _ _ _ => rfl

/-- A change of the records of one link. -/
theorem Change.ofPoller {f : Poller Polled → Poller Polled} (conn : Int) (id : Short)
    (others : ∀ x, (∀ s, x ≠ .connectionLink conn id s) →
      (f t.m_poller).registrations x = t.m_poller.registrations x) :
    Change t (t.mapPoller f) conn id [] where
  side := rfl
  reader := rfl
  writer := (CustomWriteStream.emitting_nil _).symm
  bare := fun _ => rfl
  link := fun _ _ _ => rfl
  registrations := fun x _ link => others x link
  opened := rfl
  input := fun _ _ _ => rfl
  output := fun _ _ _ => rfl

theorem Change.addPolled (t : StdioTunnel) (conn : Int) (id : Short) (s : Nat) (fd : Int)
    (events : PollEvents) :
    Change t (t.addPolled (.connectionLink conn id s) fd events) conn id [] :=
  .ofPoller conn id fun x other => by
    rw [Poller.registrations_addPolled, if_neg fun same => other s same.symm]

theorem Change.setEvents (t : StdioTunnel) (conn : Int) (id : Short) (s : Nat) (fd : Int)
    (events : PollEvents) :
    Change t (t.setEvents (.connectionLink conn id s) fd events) conn id [] :=
  .ofPoller conn id fun x other => by
    rw [Poller.registrations_setEvents, if_neg fun same => other s same.symm]

theorem Change.removePolled (t : StdioTunnel) (conn : Int) (id : Short) (s : Nat) (fd : Int) :
    Change t (t.removePolled (.connectionLink conn id s) fd) conn id [] :=
  .ofPoller conn id fun x other => by
    rw [Poller.registrations_removePolled, if_neg fun same => other s same.symm]

/-- A call on a socket of the link. -/
theorem Change.log {call : Syscall} (sound : t.Sound)
    (mine : call.socket ∈ t.os.socketsOf conn id)
    (closed : call.openedFor = none) : Change t (t.log call) conn id [] where
  side := rfl
  reader := rfl
  writer := (CustomWriteStream.emitting_nil _).symm
  bare := fun _ => rfl
  link := fun _ _ _ => rfl
  registrations := fun _ _ _ => rfl
  opened := Kernel.opened_record closed
  input := by
    intro c i other
    have notMine : call.socket ∉ t.os.socketsOf c i := fun member =>
      other (sound.os.owner _ _ _ _ _ member mine)
    refine (Kernel.input_record closed c i).trans ?_
    cases call with
    | received s bytes =>
        change t.os.input c i ++ (if s ∈ t.os.socketsOf c i then bytes else []) = _
        rw [if_neg (show s ∉ t.os.socketsOf c i from notMine), List.append_nil]
    | opened _ _ _ | listening _ _ | sent _ _ | closed _ => exact List.append_nil _
  output := by
    intro c i other
    have notMine : call.socket ∉ t.os.socketsOf c i := fun member =>
      other (sound.os.owner _ _ _ _ _ member mine)
    refine (Kernel.output_record closed c i).trans ?_
    cases call with
    | sent s bytes =>
        change t.os.output c i ++ (if s ∈ t.os.socketsOf c i then bytes else []) = _
        rw [if_neg (show s ∉ t.os.socketsOf c i from notMine), List.append_nil]
    | opened _ _ _ | listening _ _ | received _ _ | closed _ => exact List.append_nil _

theorem registrations_emit {x : Polled} (other : x ≠ .stdioTunnel) (payload : List Byte) :
    (t.emit payload).registrations x = t.registrations x := by
  change (t.m_poller.setEvents .stdioTunnel _ _).registrations x = _
  rw [Poller.registrations_setEvents, if_neg fun same => other same.symm]
  rfl

theorem Change.emit (t : StdioTunnel) (conn : Int) (id : Short) (payload : List Byte) :
    Change t (t.emit payload) conn id [payload] where
  side := rfl
  reader := rfl
  writer := rfl
  bare := fun _ => rfl
  link := fun _ _ _ => rfl
  registrations := fun _ own _ => registrations_emit own payload
  opened := rfl
  input := fun _ _ _ => rfl
  output := fun _ _ _ => rfl

/-! ## Operations -/

/-- Records of the poller that do not concern the link. -/
theorem Moves.emit (sound : t.Sound) (conn : Int) (id : Short) (payload : List Byte) :
    Moves t (t.emit payload) conn id (t.linkEnd conn id) [payload] := by
  have records : ∀ s, (t.emit payload).registrations (.connectionLink conn id s) =
      t.registrations (.connectionLink conn id s) := fun s =>
    registrations_emit (by simp) payload
  have change := Change.emit t conn id payload
  refine ⟨change, change.sound sound sound.os ⟨(sound.links conn id).link, ?_⟩, ?_⟩
  · intro s
    rw [records]
    exact (sound.links conn id).registered s
  · unfold linkEnd phase held
    simp only [records]
    rfl

/-- A call on a socket that was opened for the link. -/
theorem Moves.log {call : Syscall} (sound : t.Sound)
    (mine : call.socket ∈ t.os.socketsOf conn id) (closed : call.openedFor = none) :
    Moves t (t.log call) conn id
      { t.linkEnd conn id with
        input := t.os.input conn id ++ call.bytesIn (t.os.socketsOf conn id)
        output := t.os.output conn id ++ call.bytesOut (t.os.socketsOf conn id) } [] := by
  have change := Change.log sound mine closed
  refine ⟨change, change.sound sound (sound.os.record closed (sound.os.socket_lt mine)) ⟨?_, ?_⟩,
    ?_⟩
  · intro x same
    have before := (sound.links conn id).link x same
    exact ⟨before.1, before.2.1, (Kernel.socketsOf_record closed conn id).symm ▸ before.2.2⟩
  · exact (sound.links conn id).registered
  · exact congrArg₂ (LinkEnd.mk _ _) (@Kernel.input_record t.os _ closed conn id)
      (@Kernel.output_record t.os _ closed conn id)

/-- A read on the socket of the link. -/
theorem Moves.received (sound : t.Sound) {s : Nat} (mine : s ∈ t.os.socketsOf conn id)
    (bytes : List Byte) :
    Moves t (t.log (.received s bytes)) conn id
      { t.linkEnd conn id with input := (t.linkEnd conn id).input ++ bytes } [] := by
  have moves := @Moves.log _ _ _ (.received s bytes) sound mine rfl
  rw [show Syscall.bytesIn (t.os.socketsOf conn id) (.received s bytes) = bytes from if_pos mine,
    show Syscall.bytesOut (t.os.socketsOf conn id) (.received s bytes) = [] from rfl,
    List.append_nil] at moves
  exact moves

/-- A write on the socket of the link. -/
theorem Moves.sent (sound : t.Sound) {s : Nat} (mine : s ∈ t.os.socketsOf conn id)
    (bytes : List Byte) :
    Moves t (t.log (.sent s bytes)) conn id
      { t.linkEnd conn id with output := (t.linkEnd conn id).output ++ bytes } [] := by
  have moves := @Moves.log _ _ _ (.sent s bytes) sound mine rfl
  rw [show Syscall.bytesIn (t.os.socketsOf conn id) (.sent s bytes) = [] from rfl,
    show Syscall.bytesOut (t.os.socketsOf conn id) (.sent s bytes) = bytes from if_pos mine,
    List.append_nil] at moves
  exact moves

/-- `close` on a socket that was opened for the link. -/
theorem Moves.closed (sound : t.Sound) {s : Nat} (mine : s ∈ t.os.socketsOf conn id) :
    Moves t (t.log (.closed s)) conn id (t.linkEnd conn id) [] := by
  have moves := @Moves.log _ _ _ (.closed s) sound mine rfl
  rw [show Syscall.bytesIn (t.os.socketsOf conn id) (.closed s) = [] from rfl,
    show Syscall.bytesOut (t.os.socketsOf conn id) (.closed s) = [] from rfl,
    List.append_nil, List.append_nil] at moves
  exact moves

/-- A socket for a link, before it is used. -/
theorem Looks.openSocket (sound : t.Sound) (conn : Int) (id : Short) :
    Looks t (t.openSocket conn id) where
  side := rfl
  writer := rfl
  linkEnd := fun c i => congrArg₂ (LinkEnd.mk _ _)
    (@Kernel.input_allocate _ (fun s => .opened s conn id) sound.os (fun _ => rfl)
      (fun _ _ => rfl) c i)
    (@Kernel.output_allocate _ (fun s => .opened s conn id) sound.os (fun _ => rfl)
      (fun _ _ => rfl) c i)

theorem Sound.openSocket (sound : t.Sound) (conn : Int) (id : Short) :
    (t.openSocket conn id).Sound where
  ready := ⟨sound.ready.poller, sound.ready.fields⟩
  os := @Kernel.Sound.allocate _ (fun s => .opened s conn id) sound.os fun _ => rfl
  keys := sound.keys
  listeners := sound.listeners
  links := by
    intro c i
    refine ⟨?_, (sound.links c i).registered⟩
    intro x same
    have before := (sound.links c i).link x same
    refine ⟨before.1, before.2.1, ?_⟩
    have old := Kernel.mem_socketsOf.mp before.2.2
    exact Kernel.mem_socketsOf.mpr (Kernel.mem_opened.mpr
      (List.mem_append_left _ (Kernel.mem_opened.mp old)))

theorem mem_socketsOf_openSocket (t : StdioTunnel) (conn : Int) (id : Short) :
    t.os.next_socket ∈ (t.openSocket conn id).os.socketsOf conn id :=
  Kernel.mem_socketsOf.mpr (Kernel.mem_opened.mpr (List.mem_append_right _ List.mem_cons_self))

/-- New contents for the members a link may change while it lives. -/
theorem Moves.put (sound : t.Sound) (found : t.link? conn id = some l)
    (sameId : l'.m_id = l.m_id) (sameSocket : l'.m_socket = l.m_socket)
    (sameClosing : l'.m_closing = l.m_closing) (valid : l'.m_buffer.Valid) :
    Moves t (t.putLink conn l') conn id
      { t.linkEnd conn id with held := l'.m_buffer.pending } [] := by
  obtain ⟨ids, _, mine⟩ := (sound.links conn id).link l found
  have idIs : l'.m_id = id := sameId.trans ids
  have change := Change.putLink t conn l'
  have stored : (t.putLink conn l').link? conn id = some l' := by
    rw [← idIs]
    exact link?_putLink_self (connection?_of_link? found)
  rw [idIs] at change
  refine ⟨change, change.sound sound sound.os ⟨?_, ?_⟩, ?_⟩
  · intro x same
    rw [stored] at same
    rw [← Option.some.inj same]
    exact ⟨idIs, valid, sameSocket ▸ mine⟩
  · intro s
    rcases (sound.links conn id).registered s with none | ⟨x, record, same, socket, up, single, fd⟩
    · exact Or.inl none
    · rw [found] at same
      have equal := Option.some.inj same
      subst equal
      exact Or.inr ⟨l', record, stored, sameSocket.trans socket, sameClosing.trans up, single, fd⟩
  · unfold linkEnd phase held
    rw [stored, found]
    dsimp only
    rw [sameClosing, sameSocket]
    rfl

theorem setFirst_single {fd : Int} {events : PollEvents} {record : Pollfd} (here : record.fd = fd) :
    Poller.setFirst fd events [record] = [{ record with events := events }] :=
  if_pos here

theorem setFirst_eq_nil {fd : Int} {events : PollEvents} {records : List Pollfd} :
    Poller.setFirst fd events records = [] ↔ records = [] := by
  cases records with
  | nil => exact Iff.rfl
  | cons first rest =>
      unfold Poller.setFirst
      split <;> simp

/-- New events for a link. -/
theorem Moves.setEvents (sound : t.Sound) (conn : Int) (id : Short) (s : Nat) (events : PollEvents) :
    Moves t (t.setEvents (.connectionLink conn id s) s events) conn id (t.linkEnd conn id) [] := by
  have change := Change.setEvents t conn id s s events
  have records : ∀ s', (t.setEvents (.connectionLink conn id s) s events).registrations
      (.connectionLink conn id s') = if s = s' then
        Poller.setFirst s events (t.registrations (.connectionLink conn id s'))
      else t.registrations (.connectionLink conn id s') := by
    intro s'
    refine (Poller.registrations_setEvents _ _ _ _ _).trans ?_
    by_cases same : s = s'
    · rw [if_pos same, if_pos (by rw [same])]
      rfl
    · rw [if_neg same, if_neg (by simpa using same)]
      rfl
  have nothing : ∀ s', (t.setEvents (.connectionLink conn id s) s events).registrations
      (.connectionLink conn id s') = [] ↔ t.registrations (.connectionLink conn id s') = [] := by
    intro s'
    rw [records]
    split
    · exact setFirst_eq_nil
    · exact Iff.rfl
  refine ⟨change, change.sound sound sound.os ⟨(sound.links conn id).link, ?_⟩, ?_⟩
  · intro s'
    rcases (sound.links conn id).registered s' with none | ⟨x, record, found, socket, up, single, fd⟩
    · exact Or.inl ((nothing s').mpr none)
    · right
      rw [records]
      by_cases same : s = s'
      · subst same
        refine ⟨x, { record with events := events }, found, socket, up, ?_, fd⟩
        rw [if_pos rfl, single, setFirst_single fd]
      · rw [if_neg same]
        exact ⟨x, record, found, socket, up, single, fd⟩
  · unfold linkEnd phase held
    simp only [nothing]
    rfl

/-- The records of a link that is not registered any more, or not yet. -/
theorem Sound.unregistered (sound : t.Sound)
    (idle : t.phase conn id ≠ .opened) (s : Nat) :
    t.registrations (.connectionLink conn id s) = [] := by
  rcases (sound.links conn id).registered s with none | ⟨x, record, found, socket, up, single, _⟩
  · exact none
  · exfalso
    apply idle
    unfold phase
    rw [found]
    dsimp only
    rw [up, socket, single]
    rfl

/-- `setClosing` -/
theorem Moves.setClosing (sound : t.Sound) {c : TunnelConnection} (found : t.link? conn id = some l)
    (isConn : c.m_id = conn) :
    Moves t (t.setClosing c l) conn id { t.linkEnd conn id with phase := .closing } [] := by
  obtain ⟨idIs, valid, mine⟩ := (sound.links conn id).link l found
  subst isConn
  let l' : ConnectionLink := { l with m_closing := true }
  let t₁ := t.putLink c.m_id l'
  let t₂ := t₁.log (.closed l.m_socket)
  have idIs' : l'.m_id = id := idIs
  have stored : t₁.link? c.m_id id = some l' := by
    have self := link?_putLink_self (l := l') (connection?_of_link? found)
    rwa [idIs'] at self
  have closed : (Syscall.closed l.m_socket).openedFor = none := rfl
  have changed₁ := Change.putLink t c.m_id l'
  rw [idIs'] at changed₁
  have changed₂ : Change t₁ t₂ c.m_id id [] := by
    refine ⟨rfl, rfl, (CustomWriteStream.emitting_nil _).symm, fun _ => rfl, fun _ _ _ => rfl,
      fun _ _ _ => rfl, Kernel.opened_record closed, ?_, ?_⟩
    · exact fun a b _ => (Kernel.input_record closed a b).trans (List.append_nil _)
    · exact fun a b _ => (Kernel.output_record closed a b).trans (List.append_nil _)
  have changed₃ := Change.removePolled t₂ c.m_id id l.m_socket l.m_socket
  have change := (changed₁.trans changed₂).trans changed₃
  have pointer : linkPointer c l = .connectionLink c.m_id id l.m_socket := by
    rw [linkPointer, idIs]
  have whole : t.setClosing c l =
      t₂.removePolled (.connectionLink c.m_id id l.m_socket) l.m_socket := by
    rw [← pointer]
    rfl
  rw [← whole] at change
  have records : ∀ s, (t.setClosing c l).registrations (.connectionLink c.m_id id s) = [] := by
    intro s
    rw [whole]
    refine (Poller.registrations_removePolled _ _ _ _).trans ?_
    have same : t₂.m_poller.registrations (.connectionLink c.m_id id s) =
        t.registrations (.connectionLink c.m_id id s) := rfl
    rcases (sound.links c.m_id id).registered s with none | ⟨x, record, found', socket, up, single, fd⟩
    · rw [same, none]
      split <;> rfl
    · rw [found] at found'
      have equal := Option.some.inj found'
      subst equal
      rw [same, single, if_pos (by rw [socket]), List.eraseP_cons_of_pos (by simp [fd, socket])]
  have link : (t.setClosing c l).link? c.m_id id = some l' := by
    rw [whole]
    exact stored
  have sockets : (t.setClosing c l).os.socketsOf c.m_id id = t.os.socketsOf c.m_id id := by
    rw [whole]
    exact Kernel.socketsOf_record closed c.m_id id
  refine ⟨change, change.sound sound ?_ ⟨?_, fun s => Or.inl (records s)⟩, ?_⟩
  · rw [whole]
    exact sound.os.record closed (sound.os.socket_lt mine)
  · intro x same
    rw [link] at same
    rw [← Option.some.inj same, sockets]
    exact ⟨idIs, valid, mine⟩
  · have input : (t.setClosing c l).os.input c.m_id id = t.os.input c.m_id id := by
      rw [whole]
      exact (Kernel.input_record closed c.m_id id).trans (List.append_nil _)
    have output : (t.setClosing c l).os.output c.m_id id = t.os.output c.m_id id := by
      rw [whole]
      exact (Kernel.output_record closed c.m_id id).trans (List.append_nil _)
    unfold linkEnd phase held
    rw [link, found, input, output]
    rfl

/-- `m_link_map.erase` for a link that is not registered. -/
theorem Moves.erase (sound : t.Sound) (idle : t.phase conn id ≠ .opened) :
    Moves t (t.eraseLink conn id) conn id
      { t.linkEnd conn id with phase := .absent, held := [] } [] := by
  have change := Change.eraseLink t conn id
  have gone := @link?_eraseLink_self t conn id
  refine ⟨change, change.sound sound sound.os ⟨?_, fun s => Or.inl (sound.unregistered idle s)⟩, ?_⟩
  · intro x same
    rw [gone] at same
    cases same
  · unfold linkEnd phase held
    rw [gone]
    rfl

/-- A new link that waits for a reply. -/
theorem Moves.create (sound : t.Sound) (known : (t.connection? conn).isSome)
    (unused : t.phase conn id = .absent) {s : Nat} (mine : s ∈ t.os.socketsOf conn id) :
    Moves t (t.putLink conn (.create id s)) conn id
      { t.linkEnd conn id with phase := .pending, held := [] } [] := by
  have change := Change.putLink t conn (.create id s)
  have stored := link?_putLink_self (l := .create id s) known
  have records := @Sound.unregistered _ conn id sound (by rw [unused]; decide)
  refine ⟨change, change.sound sound sound.os ⟨?_, fun s => Or.inl (records s)⟩, ?_⟩
  · intro x same
    rw [ConnectionLink.create] at stored
    rw [ConnectionLink.create, stored] at same
    rw [← Option.some.inj same]
    exact ⟨rfl, SockBuffer.fresh_valid, mine⟩
  · have found : (t.putLink conn (.create id s)).link? conn id = some (.create id s) := stored
    have empty : (ConnectionLink.create id s).m_buffer.pending = [] := SockBuffer.fresh_pending
    unfold linkEnd
    rw [phase_of_waiting found rfl (records s), held_of_link found, empty]
    rfl

/-- The reply lets a link start. -/
theorem Moves.establish (sound : t.Sound) (found : t.link? conn id = some l)
    (waiting : t.phase conn id = .pending) :
    Moves t (t.addPolled (.connectionLink conn id l.m_socket) l.m_socket POLLIN) conn id
      { t.linkEnd conn id with phase := .opened } [] := by
  have change := Change.addPolled t conn id l.m_socket l.m_socket POLLIN
  have none := @Sound.unregistered _ conn id sound (by rw [waiting]; decide)
  have up : l.m_closing = false := by
    unfold phase at waiting
    rw [found] at waiting
    cases closing : l.m_closing with
    | false => rfl
    | true =>
        dsimp only at waiting
        rw [closing] at waiting
        cases waiting
  have records : ∀ s, (t.addPolled (.connectionLink conn id l.m_socket) l.m_socket
      POLLIN).registrations (.connectionLink conn id s) =
      if l.m_socket = s then [⟨l.m_socket, POLLIN, .zero⟩] else [] := by
    intro s
    refine (Poller.registrations_addPolled _ _ _ _ _).trans ?_
    have empty : t.m_poller.registrations (.connectionLink conn id s) = [] := none s
    rw [empty]
    by_cases same : l.m_socket = s
    · rw [if_pos same, if_pos (by rw [same])]
      rfl
    · rw [if_neg same, if_neg (by simpa using same)]
  refine ⟨change, change.sound sound sound.os ⟨(sound.links conn id).link, ?_⟩, ?_⟩
  · intro s
    rw [records]
    by_cases same : l.m_socket = s
    · rw [if_pos same]
      exact Or.inr ⟨l, _, found, same, up, rfl, congrArg Nat.cast same⟩
    · rw [if_neg same]
      exact Or.inl rfl
  · have still : (t.addPolled (.connectionLink conn id l.m_socket) l.m_socket POLLIN).link? conn id =
        some l := found
    unfold linkEnd
    rw [phase_of_registered still up (by rw [records, if_pos rfl]; simp), held_of_link still,
      held_of_link found]
    rfl

/-- A new link that is registered at once. -/
theorem Moves.connect (sound : t.Sound) (known : (t.connection? conn).isSome)
    (unused : t.phase conn id = .absent) {s : Nat} (mine : s ∈ t.os.socketsOf conn id) :
    Moves t ((t.addPolled (.connectionLink conn id s) s POLLIN).putLink conn (.create id s)) conn id
      { t.linkEnd conn id with phase := .opened, held := [] } [] := by
  have created := Moves.create sound known unused mine
  have stored : (t.putLink conn (.create id s)).link? conn id = some (.create id s) :=
    link?_putLink_self (l := .create id s) known
  have established := Moves.establish created.sound (l := .create id s) stored
    (congrArg LinkEnd.phase created.own)
  rw [created.own] at established
  exact created.trans established

/-! ## The counter of a listener -/

theorem bare?_setNextId (t : StdioTunnel) (c : TunnelConnection) (s : Nat) (n : Int) (x : Int) :
    (t.setNextId c s n).bare? x =
      if c.m_id = x then (t.bare? x).map fun b => (b.1, b.2.1, .listenSide s n)
      else t.bare? x := by
  unfold bare? connection? setNextId
  dsimp only
  rw [OrderedMap.find?_modify]
  split
  · rw [Option.map_map, Option.map_map]
    rfl
  · rfl

theorem link?_setNextId (t : StdioTunnel) (c : TunnelConnection) (s : Nat) (n : Int) (x : Int)
    (id : Short) : (t.setNextId c s n).link? x id = t.link? x id := by
  unfold link? connection? setNextId
  dsimp only
  rw [OrderedMap.find?_modify]
  split
  · cases t.m_connection_map.find? x <;> rfl
  · rfl

theorem linkEnd_setNextId (t : StdioTunnel) (c : TunnelConnection) (s : Nat) (n : Int) (x : Int)
    (id : Short) : (t.setNextId c s n).linkEnd x id = t.linkEnd x id := by
  unfold linkEnd phase held
  rw [link?_setNextId]
  rfl

/-- Counting an accepted client keeps an endpoint sound. -/
theorem Sound.setNextId (sound : t.Sound) {c : TunnelConnection} {s : Nat} {n : Int}
    {spec : ConnectionSpec} (role : t.bare? c.m_id = some (spec, c.m_id, .listenSide s n)) (n' : Int) :
    (t.setNextId c s n').Sound where
  ready := ⟨sound.ready.poller, sound.ready.fields⟩
  os := sound.os
  keys := by
    intro x conn found
    unfold connection? StdioTunnel.setNextId at found
    dsimp only at found
    rw [OrderedMap.find?_modify] at found
    split at found
    · obtain ⟨old, before, rfl⟩ := Option.map_eq_some_iff.mp found
      exact sound.keys x old before
    · exact sound.keys x conn found
  listeners := by
    intro x s' record member
    obtain ⟨fd, spec', m, before⟩ := sound.listeners x s' record member
    refine ⟨fd, ?_⟩
    rw [bare?_setNextId]
    split
    · rename_i same
      rw [same, before] at role
      obtain ⟨_, _, sameRole⟩ := Prod.mk.inj (Option.some.inj role) |>.imp id Prod.mk.inj
      obtain ⟨sameSocket, _⟩ := Role.listenSide.inj sameRole
      rw [before, sameSocket]
      exact ⟨spec', n', rfl⟩
    · exact ⟨spec', m, before⟩
  links := by
    intro x i
    have at' := sound.links x i
    constructor
    · rw [link?_setNextId]
      exact at'.link
    · rw [link?_setNextId]
      exact at'.registered

end StdioTunnel

end Tun01
