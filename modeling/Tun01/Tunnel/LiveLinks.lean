import Tun01.Tunnel.Start

/-!
# Links the poller holds

Which links are registered, and the events they are polled for, along runs in
which the other endpoint sends whatever it likes.
-/

namespace Tun01

open StdioTunnel (Aside Linkless)

namespace StdioTunnel

variable {t t' : StdioTunnel} {op : Operation}

/-- No link that is stored under the identifier is registered. -/
def Unregistered (t : StdioTunnel) (conn : Int) (id : Short) : Prop :=
  ∀ l, t.link? conn id = some l → t.registrations (.connectionLink conn id l.m_socket) = []

/-- A registered link is registered once, stored under its identifier and not closing. -/
def OnlyLive (t : StdioTunnel) : Prop :=
  ∀ conn id socket, t.registrations (.connectionLink conn id socket) ≠ [] →
    (t.registrations (.connectionLink conn id socket)).length = 1 ∧
      ∃ l, t.link? conn id = some l ∧ l.m_id = id ∧ l.m_socket = socket ∧ l.m_closing = false

/-- The invariant behind `OnlyLive`. -/
structure Live (t : StdioTunnel) : Prop where
  sockets : ∀ x i l, t.link? x i = some l → l.m_socket < t.os.next_socket
  registered : ∀ x i s, t.registrations (.connectionLink x i s) = [] ∨
    ∃ record l, t.registrations (.connectionLink x i s) = [record] ∧ record.fd = s ∧
      t.link? x i = some l ∧ l.m_socket = s ∧ l.m_closing = false

theorem Live.onlyLive (live : t.Live) (named : t.Named) : t.OnlyLive := by
  intro x i s some'
  rcases live.registered x i s with none | ⟨record, l, one, _, found, socket, up⟩
  · exact absurd none some'
  · rw [one]
    exact ⟨rfl, l, found, named.ids x i l found, socket, up⟩

theorem Live.unregistered (live : t.Live) {x : Int} {i : Short} (none : t.Unregistered x i) (s : Nat) :
    t.registrations (.connectionLink x i s) = [] := by
  rcases live.registered x i s with empty | ⟨record, l, one, _, found, rfl, _⟩
  · exact empty
  · exact none l found

end StdioTunnel

namespace Operation

open StdioTunnel

variable {t t' : StdioTunnel} {op : Operation}

/-- No live link is registered again, closed behind the poller or written over. -/
def SparesLive (t : StdioTunnel) : Operation → Prop
  | establish conn l => t.Unregistered conn.val l.m_id ∧ l.m_closing = false
  | refuse conn l => t.Unregistered conn.val l.m_id
  | accept conn _ _ n => t.Unregistered conn.val (Short.ofInt n)
  | connect conn id => t.Unregistered conn.val id
  | emit _ | received _ _ _ | acknowledge _ _ _ | push _ _ _ | written _ _ _ _ | close _ _
  | erase _ _ | attempt _ _ => True

/-- Sockets are handed out in order. -/
theorem next_socket_apply (op : Operation) (t : StdioTunnel) :
    t.os.next_socket ≤ (op.apply t).os.next_socket := by
  cases op with
  | emit _ | received _ _ _ | push _ _ _ | close _ _ | erase _ _ | establish _ _ | refuse _ _ =>
      exact Nat.le_refl _
  | acknowledge _ _ _ | written _ _ _ _ =>
      unfold apply
      dsimp only
      split <;> exact Nat.le_refl _
  | accept _ _ _ _ | attempt _ _ | connect _ _ => exact Nat.le_succ _

/-- A link an operation stores has a socket that was handed out. -/
theorem socket_stored (valid : op.Valid t) (sockets : ∀ x i l, t.link? x i = some l →
    l.m_socket < t.os.next_socket) {x : Int} {i : Short} {l : ConnectionLink}
    (found : (op.apply t).link? x i = some l) : l.m_socket < (op.apply t).os.next_socket := by
  have grows := next_socket_apply op t
  rw [link?_apply valid] at found
  cases stored : op.stores t with
  | none =>
      rw [stored] at found
      exact Nat.lt_of_lt_of_le (sockets x i l found) grows
  | some entry =>
      obtain ⟨conn, id, l'⟩ := entry
      rw [stored] at found
      dsimp only at found
      split at found
      · subst found
        cases op with
        | emit _ | received _ _ _ | establish _ _ | attempt _ _ | erase _ _ | refuse _ _ =>
            cases stored
        | acknowledge conn' l₀ ack =>
            cases stored
            exact Nat.lt_of_lt_of_le (sockets _ _ l₀ valid) grows
        | push conn' l₀ bytes | written conn' l₀ buffer bytes | close conn' l₀ =>
            cases stored
            exact Nat.lt_of_lt_of_le (sockets _ _ l₀ valid.1) grows
        | accept _ _ _ _ | connect _ _ =>
            cases stored
            exact Nat.lt_succ_self _
      · exact Nat.lt_of_lt_of_le (sockets x i l found) grows

/-- New events leave a single record single. -/
theorem setFirst_single {fd : Int} {events : PollEvents} {record : Pollfd} (same : record.fd = fd) :
    Poller.setFirst fd events [record] = [{ record with events := events }] := by
  unfold Poller.setFirst
  rw [if_pos same]

/-- A link that is written back with the same socket stays live. -/
theorem live_rewritten {conn : Short} {l : ConnectionLink} (l' : ConnectionLink) (live : t.Live)
    (stores : t.Stores conn l) (socket : l'.m_socket = l.m_socket)
    (closing : l'.m_closing = l.m_closing) (x : Int) (i : Short) (s : Nat) {records : List Pollfd}
    (same : records = t.registrations (.connectionLink x i s) ∨
      ∃ events, records = Poller.setFirst s events (t.registrations (.connectionLink x i s))) :
    records = [] ∨ ∃ record l₀, records = [record] ∧ record.fd = s ∧
      (if x = conn.val ∧ i = l.m_id then some l' else t.link? x i) = some l₀ ∧
      l₀.m_socket = s ∧ l₀.m_closing = false := by
  rcases live.registered x i s with empty | ⟨record, l₀, one, fd, found, mine, up⟩
  · refine Or.inl ?_
    rcases same with same | ⟨events, same⟩
    · rw [same, empty]
    · rw [same, empty]
      rfl
  · obtain ⟨record', one', fd'⟩ : ∃ record', records = [record'] ∧ record'.fd = s := by
      rcases same with same | ⟨events, same⟩
      · exact ⟨record, same.trans one, fd⟩
      · exact ⟨{ record with events := events }, by rw [same, one, setFirst_single fd], fd⟩
    refine Or.inr ⟨record', ?_⟩
    by_cases here : x = conn.val ∧ i = l.m_id
    · obtain rfl : l₀ = l := by
        rw [here.1, here.2] at found
        exact Option.some.inj (found.symm.trans stores)
      exact ⟨l', one', fd', if_pos here, socket.trans mine, closing.trans up⟩
    · exact ⟨l₀, one', fd', (if_neg here).trans found, mine, up⟩

/-- The records of a link stay, unless the operation is about it. -/
theorem link_records (op : Operation) (t : StdioTunnel) (x : Int) (i : Short) (s : Nat) :
    (op.apply t).registrations (.connectionLink x i s) = t.registrations (.connectionLink x i s) ∨
      ∃ f, op.records t = some (.connectionLink x i s, f) ∧
        (op.apply t).registrations (.connectionLink x i s) =
          f (t.registrations (.connectionLink x i s)) := by
  rw [registrations_apply op (y := .connectionLink x i s) nofun]
  cases about : op.records t with
  | none => exact Or.inl rfl
  | some entry =>
      obtain ⟨y, f⟩ := entry
      dsimp only
      by_cases same : y = .connectionLink x i s
      · rw [if_pos same]
        exact Or.inr ⟨f, by rw [same], rfl⟩
      · exact Or.inl (if_neg same)

/-- Live links stay live under every operation that spares them. -/
theorem live_apply (valid : op.Valid t) (spares : op.SparesLive t)
    (live : t.Live) : (op.apply t).Live where
  sockets := fun x i l found => socket_stored valid live.sockets found
  registered := by
    intro x i s
    have records := link_records op t x i s
    rw [link?_apply valid]
    cases op with
    | emit _ | received _ _ _ | attempt _ _ =>
        rcases records with same | ⟨f, about, _⟩
        · rw [same]
          exact live.registered x i s
        · cases about
    | acknowledge conn l ack =>
        refine live_rewritten { l with m_acknowledged := ack } live valid rfl rfl x i s ?_
        rcases records with same | ⟨f, about, same⟩
        · exact Or.inl same
        · dsimp only [Operation.records] at about
          split at about
          · cases about
          · cases about
            exact Or.inr ⟨_, same⟩
    | push conn l bytes =>
        refine live_rewritten { l with m_buffer := l.m_buffer.insert bytes } live valid.1 rfl rfl x i s ?_
        rcases records with same | ⟨f, about, same⟩
        · exact Or.inl same
        · cases about
          exact Or.inr ⟨_, same⟩
    | written conn l buffer bytes =>
        refine live_rewritten { l with m_buffer := buffer } live valid.1 rfl rfl x i s ?_
        rcases records with same | ⟨f, about, same⟩
        · exact Or.inl same
        · dsimp only [Operation.records] at about
          split at about
          · cases about
          · cases about
            exact Or.inr ⟨_, same⟩
    | close conn l =>
        dsimp only [Operation.stores]
        by_cases here : x = conn.val ∧ i = l.m_id
        · obtain ⟨rfl, rfl⟩ := here
          left
          rcases live.registered conn.val l.m_id s with
            empty | ⟨record, l₀, one, fd, found, rfl, up⟩
          · rcases records with same | ⟨f, about, same⟩
            · rw [same, empty]
            · cases about
              rw [same, empty]
              rfl
          · obtain rfl : l₀ = l := Option.some.inj (found.symm.trans valid.1)
            rw [registrations_apply _ (y := .connectionLink conn.val l₀.m_id l₀.m_socket) nofun]
            dsimp only [Operation.records]
            rw [if_pos rfl, one]
            exact List.eraseP_cons_of_pos
              (p := fun record : Pollfd => decide (record.fd = l₀.m_socket)) (decide_eq_true fd)
        · rw [if_neg here]
          rcases records with same | ⟨f, about, _⟩
          · rw [same]
            exact live.registered x i s
          · cases about
            exact absurd ⟨rfl, rfl⟩ here
    | erase conn l =>
        dsimp only [Operation.stores]
        rcases records with same | ⟨f, about, _⟩
        · rw [same]
          by_cases here : x = conn.val ∧ i = l.m_id
          · obtain ⟨rfl, rfl⟩ := here
            left
            rcases live.registered conn.val l.m_id s with empty | ⟨record, l₀, _, _, found, _, up⟩
            · exact empty
            · obtain rfl : l₀ = l := Option.some.inj (found.symm.trans valid.1)
              rw [valid.2] at up
              cases up
          · rw [if_neg here]
            exact live.registered x i s
        · cases about
    | establish conn l =>
        dsimp only [Operation.stores]
        rcases records with same | ⟨f, about, same⟩
        · rw [same]
          exact live.registered x i s
        · cases about
          rw [same, spares.1 l valid.1]
          exact Or.inr ⟨_, l, rfl, rfl, valid.1, rfl, spares.2⟩
    | refuse conn l =>
        dsimp only [Operation.stores]
        rcases records with same | ⟨f, about, _⟩
        · rw [same]
          by_cases here : x = conn.val ∧ i = l.m_id
          · obtain ⟨rfl, rfl⟩ := here
            exact Or.inl (live.unregistered spares s)
          · rw [if_neg here]
            exact live.registered x i s
        · cases about
    | accept conn c socket n =>
        dsimp only [Operation.stores]
        rcases records with same | ⟨f, about, _⟩
        · rw [same]
          by_cases here : x = conn.val ∧ i = Short.ofInt n
          · obtain ⟨rfl, rfl⟩ := here
            exact Or.inl (live.unregistered spares s)
          · rw [if_neg here]
            exact live.registered x i s
        · cases about
    | connect conn id =>
        dsimp only [Operation.stores]
        by_cases here : x = conn.val ∧ i = id
        · obtain ⟨rfl, rfl⟩ := here
          rcases records with same | ⟨f, about, same⟩
          · rw [same]
            exact Or.inl (live.unregistered spares s)
          · cases about
            rw [same, live.unregistered spares]
            exact Or.inr ⟨_, _, rfl, rfl, if_pos ⟨rfl, rfl⟩, rfl, rfl⟩
        · rw [if_neg here]
          rcases records with same | ⟨f, about, _⟩
          · rw [same]
            exact live.registered x i s
          · cases about
            exact absurd ⟨rfl, rfl⟩ here

/-- Only leading operations can harm live links. -/
theorem sparesLive_of_leading (leads : op.leading = true → op.SparesLive t) : op.SparesLive t := by
  cases op with
  | establish _ _ | refuse _ _ | accept _ _ _ _ | connect _ _ => exact leads rfl
  | emit _ | received _ _ _ | acknowledge _ _ _ | push _ _ _ | written _ _ _ _ | close _ _
  | erase _ _ | attempt _ _ => trivial

theorem unregistered_aside (aside : Aside t t') {x : Int} {i : Short} (none : t.Unregistered x i) :
    t'.Unregistered x i := by
  intro l found
  rw [aside.link?] at found
  exact (aside.records (.connectionLink x i l.m_socket) nofun).trans (none l found)

theorem keeps_live : Keeps Live SparesLive where
  aside := by
    intro t t' aside live
    constructor
    · intro x i l found
      rw [aside.link?] at found
      rw [aside.os]
      exact live.sockets x i l found
    · intro x i s
      rw [aside.records (.connectionLink x i s) nofun, aside.link?]
      exact live.registered x i s
  linkless := by
    intro t none
    constructor
    · intro x i l found
      rw [none.link] at found
      cases found
    · exact fun x i s => Or.inl (none.records x i s)
  condition := by
    intro t t' op aside spares
    cases op with
    | establish conn l => exact ⟨unregistered_aside aside spares.1, spares.2⟩
    | refuse _ _ | accept _ _ _ _ | connect _ _ => exact unregistered_aside aside spares
    | emit _ | received _ _ _ | acknowledge _ _ _ | push _ _ _ | written _ _ _ _ | close _ _
    | erase _ _ | attempt _ _ => trivial
  operation := fun _ valid leads live => live_apply valid (sparesLive_of_leading leads) live

end Operation

/--
In a run in which no live link is registered again, closed behind the poller or
written over, the poller holds live links only.
-/
theorem Endpoint.only_live_registered {e e' : Endpoint} {events : List Event} (started : e.Started)
    (run : Run (Endpoint.Guarded Operation.SparesLive) e events e') : e'.tunnel.OnlyLive := by
  have initially := Operation.keeps_live.linkless started.keyed.2
  obtain ⟨waitsEmpty, live⟩ :=
    Endpoint.keeps_run Operation.keeps_live started.waitsEmpty initially run
  exact live.onlyLive waitsEmpty.keyed.toNamed

/-! ### A link that is created twice -/

def oneConnection : Message :=
  .handshake [(Short.ofInt 0, ⟨.CONNECT, text "host", 80, 8080, 0⟩)]

def firstClient : Message := .link (Short.ofInt 0) (Short.ofInt 501) .create

namespace Endpoint

def joined : Endpoint := (remoteEnd .waiting).after (arrives oneConnection)

def linked : Endpoint := joined.after (arrives firstClient)

theorem waiting_started : (remoteEnd .waiting).Started :=
  .remoteEnd StdioTunnelRemote.waiting_starts

/-- The handshake is no link message. -/
theorem joined_facts :
    ((remoteEnd .waiting).dispatch (arrives oneConnection)).isOk = true ∧
      STDIN_FD ∈ ((remoteEnd .waiting).tunnel.registrations .stdioTunnel).map Pollfd.fd ∧
      (remoteEnd .waiting).message (arrives oneConnection) = none := by
  decide +kernel

theorem linked_facts :
    (joined.dispatch (arrives firstClient)).isOk = true ∧
      STDIN_FD ∈ (joined.tunnel.registrations .stdioTunnel).map Pollfd.fd ∧
      joined.message (arrives firstClient) =
        some (Short.ofInt 0, LINK_CREATE, Short.ofInt 501, []) ∧
      joined.tunnel.link? 0 (Short.ofInt 501) = none := by
  decide +kernel

theorem joined_step : (remoteEnd .waiting).Step (arrives oneConnection) joined :=
  step_self rfl joined_facts.2.1 joined_facts.1

theorem linked_step : joined.Step (arrives firstClient) linked :=
  step_self rfl linked_facts.2.1 linked_facts.1

theorem linked_run : Run Step (remoteEnd .waiting) [arrives oneConnection, arrives firstClient]
    linked := .cons joined_step (.single linked_step)

def ackedConnection : Message :=
  .handshake [(Short.ofInt 0, ⟨.CONNECT, text "host", 80, 8080, 1⟩)]

def tellsFirst (m : LinkMessage) : Event := arrives (.link (Short.ofInt 0) (Short.ofInt 501) m)

def firstReady (events : PollEvents) (calls : Calls) : Event :=
  ⟨.connectionLink 0 (Short.ofInt 501) 0, ⟨0, events, events⟩, calls⟩

/--
Two clients.  The first sends, receives and gets its acknowledgement, the second
is closed.
-/
def conversation : List Event :=
  [arrives ackedConnection, arrives firstClient,
    arrives (.link (Short.ofInt 0) (Short.ofInt 502) .create),
    firstReady POLLIN { read := .ok (text "hi") }, tellsFirst (.sendForAck (text "yes")),
    tellsFirst .ack, firstReady POLLOUT { write := .ok 2 },
    arrives (.link (Short.ofInt 0) (Short.ofInt 502) .close)]

def conversed : Endpoint := conversation.foldl after (remoteEnd .waiting)

theorem conversation_plays : (remoteEnd .waiting).plays conversation = true := by
  decide +kernel

/-- The first client is up, acknowledged and registered, the second is gone. -/
theorem conversed_links :
    (conversed.tunnel.link? 0 (Short.ofInt 501)).map
        (fun l => (l.m_socket, l.m_closing, l.m_acknowledged, l.m_buffer.pending)) =
      some (0, false, true, text "s") ∧
      conversed.tunnel.link? 0 (Short.ofInt 502) = none ∧
      (conversed.tunnel.registrations (.connectionLink 0 (Short.ofInt 501) 0)).length = 1 := by
  decide +kernel

theorem only_live_registered_conversed : conversed.tunnel.OnlyLive := by
  refine only_live_registered waiting_started (run_plays conversation_plays ?_)
  intro e event op spares begins
  rcases begins_spares spares begins with ⟨conn, l, bytes, rfl, _⟩ | ⟨conn, id, rfl, none⟩
  · trivial
  · intro l found
    cases none.symm.trans found

/-- The second link with an identifier leaves the first one registered. -/
theorem not_only_live_registered :
    ¬ ∀ (e e' : Endpoint) (events : List Event), e.Started → Run Step e events e' →
      e'.tunnel.OnlyLive := by
  intro always
  obtain ⟨returns, fd, registered, stored⟩ :
      (linked.dispatch (arrives firstClient)).isOk = true ∧
        STDIN_FD ∈ (linked.tunnel.registrations .stdioTunnel).map Pollfd.fd ∧
        (linked.after (arrives firstClient)).tunnel.registrations
          (.connectionLink 0 (Short.ofInt 501) 0) ≠ [] ∧
        ((linked.after (arrives firstClient)).tunnel.link? 0 (Short.ofInt 501)).map
          ConnectionLink.m_socket = some 1 := by decide +kernel
  have live := always _ _ _ waiting_started (.snoc linked_run (step_self rfl fd returns))
  obtain ⟨_, l, found, _, socket, _⟩ := live 0 (Short.ofInt 501) 0 registered
  rw [found, Option.map_some, socket] at stored
  cases stored

end Endpoint

/-! ## Links that are polled for input -/

/-- The records of one link: each is for its socket, and all but the first are for input. -/
structure RecordsOf (s : Nat) (records : List Pollfd) : Prop where
  fd : ∀ record ∈ records, record.fd = s
  later : ∀ record ∈ records.tail, record.events.POLLIN = true

namespace RecordsOf

variable {s : Nat} {records : List Pollfd}

theorem nil (s : Nat) : RecordsOf s [] where
  fd := fun _ member => by cases member
  later := fun _ member => by cases member

theorem setFirst_cons {record : Pollfd} {rest : List Pollfd} (of : RecordsOf s (record :: rest))
    (events : PollEvents) :
    Poller.setFirst s events (record :: rest) = { record with events := events } :: rest := by
  unfold Poller.setFirst
  rw [if_pos (of.fd record List.mem_cons_self)]

theorem setFirst (of : RecordsOf s records) (events : PollEvents) :
    RecordsOf s (Poller.setFirst s events records) := by
  cases records with
  | nil => exact .nil s
  | cons record rest =>
      rw [of.setFirst_cons]
      constructor
      · intro r member
        rcases List.mem_cons.mp member with rfl | inRest
        · exact of.fd record List.mem_cons_self
        · exact of.fd r (List.mem_cons_of_mem _ inRest)
      · exact of.later

/-- With events for input, all records are for input. -/
theorem setFirst_input (of : RecordsOf s records) {events : PollEvents} (input : events.POLLIN = true) :
    ∀ record ∈ Poller.setFirst s events records, record.events.POLLIN = true := by
  cases records with
  | nil => exact fun _ member => by cases member
  | cons record rest =>
      rw [of.setFirst_cons]
      intro r member
      rcases List.mem_cons.mp member with rfl | inRest
      · exact input
      · exact of.later r inRest

theorem erase (of : RecordsOf s records) :
    RecordsOf s (records.eraseP fun record => decide (record.fd = s)) := by
  cases records with
  | nil => exact .nil s
  | cons record rest =>
      rw [List.eraseP_cons_of_pos (p := fun record : Pollfd => decide (record.fd = s))
        (decide_eq_true (of.fd record List.mem_cons_self))]
      constructor
      · exact fun r member => of.fd r (List.mem_cons_of_mem _ member)
      · exact fun r member => of.later r (List.mem_of_mem_tail member)

theorem add (of : RecordsOf s records) : RecordsOf s (records ++ [⟨s, POLLIN, .zero⟩]) where
  fd := by
    intro r member
    rcases List.mem_append.mp member with old | new
    · exact of.fd r old
    · rw [List.mem_singleton.mp new]
  later := by
    intro r member
    cases records with
    | nil => cases member
    | cons record rest =>
        rcases List.mem_append.mp member with old | new
        · exact of.later r old
        · rw [List.mem_singleton.mp new]
          rfl

end RecordsOf

namespace StdioTunnel

/-- A registered link that is up and acknowledged is polled for input. -/
def PollsInput (t : StdioTunnel) : Prop :=
  ∀ conn id l, t.link? conn id = some l → l.m_closing = false → l.m_acknowledged = true →
    ∀ record ∈ t.registrations (.connectionLink conn id l.m_socket), record.events.POLLIN = true

/-- The invariant behind `PollsInput`. -/
structure Polling (t : StdioTunnel) : Prop where
  sockets : ∀ x i l, t.link? x i = some l → l.m_socket < t.os.next_socket
  handedOut : ∀ x i s, t.os.next_socket ≤ s → t.registrations (.connectionLink x i s) = []
  records : ∀ x i s, RecordsOf s (t.registrations (.connectionLink x i s))
  input : t.PollsInput

end StdioTunnel

namespace Operation

open StdioTunnel

variable {t t' : StdioTunnel} {op : Operation}

/-- Data arrives for links only that wait for an acknowledgement. -/
def SparesInput (t : StdioTunnel) : Operation → Prop
  | push conn l _ => l.m_acknowledged = false ∨
      t.registrations (.connectionLink conn.val l.m_id l.m_socket) = []
  | emit _ | received _ _ _ | acknowledge _ _ _ | written _ _ _ _ | close _ _ | erase _ _
  | establish _ _ | refuse _ _ | accept _ _ _ _ | attempt _ _ | connect _ _ => True

/-- Records are added for sockets that were handed out. -/
theorem records_handedOut (valid : op.Valid t)
    (sockets : ∀ x i l, t.link? x i = some l → l.m_socket < t.os.next_socket)
    (handedOut : ∀ x i s, t.os.next_socket ≤ s → t.registrations (.connectionLink x i s) = [])
    (x : Int) (i : Short) (s : Nat) (above : (op.apply t).os.next_socket ≤ s) :
    (op.apply t).registrations (.connectionLink x i s) = [] := by
  have before := handedOut x i s (Nat.le_trans (next_socket_apply op t) above)
  rcases link_records op t x i s with same | ⟨f, about, same⟩
  · exact same.trans before
  · rw [same, before]
    cases op with
    | emit _ | received _ _ _ | erase _ _ | refuse _ _ | accept _ _ _ _ | attempt _ _ => cases about
    | acknowledge conn l ack | written conn l buffer bytes =>
        dsimp only [Operation.records] at about
        split at about
        · cases about
        · cases about
          rfl
    | push conn l bytes =>
        cases about
        rfl
    | close conn l =>
        cases about
        rfl
    | establish conn l =>
        cases about
        have below := sockets _ _ l valid.1
        exact absurd (Nat.le_trans (next_socket_apply _ t) above) (Nat.not_le.mpr below)
    | connect conn id =>
        cases about
        exact absurd above (Nat.not_le.mpr (Nat.lt_succ_self _))

theorem records_apply (polling : t.Polling) (op : Operation) (x : Int) (i : Short) (s : Nat) :
    RecordsOf s ((op.apply t).registrations (.connectionLink x i s)) := by
  have before := polling.records x i s
  rcases link_records op t x i s with same | ⟨f, about, same⟩
  · rw [same]
    exact before
  · rw [same]
    cases op with
    | emit _ | received _ _ _ | erase _ _ | refuse _ _ | accept _ _ _ _ | attempt _ _ => cases about
    | acknowledge conn l ack | written conn l buffer bytes =>
        dsimp only [Operation.records] at about
        split at about
        · cases about
        · cases about
          exact before.setFirst _
    | push conn l bytes =>
        cases about
        exact before.setFirst _
    | close conn l =>
        cases about
        exact before.erase
    | establish conn l =>
        cases about
        exact before.add
    | connect conn id =>
        cases about
        exact before.add

/-- A link that is not the one an operation stores keeps its records. -/
theorem input_other {conn id : Short} {stored : Option ConnectionLink} (polling : t.Polling)
    (stores : op.stores t = some (conn, id, stored))
    (about : ∀ x i s f, op.records t = some (.connectionLink x i s, f) → x = conn.val ∧ i = id)
    {x : Int} {i : Short} {l : ConnectionLink} (valid : op.Valid t)
    (found : (op.apply t).link? x i = some l) (other : ¬(x = conn.val ∧ i = id))
    (up : l.m_closing = false) (acked : l.m_acknowledged = true) :
    ∀ record ∈ (op.apply t).registrations (.connectionLink x i l.m_socket),
      record.events.POLLIN = true := by
  rw [link?_apply valid, stores] at found
  dsimp only at found
  rw [if_neg other] at found
  rcases link_records op t x i l.m_socket with same | ⟨f, mine, _⟩
  · rw [same]
    exact polling.input x i l found up acked
  · exact absurd (about x i l.m_socket f mine) other

/-- Links that are polled for input stay so. -/
theorem input_apply (valid : op.Valid t) (spares : op.SparesInput t) (polling : t.Polling) :
    (op.apply t).PollsInput := by
  intro x i l' found up acked
  cases op with
  | emit _ | received _ _ _ | attempt _ _ =>
      rcases link_records _ t x i l'.m_socket with same | ⟨f, about, _⟩
      · rw [same]
        exact polling.input x i l' found up acked
      · cases about
  | acknowledge conn l ack =>
      by_cases here : x = conn.val ∧ i = l.m_id
      · obtain ⟨rfl, rfl⟩ := here
        rw [link?_apply valid] at found
        dsimp only [Operation.stores] at found
        rw [if_pos ⟨rfl, rfl⟩] at found
        obtain rfl := Option.some.inj found
        have isOpen : l.m_closing = false := up
        rw [registrations_apply _ (y := .connectionLink conn.val l.m_id l.m_socket) nofun]
        dsimp only [Operation.records]
        rw [if_neg (by rw [isOpen]; exact Bool.false_ne_true)]
        dsimp only
        rw [if_pos rfl]
        exact (polling.records _ _ _).setFirst_input acked
      · refine input_other polling rfl ?_ valid found here up acked
        intro x i s f about
        dsimp only [Operation.records] at about
        split at about <;> cases about
        exact ⟨rfl, rfl⟩
  | push conn l bytes =>
      by_cases here : x = conn.val ∧ i = l.m_id
      · obtain ⟨rfl, rfl⟩ := here
        rw [link?_apply valid] at found
        dsimp only [Operation.stores] at found
        rw [if_pos ⟨rfl, rfl⟩] at found
        obtain rfl := Option.some.inj found
        rcases spares with waits | none
        · rw [show l.m_acknowledged = true from acked] at waits
          cases waits
        · rw [registrations_apply _ (y := .connectionLink conn.val l.m_id l.m_socket) nofun]
          dsimp only [Operation.records]
          rw [if_pos rfl, none]
          exact fun _ member => by cases member
      · refine input_other polling rfl ?_ valid found here up acked
        intro x i s f about
        cases about
        exact ⟨rfl, rfl⟩
  | written conn l buffer bytes =>
      by_cases here : x = conn.val ∧ i = l.m_id
      · obtain ⟨rfl, rfl⟩ := here
        have before := polling.input conn.val l.m_id l valid.1
        rw [link?_apply valid] at found
        dsimp only [Operation.stores] at found
        rw [if_pos ⟨rfl, rfl⟩] at found
        obtain rfl := Option.some.inj found
        rw [registrations_apply _ (y := .connectionLink conn.val l.m_id l.m_socket) nofun]
        dsimp only [Operation.records]
        cases more : buffer.unsentData with
        | true =>
            rw [if_pos rfl]
            exact before up acked
        | false =>
            rw [if_neg Bool.false_ne_true]
            dsimp only
            rw [if_pos rfl]
            exact (polling.records _ _ _).setFirst_input acked
      · refine input_other polling rfl ?_ valid found here up acked
        intro x i s f about
        dsimp only [Operation.records] at about
        split at about <;> cases about
        exact ⟨rfl, rfl⟩
  | close conn l =>
      by_cases here : x = conn.val ∧ i = l.m_id
      · obtain ⟨rfl, rfl⟩ := here
        rw [link?_apply valid] at found
        dsimp only [Operation.stores] at found
        rw [if_pos ⟨rfl, rfl⟩] at found
        obtain rfl := Option.some.inj found
        cases up
      · refine input_other polling rfl ?_ valid found here up acked
        intro x i s f about
        cases about
        exact ⟨rfl, rfl⟩
  | erase conn l | refuse conn l =>
      by_cases here : x = conn.val ∧ i = l.m_id
      · rw [link?_apply valid] at found
        dsimp only [Operation.stores] at found
        rw [if_pos here] at found
        cases found
      · exact input_other polling rfl (fun _ _ _ _ about => by cases about) valid found here up acked
  | establish conn l =>
      have before := polling.input x i l' found up acked
      rcases link_records (.establish conn l) t x i l'.m_socket with same | ⟨f, about, same⟩
      · rw [same]
        exact before
      · obtain ⟨_, rfl⟩ := Prod.mk.inj (Option.some.inj about)
        rw [same]
        intro record member
        rcases List.mem_append.mp member with old | new
        · exact before record old
        · rw [List.mem_singleton.mp new]
          rfl
  | accept conn c socket n =>
      by_cases here : x = conn.val ∧ i = Short.ofInt n
      · rw [link?_apply valid] at found
        dsimp only [Operation.stores] at found
        rw [if_pos here] at found
        obtain rfl := Option.some.inj found
        have none := polling.handedOut x i t.os.next_socket (Nat.le_refl _)
        rcases link_records (.accept conn c socket n) t x i t.os.next_socket with
          same | ⟨f, about, _⟩
        · change ∀ record ∈ (apply t (.accept conn c socket n)).registrations
            (.connectionLink x i t.os.next_socket), _
          rw [same, none]
          exact fun _ member => by cases member
        · cases about
      · exact input_other polling rfl (fun _ _ _ _ about => by cases about) valid found here up acked
  | connect conn id =>
      by_cases here : x = conn.val ∧ i = id
      · rw [link?_apply valid] at found
        dsimp only [Operation.stores] at found
        rw [if_pos here] at found
        obtain rfl := Option.some.inj found
        have none := polling.handedOut x i t.os.next_socket (Nat.le_refl _)
        change ∀ record ∈ (apply t (.connect conn id)).registrations
          (.connectionLink x i t.os.next_socket), _
        rcases link_records (.connect conn id) t x i t.os.next_socket with same | ⟨f, about, same⟩
        · rw [same, none]
          exact fun _ member => by cases member
        · cases about
          rw [same, none]
          intro record member
          rw [List.mem_singleton.mp member]
          rfl
      · refine input_other polling rfl ?_ valid found here up acked
        intro x i s f about
        cases about
        exact ⟨rfl, rfl⟩

theorem sparesInput_of_leading (leads : op.leading = true → op.SparesInput t) :
    op.SparesInput t := by
  cases op with
  | push _ _ _ => exact leads rfl
  | emit _ | received _ _ _ | acknowledge _ _ _ | written _ _ _ _ | close _ _ | erase _ _
  | establish _ _ | refuse _ _ | accept _ _ _ _ | attempt _ _ | connect _ _ => trivial

theorem keeps_polling : Keeps Polling SparesInput where
  aside := by
    intro t t' aside polling
    have records : ∀ x i s, t'.registrations (.connectionLink x i s) =
        t.registrations (.connectionLink x i s) := fun x i s => aside.records _ nofun
    constructor
    · intro x i l found
      rw [aside.link?] at found
      rw [aside.os]
      exact polling.sockets x i l found
    · intro x i s above
      rw [aside.os] at above
      rw [records]
      exact polling.handedOut x i s above
    · intro x i s
      rw [records]
      exact polling.records x i s
    · intro x i l found
      rw [aside.link?] at found
      rw [records]
      exact polling.input x i l found
  linkless := by
    intro t none
    constructor
    · intro x i l found
      rw [none.link] at found
      cases found
    · exact fun x i s _ => none.records x i s
    · intro x i s
      rw [none.records]
      exact .nil s
    · intro x i l found
      rw [none.link] at found
      cases found
  condition := by
    intro t t' op aside spares
    cases op with
    | push conn l bytes =>
        rcases spares with waits | none
        · exact Or.inl waits
        · exact Or.inr ((aside.records
            (.connectionLink conn.val l.m_id l.m_socket) nofun).trans none)
    | emit _ | received _ _ _ | acknowledge _ _ _ | written _ _ _ _ | close _ _ | erase _ _
    | establish _ _ | refuse _ _ | accept _ _ _ _ | attempt _ _ | connect _ _ => trivial
  operation := fun _ valid leads polling =>
    { sockets := fun _ _ _ found => socket_stored valid polling.sockets found
      handedOut := records_handedOut valid polling.sockets polling.handedOut
      records := fun x i s => records_apply polling _ x i s
      input := input_apply valid (sparesInput_of_leading leads) polling }

end Operation

/--
In a run in which data arrives for links only that wait for an acknowledgement,
every registered link that is up and acknowledged is polled for input.
-/
theorem Endpoint.polls_input {e e' : Endpoint} {events : List Event} (started : e.Started)
    (run : Run (Endpoint.Guarded Operation.SparesInput) e events e') : e'.tunnel.PollsInput := by
  have initially := Operation.keeps_polling.linkless started.keyed.2
  obtain ⟨_, polling⟩ :=
    Endpoint.keeps_run Operation.keeps_polling started.waitsEmpty initially run
  exact polling.input

namespace Endpoint

theorem polls_input_conversed : conversed.tunnel.PollsInput ∧
    ∃ l, conversed.tunnel.link? 0 (Short.ofInt 501) = some l ∧
      ∃ record ∈ conversed.tunnel.registrations (.connectionLink 0 (Short.ofInt 501) l.m_socket),
        record.events.POLLIN = true := by
  have polls : conversed.tunnel.PollsInput := by
    refine polls_input waiting_started (run_plays conversation_plays ?_)
    intro e event op spares begins
    rcases begins_spares spares begins with ⟨conn, l, bytes, rfl, waits⟩ | ⟨conn, id, rfl, _⟩
    · exact Or.inl waits
    · trivial
  obtain ⟨stored, _, registered⟩ := conversed_links
  obtain ⟨l, found, same⟩ := Option.map_eq_some_iff.mp stored
  obtain ⟨socket, flags⟩ := Prod.mk.inj same
  obtain ⟨up, flags⟩ := Prod.mk.inj flags
  obtain ⟨record, one⟩ := List.length_eq_one_iff.mp registered
  rw [← socket] at one
  have member := List.mem_singleton_self record
  rw [← one] at member
  exact ⟨polls, l, found, record, member, polls 0 _ l found up (Prod.mk.inj flags).1 record member⟩

/-- Data for a link takes its socket out of the poll for input. -/
theorem not_polls_input :
    ¬ ∀ (e e' : Endpoint) (events : List Event), e.Started → Run Step e events e' →
      e'.tunnel.PollsInput := by
  intro always
  let data : Event := arrives (.link (Short.ofInt 0) (Short.ofInt 501) (.send [0]))
  obtain ⟨returns, fd, stored, output⟩ :
      (linked.dispatch data).isOk = true ∧
        STDIN_FD ∈ (linked.tunnel.registrations .stdioTunnel).map Pollfd.fd ∧
        ((linked.after data).tunnel.link? 0 (Short.ofInt 501)).map
          (fun l => (l.m_socket, l.m_closing, l.m_acknowledged)) = some (0, false, true) ∧
        ∃ record ∈ (linked.after data).tunnel.registrations
          (.connectionLink 0 (Short.ofInt 501) 0), record.events.POLLIN = false := by
    decide +kernel
  have polls := always _ _ _ waiting_started (.snoc linked_run (step_self rfl fd returns))
  obtain ⟨l, found, same⟩ := Option.map_eq_some_iff.mp stored
  obtain ⟨socket, flags⟩ := Prod.mk.inj same
  obtain ⟨up, acked⟩ := Prod.mk.inj flags
  have input := polls 0 (Short.ofInt 501) l found up acked
  rw [socket] at input
  obtain ⟨record, member, off⟩ := output
  rw [input record member] at off
  cases off

end Endpoint

end Tun01
