import Tun01.Tunnel.Console
import Tun01.Tunnel.HangUp
import Tun01.Tunnel.Identifiers
import Tun01.Tunnel.LinkEvents

/-!
# Faults of one socket

The dispatch of a link or a listener returns, and leaves the other links alone,
exactly when the object it is for is still there and its system calls do not
fail, a failed read of a link apart.
-/

namespace Tun01

open StdioTunnel (Aside LinkSteps closingOps readingOps readingLink readingLink_same)

/-- A buffer writes when it can fill its array and `write` succeeds. -/
theorem SockBuffer.Valid.writes_iff {b : SockBuffer} (valid : b.Valid) {write : SysResult Nat} :
    (∃ b' bytes, b.writeData write = (b', .ok bytes)) ↔
      b.Refillable ∧ ∃ count, write = .ok count := by
  rw [valid.refillable_iff]
  unfold SockBuffer.writeData
  dsimp only
  constructor
  · rintro ⟨b', bytes, result⟩
    split at result
    · cases result
    · rename_i inside
      cases write with
      | fail errno => cases result
      | ok count => exact ⟨inside, count, rfl⟩
  · rintro ⟨inside, count, rfl⟩
    rw [if_neg inside]
    exact ⟨_, _, rfl⟩

/-! ## Operations about one link -/

namespace Operation

variable {t t' : StdioTunnel} {op : Operation} {conn id : Short} {x : Int} {i : Short}

/-- An operation of the dispatch of a link. -/
def On (conn id : Short) : Operation → Prop
  | emit _ => True
  | received c l _ | acknowledge c l _ | written c l _ _ | close c l => c = conn ∧ l.m_id = id
  | push _ _ _ | erase _ _ | establish _ _ | refuse _ _ | accept _ _ _ _ | attempt _ _
  | connect _ _ => False

/-- Such an operation changes no other link. -/
theorem On.link? (on : op.On conn id) (valid : op.Valid t) (other : ¬(x = conn.val ∧ i = id)) :
    (op.apply t).link? x i = t.link? x i := by
  rw [link?_apply valid]
  cases op with
  | emit _ | received _ _ _ => rfl
  | acknowledge _ _ _ | written _ _ _ _ | close _ _ =>
      obtain ⟨rfl, rfl⟩ := on
      exact if_neg other
  | push _ _ _ | erase _ _ | establish _ _ | refuse _ _ | accept _ _ _ _ | attempt _ _
  | connect _ _ => exact on.elim

/-- Such an operation changes no record of another object, the endpoint apart. -/
theorem On.registrations (on : op.On conn id) {y : Polled} (self : y ≠ .stdioTunnel)
    (other : ∀ s, y ≠ .connectionLink conn.val id s) :
    (op.apply t).registrations y = t.registrations y := by
  rw [registrations_apply op self]
  cases op with
  | emit _ | received _ _ _ => rfl
  | acknowledge _ l _ | written _ l _ _ =>
      obtain ⟨rfl, rfl⟩ := on
      dsimp only [records]
      split
      · rfl
      · rename_i same
        split at same
        · cases same
        · obtain ⟨rfl, _⟩ := Prod.mk.inj (Option.some.inj same)
          exact if_neg fun no => other l.m_socket no.symm
  | close _ l =>
      obtain ⟨rfl, rfl⟩ := on
      exact if_neg fun no => other l.m_socket no.symm
  | push _ _ _ | erase _ _ | establish _ _ | refuse _ _ | accept _ _ _ _ | attempt _ _
  | connect _ _ => exact on.elim

/-- The link of such an operation stays stored; only `close` marks it. -/
theorem On.own (on : op.On conn id) (valid : op.Valid t) {l : ConnectionLink}
    (found : t.link? conn.val id = some l) :
    ∃ l', (op.apply t).link? conn.val id = some l' ∧ l'.m_socket = l.m_socket ∧
      (l'.m_closing = l.m_closing ∨ op = .close conn l) := by
  rw [link?_apply valid]
  cases op with
  | emit _ | received _ _ _ => exact ⟨l, found, rfl, Or.inl rfl⟩
  | acknowledge _ l₀ _ =>
      obtain ⟨rfl, rfl⟩ := on
      obtain rfl := Option.some.inj (found.symm.trans valid)
      exact ⟨_, if_pos ⟨rfl, rfl⟩, rfl, Or.inl rfl⟩
  | written _ l₀ _ _ =>
      obtain ⟨rfl, rfl⟩ := on
      obtain rfl := Option.some.inj (found.symm.trans valid.1)
      exact ⟨_, if_pos ⟨rfl, rfl⟩, rfl, Or.inl rfl⟩
  | close _ l₀ =>
      obtain ⟨rfl, rfl⟩ := on
      obtain rfl := Option.some.inj (found.symm.trans valid.1)
      exact ⟨_, if_pos ⟨rfl, rfl⟩, rfl, Or.inr rfl⟩
  | push _ _ _ | erase _ _ | establish _ _ | refuse _ _ | accept _ _ _ _ | attempt _ _
  | connect _ _ => exact on.elim

end Operation

namespace StdioTunnel

variable {t t' : StdioTunnel} {conn id : Short} {c : TunnelConnection} {l : ConnectionLink}
  {ops : List Operation}

/-- Operations about one link, one after the other. -/
theorem on_run (run : Run Operation.Step t ops t') (on : ∀ op ∈ ops, op.On conn id) :
    (∀ x i, ¬(x = conn.val ∧ i = id) → t'.link? x i = t.link? x i) ∧
      (∀ y, y ≠ .stdioTunnel → (∀ s, y ≠ .connectionLink conn.val id s) →
        t'.registrations y = t.registrations y) ∧
      ∀ l, t.link? conn.val id = some l → ∃ l', t'.link? conn.val id = some l' ∧
        l'.m_socket = l.m_socket ∧
        (l'.m_closing = l.m_closing ∨ ∃ l₀, .close conn l₀ ∈ ops) := by
  induction run with
  | nil => exact ⟨fun _ _ _ => rfl, fun _ _ _ => rfl, fun l found => ⟨l, found, rfl, Or.inl rfl⟩⟩
  | @snoc ops t₁ _ op earlier last ih =>
      obtain ⟨valid, rfl⟩ := last
      obtain ⟨before, here⟩ := List.forall_mem_append.mp on
      obtain ⟨links, records, own⟩ := ih before
      have isOn := List.forall_mem_singleton.mp here
      refine ⟨fun x i other => (isOn.link? valid other).trans (links x i other),
        fun y self other => (isOn.registrations self other).trans (records y self other),
        fun l found => ?_⟩
      obtain ⟨l₁, found₁, socket, closing⟩ := own l found
      obtain ⟨l₂, found₂, socket', closing'⟩ := isOn.own valid found₁
      refine ⟨l₂, found₂, socket'.trans socket, ?_⟩
      rcases closing' with same' | rfl
      · rcases closing with same | ⟨l₀, closes⟩
        · exact Or.inl (same'.trans same)
        · exact Or.inr ⟨l₀, List.mem_append_left _ closes⟩
      · exact Or.inr ⟨l₁, List.mem_append_right _ (List.mem_singleton.mpr rfl)⟩

theorem closingOps_on (conn : Short) (l : ConnectionLink) :
    ∀ op ∈ closingOps conn l, op.On conn l.m_id := by
  unfold closingOps
  split
  · exact List.forall_mem_nil _
  · exact List.forall_mem_cons.mpr ⟨⟨rfl, rfl⟩, List.forall_mem_singleton.mpr trivial⟩

theorem readingOps_on (conn : Short) (c : TunnelConnection) (l : ConnectionLink)
    (bytes : List Byte) : ∀ op ∈ readingOps conn c l bytes, op.On conn l.m_id := by
  unfold readingOps
  refine List.forall_mem_append.mpr ⟨List.forall_mem_cons.mpr
    ⟨⟨rfl, rfl⟩, List.forall_mem_singleton.mpr trivial⟩, ?_⟩
  split
  · exact List.forall_mem_singleton.mpr ⟨rfl, rfl⟩
  · exact List.forall_mem_nil _

/-- The dispatch of a link is about that link. -/
theorem LinkSteps.on {revents : PollEvents} {read : SysResult (List Byte)}
    {write : SysResult Nat} (steps : LinkSteps conn c l revents read write ops) :
    ∀ op ∈ ops, op.On conn l.m_id := by
  have script := steps.script
  cases script with
  | closes => exact closingOps_on conn l
  | @goesOn first second third l' l'' reads writes closes =>
      refine List.forall_mem_append.mpr ⟨?_, List.forall_mem_append.mpr ⟨?_, ?_⟩⟩
      · rcases reads with rfl | ⟨bytes, rfl⟩
        · exact List.forall_mem_nil _
        · exact readingOps_on conn c l bytes
      · rcases writes with rfl | ⟨same, buffer, bytes, rfl⟩
        · exact List.forall_mem_nil _
        · exact List.forall_mem_singleton.mpr ⟨rfl, same⟩
      · rcases closes with rfl | ⟨same, rfl⟩
        · exact List.forall_mem_nil _
        · rw [← same]
          exact closingOps_on conn l''

/-- A dispatch that closes a link sends `close` last. -/
theorem LinkSteps.closes_last {revents : PollEvents} {read : SysResult (List Byte)}
    {write : SysResult Nat} (steps : LinkSteps conn c l revents read write ops)
    (run : Run Operation.Step t ops t') {l₀ : ConnectionLink} (closes : .close conn l₀ ∈ ops) :
    (t.queuedFor t' conn l.m_id).getLast? = some .close := by
  have closing : ∀ {l' : ConnectionLink}, .close conn l₀ ∈ closingOps conn l' →
      ((closingOps conn l').flatMap Operation.messages).filterMap (Message.about conn l'.m_id) =
        [.close] := fun {l'} member => by
    rw [closingOps_about]
    split
    · rename_i isClosing
      unfold closingOps at member
      rw [if_pos isClosing] at member
      cases member
    · rfl
  rw [queuedFor_run run]
  have script := steps.script
  cases script with
  | closes =>
      rw [closing closes]
      rfl
  | @goesOn first second third l' l'' reads writes ends =>
      have last : .close conn l₀ ∈ third := by
        rcases List.mem_append.mp closes with inFirst | later
        · rcases reads with rfl | ⟨bytes, rfl⟩
          · cases inFirst
          · unfold readingOps at inFirst
            split at inFirst <;> simp at inFirst
        · rcases List.mem_append.mp later with inSecond | inThird
          · rcases writes with rfl | ⟨_, buffer, bytes, rfl⟩
            · cases inSecond
            · cases List.mem_singleton.mp inSecond
          · exact inThird
      rcases ends with rfl | ⟨same, rfl⟩
      · cases last
      · rw [List.flatMap_append, List.flatMap_append, List.filterMap_append, List.filterMap_append,
          ← same, closing last, ← List.append_assoc, List.getLast?_append]
        rfl

/-! ## When handlers return -/

theorem closeLink_returns (keyed : t.Keyed) (isConn : c.m_id = conn.val) (stores : t.Stores conn l) :
    ∃ t', t.closeLink c l = .ok t' := by
  unfold closeLink
  split
  · exact ⟨_, rfl⟩
  · rename_i open'
    have closing : l.m_closing = false := eq_false_of_ne_true open'
    have closed : t.setClosing c l = (Operation.close conn l).apply t := by
      unfold setClosing linkPointer Operation.apply
      rw [isConn]
    have valid : (Operation.close conn l).Valid t := ⟨stores, closing⟩
    rw [closed]
    exact ⟨_, send_bare (Operation.keyed valid keyed).ready isConn .close rfl⟩

theorem linkRead_returns (keyed : t.Keyed) (isConn : c.m_id = conn.val) (stores : t.Stores conn l)
    (read : SysResult (List Byte)) : ∃ result, t.linkRead c l read = .ok result := by
  have closes : ∃ result, (do let t' ← t.closeLink c l; return (t', l, true) : Except Fault _) =
      .ok result := by
    obtain ⟨t', closing⟩ := closeLink_returns keyed isConn stores
    rw [closing]
    exact ⟨_, rfl⟩
  match read with
  | .fail errno => exact closes
  | .ok [] => exact closes
  | .ok (b :: bytes) =>
      have received : (Operation.received conn l (b :: bytes)).Valid t := stores
      have sent := sendData_eq (l := l) (Operation.keyed received keyed).ready isConn rfl (b :: bytes)
      unfold linkRead
      dsimp only
      rw [show t.log (.received l.m_socket (b :: bytes)) =
        (Operation.received conn l (b :: bytes)).apply t from rfl, sent, ok_bind]
      split <;> exact ⟨_, rfl⟩

/-- A read returns, and goes on with the link unless there was nothing to read. -/
theorem linkPollIn_returns (keyed : t.Keyed) (isConn : c.m_id = conn.val) (stores : t.Stores conn l)
    (revents : PollEvents) (read : SysResult (List Byte)) :
    ∃ t₁ l₁ closed, t.linkPollIn c l revents read = .ok (t₁, l₁, closed) ∧
      (closed = false → t₁.Keyed ∧ t₁.Stores conn l₁ ∧ l₁.m_buffer = l.m_buffer ∧
        (revents.POLLIN = true → ∃ bytes, read = .ok bytes ∧ bytes ≠ [])) := by
  unfold linkPollIn
  split
  · rename_i ready
    obtain ⟨⟨t₁, l₁, closed⟩, result⟩ := linkRead_returns keyed isConn stores read
    refine ⟨t₁, l₁, closed, result, fun isOpen => ?_⟩
    by_cases none : ∀ bytes, read = .ok bytes → bytes = []
    · obtain ⟨isClosed, _⟩ := linkRead_closes keyed isConn stores none result
      rw [isOpen] at isClosed
      cases isClosed
    · simp only [not_forall, exists_prop] at none
      obtain ⟨bytes, rfl, nonempty⟩ := none
      obtain ⟨_, stored, rfl, run⟩ := linkRead_sends keyed isConn stores nonempty result
      exact ⟨run_keyed run keyed, stored, (readingLink_same c l).2.2.2, fun _ => ⟨bytes, rfl, nonempty⟩⟩
  · rename_i idle
    exact ⟨t, l, false, rfl, fun _ => ⟨keyed, stores, rfl, fun ready => absurd ready idle⟩⟩

theorem linkWrite_returns {write : SysResult Nat} {buffer : SockBuffer} {bytes : List Byte}
    (outcome : l.m_buffer.writeData write = (buffer, .ok bytes)) :
    ∃ result, t.linkWrite c l write = .ok result := by
  unfold linkWrite
  rw [outcome]
  simp only [ok_bind]
  split <;> exact ⟨_, rfl⟩

/-- The dispatch writes to the socket: a read before it has not closed the link. -/
def Writes (revents : PollEvents) (read : SysResult (List Byte)) : Prop :=
  revents.POLLOUT = true ∧ (revents.POLLIN = true → ∃ bytes, read = .ok bytes ∧ bytes ≠ [])

/-- The dispatch of a link returns exactly when its write, if it makes one, does. -/
theorem linkPolled_returns_iff (keyed : t.Keyed) (isConn : c.m_id = conn.val)
    (stores : t.Stores conn l) (revents : PollEvents) (read : SysResult (List Byte))
    (write : SysResult Nat) :
    (∃ t', t.linkPolled c l revents read write = .ok t') ↔
      (Writes revents read → ∃ buffer bytes, l.m_buffer.writeData write = (buffer, .ok bytes)) := by
  constructor
  · rintro ⟨t', result⟩ ⟨writable, reads⟩
    obtain ⟨ops, _, steps⟩ := linkPolled_steps keyed isConn stores result
    cases steps with
    | closes ready none =>
        obtain ⟨bytes, same, nonempty⟩ := reads ready
        exact absurd (none bytes same) nonempty
    | @goesOn first second l' l'' input output =>
        have same : l'.m_buffer = l.m_buffer := by
          rcases input with ⟨_, _, rfl⟩ | ⟨_, _, _, _, _, rfl⟩
          · rfl
          · exact (readingLink_same c l).2.2.2
        rcases output with ⟨idle, _⟩ | ⟨_, buffer, bytes, outcome, _⟩
        · rw [writable] at idle
          cases idle
        · rw [← same]
          exact ⟨buffer, bytes, outcome⟩
  · intro writes
    obtain ⟨t₁, l₁, closed, input, goesOn⟩ := linkPollIn_returns keyed isConn stores revents read
    unfold linkPolled
    rw [input, ok_bind]
    dsimp only
    cases closed with
    | true => exact ⟨t₁, rfl⟩
    | false =>
        obtain ⟨keyed₁, stored₁, same, reads⟩ := goesOn rfl
        have output : ∃ t₂ l₂, t₁.linkPollOut c l₁ revents write = .ok (t₂, l₂) ∧ t₂.Keyed ∧
            t₂.Stores conn l₂ := by
          unfold linkPollOut
          split
          · rename_i writable
            obtain ⟨buffer, bytes, outcome⟩ := writes ⟨writable, reads⟩
            rw [← same] at outcome
            obtain ⟨⟨t₂, l₂⟩, result⟩ := linkWrite_returns (t := t₁) (c := c) outcome
            obtain ⟨_, _, _, stored₂, _, run⟩ := linkWrite_run isConn stored₁ result
            exact ⟨t₂, l₂, result, run_keyed run keyed₁, stored₂⟩
          · exact ⟨t₁, l₁, rfl, keyed₁, stored₁⟩
        obtain ⟨t₂, l₂, result, keyed₂, stored₂⟩ := output
        simp only [Bool.false_eq_true, ↓reduceIte]
        rw [result, ok_bind]
        dsimp only
        split
        · exact closeLink_returns keyed₂ isConn stored₂
        · exact ⟨t₂, rfl⟩

/-! ## Buffers -/

/-- The buffers of all links are in order. -/
def Buffered (t : StdioTunnel) : Prop := ∀ x i l, t.link? x i = some l → l.m_buffer.Valid

theorem Buffered.aside (buffered : t.Buffered) (aside : Aside t t') : t'.Buffered := by
  intro x i l found
  rw [aside.link?] at found
  exact buffered x i l found

theorem Buffered.run (buffered : t.Buffered) (run : Run Operation.Step t ops t')
    (measured : ∀ op ∈ ops, op.Measured) : t'.Buffered := by
  induction run with
  | nil => exact buffered
  | snoc earlier last ih =>
      obtain ⟨valid, rfl⟩ := last
      obtain ⟨before, here⟩ := List.forall_mem_append.mp measured
      intro x i l found
      exact Operation.buffer_stored valid (List.forall_mem_singleton.mp here) (ih before) found

theorem closingOps_measured (conn : Short) (l : ConnectionLink) :
    ∀ op ∈ closingOps conn l, op.Measured := by
  unfold closingOps
  split
  · exact List.forall_mem_nil _
  · exact List.forall_mem_cons.mpr ⟨trivial, List.forall_mem_singleton.mpr trivial⟩

theorem LinkSteps.measured {revents : PollEvents} {read : SysResult (List Byte)}
    {write : SysResult Nat} (steps : LinkSteps conn c l revents read write ops)
    (within : write.WritesWithin l.m_buffer.request) : ∀ op ∈ ops, op.Measured := by
  cases steps with
  | closes => exact closingOps_measured conn l
  | @goesOn first second l' l'' reads writes =>
      have same : l'.m_buffer = l.m_buffer := by
        rcases reads with ⟨_, _, rfl⟩ | ⟨_, _, _, _, _, rfl⟩
        · rfl
        · exact (readingLink_same c l).2.2.2
      refine List.forall_mem_append.mpr ⟨?_, List.forall_mem_append.mpr ⟨?_, ?_⟩⟩
      · rcases reads with ⟨_, rfl, _⟩ | ⟨_, bytes, _, _, rfl, _⟩
        · exact List.forall_mem_nil _
        · unfold readingOps
          refine List.forall_mem_append.mpr ⟨List.forall_mem_cons.mpr
            ⟨trivial, List.forall_mem_singleton.mpr trivial⟩, ?_⟩
          split
          · exact List.forall_mem_singleton.mpr trivial
          · exact List.forall_mem_nil _
      · rcases writes with ⟨_, rfl, _⟩ | ⟨_, buffer, bytes, outcome, rfl, _⟩
        · exact List.forall_mem_nil _
        · rw [← same] at within
          exact List.forall_mem_singleton.mpr ⟨write, within, outcome⟩
      · split
        · exact closingOps_measured conn l''
        · exact List.forall_mem_nil _

/-- A message writes nothing to a socket. -/
theorem Script.measured {fields : List Byte} {connect : ConnectResult} {command : Short}
    (script : Script conn id fields connect command ops) : ∀ op ∈ ops, op.Measured := by
  cases script with
  | nothing => exact List.forall_mem_nil _
  | push | acknowledged | ignored | closed | establish | refuse =>
      exact List.forall_mem_singleton.mpr trivial
  | pushForAck | connect =>
      exact List.forall_mem_cons.mpr ⟨trivial, List.forall_mem_singleton.mpr trivial⟩
  | close => exact List.forall_mem_cons.mpr ⟨trivial, List.forall_mem_cons.mpr
      ⟨trivial, List.forall_mem_singleton.mpr trivial⟩⟩
  | fail attempt report =>
      refine List.forall_mem_append.mpr ⟨?_, List.forall_mem_append.mpr
        ⟨?_, List.forall_mem_singleton.mpr trivial⟩⟩
      · rcases attempt with rfl | rfl
        · exact List.forall_mem_nil _
        · exact List.forall_mem_singleton.mpr trivial
      · rcases report with rfl | ⟨message, rfl⟩
        · exact List.forall_mem_nil _
        · exact List.forall_mem_singleton.mpr trivial

end StdioTunnel

/-! ## Dispatches -/

namespace Endpoint

variable {e e' e'' : Endpoint} {event : Event} {events : List Event}

theorem Step.buffered (step : e.Step event e') (waitsEmpty : e.WaitsEmpty)
    (buffered : e.tunnel.Buffered) : e'.tunnel.Buffered := by
  have turn := dispatch_turn waitsEmpty.keyed step.result
  cases turn with
  | aside same => exact buffered.aside same
  | object run script =>
      by_cases isLink : ∃ x i s, event.polled = .connectionLink x i s
      · obtain ⟨x, i, s, polled⟩ := isLink
        obtain ⟨conn, c, l, ops, rfl, _, stores, rfl, rfl, run, steps⟩ :=
          dispatch_link waitsEmpty.keyed polled step.result
        have within := step.within
        unfold Event.Within at within
        rw [polled] at within
        exact buffered.run run (steps.measured (within.2 l stores))
      · refine buffered.run run ?_
        generalize event.polled = polled at script isLink
        cases script with
        | listener conn c socket n =>
            exact List.forall_mem_cons.mpr ⟨trivial, List.forall_mem_singleton.mpr trivial⟩
        | link conn c l script => exact absurd ⟨_, _, _, rfl⟩ isLink
        | tunnel => exact List.forall_mem_nil _
  | message handles before run script after =>
      exact ((buffered.aside before).run run script.measured).aside after
  | @handshake r isRemote waits linkless listens keyed joined server =>
      obtain ⟨_, none⟩ := waitsEmpty.waiting r isRemote waits
      obtain rfl := isRemote
      intro x i l found
      rw [(linkless none).link] at found
      cases found

theorem Started.buffered (started : e.Started) (run : Run Step e events e') :
    e'.tunnel.Buffered :=
  (@Run.invariant _ _ _ _ _ _ (fun e => e.WaitsEmpty ∧ e.tunnel.Buffered)
    ⟨started.waitsEmpty, fun x i l found => by
      rw [started.keyed.2.link] at found
      cases found⟩
    (fun before step => ⟨before.1.step step.result, step.buffered before.1 before.2⟩) run).2

/--
What the dispatch of a listener or a link does to the links: a client replaces
none, and a link changes no other one and says so when it closes.
-/
def Contains (e : Endpoint) (event : Event) (e' : Endpoint) : Prop :=
  (∀ y s, e'.tunnel.registrations (.listenSide y s) = e.tunnel.registrations (.listenSide y s)) ∧
  match event.polled with
  | .listenSide x _ =>
      e.AcceptsApart x e' ∧ ∀ y i s, e'.tunnel.registrations (.connectionLink y i s) =
        e.tunnel.registrations (.connectionLink y i s)
  | .connectionLink x i socket =>
      (∀ y j, ¬(y = x ∧ j = i) → e'.tunnel.link? y j = e.tunnel.link? y j ∧
        ∀ s, e'.tunnel.registrations (.connectionLink y j s) =
          e.tunnel.registrations (.connectionLink y j s)) ∧
      ∃ conn l l', conn.val = x ∧ e.tunnel.link? x i = some l ∧ l.m_socket = socket ∧
        e'.tunnel.link? x i = some l' ∧ l'.m_socket = socket ∧
        (l'.m_closing = l.m_closing ∨
          (e.tunnel.queuedFor e'.tunnel conn i).getLast? = some .close)
  | .stdioTunnel | .socks5Server => True

/--
The object that is dispatched is there and its system calls succeed; a read of
a link may fail, and a write is only made when no read has closed the link.
-/
def Absorbs (e : Endpoint) (event : Event) : Prop :=
  match event.polled with
  | .listenSide x socket =>
      (∃ spec i n, e.tunnel.bare? x = some (spec, i, .listenSide socket n)) ∧
        event.calls.accept = .ok () ∧ event.calls.fcntl = .ok () ∧ e.tunnel.Spaced x
  | .connectionLink x i socket =>
      ∃ l, e.tunnel.link? x i = some l ∧ l.m_socket = socket ∧
        (StdioTunnel.Writes event.poll_struct.revents event.calls.read →
          l.m_buffer.Refillable ∧ ∃ count, event.calls.write = .ok count)
  | .stdioTunnel | .socks5Server => True

/-- Of a listener. -/
theorem listener_contained_iff (waitsEmpty : e.WaitsEmpty) (accounted : e.tunnel.Accounted) {x : Int}
    {socket : Nat} (listener : event.polled = .listenSide x socket) :
    (∃ e', e.dispatch event = .ok e' ∧ e.Contains event e') ↔ e.Absorbs event := by
  unfold Contains Absorbs
  rw [listener]
  dsimp only
  constructor
  · rintro ⟨e', result, _, apart, _⟩
    obtain ⟨alive, accepted, configured⟩ := (listener_returns_iff waitsEmpty listener).mp ⟨e', result⟩
    exact ⟨alive, accepted, configured, (accepts_apart waitsEmpty accounted listener result).mp apart⟩
  · rintro ⟨alive, accepted, configured, spaced⟩
    obtain ⟨e', result⟩ :=
      (listener_returns_iff waitsEmpty listener).mpr ⟨alive, accepted, configured⟩
    obtain ⟨_, _, _, _, _, records, _⟩ := accepts waitsEmpty listener result
    exact ⟨e', result, fun y s => records (.listenSide y s) nofun,
      (accepts_apart waitsEmpty accounted listener result).mpr spaced,
      fun y i s => records (.connectionLink y i s) nofun⟩

/-- The dispatch of a link that is there. -/
theorem dispatch_link_eq {x : Int} {i : Short} {c : TunnelConnection} {l : ConnectionLink}
    (polled : event.polled = .connectionLink x i l.m_socket)
    (known : e.tunnel.connection? x = some c) (found : e.tunnel.link? x i = some l) :
    e.dispatch event = (e.tunnel.linkPolled c l event.poll_struct.revents event.calls.read
      event.calls.write).map e.withTunnel := by
  have object : event.polled ≠ .stdioTunnel := by
    rw [polled]
    exact nofun
  rw [dispatch_object object, polled]
  unfold StdioTunnel.polledObject
  simp only [known, found, ↓reduceIte]

/-- The dispatch of a link returns when the link is there and its write succeeds. -/
theorem link_returns_iff (waitsEmpty : e.WaitsEmpty) (buffered : e.tunnel.Buffered) {x : Int}
    {i : Short} {socket : Nat} (polled : event.polled = .connectionLink x i socket) :
    (∃ e', e.dispatch event = .ok e') ↔ e.Absorbs event := by
  have keyed := waitsEmpty.keyed
  unfold Absorbs
  rw [polled]
  dsimp only
  constructor
  · rintro ⟨e', result⟩
    obtain ⟨conn, c, l, ops, rfl, known, stores, rfl, rfl, _⟩ :=
      dispatch_link waitsEmpty.keyed polled result
    refine ⟨l, stores, rfl, fun writes => ?_⟩
    rw [dispatch_link_eq polled known stores] at result
    obtain ⟨t', dispatched, _⟩ := of_map_ok result
    have outcome := (StdioTunnel.linkPolled_returns_iff keyed (keyed.keys _ c known).1 stores _ _ _).mp
      ⟨t', dispatched⟩ writes
    exact (buffered _ _ l stores).writes_iff.mp outcome
  · rintro ⟨l, found, rfl, writes⟩
    cases known : e.tunnel.connection? x with
    | none =>
        unfold StdioTunnel.link? at found
        rw [known] at found
        cases found
    | some c =>
        obtain ⟨isConn, conn, rfl⟩ := keyed.keys x c known
        have stores : e.tunnel.Stores conn l := by
          unfold StdioTunnel.Stores
          rw [keyed.ids _ _ l found]
          exact found
        obtain ⟨t', dispatched⟩ :=
          (StdioTunnel.linkPolled_returns_iff keyed isConn stores event.poll_struct.revents
            event.calls.read event.calls.write).mpr
          fun written => (buffered _ _ l found).writes_iff.mpr (writes written)
        rw [dispatch_link_eq polled known found, dispatched]
        exact ⟨_, rfl⟩

/-- Of a link. -/
theorem link_contained_iff (waitsEmpty : e.WaitsEmpty) (buffered : e.tunnel.Buffered) {x : Int}
    {i : Short} {socket : Nat} (polled : event.polled = .connectionLink x i socket) :
    (∃ e', e.dispatch event = .ok e' ∧ e.Contains event e') ↔ e.Absorbs event := by
  have returns := link_returns_iff waitsEmpty buffered polled
  refine ⟨fun ⟨e', result, _⟩ => returns.mp ⟨e', result⟩, fun absorbs => ?_⟩
  obtain ⟨e', result⟩ := returns.mpr absorbs
  obtain ⟨conn, c, l, ops, rfl, _, stores, rfl, rfl, run, steps⟩ :=
    dispatch_link waitsEmpty.keyed polled result
  obtain ⟨links, records, own⟩ := StdioTunnel.on_run run steps.on
  refine ⟨e', result, fun y s => records _ nofun fun _ => nofun, ?_⟩
  rw [polled]
  refine ⟨fun y j other => ⟨links y j other, fun s => records _ nofun fun s' no => ?_⟩, ?_⟩
  · obtain ⟨rfl, rfl, _⟩ := Polled.connectionLink.inj no
    exact other ⟨rfl, rfl⟩
  · obtain ⟨l', found, socket, closing⟩ := own l stores
    refine ⟨conn, l, l', rfl, stores, rfl, found, socket, ?_⟩
    rcases closing with same | ⟨l₀, closes⟩
    · exact Or.inl same
    · exact Or.inr (steps.closes_last run closes)

end Endpoint

/--
In every state a run reaches, the dispatch of a listener or a link returns and
leaves the rest alone exactly when its object is there, its `accept` and its
`write` do not fail, and its identifier and its buffer have room.
-/
theorem Endpoint.fault_contained_iff {e e' : Endpoint} {events : List Event} {event : Event}
    (started : e.Started) (run : Run Step e events e')
    (object : event.polled ≠ .stdioTunnel ∧ event.polled ≠ .socks5Server) :
    (∃ e'', e'.dispatch event = .ok e'' ∧ e'.Contains event e'') ↔ e'.Absorbs event := by
  obtain ⟨waitsEmpty, accounted⟩ := started.accounted run
  cases polled : event.polled with
  | stdioTunnel => exact absurd polled object.1
  | socks5Server => exact absurd polled object.2
  | listenSide x socket => exact listener_contained_iff waitsEmpty accounted polled
  | connectionLink x i socket => exact link_contained_iff waitsEmpty (started.buffered run) polled

namespace Endpoint

def fed : Endpoint :=
  linked.after (arrives (.link (Short.ofInt 0) (Short.ofInt 501) (.send [120])))

def resets : Event :=
  ⟨.connectionLink 0 (Short.ofInt 501) 0, ⟨0, POLLIN, POLLIN⟩, { read := .fail .ECONNRESET }⟩

def breaks : Event :=
  ⟨.connectionLink 0 (Short.ofInt 501) 0, ⟨0, POLLOUT, POLLOUT⟩, { write := .fail .EPIPE }⟩

theorem fault_contained_reset :
    ∃ e', linked.dispatch resets = .ok e' ∧ linked.Contains resets e' := by
  refine (fault_contained_iff waiting_started linked_run (by decide)).mpr ?_
  obtain ⟨l, found, socket⟩ : ∃ l, linked.tunnel.link? 0 (Short.ofInt 501) = some l ∧
      l.m_socket = 0 := by
    have stored : (linked.tunnel.link? 0 (Short.ofInt 501)).map ConnectionLink.m_socket = some 0 := by
      decide +kernel
    exact Option.map_eq_some_iff.mp stored
  exact ⟨l, found, socket, fun writes => by cases writes.1⟩

/-- The exception of one write leaves the loop. -/
theorem not_fault_contained :
    ¬ ∀ (e e' : Endpoint) (events : List Event) (event : Event), e.Started →
      Run Step e events e' → event.polled ≠ .stdioTunnel ∧ event.polled ≠ .socks5Server →
      (∃ record ∈ e'.tunnel.registrations event.polled, record.fd = event.poll_struct.fd ∧
        record.events = event.poll_struct.events) →
      ∃ e'', e'.dispatch event = .ok e'' ∧ e'.Contains event e'' := by
  intro always
  obtain ⟨returns, fd, registered, faults⟩ :
      (linked.dispatch (arrives (.link (Short.ofInt 0) (Short.ofInt 501) (.send [120])))).isOk =
          true ∧
        STDIN_FD ∈ (linked.tunnel.registrations .stdioTunnel).map Pollfd.fd ∧
        ((fed.tunnel.registrations breaks.polled).any fun record =>
          record.fd == 0 && record.events == POLLOUT) = true ∧
        (fed.dispatch breaks).isOk = false := by decide +kernel
  obtain ⟨record, member, same⟩ := List.any_eq_true.mp registered
  rw [Bool.and_eq_true, beq_iff_eq, beq_iff_eq] at same
  obtain ⟨e'', result, _⟩ := always _ fed _ breaks waiting_started
    (.snoc linked_run (step_self rfl fd returns)) ⟨nofun, nofun⟩ ⟨record, member, same⟩
  rw [result] at faults
  cases faults

end Endpoint

end Tun01
