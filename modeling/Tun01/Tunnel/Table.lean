import Tun01.Tunnel.Fields
import Tun01.Tunnel.LiveLinks

/-!
# The connection table

After the handshake no dispatch adds a connection or takes one away.  A message
for an identifier the table does not have goes through a null pointer.
-/

namespace Tun01

/-! ## Null pointers -/

/-- The call `m_connection_map[id]->processMessage` makes for an identifier without an entry. -/
def nullCall : Fault := .undefinedBehaviour "call through a null TunnelConnectionPtr"

/-- The computation makes no call through a null pointer. -/
def NoNullCall {α : Type} (x : Except Fault α) : Prop := x ≠ .error nullCall

section

variable {α β : Type}

theorem Defined.noNullCall {x : Except Fault α} (defined : Defined x) : NoNullCall x :=
  defined _

theorem NoNullCall.bind {x : Except Fault α} {f : α → Except Fault β} (first : NoNullCall x)
    (then' : ∀ a, x = .ok a → NoNullCall (f a)) : NoNullCall (x >>= f) := by
  cases x with
  | error fault =>
      intro no
      exact first (congrArg _ (Except.error.inj no))
  | ok a => exact then' a rfl

theorem NoNullCall.map {x : Except Fault α} {f : α → β} (first : NoNullCall x) :
    NoNullCall (x.map f) := by
  cases x with
  | error fault =>
      intro no
      exact first (congrArg _ (Except.error.inj no))
  | ok a => exact nofun

theorem NoNullCall.of_map {x : Except Fault α} {f : α → β} (whole : NoNullCall (x.map f)) :
    NoNullCall x := by
  rintro rfl
  exact whole rfl

end

namespace StdioTunnel

variable {t t' : StdioTunnel} {c : TunnelConnection} {l : ConnectionLink}

theorem popFront_noNullCall (stream : ReadStream) : NoNullCall stream.popFront := by
  unfold ReadStream.popFront
  split
  · exact fun no => absurd (Except.error.inj no) (by decide)
  · exact nofun

theorem readShort_noNullCall (t : StdioTunnel) : NoNullCall t.readShort := by
  refine NoNullCall.bind ?_ fun _ _ => nofun
  refine (popFront_noNullCall _).bind fun _ _ => ?_
  exact (popFront_noNullCall _).bind fun _ _ => nofun

theorem readBytes_noNullCall (t : StdioTunnel) (length : Int) : NoNullCall (t.readBytes length) := by
  refine NoNullCall.bind ?_ fun _ _ => nofun
  unfold ReadStream.readBytes ReadStream.takeRange
  split
  · exact nofun
  · exact fun no => absurd (Except.error.inj no) (by decide)

theorem receiveData_noNullCall (t : StdioTunnel) (c : TunnelConnection) (l : ConnectionLink) :
    NoNullCall (t.receiveData c l) := by
  unfold receiveData
  refine (readShort_noNullCall t).bind fun ⟨length, t₁⟩ _ => ?_
  dsimp only
  split
  · exact (defined_exception "Bad receive length").noNullCall
  · refine (readBytes_noNullCall t₁ length.val).bind fun _ _ => ?_
    split <;> exact nofun

theorem processLinkMessage_noNullCall (t : StdioTunnel) (c : TunnelConnection) (command : Short)
    (l : ConnectionLink) : NoNullCall (t.processLinkMessage c command l) := by
  unfold processLinkMessage
  split
  · exact (receiveData_noNullCall t c l).bind fun _ _ => nofun
  split
  · exact (closeLink_defined t c l).noNullCall.bind fun _ _ => nofun
  split
  · refine (receiveData_noNullCall t c l).bind fun p _ => ?_
    dsimp only
    split
    · exact nofun
    · exact (send_defined _).noNullCall
  split <;> exact nofun

theorem listenProcessMessage_noNullCall (t : StdioTunnel) (c : TunnelConnection) :
    NoNullCall (t.listenProcessMessage c) := by
  unfold listenProcessMessage
  refine (readShort_noNullCall t).bind fun ⟨cmd, t₁⟩ _ => ?_
  refine (readShort_noNullCall t₁).bind fun ⟨link_id, t₂⟩ _ => ?_
  dsimp only
  split
  · exact (defined_exception _).noNullCall
  · split
    · refine (readShort_noNullCall _).bind fun _ _ => ?_
      split <;> exact nofun
    · exact processLinkMessage_noNullCall _ _ _ _

theorem connectProcessMessage_noNullCall (t : StdioTunnel) (c : TunnelConnection)
    (connect : ConnectResult) : NoNullCall (t.connectProcessMessage c connect) := by
  unfold connectProcessMessage
  refine (readShort_noNullCall t).bind fun ⟨command, t₁⟩ _ => ?_
  refine (readShort_noNullCall t₁).bind fun ⟨link_id, t₂⟩ _ => ?_
  dsimp only
  split
  · refine (connectLink_defined _ _ _ _).noNullCall.bind fun _ _ => ?_
    exact (send_defined _).noNullCall
  · split
    · exact nofun
    · exact processLinkMessage_noNullCall _ _ _ _

theorem processMessage_noNullCall (t : StdioTunnel) (c : TunnelConnection)
    (connect : ConnectResult) : NoNullCall (t.processMessage c connect) := by
  unfold processMessage
  split
  · exact listenProcessMessage_noNullCall t c
  · exact connectProcessMessage_noNullCall t c connect

/-- The call goes through a null pointer exactly for an identifier without an entry. -/
theorem dispatchMessage_noNullCall (t : StdioTunnel) (id : Int) (connect : ConnectResult) :
    NoNullCall (t.dispatchMessage id connect) ↔ (t.connection? id).isSome = true := by
  unfold dispatchMessage
  cases t.connection? id with
  | none => exact iff_of_false (fun no => no rfl) Bool.false_ne_true
  | some c => exact iff_of_true (processMessage_noNullCall t c connect) rfl

/-- The identifiers in the table. -/
def SameTable (t t' : StdioTunnel) : Prop :=
  ∀ x, (t'.connection? x).isSome = (t.connection? x).isSome

theorem SameTable.refl (t : StdioTunnel) : SameTable t t := fun _ => rfl

theorem SameTable.trans {t'' : StdioTunnel} (first : SameTable t t') (second : SameTable t' t'') :
    SameTable t t'' := fun x => (second x).trans (first x)

theorem Aside.sameTable (aside : Aside t t') : SameTable t t' := by
  intro x
  rw [aside.connection?]

theorem SameTable.ofRun {ops : List Operation} (run : Run Operation.Step t ops t') :
    SameTable t t' := by
  induction run with
  | nil => exact .refl t
  | snoc _ last ih =>
      refine ih.trans fun x => ?_
      obtain ⟨valid, rfl⟩ := last
      have same := (Operation.kept valid).ids x
      rw [← Option.isSome_map (f := TunnelConnection.m_id), same, Option.isSome_map]

end StdioTunnel

open StdioTunnel (SameTable)

namespace Endpoint

variable {e e' e'' : Endpoint} {event : Event} {events more : List Event}

/-- The endpoint does not wait for the handshake. -/
def Past (e : Endpoint) : Prop := ∀ r, e = .remoteEnd r → r.m_state ≠ .HANDSHAKING

theorem Past.step (past : e.Past) (step : e.Step event e') : e'.Past := by
  rintro r' rfl waits
  obtain ⟨r, rfl, before⟩ := dispatch_waiting step.result waits
  exact past r rfl before

/-- Past the handshake a dispatch leaves the table as it is. -/
theorem sameTable_step (waitsEmpty : e.WaitsEmpty) (past : e.Past) (step : e.Step event e') :
    SameTable e.tunnel e'.tunnel := by
  have turn := dispatch_turn waitsEmpty.keyed step.result
  cases turn with
  | aside same => exact same.sameTable
  | object run script => exact SameTable.ofRun run
  | message handles before run script after =>
      exact (before.sameTable.trans (SameTable.ofRun run)).trans
        after.sameTable
  | handshake isRemote waits linkless listens keyed joined server => exact absurd waits (past _ isRemote)

theorem sameTable_run (waitsEmpty : e.WaitsEmpty) (past : e.Past) (run : Run Step e events e') :
    SameTable e.tunnel e'.tunnel := by
  have kept := @Run.invariant _ _ _ _ _ _
    (fun e' => e'.WaitsEmpty ∧ e'.Past ∧ SameTable e.tunnel e'.tunnel)
    ⟨waitsEmpty, past, .refl _⟩ (fun before step =>
      ⟨before.1.step step.result, before.2.1.step step,
        before.2.2.trans (sameTable_step before.1 before.2.1 step)⟩) run
  exact kept.2.2

/-! ## Messages -/

/-- A frame for a connection goes to the entry of its identifier. -/
theorem processFrame_message {t : StdioTunnel} {conn : Short} {rest : List Byte} {calls : Calls}
    (carries : e.carriesLinks = true)
    (queue : t.m_read_stream.m_queue =
      WriteStream.shortBytes CMD_CONNECTION ++ (WriteStream.shortBytes conn ++ rest)) :
    (e.withTunnel t).processFrame calls =
      ((t.reading rest).dispatchMessage conn.val calls.connect).map e.withTunnel := by
  have command : t.readShort =
      .ok (CMD_CONNECTION, t.reading (WriteStream.shortBytes conn ++ rest)) :=
    StdioTunnel.readShort_found (by rw [queue]; simp)
  have connection := StdioTunnel.readShort_reading t conn rest
  cases e with
  | localEnd l =>
      change (StdioTunnelLocal.processFrame _ calls).map localEnd = _
      unfold StdioTunnelLocal.processFrame
      dsimp only
      rw [command, ok_bind]
      dsimp only
      rw [if_neg (by decide), if_neg (by decide), if_pos rfl, connection, ok_bind]
      dsimp only
      cases (t.reading rest).dispatchMessage conn.val calls.connect <;> rfl
  | remoteEnd r =>
      obtain ⟨_, m_state, _⟩ := r
      have state : m_state = .CONNECTED := of_decide_eq_true carries
      subst state
      change (StdioTunnelRemote.processFrame _ calls).map remoteEnd = _
      unfold StdioTunnelRemote.processFrame
      dsimp only
      rw [command, ok_bind]
      dsimp only
      rw [if_neg (by decide), if_neg (fun no => no rfl), connection, ok_bind]
      dsimp only
      cases (t.reading rest).dispatchMessage conn.val calls.connect <;> rfl

/--
Handling a message for a connection leaves the table as it is and goes through
no null pointer, and a message for an identifier without an entry is refused.
-/
structure KeepsTable (e : Endpoint) (conn : Short) (calls : Calls) : Prop where
  kept : ∀ e', e.processFrame calls = .ok e' → SameTable e.tunnel e'.tunnel
  call : NoNullCall (e.processFrame calls)
  refused : e.tunnel.connection? conn.val = none →
    ∃ message, e.processFrame calls = .error (.exception message)

theorem KeepsTable.known {stream : ReadStream} {conn : Short} {rest : List Byte} {calls : Calls}
    (keeps : (e.withTunnel (e.tunnel.withReader stream)).KeepsTable conn calls)
    (carries : e.carriesLinks = true)
    (queue : stream.m_queue =
      WriteStream.shortBytes CMD_CONNECTION ++ (WriteStream.shortBytes conn ++ rest)) :
    (e.tunnel.connection? conn.val).isSome = true := by
  have call := keeps.call
  rw [processFrame_message (t := e.tunnel.withReader stream) carries queue] at call
  exact (StdioTunnel.dispatchMessage_noNullCall ((e.tunnel.withReader stream).reading rest)
    conn.val calls.connect).mp call.of_map

/--
From any state past the handshake the table stays as it is; a message is
handled as it should be exactly if its connection is in the table.
-/
theorem table_fixed_iff (started : e.Started) (run : Run Step e events e')
    (carries : e'.carriesLinks = true) :
    (∀ more e'', Run Step e' more e'' → SameTable e'.tunnel e''.tunnel) ∧
    ∀ calls stream conn rest, stream.m_queue =
        WriteStream.shortBytes CMD_CONNECTION ++ (WriteStream.shortBytes conn ++ rest) →
      ((e'.withTunnel (e'.tunnel.withReader stream)).KeepsTable conn calls ↔
        (e'.tunnel.connection? conn.val).isSome = true) := by
  have waitsEmpty := @Run.invariant _ _ _ _ _ _ WaitsEmpty started.waitsEmpty
    (fun before step => before.step step.result) run
  have past : e'.Past := by
    rintro r rfl waits
    have connected : r.m_state = .CONNECTED := of_decide_eq_true carries
    rw [waits] at connected
    cases connected
  refine ⟨fun more e'' later => sameTable_run waitsEmpty past later,
    fun calls stream conn rest queue => ?_⟩
  have frame := @processFrame_message _ (e'.tunnel.withReader stream) _ _ calls carries queue
  constructor
  · exact fun keeps => keeps.known carries queue
  · intro known
    constructor
    · intro e'' result
      rw [frame] at result
      obtain ⟨t, dispatched, rfl⟩ := of_map_ok result
      have keyed : ((e'.tunnel.withReader stream).reading rest).Keyed :=
        (StdioTunnel.Aside.withReader e'.tunnel (stream.withQueue rest)).keyed waitsEmpty.keyed
      obtain ⟨_, _, _, _, last, ops, _, _, handled, _⟩ :=
        StdioTunnel.dispatchMessage_run keyed dispatched
      rw [tunnel_withTunnel, tunnel_withTunnel]
      have same := @SameTable.ofRun
        (((e'.tunnel.withReader stream).reading rest).reading last) _ _ handled
      exact same
    · rw [frame]
      exact ((StdioTunnel.dispatchMessage_noNullCall
        ((e'.tunnel.withReader stream).reading rest) conn.val calls.connect).mpr known).map
    · intro unknown
      rw [tunnel_withTunnel] at unknown
      rw [show e'.tunnel.connection? conn.val = none from unknown] at known
      cases known

def messageFor (conn : Short) : ReadStream :=
  ReadStream.fresh.withQueue
    (WriteStream.shortBytes CMD_CONNECTION ++ (WriteStream.shortBytes conn ++
      (WriteStream.shortBytes LINK_CLOSE ++ WriteStream.shortBytes (Short.ofInt 501))))

theorem joined_table :
    joined.carriesLinks = true ∧
      (joined.tunnel.connection? (Short.ofInt 0).val).isSome = true ∧
      (joined.tunnel.connection? (Short.ofInt 7).val).isSome = false := by
  decide +kernel

theorem table_fixed_joined :
    (joined.withTunnel (joined.tunnel.withReader (messageFor (Short.ofInt 0)))).KeepsTable
      (Short.ofInt 0) {} :=
  ((table_fixed_iff waiting_started (.single joined_step) joined_table.1).2 _ _ _ _ rfl).mpr
    joined_table.2.1

/-- The identifier of a message is the other endpoint's choice. -/
theorem not_table_fixed :
    ¬ ∀ (e e' : Endpoint) (events : List Event) (calls : Calls) (stream : ReadStream)
      (conn : Short) (rest : List Byte), e.Started → Run Step e events e' →
      e'.carriesLinks = true →
      stream.m_queue =
        WriteStream.shortBytes CMD_CONNECTION ++ (WriteStream.shortBytes conn ++ rest) →
      (e'.withTunnel (e'.tunnel.withReader stream)).KeepsTable conn calls := by
  intro always
  have keeps := always _ joined _ {} (messageFor (Short.ofInt 7)) (Short.ofInt 7) _ waiting_started
    (.single joined_step) joined_table.1 rfl
  have known := keeps.known joined_table.1 rfl
  rw [joined_table.2.2] at known
  cases known

end Endpoint

end Tun01
