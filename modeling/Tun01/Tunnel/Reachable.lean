import Tun01.Tunnel.Turns

/-!
# Reachable states of an endpoint

A dispatch makes at most one operation that depends on more than the link it
has at hand, and makes it first.  An invariant of the links is kept along a run
when every operation keeps it, under a condition on these first operations.
-/

namespace Tun01

/-! ## First operations -/

namespace Operation

def leading : Operation → Bool
  | push _ _ _ | establish _ _ | refuse _ _ | accept _ _ _ _ | connect _ _ => true
  | emit _ | received _ _ _ | acknowledge _ _ _ | written _ _ _ _ | close _ _ | erase _ _
  | attempt _ _ => false

end Operation

namespace Endpoint

/-- The leading operation a dispatch begins with. -/
inductive Begins (e : Endpoint) (event : Event) : Operation → Prop where
  | accept {conn : Short} {c : TunnelConnection} {socket : Nat} {n : Int}
      (listener : event.polled = .listenSide conn.val socket)
      (known : e.tunnel.connection? conn.val = some c) (role : c.role = .listenSide socket n) :
      Begins e event (.accept conn c socket n)
  | push {conn command id : Short} {fields bytes : List Byte} {l : ConnectionLink}
      (message : e.message event = some (conn, command, id, fields))
      (data : command = LINK_SEND ∨ command = LINK_SEND_FOR_ACK)
      (stored : e.tunnel.link? conn.val id = some l) (up : l.m_closing = false) :
      Begins e event (.push conn l bytes)
  | establish {conn id : Short} {fields : List Byte} {l : ConnectionLink}
      (message : e.message event = some (conn, LINK_CREATE, id, fields))
      (stored : e.tunnel.link? conn.val id = some l) (listens : e.tunnel.listens conn.val = true)
      (success : (splitShort fields).map Prod.fst = some LINK_SUCCESS) :
      Begins e event (.establish conn l)
  | refuse {conn id : Short} {fields : List Byte} {l : ConnectionLink}
      (message : e.message event = some (conn, LINK_CREATE, id, fields))
      (stored : e.tunnel.link? conn.val id = some l) (listens : e.tunnel.listens conn.val = true)
      (failure : (splitShort fields).map Prod.fst ≠ some LINK_SUCCESS) :
      Begins e event (.refuse conn l)
  | connect {conn id : Short} {fields : List Byte}
      (message : e.message event = some (conn, LINK_CREATE, id, fields))
      (connects : ∃ c, e.tunnel.connection? conn.val = some c ∧ c.role = .connectSide)
      (connected : event.calls.connect = .connected) : Begins e event (.connect conn id)

end Endpoint

namespace StdioTunnel

variable {t t' : StdioTunnel} {conn id : Short} {c : TunnelConnection} {l : ConnectionLink}

/-- No operation of a list is a leading one. -/
def Follows (ops : List Operation) : Prop := ∀ op ∈ ops, op.leading = false

theorem Follows.append {first second : List Operation} (first' : Follows first)
    (second' : Follows second) : Follows (first ++ second) := by
  intro op member
  rcases List.mem_append.mp member with inFirst | inSecond
  · exact first' op inFirst
  · exact second' op inSecond

theorem Follows.nil : Follows [] := fun _ member => by cases member

theorem Follows.cons {op : Operation} {ops : List Operation} (here : op.leading = false)
    (rest : Follows ops) : Follows (op :: ops) := by
  intro o member
  rcases List.mem_cons.mp member with rfl | inRest
  · exact here
  · exact rest o inRest

theorem Follows.single {op : Operation} (here : op.leading = false) : Follows [op] :=
  .cons here .nil

theorem closingOps_follows (conn : Short) (l : ConnectionLink) : Follows (closingOps conn l) := by
  unfold closingOps
  split
  · exact .nil
  · exact .cons rfl (.single rfl)

theorem readingOps_follows (conn : Short) (c : TunnelConnection) (l : ConnectionLink)
    (bytes : List Byte) : Follows (readingOps conn c l bytes) := by
  unfold readingOps
  refine Follows.append (.cons rfl (.single rfl)) ?_
  split
  · exact .single rfl
  · exact .nil

/-- A link that is dispatched makes no leading operation. -/
theorem LinkScript.follows {ops : List Operation} (script : LinkScript conn c l ops) :
    Follows ops := by
  cases script with
  | closes => exact closingOps_follows conn l
  | goesOn first second third =>
      refine Follows.append ?_ (Follows.append ?_ ?_)
      · rcases first with rfl | ⟨bytes, rfl⟩
        · exact .nil
        · exact readingOps_follows conn c l bytes
      · rcases second with rfl | ⟨_, buffer, bytes, rfl⟩
        · exact .nil
        · exact .single rfl
      · rcases third with rfl | ⟨_, rfl⟩
        · exact .nil
        · exact closingOps_follows conn _

end StdioTunnel

open StdioTunnel (Aside Linkless Follows)

namespace Endpoint

variable {e e' : Endpoint} {event : Event} {t t' : StdioTunnel}

/-- What a dispatch does: at most one leading operation, and it comes first. -/
def Led (e : Endpoint) (event : Event) (t : StdioTunnel) (ops : List Operation) : Prop :=
  Follows ops ∨ ∃ op rest, ops = op :: rest ∧ Follows rest ∧ (op.Valid t → e.Begins event op)

theorem object_led {ops : List Operation} (run : Run Operation.Step e.tunnel ops t')
    (script : StdioTunnel.ObjectScript event.polled ops) : Led e event e.tunnel ops := by
  generalize object : event.polled = polled at script
  cases script with
  | listener conn c socket n =>
      exact Or.inr ⟨_, _, rfl, .single rfl, fun valid => .accept object valid.1 valid.2.2⟩
  | link conn c l script => exact Or.inl script.follows
  | tunnel => exact Or.inl .nil

theorem message_led {conn command id : Short} {fields : List Byte} {ops : List Operation}
    (handles : e.message event = some (conn, command, id, fields)) (before : Aside e.tunnel t)
    (script : StdioTunnel.Script conn id fields event.calls.connect command ops) :
    Led e event t ops := by
  have stored : ∀ {l : ConnectionLink}, l.m_id = id → t.Stores conn l →
      e.tunnel.link? conn.val id = some l := by
    intro l ids stores
    rw [← before.link?, ← ids]
    exact stores
  have listens : t.listens conn.val = e.tunnel.listens conn.val := by
    unfold StdioTunnel.listens StdioTunnel.kind? StdioTunnel.bare?
    rw [before.connection?]
  cases script with
  | nothing => exact Or.inl .nil
  | push l bytes ids =>
      exact Or.inr ⟨_, _, rfl, .nil, fun valid =>
        .push handles (Or.inl rfl) (stored ids valid.1) valid.2⟩
  | pushForAck l bytes ids =>
      exact Or.inr ⟨_, _, rfl, .single rfl, fun valid =>
        .push handles (Or.inr rfl) (stored ids valid.1) valid.2⟩
  | acknowledged l ids => exact Or.inl (.single rfl)
  | ignored l ids closing => exact Or.inl (.single rfl)
  | close l ids => exact Or.inl (.cons rfl (.cons rfl (.single rfl)))
  | closed l ids => exact Or.inl (.single rfl)
  | establish l ids success =>
      exact Or.inr ⟨_, _, rfl, .nil, fun valid =>
        .establish handles (stored ids valid.1) (listens.symm.trans valid.2) success⟩
  | refuse l ids failure =>
      exact Or.inr ⟨_, _, rfl, .nil, fun valid =>
        .refuse handles (stored ids valid.1) (listens.symm.trans valid.2) failure⟩
  | connect connected =>
      refine Or.inr ⟨_, _, rfl, .single rfl, fun valid => .connect handles ?_ connected⟩
      obtain ⟨c, known, role⟩ := valid
      exact ⟨c, (before.connection? _).symm.trans known, role⟩
  | fail attempt report =>
      refine Or.inl (Follows.append ?_ (Follows.append ?_ (.single rfl)))
      · rcases attempt with rfl | rfl
        · exact .nil
        · exact .single rfl
      · rcases report with rfl | ⟨message, rfl⟩
        · exact .nil
        · exact .single rfl

end Endpoint

/--
An invariant that every operation keeps, the leading ones under a condition.
The condition and the invariant are about links and records only.
-/
structure Keeps (P : StdioTunnel → Prop) (allowed : StdioTunnel → Operation → Prop) : Prop where
  aside : ∀ {t t'}, Aside t t' → P t → P t'
  linkless : ∀ {t}, Linkless t → P t
  condition : ∀ {t t' op}, Aside t t' → allowed t op → allowed t' op
  operation : ∀ {t op}, t.Keyed → op.Valid t → (op.leading = true → allowed t op) → P t →
    P (op.apply t)

namespace Keeps

variable {P : StdioTunnel → Prop} {allowed : StdioTunnel → Operation → Prop}
  {t t' : StdioTunnel} {e e' : Endpoint} {event : Event} {ops : List Operation}

theorem follows (keeps : Keeps P allowed) (run : Run Operation.Step t ops t')
    (follows : Follows ops) (keyed : t.Keyed) (holds : P t) : P t' := by
  induction ops generalizing t with
  | nil =>
      rw [run.of_nil]
      exact holds
  | cons op rest ih =>
      obtain ⟨t₁, ⟨valid, rfl⟩, later⟩ := run.uncons
      have unled : op.leading = false := follows op List.mem_cons_self
      have one := keeps.operation keyed valid (fun led => by rw [unled] at led; cases led) holds
      exact ih later (fun o member => follows o (List.mem_cons_of_mem _ member))
        (Operation.keyed valid keyed) one

theorem led (keeps : Keeps P allowed) (run : Run Operation.Step t ops t')
    (led : Endpoint.Led e event t ops) (keyed : t.Keyed)
    (condition : ∀ op, e.Begins event op → allowed t op) (holds : P t) : P t' := by
  rcases led with follows | ⟨op, rest, rfl, follows, begins⟩
  · exact keeps.follows run follows keyed holds
  · obtain ⟨t₁, ⟨valid, rfl⟩, later⟩ := run.uncons
    have one := keeps.operation keyed valid (fun _ => condition op (begins valid)) holds
    exact keeps.follows later follows (Operation.keyed valid keyed) one

end Keeps

/-! ## States of the remote endpoint -/

namespace StdioTunnelRemote

variable {r r' : StdioTunnelRemote} {poll_struct : Pollfd} {calls : Calls}

theorem processFrame_waiting (result : r.processFrame calls = .ok r')
    (waits : r'.m_state = .HANDSHAKING) : r.m_state = .HANDSHAKING := by
  unfold processFrame at result
  obtain ⟨⟨command, t₁⟩, _, result⟩ := of_bind_ok result
  dsimp only at result
  split at result
  · assumption
  · split at result
    · obtain rfl := Except.ok.inj result
      exact waits
    split at result
    · cases result
    · obtain ⟨⟨id, t₂⟩, _, result⟩ := of_bind_ok result
      obtain ⟨t₃, _, result⟩ := of_bind_ok result
      obtain rfl := Except.ok.inj result
      exact waits
  · obtain rfl := Except.ok.inj result
    exact waits

theorem polledStdin_waiting (result : r.polledStdin poll_struct calls = .ok r')
    (waits : r'.m_state = .HANDSHAKING) : r.m_state = .HANDSHAKING := by
  unfold polledStdin at result
  cases failed : poll_struct.revents.failure with
  | true =>
      rw [failed] at result
      cases result
  | false =>
      cases ready : poll_struct.revents.POLLIN with
      | false =>
          rw [failed, ready] at result
          cases result
      | true =>
          rw [failed, ready] at result
          obtain ⟨stream, _, result⟩ := of_bind_ok result
          dsimp only at result
          split at result
          · exact processFrame_waiting (r := r.withReader stream) result waits
          · obtain rfl := Except.ok.inj result
            exact waits

theorem polledStdout_waiting (result : r.polledStdout poll_struct calls = .ok r')
    (waits : r'.m_state = .HANDSHAKING) : r.m_state = .HANDSHAKING := by
  unfold polledStdout at result
  split at result
  · obtain rfl := Except.ok.inj result
    cases waits
  · obtain ⟨⟨stream, after, taken⟩, _, result⟩ := of_bind_ok result
    dsimp only at result
    split at result
    · obtain rfl := Except.ok.inj result
      exact waits
    · obtain rfl := Except.ok.inj result
      exact waits

/-- The endpoint never goes back to waiting for the handshake. -/
theorem polled_waiting (result : r.polled poll_struct calls = .ok r')
    (waits : r'.m_state = .HANDSHAKING) : r.m_state = .HANDSHAKING := by
  unfold polled at result
  obtain ⟨r₁, reads, result⟩ := of_bind_ok result
  have between : r₁.m_state = .HANDSHAKING := by
    unfold onFd at result
    split at result
    · exact polledStdout_waiting result waits
    · rw [Except.ok.inj result]
      exact waits
  unfold onFd at reads
  split at reads
  · exact polledStdin_waiting reads between
  · rw [Except.ok.inj reads]
    exact between

end StdioTunnelRemote

/-! ## Runs -/

namespace Endpoint

variable {e e' : Endpoint} {event : Event} {events : List Event} {P : StdioTunnel → Prop}
  {allowed : StdioTunnel → Operation → Prop}

/-- Identifiers are in order, and a remote endpoint that waits for the handshake is empty. -/
structure WaitsEmpty (e : Endpoint) : Prop where
  keyed : e.tunnel.Keyed
  waiting : ∀ r, e = .remoteEnd r → r.m_state = .HANDSHAKING →
    (∀ x, r.connection? x = none) ∧ r.Linkless

theorem dispatch_waiting {r' : StdioTunnelRemote} (result : e.dispatch event = .ok (.remoteEnd r'))
    (waits : r'.m_state = .HANDSHAKING) : ∃ r, e = .remoteEnd r ∧ r.m_state = .HANDSHAKING := by
  cases e with
  | localEnd l =>
      obtain ⟨l', _, no⟩ := of_map_ok result
      cases no
  | remoteEnd r =>
      refine ⟨r, rfl, ?_⟩
      obtain ⟨r₁, dispatched, same⟩ := of_map_ok result
      obtain rfl := Endpoint.remoteEnd.inj same
      unfold StdioTunnelRemote.dispatch at dispatched
      split at dispatched
      · exact StdioTunnelRemote.polled_waiting dispatched waits
      · obtain ⟨t, _, dispatched⟩ := of_bind_ok dispatched
        obtain rfl := Except.ok.inj dispatched
        exact waits

/-- Without connections no object but the endpoint does anything. -/
theorem object_nothing {t t' : StdioTunnel} {polled : Polled} {poll_struct : Pollfd} {calls : Calls}
    (empty : ∀ x, t.connection? x = none)
    (result : t.polledObject polled poll_struct calls = .ok t') :
    Aside t t' := by
  cases polled with
  | stdioTunnel =>
      obtain rfl := Except.ok.inj result
      exact .refl t
  | socks5Server =>
      obtain rfl := Except.ok.inj result
      exact .serve t _
  | listenSide x socket | connectionLink x id socket =>
      unfold StdioTunnel.polledObject at result
      dsimp only at result
      rw [empty] at result
      cases result

theorem WaitsEmpty.step (waitsEmpty : e.WaitsEmpty) (result : e.dispatch event = .ok e') : e'.WaitsEmpty where
  keyed := (dispatch_turn waitsEmpty.keyed result).keyed waitsEmpty.keyed
  waiting := by
    rintro r' rfl waits
    obtain ⟨r, rfl, before⟩ := dispatch_waiting result waits
    obtain ⟨empty, linkless⟩ := waitsEmpty.waiting r rfl before
    by_cases self : event.polled = .stdioTunnel
    · have turn := dispatch_turn waitsEmpty.keyed result
      cases turn with
      | aside same =>
          exact ⟨fun x => (same.connection? x).trans (empty x),
            (StdioTunnel.Starts.aside same).linkless linkless⟩
      | object run script =>
          rw [self] at script
          cases script
          have same : r'.toStdioTunnel = r.toStdioTunnel := run.of_nil
          rw [same]
          exact ⟨empty, linkless⟩
      | message handles before' run script after =>
          have frames : ∃ payload, (remoteEnd r).frame event = some payload := by
            unfold message at handles
            cases found : (remoteEnd r).frame event with
            | none =>
                rw [found] at handles
                cases handles
            | some payload => exact ⟨payload, rfl⟩
          obtain ⟨payload, found⟩ := frames
          unfold frame at found
          split at found
          · rename_i carries
            have connected : r.m_state = .CONNECTED := of_decide_eq_true carries.2.2
            rw [before] at connected
            cases connected
          · cases found
      | handshake isRemote waits' linkless' listens keyed joined server =>
          have connected := joined r' rfl
          rw [waits] at connected
          cases connected
    · rw [dispatch_object self] at result
      obtain ⟨t, dispatched, same⟩ := of_map_ok result
      obtain rfl := Endpoint.remoteEnd.inj same
      have aside := object_nothing empty dispatched
      exact ⟨fun x => (aside.connection? x).trans (empty x), linkless.aside aside⟩

/-- A dispatch whose leading operation meets a condition. -/
def Guarded (allowed : StdioTunnel → Operation → Prop) (e : Endpoint) (event : Event)
    (e' : Endpoint) : Prop :=
  e.Step event e' ∧ ∀ op, e.Begins event op → allowed e.tunnel op

theorem keeps_step (keeps : Keeps P allowed) (waitsEmpty : e.WaitsEmpty)
    (step : Guarded allowed e event e') (holds : P e.tunnel) : P e'.tunnel := by
  have turn := dispatch_turn waitsEmpty.keyed step.1.result
  cases turn with
  | aside same => exact keeps.aside same holds
  | object run script =>
      exact keeps.led run (object_led run script) waitsEmpty.keyed step.2 holds
  | message handles before run script after =>
      have handled := keeps.led run (message_led handles before script)
        (before.keyed waitsEmpty.keyed) (fun op begins => keeps.condition before (step.2 op begins))
        (keeps.aside before holds)
      exact keeps.aside after handled
  | handshake isRemote waits linkless listens keyed joined server =>
      obtain ⟨_, none⟩ := waitsEmpty.waiting _ isRemote waits
      rw [isRemote] at linkless
      exact keeps.linkless (linkless none)

/-- The rule for runs. -/
theorem keeps_run (keeps : Keeps P allowed) (waitsEmpty : e.WaitsEmpty) (holds : P e.tunnel)
    (run : Run (Guarded allowed) e events e') : e'.WaitsEmpty ∧ P e'.tunnel :=
  @Run.invariant _ _ _ _ _ _ (fun e => e.WaitsEmpty ∧ P e.tunnel) ⟨waitsEmpty, holds⟩ (fun before step =>
    ⟨before.1.step step.1.result, keeps_step keeps before.1 step before.2⟩) run

end Endpoint

/-! ## Runs of given events -/

/-- `Event.Within`, evaluated. -/
def Event.within (event : Event) (t : StdioTunnel) : Bool :=
  match event.polled with
  | .connectionLink conn id _ =>
      (match event.calls.read with
        | .ok bytes => decide (bytes.length ≤ LINK_BUFFER_SIZE)
        | .fail _ => true) &&
        match event.calls.write, t.link? conn id with
        | .ok count, some l => decide (count ≤ l.m_buffer.request)
        | _, _ => true
  | .stdioTunnel | .listenSide _ _ | .socks5Server => true

theorem Event.within_sound {event : Event} {t : StdioTunnel} (within : event.within t = true) :
    event.Within t := by
  unfold Event.within at within
  unfold Event.Within
  generalize event.polled = polled at within ⊢
  cases polled with
  | connectionLink conn id socket =>
      dsimp only at within ⊢
      rw [Bool.and_eq_true] at within
      obtain ⟨reads, writes⟩ := within
      constructor
      · intro bytes result
        rw [result] at reads
        exact of_decide_eq_true reads
      · intro l found count result
        rw [result, found] at writes
        exact of_decide_eq_true writes
  | stdioTunnel | listenSide conn socket | socks5Server => trivial

namespace Endpoint

variable {allowed : StdioTunnel → Operation → Prop} {e : Endpoint} {event : Event}

def hasRecord (e : Endpoint) (event : Event) : Bool :=
  (e.tunnel.registrations event.polled).any fun record => record.fd == event.poll_struct.fd

theorem hasRecord_sound (has : e.hasRecord event = true) :
    ∃ record ∈ e.tunnel.registrations event.polled, record.fd = event.poll_struct.fd := by
  obtain ⟨record, member, same⟩ := List.any_eq_true.mp has
  exact ⟨record, member, beq_iff_eq.mp same⟩

/-- The endpoint after a dispatch; where the dispatch throws, the endpoint before it. -/
def after (e : Endpoint) (event : Event) : Endpoint :=
  match e.dispatch event with
  | .ok e' => e'
  | .error _ => e

theorem dispatch_after (returns : (e.dispatch event).isOk = true) :
    e.dispatch event = .ok (e.after event) := by
  unfold after
  cases result : e.dispatch event with
  | ok e' => rfl
  | error fault =>
      rw [result] at returns
      cases returns

/-- A dispatch of the endpoint itself for a descriptor it has registered. -/
theorem step_self (self : event.polled = .stdioTunnel)
    (registered : event.poll_struct.fd ∈ (e.tunnel.registrations .stdioTunnel).map Pollfd.fd)
    (returns : (e.dispatch event).isOk = true) : e.Step event (e.after event) where
  registered := by
    obtain ⟨record, member, fd⟩ := List.mem_map.mp registered
    rw [self]
    exact ⟨record, member, fd⟩
  within := by
    unfold Event.Within
    rw [self]
    trivial
  result := dispatch_after returns

/-- The object is registered, its calls stay within their requests, and the dispatch returns. -/
def takes (e : Endpoint) (event : Event) : Bool :=
  e.hasRecord event && event.within e.tunnel && (e.dispatch event).isOk

theorem step_takes (takes : e.takes event = true) : e.Step event (e.after event) := by
  unfold Endpoint.takes at takes
  rw [Bool.and_eq_true, Bool.and_eq_true] at takes
  obtain ⟨⟨has, within⟩, returns⟩ := takes
  exact ⟨hasRecord_sound has, Event.within_sound within, dispatch_after returns⟩

/--
No client comes to a listener, no link is created that is stored, and data is for
links only that wait for an acknowledgement.
-/
def spares (e : Endpoint) (event : Event) : Bool :=
  (match event.polled with
    | .listenSide _ _ => false
    | .stdioTunnel | .connectionLink _ _ _ | .socks5Server => true) &&
  (e.message event).all fun (conn, command, id, _) =>
    (e.tunnel.link? conn.val id).all fun l =>
      command != LINK_CREATE &&
        (!l.m_acknowledged || (command != LINK_SEND && command != LINK_SEND_FOR_ACK))

def plays : Endpoint → List Event → Bool
  | _, [] => true
  | e, event :: events => e.takes event && e.spares event && (e.after event).plays events

theorem run_plays {events : List Event} (plays : e.plays events = true)
    (each : ∀ {e : Endpoint} {event op}, e.spares event = true → e.Begins event op → allowed e.tunnel op) :
    Run (Guarded allowed) e events (events.foldl after e) := by
  induction events generalizing e with
  | nil => exact .nil
  | cons event events ih =>
      unfold Endpoint.plays at plays
      rw [Bool.and_eq_true, Bool.and_eq_true] at plays
      obtain ⟨⟨takes, spares⟩, later⟩ := plays
      exact .cons ⟨step_takes takes, fun _ begins => each spares begins⟩ (ih later)

/-- Neither does such a dispatch begin with a client, nor with a reply for a link. -/
theorem begins_spares {op : Operation} (spares : e.spares event = true) (begins : e.Begins event op) :
    (∃ conn l bytes, op = .push conn l bytes ∧ l.m_acknowledged = false) ∨
      ∃ conn id, op = .connect conn id ∧ e.tunnel.link? conn.val id = none := by
  unfold Endpoint.spares at spares
  rw [Bool.and_eq_true] at spares
  obtain ⟨other, quiet⟩ := spares
  cases begins with
  | accept listener _ _ =>
      rw [listener] at other
      cases other
  | @push conn command id fields bytes l message data stored _ =>
      refine Or.inl ⟨conn, l, bytes, rfl, ?_⟩
      rw [message, Option.all_some] at quiet
      dsimp only at quiet
      rw [stored, Option.all_some, Bool.and_eq_true] at quiet
      cases acked : l.m_acknowledged with
      | false => rfl
      | true =>
          rw [acked] at quiet
          rcases data with rfl | rfl <;> cases quiet.2
  | establish message stored _ _ | refuse message stored _ _ =>
      rw [message, Option.all_some] at quiet
      dsimp only at quiet
      rw [stored] at quiet
      cases quiet
  | @connect conn id fields message _ _ =>
      refine Or.inr ⟨conn, id, rfl, ?_⟩
      rw [message, Option.all_some] at quiet
      dsimp only at quiet
      cases found : e.tunnel.link? conn.val id with
      | none => rfl
      | some l =>
          rw [found] at quiet
          cases quiet

end Endpoint

/-- A frame that arrives at a remote endpoint in one piece. -/
def arrives (m : Message) : Event where
  polled := .stdioTunnel
  poll_struct := ⟨STDIN_FD, POLLIN, POLLIN⟩
  calls :=
    { header := .ok (frameHeader m.payload.length)
      body := .ok m.payload }

end Tun01
