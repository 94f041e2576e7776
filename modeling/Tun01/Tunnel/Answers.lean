import Tun01.Protocol.Window
import Tun01.Tunnel.HangUp

/-!
# What endpoints answer

The flag of a link through the handlers of an endpoint: a dispatch of a link is
a step of its sending end, and a message is answered as the protocol of one
direction says.  No other link takes part.
-/

namespace Tun01

open LinkState (Up)
open Operation (apply)
open Window (Own Answer)

namespace StdioTunnel

variable {t t' : StdioTunnel} {conn id : Short} {x : Int} {i : Short} {b : Bool}
  {l : ConnectionLink}

/-- `m_acknowledged` of a link that is stored and not closing. -/
def acked? (t : StdioTunnel) (x : Int) (id : Short) : Option Bool :=
  (t.link? x id).bind fun l => if l.m_closing then none else some l.m_acknowledged

theorem acked?_of_link (found : t.link? x i = some l) :
    t.acked? x i = if l.m_closing then none else some l.m_acknowledged := by
  unfold acked?
  rw [found]
  rfl

theorem acked?_of_up (found : t.link? x i = some l) (up : l.m_closing = false) :
    t.acked? x i = some l.m_acknowledged := by
  rw [acked?_of_link found, up]
  rfl

theorem acked?_of_none (none : t.link? x i = none) : t.acked? x i = .none := by
  unfold acked?
  rw [none]
  rfl

theorem acked?_same (same : t'.link? x i = t.link? x i) : t'.acked? x i = t.acked? x i := by
  unfold acked?
  rw [same]

/-- A link has the flag while it is up. -/
theorem acked?_ne_none_iff : t.acked? x i ≠ none ↔ Up (t.phase x i) := by
  unfold acked? phase Up
  cases t.link? x i with
  | none => simp
  | some l =>
      rw [Option.bind_some]
      dsimp only
      split
      · simp
      · split <;> simp

end StdioTunnel

/-! ## Operations on one link -/

namespace Operation

variable {t t' : StdioTunnel} {op : Operation} {conn id : Short} {ops : List Operation}

/-- An operation on a link, or a message about no other link. -/
def About (conn id : Short) : Operation → Prop
  | emit m => ∀ c i, ¬(c = conn ∧ i = id) → m.about c i = none
  | received c l _ | acknowledge c l _ | push c l _ | written c l _ _ | close c l | erase c l
  | establish c l | refuse c l => c = conn ∧ l.m_id = id
  | accept c _ _ n => c = conn ∧ Short.ofInt n = id
  | attempt c i | connect c i => c = conn ∧ i = id

/-- The flag of the link after an operation on it. -/
def flag (acked : Option Bool) : Operation → Option Bool
  | acknowledge _ _ ack => acked.map fun _ => ack
  | close _ _ | erase _ _ | refuse _ _ => none
  | accept _ _ _ _ | connect _ _ => some true
  | emit _ | received _ _ _ | push _ _ _ | written _ _ _ _ | establish _ _ | attempt _ _ => acked

theorem acked?_apply (about : op.About conn id) (valid : op.Valid t) :
    (op.apply t).acked? conn.val id = op.flag (t.acked? conn.val id) := by
  have put : ∀ {l : ConnectionLink}, op.stores t = some (conn, id, some l) →
      (op.apply t).acked? conn.val id = if l.m_closing then none else some l.m_acknowledged := by
    intro l stores
    refine StdioTunnel.acked?_of_link ?_
    rw [link?_apply valid, stores]
    exact if_pos ⟨rfl, rfl⟩
  have erased : op.stores t = some (conn, id, none) → (op.apply t).acked? conn.val id = none := by
    intro stores
    refine StdioTunnel.acked?_of_none ?_
    rw [link?_apply valid, stores]
    exact if_pos ⟨rfl, rfl⟩
  cases op with
  | emit _ | received _ _ _ | establish _ _ | attempt _ _ =>
      exact StdioTunnel.acked?_same (link?_apply valid conn.val id)
  | acknowledge c l ack =>
      obtain ⟨rfl, rfl⟩ := about
      rw [put rfl]
      dsimp only [flag]
      rw [StdioTunnel.acked?_of_link valid]
      split <;> rfl
  | push c l bytes | written c l buffer bytes =>
      obtain ⟨rfl, rfl⟩ := about
      rw [put rfl]
      exact (StdioTunnel.acked?_of_link valid.1).symm
  | close c l =>
      obtain ⟨rfl, rfl⟩ := about
      rw [put rfl]
      rfl
  | erase c l | refuse c l =>
      obtain ⟨rfl, rfl⟩ := about
      exact erased rfl
  | accept c _ _ n | connect c i =>
      obtain ⟨rfl, rfl⟩ := about
      rw [put rfl]
      rfl

/-- Other links stay as they are. -/
theorem About.link? (about : op.About conn id) (valid : op.Valid t) {x : Int} {i : Short}
    (other : ¬(x = conn.val ∧ i = id)) : (op.apply t).link? x i = t.link? x i := by
  rw [link?_apply valid]
  cases op with
  | emit _ | received _ _ _ | establish _ _ | attempt _ _ => rfl
  | acknowledge _ _ _ | push _ _ _ | written _ _ _ _ | close _ _ | erase _ _ | refuse _ _
  | accept _ _ _ _ | connect _ _ =>
      obtain ⟨rfl, rfl⟩ := about
      exact if_neg other

/-- The message of an operation is about its link. -/
theorem About.messages (about : op.About conn id) {c i : Short} (other : ¬(c = conn ∧ i = id)) :
    op.messages.filterMap (Message.about c i) = [] := by
  cases op with
  | emit m => exact List.filterMap_cons_none (about c i other)
  | acknowledge _ _ _ | push _ _ _ | written _ _ _ _ | close _ _ | erase _ _ | refuse _ _
  | accept _ _ _ _ | connect _ _ | received _ _ _ | establish _ _ | attempt _ _ => rfl

theorem about_link (conn id : Short) (m : LinkMessage) :
    (Operation.emit (.link conn id m)).About conn id := by
  intro c i other
  exact if_neg fun same => other ⟨same.1.symm, same.2.symm⟩

end Operation

namespace StdioTunnel

variable {t t' t'' : StdioTunnel} {conn id : Short} {c : TunnelConnection} {l : ConnectionLink}
  {ops : List Operation} {m : LinkMessage}

/-- A handler of one link: what it queues about the link, and the flag it leaves. -/
structure Effect (t t' : StdioTunnel) (conn id : Short) (out : List LinkMessage)
    (acked : Option Bool) : Prop where
  own : t'.acked? conn.val id = acked
  queued : t.queuedFor t' conn id = out
  others : ∀ x i, ¬(x = conn.val ∧ i = id) → t'.link? x i = t.link? x i
  silent : ∀ c i, ¬(c = conn ∧ i = id) → t.queuedFor t' c i = []

theorem effect_run (conn id : Short) (run : Run Operation.Step t ops t')
    (about : ∀ op ∈ ops, op.About conn id) :
    Effect t t' conn id ((ops.flatMap Operation.messages).filterMap (Message.about conn id))
      (ops.foldl Operation.flag (t.acked? conn.val id)) := by
  have links : t'.acked? conn.val id = ops.foldl Operation.flag (t.acked? conn.val id) ∧
      ∀ x i, ¬(x = conn.val ∧ i = id) → t'.link? x i = t.link? x i := by
    induction run with
    | nil => exact ⟨rfl, fun _ _ _ => rfl⟩
    | @snoc ops _ _ op earlier last ih =>
        obtain ⟨valid, rfl⟩ := last
        obtain ⟨before, here⟩ := List.forall_mem_append.mp about
        obtain ⟨own, others⟩ := ih before
        have mine := List.forall_mem_singleton.mp here
        refine ⟨?_, fun x i other => (mine.link? valid other).trans (others x i other)⟩
        rw [Operation.acked?_apply mine valid, own, List.foldl_append]
        rfl
  refine ⟨links.1, queuedFor_run run conn id, links.2, fun c i other => ?_⟩
  rw [queuedFor_run run, List.filterMap_flatMap, List.flatMap_eq_nil_iff]
  exact fun op member => (about op member).messages other

/-! ## Dispatches of links -/

theorem closingOps_aboutLink (conn : Short) (l : ConnectionLink) :
    ∀ op ∈ closingOps conn l, op.About conn l.m_id := by
  unfold closingOps
  split
  · exact List.forall_mem_nil _
  · exact List.forall_mem_cons.mpr
      ⟨⟨rfl, rfl⟩, List.forall_mem_singleton.mpr (Operation.about_link conn l.m_id .close)⟩

theorem readingOps_aboutLink (conn : Short) (c : TunnelConnection) (l : ConnectionLink)
    (bytes : List Byte) : ∀ op ∈ readingOps conn c l bytes, op.About conn l.m_id := by
  unfold readingOps
  refine List.forall_mem_append.mpr ⟨List.forall_mem_cons.mpr
    ⟨⟨rfl, rfl⟩, List.forall_mem_singleton.mpr (Operation.about_link conn l.m_id _)⟩, ?_⟩
  split
  · exact List.forall_mem_singleton.mpr ⟨rfl, rfl⟩
  · exact List.forall_mem_nil _

/-- The dispatch of a link that is up is a step of its sending end. -/
theorem LinkSteps.effect {revents : PollEvents} {read : SysResult (List Byte)}
    {write : SysResult Nat} (steps : LinkSteps conn c l revents read write ops)
    (run : Run Operation.Step t ops t') (stores : t.Stores conn l) (up : l.m_closing = false)
    (free : revents.POLLIN = true → c.m_spec.ackPackets = true → l.m_acknowledged = true) :
    ∃ out acked, Effect t t' conn l.m_id out acked ∧
      Own (t.acked? conn.val l.m_id) out acked ∧
      ∀ m ∈ out, m.Full ∧ m ≠ .create ∧ m.Suits c.m_spec.ackPackets := by
  have before := acked?_of_up stores up
  cases steps with
  | closes ready none =>
      have effect := effect_run _ _ run (closingOps_aboutLink conn l)
      rw [closingOps_about, up] at effect
      unfold closingOps at effect
      rw [up] at effect
      refine ⟨_, _, effect, .closes (by simp), List.forall_mem_singleton.mpr
        ⟨trivial, ?_, trivial⟩⟩
      exact fun no => by cases no
  | @goesOn first second l' l'' reads writes =>
      have same : l'.m_id = l.m_id ∧ l'.m_closing = l.m_closing := by
        rcases reads with ⟨_, _, rfl⟩ | ⟨_, _, _, _, _, rfl⟩
        · exact ⟨rfl, rfl⟩
        · exact ⟨(readingLink_same c l).1, (readingLink_same c l).2.2.1⟩
      have same' : l''.m_id = l.m_id ∧ l''.m_closing = false := by
        rw [← up, ← same.1, ← same.2]
        rcases writes with ⟨_, _, rfl⟩ | ⟨_, _, _, _, _, rfl⟩ <;> exact ⟨rfl, rfl⟩
      -- the write queues nothing and leaves the flag
      have silent : (∀ op ∈ second, op.About conn l.m_id) ∧
          second.flatMap Operation.messages = [] ∧ ∀ a, second.foldl Operation.flag a = a := by
        rcases writes with ⟨_, rfl, _⟩ | ⟨_, _, _, _, rfl, _⟩
        · exact ⟨List.forall_mem_nil _, rfl, fun _ => rfl⟩
        · exact ⟨List.forall_mem_singleton.mpr ⟨rfl, same.1⟩, rfl, fun _ => rfl⟩
      -- the read is a step of its own
      obtain ⟨about, sends, full⟩ : (∀ op ∈ first, op.About conn l.m_id) ∧
          Own (t.acked? conn.val l.m_id)
            ((first.flatMap Operation.messages).filterMap (Message.about conn l.m_id))
            (first.foldl Operation.flag (t.acked? conn.val l.m_id)) ∧
          ∀ m ∈ (first.flatMap Operation.messages).filterMap (Message.about conn l.m_id),
            m.Full ∧ m ≠ .create ∧ m.Suits c.m_spec.ackPackets := by
        rcases reads with ⟨_, rfl, _⟩ | ⟨ready, bytes, _, nonempty, rfl, _⟩
        · exact ⟨List.forall_mem_nil _, .nothing, List.forall_mem_nil _⟩
        · refine ⟨readingOps_aboutLink conn c l bytes, ?_⟩
          rw [readingOps_about]
          unfold readingOps dataMessage
          cases acks : c.m_spec.ackPackets with
          | false =>
              exact ⟨.data bytes, List.forall_mem_singleton.mpr
                ⟨nonempty, (fun no => by cases no), rfl⟩⟩
          | true =>
              rw [before]
              refine ⟨.packet bytes (congrArg some (free ready acks)), ?_⟩
              exact List.forall_mem_singleton.mpr ⟨nonempty, (fun no => by cases no), rfl⟩
      have closing : ∀ op ∈ (if revents.failure then closingOps conn l'' else []),
          op.About conn l.m_id := by
        split
        · rw [← same'.1]
          exact closingOps_aboutLink conn l''
        · exact List.forall_mem_nil _
      have effect := effect_run _ _ run (List.forall_mem_append.mpr
        ⟨about, List.forall_mem_append.mpr ⟨silent.1, closing⟩⟩)
      rw [List.flatMap_append, List.flatMap_append, silent.2.1, List.nil_append,
        List.filterMap_append, List.foldl_append, List.foldl_append, silent.2.2] at effect
      refine ⟨_, _, effect, ?_⟩
      split
      · have closes := closingOps_about conn l''
        rw [same'.1, same'.2] at closes
        rw [closes]
        have quiet := sends.not_ack
        unfold closingOps
        rw [same'.2]
        refine ⟨.closes fun member => ?_, List.forall_mem_append.mpr
          ⟨full, List.forall_mem_singleton.mpr ⟨trivial, (fun no => by cases no), trivial⟩⟩⟩
        rcases List.mem_append.mp member with sent | last
        · exact quiet sent
        · cases List.mem_singleton.mp last
      · rw [List.flatMap_nil, List.filterMap_nil, List.append_nil]
        exact ⟨sends, full⟩

/-! ## Messages -/

/-- An answer of an endpoint. -/
def Answers (t t' : StdioTunnel) (conn id : Short) (m : LinkMessage) : Prop :=
  ∃ out acked, Effect t t' conn id out acked ∧ Answer (t.acked? conn.val id) m out acked

theorem effect_reading {queue : List Byte} {out : List LinkMessage} {acked : Option Bool}
    (effect : Effect (t.reading queue) t' conn id out acked) : Effect t t' conn id out acked :=
  ⟨effect.own, effect.queued, effect.others, effect.silent⟩

theorem answers_reading {queue : List Byte} (answers : Answers (t.reading queue) t' conn id m) :
    Answers t t' conn id m := by
  obtain ⟨out, acked, effect, answer⟩ := answers
  exact ⟨out, acked, effect_reading effect, answer⟩

/-- `processLinkMessage` answers. -/
theorem processLinkMessage_answers (keyed : t.Keyed) (isConn : c.m_id = conn.val)
    (stores : t.Stores conn l) (kind : m.traffic = true ∨ m = .close)
    (result : t.processLinkMessage c m.command l = .ok t') : Answers t t' conn l.m_id m := by
  have flag := acked?_of_link stores
  unfold processLinkMessage at result
  cases m with
  | create | created _ => rcases kind with no | no <;> cases no
  | send bytes =>
      rw [show (LinkMessage.send bytes).command = LINK_SEND from rfl, if_pos rfl] at result
      obtain ⟨⟨t₁, l₁⟩, received, result⟩ := of_bind_ok result
      obtain rfl := Except.ok.inj result
      obtain ⟨rest, bytes', _, ⟨_, _, rfl⟩ | ⟨_, _, pushed⟩⟩ :=
        receiveData_run isConn stores received
      · have effect := effect_run conn l.m_id
          (.nil : Run Operation.Step (t.reading rest) [] (t.reading rest)) (List.forall_mem_nil _)
        exact ⟨_, _, effect_reading effect, .data bytes⟩
      · have effect := effect_run conn l.m_id (Run.single pushed)
          (List.forall_mem_singleton.mpr ⟨rfl, rfl⟩)
        exact ⟨_, _, effect_reading effect, .data bytes⟩
  | sendForAck bytes =>
      rw [show (LinkMessage.sendForAck bytes).command = LINK_SEND_FOR_ACK from rfl,
        if_neg (by decide), if_neg (by decide), if_pos rfl] at result
      obtain ⟨⟨t₁, l₁⟩, received, result⟩ := of_bind_ok result
      obtain ⟨rest, bytes', _, ⟨closing, rfl, rfl⟩ | ⟨up, rfl, pushed⟩⟩ :=
        receiveData_run isConn stores received
      · dsimp only at result
        rw [closing] at result flag
        obtain rfl := Except.ok.inj result
        obtain ⟨after, _⟩ := setAcknowledged_apply (t := t.reading rest) isConn l₁ true
        have valid : (Operation.acknowledge conn l₁ true).Valid (t.reading rest) := stores
        have effect := effect_run conn l₁.m_id
          (Run.single ⟨valid, after⟩) (List.forall_mem_singleton.mpr ⟨rfl, rfl⟩)
        refine ⟨[], none, ?_, .ignored bytes flag⟩
        have none : (t.reading rest).acked? conn.val l₁.m_id = .none := flag
        rw [none] at effect
        exact effect_reading effect
      · dsimp only at result
        rw [up] at result flag
        have ready : t₁.Ready := by
          rw [pushed.2]
          exact (Operation.keyed pushed.1 (keyed.reading rest)).ready
        have sent := @send_bare _ _ l.m_id _ ready isConn .ack rfl
        have replied := Except.ok.inj (sent.symm.trans result)
        have reply : Operation.Step t₁ (.emit (.link conn l.m_id .ack)) t' :=
          ⟨trivial, replied.symm⟩
        have effect := effect_run conn l.m_id (.cons pushed (.single reply))
          (List.forall_mem_cons.mpr ⟨⟨rfl, rfl⟩,
            List.forall_mem_singleton.mpr (Operation.about_link conn l.m_id .ack)⟩)
        refine ⟨[.ack], _, ?_, .packet bytes ?_⟩
        · have about : [Message.link conn l.m_id .ack].filterMap (Message.about conn l.m_id) =
              [.ack] := List.filterMap_cons_some (if_pos ⟨rfl, rfl⟩)
          rw [show ([Operation.push conn l bytes', .emit (.link conn l.m_id .ack)].flatMap
            Operation.messages) = [.link conn l.m_id .ack] from rfl, about] at effect
          exact effect_reading effect
        · rw [flag]
          exact Option.some_ne_none _
  | ack =>
      rw [show LinkMessage.ack.command = LINK_ACK from rfl, if_neg (by decide),
        if_neg (by decide), if_neg (by decide), if_pos rfl] at result
      obtain rfl := Except.ok.inj result
      obtain ⟨after, _⟩ := setAcknowledged_apply (t := t) isConn l true
      have valid : (Operation.acknowledge conn l true).Valid t := stores
      exact ⟨_, _, effect_run _ _ (Run.single ⟨valid, after⟩)
        (List.forall_mem_singleton.mpr ⟨rfl, rfl⟩), .ack⟩
  | close =>
      rw [show LinkMessage.close.command = LINK_CLOSE from rfl, if_neg (by decide),
        if_pos rfl] at result
      obtain ⟨t₁, closing, result⟩ := of_bind_ok result
      obtain rfl := Except.ok.inj result
      have run := closeLink_run keyed isConn stores closing
      have effect := effect_run _ _ run (closingOps_aboutLink conn l)
      rw [closingOps_about] at effect
      have last : ∀ m ∈ (if l.m_closing then [] else [LinkMessage.close]), m = .close := by
        split <;> simp
      refine ⟨_, none, ⟨?_, ?_, ?_, ?_⟩, .close last⟩
      · rw [isConn]
        exact acked?_of_none link?_eraseLink_self
      · exact effect.queued
      · intro x i other
        rw [isConn, link?_eraseLink_of_ne other]
        exact effect.others x i other
      · exact effect.silent

/-- A message is about an end that can handle it: a connector is not told of a link. -/
def Fits (listens : Bool) (m : LinkMessage) : Prop :=
  (m.traffic = true ∨ m = .close) ∨ (listens = true ∧ ∃ success, m = .created success) ∨
    (listens = false ∧ m = .create)

theorem listenProcessMessage_answers (keyed : t.Keyed) (isConn : c.m_id = conn.val)
    (listens : t.listens conn.val = true) (fits : Fits true m)
    (result : (t.reading (linkFields id m)).listenProcessMessage c = .ok t') :
    Answers t t' conn id m := by
  unfold listenProcessMessage linkFields at result
  rw [readShort_reading, ok_bind] at result
  dsimp only at result
  rw [readShort_reading, ok_bind, isConn] at result
  dsimp only at result
  split at result
  · cases result
  rename_i l found
  have ids := keyed.ids conn.val id l found
  have stores : t.Stores conn l := by
    unfold Stores
    rw [ids]
    exact found
  rcases fits with kind | ⟨_, success, rfl⟩ | ⟨no, _⟩
  · rw [if_neg (LinkMessage.command_ne_create kind)] at result
    have answers := processLinkMessage_answers (keyed.reading m.fields) isConn stores kind result
    rw [ids] at answers
    exact answers_reading answers
  · rw [show (LinkMessage.created success).command = LINK_CREATE from rfl, if_pos rfl] at result
    change ((t.reading (WriteStream.shortBytes _)).readShort >>= _) = _ at result
    rw [readShort_reading_last, ok_bind] at result
    cases success with
    | true =>
        have valid : (Operation.establish conn l).Valid (t.reading []) := ⟨stores, listens⟩
        have after : t' = apply (t.reading []) (.establish conn l) := by
          refine (Except.ok.inj result).symm.trans ?_
          unfold linkPointer apply
          rw [isConn]
        exact ⟨_, _, effect_reading (effect_run _ _ (Run.single ⟨valid, after⟩)
          (List.forall_mem_singleton.mpr ⟨rfl, ids⟩)), .established⟩
    | false =>
        have valid : (Operation.refuse conn l).Valid (t.reading []) := ⟨stores, listens⟩
        have after : t' = apply (t.reading []) (.refuse conn l) := by
          refine (Except.ok.inj result).symm.trans ?_
          change _ = ((t.reading []).log (.closed l.m_socket)).eraseLink conn.val l.m_id
          rw [ids]
        exact ⟨_, _, effect_reading (effect_run _ _ (Run.single ⟨valid, after⟩)
          (List.forall_mem_singleton.mpr ⟨rfl, ids⟩)), .failed⟩
  · cases no

theorem connectProcessMessage_answers (keyed : t.Keyed) (known : t.connection? conn.val = some c)
    (role : c.role = .connectSide) (fits : Fits false m) {connect : ConnectResult}
    (result : (t.reading (linkFields id m)).connectProcessMessage c connect = .ok t') :
    Answers t t' conn id m := by
  have isConn := (keyed.keys _ c known).1
  unfold connectProcessMessage linkFields at result
  rw [readShort_reading, ok_bind] at result
  dsimp only at result
  rw [readShort_reading, ok_bind] at result
  dsimp only at result
  rcases fits with kind | ⟨no, _⟩ | ⟨_, rfl⟩
  · rw [if_neg (LinkMessage.command_ne_create kind), isConn] at result
    split at result
    · rename_i none
      obtain rfl := Except.ok.inj result
      have effect := effect_run conn id
        (.nil : Run Operation.Step (t.reading m.fields) [] _) (List.forall_mem_nil _)
      have down : t.acked? conn.val id = .none := acked?_of_none none
      cases m with
      | create | created _ => rcases kind with no | no <;> cases no
      | send bytes => exact ⟨_, _, effect_reading effect, .data bytes⟩
      | sendForAck bytes =>
          refine ⟨[], .none, ?_, .ignored bytes down⟩
          rw [← down]
          exact effect_reading effect
      | ack =>
          refine ⟨[], _, ?_, .ack⟩
          rw [down, Option.map_none, ← down]
          exact effect_reading effect
      | close =>
          refine ⟨[], .none, ?_, .close (List.forall_mem_nil _)⟩
          rw [← down]
          exact effect_reading effect
    · rename_i l found
      have ids := keyed.ids conn.val id l found
      have stores : t.Stores conn l := by
        unfold Stores
        rw [ids]
        exact found
      have answers := processLinkMessage_answers (keyed.reading m.fields) isConn stores kind result
      rw [ids] at answers
      exact answers_reading answers
  · cases no
  · rw [show LinkMessage.create.command = LINK_CREATE from rfl, if_pos rfl] at result
    obtain ⟨⟨t₁, success⟩, connects, result⟩ := of_bind_ok result
    dsimp only at result
    have keyed' := keyed.reading LinkMessage.create.fields
    have known' : (t.reading LinkMessage.create.fields).connection? conn.val = some c := known
    have replied : t₁.Ready →
        Operation.Step t₁ (.emit (.link conn id (.created success))) t' := by
      intro ready
      have sent := @send_message _ _ id _ ready isConn (.created success)
      exact ⟨trivial, Except.ok.inj (result.symm.trans sent)⟩
    have about := Operation.about_link conn id (.created success)
    have last : ([Operation.emit (.link conn id (.created success))].flatMap
        Operation.messages).filterMap (Message.about conn id) = [.created success] :=
      List.filterMap_cons_some (if_pos ⟨rfl, rfl⟩)
    rcases connectLink_run keyed' known' role connects with
      ⟨rfl, connected, step⟩ | ⟨rfl, attempt, report, attempt', report', run⟩
    · have ready : t₁.Ready := by
        rw [step.2]
        exact (Operation.keyed step.1 keyed').ready
      have effect := effect_run conn id (.cons step (.single (replied ready)))
        (List.forall_mem_cons.mpr ⟨⟨rfl, rfl⟩, List.forall_mem_singleton.mpr about⟩)
      rw [List.flatMap_cons, List.filterMap_append, last] at effect
      exact ⟨_, _, effect_reading effect, .connected⟩
    · have ready := (run_keyed run keyed').ready
      -- a report is about no link, and an attempt leaves no link
      have silent : (∀ op ∈ attempt ++ report, op.About conn id) ∧
          ((attempt ++ report).flatMap Operation.messages).filterMap (Message.about conn id) = [] ∧
            ∀ a, (attempt ++ report).foldl Operation.flag a = a := by
        rcases attempt' with rfl | rfl <;> rcases report' with rfl | ⟨message, rfl⟩ <;>
          refine ⟨?_, rfl, fun _ => rfl⟩ <;> intro op member <;> simp at member
        · rw [member]
          exact fun _ _ _ => rfl
        · rw [member]
          exact ⟨rfl, rfl⟩
        · rcases member with rfl | rfl
          · exact ⟨rfl, rfl⟩
          · exact fun _ _ _ => rfl
      have effect := effect_run _ _ (run.append (.single (replied ready)))
        (List.forall_mem_append.mpr ⟨silent.1, List.forall_mem_singleton.mpr about⟩)
      rw [List.flatMap_append, List.filterMap_append, silent.2.1, last, List.foldl_append,
        silent.2.2] at effect
      exact ⟨_, _, effect_reading effect, .refused⟩

/-- An endpoint answers the messages of the other one. -/
theorem dispatchMessage_answers (keyed : t.Keyed) (fits : Fits (t.listens conn.val) m)
    {connect : ConnectResult}
    (result : (t.reading (linkFields id m)).dispatchMessage conn.val connect = .ok t') :
    Answers t t' conn id m := by
  unfold dispatchMessage at result
  cases known : t.connection? conn.val with
  | none =>
      rw [show (t.reading (linkFields id m)).connection? conn.val = none from known] at result
      cases result
  | some c =>
      rw [show (t.reading (linkFields id m)).connection? conn.val = some c from known] at result
      have isConn := (keyed.keys _ c known).1
      dsimp only at result
      unfold processMessage at result
      have listens := listens_of_connection known
      cases role : c.role with
      | listenSide socket n =>
          rw [role] at result listens
          rw [listens] at fits
          exact listenProcessMessage_answers keyed isConn listens fits result
      | connectSide =>
          rw [role] at result listens
          rw [listens] at fits
          exact connectProcessMessage_answers keyed known role fits result

end StdioTunnel

end Tun01
