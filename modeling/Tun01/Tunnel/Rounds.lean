import Tun01.Tunnel.LinkEvents

/-!
# Stale events

A round dispatches what `poll` reported at its beginning, also after other
handlers have run.  A link that was reported readable may still send when its
turn comes: only its own dispatch takes its acknowledgement back.
-/

namespace Tun01

open StdioTunnel (Aside LinkScript ObjectScript Script closingOps readingOps)

/-! ## Links that are not dispatched -/

namespace Operation

/-- No operation but those of the dispatched link takes an acknowledgement back. -/
def Gentle (polled : Polled) : Operation → Prop
  | acknowledge conn l ack =>
      ack = true ∨ polled = .connectionLink conn.val l.m_id l.m_socket
  | emit _ | received _ _ _ | push _ _ _ | written _ _ _ _ | close _ _ | erase _ _
  | establish _ _ | refuse _ _ | accept _ _ _ _ | attempt _ _ | connect _ _ => True

end Operation

namespace StdioTunnel

variable {t t' t'' : StdioTunnel} {polled : Polled} {conn id : Short} {c : TunnelConnection}
  {l : ConnectionLink} {ops : List Operation}

/-- A link on a known socket was there before, and its acknowledgement is not taken back. -/
structure Lasting (t t' : StdioTunnel) (polled : Polled) : Prop where
  next : t.os.next_socket ≤ t'.os.next_socket
  links : ∀ x i l', t'.link? x i = some l' → l'.m_closing = false →
    l'.m_socket < t.os.next_socket → polled ≠ .connectionLink x i l'.m_socket →
      ∃ l, t.link? x i = some l ∧ l.m_closing = false ∧ l.m_socket = l'.m_socket ∧
        (l.m_acknowledged = true → l'.m_acknowledged = true)

theorem Lasting.ofLinks (links : ∀ x i, t'.link? x i = t.link? x i)
    (next : t.os.next_socket ≤ t'.os.next_socket) : Lasting t t' polled where
  next := next
  links := by
    intro x i l' found up _ _
    rw [links] at found
    exact ⟨l', found, up, rfl, id⟩

theorem Lasting.aside (aside : Aside t t') : Lasting t t' polled :=
  .ofLinks aside.link? (Nat.le_of_eq (by rw [aside.os]))

theorem Lasting.trans (first : Lasting t t' polled) (second : Lasting t' t'' polled) :
    Lasting t t'' polled where
  next := Nat.le_trans first.next second.next
  links := by
    intro x i l'' found up old other
    obtain ⟨l', found', up', socket', acked'⟩ :=
      second.links x i l'' found up (Nat.lt_of_lt_of_le old first.next) other
    rw [← socket'] at old other
    obtain ⟨l, found, up, socket, acked⟩ := first.links x i l' found' up' old other
    exact ⟨l, found, up, socket.trans socket', fun had => acked' (acked had)⟩

theorem Lasting.operation {op : Operation} (valid : op.Valid t) (gentle : op.Gentle polled) :
    Lasting t (op.apply t) polled where
  next := Operation.next_socket_apply op t
  links := by
    intro x i l' found up old other
    rw [Operation.link?_apply valid] at found
    cases stores : op.stores t with
    | none =>
        rw [stores] at found
        exact ⟨l', found, up, rfl, fun acked => acked⟩
    | some entry =>
        obtain ⟨conn, id, stored⟩ := entry
        rw [stores] at found
        dsimp only at found
        split at found
        · rename_i here
          obtain ⟨rfl, rfl⟩ := here
          subst found
          cases op with
          | emit _ | received _ _ _ | establish _ _ | attempt _ _ | erase _ _ | refuse _ _ =>
              cases stores
          | acknowledge c l ack =>
              cases stores
              refine ⟨l, valid, up, rfl, fun _ => ?_⟩
              exact gentle.resolve_right other
          | push c l bytes =>
              cases stores
              exact ⟨l, valid.1, up, rfl, fun acked => acked⟩
          | written c l buffer bytes =>
              cases stores
              exact ⟨l, valid.1, up, rfl, fun acked => acked⟩
          | close c l =>
              cases stores
              cases up
          | accept _ _ _ _ | connect _ _ =>
              cases stores
              exact absurd old (Nat.lt_irrefl _)
        · exact ⟨l', found, up, rfl, fun acked => acked⟩

theorem Lasting.run (run : Run Operation.Step t ops t') (gentle : ∀ op ∈ ops, op.Gentle polled) :
    Lasting t t' polled := by
  induction run with
  | nil => exact .ofLinks (fun _ _ => rfl) (Nat.le_refl _)
  | snoc _ last ih =>
      obtain ⟨valid, rfl⟩ := last
      obtain ⟨before, here⟩ := List.forall_mem_append.mp gentle
      exact (ih before).trans (.operation valid (List.forall_mem_singleton.mp here))

theorem closingOps_gentle (conn : Short) (l : ConnectionLink) :
    ∀ op ∈ closingOps conn l, op.Gentle polled := by
  unfold closingOps
  split
  · exact List.forall_mem_nil _
  · exact List.forall_mem_cons.mpr ⟨trivial, List.forall_mem_singleton.mpr trivial⟩

theorem LinkScript.gentle (script : LinkScript conn c l ops) :
    ∀ op ∈ ops, op.Gentle (.connectionLink conn.val l.m_id l.m_socket) := by
  cases script with
  | closes => exact closingOps_gentle conn l
  | goesOn first' second' third' =>
      refine List.forall_mem_append.mpr ⟨?_, List.forall_mem_append.mpr ⟨?_, ?_⟩⟩
      · rcases first' with rfl | ⟨bytes, rfl⟩
        · exact List.forall_mem_nil _
        · unfold readingOps
          refine List.forall_mem_append.mpr ⟨List.forall_mem_cons.mpr
            ⟨trivial, List.forall_mem_singleton.mpr trivial⟩, ?_⟩
          split
          · exact List.forall_mem_singleton.mpr (Or.inr rfl)
          · exact List.forall_mem_nil _
      · rcases second' with rfl | ⟨_, buffer, bytes, rfl⟩
        · exact List.forall_mem_nil _
        · exact List.forall_mem_singleton.mpr trivial
      · rcases third' with rfl | ⟨_, rfl⟩
        · exact List.forall_mem_nil _
        · exact closingOps_gentle conn _

theorem Script.gentle {fields : List Byte} {connect : ConnectResult} {command : Short}
    (script : Script conn id fields connect command ops) : ∀ op ∈ ops, op.Gentle polled := by
  cases script with
  | nothing => exact List.forall_mem_nil _
  | acknowledged | ignored => exact List.forall_mem_singleton.mpr (Or.inl rfl)
  | push | closed | establish | refuse => exact List.forall_mem_singleton.mpr trivial
  | pushForAck | connect =>
      exact List.forall_mem_cons.mpr ⟨trivial, List.forall_mem_singleton.mpr trivial⟩
  | close =>
      exact List.forall_mem_cons.mpr
        ⟨trivial, List.forall_mem_cons.mpr ⟨trivial, List.forall_mem_singleton.mpr trivial⟩⟩
  | fail attempt report =>
      refine List.forall_mem_append.mpr ⟨?_, List.forall_mem_append.mpr
        ⟨?_, List.forall_mem_singleton.mpr trivial⟩⟩
      · rcases attempt with rfl | rfl
        · exact List.forall_mem_nil _
        · exact List.forall_mem_singleton.mpr trivial
      · rcases report with rfl | ⟨message, rfl⟩
        · exact List.forall_mem_nil _
        · exact List.forall_mem_singleton.mpr trivial

end StdioTunnel

namespace Endpoint

open StdioTunnel (Lasting)

variable {e e' : Endpoint} {event : Event}

/-- Only the dispatch of a link takes its acknowledgement back. -/
theorem Turn.lasting (turn : Turn e event e') (waitsEmpty : e.WaitsEmpty) :
    Lasting e.tunnel e'.tunnel event.polled := by
  cases turn with
  | aside same => exact .aside same
  | object run script =>
      refine .run run ?_
      generalize event.polled = polled at script
      cases script with
      | listener conn c socket n =>
          exact List.forall_mem_cons.mpr ⟨trivial, List.forall_mem_singleton.mpr trivial⟩
      | link conn c l script => exact script.gentle
      | tunnel => exact List.forall_mem_nil _
  | message handles before run script after =>
      exact (Lasting.aside before).trans ((Lasting.run run script.gentle).trans (.aside after))
  | handshake isRemote waits linkless listens keyed joined server =>
      obtain ⟨_, none⟩ := waitsEmpty.waiting _ isRemote waits
      rw [isRemote] at linkless
      refine ⟨listens.next, fun x i l' found => ?_⟩
      rw [(linkless none).link] at found
      cases found

end Endpoint

/-! ## What was reported -/

namespace Poller

variable {ρ : Type}

/-- `poll` reports input and output only where they were asked for. -/
def Obeyed (p : Poller ρ) : Prop :=
  ∀ entry ∈ p.m_polled,
    (entry.m_pollfd.revents.POLLIN = true → entry.m_pollfd.events.POLLIN = true) ∧
      (entry.m_pollfd.revents.POLLOUT = true → entry.m_pollfd.events.POLLOUT = true)

theorem map_polled_beginRound (p : Poller ρ) (revents : Nat → PollEvents) :
    (p.beginRound revents).m_polled.map PolledAndPollfd.m_polled =
      p.m_polled.map PolledAndPollfd.m_polled := by
  refine List.ext_getElem? fun i => ?_
  unfold beginRound
  rw [List.getElem?_map, List.getElem?_map, List.getElem?_mapIdx, Option.map_map]
  cases p.m_polled[i]? <;> rfl

/-- A record of a round is one of the poller, with what `poll` reported. -/
theorem mem_beginRound {p : Poller ρ} {revents : Nat → PollEvents} {entry : PolledAndPollfd ρ}
    (member : entry ∈ (p.beginRound revents).m_polled) : ∃ before ∈ p.m_polled,
      before.m_polled = entry.m_polled ∧ before.m_pollfd.fd = entry.m_pollfd.fd ∧
        before.m_pollfd.events = entry.m_pollfd.events := by
  obtain ⟨i, found⟩ := List.mem_iff_getElem?.mp member
  unfold beginRound at found
  rw [List.getElem?_mapIdx] at found
  obtain ⟨before, there, rfl⟩ := Option.map_eq_some_iff.mp found
  exact ⟨before, List.mem_of_getElem? there, rfl, rfl, rfl⟩

end Poller

namespace StdioTunnel

variable {t t' : StdioTunnel}

/-- The records whose turn in the round has not come. -/
structure Reported (t : StdioTunnel) (reported : List (PolledAndPollfd Polled)) : Prop where
  sockets : ∀ entry ∈ reported, ∀ x i s, entry.m_polled = .connectionLink x i s →
    s < t.os.next_socket
  once : reported.Pairwise fun a b =>
    ∀ x i s, a.m_polled = .connectionLink x i s → a.m_polled ≠ b.m_polled
  ready : ∀ entry ∈ reported, entry.m_pollfd.revents.POLLIN = true →
    ∀ x i l, entry.m_polled = .connectionLink x i l.m_socket → t.link? x i = some l →
      l.m_closing = false → l.m_acknowledged = true

/-- The first of the records is dispatched, or a later one when those before it are passed over. -/
theorem Reported.dispatched {before after : List (PolledAndPollfd Polled)}
    {entry : PolledAndPollfd Polled} (reported : t.Reported (before ++ entry :: after))
    (lasting : Lasting t t' entry.m_polled) : t'.Reported after where
  sockets := fun later member x i s is => Nat.lt_of_lt_of_le
    (reported.sockets later (List.mem_append_right _ (List.mem_cons_of_mem _ member)) x i s is)
    lasting.next
  once := (List.pairwise_cons.mp (List.pairwise_append.mp reported.once).2.1).2
  ready := by
    intro later member input x i l' is found up
    have inReported : later ∈ before ++ entry :: after :=
      List.mem_append_right _ (List.mem_cons_of_mem _ member)
    have apart := (List.pairwise_cons.mp (List.pairwise_append.mp reported.once).2.1).1 later member
    have other : entry.m_polled ≠ .connectionLink x i l'.m_socket :=
      fun same => apart x i _ same (same.trans is.symm)
    obtain ⟨l, found', up', socket, acked⟩ := lasting.links x i l' found up
      (reported.sockets later inReported x i _ is) other
    rw [← socket] at is
    exact acked (reported.ready later inReported input x i l is found' up')

/-- `poll` reports a link readable only when it may send. -/
theorem Reported.beginRound (serving : t.Serving) (sound : t.Sound) {revents : Nat → PollEvents}
    (obeyed : (t.m_poller.beginRound revents).Obeyed) :
    t.Reported (t.m_poller.beginRound revents).m_polled where
  sockets := by
    intro entry member x i s is
    obtain ⟨before, inPoller, same, _, _⟩ := Poller.mem_beginRound member
    by_contra above
    have none := serving.handedOut x i s (Nat.le_of_not_lt above)
    obtain ⟨record, registered⟩ := registered_of_object
      (List.mem_map.mpr ⟨before, inPoller, same.trans is⟩)
    rw [none] at registered
    cases registered
  once := by
    have apart : t.objects.Pairwise fun a b => (∃ x i s, a = .connectionLink x i s) → a ≠ b := by
      refine pairwise_of_count fun polled isLink => ?_
      obtain ⟨x, i, s, rfl⟩ := isLink
      rw [count_objects]
      rcases (sound.links x i).registered s with none | ⟨_, record, _, _, _, one, _⟩
      · rw [none]
        exact Nat.zero_le 1
      · rw [one]
        exact Nat.le_refl 1
    unfold objects at apart
    rw [← Poller.map_polled_beginRound t.m_poller revents, List.pairwise_map] at apart
    exact apart.imp fun apart x i s is => apart ⟨x, i, s, is⟩
  ready := by
    intro entry member input x i l is found up
    obtain ⟨before, inPoller, same, _, events⟩ := Poller.mem_beginRound member
    have asks := (obeyed entry member).1 input
    rw [← events] at asks
    have registered : before.m_pollfd ∈ t.registrations (.connectionLink x i l.m_socket) :=
      List.mem_map_of_mem (List.mem_filter.mpr ⟨inPoller, decide_eq_true (same.trans is)⟩)
    have served := serving.served x i l found up
    generalize t.registrations (.connectionLink x i l.m_socket) = records at served registered
    cases served with
    | waiting idle acked => exact acked
    | polled fd output allowed quiet =>
        obtain same := List.mem_singleton.mp registered
        rw [same] at asks
        exact allowed asks

end StdioTunnel

end Tun01
