import Tun01.Tunnel.Flight
import Tun01.Tunnel.LastRound

/-!
# Sockets that are not lost

A socket that was opened for a client or for a host is open exactly while a link
that is not closing has it, along every run of both loops.  The end of a loop
closes all of these but the sockets of clients that wait for an answer.
-/

namespace Tun01

open StdioTunnel (Aside)

/-! ## Operations -/

/-- Every socket that was opened for a link and is still open is that of a link to be closed. -/
def StdioTunnel.Tight (t : StdioTunnel) : Prop :=
  ∀ s x i, .opened s x i ∈ t.os.trace → ¬ t.os.Closed s →
    ∃ l, t.link? x i = some l ∧ l.m_socket = s ∧ l.m_closing = false

theorem StdioTunnel.Tight.aside {t t' : StdioTunnel} (tight : t.Tight) (aside : Aside t t') :
    t'.Tight := by
  intro s x i opened up
  rw [aside.os] at opened up
  obtain ⟨l, found, held⟩ := tight s x i opened up
  exact ⟨l, (aside.link? x i).trans found, held⟩

namespace Operation

variable {t t' : StdioTunnel} {op : Operation} {conn id : Short} {l : ConnectionLink}

theorem closed_kept {s : Nat} (closed : t.os.Closed s) : (op.apply t).os.Closed s := by
  unfold Kernel.Closed
  rw [trace_apply, Ledger.released_append]
  exact Or.inl closed

/-- The link of an open socket keeps it, unless the socket is closed. -/
theorem stored_held (valid : op.Valid t) (careful : op.Careful t)
    {stored : Option ConnectionLink} (stores : op.stores t = some (conn, id, stored))
    (found : t.link? conn.val id = some l) (isUp : l.m_closing = false)
    (up : ¬ (op.apply t).os.Closed l.m_socket) :
    ∃ l', stored = some l' ∧ l'.m_socket = l.m_socket ∧ l'.m_closing = false := by
  rw [os_apply] at up
  cases op with
  | emit _ | received _ _ _ | establish _ _ | attempt _ _ => cases stores
  | acknowledge c l₀ ack =>
      cases stores
      obtain rfl := Option.some.inj (found.symm.trans valid)
      exact ⟨_, rfl, rfl, isUp⟩
  | push c l₀ bytes | written c l₀ buffer bytes =>
      cases stores
      obtain rfl := Option.some.inj (found.symm.trans valid.1)
      exact ⟨_, rfl, rfl, isUp⟩
  | close c l₀ | refuse c l₀ =>
      cases stores
      obtain rfl := Option.some.inj (found.symm.trans valid.1)
      exact absurd (Kernel.closed_record.mpr (Or.inr ⟨rfl, rfl⟩)) up
  | erase c l₀ =>
      cases stores
      obtain rfl := Option.some.inj (found.symm.trans valid.1)
      rw [valid.2] at isUp
      cases isUp
  | accept c c' socket n | connect c i =>
      cases stores
      cases found.symm.trans careful

/-- A socket that an operation opens and leaves open is that of a new link. -/
theorem opened_held {s : Nat} {x : Int} {i : Short} (opened : .opened s x i ∈ op.calls t)
    (up : ¬ (op.apply t).os.Closed s) :
    ∃ conn : Short, x = conn.val ∧ op.stores t = some (conn, i, some (.create i s)) := by
  rw [os_apply] at up
  cases op with
  | emit _ | acknowledge _ _ _ | push _ _ _ | erase _ _ | establish _ _ => cases opened
  | received _ _ _ | written _ _ _ _ | close _ _ | refuse _ _ =>
      cases List.mem_singleton.mp opened
  | accept conn c socket n | connect conn id =>
      cases List.mem_singleton.mp opened
      exact ⟨conn, rfl, rfl⟩
  | attempt conn id =>
      rcases List.mem_cons.mp opened with same | other
      · cases same
        exact absurd (Kernel.closed_record.mpr (Or.inr ⟨rfl, rfl⟩)) up
      · cases List.mem_singleton.mp other

/-- No operation that is made with care loses an open socket. -/
theorem tight_apply (valid : op.Valid t) (careful : op.Careful t) (tight : t.Tight) :
    (op.apply t).Tight := by
  intro s x i opened up
  have here : ∀ {conn id : Short} {stored : Option ConnectionLink},
      op.stores t = some (conn, id, stored) → (op.apply t).link? conn.val id = stored := by
    intro conn id stored stores
    rw [link?_apply valid, stores]
    exact if_pos ⟨rfl, rfl⟩
  rw [trace_apply, List.mem_append] at opened
  rcases opened with old | new
  · obtain ⟨l, found, rfl, isUp⟩ := tight s x i old (mt closed_kept up)
    by_cases other : ∀ conn id stored, op.stores t = some (conn, id, stored) →
        ¬(x = conn.val ∧ i = id)
    · refine ⟨l, ?_, rfl, isUp⟩
      rw [link?_apply valid]
      cases stores : op.stores t with
      | none => exact found
      | some entry => exact (if_neg (other entry.1 entry.2.1 entry.2.2 stores)).trans found
    · simp only [not_forall, not_not] at other
      obtain ⟨conn, id, stored, stores, rfl, rfl⟩ := other
      obtain ⟨l', rfl, held⟩ := stored_held valid careful stores found isUp up
      exact ⟨l', here stores, held⟩
  · obtain ⟨conn, rfl, stores⟩ := opened_held new up
    exact ⟨_, here stores, rfl, rfl⟩

theorem tight_run {ops : List Operation} (run : Run CarefulStep t ops t') (tight : t.Tight) :
    t'.Tight := by
  refine run.invariant tight fun before taken => ?_
  rw [taken.1.2]
  exact tight_apply taken.1.1 taken.2 before

end Operation

/-! ## Dispatches -/

namespace Endpoint

variable {e e' : Endpoint} {event : Event} {f : Poller Polled → Poller Polled}

/-- The sockets are held, and none is lost. -/
structure Keeping (e : Endpoint) : Prop extends Holding e where
  tight : e.tunnel.Tight

theorem Keeping.step (keeping : e.Keeping) (kind : e.Kind event e') : e'.Keeping where
  toHolding := keeping.toHolding.step kind
  tight := by
    rcases keeping.toHolding.careful kind with
      ⟨ops, t, t', before, run, after⟩ | ⟨r, rfl, waits, listens⟩
    · exact (Operation.tight_run run (keeping.tight.aside before)).aside after
    · -- no link was stored before, so all sockets of links are closed
      obtain ⟨_, linkless⟩ := keeping.waitsEmpty.waiting r rfl waits
      obtain ⟨more, trace, calls⟩ := listens.trace
      intro s x i opened up
      unfold Kernel.Closed at up
      rw [trace] at opened up
      rcases List.mem_append.mp opened with old | new
      · obtain ⟨l, found, _⟩ := keeping.tight s x i old fun closed =>
          up (Ledger.released_append.mpr (Or.inl closed))
        cases (linkless.link x i).symm.trans found
      · obtain ⟨_, _, no, _⟩ := calls _ new
        cases no

theorem Holding.mapPoller (holding : e.Holding)
    (alike : e.tunnel.m_poller.Alike (f e.tunnel.m_poller)) : (e.mapPoller f).Holding where
  waitsEmpty := holding.waitsEmpty.mapPoller alike
  holds := by
    rw [tunnel_mapPoller]
    obtain ⟨⟨sockets, registered⟩, orderly, links, listeners, pointers⟩ := holding.holds
    refine ⟨⟨sockets, fun x i s => ?_⟩, orderly, links, listeners, fun x s => ?_⟩
    · rcases registered x i s with none | ⟨record, l, one, fd, held⟩
      · exact Or.inl ((StdioTunnel.registrations_nil_mapPoller alike _).mpr none)
      · obtain ⟨after, one', fd', _⟩ := StdioTunnel.registrations_one_mapPoller alike one
        exact Or.inr ⟨after, l, one', fd'.trans fd, held⟩
    · rcases pointers x s with none | ⟨record, one, fd, listens⟩
      · exact Or.inl ((StdioTunnel.registrations_nil_mapPoller alike _).mpr none)
      · obtain ⟨after, one', fd', _⟩ := StdioTunnel.registrations_one_mapPoller alike one
        exact Or.inr ⟨after, one', fd'.trans fd, listens⟩

theorem Keeping.mapPoller (keeping : e.Keeping)
    (alike : e.tunnel.m_poller.Alike (f e.tunnel.m_poller)) : (e.mapPoller f).Keeping where
  toHolding := keeping.toHolding.mapPoller alike
  tight := by
    rw [tunnel_mapPoller]
    exact keeping.tight

end Endpoint

/-! ## Both loops -/

namespace System

variable {s s' : System} {side : Side} {tick : Tick} {ticks : List Tick} {event : Event}

theorem Opened.keeping (opened : s.Opened) (x : Side) : (s.ends x).Keeping where
  toHolding := opened.holding x
  tight := by
    intro fd conn id inTrace
    have member : (fd, conn, id) ∈ (s.tunnel x).os.opened := Kernel.mem_opened.mpr inTrace
    rw [opened.unopened x] at member
    cases member

theorem Step.keeping (step : Step s (side, event) s') (inv : s.Inv)
    (clear : Clear (s.tunnel side) event) (keeping : ∀ x, (s.ends x).Keeping) (x : Side) :
    (s'.ends x).Keeping := by
  rcases side_cases side x with rfl | rfl
  · exact (keeping _).step (step.kind inv clear)
  · obtain ⟨e, _, after⟩ := step.ends
    rw [after, Function.update_of_ne side.other_ne]
    exact keeping _

theorem LoopStep.keeping (step : LoopStep s tick s') (inv : s.Inv)
    (keeping : ∀ x, (s.ends x).Keeping) (x : Side) : (s'.ends x).Keeping := by
  have moved : ∀ {t : System} {side : Side} {f : Poller Polled → Poller Polled},
      (∀ x, (t.ends x).Keeping) → (t.tunnel side).m_poller.Alike (f (t.tunnel side).m_poller) →
        ((t.mapPoller side f).ends x).Keeping := by
    intro t side f keeping alike
    rcases side_cases side x with rfl | rfl
    · rw [ends_mapPoller_self]
      exact (keeping x).mapPoller alike
    · rw [ends_mapPoller_other]
      exact keeping _
  cases step with
  | poll obeyed => exact moved keeping (.beginRound _ _)
  | pass meets idle => exact moved keeping (.advance _)
  | dispatch meets ready step =>
      exact moved (step.1.keeping inv (inv.clear_of_spaced step.2) keeping) (.advance _)

theorem Opened.keeping_run (opened : s.Opened) (fits : s.Fits) (run : Run LoopStep s ticks s')
    (x : Side) : (s'.ends x).Keeping := by
  induction run generalizing x with
  | nil => exact opened.keeping x
  | snoc earlier last ih => exact last.keeping (opened.looping_run fits earlier).inv ih x

/--
In every state that both loops reach, a socket that was opened for a client or
for a host is still open exactly if a link that is not closing has it, and no
call was made on a socket after it was closed.
-/
theorem sockets_kept (opened : s.Opened) (fits : s.Fits) (run : Run LoopStep s ticks s')
    (x : Side) : (s'.tunnel x).os.Sealed ∧ ∀ fd conn id,
      .opened fd conn id ∈ (s'.tunnel x).os.trace →
        (¬ (s'.tunnel x).os.Closed fd ↔ ∃ l, (s'.tunnel x).link? conn id = some l ∧
          l.m_socket = fd ∧ l.m_closing = false) := by
  have keeping := opened.keeping_run fits run x
  refine ⟨keeping.holds.orderly.done, fun fd conn id inTrace => ⟨fun up => ?_, ?_⟩⟩
  · exact keeping.tight fd conn id inTrace up
  · rintro ⟨l, found, rfl, isUp⟩
    exact (keeping.holds.links conn id l found).2 isUp

theorem waitsForAck_socket : (patients.beatAll? waitsForAck).any (fun result =>
    ((result.2.tunnel .localSide).link? 0 (Short.ofInt 501)).any fun l =>
      !l.m_closing && (result.2.tunnel .localSide).os.trace.contains
        (.opened l.m_socket 0 (Short.ofInt 501))) = true := by
  decide +kernel

/-- The socket of a client whose packet is under way is open. -/
theorem sockets_kept_packet : ∃ (s : System) (l : ConnectionLink),
    (s.tunnel .localSide).link? 0 (Short.ofInt 501) = some l ∧
      .opened l.m_socket 0 (Short.ofInt 501) ∈ (s.tunnel .localSide).os.trace ∧
      ¬ (s.tunnel .localSide).os.Closed l.m_socket := by
  obtain ⟨⟨ticks, s⟩, beaten, known⟩ := (Option.any_eq_true _ _).mp waitsForAck_socket
  obtain ⟨l, found, facts⟩ := (Option.any_eq_true _ _).mp known
  rw [Bool.and_eq_true, Bool.not_eq_true', List.contains_iff_mem] at facts
  refine ⟨s, l, found, facts.2, ?_⟩
  exact ((sockets_kept patients_opened patients_fits (beatAll?_run beaten) .localSide).2 _ _ _
    facts.2).mpr ⟨l, found, rfl, facts.1⟩

end System

/-! ## The end of a loop -/

namespace StdioTunnel

variable {t t' : StdioTunnel} {x : Int} {i : Short} {l : ConnectionLink}

/-- What is closed when the loop has ended. -/
theorem Holds.closed_endLoop (holds : t.Holds) (ends : t.endLoop = .ok t') (s : Nat) :
    t'.os.Closed s ↔ t.os.Closed s ∨ ∃ x ∈ t.objects, x.socket? = some s := by
  rw [endLoop_returns fun x member => (holds.object member).1] at ends
  cases ends
  unfold Kernel.Closed logs
  dsimp only
  rw [Ledger.released_append, cleanupCalls_eq]
  refine or_congr_right ⟨?_, ?_⟩
  · rintro ⟨call, member, _, same⟩
    obtain ⟨s', inSockets, rfl⟩ := List.mem_map.mp member
    obtain ⟨x, inObjects, socket⟩ := List.mem_filterMap.mp inSockets
    exact ⟨x, inObjects, socket.trans (congrArg some same)⟩
  · rintro ⟨x, inObjects, socket⟩
    exact ⟨.closed s, List.mem_map_of_mem (List.mem_filterMap.mpr ⟨x, inObjects, socket⟩), rfl, rfl⟩

/-- The socket of a stored link is that of a registered object exactly if the link has a record. -/
theorem Holds.object_of_link (holds : t.Holds) (found : t.link? x i = some l) :
    (∃ y ∈ t.objects, y.socket? = some l.m_socket) ↔
      t.registrations (.connectionLink x i l.m_socket) ≠ [] := by
  constructor
  · rintro ⟨y, inObjects, socket⟩
    -- a socket has one owner
    have isLink : y = .connectionLink x i l.m_socket :=
      holds.object_unique (holds.object inObjects).1 ⟨l, found, rfl⟩ socket rfl
    obtain ⟨record, registered⟩ := registered_of_object inObjects
    rw [isLink] at registered
    exact List.ne_nil_of_mem registered
  · intro listed
    obtain ⟨record, member⟩ := List.exists_mem_of_ne_nil _ listed
    obtain ⟨entry, inPoller, _⟩ := List.mem_map.mp member
    obtain ⟨inPoller, isLink⟩ := List.mem_filter.mp inPoller
    refine ⟨entry.m_polled, List.mem_map_of_mem inPoller, ?_⟩
    rw [of_decide_eq_true isLink]
    rfl

theorem phase_pending_iff : t.phase x i = .pending ↔ ∃ l, t.link? x i = some l ∧
    l.m_closing = false ∧ t.registrations (.connectionLink x i l.m_socket) = [] := by
  constructor
  · intro waits
    unfold phase at waits
    cases found : t.link? x i with
    | none =>
        rw [found] at waits
        cases waits
    | some l =>
        rw [found] at waits
        dsimp only at waits
        split at waits
        · cases waits
        · rename_i up
          split at waits
          · rename_i unlisted
            exact ⟨l, rfl, Bool.eq_false_iff.mpr up, unlisted⟩
          · cases waits
  · rintro ⟨l, found, up, unlisted⟩
    exact phase_of_waiting found up unlisted

end StdioTunnel

namespace System

variable {s s' : System} {ticks : List Tick}

/--
Whenever one of the loops ends, its cleanup closes every socket that was opened
for a client or for a host and is still open, and none twice; except the socket
of a client whose request, or the reply to it, is under way.
-/
theorem left_open (opened : s.Opened) (fits : s.Fits) (run : Run LoopStep s ticks s')
    (side : Side) : ∃ t, (s'.tunnel side).endLoop = .ok t ∧ t.os.Sealed ∧
      ∀ (fd : Nat) (conn id : Short), .opened fd conn.val id ∈ (s'.tunnel side).os.trace →
        (¬ t.os.Closed fd ↔ s'.Unanswered side conn id ∧
          ∃ l, (s'.tunnel side).link? conn.val id = some l ∧ l.m_socket = fd) := by
  have keeping := opened.keeping_run fits run side
  have holds : (s'.tunnel side).Holds := keeping.holds
  obtain ⟨t, ends, done, _⟩ := holds.endLoop_sockets
  refine ⟨t, ends, done, fun fd conn id inTrace => ?_⟩
  rw [holds.closed_endLoop ends, not_or, ← (opened.looping_run fits run).inv.pending_iff]
  change _ ↔ (s'.tunnel side).phase conn.val id = .pending ∧ _
  rw [StdioTunnel.phase_pending_iff]
  constructor
  · rintro ⟨up, unlisted⟩
    obtain ⟨l, found, rfl, isUp⟩ := keeping.tight fd conn.val id inTrace up
    have unregistered := not_not.mp (mt (holds.object_of_link found).mpr unlisted)
    exact ⟨⟨l, found, isUp, unregistered⟩, l, found, rfl⟩
  · rintro ⟨⟨l, found, isUp, unlisted⟩, l', found', rfl⟩
    obtain rfl := Option.some.inj (found.symm.trans found')
    exact ⟨(holds.links conn.val id l found).2 isUp,
      fun listed => (holds.object_of_link found).mp listed unlisted⟩

def acceptsClient : List Beat :=
  passesOn .localSide ++ (passesOn .remoteSide ++
    oneReady 0 POLLIN .localSide (.object .localSide ⟨.listenSide 0 0, ⟨0, POLLIN, POLLIN⟩, {}⟩))

theorem acceptsClient_asks : (patients.beatAll? acceptsClient).any (fun result =>
    (result.2.half .localSide (Short.ofInt 0) (Short.ofInt 501)).inFlight.contains .create &&
      ((result.2.tunnel .localSide).link? (Short.ofInt 0).val (Short.ofInt 501)).any fun l =>
        (result.2.tunnel .localSide).os.trace.contains
          (.opened l.m_socket (Short.ofInt 0).val (Short.ofInt 501))) = true := by
  decide +kernel

/-- A loop that ends before the client is answered leaves its socket open. -/
theorem left_open_client : ∃ (s : System) (l : ConnectionLink) (t : StdioTunnel),
    (s.tunnel .localSide).link? (Short.ofInt 0).val (Short.ofInt 501) = some l ∧
      (s.tunnel .localSide).endLoop = .ok t ∧ ¬ t.os.Closed l.m_socket := by
  obtain ⟨⟨ticks, s⟩, beaten, facts⟩ := (Option.any_eq_true _ _).mp acceptsClient_asks
  obtain ⟨asks, known⟩ := Bool.and_eq_true_iff.mp facts
  obtain ⟨l, found, inTrace⟩ := (Option.any_eq_true _ _).mp known
  obtain ⟨t, ends, _, exactly⟩ :=
    left_open patients_opened patients_fits (beatAll?_run beaten) .localSide
  exact ⟨s, l, t, found, ends, (exactly _ _ _ (List.contains_iff_mem.mp inTrace)).mpr
    ⟨Or.inl (List.contains_iff_mem.mp asks), l, found, rfl⟩⟩

end System

end Tun01
