import Tun01.Protocol.LinkSafety

/-!
# Stop and wait

One direction of a link whose packets are acknowledged: what the sending end
knows of its last packet, and the messages under way both ways.  A packet under
way and the acknowledgement of one that has arrived count alike, and the two
ends never have more than one of them between them.
-/

namespace Tun01

namespace LinkMessage

/-- The packets of a link under way; those before a `create` were for an earlier link. -/
def packets : List LinkMessage → Nat
  | [] => 0
  | .sendForAck _ :: rest => if rest.contains .create then packets rest else packets rest + 1
  | _ :: rest => packets rest

def acks (messages : List LinkMessage) : Nat := messages.count .ack

/-- Data is never empty. -/
def Full : LinkMessage → Prop
  | send bytes | sendForAck bytes => bytes ≠ []
  | create | created _ | ack | close => True

/-- Data asks for its acknowledgement exactly on connections with acknowledgements. -/
def Suits (acks : Bool) : LinkMessage → Prop
  | send _ => acks = false
  | sendForAck _ => acks = true
  | create | created _ | ack | close => True

theorem packets_append {more : List LinkMessage} (none : create ∉ more) (out : List LinkMessage) :
    packets (out ++ more) = packets out + packets more := by
  induction out with
  | nil => exact (Nat.zero_add _).symm
  | cons m rest ih =>
      have same : (rest ++ more).contains create = rest.contains create := by
        simp [none]
      cases m with
      | sendForAck bytes =>
          simp only [List.cons_append, packets, same]
          split <;> omega
      | create | created _ | send _ | ack | close => exact ih

theorem packets_create (out : List LinkMessage) : packets (out ++ [create]) = 0 := by
  induction out with
  | nil => rfl
  | cons m rest ih =>
      cases m with
      | sendForAck bytes =>
          have later : (rest ++ [create]).contains create = true := by simp
          simp only [List.cons_append, packets, later, ih, ↓reduceIte]
      | create | created _ | send _ | ack | close => exact ih

/-- Where all data asks for its acknowledgement, the packets bound the bytes. -/
theorem payloads_le {bound : Nat} {out : List LinkMessage} (suits : ∀ m ∈ out, m.Suits true)
    (small : ∀ m ∈ out, m.payload.length ≤ bound) (none : create ∉ out) :
    (payloads out).length ≤ bound * packets out := by
  induction out with
  | nil => exact Nat.zero_le _
  | cons m rest ih =>
      obtain ⟨suit, suits⟩ := List.forall_mem_cons.mp suits
      obtain ⟨short, small⟩ := List.forall_mem_cons.mp small
      have later : create ∉ rest := fun member => none (List.mem_cons_of_mem m member)
      have rest' := ih suits small later
      rw [payloads_cons, List.length_append]
      cases m with
      | send bytes => cases suit
      | sendForAck bytes =>
          have counted : rest.contains create = false := by simpa using later
          rw [packets, counted]
          change bytes.length + _ ≤ bound * (packets rest + 1)
          change bytes.length ≤ bound at short
          rw [Nat.mul_succ]
          omega
      | create | created _ | ack | close =>
          change 0 + _ ≤ bound * packets rest
          omega

theorem acks_cons_of_ne {m : LinkMessage} (other : m ≠ .ack) (rest : List LinkMessage) :
    acks (m :: rest) = acks rest :=
  List.count_cons_of_ne other

theorem acks_cons (rest : List LinkMessage) : acks (.ack :: rest) = acks rest + 1 :=
  List.count_cons_self

theorem acks_append (first second : List LinkMessage) :
    acks (first ++ second) = acks first + acks second := List.count_append

theorem acks_of_not_mem {messages : List LinkMessage} (none : .ack ∉ messages) :
    acks messages = 0 := List.count_eq_zero_of_not_mem none

end LinkMessage

open LinkMessage

/--
One direction of a link: `m_acknowledged` of the end that sends, while it has
the link and is not closing it, what it has under way, and what the end that
receives has.
-/
structure Window where
  acked : Option Bool
  out : List LinkMessage
  back : List LinkMessage

namespace Window

def outstanding (w : Window) : Nat := packets w.out + acks w.back

/-- Stop and wait. -/
structure Waits (w : Window) (acked : Bool) : Prop where
  once : w.outstanding ≤ 1
  idle : acked = true → w.outstanding = 0
  answered : acked = false → w.outstanding = 1 ∨ .close ∈ w.back

/-- The direction waits as the flag of its sender says. -/
def FlagAgrees (w : Window) : Prop := ∀ acked, w.acked = some acked → w.Waits acked

theorem FlagAgrees.of_none {w : Window} (none : w.acked = none) : w.FlagAgrees := by
  intro acked some'
  rw [none] at some'
  cases some'

/-- With nothing under way that counts, the sender may send. -/
theorem flagAgrees_of_idle {w : Window} (acked : w.acked = some true) (idle : w.outstanding = 0) :
    w.FlagAgrees := by
  intro b some'
  rw [acked] at some'
  obtain rfl := Option.some.inj some'
  exact ⟨by omega, fun _ => idle, fun no => by cases no⟩

/-- As much is under way as before, and no `close` was lost. -/
theorem FlagAgrees.same {w w' : Window} (fine : w.FlagAgrees) (acked : w'.acked = w.acked)
    (outstanding : w'.outstanding = w.outstanding) (closes : .close ∈ w.back → .close ∈ w'.back) :
    w'.FlagAgrees := by
  intro b some'
  obtain ⟨once, idle, answered⟩ := fine b (acked ▸ some')
  refine ⟨by omega, fun isTrue => outstanding.trans (idle isTrue), fun isFalse => ?_⟩
  rcases answered isFalse with one | closing
  · exact Or.inl (outstanding.trans one)
  · exact Or.inr (closes closing)

/-! ## Steps of an end -/

/-- What an end does on its own: what it sends, and its flag afterwards. -/
inductive Own (acked : Option Bool) : List LinkMessage → Option Bool → Prop where
  | nothing : Own acked [] acked
  | data (bytes : List Byte) : Own acked [.send bytes] acked
  | packet (bytes : List Byte) (free : acked = some true) :
      Own acked [.sendForAck bytes] (some false)
  | accept : Own acked [.create] (some true)
  | closes {out : List LinkMessage} (quiet : .ack ∉ out) : Own acked out none

/-- What an end does with a message: what it replies, and its flag afterwards. -/
inductive Answer (acked : Option Bool) : LinkMessage → List LinkMessage → Option Bool → Prop where
  | data (bytes : List Byte) : Answer acked (.send bytes) [] acked
  | packet (bytes : List Byte) (up : acked ≠ none) :
      Answer acked (.sendForAck bytes) [.ack] acked
  | ignored (bytes : List Byte) (down : acked = none) : Answer acked (.sendForAck bytes) [] none
  | ack : Answer acked .ack [] (acked.map fun _ => true)
  | close {reply : List LinkMessage} (last : ∀ m ∈ reply, m = .close) :
      Answer acked .close reply none
  | connected : Answer acked .create [.created true] (some true)
  | refused : Answer acked .create [.created false] acked
  | established : Answer acked (.created true) [] acked
  | failed : Answer acked (.created false) [] none

variable {w : Window} {a a' : Option Bool} {m : LinkMessage} {out reply rest : List LinkMessage}

theorem Own.not_ack (own : Own a out a') : .ack ∉ out := by
  cases own with
  | nothing | data _ | packet _ _ | accept => simp
  | closes quiet => exact quiet

/-- The sender acts; a new link has no acknowledgement under way. -/
theorem Own.sender (own : Own w.acked out a') (fine : w.FlagAgrees)
    (new : .create ∈ out → acks w.back = 0) : FlagAgrees ⟨a', w.out ++ out, w.back⟩ := by
  cases own with
  | nothing =>
      rw [List.append_nil]
      exact fine
  | data bytes =>
      refine fine.same rfl ?_ id
      unfold outstanding
      dsimp only
      rw [packets_append (by simp)]
      rfl
  | packet bytes free =>
      have none := (fine true free).idle rfl
      unfold outstanding at none
      intro b some'
      obtain rfl := Option.some.inj some'
      have one : outstanding ⟨some false, w.out ++ [.sendForAck bytes], w.back⟩ = 1 := by
        unfold outstanding
        dsimp only
        rw [packets_append (by simp)]
        change packets w.out + 1 + acks w.back = 1
        omega
      exact ⟨by omega, (fun no => by cases no), fun _ => Or.inl one⟩
  | accept =>
      refine flagAgrees_of_idle rfl ?_
      unfold outstanding
      dsimp only
      rw [packets_create, new List.mem_cons_self]
  | closes quiet => exact .of_none rfl

/-- The receiver acts. -/
theorem Own.receiver (own : Own a out a') (fine : w.FlagAgrees) :
    FlagAgrees ⟨w.acked, w.out, w.back ++ out⟩ := by
  refine fine.same rfl ?_ (List.mem_append_left out)
  unfold outstanding
  dsimp only
  rw [acks_append, acks_of_not_mem own.not_ack, Nat.add_zero]

theorem Answer.full (answer : Answer a m reply a') : ∀ m ∈ reply, m.Full := by
  cases answer with
  | data | ignored | ack | established | failed => exact List.forall_mem_nil _
  | packet | connected | refused => exact List.forall_mem_singleton.mpr trivial
  | close last =>
      intro m member
      rw [last m member]
      trivial

/-- No reply carries data. -/
theorem Answer.suits (answer : Answer a m reply a') (acks : Bool) : ∀ m ∈ reply, m.Suits acks := by
  cases answer with
  | data | ignored | ack | established | failed => exact List.forall_mem_nil _
  | packet | connected | refused => exact List.forall_mem_singleton.mpr trivial
  | close last =>
      intro m member
      rw [last m member]
      trivial

/-- The sender handles a message; nothing that counts is under way when it gets its link. -/
theorem Answer.sender (answer : Answer w.acked m reply a') (fine : w.FlagAgrees)
    (front : w.back = m :: rest) (new : m = .create → packets w.out = 0 ∧ acks rest = 0) :
    FlagAgrees ⟨a', w.out ++ reply, rest⟩ := by
  have kept : ∀ {reply}, m ≠ .ack → m ≠ .close → .create ∉ reply → packets reply = 0 →
      FlagAgrees ⟨w.acked, w.out ++ reply, rest⟩ := by
    intro reply notAck notClose notCreate none
    refine fine.same rfl ?_ fun closing => ?_
    · unfold outstanding
      dsimp only
      rw [front, acks_cons_of_ne notAck, packets_append notCreate, none, Nat.add_zero]
    · rw [front] at closing
      exact (List.mem_cons.mp closing).resolve_left (Ne.symm notClose)
  cases answer with
  | data | established => exact kept (by simp) (by simp) (by simp) rfl
  | packet | refused => exact kept (by simp) (by simp) (by simp) rfl
  | ignored bytes down => exact .of_none rfl
  | close | failed => exact .of_none rfl
  | connected =>
      obtain ⟨sent, heard⟩ := new rfl
      refine flagAgrees_of_idle rfl ?_
      unfold outstanding
      dsimp only
      rw [packets_append (by simp), sent, heard]
      rfl
  | ack =>
      cases acked : w.acked with
      | none => exact .of_none rfl
      | some b =>
          have once := (fine b acked).once
          refine flagAgrees_of_idle rfl ?_
          unfold outstanding at once ⊢
          dsimp only at once ⊢
          rw [front, acks_cons] at once
          rw [List.append_nil]
          omega

/-- A packet that is not answered comes too late for the link, or the receiver is closing. -/
def Heard (a : Option Bool) (m : LinkMessage) (rest back : List LinkMessage) : Prop :=
  ∀ bytes, m = .sendForAck bytes →
    (a ≠ none ∧ .create ∉ rest) ∨ (a = none ∧ (.create ∈ rest ∨ .close ∈ back))

/-- The receiver handles a message. -/
theorem Answer.receiver (answer : Answer a m reply a') (fine : w.FlagAgrees) (front : w.out = m :: rest)
    (heard : w.acked ≠ none → Heard a m rest w.back) :
    FlagAgrees ⟨w.acked, rest, w.back ++ reply⟩ := by
  have kept : packets (m :: rest) = packets rest → .ack ∉ reply →
      FlagAgrees ⟨w.acked, rest, w.back ++ reply⟩ := by
    intro same quiet
    refine fine.same rfl ?_ (List.mem_append_left reply)
    unfold outstanding
    dsimp only
    rw [acks_append, acks_of_not_mem quiet, front, same, Nat.add_zero]
  cases answer with
  | data | ack | established | failed => exact kept rfl (by simp)
  | connected | refused => exact kept rfl (by simp)
  | close last => exact kept rfl fun no => by cases last .ack no
  | packet bytes up =>
      cases acked : w.acked with
      | none => exact .of_none rfl
      | some b =>
          rcases heard (by rw [acked]; exact Option.some_ne_none b) bytes rfl with
            ⟨_, current⟩ | ⟨down, _⟩
          · rw [← acked]
            refine fine.same rfl ?_ (List.mem_append_left _)
            unfold outstanding
            dsimp only
            have counted : rest.contains .create = false := by simpa using current
            rw [acks_append, front, packets, counted]
            change packets rest + (acks w.back + acks [.ack]) = packets rest + 1 + acks w.back
            rw [acks_cons]
            change packets rest + (acks w.back + 1) = packets rest + 1 + acks w.back
            omega
          · exact absurd down up
  | ignored bytes down =>
      cases acked : w.acked with
      | none => exact .of_none rfl
      | some b =>
          rcases heard (by rw [acked]; exact Option.some_ne_none b) bytes rfl with
            ⟨up, _⟩ | ⟨_, late | closing⟩
          · exact absurd down up
          · rw [← acked]
            refine kept ?_ (by simp)
            have earlier : rest.contains .create = true := by simpa using late
            rw [packets, earlier]
            rfl
          · intro c some'
            rw [List.append_nil]
            obtain ⟨once, idle, _⟩ := fine c (acked ▸ some')
            have less : packets rest ≤ packets w.out := by
              rw [front, packets]
              split <;> omega
            refine ⟨?_, fun isTrue => ?_, fun _ => Or.inr closing⟩
            · exact Nat.le_trans (Nat.add_le_add_right less _) once
            · have none := idle isTrue
              unfold outstanding at none ⊢
              dsimp only
              omega

end Window

/-! ## The life cycle of the link -/

namespace LinkState

open Window (Heard)

variable {l c : Phase} {out back rest : List LinkMessage} {a : Option Bool} {m : LinkMessage}

/-- The phase of an end that has its link and is not closing it. -/
def Up (phase : Phase) : Prop := phase = .pending ∨ phase = .opened

theorem closing_mem {messages : List LinkMessage} (closing : Closing messages) :
    .close ∈ messages := by
  induction messages with
  | nil => exact closing.elim
  | cons m rest ih =>
      rcases closing with ⟨rfl, _⟩ | ⟨_, later⟩
      · exact List.mem_cons_self
      · exact List.mem_cons_of_mem m (ih later)

/-- What the connector makes of a packet. -/
theorem LawfulAt.heardByConnector (lawful : LawfulAt l c (m :: rest) back) (up : Up l)
    (isUp : a ≠ none ↔ Up c) : Heard a m rest back := by
  rintro bytes rfl
  have isNone : ¬ Up c → a = none := fun down => not_not.mp (mt isUp.mp down)
  rcases up with rfl | rfl
  · cases c with
    | absent =>
        rcases lawful with ⟨asked, _⟩ | ⟨none, _⟩
        · cases asked
        · cases none
    | pending => exact lawful.elim
    | opened => cases lawful.1
    | closing =>
        rcases lawful with ⟨none, _⟩ | ⟨⟨old, closing, asked⟩, _⟩
        · cases none
        · cases old with
          | nil => exact closing.elim
          | cons first old =>
              rw [(List.cons.inj asked).2]
              exact Or.inr ⟨isNone (by unfold Up; simp), Or.inl (by simp)⟩
  · cases c with
    | absent | pending => exact lawful.elim
    | opened =>
        refine Or.inl ⟨isUp.mpr (Or.inr rfl), ?_⟩
        exact Traffic.not_create ((traffic_cons _ rest).mp lawful.1).2
    | closing => exact Or.inr ⟨isNone (by unfold Up; simp), Or.inr (closing_mem lawful.2)⟩

/-- What the listener makes of a packet. -/
theorem LawfulAt.heardByListener (lawful : LawfulAt l c out (m :: rest)) (up : Up c)
    (isUp : a ≠ none ↔ Up l) : Heard a m rest out := by
  rintro bytes rfl
  have isNone : ¬ Up l → a = none := fun down => not_not.mp (mt isUp.mp down)
  rcases up with rfl | rfl
  · cases l <;> exact lawful.elim
  · cases l with
    | absent => exact lawful.elim
    | pending =>
        obtain ⟨_, more, _, told⟩ := lawful
        cases told
    | opened =>
        refine Or.inl ⟨isUp.mpr (Or.inr rfl), ?_⟩
        exact Traffic.not_create ((traffic_cons _ rest).mp lawful.2).2
    | closing => exact Or.inr ⟨isNone (by unfold Up; simp), Or.inr (closing_mem lawful.1)⟩

/-- A listener without a link has none of the connector's messages under way. -/
theorem LawfulAt.listenerNew (lawful : LawfulAt .absent c out back) : acks back = 0 := by
  cases c with
  | pending | opened => exact lawful.elim
  | absent =>
      rw [lawful.2]
      rfl
  | closing =>
      rw [lawful.2]
      rfl

/-! ### Requests and replies -/

theorem members_closing {messages : List LinkMessage} (closing : LinkMessage.Closing messages) :
    ∀ m ∈ messages, m.traffic = true ∨ m = .close := by
  induction messages with
  | nil => exact List.forall_mem_nil _
  | cons m rest ih =>
      rcases closing with ⟨rfl, rfl⟩ | ⟨clean, later⟩
      · exact List.forall_mem_singleton.mpr (Or.inr rfl)
      · exact List.forall_mem_cons.mpr ⟨Or.inl clean, ih later⟩

/-- Traffic and `close` are no request and no reply. -/
theorem none_asks {messages : List LinkMessage}
    (members : ∀ m ∈ messages, m.traffic = true ∨ m = .close) :
    .create ∉ messages ∧ ∀ success, .created success ∉ messages := by
  refine ⟨fun member => ?_, fun success member => ?_⟩
  · rcases members _ member with no | no <;> cases no
  · rcases members _ member with no | no <;> cases no

/-- While the listener does not wait for a reply, nobody asks for the link or answers. -/
theorem LawfulAt.members (lawful : LawfulAt l c out back) (answered : l ≠ .pending) :
    (∀ m ∈ out, m.traffic = true ∨ m = .close) ∧ ∀ m ∈ back, m.traffic = true ∨ m = .close := by
  have clean : ∀ {messages : List LinkMessage}, LinkMessage.Traffic messages →
      ∀ m ∈ messages, m.traffic = true ∨ m = .close := fun clean m member =>
    Or.inl (clean m member)
  have empty : ∀ {messages : List LinkMessage}, messages = [] →
      ∀ m ∈ messages, m.traffic = true ∨ m = .close := by
    rintro _ rfl
    exact List.forall_mem_nil _
  cases l <;> cases c <;> try exact lawful.elim
  case pending.absent | pending.opened | pending.closing => exact absurd rfl answered
  case absent.absent => exact ⟨empty lawful.1, empty lawful.2⟩
  case absent.closing => exact ⟨members_closing lawful.1, empty lawful.2⟩
  case opened.opened => exact ⟨clean lawful.1, clean lawful.2⟩
  case opened.closing => exact ⟨clean lawful.1, members_closing lawful.2⟩
  case closing.opened => exact ⟨members_closing lawful.1, clean lawful.2⟩
  case closing.closing => exact ⟨members_closing lawful.1, members_closing lawful.2⟩
  case closing.absent => exact ⟨empty lawful.1, members_closing lawful.2⟩

/-- The listener waits for a reply exactly while its request or the reply is under way. -/
theorem LawfulAt.pending_iff (lawful : LawfulAt l c out back) :
    l = .pending ↔ .create ∈ out ∨ ∃ success, .created success ∈ back := by
  constructor
  · rintro rfl
    cases c with
    | pending => exact lawful.elim
    | absent =>
        rcases lawful with ⟨rfl, _⟩ | ⟨_, rfl⟩
        · exact Or.inl List.mem_cons_self
        · exact Or.inr ⟨false, List.mem_cons_self⟩
    | opened =>
        obtain ⟨_, rest, _, rfl⟩ := lawful
        exact Or.inr ⟨true, List.mem_cons_self⟩
    | closing =>
        rcases lawful with ⟨_, rest, _, rfl⟩ | ⟨⟨old, _, rfl⟩, _⟩
        · exact Or.inr ⟨true, List.mem_cons_self⟩
        · exact Or.inl (List.mem_append_right _ List.mem_cons_self)
  · intro asked
    by_contra answered
    obtain ⟨here, there⟩ := lawful.members answered
    rcases asked with request | ⟨success, reply⟩
    · exact (none_asks here).1 request
    · exact (none_asks there).2 success reply

/-- The connector never waits: it does not ask, and the listener does not answer. -/
theorem LawfulAt.connector_answered (lawful : LawfulAt l c out back) :
    c ≠ .pending ∧ .create ∉ back ∧ ∀ success, .created success ∉ out := by
  by_cases waits : l = .pending
  · subst waits
    cases c with
    | pending => exact lawful.elim
    | absent =>
        rcases lawful with ⟨rfl, rfl⟩ | ⟨rfl, rfl⟩
        · exact ⟨(fun no => by cases no), List.not_mem_nil, fun _ => by simp⟩
        · exact ⟨(fun no => by cases no), by simp, fun _ => List.not_mem_nil⟩
    | opened =>
        obtain ⟨rfl, rest, clean, rfl⟩ := lawful
        refine ⟨(fun no => by cases no), fun member => ?_, fun _ => List.not_mem_nil⟩
        exact clean.not_create ((List.mem_cons.mp member).resolve_left fun no => by cases no)
    | closing =>
        rcases lawful with ⟨rfl, rest, closing, rfl⟩ | ⟨⟨old, closing, rfl⟩, rfl⟩
        · refine ⟨(fun no => by cases no), fun member => ?_, fun _ => List.not_mem_nil⟩
          exact closing.not_create ((List.mem_cons.mp member).resolve_left fun no => by cases no)
        · refine ⟨(fun no => by cases no), List.not_mem_nil, fun success member => ?_⟩
          rcases List.mem_append.mp member with earlier | last
          · exact (none_asks (members_closing closing)).2 success earlier
          · cases List.mem_singleton.mp last
  · obtain ⟨here, there⟩ := lawful.members waits
    refine ⟨?_, (none_asks there).1, (none_asks here).2⟩
    rintro rfl
    cases l <;> exact lawful.elim

end LinkState

end Tun01
