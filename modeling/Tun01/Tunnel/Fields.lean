import Tun01.Tunnel.Start

/-!
# Frames that hold their fields

The readers of fields do not look at the size of the queue.  `Endpoint.holds`
says whether a queue has all the fields its command calls for; handling a frame
is well defined exactly when it does.
-/

namespace Tun01

variable {α β : Type}

/-! ## Results -/

/-- A handler returns or throws. -/
def Defined (x : Except Fault α) : Prop := ∀ reason, x ≠ .error (.undefinedBehaviour reason)

theorem defined_ok (a : α) : Defined (.ok a : Except Fault α) := fun _ no => by cases no

theorem defined_exception (message : String) :
    Defined (.error (.exception message) : Except Fault α) := fun _ no => by cases no

theorem defined_errno (errno : Errno) :
    Defined (.error (.exceptionErrno errno) : Except Fault α) := fun _ no => by cases no

theorem not_defined (reason : String) :
    ¬ Defined (.error (.undefinedBehaviour reason) : Except Fault α) :=
  fun all => all reason rfl

/-- The fault alone decides, whatever would have been returned. -/
theorem defined_error {fault : Fault} :
    Defined (.error fault : Except Fault α) ↔ Defined (.error fault : Except Fault β) :=
  forall_congr' fun _ => by rw [ne_eq, ne_eq, Except.error.injEq, Except.error.injEq]

theorem defined_bind {x : Except Fault α} {f : α → Except Fault β} (first : Defined x)
    (later : ∀ a, x = .ok a → Defined (f a)) : Defined (x >>= f) := by
  cases x with
  | ok a => exact later a rfl
  | error fault =>
      intro reason undefined
      rw [error_bind, Except.error.injEq] at undefined
      exact first reason (by rw [undefined])

theorem defined_map {x : Except Fault α} {f : α → β} : Defined (x.map f) ↔ Defined x := by
  cases x with
  | ok a => exact iff_of_true (defined_ok _) (defined_ok _)
  | error fault => exact defined_error

/-- What follows a missing field is not reached. -/
theorem not_defined_bind {x : Except Fault α} {f : α → Except Fault β} (undefined : ¬ Defined x) :
    ¬ Defined (x >>= f) := by
  intro all
  refine undefined fun reason same => all reason ?_
  rw [same, error_bind]

/-- What comes later is always defined. -/
theorem defined_bind_iff {x : Except Fault α} {f : α → Except Fault β}
    (later : ∀ a, x = .ok a → Defined (f a)) : Defined (x >>= f) ↔ Defined x := by
  refine ⟨fun all reason undefined => all reason ?_, fun first => defined_bind first later⟩
  rw [undefined, error_bind]

/-- The `long` at the front of a queue, as `ntohl` returns it. -/
def splitLong : List Byte → Option (Nat × List Byte)
  | b0 :: b1 :: b2 :: b3 :: rest => some ((ntohl (wordLE b0 b1 b2 b3)).toNat, rest)
  | _ => none

def splitRange (length : Int) (queue : List Byte) : Option (List Byte × List Byte) :=
  if 0 ≤ length ∧ length ≤ queue.length then
    some (queue.take length.toNat, queue.drop length.toNat)
  else none

def splitString (queue : List Byte) : Option (List Byte × List Byte) :=
  (splitLong queue).bind fun (length, rest) => splitRange length rest

/-- The specification at the front of a queue. -/
def splitSpec (queue : List Byte) : Option (ConnectionSpec × List Byte) := do
  let (connection_type, queue) ← splitShort queue
  let (connect_host, queue) ← splitString queue
  let (connect_port, queue) ← splitShort queue
  let (listen_port, queue) ← splitShort queue
  let (flags, queue) ← splitShort queue
  some (⟨Direction.ofShort connection_type, connect_host, connect_port.val, listen_port.val,
    flags.val⟩, queue)

/-- A reader returns what is at the front of its queue, or is undefined. -/
structure Splits (stream : ReadStream) (result : Except Fault (α × ReadStream))
    (front : Option (α × List Byte)) : Prop where
  found : ∀ a rest, front = some (a, rest) → result = .ok (a, stream.withQueue rest)
  missing : front = none → ¬ Defined result

namespace ReadStream

theorem readShort_splits (stream : ReadStream) :
    Splits stream stream.readShort (splitShort stream.m_queue) := by
  unfold readShort popFront
  match queue : stream.m_queue with
  | [] => exact ⟨fun _ _ no => (by cases no), fun _ => not_defined _⟩
  | [x] => exact ⟨fun _ _ no => (by cases no), fun _ => not_defined _⟩
  | x :: y :: rest =>
      refine ⟨fun s rest' same => ?_, fun no => by cases no⟩
      obtain ⟨rfl, rfl⟩ := Prod.mk.inj (Option.some.inj same)
      rfl

theorem readLong_splits (stream : ReadStream) :
    Splits stream stream.readLong ((splitLong stream.m_queue).map fun p => ((p.1 : Int), p.2)) := by
  unfold readLong popFront
  match queue : stream.m_queue with
  | [] => exact ⟨fun _ _ no => (by cases no), fun _ => not_defined _⟩
  | [_] => exact ⟨fun _ _ no => (by cases no), fun _ => not_defined _⟩
  | [_, _] => exact ⟨fun _ _ no => (by cases no), fun _ => not_defined _⟩
  | [_, _, _] => exact ⟨fun _ _ no => (by cases no), fun _ => not_defined _⟩
  | b0 :: b1 :: b2 :: b3 :: rest =>
      refine ⟨fun s rest' same => ?_, fun no => by cases no⟩
      obtain ⟨rfl, rfl⟩ := Prod.mk.inj (Option.some.inj same)
      rfl

theorem readBytes_splits (stream : ReadStream) (length : Int) :
    Splits stream (stream.readBytes length) (splitRange length stream.m_queue) := by
  unfold readBytes takeRange splitRange
  split
  · refine ⟨fun s rest' same => ?_, fun no => by cases no⟩
    obtain ⟨rfl, rfl⟩ := Prod.mk.inj (Option.some.inj same)
    rfl
  · exact ⟨fun _ _ no => (by cases no), fun _ => not_defined _⟩

end ReadStream

/-- The queue the reader had before does not matter. -/
theorem Splits.withQueue {stream : ReadStream} {queue : List Byte}
    {result : Except Fault (α × ReadStream)} {front : Option (α × List Byte)}
    (splits : Splits (stream.withQueue queue) result front) : Splits stream result front :=
  ⟨splits.found, splits.missing⟩

/-- One field after another. -/
theorem Splits.bind {stream : ReadStream} {result : Except Fault (α × ReadStream)}
    {front : Option (α × List Byte)} {more : α × ReadStream → Except Fault (β × ReadStream)}
    {next : α × List Byte → Option (β × List Byte)} (first : Splits stream result front)
    (later : ∀ a rest,
      Splits (stream.withQueue rest) (more (a, stream.withQueue rest)) (next (a, rest))) :
    Splits stream (result >>= more) (front.bind next) := by
  cases split : front with
  | none =>
      refine ⟨fun _ _ no => (by cases no), fun _ all => first.missing split ?_⟩
      intro reason undefined
      exact all reason (by rw [undefined, error_bind])
  | some p =>
      rw [first.found p.1 p.2 split]
      exact (later p.1 p.2).withQueue

/-- The last step makes a value of the fields. -/
theorem Splits.done (stream : ReadStream) (a : α) :
    Splits stream (.ok (a, stream)) (some (a, stream.m_queue)) := by
  refine ⟨fun b rest same => ?_, fun no => by cases no⟩
  obtain ⟨rfl, rfl⟩ := Prod.mk.inj (Option.some.inj same)
  rfl

theorem ReadStream.readString_splits (stream : ReadStream) :
    Splits stream stream.readString (splitString stream.m_queue) := by
  have both := @Splits.bind _ _ _ _ _ (fun p => p.2.readBytes p.1)
    (fun p => splitRange p.1 p.2) stream.readLong_splits
    fun length rest => (stream.withQueue rest).readBytes_splits length
  rw [Option.bind_map] at both
  exact both

theorem ConnectionSpec.deserialize_splits (stream : ReadStream) :
    Splits stream (deserialize stream) (splitSpec stream.m_queue) := by
  unfold deserialize splitSpec
  refine stream.readShort_splits.bind fun connection_type q₁ => ?_
  refine (ReadStream.readString_splits _).bind fun connect_host q₂ => ?_
  refine (ReadStream.readShort_splits _).bind fun connect_port q₃ => ?_
  refine (ReadStream.readShort_splits _).bind fun listen_port q₄ => ?_
  refine (ReadStream.readShort_splits _).bind fun flags q₅ => ?_
  exact .done _ _

/-! ## Messages for a connection -/

/-- The bytes of a data message are there, or its length is refused. -/
def dataHolds (fields : List Byte) : Bool :=
  match splitShort fields with
  | none => false
  | some (length, data) =>
      decide (length.val > LINK_BUFFER_SIZE) || (splitRange length.val data).isSome

def fieldsHold (command : Short) (fields : List Byte) : Bool :=
  if command = LINK_SEND ∨ command = LINK_SEND_FOR_ACK then dataHolds fields else true

namespace StdioTunnel

variable {t t' : StdioTunnel} {c : TunnelConnection} {l : ConnectionLink}

/-- A message for a connection that is known has its fields; a listener wants a result code. -/
def messageHolds (t : StdioTunnel) (queue : List Byte) : Bool :=
  match splitShort queue with
  | none => false
  | some (conn, queue) =>
      match t.connection? conn.val with
      | none => false
      | some c =>
          match splitShort queue with
          | none => false
          | some (command, queue) =>
              match splitShort queue with
              | none => false
              | some (id, fields) =>
                  match t.link? c.m_id id with
                  | none => true
                  | some _ =>
                      if command = LINK_CREATE then
                        !c.role.listens || (splitShort fields).isSome
                      else fieldsHold command fields

theorem readShort_found {s : Short} {rest : List Byte}
    (split : splitShort t.m_read_stream.m_queue = some (s, rest)) :
    t.readShort = .ok (s, t.reading rest) := by
  unfold readShort
  rw [t.m_read_stream.readShort_splits.found s rest split]
  rfl

theorem readShort_missing (split : splitShort t.m_read_stream.m_queue = none) :
    ¬ Defined t.readShort := by
  intro all
  refine t.m_read_stream.readShort_splits.missing split fun reason undefined => all reason ?_
  unfold readShort
  rw [undefined]
  rfl

theorem readBytes_defined (t : StdioTunnel) (length : Int) :
    Defined (t.readBytes length) ↔ (splitRange length t.m_read_stream.m_queue).isSome = true := by
  have splits := t.m_read_stream.readBytes_splits length
  unfold readBytes
  rw [defined_bind_iff fun _ _ => defined_ok _]
  cases split : splitRange length t.m_read_stream.m_queue with
  | none => exact iff_of_false (splits.missing split) Bool.false_ne_true
  | some p =>
      rw [splits.found p.1 p.2 split]
      exact iff_of_true (defined_ok _) rfl

theorem readString_defined (t : StdioTunnel) :
    Defined t.readString ↔ (splitString t.m_read_stream.m_queue).isSome = true := by
  have splits := t.m_read_stream.readString_splits
  unfold readString
  rw [defined_bind_iff fun _ _ => defined_ok _]
  cases split : splitString t.m_read_stream.m_queue with
  | none => exact iff_of_false (splits.missing split) Bool.false_ne_true
  | some p =>
      rw [splits.found p.1 p.2 split]
      exact iff_of_true (defined_ok _) rfl

theorem send_defined (t : StdioTunnel) : Defined t.send := by
  unfold send
  split
  · exact defined_ok _
  · exact defined_exception _

theorem reportError_defined (t : StdioTunnel) (message : List Byte) :
    Defined (t.reportError message) := by
  unfold reportError
  split
  · exact defined_ok _
  · exact send_defined _

theorem closeLink_defined (t : StdioTunnel) (c : TunnelConnection) (l : ConnectionLink) :
    Defined (t.closeLink c l) := by
  unfold closeLink
  split
  · exact defined_ok _
  · exact send_defined _

theorem connectLink_defined (t : StdioTunnel) (c : TunnelConnection) (id : Short)
    (connect : ConnectResult) : Defined (t.connectLink c id connect) := by
  cases connect with
  | hostNotFound | noSocket | connectFailed | fcntlFailed =>
      exact defined_bind (reportError_defined _ _) fun _ _ => defined_ok _
  | connected => exact defined_ok _

theorem receiveData_defined :
    Defined (t.receiveData c l) ↔ dataHolds t.m_read_stream.m_queue = true := by
  unfold receiveData dataHolds
  cases split : splitShort t.m_read_stream.m_queue with
  | none => exact iff_of_false (not_defined_bind (readShort_missing split)) Bool.false_ne_true
  | some p =>
      obtain ⟨length, data⟩ := p
      rw [readShort_found split, ok_bind]
      dsimp only
      by_cases long : length.val > LINK_BUFFER_SIZE
      · rw [if_pos long, decide_eq_true long]
        exact iff_of_true (defined_exception _) rfl
      · rw [if_neg long, decide_eq_false long, Bool.false_or, defined_bind_iff ?_]
        · exact readBytes_defined _ _
        · intro _ _
          split <;> exact defined_ok _

theorem processLinkMessage_defined {command : Short} :
    Defined (t.processLinkMessage c command l) ↔
      fieldsHold command t.m_read_stream.m_queue = true := by
  unfold processLinkMessage fieldsHold
  by_cases isSend : command = LINK_SEND
  · rw [if_pos isSend, if_pos (Or.inl isSend)]
    exact (defined_bind_iff fun _ _ => defined_ok _).trans receiveData_defined
  rw [if_neg isSend]
  by_cases isClose : command = LINK_CLOSE
  · have other : command ≠ LINK_SEND_FOR_ACK := by
      rw [isClose]
      decide
    rw [if_pos isClose, if_neg (fun data => data.elim isSend other)]
    exact iff_of_true (defined_bind (closeLink_defined _ _ _) fun _ _ => defined_ok _) rfl
  rw [if_neg isClose]
  by_cases isData : command = LINK_SEND_FOR_ACK
  · rw [if_pos isData, if_pos (Or.inr isData), defined_bind_iff]
    · exact receiveData_defined
    · rintro ⟨t₁, l₁⟩ _
      dsimp only
      split
      · exact defined_ok _
      · exact send_defined _
  · rw [if_neg isData, if_neg (c := command = LINK_SEND ∨ command = LINK_SEND_FOR_ACK)
      fun data => data.elim isSend isData]
    by_cases isAck : command = LINK_ACK
    · rw [if_pos isAck]
      exact iff_of_true (defined_ok _) rfl
    · rw [if_neg isAck]
      exact iff_of_true (defined_ok _) rfl

theorem listenProcessMessage_defined (role : c.role.listens = true) {command id : Short}
    {queue fields : List Byte}
    (first : splitShort t.m_read_stream.m_queue = some (command, queue))
    (second : splitShort queue = some (id, fields)) :
    Defined (t.listenProcessMessage c) ↔
      (match t.link? c.m_id id with
        | none => true
        | some _ =>
            if command = LINK_CREATE then !c.role.listens || (splitShort fields).isSome
            else fieldsHold command fields) = true := by
  unfold listenProcessMessage
  rw [readShort_found first, ok_bind]
  dsimp only
  rw [readShort_found second, ok_bind]
  dsimp only
  change Defined (match t.link? c.m_id id with
    | none => _
    | some link => _) ↔ _
  cases t.link? c.m_id id with
  | none => exact iff_of_true (defined_exception _) rfl
  | some l =>
      dsimp only
      by_cases isCreate : command = LINK_CREATE
      · rw [if_pos isCreate, if_pos isCreate, role, Bool.not_true, Bool.false_or]
        cases split : splitShort fields with
        | none =>
            exact iff_of_false (not_defined_bind (readShort_missing split)) Bool.false_ne_true
        | some p =>
            refine iff_of_true ?_ rfl
            rw [StdioTunnel.reading_reading, readShort_found (t := t.reading fields) split, ok_bind]
            dsimp only
            split <;> exact defined_ok _
      · rw [if_neg isCreate, if_neg isCreate]
        exact processLinkMessage_defined

theorem connectProcessMessage_defined (role : c.role.listens = false) {connect : ConnectResult}
    {command id : Short} {queue fields : List Byte}
    (first : splitShort t.m_read_stream.m_queue = some (command, queue))
    (second : splitShort queue = some (id, fields)) :
    Defined (t.connectProcessMessage c connect) ↔
      (match t.link? c.m_id id with
        | none => true
        | some _ =>
            if command = LINK_CREATE then !c.role.listens || (splitShort fields).isSome
            else fieldsHold command fields) = true := by
  unfold connectProcessMessage
  rw [readShort_found first, ok_bind]
  dsimp only
  rw [readShort_found second, ok_bind]
  dsimp only
  by_cases isCreate : command = LINK_CREATE
  · rw [if_pos isCreate, role]
    refine iff_of_true (defined_bind (connectLink_defined _ _ _ _) fun _ _ => send_defined _) ?_
    cases t.link? c.m_id id with
    | none => rfl
    | some l => exact if_pos isCreate
  · rw [if_neg isCreate]
    change Defined (match t.link? c.m_id id with
      | none => _
      | some link => _) ↔ _
    cases t.link? c.m_id id with
    | none => exact iff_of_true (defined_ok _) rfl
    | some l =>
        dsimp only
        rw [if_neg isCreate]
        exact processLinkMessage_defined

/-- A message for a connection is well defined when its fields are there. -/
theorem connection_defined {connect : ConnectResult} :
    Defined (do
      let (id, t) ← t.readShort
      t.dispatchMessage id.val connect) ↔ t.messageHolds t.m_read_stream.m_queue = true := by
  unfold messageHolds
  cases split₁ : splitShort t.m_read_stream.m_queue with
  | none => exact iff_of_false (not_defined_bind (readShort_missing split₁)) Bool.false_ne_true
  | some p =>
      obtain ⟨conn, queue⟩ := p
      rw [readShort_found split₁, ok_bind]
      dsimp only
      unfold dispatchMessage
      change Defined (match t.connection? conn.val with
        | none => _
        | some c => _) ↔ _
      cases known : t.connection? conn.val with
      | none => exact iff_of_false (not_defined _) Bool.false_ne_true
      | some c =>
          dsimp only
          unfold processMessage
          cases split₂ : splitShort queue with
          | none =>
              refine iff_of_false ?_ Bool.false_ne_true
              cases c.role with
              | listenSide _ _ | connectSide =>
                  exact not_defined_bind (readShort_missing (t := t.reading queue) split₂)
          | some p =>
              obtain ⟨command, queue'⟩ := p
              have first : splitShort (t.reading queue).m_read_stream.m_queue =
                  some (command, queue') := split₂
              dsimp only
              cases split₃ : splitShort queue' with
              | none =>
                  refine iff_of_false ?_ Bool.false_ne_true
                  cases c.role with
                  | listenSide _ _ =>
                      dsimp only
                      unfold listenProcessMessage
                      rw [readShort_found first, ok_bind]
                      exact not_defined_bind (readShort_missing (t := t.reading queue') split₃)
                  | connectSide =>
                      dsimp only
                      unfold connectProcessMessage
                      rw [readShort_found first, ok_bind]
                      exact not_defined_bind (readShort_missing (t := t.reading queue') split₃)
              | some p =>
                  obtain ⟨id, fields⟩ := p
                  cases role : c.role with
                  | listenSide socket n =>
                      have listens : c.role.listens = true := by rw [role]; rfl
                      have defined := listenProcessMessage_defined listens first split₃
                      rw [role] at defined
                      exact defined
                  | connectSide =>
                      have listens : c.role.listens = false := by rw [role]; rfl
                      have defined := @connectProcessMessage_defined _ _ listens connect _ _ _ _
                        first split₃
                      rw [role] at defined
                      exact defined

end StdioTunnel

/-! ## The handshake -/

/-- The socks5 server of the handshake is refused or fails to start. -/
def serverFails (server : Bool) (calls : Calls) : Bool :=
  server ||
    match calls.server_setup, calls.fcntl, calls.getsockname with
    | .ok _, .ok _, some _ => false
    | _, _, _ => true

/-- The remote endpoint throws while it sets up a connection. -/
def setupFails (server : Bool) (calls : Calls) (i : Nat) (spec : ConnectionSpec) : Bool :=
  (spec.isSocks5 && serverFails server calls) ||
    match spec.m_connection_type, calls.listen i with
    | .LISTEN, .bindFailed _ => true
    | _, _ => false

/-- The entries of the handshake are there, up to one that cannot be set up. -/
def entriesHold (calls : Calls) (server : Bool) (i : Nat) : Nat → List Byte → Bool
  | 0, _ => true
  | remaining + 1, queue =>
      match splitShort queue with
      | none => false
      | some (_, queue) =>
          match splitSpec queue with
          | none => false
          | some (spec, queue) =>
              setupFails server calls i spec ||
                entriesHold calls (server || spec.isSocks5) (i + 1) remaining queue

namespace StdioTunnelRemote

variable {r : StdioTunnelRemote} {calls : Calls}

/-- Setting up a connection is well defined, and when it does not throw it leaves the queue. -/
theorem setupSocks5_defined (spec : ConnectionSpec) :
    Defined (r.setupSocks5 spec calls) ∧
      (∀ r' spec', r.setupSocks5 spec calls = .ok (r', spec') →
        (spec.isSocks5 && serverFails r.m_socks5_server calls) = false ∧
        r'.m_read_stream = r.m_read_stream ∧
        r'.m_socks5_server = (r.m_socks5_server || spec.isSocks5) ∧
        spec'.m_connection_type = spec.m_connection_type) ∧
      ((spec.isSocks5 && serverFails r.m_socks5_server calls) = false →
        ∃ r' spec', r.setupSocks5 spec calls = .ok (r', spec')) := by
  unfold setupSocks5 serverFails
  cases socks5 : spec.isSocks5 with
  | false =>
      rw [if_neg Bool.false_ne_true]
      refine ⟨defined_ok _, ?_, fun _ => ⟨_, _, rfl⟩⟩
      intro r' spec' same
      obtain ⟨rfl, rfl⟩ := Prod.mk.inj (Except.ok.inj same)
      exact ⟨rfl, rfl, (Bool.or_false _).symm, rfl⟩
  | true =>
      rw [if_pos rfl]
      cases server : r.m_socks5_server with
      | true =>
          rw [if_pos rfl]
          exact ⟨defined_exception _, fun _ _ no => (by cases no), fun no => (by cases no)⟩
      | false =>
          rw [if_neg Bool.false_ne_true]
          cases calls.server_setup with
          | fail errno =>
              exact ⟨defined_exception _, fun _ _ no => (by cases no), fun no => (by cases no)⟩
          | ok fd =>
              cases calls.fcntl with
              | fail errno =>
                  exact ⟨defined_errno _, fun _ _ no => (by cases no), fun no => (by cases no)⟩
              | ok _ =>
                  cases calls.getsockname with
                  | none =>
                      exact ⟨defined_exception _, fun _ _ no => (by cases no),
                        fun no => (by cases no)⟩
                  | some port =>
                      refine ⟨defined_ok _, ?_, fun _ => ⟨_, _, rfl⟩⟩
                      intro r' spec' same
                      obtain ⟨rfl, rfl⟩ := Prod.mk.inj (Except.ok.inj same)
                      exact ⟨rfl, rfl, rfl, rfl⟩

/-- The listener of a connection cannot be bound. -/
theorem CreateConnection_defined {t : StdioTunnel} {spec : ConnectionSpec} {id : Int}
    {listen : ListenResult} :
    Defined (t.CreateConnection spec false id listen) ∧
      ((∃ p, t.CreateConnection spec false id listen = .ok p) ↔
        (match spec.m_connection_type, listen with
          | .LISTEN, .bindFailed _ => true
          | _, _ => false) = false) := by
  unfold StdioTunnel.CreateConnection
  cases spec.m_connection_type with
  | LISTEN =>
      rw [if_pos (Or.inr ⟨rfl, rfl⟩)]
      cases listen with
      | noSocket | fcntlFailed | listenFailed | listening =>
          exact ⟨defined_ok _, iff_of_true ⟨_, rfl⟩ rfl⟩
      | bindFailed errno =>
          exact ⟨defined_errno _, iff_of_false (fun ⟨_, no⟩ => by cases no) nofun⟩
  | CONNECT | other _ =>
      rw [if_neg (by rintro (⟨no, _⟩ | ⟨_, no⟩) <;> cases no)]
      exact ⟨defined_ok _, iff_of_true ⟨_, rfl⟩ rfl⟩

/-- The loop over the entries is well defined when the entries it reaches are there. -/
theorem createConnections_defined {i remaining : Nat} :
    Defined (r.createConnections calls i remaining) ↔
      entriesHold calls r.m_socks5_server i remaining r.m_read_stream.m_queue = true := by
  induction remaining generalizing r i with
  | zero => exact iff_of_true (defined_ok _) rfl
  | succ remaining ih =>
      unfold createConnections entriesHold
      cases split₁ : splitShort r.m_read_stream.m_queue with
      | none =>
          exact iff_of_false (not_defined_bind (StdioTunnel.readShort_missing split₁))
            Bool.false_ne_true
      | some p =>
          obtain ⟨id, queue⟩ := p
          rw [StdioTunnel.readShort_found split₁, ok_bind]
          dsimp only
          have splits := ConnectionSpec.deserialize_splits (r.m_read_stream.withQueue queue)
          cases split₂ : splitSpec queue with
          | none => exact iff_of_false (not_defined_bind (splits.missing split₂)) Bool.false_ne_true
          | some p =>
              obtain ⟨spec, queue'⟩ := p
              change Defined (ConnectionSpec.deserialize (r.m_read_stream.withQueue queue) >>= _) ↔ _
              rw [splits.found spec queue' split₂, ok_bind]
              dsimp only
              obtain ⟨defined, returned, returns⟩ :=
                @setupSocks5_defined (r.reading queue') calls spec
              unfold setupFails
              cases server : spec.isSocks5 && serverFails r.m_socks5_server calls with
              | true =>
                  rw [Bool.true_or, Bool.true_or]
                  refine iff_of_true (defined_bind defined fun p same => ?_) rfl
                  have no := (returned p.1 p.2 same).1
                  change (spec.isSocks5 && serverFails r.m_socks5_server calls) = false at no
                  rw [server] at no
                  cases no
              | false =>
                  obtain ⟨r', spec', same⟩ := returns server
                  obtain ⟨_, stream, servers, type⟩ := returned r' spec' same
                  change Defined ((r.reading queue').setupSocks5 spec calls >>= _) ↔ _
                  rw [same, ok_bind, Bool.false_or]
                  dsimp only
                  obtain ⟨created, creates⟩ := @CreateConnection_defined r'.toStdioTunnel spec' id.val
                    (calls.listen i)
                  rw [type] at creates
                  cases listen : (match spec.m_connection_type, calls.listen i with
                    | .LISTEN, .bindFailed _ => true
                    | _, _ => false) with
                  | true =>
                      refine iff_of_true (defined_bind created fun p same => ?_) (Bool.true_or _)
                      have no := creates.mp ⟨p, same⟩
                      rw [listen] at no
                      cases no
                  | false =>
                      obtain ⟨⟨t, pConn⟩, made⟩ := creates.mpr listen
                      have streams := (StdioTunnel.CreateConnection_streams made).2.1
                      rw [made, ok_bind, Bool.false_or]
                      dsimp only
                      rw [ih]
                      cases pConn with
                      | none | some c =>
                          dsimp only [StdioTunnel.putConnection]
                          rw [servers, streams, stream]
                          exact Iff.rfl

end StdioTunnelRemote

/-! ## Frames -/

namespace Endpoint

/-- The queue has the fields its command calls for. -/
def holds (e : Endpoint) (calls : Calls) (queue : List Byte) : Bool :=
  match splitShort queue with
  | none => false
  | some (command, queue) =>
      match e with
      | localEnd l =>
          if command = CMD_ERROR then (splitString queue).isSome
          else if command = CMD_CONNECTION then l.messageHolds queue
          else true
      | remoteEnd r =>
          match r.m_state with
          | .HANDSHAKING =>
              if command = CMD_CREATE then
                match splitShort queue with
                | none => false
                | some (count, queue) =>
                    entriesHold calls r.m_socks5_server 0 count.val.toNat queue
              else true
          | .CONNECTED => if command = CMD_CONNECTION then r.messageHolds queue else true
          | .INITIAL | .SET_STDIO_READ | .SHUT_DOWN => true

end Endpoint

theorem StdioTunnelLocal.processFrame_defined (l : StdioTunnelLocal) (calls : Calls) :
    Defined (l.processFrame calls) ↔
      (Endpoint.localEnd l).holds calls l.m_read_stream.m_queue = true := by
  unfold processFrame Endpoint.holds
  cases split : splitShort l.m_read_stream.m_queue with
  | none =>
      exact iff_of_false (not_defined_bind (StdioTunnel.readShort_missing split))
        Bool.false_ne_true
  | some p =>
      obtain ⟨command, queue⟩ := p
      rw [StdioTunnel.readShort_found split, ok_bind]
      dsimp only
      by_cases isError : command = CMD_ERROR
      · rw [if_pos isError, if_pos isError]
        rw [defined_bind_iff]
        · exact StdioTunnel.readString_defined (l.toStdioTunnel.reading queue)
        · intro p _
          exact defined_bind (StdioTunnel.reportError_defined _ _) fun _ _ => defined_ok _
      rw [if_neg isError, if_neg isError]
      by_cases isCreate : command = CMD_CREATE
      · have other : command ≠ CMD_CONNECTION := by
          rw [isCreate]
          decide
        rw [if_pos isCreate, if_neg other]
        exact iff_of_true (defined_ok _) rfl
      rw [if_neg isCreate]
      by_cases isConnection : command = CMD_CONNECTION
      · rw [if_pos isConnection, if_pos isConnection]
        refine Iff.trans ?_ (@StdioTunnel.connection_defined (l.toStdioTunnel.reading queue)
          calls.connect)
        cases (l.toStdioTunnel.reading queue).readShort with
        | error fault => exact defined_error
        | ok p => exact defined_bind_iff fun _ _ => defined_ok _
      · rw [if_neg isConnection, if_neg isConnection]
        refine iff_of_true ?_ rfl
        split <;> exact defined_ok _

theorem StdioTunnelRemote.processFrame_defined (r : StdioTunnelRemote) (calls : Calls) :
    Defined (r.processFrame calls) ↔
      (Endpoint.remoteEnd r).holds calls r.m_read_stream.m_queue = true := by
  unfold processFrame Endpoint.holds
  cases split : splitShort r.m_read_stream.m_queue with
  | none =>
      exact iff_of_false (not_defined_bind (StdioTunnel.readShort_missing split))
        Bool.false_ne_true
  | some p =>
      obtain ⟨command, queue⟩ := p
      rw [StdioTunnel.readShort_found split, ok_bind]
      dsimp only
      cases r.m_state with
      | HANDSHAKING =>
          dsimp only
          by_cases isCreate : command = CMD_CREATE
          · rw [if_neg (not_not.mpr isCreate), if_pos isCreate]
            cases split₂ : splitShort queue with
            | none =>
                exact iff_of_false (not_defined_bind
                  (StdioTunnel.readShort_missing (t := r.toStdioTunnel.reading queue) split₂))
                  Bool.false_ne_true
            | some p =>
                obtain ⟨count, queue'⟩ := p
                rw [StdioTunnel.readShort_found (t := r.toStdioTunnel.reading queue) split₂, ok_bind]
                dsimp only
                rw [defined_bind_iff]
                · exact createConnections_defined (r := ⟨r.toStdioTunnel.reading queue', _,
                    r.m_socks5_server⟩)
                · intro r' _
                  exact defined_bind (StdioTunnel.send_defined _) fun _ _ => defined_ok _
          · rw [if_pos isCreate, if_neg isCreate]
            exact iff_of_true (defined_exception _) rfl
      | CONNECTED =>
          dsimp only
          by_cases isShutdown : command = CMD_SHUTDOWN
          · have other : command ≠ CMD_CONNECTION := by
              rw [isShutdown]
              decide
            rw [if_pos isShutdown, if_neg other]
            exact iff_of_true (defined_ok _) rfl
          rw [if_neg isShutdown]
          by_cases isConnection : command = CMD_CONNECTION
          · rw [if_neg (not_not.mpr isConnection), if_pos isConnection]
            refine Iff.trans ?_ (@StdioTunnel.connection_defined (r.toStdioTunnel.reading queue)
              calls.connect)
            cases (r.toStdioTunnel.reading queue).readShort with
            | error fault => exact defined_error
            | ok p => exact defined_bind_iff fun _ _ => defined_ok _
          · rw [if_pos isConnection, if_neg isConnection]
            exact iff_of_true (defined_exception _) rfl
      | INITIAL | SET_STDIO_READ | SHUT_DOWN => exact iff_of_true (defined_ok _) rfl

/--
Handling a frame returns or throws exactly when the queue has the fields its
command calls for.
-/
theorem Endpoint.frame_defined_iff (e : Endpoint) (calls : Calls) :
    Defined (e.processFrame calls) ↔ e.holds calls e.tunnel.m_read_stream.m_queue = true := by
  cases e with
  | localEnd l =>
      change Defined ((l.processFrame calls).map localEnd) ↔ _
      rw [defined_map]
      exact l.processFrame_defined calls
  | remoteEnd r =>
      change Defined ((r.processFrame calls).map remoteEnd) ↔ _
      rw [defined_map]
      exact r.processFrame_defined calls

def faultOf : Except Fault α → Option Fault
  | .ok _ => none
  | .error fault => some fault

theorem faultOf_eq_some {x : Except Fault α} {fault : Fault} (same : faultOf x = some fault) :
    x = .error fault := by
  cases x with
  | ok a => cases same
  | error other => rw [Option.some.inj same]

/-- A frame of one byte takes the remote endpoint past the end of the queue. -/
theorem Endpoint.not_frame_defined :
    ¬ ∀ (e e' : Endpoint) (events : List Event) (poll_struct : Pollfd) (calls : Calls),
      e.Started → Run Endpoint.Step e events e' → poll_struct.fd = e'.readFd →
      poll_struct.revents = POLLIN → Defined (e'.dispatch ⟨.stdioTunnel, poll_struct, calls⟩) := by
  intro always
  let calls : Calls := { header := .ok (frameHeader 1), body := .ok [0] }
  have overRead : faultOf ((remoteEnd .waiting).dispatch
      ⟨.stdioTunnel, ⟨STDIN_FD, POLLIN, POLLIN⟩, calls⟩) =
      some (.undefinedBehaviour "front of an empty queue") := by decide +kernel
  exact always _ _ [] _ calls (.remoteEnd StdioTunnelRemote.waiting_starts) .nil rfl rfl _
    (faultOf_eq_some overRead)

end Tun01
