import Tun01.Workers.Parsing

/-!
# The socks5 dialogue

`socks5_handshake` takes what one `recv` brings for one message.  RFC 1928 is
about the stream of the client's bytes, however it is cut.
-/

namespace Tun01

open ErrorCode Request

/-- What one `recv` of `sizeof buf` bytes brings. -/
structure Piece where
  bytes : List Byte
  nonempty : bytes ≠ []
  fits : bytes.length ≤ 1024

def stream (pieces : List Piece) : List Byte := (pieces.map Piece.bytes).flatten

/-- What a handshake does, and what it leaves. -/
structure Dialogue where
  replies : List (List Byte)
  /-- the target, once it is known -/
  resolved : List (List Byte × Nat)
  /-- the descriptor of the target, or `-1` -/
  ret : Int
  /-- the client's bytes for `copyloop` to forward -/
  left : List Byte

/-- `enum socksstate` -/
inductive SocksState where
  | SS_1_CONNECTED
  | SS_2_NEED_AUTH
  | SS_3_AUTHED
  deriving DecidableEq, Repr

namespace Dialogue

/-- `return -1`, with nothing more written. -/
def ended : Dialogue := ⟨[], [], -1, []⟩

def after (bytes : List Byte) (d : Dialogue) : Dialogue := { d with replies := bytes :: d.replies }

/-- The last reply, for a return value of `connect_socks_target`. -/
def response (ret : Int) : List Byte :=
  [5, if ret < 0 then BitVec.ofInt 8 (ret * -1) else 0, 0, 1, 0, 0, 0, 0, 0, 0]

def conclude (writes : Nat → SysResult Nat) (resolved : List (List Byte × Nat)) (ret : Int)
    (reply : List Byte) (left : List Byte) : Dialogue :=
  if writes 10 = .ok 10 ∧ 0 ≤ ret then ⟨[reply], resolved, ret, left⟩
  else ⟨[reply], resolved, -1, []⟩

end Dialogue

open Dialogue

/-! ## The code -/

/-- The loop of `socks5_handshake`; `writes` is what a `write` of a reply returns. -/
def handshakeLoop (net : Network) (writes : Nat → SysResult Nat) (namebuf : List Byte) :
    SocksState → List Byte → List Piece → Dialogue
  | _, _, [] => ended
  | .SS_1_CONNECTED, buf, piece :: pieces =>
      let buf := overwrite (overwrite buf 0 piece.bytes) 0 [5, 0]
      after (buf.take 2) (if writes 2 = .ok 2 then
        handshakeLoop net writes namebuf .SS_3_AUTHED buf pieces else ended)
  | .SS_2_NEED_AUTH, buf, piece :: pieces =>
      let buf := overwrite (overwrite buf 0 piece.bytes) 0 [1, 0]
      after (buf.take 2) (if writes 2 = .ok 2 then
        handshakeLoop net writes namebuf .SS_3_AUTHED buf pieces else ended)
  | .SS_3_AUTHED, buf, piece :: pieces =>
      let (ret, frame) := connect_socks_target net piece.bytes.length
        (entered (overwrite buf 0 piece.bytes) namebuf)
      let buf := overwrite frame.buf 0 (response ret)
      conclude writes frame.resolved ret (buf.take 10) (stream pieces)

/-- `socks5_handshake`, with what lies on the stack before. -/
def socks5_handshake (net : Network) (writes : Nat → SysResult Nat) (buf namebuf : List Byte)
    (pieces : List Piece) : Dialogue :=
  handshakeLoop net writes namebuf .SS_1_CONNECTED buf pieces

/-! ## RFC 1928 -/

/-- The greeting of a stream. -/
inductive Greeting where
  /-- of another version, or not yet whole -/
  | unanswered
  | noMethod
  | accepted (rest : List Byte)

def greeting : List Byte → Greeting
  | version :: nmethods :: bytes =>
      if version ≠ 5 ∨ bytes.length < nmethods.toNat then .unanswered
      else if (bytes.take nmethods.toNat).any fun method => decide (method = 0) then
        .accepted (bytes.drop nmethods.toNat)
      else .noMethod
  | _ => .unanswered

/-- What a stream asks for after the greeting. -/
inductive Asks where
  | incomplete
  | refused (code : ErrorCode)
  | target (host : List Byte) (port : Nat) (rest : List Byte)

def asks (net : Network) (bytes : List Byte) : Asks :=
  if bytes.length < 4 then .incomplete
  else if bytes.getD 0 0 ≠ 5 then .refused EC_GENERAL_FAILURE
  else if bytes.getD 1 0 ≠ 1 then .refused EC_COMMAND_NOT_SUPPORTED
  else if bytes.getD 2 0 ≠ 0 then .refused EC_GENERAL_FAILURE
  else if ¬ (bytes.getD 3 0 = 1 ∨ bytes.getD 3 0 = 3 ∨ bytes.getD 3 0 = 4) then
    .refused EC_ADDRESSTYPE_NOT_SUPPORTED
  else if bytes.length < minlen bytes then .incomplete
  else .target (host net bytes) (port bytes) (bytes.drop (minlen bytes))

/-- The dialogue after the greeting. -/
def rfcRequest (net : Network) (writes : Nat → SysResult Nat) (bytes : List Byte) : Dialogue :=
  match asks net bytes with
  | .incomplete => ended
  | .refused code => conclude writes [] code.returned (response code.returned) []
  | .target host port rest =>
      conclude writes [(host, port)] (net.dial host port) (response (net.dial host port)) rest

/-- The dialogue with a client that sends this stream. -/
def rfc1928 (net : Network) (writes : Nat → SysResult Nat) (bytes : List Byte) : Dialogue :=
  match greeting bytes with
  | .unanswered => ended
  | .noMethod => after [5, 255] ended
  | .accepted rest =>
      after [5, 0] (if writes 2 = .ok 2 then rfcRequest net writes rest else ended)

/--
The second piece, for itself, is refused like the stream after the greeting, or
names the same target; a target that can be connected to is the whole piece.
-/
def SameRequest (net : Network) (writes : Nat → SysResult Nat) (rest : List Byte) (second : Piece)
    (later : List Piece) : Prop :=
  match asks net rest with
  | .incomplete => False
  | .refused code => violated second.bytes = some code
  | .target name number behind =>
      WellFormed second.bytes ∧ host net second.bytes = name ∧ port second.bytes = number ∧
        (writes 10 = .ok 10 → 0 ≤ net.dial name number → behind = stream later)

/--
The greeting is acceptable, and the request either is not there whole when the
first piece is all there is, or is what the second piece says.
-/
def Aligned (net : Network) (writes : Nat → SysResult Nat) : List Piece → Prop
  | [] => True
  | first :: pieces => ∃ rest, greeting (stream (first :: pieces)) = .accepted rest ∧
      (writes 2 = .ok 2 →
        match pieces with
        | [] => asks net rest = .incomplete
        | second :: later => SameRequest net writes rest second later)

/-! ## What the code does -/

section Code

variable {net : Network} {writes : Nat → SysResult Nat} {buf namebuf : List Byte}

/-- A message in the array of the handshake, over what was there. -/
theorem take_received (piece : Piece) (size : buf.length = 1024) :
    (overwrite buf 0 piece.bytes).take piece.bytes.length = piece.bytes := by
  rw [overwrite_zero (size ▸ piece.fits), List.take_left]

theorem received_length (piece : Piece) (size : buf.length = 1024) :
    (overwrite buf 0 piece.bytes).length = 1024 := by
  rw [overwrite_length (Nat.zero_le _), size]

/-- A reply is written from the start of the array. -/
theorem take_reply {bytes : List Byte} (room : bytes.length ≤ buf.length) :
    (overwrite buf 0 bytes).take bytes.length = bytes := by
  rw [overwrite_zero room, List.take_left]

/-- The second message decides. -/
theorem handshakeLoop_authed (textual : net.Textual) (size : buf.length = 1024)
    (room : namebuf.length = 256) (piece : Piece) (pieces : List Piece) :
    handshakeLoop net writes namebuf .SS_3_AUTHED buf (piece :: pieces) =
      conclude writes (lookups net piece.bytes) (answer net piece.bytes)
        (response (answer net piece.bytes)) (stream pieces) := by
  have length := received_length piece size
  have answers := @connect_socks_target_answers net piece.bytes.length
    (entered (overwrite buf 0 piece.bytes) namebuf) textual (length ▸ piece.fits) room
  unfold handshakeLoop
  revert answers
  cases connect_socks_target net piece.bytes.length (entered (overwrite buf 0 piece.bytes) namebuf) with
  | mk ret frame =>
      rintro ⟨same, resolved, kept, _⟩
      change ret = answer net ((overwrite buf 0 piece.bytes).take piece.bytes.length) at same
      change frame.resolved =
        [] ++ lookups net ((overwrite buf 0 piece.bytes).take piece.bytes.length) at resolved
      change frame.buf = overwrite buf 0 piece.bytes at kept
      rw [take_received piece size] at same resolved
      have reply := @take_reply frame.buf (response ret)
        (show 10 ≤ frame.buf.length by rw [kept, length]; decide)
      change (overwrite frame.buf 0 (response ret)).take 10 = response ret at reply
      dsimp only
      rw [reply, resolved, same, List.nil_append]

/-- The first message is answered without being read. -/
theorem socks5_handshake_cons (textual : net.Textual) (size : buf.length = 1024)
    (room : namebuf.length = 256) (first : Piece) (pieces : List Piece) :
    socks5_handshake net writes buf namebuf (first :: pieces) =
      after [5, 0] (if writes 2 = .ok 2 then
        match pieces with
        | [] => ended
        | second :: later => conclude writes (lookups net second.bytes) (answer net second.bytes)
            (response (answer net second.bytes)) (stream later)
      else ended) := by
  have length := received_length first size
  have reply := @take_reply (overwrite buf 0 first.bytes) [5, 0]
    (show 2 ≤ (overwrite buf 0 first.bytes).length by rw [length]; decide)
  change (overwrite (overwrite buf 0 first.bytes) 0 [5, 0]).take 2 = [5, 0] at reply
  have length' : (overwrite (overwrite buf 0 first.bytes) 0 [5, 0]).length = 1024 := by
    rw [overwrite_length (Nat.zero_le _), length]
  unfold socks5_handshake handshakeLoop
  dsimp only
  rw [reply]
  cases pieces with
  | nil => rfl
  | cons second later =>
      rw [handshakeLoop_authed textual length' room]

end Code

theorem after_inj {bytes bytes' : List Byte} {d d' : Dialogue} :
    after bytes d = after bytes' d' ↔ bytes = bytes' ∧ d = d' := by
  constructor
  · intro same
    obtain ⟨replies, resolved, ret, left⟩ := d
    obtain ⟨replies', resolved', ret', left'⟩ := d'
    simp only [after, Dialogue.mk.injEq, List.cons.injEq] at same ⊢
    obtain ⟨⟨reply, replies⟩, rest⟩ := same
    exact ⟨reply, replies, rest⟩
  · rintro ⟨rfl, rfl⟩
    rfl

theorem conclude_replies {writes : Nat → SysResult Nat} {resolved : List (List Byte × Nat)}
    {ret : Int} {reply left : List Byte} :
    (conclude writes resolved ret reply left).replies = [reply] := by
  unfold conclude
  split <;> rfl

theorem conclude_resolved {writes : Nat → SysResult Nat} {resolved : List (List Byte × Nat)}
    {ret : Int} {reply left : List Byte} :
    (conclude writes resolved ret reply left).resolved = resolved := by
  unfold conclude
  split <;> rfl

theorem conclude_ne_ended {writes : Nat → SysResult Nat} {resolved : List (List Byte × Nat)}
    {ret : Int} {reply left : List Byte} : conclude writes resolved ret reply left ≠ ended := by
  intro same
  have replies := congrArg Dialogue.replies same
  rw [conclude_replies] at replies
  cases replies

theorem conclude_left_iff {writes : Nat → SysResult Nat} {resolved : List (List Byte × Nat)}
    {ret : Int} {reply left left' : List Byte} :
    conclude writes resolved ret reply left = conclude writes resolved ret reply left' ↔
      (writes 10 = .ok 10 → 0 ≤ ret → left = left') := by
  unfold conclude
  by_cases connected : writes 10 = .ok 10 ∧ 0 ≤ ret
  · rw [if_pos connected, if_pos connected]
    constructor
    · exact fun same _ _ => congrArg Dialogue.left same
    · intro same
      rw [same connected.1 connected.2]
  · rw [if_neg connected, if_neg connected]
    exact ⟨fun _ taken positive => absurd ⟨taken, positive⟩ connected, fun _ => rfl⟩

theorem response_code_inj : ∀ {code code' : ErrorCode},
    response code.returned = response code'.returned → code = code' := by
  intro code code' same
  cases code <;> cases code' <;> first | rfl | exact absurd same (by decide)

theorem violated_negative {msg : List Byte} {code : ErrorCode} (refused : violated msg = some code) :
    code.returned < 0 := by
  rw [violated_eq] at refused
  repeat' split at refused
  all_goals cases refused
  all_goals decide

/-! ## The iff -/

section Compare

variable {net : Network} {writes : Nat → SysResult Nat}

/-- After the greeting, the second piece does as the stream asks exactly when it says the same. -/
theorem conclude_eq_rfcRequest_iff (rest : List Byte) (second : Piece) (later : List Piece) :
    conclude writes (lookups net second.bytes) (answer net second.bytes)
        (response (answer net second.bytes)) (stream later) = rfcRequest net writes rest ↔
      SameRequest net writes rest second later := by
  have wellFormed := violated_eq_none_iff second.bytes
  unfold rfcRequest SameRequest lookups answer
  cases asked : asks net rest with
  | incomplete => exact ⟨fun same => conclude_ne_ended same, False.elim⟩
  | refused code =>
      cases fault : violated second.bytes with
      | none =>
          refine ⟨fun same => ?_, fun same => nomatch same⟩
          have resolved := congrArg Dialogue.resolved same
          rw [conclude_resolved, conclude_resolved] at resolved
          cases resolved
      | some code' =>
          dsimp only
          constructor
          · intro same
            have replies := congrArg Dialogue.replies same
            rw [conclude_replies, conclude_replies] at replies
            rw [response_code_inj (List.cons.inj replies).1]
          · intro same
            have negative := violated_negative fault
            rw [Option.some.inj same] at negative ⊢
            refine conclude_left_iff.mpr fun _ positive => ?_
            omega
  | target name number behind =>
      cases fault : violated second.bytes with
      | some code =>
          rw [fault] at wellFormed
          refine ⟨fun same => ?_, fun same => nomatch wellFormed.mpr same.1⟩
          have resolved := congrArg Dialogue.resolved same
          rw [conclude_resolved, conclude_resolved] at resolved
          cases resolved
      | none =>
          dsimp only
          constructor
          · intro same
            have resolved := congrArg Dialogue.resolved same
            rw [conclude_resolved, conclude_resolved] at resolved
            obtain ⟨sameHost, samePort⟩ := Prod.mk.inj (List.cons.inj resolved).1
            rw [sameHost, samePort] at same
            refine ⟨wellFormed.mp fault, sameHost, samePort, fun taken connected => ?_⟩
            exact (conclude_left_iff.mp same taken connected).symm
          · rintro ⟨_, sameHost, samePort, sameRest⟩
            rw [sameHost, samePort]
            exact conclude_left_iff.mpr fun taken connected => (sameRest taken connected).symm

theorem ended_eq_rfcRequest_iff (rest : List Byte) :
    ended = rfcRequest net writes rest ↔ asks net rest = .incomplete := by
  unfold rfcRequest
  cases asks net rest with
  | incomplete => exact ⟨fun _ => rfl, fun _ => rfl⟩
  | refused code => exact ⟨fun same => absurd same.symm conclude_ne_ended, fun same => nomatch same⟩
  | target name number behind =>
      exact ⟨fun same => absurd same.symm conclude_ne_ended, fun same => nomatch same⟩

/--
The dialogue is that of RFC 1928 for the stream exactly when the first two
pieces are the messages.
-/
theorem socks5_handshake_segmented_iff (textual : net.Textual) {buf namebuf : List Byte}
    (size : buf.length = 1024) (room : namebuf.length = 256) (pieces : List Piece) :
    socks5_handshake net writes buf namebuf pieces = rfc1928 net writes (stream pieces) ↔
      Aligned net writes pieces := by
  cases pieces with
  | nil => exact ⟨fun _ => trivial, fun _ => rfl⟩
  | cons first pieces =>
      rw [socks5_handshake_cons textual size room]
      unfold rfc1928 Aligned
      cases answered : greeting (stream (first :: pieces)) with
      | unanswered =>
          refine ⟨fun same => ?_, fun ⟨_, same, _⟩ => nomatch answered.symm.trans same⟩
          cases congrArg Dialogue.replies same
      | noMethod =>
          refine ⟨fun same => ?_, fun ⟨_, same, _⟩ => nomatch answered.symm.trans same⟩
          exact absurd (after_inj.mp same).1 (by decide)
      | accepted rest =>
          dsimp only
          rw [after_inj]
          by_cases taken : writes 2 = .ok 2
          · rw [if_pos taken, if_pos taken]
            cases pieces with
            | nil =>
                rw [ended_eq_rfcRequest_iff]
                constructor
                · exact fun same => ⟨rest, answered, fun _ => same.2⟩
                · rintro ⟨_, same, incomplete⟩
                  rw [Greeting.accepted.inj (answered.symm.trans same)]
                  exact ⟨rfl, incomplete taken⟩
            | cons second later =>
                rw [conclude_eq_rfcRequest_iff]
                constructor
                · exact fun same => ⟨rest, answered, fun _ => same.2⟩
                · rintro ⟨_, same, sameRequest⟩
                  rw [Greeting.accepted.inj (answered.symm.trans same)]
                  exact ⟨rfl, sameRequest taken⟩
          · rw [if_neg taken, if_neg taken]
            exact ⟨fun _ => ⟨rest, answered, fun accepts => absurd accepts taken⟩, fun _ => ⟨rfl, rfl⟩⟩

end Compare

def greets : Piece := ⟨[5, 1, 0], by decide, by decide⟩

def requests : Piece := ⟨[5, 1, 0, 1, 127, 0, 0, 1, 0, 80], by decide, by decide⟩

def together : Piece := ⟨greets.bytes ++ requests.bytes, by decide, by decide⟩

def takesAll (count : Nat) : SysResult Nat := .ok count

/-- One piece for each message gives the dialogue of the stream. -/
theorem socks5_handshake_segmented_apart :
    socks5_handshake loopback takesAll (List.replicate 1024 0) (List.replicate 256 0)
      [greets, requests] = rfc1928 loopback takesAll (stream [greets, requests]) :=
  (socks5_handshake_segmented_iff loopback_textual List.length_replicate List.length_replicate
    [greets, requests]).mpr ⟨requests.bytes, rfl, fun _ =>
      ⟨(violated_eq_none_iff _).mp (by decide), rfl, rfl, fun _ _ => rfl⟩⟩

/-- A request that comes together with the greeting is never answered. -/
theorem not_socks5_handshake_segmented : ¬ ∀ pieces : List Piece,
    socks5_handshake loopback takesAll (List.replicate 1024 0) (List.replicate 256 0) pieces =
      rfc1928 loopback takesAll (stream pieces) := by
  intro same
  have replies := congrArg (fun d : Dialogue => d.replies.length) (same [together])
  revert replies
  decide +kernel

end Tun01
