import Tun01.Workers.Request

/-!
# What a request asks for

The conditions of a request are about the bytes received alone: what lies
behind them in the array makes no difference.
-/

namespace Tun01

open Access ErrorCode

def Network.dial (net : Network) (host : List Byte) (port : Nat) : Int :=
  match net.resolve host port with
  | none => EC_GENERAL_FAILURE.returned
  | some remote => connectRemote net remote

namespace Request

/-! ## The bytes received -/

section Received

variable {buf : List Byte} {n : Nat}

theorem getD_take {i : Nat} (inside : i < n) : (buf.take n).getD i 0 = buf.getD i 0 := by
  rw [List.getD_eq_getElem?_getD, List.getD_eq_getElem?_getD, List.getElem?_take, if_pos inside]

theorem take_drop_take {start count : Nat} (inside : start + count ≤ n) :
    ((buf.take n).drop start).take count = (buf.drop start).take count := by
  rw [List.drop_take, List.take_take, Nat.min_eq_left (by omega)]

theorem minlen_take (long : 5 ≤ n) : minlen (buf.take n) = minlen buf := by
  unfold minlen
  rw [getD_take (by omega), getD_take (by omega)]

theorem host_take (net : Network) (long : 5 ≤ n) (whole : minlen buf ≤ n) :
    host net (buf.take n) = host net buf := by
  unfold minlen at whole
  unfold host
  rw [getD_take (by omega), getD_take (by omega)]
  split at whole
  · rename_i ipv6
    rw [if_pos ipv6, if_pos ipv6, take_drop_take (by omega)]
  · rename_i noIpv6
    rw [if_neg noIpv6, if_neg noIpv6]
    split at whole
    · rename_i ipv4
      rw [if_pos ipv4, if_pos ipv4, take_drop_take (by omega)]
    · rename_i noIpv4
      rw [if_neg noIpv4, if_neg noIpv4, take_drop_take (by omega)]

theorem minlen_ge (msg : List Byte) : 7 ≤ minlen msg := by
  unfold minlen
  split
  · omega
  · split
    · omega
    · omega

theorem port_take (long : 5 ≤ n) (whole : minlen buf ≤ n) : port (buf.take n) = port buf := by
  have least := minlen_ge buf
  unfold port
  rw [minlen_take long, getD_take (by omega), getD_take (by omega)]

end Received

/-- The code of the first condition of a list that does not hold. -/
theorem first_cons (holds : Prop) [Decidable holds] (code : ErrorCode)
    (rest : List (Bool × ErrorCode)) :
    (((decide holds, code) :: rest).find? fun condition => !condition.1).map Prod.snd =
      if holds then (rest.find? fun condition => !condition.1).map Prod.snd else some code := by
  by_cases here : holds
  · rw [if_pos here, List.find?_cons_of_neg (by simp [here])]
  · rw [if_neg here, List.find?_cons_of_pos (by simp [here])]
    rfl

theorem violated_eq (msg : List Byte) : violated msg =
    if 5 ≤ msg.length then
      if msg.getD 0 0 = 5 then
        if msg.getD 1 0 = 1 then
          if msg.getD 2 0 = 0 then
            if msg.getD 3 0 = 1 ∨ msg.getD 3 0 = 3 ∨ msg.getD 3 0 = 4 then
              if minlen msg ≤ msg.length then none else some EC_GENERAL_FAILURE
            else some EC_ADDRESSTYPE_NOT_SUPPORTED
          else some EC_GENERAL_FAILURE
        else some EC_COMMAND_NOT_SUPPORTED
      else some EC_GENERAL_FAILURE
    else some EC_GENERAL_FAILURE := by
  unfold violated conditions
  simp only [first_cons, List.find?_nil, Option.map_none]

/-- A request all of whose conditions hold. -/
structure WellFormed (msg : List Byte) : Prop where
  long : 5 ≤ msg.length
  version : msg.getD 0 0 = 5
  command : msg.getD 1 0 = 1
  reserved : msg.getD 2 0 = 0
  type : msg.getD 3 0 = 1 ∨ msg.getD 3 0 = 3 ∨ msg.getD 3 0 = 4
  whole : minlen msg ≤ msg.length

theorem violated_eq_none_iff (msg : List Byte) : violated msg = none ↔ WellFormed msg := by
  constructor
  · intro none
    unfold violated at none
    have holds := List.find?_eq_none.mp (Option.map_eq_none_iff.mp none)
    simp only [conditions, List.forall_mem_cons, Bool.not_eq_true', decide_eq_false_iff_not,
      not_not] at holds
    obtain ⟨long, version, command, reserved, type, whole, _⟩ := holds
    exact ⟨long, version, command, reserved, type, whole⟩
  · rintro ⟨long, version, command, reserved, type, whole⟩
    rw [violated_eq, if_pos long, if_pos version, if_pos command, if_pos reserved, if_pos type,
      if_pos whole]

theorem host_name {net : Network} {msg : List Byte} (named : msg.getD 3 0 = 3)
    (whole : 0 ∉ (msg.drop 5).take (msg.getD 4 0).toNat) :
    host net msg = (msg.drop 5).take (msg.getD 4 0).toNat := by
  unfold host
  rw [named, if_neg (by decide), if_neg (by decide)]
  exact cString_of_not_mem whole

/-! ## The function on a message -/

/-- What `connect_socks_target` returns for a message. -/
def answer (net : Network) (msg : List Byte) : Int :=
  match violated msg with
  | some code => code.returned
  | none => net.dial (host net msg) (port msg)

/-- The calls of `resolve` for a message. -/
def lookups (net : Network) (msg : List Byte) : List (List Byte × Nat) :=
  match violated msg with
  | some _ => []
  | none => [(host net msg, port msg)]

/-- A run that reads the message, stores to `namebuf`, and answers as the message asks. -/
structure Answers (net : Network) (n : Nat) (f : Frame) (ret : Int) (f' : Frame) : Prop where
  ret : ret = answer net (f.buf.take n)
  resolved : f'.resolved = f.resolved ++ lookups net (f.buf.take n)
  buf : f'.buf = f.buf
  bounded : f.Bounded n → f'.Bounded n

section Run

variable {net : Network} {n : Nat} {f g : Frame}

/-- A check that fails reads one byte more and does nothing else. -/
theorem answers_refused {code : ErrorCode} (refused : violated (f.buf.take n) = some code)
    (touches : f.Touches n g) : Answers net n f code.returned g := by
  constructor
  case ret =>
    unfold answer
    rw [refused]
  case resolved =>
    unfold lookups
    rw [refused, touches.resolved, List.append_nil]
  case buf => exact touches.buf
  case bounded => exact touches.bounded

theorem connectPort_run {minlen : Nat} : connectPort net minlen f =
    (net.dial (cString f.namebuf)
      ((f.buf.getD (minlen - 2) 0).toNat * 256 + (f.buf.getD (minlen - 1) 0).toNat),
      (Access.resolve net ((f.buf.getD (minlen - 2) 0).toNat * 256 +
        (f.buf.getD (minlen - 1) 0).toNat) (load (minlen - 1) (load (minlen - 2) f).2).2).2) := by
  unfold connectPort Network.dial
  rw [bind_run, bind_run, bind_run]
  change (match net.resolve (cString f.namebuf) ((f.buf.getD (minlen - 2) 0).toNat * 256 +
    (f.buf.getD (minlen - 1) 0).toNat) with | none => _ | some _ => _ : Access Int) _ = _
  cases net.resolve (cString f.namebuf) ((f.buf.getD (minlen - 2) 0).toNat * 256 +
    (f.buf.getD (minlen - 1) 0).toNat) <;> rfl

/-- A well-formed request reaches `resolve`. -/
theorem answers_target {minlen : Nat} (touches : f.Touches n g) (long : 5 ≤ n)
    (inside : n ≤ f.buf.length) (wellFormed : WellFormed (f.buf.take n))
    (named : cString g.namebuf = host net f.buf) (length : minlen = Request.minlen f.buf) :
    Answers net n f (connectPort net minlen g).1 (connectPort net minlen g).2 := by
  have none := (violated_eq_none_iff _).mpr wellFormed
  have whole := wellFormed.whole
  rw [minlen_take long, List.length_take, Nat.min_eq_left inside] at whole
  have least := minlen_ge f.buf
  have sameHost := @host_take f.buf n net long whole
  have samePort := @port_take f.buf n long whole
  have here : (g.buf.getD (minlen - 2) 0).toNat * 256 + (g.buf.getD (minlen - 1) 0).toNat =
      port f.buf := by
    rw [touches.buf, length]
    rfl
  rw [connectPort_run, here, named]
  constructor
  case ret =>
    unfold answer
    rw [none, sameHost, samePort]
  case resolved =>
    unfold lookups
    rw [none, sameHost, samePort]
    change g.resolved ++ [(cString g.namebuf, port f.buf)] = _
    rw [touches.resolved, named]
  case buf => exact touches.buf
  case bounded =>
    intro before
    have bounded := (touches.trans ((Frame.Touches.load (show minlen - 2 < n by omega)).trans
      (.load (show minlen - 1 < n by omega)))).bounded before
    exact ⟨bounded.reads, bounded.writes⟩

/-- The `switch` and what follows it, once the first three bytes are right. -/
theorem answers_addressed (textual : net.Textual) (inside : n ≤ f.buf.length) (long : 5 ≤ n)
    (room : f.namebuf.length = 256) (touches : f.Touches n g)
    (decides : violated (f.buf.take n) =
      if f.buf.getD 3 0 = 1 ∨ f.buf.getD 3 0 = 3 ∨ f.buf.getD 3 0 = 4 then
        if minlen f.buf ≤ n then none else some EC_GENERAL_FAILURE
      else some EC_ADDRESSTYPE_NOT_SUPPORTED) :
    Answers net n f (afterSwitch net (readAddress net n g).1 (readAddress net n g).2).1
      (afterSwitch net (readAddress net n g).1 (readAddress net n g).2).2 := by
  have same := touches.buf
  by_cases supported : f.buf.getD 3 0 = 1 ∨ f.buf.getD 3 0 = 3 ∨ f.buf.getD 3 0 = 4
  · rw [if_pos supported] at decides
    rw [← same] at supported
    by_cases whole : minlen f.buf ≤ n
    · rw [if_pos whole] at decides
      obtain ⟨h, run, reads, shown⟩ := readAddress_ok textual supported long (same ▸ whole)
        (same ▸ inside) (touches.namebuf.trans room)
      rw [run]
      rw [same] at shown
      exact answers_target (touches.trans reads) long inside
        ((violated_eq_none_iff _).mp decides) shown (congrArg minlen same)
    · rw [if_neg whole] at decides
      obtain ⟨h, run, reads⟩ := @readAddress_short net n g supported long
        (same ▸ Nat.not_le.mp whole)
      rw [run]
      exact answers_refused decides (touches.trans reads)
  · rw [if_neg supported] at decides
    rw [readAddress_unsupported (same ▸ supported)]
    exact answers_refused decides (touches.trans (.load (by omega)))

/-- `connect_socks_target` in terms of its message. -/
theorem connect_socks_target_answers (textual : net.Textual) (inside : n ≤ f.buf.length)
    (room : f.namebuf.length = 256) :
    Answers net n f (connect_socks_target net n f).1 (connect_socks_target net n f).2 := by
  have received : (f.buf.take n).length = n := by
    rw [List.length_take, Nat.min_eq_left inside]
  have decides := violated_eq (f.buf.take n)
  rw [received] at decides
  unfold connect_socks_target
  by_cases short : n < 5
  · rw [if_pos short]
    rw [if_neg (Nat.not_le.mpr short)] at decides
    exact answers_refused decides (.refl f)
  · have long := Nat.not_lt.mp short
    have first := @Frame.Touches.load n f 0 (by omega)
    have second := first.trans (@Frame.Touches.load n _ 1 (by omega))
    have third := second.trans (@Frame.Touches.load n _ 2 (by omega))
    rw [if_pos long, getD_take (by omega), getD_take (by omega), getD_take (by omega),
      getD_take (by omega), minlen_take long] at decides
    rw [if_neg short, bind_run, ite_run]
    by_cases version : f.buf.getD 0 0 = 5
    · rw [if_pos version] at decides
      rw [if_neg (show ¬ (load 0 f).1 ≠ 5 from not_not.mpr version), bind_run, ite_run]
      by_cases command : f.buf.getD 1 0 = 1
      · rw [if_pos command] at decides
        rw [if_neg (show ¬ (load 1 (load 0 f).2).1 ≠ 1 from not_not.mpr command), bind_run, ite_run]
        by_cases reserved : f.buf.getD 2 0 = 0
        · rw [if_pos reserved] at decides
          rw [if_neg (show ¬ (load 2 (load 1 (load 0 f).2).2).1 ≠ 0 from not_not.mpr reserved),
            bind_run]
          exact answers_addressed textual inside long room third decides
        · rw [if_neg reserved] at decides
          rw [if_pos (show (load 2 (load 1 (load 0 f).2).2).1 ≠ 0 from reserved)]
          exact answers_refused decides third
      · rw [if_neg command] at decides
        rw [if_pos (show (load 1 (load 0 f).2).1 ≠ 1 from command)]
        exact answers_refused decides second
    · rw [if_neg version] at decides
      rw [if_pos (show (load 0 f).1 ≠ 5 from version)]
      exact answers_refused decides first

end Run

/-! ## Every buffer -/

/-- The arrays when the function is entered; `namebuf` is not initialized. -/
def entered (buf namebuf : List Byte) : Frame := ⟨buf, namebuf, [], [], []⟩

/--
The message is read within its bounds and `namebuf` stored to within its own;
`resolve` is reached by the well-formed requests, with the host and the port
they name, and all others get the code of their first fault.
-/
structure Exact (net : Network) (n : Nat) (msg : List Byte) (ret : Int) (f : Frame) : Prop where
  bounded : f.Bounded n
  reaches : f.resolved ≠ [] ↔ WellFormed msg
  target : WellFormed msg →
    f.resolved = [(host net msg, port msg)] ∧ ret = net.dial (host net msg) (port msg)
  refused : ¬ WellFormed msg →
    f.resolved = [] ∧ ∃ code, violated msg = some code ∧ ret = code.returned
  /-- The host is the name sent, unless that has a zero byte. -/
  name : msg.getD 3 0 = 3 → 0 ∉ (msg.drop 5).take (msg.getD 4 0).toNat →
    host net msg = (msg.drop 5).take (msg.getD 4 0).toNat

theorem connect_socks_target_exact {net : Network} (textual : net.Textual) {buf namebuf : List Byte}
    (size : buf.length = 1024) (room : namebuf.length = 256) {n : Nat} (within : n ≤ 1024) :
    Exact net n (buf.take n) (connect_socks_target net n (entered buf namebuf)).1
      (connect_socks_target net n (entered buf namebuf)).2 := by
  have answers := @connect_socks_target_answers net n (entered buf namebuf) textual
    (Nat.le_trans within (Nat.le_of_eq size.symm)) room
  obtain ⟨ret, resolved, _, bounded⟩ := answers
  change _ = answer net (buf.take n) at ret
  change _ = [] ++ lookups net (buf.take n) at resolved
  rw [List.nil_append] at resolved
  unfold answer at ret
  unfold lookups at resolved
  have start : (entered buf namebuf).Bounded n :=
    ⟨fun _ member => absurd member List.not_mem_nil, fun _ member => absurd member List.not_mem_nil⟩
  have known := violated_eq_none_iff (buf.take n)
  cases fault : violated (buf.take n) with
  | none =>
      rw [fault] at ret resolved known
      have wellFormed := known.mp rfl
      constructor
      case bounded => exact bounded start
      case reaches =>
        rw [resolved]
        exact ⟨fun _ => wellFormed, fun _ => List.cons_ne_nil _ _⟩
      case target => exact fun _ => ⟨resolved, ret⟩
      case refused => exact fun faulty => absurd wellFormed faulty
      case name => exact host_name
  | some code =>
      rw [fault] at ret resolved known
      have faulty : ¬ WellFormed (buf.take n) := fun wellFormed => nomatch known.mpr wellFormed
      constructor
      case bounded => exact bounded start
      case reaches =>
        rw [resolved]
        exact ⟨fun none => absurd rfl none, fun wellFormed => absurd wellFormed faulty⟩
      case target => exact fun wellFormed => absurd wellFormed faulty
      case refused => exact fun _ => ⟨resolved, code, fault, ret⟩
      case name => exact host_name

/-! ## Addresses in text -/

def digit (k : Nat) : Byte := BitVec.ofNat 8 (if k < 10 then 48 + k else 87 + k)

def decimalDigits (k : Nat) : List Nat :=
  if k < 10 then [k] else if k < 100 then [k / 10, k % 10] else [k / 100, k / 10 % 10, k % 10]

def decimal (byte : Byte) : List Byte := (decimalDigits byte.toNat).map digit

def hexadecimal (byte : Byte) : List Byte := [byte.toNat / 16, byte.toNat % 16].map digit

def dotted : List Byte → List Byte
  | [] => []
  | [byte] => decimal byte
  | byte :: bytes => decimal byte ++ 46 :: dotted bytes

def groups : List Byte → List Byte
  | high :: low :: [] => hexadecimal high ++ hexadecimal low
  | high :: low :: bytes => hexadecimal high ++ hexadecimal low ++ 58 :: groups bytes
  | _ => []

/-- A network on which every name and every port answers. -/
def loopback : Network where
  inet_ntop
    | .AF_INET, addr => dotted addr
    | .AF_INET6, addr => groups addr
  resolve _ _ := some ⟨2, []⟩
  socket _ := .ok 9
  connect _ _ := .ok ()

theorem digit_ne_zero : ∀ k < 16, digit k ≠ 0 := by decide

theorem zero_not_mem_digits {ks : List Nat} (small : ∀ k ∈ ks, k < 16) : 0 ∉ ks.map digit := by
  intro member
  obtain ⟨k, inside, zero⟩ := List.mem_map.mp member
  exact digit_ne_zero k (small k inside) zero

theorem decimalDigits_small : ∀ k < 256,
    (decimalDigits k).length ≤ 3 ∧ ∀ d ∈ decimalDigits k, d < 16 := by decide +kernel

theorem decimal_textual (byte : Byte) : (decimal byte).length ≤ 3 ∧ 0 ∉ decimal byte := by
  obtain ⟨short, small⟩ := decimalDigits_small byte.toNat byte.isLt
  unfold decimal
  rw [List.length_map]
  exact ⟨short, zero_not_mem_digits small⟩

theorem hexadecimal_textual (byte : Byte) : 0 ∉ hexadecimal byte := by
  have bound := byte.isLt
  refine zero_not_mem_digits fun k member => ?_
  simp only [List.mem_cons, List.not_mem_nil, or_false] at member
  omega

theorem dotted_textual (bytes : List Byte) :
    (dotted bytes).length ≤ 4 * bytes.length ∧ 0 ∉ dotted bytes := by
  fun_induction dotted bytes with
  | case1 => simp
  | case2 byte =>
      obtain ⟨short, noZero⟩ := decimal_textual byte
      exact ⟨by simp only [List.length_singleton]; omega, noZero⟩
  | case3 byte bytes _ ih =>
      obtain ⟨short, noZero⟩ := decimal_textual byte
      obtain ⟨rest, noZero'⟩ := ih
      constructor
      · simp only [List.length_append, List.length_cons] at rest ⊢
        omega
      · exact fun member => (List.mem_append.mp member).elim noZero fun later =>
          noZero' (List.mem_of_ne_of_mem (by decide) later)

theorem groups_textual (bytes : List Byte) :
    2 * (groups bytes).length ≤ 5 * bytes.length ∧ 0 ∉ groups bytes := by
  fun_induction groups bytes with
  | case1 high low =>
      have noZero := hexadecimal_textual high
      have noZero' := hexadecimal_textual low
      exact ⟨show 2 * 4 ≤ 5 * 2 by decide, fun member =>
        (List.mem_append.mp member).elim noZero noZero'⟩
  | case2 high low bytes _ ih =>
      have noZero := hexadecimal_textual high
      have noZero' := hexadecimal_textual low
      obtain ⟨rest, noZero''⟩ := ih
      constructor
      · have two : ∀ byte, (hexadecimal byte).length = 2 := fun _ => rfl
        simp only [List.length_append, List.length_cons, two] at rest ⊢
        omega
      · intro member
        rcases List.mem_append.mp member with here | later
        · exact (List.mem_append.mp here).elim noZero noZero'
        · exact noZero'' (List.mem_of_ne_of_mem (by decide) later)
  | case3 => exact ⟨Nat.zero_le _, List.not_mem_nil⟩

theorem loopback_textual : loopback.Textual := by
  intro af addr size
  cases af with
  | AF_INET =>
      obtain ⟨short, noZero⟩ := dotted_textual addr
      change (dotted addr).length < 46 ∧ 0 ∉ dotted addr
      rw [size] at short
      exact ⟨Nat.lt_of_le_of_lt short (by decide), noZero⟩
  | AF_INET6 =>
      obtain ⟨short, noZero⟩ := groups_textual addr
      change (groups addr).length < 46 ∧ 0 ∉ groups addr
      rw [size] at short
      change 2 * (groups addr).length ≤ 5 * 16 at short
      exact ⟨by omega, noZero⟩

def requested : List Byte := [5, 1, 0, 1, 127, 0, 0, 1, 0, 80] ++ List.replicate 1014 7

theorem connect_socks_target_exact_ipv4 : Exact loopback 10 (requested.take 10)
    (connect_socks_target loopback 10 (entered requested (List.replicate 256 0))).1
    (connect_socks_target loopback 10 (entered requested (List.replicate 256 0))).2 := by
  refine connect_socks_target_exact loopback_textual ?_ List.length_replicate (by decide)
  rw [requested, List.length_append, List.length_replicate]
  rfl

example : (connect_socks_target loopback 10
    (entered requested (List.replicate 256 0))).2.resolved = [(text "127.0.0.1", 80)] := by
  decide +kernel

end Request

end Tun01
