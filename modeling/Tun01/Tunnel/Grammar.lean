import Mathlib.Data.Nat.Digits.Defs
import Tun01.Tunnel.ConnectionSpec

/-!
# The grammar of a connection argument

The manual gives an argument three or four fields between colons.  This module
states that grammar and compares `parseConnection` with it.
-/

namespace Tun01

/-! ## Fields -/

section Fields

variable {separator : Byte} {field rest input : List Byte} {fields : List (List Byte)}

theorem splitAt_ne_nil (separator : Byte) (input : List Byte) : splitAt separator input ≠ [] := by
  cases input with
  | nil => exact List.cons_ne_nil _ _
  | cons c rest =>
      unfold splitAt
      split
      · exact List.cons_ne_nil _ _
      · split <;> exact List.cons_ne_nil _ _

/-- A byte that is no separator extends the first field. -/
theorem splitAt_cons {c : Byte} (other : c ≠ separator)
    (later : splitAt separator rest = field :: fields) :
    splitAt separator (c :: rest) = (c :: field) :: fields := by
  rw [splitAt, if_neg other, later]

/-- A text without separator is one field. -/
theorem splitAt_clean (clean : separator ∉ field) : splitAt separator field = [field] := by
  induction field with
  | nil => rfl
  | cons c field ih =>
      obtain ⟨other, clean⟩ := List.ne_and_not_mem_of_not_mem_cons clean
      exact splitAt_cons (Ne.symm other) (ih clean)

theorem splitAt_append (clean : separator ∉ field) :
    splitAt separator (field ++ separator :: rest) = field :: splitAt separator rest := by
  induction field with
  | nil => rw [List.nil_append, splitAt, if_pos rfl]
  | cons c field ih =>
      obtain ⟨other, clean⟩ := List.ne_and_not_mem_of_not_mem_cons clean
      exact splitAt_cons (Ne.symm other) (ih clean)

/-- The first field of a text, and what follows its separator. -/
theorem of_splitAt (split : splitAt separator input = field :: fields) :
    separator ∉ field ∧ (fields = [] ∧ input = field ∨
      ∃ rest, input = field ++ separator :: rest ∧ splitAt separator rest = fields) := by
  induction input generalizing field with
  | nil =>
      obtain ⟨rfl, rfl⟩ := List.cons.inj split
      exact ⟨List.not_mem_nil, Or.inl ⟨rfl, rfl⟩⟩
  | cons c input ih =>
      by_cases separates : c = separator
      · rw [splitAt, if_pos separates] at split
        obtain ⟨rfl, rfl⟩ := List.cons.inj split
        exact ⟨List.not_mem_nil, Or.inr ⟨input, by rw [separates, List.nil_append], rfl⟩⟩
      · obtain ⟨first, others, later⟩ := List.exists_cons_of_ne_nil (splitAt_ne_nil separator input)
        rw [splitAt_cons separates later] at split
        obtain ⟨rfl, rfl⟩ := List.cons.inj split
        obtain ⟨clean, whole | ⟨rest, parts, more⟩⟩ := ih later
        · exact ⟨List.not_mem_cons_of_ne_of_not_mem (Ne.symm separates) clean,
            Or.inl ⟨whole.1, by rw [whole.2]⟩⟩
        · exact ⟨List.not_mem_cons_of_ne_of_not_mem (Ne.symm separates) clean,
            Or.inr ⟨rest, by rw [parts, List.cons_append], more⟩⟩

theorem of_splitAt_single (split : splitAt separator input = [field]) :
    separator ∉ field ∧ input = field := by
  obtain ⟨clean, whole | ⟨rest, _, none⟩⟩ := of_splitAt split
  · exact ⟨clean, whole.2⟩
  · exact absurd none (splitAt_ne_nil separator rest)

theorem of_splitAt_cons {second : List Byte}
    (split : splitAt separator input = field :: second :: fields) :
    separator ∉ field ∧
      ∃ rest, input = field ++ separator :: rest ∧ splitAt separator rest = second :: fields := by
  obtain ⟨clean, ⟨none, _⟩ | more⟩ := of_splitAt split
  · cases none
  · exact ⟨clean, more⟩

/-- When the last field is not empty, `getline` returns every field. -/
theorem getlines_of_last (last : (splitAt separator input).getLast? ≠ some []) :
    getlines separator input = splitAt separator input := by
  unfold getlines
  rw [if_neg last]

theorem getlines_of_empty (last : (splitAt separator input).getLast? = some []) :
    getlines separator input = (splitAt separator input).dropLast := by
  unfold getlines
  rw [if_pos last]

end Fields

/-- A decimal number: digits only, and at least one. -/
structure Numeral (field : List Byte) (n : Nat) : Prop where
  nonempty : field ≠ []
  digits : ∀ c ∈ field, isDigit c = true
  value : Nat.ofDigits 10 (field.reverse.map fun c => c.toNat - 48) = n

theorem digitsValue_digits {field : List Byte} (digits : ∀ c ∈ field, isDigit c = true)
    (value : Nat) : digitsValue value field =
      value * 10 ^ field.length + Nat.ofDigits 10 (field.reverse.map fun c => c.toNat - 48) := by
  induction field generalizing value with
  | nil => simp [digitsValue]
  | cons c field ih =>
      rw [digitsValue, if_pos (digits c List.mem_cons_self),
        ih fun d member => digits d (List.mem_cons_of_mem _ member)]
      simp only [List.reverse_cons, List.map_append, List.map_cons, List.map_nil,
        Nat.ofDigits_append, Nat.ofDigits_singleton, List.length_map, List.length_reverse,
        List.length_cons, Nat.pow_succ]
      ring

/-- `atoi` reads a decimal number that an `int` can hold. -/
theorem atoi_numeral {field : List Byte} {n : Nat} (numeral : Numeral field n)
    (small : n < 2147483648) : atoi field = n := by
  obtain ⟨c, rest, rfl⟩ := List.exists_cons_of_ne_nil numeral.nonempty
  have digit := numeral.digits c List.mem_cons_self
  have value : digitsValue 0 (c :: rest) = n := by
    rw [digitsValue_digits numeral.digits, Nat.zero_mul, Nat.zero_add, numeral.value]
  simp only [isDigit, Bool.and_eq_true, decide_eq_true_eq] at digit
  have noSpace : isSpace c = false := by
    have wide : c ≠ 32 := by
      rintro rfl
      exact absurd digit.1 (by decide)
    simp only [isSpace, wide, decide_false, Bool.false_or, Bool.and_eq_false_iff,
      decide_eq_false_iff_not]
    omega
  have noMinus : c ≠ 45 := by
    rintro rfl
    exact absurd digit.1 (by decide)
  have noPlus : c ≠ 43 := by
    rintro rfl
    exact absurd digit.1 (by decide)
  have number : strtol (c :: rest) = n := by
    unfold strtol
    rw [List.dropWhile_cons_of_neg (by rw [noSpace]; exact Bool.false_ne_true)]
    dsimp only
    rw [if_neg noMinus, if_neg noPlus, value]
    omega
  rw [atoi, number, int32]
  omega

/-- The text is `listen:host:port`, or `listen:host:port:flags`. -/
structure Text (arg listen host port flags : List Byte) : Prop where
  fields : (flags = [] ∧ arg = listen ++ colon :: (host ++ colon :: port)) ∨
    arg = listen ++ colon :: (host ++ colon :: (port ++ colon :: flags))
  listen : colon ∉ listen
  host : colon ∉ host
  port : colon ∉ port
  flags : colon ∉ flags

/-- A host with its port, or neither of them for the socks5 server of the remote side. -/
inductive Target (direction : Direction) (host : List Byte) (connect_port : Nat) : Prop where
  | forward (named : host ≠ []) (lower : 1 ≤ connect_port) (upper : connect_port ≤ 65535)
  | socks5 (unnamed : host = []) (zero : connect_port = 0) (remote : direction = .CONNECT)

/-- The values of a specification. -/
structure Carries (spec : ConnectionSpec) (direction : Direction) (host : List Byte)
    (connect_port listen_port : Nat) (flags : List Byte) : Prop where
  m_connection_type : spec.m_connection_type = direction
  m_connect_host : spec.m_connect_host = host
  m_connect_port : spec.m_connect_port = connect_port
  m_listen_port : spec.m_listen_port = listen_port
  ackPackets : spec.ackPackets = decide ((97 : Byte) ∈ flags)
  promiscuous : spec.promiscuous = decide ((112 : Byte) ∈ flags)
  m_flags : spec.m_flags = 0 ∨ spec.m_flags = 1 ∨ spec.m_flags = 2 ∨ spec.m_flags = 3

/-- The documented meaning of a connection argument. -/
inductive Documented (direction : Direction) (arg : List Byte) (spec : ConnectionSpec) : Prop where
  | intro {listen host port flags : List Byte} {listen_port connect_port : Nat}
      (text : Text arg listen host port flags) (listening : Numeral listen listen_port)
      (lower : 1 ≤ listen_port) (upper : listen_port ≤ 65535)
      (connecting : Numeral port connect_port) (target : Target direction host connect_port)
      (carries : Carries spec direction host connect_port listen_port flags)

/-! ## What the parser lets through -/

/-- Field `i` as `getline` returns it. -/
def param (arg : List Byte) (i : Nat) : List Byte := (getlines colon arg).getD i []

/-- The checks of `parseConnection`. -/
structure Admitted (direction : Direction) (arg : List Byte) : Prop where
  count : (getlines colon arg).length = 3 ∨ (getlines colon arg).length = 4
  listen : 0 < atoi (param arg 0)
  connect : 0 ≤ atoi (param arg 2)
  socks5 : param arg 1 = [] → atoi (param arg 2) = 0 → direction = .CONNECT

/-- `m_flags` for the characters of the fourth field. -/
def flagBits (flags : List Byte) : Int :=
  let bits : Int := if flags.contains 97 then Int.lor 0 1 else 0
  if flags.contains 112 then bits.lor 2 else bits

/-- The specification `parseConnection` makes of the fields. -/
def specOf (direction : Direction) (arg : List Byte) : ConnectionSpec :=
  ⟨direction, param arg 1, atoi (param arg 2), atoi (param arg 0), flagBits (param arg 3)⟩

theorem flagBits_eq (flags : List Byte) : flagBits flags =
    if (112 : Byte) ∈ flags then (if (97 : Byte) ∈ flags then Int.lor 0 1 else 0).lor 2
    else if (97 : Byte) ∈ flags then Int.lor 0 1 else 0 := by
  simp only [flagBits, List.contains_iff_mem]

theorem parseConnection_ok_iff {direction : Direction} {arg : List Byte} {spec : ConnectionSpec} :
    parseConnection direction arg = .ok spec ↔
      Admitted direction arg ∧ spec = specOf direction arg := by
  unfold parseConnection specOf
  rw [flagBits_eq]
  simp only [bind, Except.bind, throw, throwThe, MonadExceptOf.throw, pure, Except.pure]
  split
  · rename_i wrong
    constructor
    · intro result
      cases result
    · rintro ⟨admitted, _⟩
      rcases admitted.count with three | four
      · exact absurd three wrong.1
      · exact absurd four wrong.2
  rename_i count
  split
  · rename_i low
    constructor
    · intro result
      cases result
    · rintro ⟨admitted, _⟩
      exact absurd admitted.listen (Int.not_lt.mpr low)
  rename_i listen
  split
  · rename_i low
    constructor
    · intro result
      cases result
    · rintro ⟨admitted, _⟩
      exact absurd admitted.connect (Int.not_le.mpr low)
  rename_i connect
  split
  · rename_i both
    exact absurd both.1.1 (Nat.pos_iff_ne_zero.mp both.2.1)
  split
  · rename_i socks5
    constructor
    · intro result
      cases result
    · rintro ⟨admitted, _⟩
      obtain ⟨isSocks5, other⟩ := socks5
      simp only [ConnectionSpec.isSocks5, Bool.and_eq_true, decide_eq_true_eq] at isSocks5
      exact absurd (admitted.socks5 (List.length_eq_zero_iff.mp isSocks5.1) isSocks5.2) other
  rename_i socks5
  have admitted : Admitted direction arg := by
    refine ⟨by omega, Int.not_le.mp listen, Int.not_lt.mp connect, fun unnamed zero => ?_⟩
    by_contra other
    refine socks5 ⟨?_, other⟩
    simp only [ConnectionSpec.isSocks5, Bool.and_eq_true, decide_eq_true_eq]
    exact ⟨List.length_eq_zero_iff.mpr unnamed, zero⟩
  split
  · constructor
    · intro result
      exact ⟨admitted, (Except.ok.inj result).symm⟩
    · rintro ⟨_, rfl⟩
      rfl
  · rename_i noFlags
    have none : param arg 3 = [] := by
      unfold param
      rw [List.getD_eq_default _ _ (by omega)]
    rw [none, if_neg List.not_mem_nil, if_neg List.not_mem_nil]
    constructor
    · intro result
      exact ⟨admitted, (Except.ok.inj result).symm⟩
    · rintro ⟨_, rfl⟩
      rfl

/-- How an argument the checks let through can depart from the grammar. -/
inductive Slip (arg : List Byte) : Prop where
  /-- an empty fifth field, which `getline` does not return -/
  | fifth (five : (splitAt colon arg).length = 5)
  /-- `atoi` stops at the first byte that is no digit, and a port may be too large -/
  | listen (wrong : ¬ ∃ n ≤ 65535, Numeral (param arg 0) n)
  | connect (wrong : ¬ ∃ n ≤ 65535, Numeral (param arg 2) n)
  /-- the check of host and port asks for both mistakes at once -/
  | unnamed (empty : param arg 1 = []) (port : atoi (param arg 2) ≠ 0)
  | portless (named : param arg 1 ≠ []) (zero : atoi (param arg 2) = 0)

/-! ## Documented arguments are read -/

theorem Text.split {arg listen host port flags : List Byte}
    (text : Text arg listen host port flags) :
    (flags = [] ∧ splitAt colon arg = [listen, host, port]) ∨
      splitAt colon arg = [listen, host, port, flags] := by
  rcases text.fields with ⟨none, rfl⟩ | rfl
  · refine Or.inl ⟨none, ?_⟩
    rw [splitAt_append text.listen, splitAt_append text.host, splitAt_clean text.port]
  · refine Or.inr ?_
    rw [splitAt_append text.listen, splitAt_append text.host, splitAt_append text.port,
      splitAt_clean text.flags]

/-- What `getline` returns of a text in three or four fields. -/
theorem Text.getlines {arg listen host port flags : List Byte}
    (text : Text arg listen host port flags) (nonempty : port ≠ []) :
    (flags = [] ∧ getlines colon arg = [listen, host, port]) ∨
      getlines colon arg = [listen, host, port, flags] := by
  rcases text.split with ⟨none, three⟩ | four
  · refine Or.inl ⟨none, ?_⟩
    rw [getlines_of_last (by rw [three]; simpa using nonempty), three]
  · by_cases none : flags = []
    · refine Or.inl ⟨none, ?_⟩
      rw [getlines_of_empty (by rw [four, none]; rfl), four]
      rfl
    · refine Or.inr ?_
      rw [getlines_of_last (by rw [four]; simpa using none), four]

theorem Text.params {arg listen host port flags : List Byte}
    (text : Text arg listen host port flags) (nonempty : port ≠ []) :
    param arg 0 = listen ∧ param arg 1 = host ∧ param arg 2 = port ∧ param arg 3 = flags ∧
      ((Tun01.getlines colon arg).length = 3 ∨ (Tun01.getlines colon arg).length = 4) := by
  unfold param
  rcases text.getlines nonempty with ⟨none, three⟩ | four
  · rw [three, none]
    exact ⟨rfl, rfl, rfl, rfl, Or.inl rfl⟩
  · rw [four]
    exact ⟨rfl, rfl, rfl, rfl, Or.inr rfl⟩

/-- The four values of `m_flags` are told apart by their two bits. -/
theorem flags_ext {a b : Int} (small : a = 0 ∨ a = 1 ∨ a = 2 ∨ a = 3)
    (small' : b = 0 ∨ b = 1 ∨ b = 2 ∨ b = 3) (ack : a.testBit 0 = b.testBit 0)
    (promiscuous : a.testBit 1 = b.testBit 1) : a = b := by
  rcases small with rfl | rfl | rfl | rfl <;> rcases small' with rfl | rfl | rfl | rfl <;>
    first
      | rfl
      | exact absurd ack (by decide)
      | exact absurd promiscuous (by decide)

theorem flagBits_spec (flags : List Byte) :
    (flagBits flags).testBit 0 = decide ((97 : Byte) ∈ flags) ∧
      (flagBits flags).testBit 1 = decide ((112 : Byte) ∈ flags) ∧
        (flagBits flags = 0 ∨ flagBits flags = 1 ∨ flagBits flags = 2 ∨ flagBits flags = 3) := by
  rw [flagBits_eq]
  by_cases ack : (97 : Byte) ∈ flags <;> by_cases open' : (112 : Byte) ∈ flags <;>
    simp only [ack, open', if_true, if_false, decide_true, decide_false] <;> decide

theorem Carries.eq {spec spec' : ConnectionSpec} {direction : Direction} {host flags : List Byte}
    {connect_port listen_port : Nat}
    (carries : Carries spec direction host connect_port listen_port flags)
    (carries' : Carries spec' direction host connect_port listen_port flags) : spec = spec' := by
  have bits := flags_ext carries.m_flags carries'.m_flags
    (carries.ackPackets.trans carries'.ackPackets.symm)
    (carries.promiscuous.trans carries'.promiscuous.symm)
  rw [ConnectionSpec.mk.injEq]
  exact ⟨carries.m_connection_type.trans carries'.m_connection_type.symm,
    carries.m_connect_host.trans carries'.m_connect_host.symm,
    carries.m_connect_port.trans carries'.m_connect_port.symm,
    carries.m_listen_port.trans carries'.m_listen_port.symm, bits⟩

theorem specOf_carries {direction : Direction} {arg : List Byte} {connect_port listen_port : Nat}
    (connect : atoi (param arg 2) = connect_port) (listen : atoi (param arg 0) = listen_port) :
    Carries (specOf direction arg) direction (param arg 1) connect_port listen_port
      (param arg 3) where
  m_connection_type := rfl
  m_connect_host := rfl
  m_connect_port := connect
  m_listen_port := listen
  ackPackets := (flagBits_spec (param arg 3)).1
  promiscuous := (flagBits_spec (param arg 3)).2.1
  m_flags := (flagBits_spec (param arg 3)).2.2

/-- Documented arguments pass the checks without a slip and give the documented values. -/
theorem Documented.read {direction : Direction} {arg : List Byte} {spec : ConnectionSpec}
    (documented : Documented direction arg spec) :
    Admitted direction arg ∧ ¬ Slip arg ∧ spec = specOf direction arg := by
  cases documented with
  | @intro listen host port flags listen_port connect_port text listening lower upper connecting
      target carries =>
      obtain ⟨isListen, isHost, isPort, isFlags, count⟩ := text.params connecting.nonempty
      have bound : connect_port ≤ 65535 := by
        cases target with
        | forward _ _ upper => exact upper
        | socks5 _ zero _ => omega
      have listens := atoi_numeral listening (by omega)
      have connects := atoi_numeral connecting (by omega)
      rw [← isListen] at listens
      rw [← isPort] at connects
      refine ⟨⟨count, by omega, by omega, fun unnamed zero => ?_⟩, fun slip => ?_, ?_⟩
      · cases target with
        | forward named lower _ => omega
        | socks5 _ _ remote => exact remote
      · cases slip with
        | fifth five => rcases text.split with ⟨_, three⟩ | four <;> simp_all
        | listen wrong =>
            rw [isListen] at wrong
            exact wrong ⟨listen_port, upper, listening⟩
        | connect wrong =>
            rw [isPort] at wrong
            exact wrong ⟨connect_port, bound, connecting⟩
        | unnamed empty port =>
            cases target with
            | forward named _ _ => exact named (isHost ▸ empty)
            | socks5 _ zero _ => omega
        | portless named zero =>
            cases target with
            | forward _ lower _ => omega
            | socks5 unnamed _ _ => exact named (isHost.trans unnamed)
      · have made := @specOf_carries direction arg connect_port listen_port connects listens
        rw [isHost, isFlags] at made
        exact carries.eq made

/-! ## Arguments that are read without a slip are documented -/

/-- Three or four strings returned by `getline` are the fields, unless there is a fifth one. -/
theorem text_of_getlines {arg : List Byte}
    (count : (getlines colon arg).length = 3 ∨ (getlines colon arg).length = 4)
    (noFifth : (splitAt colon arg).length ≠ 5) :
    Text arg (param arg 0) (param arg 1) (param arg 2) (param arg 3) := by
  have lengths : (splitAt colon arg).length = 3 ∨ (splitAt colon arg).length = 4 := by
    unfold getlines at count
    dsimp only at count
    split at count
    · rw [List.length_dropLast] at count
      omega
    · exact count
  obtain ⟨listen, host, port, rest, fields⟩ : ∃ listen host port rest,
      splitAt colon arg = listen :: host :: port :: rest := by
    match whole : splitAt colon arg with
    | [] => simp [whole] at lengths
    | [_] => simp [whole] at lengths
    | [_, _] => simp [whole] at lengths
    | listen :: host :: port :: rest => exact ⟨listen, host, port, rest, rfl⟩
  obtain ⟨cleanListen, input₁, arg_eq, fields₁⟩ := of_splitAt_cons fields
  obtain ⟨cleanHost, input₂, input₁_eq, fields₂⟩ := of_splitAt_cons fields₁
  cases rest with
  | nil =>
      obtain ⟨cleanPort, input₂_eq⟩ := of_splitAt_single fields₂
      have all : getlines colon arg = [listen, host, port] := by
        by_cases last : (splitAt colon arg).getLast? = some []
        · rw [getlines_of_empty last, fields] at count
          simp at count
        · rw [getlines_of_last last, fields]
      unfold param
      rw [all]
      refine ⟨Or.inl ⟨rfl, ?_⟩, cleanListen, cleanHost, cleanPort, List.not_mem_nil⟩
      rw [arg_eq, input₁_eq, input₂_eq]
      rfl
  | cons flags rest =>
      obtain ⟨cleanPort, input₃, input₂_eq, fields₃⟩ := of_splitAt_cons fields₂
      have none : rest = [] := by
        rw [fields] at lengths
        cases rest with
        | nil => rfl
        | cons _ _ =>
            simp only [List.length_cons] at lengths
            omega
      subst none
      obtain ⟨cleanFlags, input₃_eq⟩ := of_splitAt_single fields₃
      have params : param arg 0 = listen ∧ param arg 1 = host ∧ param arg 2 = port ∧
          param arg 3 = flags := by
        unfold param
        by_cases last : (splitAt colon arg).getLast? = some []
        · have empty : flags = [] := by
            rw [fields] at last
            simpa using last
          rw [getlines_of_empty last, fields, empty]
          exact ⟨rfl, rfl, rfl, rfl⟩
        · rw [getlines_of_last last, fields]
          exact ⟨rfl, rfl, rfl, rfl⟩
      obtain ⟨isListen, isHost, isPort, isFlags⟩ := params
      rw [isListen, isHost, isPort, isFlags]
      refine ⟨Or.inr ?_, cleanListen, cleanHost, cleanPort, cleanFlags⟩
      rw [arg_eq, input₁_eq, input₂_eq, input₃_eq]

theorem Admitted.documented {direction : Direction} {arg : List Byte}
    (admitted : Admitted direction arg) (clean : ¬ Slip arg) :
    Documented direction arg (specOf direction arg) := by
  obtain ⟨n, upper, listening⟩ := not_not.mp fun wrong => clean (.listen wrong)
  obtain ⟨m, upper', connecting⟩ := not_not.mp fun wrong => clean (.connect wrong)
  have listens := atoi_numeral listening (by omega)
  have connects := atoi_numeral connecting (by omega)
  have lower : 1 ≤ n := by
    have positive := admitted.listen
    omega
  refine .intro (text_of_getlines admitted.count fun five => clean (.fifth five)) listening lower
    upper connecting ?_ (specOf_carries connects listens)
  by_cases unnamed : param arg 1 = []
  · have zero : atoi (param arg 2) = 0 := not_not.mp fun port => clean (.unnamed unnamed port)
    exact .socks5 unnamed (by omega) (admitted.socks5 unnamed zero)
  · have port : atoi (param arg 2) ≠ 0 := fun zero => clean (.portless unnamed zero)
    exact .forward unnamed (by omega) upper'

/-- `parseConnection` follows the manual on an argument unless its checks pass in spite of a slip. -/
theorem parseConnection_documented_iff (direction : Direction) (arg : List Byte) :
    (∀ spec, parseConnection direction arg = .ok spec ↔ Documented direction arg spec) ↔
      ¬ (Admitted direction arg ∧ Slip arg) := by
  constructor
  · rintro agrees ⟨admitted, slip⟩
    have read := (agrees (specOf direction arg)).mp (parseConnection_ok_iff.mpr ⟨admitted, rfl⟩)
    exact read.read.2.1 slip
  · intro clean spec
    constructor
    · intro result
      obtain ⟨admitted, rfl⟩ := parseConnection_ok_iff.mp result
      exact admitted.documented fun slip => clean ⟨admitted, slip⟩
    · intro documented
      obtain ⟨admitted, _, same⟩ := documented.read
      exact parseConnection_ok_iff.mpr ⟨admitted, same⟩

/-- A port without a host passes the check that asks for both mistakes. -/
theorem not_parseConnection_documented :
    ¬ ∀ (direction : Direction) (arg : List Byte) (spec : ConnectionSpec),
      parseConnection direction arg = .ok spec ↔ Documented direction arg spec := by
  intro agrees
  have accepted : parseConnection .CONNECT (text "80::80") = .ok ⟨.CONNECT, [], 80, 80, 0⟩ := by
    decide +kernel
  cases (agrees .CONNECT (text "80::80") ⟨.CONNECT, [], 80, 80, 0⟩).mp accepted with
  | intro _ _ _ _ _ target carries =>
      have unnamed := carries.m_connect_host
      have port := carries.m_connect_port
      cases target with
      | forward named _ _ => exact named unnamed.symm
      | socks5 _ zero _ =>
          rw [zero] at port
          exact absurd port (by decide)

end Tun01
