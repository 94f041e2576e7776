import Tun01.Net.Base

/-!
# The request of a socks5 client

`connect_socks_target` as it runs on the array of the handshake: every index of
`buf` that is read and every index of `namebuf` that is stored to is recorded,
and so is every call of `resolve`.
-/

namespace Tun01

namespace Errno

/-! The numbers are those of Linux. -/

def ETIMEDOUT : Errno := .other 110
def EPROTOTYPE : Errno := .other 91
def EPROTONOSUPPORT : Errno := .other 93
def EAFNOSUPPORT : Errno := .other 97
def ECONNREFUSED : Errno := .other 111
def ENETDOWN : Errno := .other 100
def ENETUNREACH : Errno := .other 101

end Errno

/-- `enum errorcode` -/
inductive ErrorCode where
  | EC_SUCCESS
  | EC_GENERAL_FAILURE
  | EC_NOT_ALLOWED
  | EC_NET_UNREACHABLE
  | EC_HOST_UNREACHABLE
  | EC_CONN_REFUSED
  | EC_TTL_EXPIRED
  | EC_COMMAND_NOT_SUPPORTED
  | EC_ADDRESSTYPE_NOT_SUPPORTED
  deriving DecidableEq, Repr

def ErrorCode.value : ErrorCode → Nat
  | EC_SUCCESS => 0
  | EC_GENERAL_FAILURE => 1
  | EC_NOT_ALLOWED => 2
  | EC_NET_UNREACHABLE => 3
  | EC_HOST_UNREACHABLE => 4
  | EC_CONN_REFUSED => 5
  | EC_TTL_EXPIRED => 6
  | EC_COMMAND_NOT_SUPPORTED => 7
  | EC_ADDRESSTYPE_NOT_SUPPORTED => 8

/-- `return -Socks5Server::EC_...` -/
def ErrorCode.returned (code : ErrorCode) : Int := -(code.value : Int)

inductive AddressFamily where
  | AF_INET
  | AF_INET6
  deriving DecidableEq, Repr

def AddressFamily.size : AddressFamily → Nat
  | AF_INET => 4
  | AF_INET6 => 16

structure Addrinfo where
  ai_family : Nat
  ai_addr : List Byte
  deriving DecidableEq, Repr

/-- What the C library and the network answer. -/
structure Network where
  /-- the text `inet_ntop` writes, without its zero byte -/
  inet_ntop : AddressFamily → List Byte → List Byte
  resolve : List Byte → Nat → Option Addrinfo
  socket : Nat → SysResult Int
  connect : Int → List Byte → SysResult Unit

/-- The texts of addresses have no zero byte and fit in `INET6_ADDRSTRLEN`. -/
def Network.Textual (net : Network) : Prop :=
  ∀ af addr, addr.length = af.size →
    (net.inet_ntop af addr).length < 46 ∧ 0 ∉ net.inet_ntop af addr

def cString (bytes : List Byte) : List Byte := bytes.takeWhile fun byte => decide (byte ≠ 0)

/-! ## Access to the arrays -/

/-- The arrays on the stack, and what was done with them. -/
structure Frame where
  buf : List Byte
  namebuf : List Byte
  reads : List Nat
  writes : List Nat
  resolved : List (List Byte × Nat)

abbrev Access := StateM Frame

namespace Access

/-- `buf[i]` -/
def load (i : Nat) : Access Byte := fun f =>
  (f.buf.getD i 0, { f with reads := f.reads ++ [i] })

/-- The bytes of `buf` that a call is given. -/
def loadFrom (start count : Nat) : Access (List Byte) := fun f =>
  ((f.buf.drop start).take count, { f with reads := f.reads ++ List.range' start count })

/-- Bytes stored to `namebuf`. -/
def store (start : Nat) (bytes : List Byte) : Access Unit := fun f =>
  ((), { f with
    namebuf := overwrite f.namebuf start bytes
    writes := f.writes ++ List.range' start bytes.length })

/-- `inet_ntop(af, buf + 4, namebuf, sizeof namebuf)`, and whether it succeeds. -/
def inet_ntop (net : Network) (af : AddressFamily) : Access Bool := do
  let addr ← loadFrom 4 af.size
  let shown := net.inet_ntop af addr
  if shown.length < 256 then
    store 0 (shown ++ [0])
    pure true
  else pure false

/-- `resolve(namebuf, port, &remote)` -/
def resolve (net : Network) (port : Nat) : Access (Option Addrinfo) := fun f =>
  let host := cString f.namebuf
  (net.resolve host port, { f with resolved := f.resolved ++ [(host, port)] })

end Access

open Access ErrorCode

/-- The code for the `errno` of `socket` or `connect`. -/
def eval_errno (errno : Errno) : ErrorCode :=
  if errno = .ETIMEDOUT then EC_TTL_EXPIRED
  else if errno = .EPROTOTYPE ∨ errno = .EPROTONOSUPPORT ∨ errno = .EAFNOSUPPORT then
    EC_ADDRESSTYPE_NOT_SUPPORTED
  else if errno = .ECONNREFUSED then EC_CONN_REFUSED
  else if errno = .ENETDOWN ∨ errno = .ENETUNREACH then EC_NET_UNREACHABLE
  else if errno = .EHOSTUNREACH then EC_HOST_UNREACHABLE
  else EC_GENERAL_FAILURE

/-- The addresses of fixed length, from `case 1` on: `minlen` if all is well. -/
def readIp (net : Network) (n : Nat) (af : AddressFamily) (minlen : Nat) :
    Access (Except ErrorCode Nat) := do
  if n < minlen then return .error EC_GENERAL_FAILURE
  if ← inet_ntop net af then return .ok minlen
  return .error EC_GENERAL_FAILURE

/-- `case 3`: a name, with its length before it. -/
def readName (n : Nat) : Access (Except ErrorCode Nat) := do
  let l ← load 4
  if n < 4 + 2 + l.toNat + 1 then return .error EC_GENERAL_FAILURE
  let name ← loadFrom (4 + 1) l.toNat
  store 0 name
  store l.toNat [0]
  return .ok (4 + 2 + l.toNat + 1)

/-- The `switch` on the address type. -/
def readAddress (net : Network) (n : Nat) : Access (Except ErrorCode Nat) := do
  let atyp ← load 3
  if atyp = 4 then readIp net n .AF_INET6 (4 + 2 + 16)
  else if atyp = 1 then readIp net n .AF_INET (4 + 4 + 2)
  else if atyp = 3 then readName n
  else return .error EC_ADDRESSTYPE_NOT_SUPPORTED

/-- From the call of `socket` on. -/
def connectRemote (net : Network) (remote : Addrinfo) : Int :=
  match net.socket remote.ai_family with
  | .fail errno => (eval_errno errno).returned
  | .ok fd =>
      match net.connect fd remote.ai_addr with
      | .fail errno => (eval_errno errno).returned
      | .ok _ => fd

/-- From the port on: the two bytes before `minlen`, `resolve`, and the connection. -/
def connectPort (net : Network) (minlen : Nat) : Access Int := do
  let high ← load (minlen - 2)
  let low ← load (minlen - 1)
  match ← resolve net (high.toNat * 256 + low.toNat) with
  | none => return EC_GENERAL_FAILURE.returned
  | some remote => return connectRemote net remote

/-- What follows the `switch`. -/
def afterSwitch (net : Network) : Except ErrorCode Nat → Access Int
  | .error code => return code.returned
  | .ok minlen => connectPort net minlen

/-- `connect_socks_target(buf, n, client)`: a connected descriptor or a negative code. -/
def connect_socks_target (net : Network) (n : Nat) : Access Int := do
  if n < 5 then return EC_GENERAL_FAILURE.returned
  if (← load 0) ≠ 5 then return EC_GENERAL_FAILURE.returned
  if (← load 1) ≠ 1 then return EC_COMMAND_NOT_SUPPORTED.returned
  if (← load 2) ≠ 0 then return EC_GENERAL_FAILURE.returned
  afterSwitch net (← readAddress net n)

/-! ## Runs on a frame -/

namespace Frame

/-- Only bytes of the message were read, and only `namebuf` was stored to. -/
structure Bounded (n : Nat) (f : Frame) : Prop where
  reads : ∀ i ∈ f.reads, i < n
  writes : ∀ i ∈ f.writes, i < 256

/-- What a part of the function leaves alone while it reads and stores within bounds. -/
structure Touches (n : Nat) (f f' : Frame) : Prop where
  buf : f'.buf = f.buf
  namebuf : f'.namebuf.length = f.namebuf.length
  resolved : f'.resolved = f.resolved
  bounded : f.Bounded n → f'.Bounded n

namespace Touches

variable {n : Nat} {f f' f'' : Frame}

theorem refl (f : Frame) : f.Touches n f := ⟨rfl, rfl, rfl, id⟩

theorem trans (first : f.Touches n f') (second : f'.Touches n f'') : f.Touches n f'' where
  buf := second.buf.trans first.buf
  namebuf := second.namebuf.trans first.namebuf
  resolved := second.resolved.trans first.resolved
  bounded := fun before => second.bounded (first.bounded before)

theorem load {i : Nat} (inside : i < n) : f.Touches n (load i f).2 where
  buf := rfl
  namebuf := rfl
  resolved := rfl
  bounded := by
    intro before
    refine ⟨fun j member => ?_, before.writes⟩
    rcases List.mem_append.mp member with earlier | here
    · exact before.reads j earlier
    · exact List.mem_singleton.mp here ▸ inside

theorem loadFrom {start count : Nat} (inside : start + count ≤ n) :
    f.Touches n (loadFrom start count f).2 where
  buf := rfl
  namebuf := rfl
  resolved := rfl
  bounded := by
    intro before
    refine ⟨fun j member => ?_, before.writes⟩
    rcases List.mem_append.mp member with earlier | here
    · exact before.reads j earlier
    · have range := List.mem_range'_1.mp here
      omega

theorem store {start : Nat} {bytes : List Byte} (room : f.namebuf.length = 256)
    (inside : start + bytes.length ≤ 256) : f.Touches n (store start bytes f).2 where
  buf := rfl
  namebuf := overwrite_length (by omega)
  resolved := rfl
  bounded := by
    intro before
    refine ⟨before.reads, fun j member => ?_⟩
    rcases List.mem_append.mp member with earlier | here
    · exact before.writes j earlier
    · have range := List.mem_range'_1.mp here
      omega

end Touches

end Frame

namespace Access

theorem bind_run {α β : Type} (x : Access α) (g : α → Access β) (f : Frame) :
    (x >>= g) f = g (x f).1 (x f).2 := rfl

theorem ite_run {α : Type} (c : Prop) [Decidable c] (x y : Access α) (f : Frame) :
    (if c then x else y) f = if c then x f else y f := by
  split <;> rfl

end Access

namespace Request

def minlen (msg : List Byte) : Nat :=
  if msg.getD 3 0 = 4 then 22
  else if msg.getD 3 0 = 1 then 10
  else 7 + (msg.getD 4 0).toNat

def host (net : Network) (msg : List Byte) : List Byte :=
  if msg.getD 3 0 = 4 then net.inet_ntop .AF_INET6 ((msg.drop 4).take 16)
  else if msg.getD 3 0 = 1 then net.inet_ntop .AF_INET ((msg.drop 4).take 4)
  else cString ((msg.drop 5).take (msg.getD 4 0).toNat)

def port (msg : List Byte) : Nat :=
  (msg.getD (minlen msg - 2) 0).toNat * 256 + (msg.getD (minlen msg - 1) 0).toNat

/-- What a request must satisfy, in order, and the code for what it does not. -/
def conditions (msg : List Byte) : List (Bool × ErrorCode) :=
  [(5 ≤ msg.length, EC_GENERAL_FAILURE),
    (msg.getD 0 0 = 5, EC_GENERAL_FAILURE),
    (msg.getD 1 0 = 1, EC_COMMAND_NOT_SUPPORTED),
    (msg.getD 2 0 = 0, EC_GENERAL_FAILURE),
    (msg.getD 3 0 = 1 ∨ msg.getD 3 0 = 3 ∨ msg.getD 3 0 = 4, EC_ADDRESSTYPE_NOT_SUPPORTED),
    (minlen msg ≤ msg.length, EC_GENERAL_FAILURE)]

def violated (msg : List Byte) : Option ErrorCode :=
  ((conditions msg).find? fun condition => !condition.1).map Prod.snd

end Request

/-! ## The address -/

/-- A text that ends in the array ends at its first zero byte. -/
theorem cString_append_zero (shown rest : List Byte) : cString (shown ++ 0 :: rest) = cString shown := by
  induction shown with
  | nil => rfl
  | cons byte shown ih =>
      unfold cString at ih ⊢
      rw [List.cons_append, List.takeWhile_cons, List.takeWhile_cons, ih]

theorem cString_of_not_mem {shown : List Byte} (whole : 0 ∉ shown) : cString shown = shown := by
  induction shown with
  | nil => rfl
  | cons byte shown ih =>
      obtain ⟨here, later⟩ := not_or.mp (fun member => whole (List.mem_cons.mpr member))
      unfold cString at ih ⊢
      rw [List.takeWhile_cons, ih later, if_pos (decide_eq_true (Ne.symm here))]

/-- Bytes stored at the start of an array with room for them. -/
theorem overwrite_zero {array bytes : List Byte} (room : bytes.length ≤ array.length) :
    overwrite array 0 bytes = bytes ++ array.drop bytes.length := by
  rw [overwrite, List.take_zero, List.nil_append, Nat.zero_add, List.take_of_length_le]
  rw [List.length_append, List.length_drop]
  omega

/-- A byte stored behind the bytes at the start of an array. -/
theorem overwrite_next {bytes rest : List Byte} (room : rest ≠ []) (byte : Byte) :
    overwrite (bytes ++ rest) bytes.length [byte] = bytes ++ byte :: rest.tail := by
  obtain ⟨first, later, rfl⟩ := List.exists_cons_of_ne_nil room
  have behind : (bytes ++ first :: later).drop (bytes.length + 1) = later := by
    rw [List.drop_append, List.drop_of_length_le (by omega),
      show bytes.length + 1 - bytes.length = 1 by omega]
    rfl
  rw [overwrite, List.take_left, List.length_singleton, behind, List.take_of_length_le]
  · rw [List.append_assoc]
    rfl
  · simp

section Address

variable {net : Network} {n : Nat} {f : Frame}

theorem readIp_short {af : AddressFamily} {minlen : Nat} (short : n < minlen) :
    readIp net n af minlen f = (.error EC_GENERAL_FAILURE, f) := by
  unfold readIp
  rw [if_pos short]
  rfl

theorem inet_ntop_run {af : AddressFamily}
    (fits : (net.inet_ntop af ((f.buf.drop 4).take af.size)).length < 256) :
    Access.inet_ntop net af f = (true,
      (store 0 (net.inet_ntop af ((f.buf.drop 4).take af.size) ++ [0])
        (loadFrom 4 af.size f).2).2) := by
  unfold Access.inet_ntop
  rw [bind_run]
  change (if (net.inet_ntop af ((f.buf.drop 4).take af.size)).length < 256 then _ else _ :
    Access Bool) _ = _
  rw [if_pos fits]
  rfl

/-- An address that is there whole is shown in `namebuf`. -/
theorem readIp_ok {af : AddressFamily} {minlen : Nat} (textual : net.Textual)
    (whole : minlen ≤ n) (size : 4 + af.size ≤ minlen) (inside : n ≤ f.buf.length)
    (room : f.namebuf.length = 256) : ∃ f', readIp net n af minlen f = (.ok minlen, f') ∧
      f.Touches n f' ∧ cString f'.namebuf = net.inet_ntop af ((f.buf.drop 4).take af.size) := by
  have length : ((f.buf.drop 4).take af.size).length = af.size := by
    rw [List.length_take, List.length_drop]
    omega
  obtain ⟨fits, noZero⟩ := textual af _ length
  have read := @Frame.Touches.loadFrom n f 4 af.size (by omega)
  have stored := @Frame.Touches.store n (loadFrom 4 af.size f).2 0
    (net.inet_ntop af ((f.buf.drop 4).take af.size) ++ [0]) room
    (by rw [List.length_append, List.length_singleton]; omega)
  refine ⟨_, ?_, read.trans stored, ?_⟩
  · unfold readIp
    rw [if_neg (Nat.not_lt.mpr whole), bind_run, inet_ntop_run (by omega)]
    rfl
  · change cString (overwrite f.namebuf 0 _) = _
    rw [overwrite_zero, List.append_assoc, List.singleton_append, cString_append_zero,
      cString_of_not_mem noZero]
    rw [List.length_append, List.length_singleton]
    omega

theorem readName_run : readName n f =
    if n < 4 + 2 + (f.buf.getD 4 0).toNat + 1 then (.error EC_GENERAL_FAILURE, (load 4 f).2)
    else (.ok (4 + 2 + (f.buf.getD 4 0).toNat + 1),
      (store (f.buf.getD 4 0).toNat [0] (store 0 ((f.buf.drop 5).take (f.buf.getD 4 0).toNat)
        (loadFrom 5 (f.buf.getD 4 0).toNat (load 4 f).2).2).2).2) := by
  unfold readName
  rw [bind_run]
  change (if n < 4 + 2 + (f.buf.getD 4 0).toNat + 1 then _ else _ : Access _) _ = _
  rw [ite_run]
  rfl

/-- The name and the zero byte behind it fit in `namebuf`, whatever the length byte says. -/
theorem readName_ok (inside : n ≤ f.buf.length) (room : f.namebuf.length = 256)
    (whole : 7 + (f.buf.getD 4 0).toNat ≤ n) : ∃ f',
      readName n f = (.ok (7 + (f.buf.getD 4 0).toNat), f') ∧ f.Touches n f' ∧
        cString f'.namebuf = cString ((f.buf.drop 5).take (f.buf.getD 4 0).toNat) := by
  have bound := (f.buf.getD 4 0).isLt
  have length : ((f.buf.drop 5).take (f.buf.getD 4 0).toNat).length = (f.buf.getD 4 0).toNat := by
    rw [List.length_take, List.length_drop]
    omega
  have first := @Frame.Touches.load n f 4 (by omega)
  have read := @Frame.Touches.loadFrom n (load 4 f).2 5 (f.buf.getD 4 0).toNat (by omega)
  have stored := @Frame.Touches.store n (loadFrom 5 (f.buf.getD 4 0).toNat (load 4 f).2).2 0
    ((f.buf.drop 5).take (f.buf.getD 4 0).toNat) room (by omega)
  have ended := @Frame.Touches.store n (store 0 ((f.buf.drop 5).take (f.buf.getD 4 0).toNat)
    (loadFrom 5 (f.buf.getD 4 0).toNat (load 4 f).2).2).2 (f.buf.getD 4 0).toNat [0]
    (stored.namebuf.trans room) (by rw [List.length_singleton]; omega)
  refine ⟨_, ?_, ((first.trans read).trans stored).trans ended, ?_⟩
  · rw [readName_run, if_neg (by omega), show 4 + 2 + (f.buf.getD 4 0).toNat + 1 =
      7 + (f.buf.getD 4 0).toNat by omega]
  · have next := @overwrite_next ((f.buf.drop 5).take (f.buf.getD 4 0).toNat)
      (f.namebuf.drop (f.buf.getD 4 0).toNat) (by
        intro empty
        have gone := List.drop_eq_nil_iff.mp empty
        omega) 0
    change cString (overwrite (overwrite f.namebuf 0 _) (f.buf.getD 4 0).toNat [0]) = _
    rw [overwrite_zero (by omega), length]
    rw [length] at next
    rw [next, cString_append_zero]

/-! ## The switch -/

theorem readAddress_unsupported
    (other : ¬ (f.buf.getD 3 0 = 1 ∨ f.buf.getD 3 0 = 3 ∨ f.buf.getD 3 0 = 4)) :
    readAddress net n f = (.error EC_ADDRESSTYPE_NOT_SUPPORTED, (load 3 f).2) := by
  obtain ⟨noIpv4, noName, noIpv6⟩ : f.buf.getD 3 0 ≠ 1 ∧ f.buf.getD 3 0 ≠ 3 ∧ f.buf.getD 3 0 ≠ 4 := by
    simpa only [not_or] using other
  unfold readAddress
  rw [bind_run]
  change (if f.buf.getD 3 0 = 4 then _ else if f.buf.getD 3 0 = 1 then _ else
    if f.buf.getD 3 0 = 3 then _ else _ : Access _) _ = _
  rw [if_neg noIpv6, if_neg noIpv4, if_neg noName]
  rfl

theorem readAddress_supported
    (supported : f.buf.getD 3 0 = 1 ∨ f.buf.getD 3 0 = 3 ∨ f.buf.getD 3 0 = 4) :
    readAddress net n f =
      (if f.buf.getD 3 0 = 4 then readIp net n .AF_INET6 22
      else if f.buf.getD 3 0 = 1 then readIp net n .AF_INET 10
      else readName n) (load 3 f).2 := by
  unfold readAddress
  rw [bind_run]
  change (if f.buf.getD 3 0 = 4 then _ else if f.buf.getD 3 0 = 1 then _ else
    if f.buf.getD 3 0 = 3 then _ else _ : Access _) _ = _
  split
  · rfl
  · split
    · rfl
    · rename_i noIpv6 noIpv4
      rcases supported with ipv4 | name | ipv6
      · exact absurd ipv4 noIpv4
      · rw [if_pos name]
      · exact absurd ipv6 noIpv6

theorem readAddress_short
    (supported : f.buf.getD 3 0 = 1 ∨ f.buf.getD 3 0 = 3 ∨ f.buf.getD 3 0 = 4) (long : 5 ≤ n)
    (short : n < Request.minlen f.buf) : ∃ f',
      readAddress net n f = (.error EC_GENERAL_FAILURE, f') ∧ f.Touches n f' := by
  have first := @Frame.Touches.load n f 3 (by omega)
  rw [readAddress_supported supported]
  unfold Request.minlen at short
  split at short
  · rename_i ipv6
    rw [if_pos ipv6]
    exact ⟨_, readIp_short short, first⟩
  · rename_i noIpv6
    rw [if_neg noIpv6]
    split at short
    · rename_i ipv4
      rw [if_pos ipv4]
      exact ⟨_, readIp_short short, first⟩
    · rename_i noIpv4
      have lacks : n < 4 + 2 + ((load 3 f).2.buf.getD 4 0).toNat + 1 := by
        change n < 4 + 2 + (f.buf.getD 4 0).toNat + 1
        omega
      rw [if_neg noIpv4, readName_run, if_pos lacks]
      exact ⟨_, rfl, first.trans (.load (by omega))⟩

theorem readAddress_ok (textual : net.Textual)
    (supported : f.buf.getD 3 0 = 1 ∨ f.buf.getD 3 0 = 3 ∨ f.buf.getD 3 0 = 4) (long : 5 ≤ n)
    (whole : Request.minlen f.buf ≤ n) (inside : n ≤ f.buf.length)
    (room : f.namebuf.length = 256) : ∃ f',
      readAddress net n f = (.ok (Request.minlen f.buf), f') ∧ f.Touches n f' ∧
        cString f'.namebuf = Request.host net f.buf := by
  have first := @Frame.Touches.load n f 3 (by omega)
  rw [readAddress_supported supported]
  unfold Request.minlen at whole ⊢
  unfold Request.host
  split at whole
  · rename_i ipv6
    obtain ⟨f', run, touches, shown⟩ := @readIp_ok net n (load 3 f).2 .AF_INET6 22 textual whole
      (by decide) inside room
    simp only [if_pos ipv6]
    exact ⟨f', run, first.trans touches, shown⟩
  · rename_i noIpv6
    simp only [if_neg noIpv6]
    split at whole
    · rename_i ipv4
      obtain ⟨f', run, touches, shown⟩ := @readIp_ok net n (load 3 f).2 .AF_INET 10 textual whole
        (by decide) inside room
      simp only [if_pos ipv4]
      exact ⟨f', run, first.trans touches, shown⟩
    · rename_i noIpv4
      obtain ⟨f', run, touches, shown⟩ := @readName_ok n (load 3 f).2 inside room whole
      simp only [if_neg noIpv4]
      exact ⟨f', run, first.trans touches, shown⟩

end Address

end Tun01
