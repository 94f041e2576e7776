import Mathlib.Order.Basic
import Mathlib.Algebra.Order.Ring.Int
import Mathlib.Data.List.Basic
import Mathlib.Tactic.Common

/-!
# Machine values, poll flags and system calls

The integer types that cross the wire, the byte order conversions of an LP64
little-endian host, the `pollfd` record, and the outcomes a system call may
have.  A `char` is eight bits; a `short` is an integer that carries its range.
-/

namespace Tun01

/-- A `char` as it travels on a descriptor. -/
abbrev Byte := BitVec 8

def text (s : String) : List Byte :=
  s.toList.map fun c => BitVec.ofNat 8 c.toNat

/-- A 16-bit `short`. -/
@[ext]
structure Short where
  val : Int
  lower : -32768 ≤ val
  upper : val < 32768
  deriving DecidableEq

namespace Short

/-- Conversion of an `int` to `short` keeps the low sixteen bits. -/
def ofInt (x : Int) : Short :=
  ⟨(x + 32768) % 65536 - 32768, by omega, by omega⟩

instance : Repr Short := ⟨fun s n => reprPrec s.val n⟩
instance : Inhabited Short := ⟨ofInt 0⟩

@[simp] theorem ofInt_val (s : Short) : ofInt s.val = s := by
  have lower := s.lower
  have upper := s.upper
  ext
  change (s.val + 32768) % 65536 - 32768 = s.val
  omega

theorem val_ofInt (x : Int) : (ofInt x).val = (x + 32768) % 65536 - 32768 := rfl

theorem val_ofInt_of_range {x : Int} (lower : -32768 ≤ x) (upper : x < 32768) :
    (ofInt x).val = x := by
  rw [val_ofInt]
  omega

/-- Two `int`s convert to the same `short` when they agree modulo `2 ^ 16`. -/
theorem ofInt_eq_iff (x y : Int) : ofInt x = ofInt y ↔ x % 65536 = y % 65536 := by
  rw [Short.ext_iff, val_ofInt, val_ofInt]
  omega

theorem val_injective : Function.Injective Short.val :=
  fun _ _ same => Short.ext same

instance : LinearOrder Short := LinearOrder.lift' Short.val val_injective

end Short

/-- Conversion to a 32-bit `int`. -/
def int32 (x : Int) : Int := (x + 2147483648) % 4294967296 - 2147483648

/-- The largest `int`. -/
def INT_MAX : Nat := 2147483647

/-! ## Byte order -/

/-- Byte `i` of an integer, counted from the least significant. -/
def byteAt (x : BitVec 32) (i : Nat) : Byte :=
  BitVec.ofNat 8 (x.toNat / 256 ^ i)

def wordLE (b0 b1 b2 b3 : Byte) : BitVec 32 :=
  BitVec.ofNat 32
    (b0.toNat + 256 * b1.toNat + 65536 * b2.toNat + 16777216 * b3.toNat)

def bytesLE (x : BitVec 32) : List Byte :=
  [byteAt x 0, byteAt x 1, byteAt x 2, byteAt x 3]

/-- `htonl` on a little-endian host reverses the bytes of the word. -/
def htonl (x : BitVec 32) : BitVec 32 :=
  wordLE (byteAt x 3) (byteAt x 2) (byteAt x 1) (byteAt x 0)

/-- `ntohl` is the same permutation of bytes. -/
def ntohl (x : BitVec 32) : BitVec 32 := htonl x

theorem wordLE_toNat (b0 b1 b2 b3 : Byte) :
    (wordLE b0 b1 b2 b3).toNat =
      b0.toNat + 256 * b1.toNat + 65536 * b2.toNat + 16777216 * b3.toNat := by
  have h0 := b0.isLt
  have h1 := b1.isLt
  have h2 := b2.isLt
  have h3 := b3.isLt
  rw [wordLE, BitVec.toNat_ofNat]
  omega

theorem byteAt_toNat (x : BitVec 32) (i : Nat) :
    (byteAt x i).toNat = x.toNat / 256 ^ i % 256 := by
  rw [byteAt, BitVec.toNat_ofNat]

/-- A word is determined by its four bytes. -/
@[simp] theorem wordLE_byteAt (x : BitVec 32) :
    wordLE (byteAt x 0) (byteAt x 1) (byteAt x 2) (byteAt x 3) = x := by
  have small := x.isLt
  apply BitVec.eq_of_toNat_eq
  rw [wordLE_toNat, byteAt_toNat, byteAt_toNat, byteAt_toNat, byteAt_toNat]
  omega

@[simp] theorem bytesLE_wordLE (b0 b1 b2 b3 : Byte) :
    bytesLE (wordLE b0 b1 b2 b3) = [b0, b1, b2, b3] := by
  have h0 := b0.isLt
  have h1 := b1.isLt
  have h2 := b2.isLt
  have h3 := b3.isLt
  simp only [bytesLE, List.cons.injEq, and_true]
  refine ⟨?_, ?_, ?_, ?_⟩ <;>
    (apply BitVec.eq_of_toNat_eq; rw [byteAt_toNat, wordLE_toNat]; omega)

theorem bytesLE_htonl (x : BitVec 32) :
    bytesLE (htonl x) = [byteAt x 3, byteAt x 2, byteAt x 1, byteAt x 0] :=
  bytesLE_wordLE _ _ _ _

@[simp] theorem ntohl_htonl (x : BitVec 32) : ntohl (htonl x) = x := by
  have bytes := bytesLE_htonl x
  simp only [bytesLE, List.cons.injEq, and_true] at bytes
  obtain ⟨b0, b1, b2, b3⟩ := bytes
  rw [ntohl, htonl, b0, b1, b2, b3, wordLE_byteAt]

/-! ## Arrays -/

/--
Store bytes into an array from index `start` on.  The length of the array does
not change: bytes that would fall past its end are not part of it.
-/
def overwrite (buf : List Byte) (start : Nat) (bytes : List Byte) : List Byte :=
  (buf.take start ++ bytes ++ buf.drop (start + bytes.length)).take buf.length

theorem overwrite_length {buf bytes : List Byte} {start : Nat}
    (inside : start ≤ buf.length) : (overwrite buf start bytes).length = buf.length := by
  simp only [overwrite, List.length_take, List.length_append, List.length_drop]
  omega

/-- What lies before the stored bytes is kept. -/
theorem take_overwrite {buf bytes : List Byte} {start : Nat}
    (inside : start ≤ buf.length) : (overwrite buf start bytes).take start = buf.take start := by
  rw [overwrite, List.take_take, Nat.min_eq_left inside, List.append_assoc,
    List.take_append_of_le_length (by simp [inside]), List.take_take, Nat.min_self]

/-- The stored bytes follow what was kept, when they fit. -/
theorem take_overwrite_end {buf bytes : List Byte} {start : Nat}
    (fits : start + bytes.length ≤ buf.length) :
    (overwrite buf start bytes).take (start + bytes.length) = buf.take start ++ bytes := by
  rw [overwrite, List.take_take, Nat.min_eq_left fits]
  have size : (buf.take start ++ bytes).length = start + bytes.length := by
    rw [List.length_append, List.length_take]
    omega
  rw [List.take_append_of_le_length (by omega), ← size, List.take_length]

/-- Bytes stored up to the end of the array leave only what lay before them. -/
theorem overwrite_to_end {buf bytes : List Byte} {start : Nat}
    (fits : start + bytes.length = buf.length) :
    overwrite buf start bytes = buf.take start ++ bytes := by
  have whole := @take_overwrite_end buf bytes start (by omega)
  have size : (overwrite buf start bytes).length = start + bytes.length := by
    rw [overwrite_length (by omega), fits]
  rw [← size, List.take_length] at whole
  exact whole

/-! ## Poll flags -/

/-- The bits of `pollfd::events` and `pollfd::revents` the program uses. -/
structure PollEvents where
  POLLIN : Bool := false
  POLLOUT : Bool := false
  POLLERR : Bool := false
  POLLHUP : Bool := false
  POLLNVAL : Bool := false
  deriving DecidableEq, Repr

namespace PollEvents

def zero : PollEvents := {}

def nonzero (e : PollEvents) : Bool :=
  e.POLLIN || e.POLLOUT || e.POLLERR || e.POLLHUP || e.POLLNVAL

/-- `e & (POLLERR | POLLHUP | POLLNVAL)` -/
def failure (e : PollEvents) : Bool :=
  e.POLLERR || e.POLLHUP || e.POLLNVAL

end PollEvents

def POLLIN : PollEvents := { POLLIN := true }
def POLLOUT : PollEvents := { POLLOUT := true }

structure Pollfd where
  fd : Int
  events : PollEvents
  revents : PollEvents
  deriving DecidableEq, Repr

/-! ## System calls and faults -/

/-- The `errno` values the program tells apart. -/
inductive Errno where
  | EAGAIN
  | EINTR
  | EBADF
  | EPIPE
  | ECONNRESET
  | ECONNABORTED
  | EHOSTUNREACH
  | other (code : Nat)
  deriving DecidableEq, Repr

/-- What a system call returns: a result, or `-1` with `errno` set. -/
inductive SysResult (α : Type) where
  | ok (value : α)
  | fail (errno : Errno)
  deriving DecidableEq, Repr

/-- A `read` of `request` bytes returns no more than that. -/
def SysResult.ReadsWithin (request : Nat) (result : SysResult (List Byte)) : Prop :=
  ∀ bytes, result = .ok bytes → bytes.length ≤ request

/-- A `write` of `request` bytes accepts no more than that. -/
def SysResult.WritesWithin (request : Nat) (result : SysResult Nat) : Prop :=
  ∀ count, result = .ok count → count ≤ request

/--
How a handler ends when it does not return: one of the source's `throw`s, or
an operation whose behaviour C++ leaves undefined.
-/
inductive Fault where
  /-- `throw MY_EXCEPTION(message)` -/
  | exception (message : String)
  /-- `throw MY_EXCEPTION_ERRNO` -/
  | exceptionErrno (errno : Errno)
  /-- `throw "..."`, reported without an error status -/
  | silent (message : String)
  | undefinedBehaviour (reason : String)
  deriving DecidableEq, Repr

theorem ok_bind {α β : Type} (a : α) (f : α → Except Fault β) : (Except.ok a >>= f) = f a := rfl

theorem error_bind {α β : Type} (fault : Fault) (f : α → Except Fault β) :
    (Except.error fault >>= f) = .error fault := rfl

/-- A computation that returns went through both of its parts. -/
theorem of_bind_ok {α β : Type} {x : Except Fault α} {f : α → Except Fault β} {b : β}
    (result : (x >>= f) = .ok b) : ∃ a, x = .ok a ∧ f a = .ok b := by
  cases x with
  | error fault => cases result
  | ok a => exact ⟨a, rfl, result⟩

theorem of_map_ok {α β : Type} {x : Except Fault α} {f : α → β} {b : β}
    (result : x.map f = .ok b) : ∃ a, x = .ok a ∧ f a = b := by
  cases x with
  | error fault => cases result
  | ok a => exact ⟨a, rfl, Except.ok.inj result⟩

end Tun01
