import Mathlib.Data.Nat.Digits.Defs
import Mathlib.Data.Nat.Digits.Lemmas
import Tun01.Lib.Run
import Tun01.Tunnel.Message

/-!
# The array of a packet

Which indices the constructor of `WritePacket` stores to, what it leaves in the
array, and how far short writes advance a packet.
-/

namespace Tun01

namespace WritePacket

/-! ## The stores of the constructor -/

def storedAt (queue : List Byte) : List Nat :=
  (stores queue).flatMap fun store => List.range' store.1 store.2.length

theorem mem_storedAt {queue : List Byte} {i : Nat} :
    i ∈ storedAt queue ↔ i < 8 ∨ 4 ≤ i ∧ i < queue.length + 4 := by
  change i ∈ List.range' 0 8 ++ (List.range' 4 queue.length ++ []) ↔ _
  simp only [List.append_nil, List.mem_append, List.mem_range'_1]
  omega

/-- The store of the length reaches index 7, so four bytes must follow the header. -/
theorem storedAt_inside_iff (queue : List Byte) :
    (∀ i ∈ storedAt queue, i < (padded queue).m_size) ↔ 4 ≤ queue.length := by
  rw [padded_size]
  constructor
  · intro inside
    have last := inside 7 (mem_storedAt.mpr (Or.inl (by decide)))
    omega
  · intro long i stored
    rcases mem_storedAt.mp stored with word | payload <;> omega

/-- The constructor is defined exactly if all these indices are in its array. -/
theorem ofQueue_inside_iff (queue : List Byte) :
    (∃ packet, ofQueue queue = .ok packet) ↔ ∀ i ∈ storedAt queue, i < (padded queue).m_size := by
  rw [storedAt_inside_iff, ofQueue_eq]
  split
  · rename_i long
    exact ⟨fun _ => long, fun _ => ⟨_, rfl⟩⟩
  · rename_i short
    exact ⟨nofun, fun long => absurd long short⟩

/-! ## The length -/

def bigEndian (bytes : List Byte) : Nat := Nat.ofDigits 256 (bytes.reverse.map BitVec.toNat)

theorem bigEndian_lt (bytes : List Byte) : bigEndian bytes < 256 ^ bytes.length := by
  have digits : ∀ d ∈ bytes.reverse.map BitVec.toNat, d < 256 := by
    intro d member
    obtain ⟨byte, _, rfl⟩ := List.mem_map.mp member
    exact byte.isLt
  have bound := Nat.ofDigits_lt_base_pow_length (by decide : 1 < 256) digits
  rw [List.length_map, List.length_reverse] at bound
  exact bound

theorem bigEndian_frameHeader {size : Nat} (small : size < 2 ^ 32) :
    bigEndian (frameHeader size) = size := by
  rw [frameHeader, bytesLE_htonl]
  have value : (BitVec.ofNat 32 size).toNat = size := Nat.mod_eq_of_lt small
  simp only [bigEndian, List.reverse_cons, List.reverse_nil, List.nil_append, List.cons_append,
    List.map_cons, List.map_nil, Nat.ofDigits_cons, Nat.ofDigits_nil, byteAt_toNat, value]
  omega

/-- The array is the length of the payload in four bytes, then the payload. -/
def Carries (buf queue : List Byte) : Prop :=
  ∃ header : List Byte, header.length = 4 ∧ bigEndian header = queue.length ∧
    buf = header ++ queue

theorem padded_carries_iff (queue : List Byte) :
    Carries (padded queue).m_buf queue ↔ queue.length < 2 ^ 32 := by
  constructor
  · rintro ⟨header, four, value, _⟩
    have bound := bigEndian_lt header
    rw [four, value] at bound
    exact bound
  · intro small
    exact ⟨frameHeader queue.length, rfl, bigEndian_frameHeader small, padded_buf queue⟩

/-! ## Short writes -/

/-- One call of `sendPacket`; the kernel takes no more than it is asked to. -/
def Sends (p : WritePacket) (write : SysResult Nat) (p' : WritePacket) : Prop :=
  write.WritesWithin p.request ∧ ∃ finished, p.sendPacket write = .ok (p', finished)

theorem Sends.written_le {p p' : WritePacket} {write : SysResult Nat} (sends : Sends p write p')
    (before : p.m_written ≤ p.m_size) : p'.m_written ≤ p'.m_size := by
  obtain ⟨within, finished, result⟩ := sends
  cases write with
  | fail errno => cases result
  | ok count =>
      obtain ⟨rfl, _⟩ := Prod.mk.inj (Except.ok.inj result)
      have taken := within count rfl
      unfold request at taken
      change p.m_written + count ≤ p.m_size
      omega

/-- The counter of a packet stays within the packet. -/
theorem written_le {queue : List Byte} {writes : List (SysResult Nat)} {p : WritePacket}
    (run : Run Sends (padded queue) writes p) : p.m_written ≤ p.m_size := by
  induction run with
  | nil => exact Nat.zero_le _
  | snoc _ last ih => exact last.written_le ih

/-! ## A sound packet -/

/-- What the constructor and the writes of a packet for a payload are meant to keep. -/
structure Sound (queue : List Byte) : Prop where
  inside : ∀ i ∈ storedAt queue, i < (padded queue).m_size
  carries : Carries (padded queue).m_buf queue
  counted : ∀ writes p, Run Sends (padded queue) writes p → p.m_written ≤ p.m_size

/--
A packet is sound exactly for payloads of at least four bytes whose length fits
the header.
-/
theorem sound_iff (queue : List Byte) : Sound queue ↔ 4 ≤ queue.length ∧ queue.length < 2 ^ 32 := by
  constructor
  · intro sound
    exact ⟨(storedAt_inside_iff queue).mp sound.inside, (padded_carries_iff queue).mp sound.carries⟩
  · rintro ⟨long, small⟩
    exact ⟨(storedAt_inside_iff queue).mpr long, (padded_carries_iff queue).mpr small,
      fun _ _ run => written_le run⟩

/-- The two bytes of the reply to the request are followed by no room for the word. -/
theorem not_sound_agreed : ¬ ∀ queue : List Byte, queue ≠ [] → Sound queue := by
  intro sound
  have reply := (sound Message.agreed.payload (by decide)).inside
  have short := (storedAt_inside_iff Message.agreed.payload).mp reply
  exact absurd short (by decide)

end WritePacket

end Tun01
