import Tun01.Tunnel.State

/-!
# Sockets of a link

Which sockets were opened for a link, and the bytes read from and written to
them, as the calls made so far tell.
-/

namespace Tun01

namespace Syscall

def socket : Syscall → Nat
  | opened s _ _ | listening s _ | received s _ | sent s _ | closed s => s

def openedFor : Syscall → Option (Nat × Int × Short)
  | opened s conn link => some (s, conn, link)
  | _ => none

def bytesIn (sockets : List Nat) : Syscall → List Byte
  | received s bytes => if s ∈ sockets then bytes else []
  | _ => []

def bytesOut (sockets : List Nat) : Syscall → List Byte
  | sent s bytes => if s ∈ sockets then bytes else []
  | _ => []

end Syscall

namespace Kernel

def opened (os : Kernel) : List (Nat × Int × Short) := os.trace.filterMap Syscall.openedFor

def socketFor (conn : Int) (link : Short) (entry : Nat × Int × Short) : Option Nat :=
  if entry.2 = (conn, link) then some entry.1 else none

def socketsOf (os : Kernel) (conn : Int) (link : Short) : List Nat :=
  os.opened.filterMap (socketFor conn link)

def input (os : Kernel) (conn : Int) (link : Short) : List Byte :=
  os.trace.flatMap (Syscall.bytesIn (os.socketsOf conn link))

def output (os : Kernel) (conn : Int) (link : Short) : List Byte :=
  os.trace.flatMap (Syscall.bytesOut (os.socketsOf conn link))

def record (os : Kernel) (call : Syscall) : Kernel := { os with trace := os.trace ++ [call] }

def allocate (os : Kernel) (call : Nat → Syscall) : Kernel :=
  ⟨os.next_socket + 1, os.trace ++ [call os.next_socket]⟩

/-- Sockets are handed out once, and calls are made on sockets that were handed out. -/
structure Sound (os : Kernel) : Prop where
  used : ∀ call ∈ os.trace, call.socket < os.next_socket
  owner : ∀ s conn link conn' link', s ∈ os.socketsOf conn link → s ∈ os.socketsOf conn' link' →
    conn = conn' ∧ link = link'

variable {os : Kernel} {conn conn' : Int} {link link' : Short} {call : Syscall} {s : Nat}

theorem mem_opened : (s, conn, link) ∈ os.opened ↔ Syscall.opened s conn link ∈ os.trace := by
  unfold opened
  rw [List.mem_filterMap]
  constructor
  · rintro ⟨call, member, found⟩
    cases call with
    | opened s' conn' link' =>
        obtain ⟨rfl, rest⟩ := Prod.mk.inj (Option.some.inj found)
        obtain ⟨rfl, rfl⟩ := Prod.mk.inj rest
        exact member
    | listening _ _ | received _ _ | sent _ _ | closed _ => cases found
  · intro member
    exact ⟨_, member, rfl⟩

theorem mem_socketsOf :
    s ∈ os.socketsOf conn link ↔ (s, conn, link) ∈ os.opened := by
  unfold socketsOf
  rw [List.mem_filterMap]
  constructor
  · rintro ⟨entry, member, found⟩
    unfold socketFor at found
    by_cases same : entry.2 = (conn, link)
    · rw [if_pos same] at found
      rw [← Option.some.inj found, ← same]
      exact member
    · rw [if_neg same] at found
      cases found
  · intro member
    exact ⟨_, member, if_pos rfl⟩

theorem Sound.socket_lt (sound : os.Sound) (member : s ∈ os.socketsOf conn link) :
    s < os.next_socket := sound.used _ (mem_opened.mp (mem_socketsOf.mp member))

/-! ## Calls on sockets that exist -/

theorem opened_record (closed : call.openedFor = none) : (os.record call).opened = os.opened := by
  unfold opened record
  rw [List.filterMap_append, List.filterMap_cons_none closed, List.filterMap_nil, List.append_nil]

theorem socketsOf_record (closed : call.openedFor = none) (conn : Int) (link : Short) :
    (os.record call).socketsOf conn link = os.socketsOf conn link := by
  unfold socketsOf
  rw [opened_record closed]

theorem Sound.record (sound : os.Sound) (closed : call.openedFor = none)
    (below : call.socket < os.next_socket) : (os.record call).Sound where
  used := by
    intro c member
    rcases List.mem_append.mp member with old | new
    · exact sound.used c old
    · rw [List.mem_singleton.mp new]
      exact below
  owner := by
    intro s conn link conn' link'
    rw [socketsOf_record closed, socketsOf_record closed]
    exact sound.owner s conn link conn' link'

theorem input_record (closed : call.openedFor = none) (conn : Int)
    (link : Short) :
    (os.record call).input conn link =
      os.input conn link ++ call.bytesIn (os.socketsOf conn link) := by
  unfold input
  rw [socketsOf_record closed, record, List.flatMap_append, List.flatMap_singleton]

theorem output_record (closed : call.openedFor = none) (conn : Int)
    (link : Short) :
    (os.record call).output conn link =
      os.output conn link ++ call.bytesOut (os.socketsOf conn link) := by
  unfold output
  rw [socketsOf_record closed, record, List.flatMap_append, List.flatMap_singleton]

/-! ## New sockets -/

section Allocate

variable {open' : Nat → Syscall}

theorem flatMap_bytes_fresh {trace : List Syscall} {bytes : List Nat → Syscall → List Byte}
    {sockets : List Nat} (sockets' : List Nat)
    (same : ∀ call ∈ trace, bytes sockets' call = bytes sockets call) :
    trace.flatMap (bytes sockets') = trace.flatMap (bytes sockets) := by
  induction trace with
  | nil => rfl
  | cons call rest ih =>
      rw [List.flatMap_cons, List.flatMap_cons, same call List.mem_cons_self,
        ih fun c member => same c (List.mem_cons_of_mem _ member)]

theorem opened_allocate :
    (os.allocate open').opened = os.opened ++ (open' os.next_socket).openedFor.toList := by
  unfold opened allocate
  rw [List.filterMap_append]
  rfl

/-- Nothing was read from or written to a socket before it existed. -/
theorem bytes_allocate (sound : os.Sound) (same : ∀ s, (open' s).socket = s) (conn : Int)
    (link : Short) :
    os.trace.flatMap (Syscall.bytesIn ((os.allocate open').socketsOf conn link)) =
        os.input conn link ∧
      os.trace.flatMap (Syscall.bytesOut ((os.allocate open').socketsOf conn link)) =
        os.output conn link := by
  have old : ∀ s < os.next_socket,
      (s ∈ (os.allocate open').socketsOf conn link ↔ s ∈ os.socketsOf conn link) := by
    intro s below
    rw [mem_socketsOf, mem_socketsOf, mem_opened, mem_opened]
    change _ ∈ os.trace ++ [open' os.next_socket] ↔ _
    rw [List.mem_append, List.mem_singleton]
    refine or_iff_left fun new => Nat.ne_of_lt below ?_
    rw [← same os.next_socket, ← new]
    rfl
  constructor
  · apply flatMap_bytes_fresh
    intro call member
    have below := sound.used call member
    cases call with
    | received s bytes => simp only [Syscall.bytesIn, old s below]
    | opened _ _ _ | listening _ _ | sent _ _ | closed _ => rfl
  · apply flatMap_bytes_fresh
    intro call member
    have below := sound.used call member
    cases call with
    | sent s bytes => simp only [Syscall.bytesOut, old s below]
    | opened _ _ _ | listening _ _ | received _ _ | closed _ => rfl

theorem input_allocate (sound : os.Sound) (same : ∀ s, (open' s).socket = s)
    (quiet : ∀ s sockets, (open' s).bytesIn sockets = []) (conn : Int) (link : Short) :
    (os.allocate open').input conn link = os.input conn link := by
  rw [← (bytes_allocate sound same conn link).1]
  have last := quiet os.next_socket ((os.allocate open').socketsOf conn link)
  change (os.trace ++ [open' os.next_socket]).flatMap _ = _
  rw [List.flatMap_append, List.flatMap_singleton, last, List.append_nil]

theorem output_allocate (sound : os.Sound) (same : ∀ s, (open' s).socket = s)
    (quiet : ∀ s sockets, (open' s).bytesOut sockets = []) (conn : Int) (link : Short) :
    (os.allocate open').output conn link = os.output conn link := by
  rw [← (bytes_allocate sound same conn link).2]
  have last := quiet os.next_socket ((os.allocate open').socketsOf conn link)
  change (os.trace ++ [open' os.next_socket]).flatMap _ = _
  rw [List.flatMap_append, List.flatMap_singleton, last, List.append_nil]

theorem Sound.allocate (sound : os.Sound) (same : ∀ s, (open' s).socket = s) :
    (os.allocate open').Sound where
  used := by
    intro call member
    rcases List.mem_append.mp member with old | new
    · exact Nat.lt_succ_of_lt (sound.used call old)
    · rw [List.mem_singleton.mp new, same]
      exact Nat.lt_succ_self _
  owner := by
    intro s conn link conn' link' first second
    rw [mem_socketsOf, mem_opened] at first second
    rcases List.mem_append.mp first with old | new <;> rcases List.mem_append.mp second with old' | new'
    · exact sound.owner s conn link conn' link' (mem_socketsOf.mpr (mem_opened.mpr old))
        (mem_socketsOf.mpr (mem_opened.mpr old'))
    · have below := sound.used _ old
      have here := congrArg Syscall.socket (List.mem_singleton.mp new')
      rw [same] at here
      exact absurd here (Nat.ne_of_lt below)
    · have below := sound.used _ old'
      have here := congrArg Syscall.socket (List.mem_singleton.mp new)
      rw [same] at here
      exact absurd here (Nat.ne_of_lt below)
    · have both := (List.mem_singleton.mp new).trans (List.mem_singleton.mp new').symm
      obtain ⟨_, sameConn, sameLink⟩ := Syscall.opened.inj both
      exact ⟨sameConn, sameLink⟩

end Allocate

end Kernel

end Tun01
