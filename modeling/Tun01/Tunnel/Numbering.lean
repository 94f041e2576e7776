import Tun01.Tunnel.LinkOps
import Mathlib.Data.List.Nodup
import Mathlib.Data.List.Count

/-!
# Link identifiers

A listener numbers its clients with an `int` and gives the link the lower 16
bits, so an identifier comes back after 65536 clients.
-/

namespace Tun01

/-! ## Consecutive identifiers -/

def numbered (first : Int) (count : Nat) : List Short :=
  (List.range count).map fun j : Nat => Short.ofInt (first + j)

@[simp] theorem numbered_length (first : Int) (count : Nat) :
    (numbered first count).length = count := by
  rw [numbered, List.length_map, List.length_range]

theorem numbered_succ (first : Int) (count : Nat) :
    numbered first (count + 1) = numbered first count ++ [Short.ofInt (first + count)] := by
  rw [numbered, List.range_succ, List.map_append]
  rfl

theorem numbered_congr {first first' : Int} (same : first % 65536 = first' % 65536) (count : Nat) :
    numbered first count = numbered first' count := by
  apply List.map_congr_left
  intro j _
  rw [Short.ofInt_eq_iff]
  omega

theorem numbered_getElem? {first : Int} {count j : Nat} {id : Short}
    (here : (numbered first count)[j]? = some id) : j < count ∧ id = Short.ofInt (first + j) := by
  rw [numbered, List.getElem?_map, Option.map_eq_some_iff] at here
  obtain ⟨i, found, rfl⟩ := here
  obtain ⟨inside, same⟩ := List.getElem?_eq_some_iff.mp found
  rw [List.getElem_range] at same
  rw [List.length_range] at inside
  exact ⟨inside, by rw [same]⟩

theorem numbered_nodup {first : Int} {count : Nat} (few : count ≤ 65536) :
    (numbered first count).Nodup := by
  refine (List.nodup_map_iff_inj_on List.nodup_range).mpr ?_
  intro i inI j inJ same
  rw [List.mem_range] at inI inJ
  rw [Short.ofInt_eq_iff] at same
  omega

/-! ## Sockets opened for a connection -/

namespace Kernel

def openFor (conn : Int) (entry : Nat × Int × Short) : Option (Nat × Short) :=
  if entry.2.1 = conn then some (entry.1, entry.2.2) else none

def ofLink (id : Short) (x : Nat × Short) : Option Nat := if x.2 = id then some x.1 else none

def opens (os : Kernel) (conn : Int) : List (Nat × Short) := os.opened.filterMap (openFor conn)

def accepted (os : Kernel) (conn : Int) : Nat := (os.opens conn).length

variable {os : Kernel} {conn : Int} {id : Short}

theorem socketsOf_eq (os : Kernel) (conn : Int) (id : Short) :
    os.socketsOf conn id = (os.opens conn).filterMap (ofLink id) := by
  rw [socketsOf, opens, List.filterMap_filterMap]
  apply List.filterMap_congr
  rintro ⟨socket, conn', id'⟩ _
  unfold socketFor openFor ofLink
  dsimp only
  by_cases sameConn : conn' = conn
  · by_cases sameId : id' = id
    · simp [sameConn, sameId]
    · simp [sameConn, sameId]
  · simp [sameConn]

theorem socketsOf_length (os : Kernel) (conn : Int) (id : Short) :
    (os.socketsOf conn id).length = ((os.opens conn).map Prod.snd).count id := by
  rw [socketsOf_eq]
  induction os.opens conn with
  | nil => rfl
  | cons entry rest ih =>
      by_cases same : entry.2 = id
      · have here : ofLink id entry = some entry.1 := if_pos same
        rw [List.filterMap_cons_some here, List.map_cons, List.count_cons, List.length_cons, ih,
          if_pos (by simp [same])]
      · have none : ofLink id entry = none := if_neg same
        rw [List.filterMap_cons_none none, List.map_cons, List.count_cons, ih,
          if_neg (by simp [same]), Nat.add_zero]

theorem mem_socketsOf_opens {s : Nat} : s ∈ os.socketsOf conn id ↔ (s, id) ∈ os.opens conn := by
  rw [socketsOf_eq, List.mem_filterMap]
  constructor
  · rintro ⟨⟨s', id'⟩, member, found⟩
    unfold ofLink at found
    dsimp only at found
    split at found
    · rename_i same
      rwa [← Option.some.inj found, ← same]
    · cases found
  · intro member
    exact ⟨(s, id), member, if_pos rfl⟩

end Kernel

namespace StdioTunnel

variable {t t' : StdioTunnel}

theorem opens_of_opened (same : t'.os.opened = t.os.opened) (conn : Int) :
    t'.os.opens conn = t.os.opens conn := by
  unfold Kernel.opens
  rw [same]

theorem opens_openSocket (t : StdioTunnel) (conn : Int) (id : Short) (c : Int) :
    (t.openSocket conn id).os.opens c =
      t.os.opens c ++ (if conn = c then [(t.os.next_socket, id)] else []) := by
  have opened := @Kernel.opened_allocate t.os (fun s => .opened s conn id)
  unfold Kernel.opens
  rw [show (t.openSocket conn id).os.opened = _ from opened, List.filterMap_append]
  congr 1
  by_cases same : conn = c
  · rw [if_pos same]
    exact List.filterMap_cons_some (if_pos same)
  · rw [if_neg same]
    exact List.filterMap_cons_none (if_neg same)

/-! ## Numbered clients -/

/-- A listener has numbered its clients one after the other, up to its counter. -/
def Numbered (t : StdioTunnel) : Prop :=
  ∀ conn spec i s n, t.bare? conn = some (spec, i, .listenSide s n) →
    (t.os.opens conn).map Prod.snd = numbered (n - t.os.accepted conn) (t.os.accepted conn)

theorem Numbered.same (numbers : t.Numbered) (bare : ∀ c, t'.bare? c = t.bare? c)
    (opened : t'.os.opened = t.os.opened) : t'.Numbered := by
  intro conn spec i s n role
  unfold Kernel.accepted
  rw [opens_of_opened opened]
  exact numbers conn spec i s n ((bare conn).symm.trans role)

/-- A socket for a link of a connecting side is no client. -/
theorem Numbered.openSocket (numbers : t.Numbered) {conn : Int} (id : Short)
    (connects : ∀ spec i s n, t.bare? conn ≠ some (spec, i, .listenSide s n)) :
    (t.openSocket conn id).Numbered := by
  intro c spec i s n role
  have other : ¬ conn = c := by
    rintro rfl
    exact connects spec i s n role
  unfold Kernel.accepted
  rw [opens_openSocket, if_neg other, List.append_nil]
  exact numbers c spec i s n role

/-- The next client gets the next number. -/
theorem Numbered.accepting (numbers : t.Numbered) {c : TunnelConnection} {spec : ConnectionSpec}
    {s : Nat} {n : Int} (role : t.bare? c.m_id = some (spec, c.m_id, .listenSide s n)) :
    ((t.setNextId c s (int32 (n + 1))).openSocket c.m_id (Short.ofInt n)).Numbered := by
  intro conn spec' i s' n' role'
  change (t.setNextId c s (int32 (n + 1))).bare? conn = _ at role'
  rw [bare?_setNextId] at role'
  have opens := opens_openSocket (t.setNextId c s (int32 (n + 1))) c.m_id (Short.ofInt n) conn
  change _ = t.os.opens conn ++ _ at opens
  unfold Kernel.accepted
  rw [opens]
  by_cases same : c.m_id = conn
  · rw [if_pos same, ← same, role] at role'
    have next : n' = int32 (n + 1) :=
      (Role.listenSide.inj (congrArg (fun x => x.2.2) (Option.some.inj role'))).2.symm
    have before := numbers conn spec c.m_id s n (same ▸ role)
    have congruent : (n - ((t.os.opens conn).length : Int)) % 65536 =
        (n' - (((t.os.opens conn).length + 1 : Nat) : Int)) % 65536 := by
      rw [next, int32]
      omega
    have last : Short.ofInt n = Short.ofInt
        (n' - (((t.os.opens conn).length + 1 : Nat) : Int) + ((t.os.opens conn).length : Nat)) := by
      rw [Short.ofInt_eq_iff, next, int32]
      omega
    unfold Kernel.accepted at before
    rw [if_pos same, List.map_append, before, List.length_append, List.length_singleton,
      numbered_succ, numbered_congr congruent, ← last]
    rfl
  · rw [if_neg same] at role'
    rw [if_neg same, List.append_nil]
    exact numbers conn spec' i s' n' role'

/-- A stored link and the client it was made for. -/
theorem Sound.client (sound : t.Sound) {conn : Int} {id : Short} {l : ConnectionLink}
    (found : t.link? conn id = some l) :
    ∃ j : Nat, (t.os.opens conn)[j]? = some (l.m_socket, id) := by
  have mine := ((sound.links conn id).link l found).2.2
  obtain ⟨j, inside, here⟩ := List.mem_iff_getElem.mp (Kernel.mem_socketsOf_opens.mp mine)
  exact ⟨j, List.getElem?_eq_some_iff.mpr ⟨inside, here⟩⟩

/-- Which clients got the identifier the next client will get. -/
theorem Numbered.repeats (numbers : t.Numbered) {conn : Int} {spec : ConnectionSpec} {i : Int}
    {s : Nat} {n : Int} (role : t.bare? conn = some (spec, i, .listenSide s n)) {j socket : Nat}
    {id : Short} (client : (t.os.opens conn)[j]? = some (socket, id)) :
    j < t.os.accepted conn ∧ (id = Short.ofInt n ↔ 65536 ∣ t.os.accepted conn - j) := by
  have at' : ((t.os.opens conn).map Prod.snd)[j]? = some id := by
    rw [List.getElem?_map, client]
    rfl
  rw [numbers conn spec i s n role] at at'
  obtain ⟨inside, same⟩ := numbered_getElem? at'
  refine ⟨inside, ?_⟩
  rw [same, Short.ofInt_eq_iff]
  omega

/-- The identifier of the next client is free when fewer than 65536 have come. -/
theorem Numbered.free (numbers : t.Numbered) (sound : t.Sound) {conn : Int} {spec : ConnectionSpec}
    {i : Int} {s : Nat} {n : Int} (role : t.bare? conn = some (spec, i, .listenSide s n))
    (few : t.os.accepted conn < 65536) : t.link? conn (Short.ofInt n) = none := by
  cases found : t.link? conn (Short.ofInt n) with
  | none => rfl
  | some l =>
      obtain ⟨j, client⟩ := sound.client found
      obtain ⟨inside, repeats⟩ := numbers.repeats role client
      have old := repeats.mp rfl
      have short := Nat.le_of_dvd (by omega) old
      omega

/-- An identifier is given to one client at most while fewer than 65536 have come. -/
theorem Numbered.once (numbers : t.Numbered) {conn : Int} {spec : ConnectionSpec} {i : Int}
    {s : Nat} {n : Int} (role : t.bare? conn = some (spec, i, .listenSide s n))
    (few : t.os.accepted conn ≤ 65536) (id : Short) : (t.os.socketsOf conn id).length ≤ 1 := by
  rw [Kernel.socketsOf_length, numbers conn spec i s n role]
  exact List.nodup_iff_count_le_one.mp (numbered_nodup few) id

end StdioTunnel

end Tun01
