import Mathlib.Order.Lattice
import Mathlib.Data.List.Basic
import Mathlib.Tactic.Common

/-!
# Ordered maps

A map with linearly ordered keys, kept as a list sorted by key: what an
iteration over a balanced search tree visits.  The sortedness is a field, so
every map has at most one value for a key.
-/

namespace Tun01

structure OrderedMap (κ β : Type) [LinearOrder κ] where
  entries : List (κ × β)
  sorted : entries.Pairwise fun first second => first.1 < second.1

namespace OrderedMap

variable {κ β : Type} [LinearOrder κ]

/-! ## Sorted lists -/

def lookup (k : κ) : List (κ × β) → Option β
  | [] => none
  | entry :: rest => if entry.1 = k then some entry.2 else lookup k rest

/-- Store a value at the place its key has in a sorted list. -/
def store (k : κ) (v : β) : List (κ × β) → List (κ × β)
  | [] => [(k, v)]
  | entry :: rest =>
      if k < entry.1 then (k, v) :: entry :: rest
      else if entry.1 = k then (k, v) :: rest
      else entry :: store k v rest

theorem mem_store {k : κ} {v : β} {entries : List (κ × β)} {entry : κ × β}
    (member : entry ∈ store k v entries) : entry = (k, v) ∨ entry ∈ entries := by
  induction entries with
  | nil => exact Or.inl (List.mem_singleton.mp member)
  | cons first rest ih =>
      unfold store at member
      split at member
      · rcases List.mem_cons.mp member with new | old
        · exact Or.inl new
        · exact Or.inr old
      · split at member
        · rcases List.mem_cons.mp member with new | old
          · exact Or.inl new
          · exact Or.inr (List.mem_cons_of_mem _ old)
        · rcases List.mem_cons.mp member with same | inRest
          · exact Or.inr (same ▸ List.mem_cons_self)
          · rcases ih inRest with new | old
            · exact Or.inl new
            · exact Or.inr (List.mem_cons_of_mem _ old)

theorem store_sorted (k : κ) (v : β) {entries : List (κ × β)}
    (sorted : entries.Pairwise fun first second => first.1 < second.1) :
    (store k v entries).Pairwise fun first second => first.1 < second.1 := by
  induction entries with
  | nil => exact List.pairwise_singleton _ _
  | cons first rest ih =>
      obtain ⟨below, sorted'⟩ := List.pairwise_cons.mp sorted
      unfold store
      split
      · rename_i before
        refine List.pairwise_cons.mpr ⟨?_, sorted⟩
        intro entry member
        rcases List.mem_cons.mp member with rfl | inRest
        · exact before
        · exact lt_trans before (below entry inRest)
      · split
        · rename_i same
          exact List.pairwise_cons.mpr ⟨fun entry member => same ▸ below entry member, sorted'⟩
        · rename_i notBefore other
          refine List.pairwise_cons.mpr ⟨?_, ih sorted'⟩
          intro entry member
          rcases mem_store member with rfl | old
          · exact lt_of_le_of_ne (not_lt.mp notBefore) other
          · exact below entry old

theorem store_of_lt (k : κ) (v : β) {entries : List (κ × β)}
    (above : ∀ entry ∈ entries, entry.1 < k) : store k v entries = entries ++ [(k, v)] := by
  induction entries with
  | nil => rfl
  | cons first rest ih =>
      have before := above first List.mem_cons_self
      unfold store
      rw [if_neg (not_lt.mpr (le_of_lt before)), if_neg (ne_of_lt before),
        ih fun entry member => above entry (List.mem_cons_of_mem _ member)]
      rfl

theorem lookup_store (k : κ) (v : β) (entries : List (κ × β)) (k' : κ) :
    lookup k' (store k v entries) = if k = k' then some v else lookup k' entries := by
  induction entries with
  | nil => rfl
  | cons first rest ih =>
      unfold store
      split
      · rfl
      · split
        · rename_i same
          simp only [lookup, same]
          split <;> rfl
        · rename_i other
          simp only [lookup, ih]
          by_cases here : first.1 = k'
          · rw [if_pos here, if_pos here, if_neg (fun same => other (here.trans same.symm))]
          · rw [if_neg here, if_neg here]

theorem lookup_filter (k : κ) (entries : List (κ × β)) (k' : κ) :
    lookup k' (entries.filter fun entry => decide (entry.1 ≠ k)) =
      if k = k' then none else lookup k' entries := by
  induction entries with
  | nil => simp [lookup]
  | cons first rest ih =>
      by_cases gone : first.1 = k
      · rw [List.filter_cons_of_neg (by simp [gone]), ih]
        simp only [lookup, gone]
        split <;> rfl
      · rw [List.filter_cons_of_pos (by simp [gone])]
        simp only [lookup, ih]
        by_cases here : first.1 = k'
        · rw [if_pos here, if_pos here, if_neg (fun same => gone (here.trans same.symm))]
        · rw [if_neg here, if_neg here]

def update (k : κ) (f : β → β) (entry : κ × β) : κ × β :=
  if entry.1 = k then (entry.1, f entry.2) else entry

@[simp] theorem update_key (k : κ) (f : β → β) (entry : κ × β) : (update k f entry).1 = entry.1 := by
  unfold update
  split <;> rfl

theorem lookup_update (k : κ) (f : β → β) (entries : List (κ × β)) (k' : κ) :
    lookup k' (entries.map (update k f)) =
      if k = k' then (lookup k' entries).map f else lookup k' entries := by
  induction entries with
  | nil => simp [lookup]
  | cons first rest ih =>
      simp only [List.map_cons, lookup, ih, update_key]
      by_cases here : first.1 = k'
      · rw [if_pos here, if_pos here, update]
        by_cases same : k = k'
        · rw [if_pos same, if_pos (here.trans same.symm)]
          rfl
        · rw [if_neg same, if_neg (fun equal => same (equal.symm.trans here))]
      · rw [if_neg here, if_neg here]

theorem key_ne_of_lookup_eq_none {k : κ} {entries : List (κ × β)}
    (absent : lookup k entries = none) : ∀ entry ∈ entries, entry.1 ≠ k := by
  induction entries with
  | nil => exact fun _ member => absurd member List.not_mem_nil
  | cons first rest ih =>
      rw [lookup] at absent
      split at absent
      · cases absent
      · rename_i other
        exact List.forall_mem_cons.mpr ⟨other, ih absent⟩

theorem filter_key_self {k : κ} {entries : List (κ × β)} (absent : lookup k entries = none) :
    entries.filter (fun entry => decide (entry.1 ≠ k)) = entries :=
  List.filter_eq_self.mpr fun entry member =>
    decide_eq_true (key_ne_of_lookup_eq_none absent entry member)

/-- Storing a new key and filtering it out again leaves the list. -/
theorem filter_store (k : κ) (v : β) {entries : List (κ × β)} (absent : lookup k entries = none) :
    (store k v entries).filter (fun entry => decide (entry.1 ≠ k)) = entries := by
  induction entries with
  | nil => simp [store]
  | cons first rest ih =>
      have keeps := filter_key_self absent
      have other := key_ne_of_lookup_eq_none absent first List.mem_cons_self
      rw [lookup, if_neg other] at absent
      rw [store]
      split
      · rw [List.filter_cons_of_neg (by simp), keeps]
      · rw [List.filter_cons_of_pos (by simp [other]), ih absent]

theorem filter_update (k : κ) (f : β → β) (entries : List (κ × β)) :
    (entries.map (update k f)).filter (fun entry => decide (entry.1 ≠ k)) =
      entries.filter fun entry => decide (entry.1 ≠ k) := by
  induction entries with
  | nil => rfl
  | cons first rest ih =>
      rw [List.map_cons]
      by_cases same : first.1 = k
      · rw [List.filter_cons_of_neg (by simp [same]), List.filter_cons_of_neg (by simp [same]), ih]
      · rw [List.filter_cons_of_pos (by simp [same]), List.filter_cons_of_pos (by simp [same]), ih,
          update, if_neg same]

/-- A value found in a sorted list is the value of its entry. -/
theorem lookup_eq_some_iff {entries : List (κ × β)}
    (sorted : entries.Pairwise fun first second => first.1 < second.1) (k : κ) (v : β) :
    lookup k entries = some v ↔ (k, v) ∈ entries := by
  induction entries with
  | nil => simp [lookup]
  | cons first rest ih =>
      obtain ⟨below, sorted'⟩ := List.pairwise_cons.mp sorted
      simp only [lookup, List.mem_cons]
      by_cases here : first.1 = k
      · rw [if_pos here]
        constructor
        · intro found
          exact Or.inl (Prod.ext here.symm (Option.some.inj found).symm)
        · rintro (same | later)
          · rw [← same]
          · exact absurd here (ne_of_lt (below _ later))
      · rw [if_neg here, ih sorted']
        constructor
        · exact Or.inr
        · rintro (same | later)
          · exact absurd (congrArg Prod.fst same).symm here
          · exact later

/-! ## Maps -/

def empty : OrderedMap κ β := ⟨[], .nil⟩

def find? (m : OrderedMap κ β) (k : κ) : Option β := lookup k m.entries

/-- `m[k] = v` -/
def insert (m : OrderedMap κ β) (k : κ) (v : β) : OrderedMap κ β :=
  ⟨store k v m.entries, store_sorted k v m.sorted⟩

def erase (m : OrderedMap κ β) (k : κ) : OrderedMap κ β :=
  ⟨m.entries.filter fun entry => decide (entry.1 ≠ k), m.sorted.filter _⟩

/-- `m[k]` changed in place, for a key that is present. -/
def modify (m : OrderedMap κ β) (k : κ) (f : β → β) : OrderedMap κ β where
  entries := m.entries.map (update k f)
  sorted := by
    rw [List.pairwise_map]
    simpa only [update_key] using m.sorted

def size (m : OrderedMap κ β) : Nat := m.entries.length

theorem find?_insert (m : OrderedMap κ β) (k : κ) (v : β) (k' : κ) :
    (m.insert k v).find? k' = if k = k' then some v else m.find? k' :=
  lookup_store k v m.entries k'

@[simp] theorem find?_insert_self (m : OrderedMap κ β) (k : κ) (v : β) :
    (m.insert k v).find? k = some v := by
  rw [find?_insert, if_pos rfl]

theorem find?_insert_of_ne (m : OrderedMap κ β) {k k' : κ} (v : β) (other : k ≠ k') :
    (m.insert k v).find? k' = m.find? k' := by
  rw [find?_insert, if_neg other]

theorem find?_erase (m : OrderedMap κ β) (k k' : κ) :
    (m.erase k).find? k' = if k = k' then none else m.find? k' :=
  lookup_filter k m.entries k'

@[simp] theorem find?_erase_self (m : OrderedMap κ β) (k : κ) : (m.erase k).find? k = none := by
  rw [find?_erase, if_pos rfl]

theorem find?_erase_of_ne (m : OrderedMap κ β) {k k' : κ} (other : k ≠ k') :
    (m.erase k).find? k' = m.find? k' := by
  rw [find?_erase, if_neg other]

theorem find?_modify (m : OrderedMap κ β) (k : κ) (f : β → β) (k' : κ) :
    (m.modify k f).find? k' = if k = k' then (m.find? k').map f else m.find? k' :=
  lookup_update k f m.entries k'

@[simp] theorem find?_modify_self (m : OrderedMap κ β) (k : κ) (f : β → β) :
    (m.modify k f).find? k = (m.find? k).map f := by
  rw [find?_modify, if_pos rfl]

theorem find?_modify_of_ne (m : OrderedMap κ β) {k k' : κ} (f : β → β) (other : k ≠ k') :
    (m.modify k f).find? k' = m.find? k' := by
  rw [find?_modify, if_neg other]

theorem find?_eq_some_iff (m : OrderedMap κ β) (k : κ) (v : β) :
    m.find? k = some v ↔ (k, v) ∈ m.entries :=
  lookup_eq_some_iff m.sorted k v

/-- A new key stored and erased again leaves no trace. -/
theorem erase_insert {m : OrderedMap κ β} {k : κ} (v : β) (absent : m.find? k = none) :
    (m.insert k v).erase k = m := by
  have same := filter_store k v absent
  cases m
  unfold erase insert
  congr 1

theorem erase_modify (m : OrderedMap κ β) (k : κ) (f : β → β) :
    (m.modify k f).erase k = m.erase k := by
  have same := filter_update k f m.entries
  unfold erase modify
  congr 1

/-- A key above all others goes to the end of the iteration. -/
theorem insert_entries_of_lt (m : OrderedMap κ β) (k : κ) (v : β)
    (above : ∀ entry ∈ m.entries, entry.1 < k) : (m.insert k v).entries = m.entries ++ [(k, v)] :=
  store_of_lt k v above

end OrderedMap

end Tun01
