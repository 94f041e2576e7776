import Mathlib.Data.List.Basic
import Mathlib.Data.List.TakeDrop
import Mathlib.Tactic.Common

/-!
# The buffer list

A dynamic array that grows by blocks.  The slots keep what was last stored in
them; only the first `count` of them are the list.
-/

namespace Tun01

/-- `sblist`: the slots stored to so far, of the `capa` that `items` has room for. -/
structure Sblist (α : Type) where
  blockitems : Nat
  count : Nat
  capa : Nat
  items : List α
  within : count ≤ items.length
  allocated : items.length ≤ capa
  positive : 0 < blockitems

namespace Sblist

variable {α : Type}

/-- `memmove` of `n` slots; both regions lie in the array and may overlap. -/
def memmove (slots : List α) (dest src n : Nat) : List α :=
  slots.take dest ++ (slots.drop src).take n ++ slots.drop (dest + n)

def memcpy (slots : List α) (pos : Nat) (item : α) : List α :=
  slots.take pos ++ item :: slots.drop (pos + 1)

theorem memmove_length {slots : List α} {dest src n : Nat} (into : dest + n ≤ slots.length)
    (from_ : src + n ≤ slots.length) : (memmove slots dest src n).length = slots.length := by
  simp only [memmove, List.length_append, List.length_take, List.length_drop]
  omega

theorem memcpy_length {slots : List α} {pos : Nat} (item : α) (inside : pos ≤ slots.length) :
    (memcpy slots pos item).length = max slots.length (pos + 1) := by
  simp only [memcpy, List.length_append, List.length_take, List.length_cons, List.length_drop]
  omega

/-- `sblist_new(itemsize, blockitems)`, with a number of items that is not zero. -/
def new (blockitems : Nat) (positive : 0 < blockitems) : Sblist α where
  blockitems := blockitems
  count := 0
  capa := 0
  items := []
  within := Nat.le_refl 0
  allocated := Nat.le_refl 0
  positive := positive

def contents (l : Sblist α) : List α := l.items.take l.count

/-- `sblist_get` -/
def get (l : Sblist α) (item : Nat) : Option α :=
  if item < l.count then l.items[item]? else none

/-- `sblist_grow_if_needed`, with whether `realloc` has room for one more block. -/
def growIfNeeded (l : Sblist α) (room : Bool) :
    Option { grown : Sblist α // grown.count < grown.capa } :=
  if full : l.count = l.capa then
    if room then
      some ⟨{ l with
        capa := l.capa + l.blockitems
        allocated := Nat.le_trans l.allocated (Nat.le_add_right _ _) },
        Nat.lt_of_le_of_lt (Nat.le_of_eq full) (Nat.lt_add_of_pos_right l.positive)⟩
    else none
  else some ⟨l, Nat.lt_of_le_of_ne (Nat.le_trans l.within l.allocated) full⟩

/-- `count++`, then `sblist_set` at the last position. -/
def push (l : Sblist α) (free : l.count < l.capa) (item : α) : Sblist α where
  blockitems := l.blockitems
  count := l.count + 1
  capa := l.capa
  items := memcpy l.items l.count item
  within := by
    rw [memcpy_length item l.within]
    exact Nat.le_max_right _ _
  allocated := by
    rw [memcpy_length item l.within]
    exact Nat.max_le.mpr ⟨l.allocated, free⟩
  positive := l.positive

/-- `sblist_add` -/
def add (l : Sblist α) (room : Bool) (item : α) : Option (Sblist α) :=
  (l.growIfNeeded room).map fun grown => grown.1.push grown.2 item

/-- `sblist_delete`: the items behind move one slot down, over the deleted one. -/
def delete (l : Sblist α) (item : Nat) : Sblist α :=
  if inside : item < l.count then
    { l with
      count := l.count - 1
      items := memmove l.items item (item + 1) (l.count - (item + 1))
      within := by
        have within := l.within
        rw [memmove_length (by omega) (by omega)]
        omega
      allocated := by
        have within := l.within
        rw [memmove_length (by omega) (by omega)]
        exact l.allocated }
  else l

/-! ## The list under the operations -/

@[simp] theorem contents_length (l : Sblist α) : l.contents.length = l.count := by
  rw [contents, List.length_take, Nat.min_eq_left l.within]

theorem get_eq (l : Sblist α) (item : Nat) : l.get item = l.contents[item]? := by
  rw [get, contents, List.getElem?_take]

theorem push_contents (l : Sblist α) (free : l.count < l.capa) (item : α) :
    (l.push free item).contents = l.contents ++ [item] := by
  have before : (l.items.take l.count).length = l.count := l.contents_length
  change (l.items.take l.count ++ item :: l.items.drop (l.count + 1)).take (l.count + 1) = _
  rw [List.take_append, before, List.take_of_length_le (by omega),
    show l.count + 1 - l.count = 1 by omega]
  rfl

/-- `sblist_add` puts the item behind the others, or leaves the list alone. -/
theorem add_contents {l grown : Sblist α} {room : Bool} {item : α}
    (added : l.add room item = some grown) : grown.contents = l.contents ++ [item] := by
  obtain ⟨larger, grows, rfl⟩ := Option.map_eq_some_iff.mp added
  rw [push_contents]
  unfold growIfNeeded at grows
  split at grows
  · split at grows
    · rw [← Option.some.inj grows]
      rfl
    · cases grows
  · rw [← Option.some.inj grows]

/-- `sblist_delete` takes one item out of the list and keeps the order of the others. -/
theorem delete_contents {l : Sblist α} {item : Nat} (inside : item < l.count) :
    (l.delete item).contents = l.contents.eraseIdx item := by
  have within := l.within
  have front : (l.items.take item).length = item := by
    rw [List.length_take]
    omega
  have moved : ((l.items.drop (item + 1)).take (l.count - (item + 1))).length =
      l.count - (item + 1) := by
    rw [List.length_take, List.length_drop]
    omega
  have kept : (l.items.take item ++ (l.items.drop (item + 1)).take (l.count - (item + 1))).length =
      l.count - 1 := by
    rw [List.length_append, front, moved]
    omega
  rw [delete, dif_pos inside, List.eraseIdx_eq_take_drop_succ]
  change (memmove l.items item (item + 1) (l.count - (item + 1))).take (l.count - 1) = _
  rw [memmove, List.take_append_of_le_length (Nat.le_of_eq kept.symm),
    List.take_of_length_le (Nat.le_of_eq kept), contents, List.take_take,
    Nat.min_eq_left (by omega), List.drop_take]

theorem delete_count {l : Sblist α} {item : Nat} (inside : item < l.count) :
    (l.delete item).count = l.count - 1 := by
  rw [delete, dif_pos inside]

end Sblist

end Tun01
