import Mathlib.Logic.Relation
import Tun01.Net.PollRound

/-!
# The cursor of a round

Handlers that run in the middle of a round change the poller only by its own
functions.  Whatever they do, the record the cursor meets next is one that
`poll` reported, with the flags it reported, and none is met twice.
-/

namespace Tun01.Poller

variable {ρ : Type}

/-! ## Records that are alike -/

def calm (entry : PolledAndPollfd ρ) : PolledAndPollfd ρ := withRevents .zero entry

/-- The same records, flags aside; the cursor may be anywhere. -/
structure Alike (p q : Poller ρ) : Prop where
  records : q.m_polled.map calm = p.m_polled.map calm
  finishing : q.m_finishing = p.m_finishing

theorem Alike.advance (p : Poller ρ) : Alike p p.advance := ⟨rfl, rfl⟩

theorem Alike.beginRound (p : Poller ρ) (revents : Nat → PollEvents) :
    Alike p (p.beginRound revents) where
  records := by
    refine List.ext_getElem? fun i => ?_
    unfold Poller.beginRound
    rw [List.getElem?_map, List.getElem?_map, List.getElem?_mapIdx, Option.map_map]
    cases p.m_polled[i]? <;> rfl
  finishing := rfl

/-- An object has the same registrations, flags aside. -/
theorem Alike.registrations [DecidableEq ρ] {p q : Poller ρ} (alike : Alike p q) (x : ρ) :
    (q.registrations x).map (fun record => { record with revents := .zero }) =
      (p.registrations x).map fun record => { record with revents := .zero } := by
  have same : ∀ entries : List (PolledAndPollfd ρ),
      (registered x entries).map (fun record => { record with revents := .zero }) =
        registered x (entries.map calm) := by
    intro entries
    unfold registered
    rw [List.filter_map, List.map_map, List.map_map]
    rfl
  unfold Poller.registrations
  rw [same, same, alike.records]

/-! ## Records are not replaced -/

def face (entry : PolledAndPollfd ρ) : ρ × Int × PollEvents :=
  (entry.m_polled, entry.m_pollfd.fd, entry.m_pollfd.revents)

/-- The records of `q` that are not new are records of `p` with the same face. -/
structure Remembers (p q : Poller ρ) : Prop where
  heap : p.heap ≤ q.heap
  faces : ∀ entry ∈ q.m_polled, entry.ptr < p.heap →
    ∃ before ∈ p.m_polled, before.ptr = entry.ptr ∧ face before = face entry

theorem Remembers.refl (p : Poller ρ) : Remembers p p :=
  ⟨Nat.le_refl _, fun entry member _ => ⟨entry, member, rfl, rfl⟩⟩

theorem Remembers.trans {p q r : Poller ρ} (first : Remembers p q) (second : Remembers q r) :
    Remembers p r where
  heap := Nat.le_trans first.heap second.heap
  faces := by
    intro entry member old
    obtain ⟨between, inBetween, ptr, same⟩ :=
      second.faces entry member (Nat.lt_of_lt_of_le old first.heap)
    obtain ⟨before, inBefore, ptr', same'⟩ := first.faces between inBetween (ptr ▸ old)
    exact ⟨before, inBefore, ptr'.trans ptr, same'.trans same⟩

/-! ## The rest of a round -/

/-- Of the records `poll` reported, the turns of `rest` have not come. -/
structure Round (p : Poller ρ) (rest : List (PolledAndPollfd ρ)) : Prop where
  walk : Walk p 0 (rest.map turn)
  old : ∀ entry ∈ rest, entry.ptr < p.heap
  faces : ∀ entry ∈ p.m_polled, ∀ before ∈ rest, before.ptr = entry.ptr →
    face before = face entry

/-- The cursor has not reached the bound, and points to the record. -/
def Meets (p : Poller ρ) (entry : PolledAndPollfd ρ) : Prop :=
  p.m_index < p.m_orig_size ∧ p.entryAt p.m_index = some entry

/-- Before the first round there is nothing to meet. -/
theorem not_meets {p : Poller ρ} (none : p.m_orig_size ≤ 0) (entry : PolledAndPollfd ρ) :
    ¬ p.Meets entry := by
  rintro ⟨inside, here⟩
  unfold entryAt at here
  rw [if_neg (by omega)] at here
  cases here

theorem Round.beginRound (p : Poller ρ) (revents : Nat → PollEvents) :
    (p.beginRound revents).Round (p.beginRound revents).m_polled where
  walk := beginRound_walk p revents
  old := (p.beginRound revents).allocated
  faces := by
    intro entry member before inBefore same
    rw [List.inj_on_of_nodup_map (p.beginRound revents).distinct inBefore member same]

/-! ## What handlers do -/

variable [DecidableEq ρ]

/-- One call of a handler. -/
inductive Call (p : Poller ρ) : Poller ρ → Prop where
  | op (op : Op ρ) : Call p (p.applyOp op).1
  | finish : Call p p.requestFinish

/-- The poller after the calls of a handler. -/
def Driven : Poller ρ → Poller ρ → Prop := Relation.ReflTransGen Call

theorem Driven.refl (p : Poller ρ) : Driven p p := Relation.ReflTransGen.refl

theorem Driven.trans {p q r : Poller ρ} (first : Driven p q) (second : Driven q r) : Driven p r :=
  Relation.ReflTransGen.trans first second

theorem Driven.addPolled (p : Poller ρ) (to_add : ρ) (fd : Int) (events : PollEvents) :
    Driven p (p.addPolled to_add fd events) :=
  Relation.ReflTransGen.single (.op (.addPolled to_add fd events))

theorem Driven.setEvents (p : Poller ρ) (to_set : ρ) (fd : Int) (events : PollEvents) :
    Driven p (p.setEvents to_set fd events) :=
  Relation.ReflTransGen.single (.op (.setEvents to_set fd events))

theorem Driven.removePolled (p : Poller ρ) (to_remove : ρ) (fd : Int) :
    Driven p (p.removePolled to_remove fd) :=
  Relation.ReflTransGen.single (.op (.removePolled to_remove fd))

theorem Driven.requestFinish (p : Poller ρ) : Driven p p.requestFinish :=
  Relation.ReflTransGen.single .finish

theorem Call.remembers {p q : Poller ρ} (call : Call p q) : Remembers p q := by
  cases call with
  | finish => exact ⟨Nat.le_refl _, fun entry member _ => ⟨entry, member, rfl, rfl⟩⟩
  | op op =>
      cases op with
      | addPolled to_add fd events =>
          refine ⟨Nat.le_succ _, fun entry member old => ?_⟩
          rcases List.mem_append.mp member with before | new
          · exact ⟨entry, before, rfl, rfl⟩
          · rw [List.mem_singleton.mp new] at old
            exact absurd old (Nat.lt_irrefl _)
      | setEvents to_set fd events =>
          refine ⟨Nat.le_refl _, fun entry member _ => ?_⟩
          obtain ⟨i, found⟩ := List.mem_iff_getElem?.mp member
          have modified : (p.m_polled.modify (p.findPolled to_set fd) (withEvents events))[i]? =
              some entry := found
          rw [List.getElem?_modify] at modified
          obtain ⟨before, there, is⟩ := Option.map_eq_some_iff.mp modified
          refine ⟨before, List.mem_of_getElem? there, ?_⟩
          rw [← is]
          split <;> exact ⟨rfl, rfl⟩
      | removePolled to_remove fd =>
          have part : (p.removePolled to_remove fd).m_polled.Sublist p.m_polled := by
            unfold Poller.removePolled
            split
            · exact List.eraseIdx_sublist _ _
            · exact List.Sublist.refl _
          refine ⟨?_, fun entry member _ => ⟨entry, part.mem member, rfl, rfl⟩⟩
          change p.heap ≤ (p.removePolled to_remove fd).heap
          unfold Poller.removePolled
          split <;> exact Nat.le_refl _

theorem Driven.remembers {p q : Poller ρ} (driven : Driven p q) : Remembers p q := by
  induction driven with
  | refl => exact .refl p
  | tail _ last ih => exact ih.trans last.remembers

/-- Outside of a round the bound stays below. -/
theorem Driven.size {p q : Poller ρ} (driven : Driven p q) (none : p.m_orig_size ≤ 0) :
    q.m_orig_size ≤ 0 := by
  induction driven with
  | refl => exact none
  | @tail q r _ last ih =>
      cases last with
      | finish => exact ih
      | op op =>
          cases op with
          | addPolled _ _ _ | setEvents _ _ _ => exact ih
          | removePolled to_remove fd =>
              change (q.removePolled to_remove fd).m_orig_size ≤ 0
              unfold Poller.removePolled
              split
              · change (if _ < q.m_orig_size then q.m_orig_size - 1 else q.m_orig_size) ≤ 0
                split <;> omega
              · exact ih

/-- The calls of a handler keep the walk. -/
theorem Driven.walk {p q : Poller ρ} (driven : Driven p q) {waiting : List (Nat × PollEvents)}
    (walk : Walk p 1 waiting) (old : ∀ t ∈ waiting, t.1 < p.heap) : Walk q 1 waiting := by
  induction driven with
  | refl => exact walk
  | @tail q r earlier last ih =>
      cases last with
      | op op =>
          refine applyOp_walk ih (fun t member => ?_) op
          exact Nat.lt_of_lt_of_le (old t member) (Driven.remembers earlier).heap
      | finish => exact ih.of_turns rfl rfl rfl

/-- The record at the cursor is one of those, and its handler leaves a later part of them. -/
theorem Round.front {p : Poller ρ} {rest : List (PolledAndPollfd ρ)} (round : p.Round rest)
    {entry : PolledAndPollfd ρ} (meets : p.Meets entry) :
    ∃ before first after, rest = before ++ first :: after ∧ first.ptr = entry.ptr ∧
      face first = face entry ∧ ∀ {q}, Driven p q → q.advance.Round after := by
  obtain ⟨inside, here⟩ := meets
  obtain ⟨visited, todo, added, split⟩ := round.walk
  have cursor := split.cursor
  have bound := split.bound
  cases todo with
  | nil =>
      rw [List.length_nil] at bound
      omega
  | cons head todo =>
      have found := entryAt_split split.entries (by omega)
      obtain rfl : head = entry := Option.some.inj (found.symm.trans here)
      have member : head ∈ p.m_polled := by
        rw [split.entries]
        simp
      have turns := split.turns.symm
      rw [List.map_cons] at turns
      obtain ⟨passed, more, whole, _, _, turns⟩ := List.filter_eq_cons_iff.mp turns
      obtain ⟨before, later, rfl, rfl, isLater⟩ := List.map_eq_append_iff.mp whole
      obtain ⟨first, after, rfl, isTurn, rfl⟩ := List.map_eq_cons_iff.mp isLater
      have inRest : first ∈ before ++ first :: after :=
        List.mem_append_right _ List.mem_cons_self
      have ptr : first.ptr = head.ptr := congrArg Prod.fst isTurn
      refine ⟨before, first, after, rfl, ptr, round.faces head member first inRest ptr, ?_⟩
      intro q driven
      have stays : ∀ entry ∈ after, entry ∈ before ++ first :: after := fun entry inAfter =>
        List.mem_append_right _ (List.mem_cons_of_mem _ inAfter)
      have passed : Walk p 1 (after.map turn) := by
        refine ⟨visited ++ [head], todo, added, ?_, ?_, ?_, turns.symm⟩
        · rw [split.entries]
          simp
        · rw [List.length_append, List.length_singleton]
          omega
        · rw [List.length_append, List.length_singleton]
          rw [List.length_cons] at bound
          omega
      obtain ⟨visited', todo', added', split'⟩ := driven.walk passed fun t inAfter => by
        obtain ⟨entry, isEntry, rfl⟩ := List.mem_map.mp inAfter
        exact round.old entry (stays entry isEntry)
      have remembers := driven.remembers
      refine ⟨⟨visited', todo', added', split'.entries, ?_, split'.bound, split'.turns⟩, ?_, ?_⟩
      · have cursor' := split'.cursor
        change q.m_index + 1 + 0 = _
        omega
      · exact fun entry inAfter =>
          Nat.lt_of_lt_of_le (round.old entry (stays entry inAfter)) remembers.heap
      · intro entry member' before' inAfter same
        have old := round.old before' (stays before' inAfter)
        obtain ⟨between, inBetween, ptr', isFace⟩ :=
          remembers.faces entry member' (same ▸ old)
        exact (round.faces between inBetween before' (stays before' inAfter)
          (same.trans ptr'.symm)).trans isFace

end Tun01.Poller
