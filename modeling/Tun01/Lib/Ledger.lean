import Mathlib.Data.List.Nodup

/-!
# Ledgers of resources

A ledger lists calls, each of which touches one resource.  Some calls acquire
their resource and some release it.  In a good ledger every resource is
acquired once and is not touched after its release.
-/

namespace Tun01

namespace Ledger

variable {α κ : Type} (touches : α → κ) (releases : α → Bool) (acquires : α → Option κ)

/-- A resource was released. -/
def Released (ledger : List α) (k : κ) : Prop :=
  ∃ call ∈ ledger, releases call = true ∧ touches call = k

/-- No resource is touched after its release. -/
def Sealed (ledger : List α) : Prop :=
  ledger.Pairwise fun early late => releases early = true → touches late ≠ touches early

/-- Every resource is acquired once. -/
def Distinct (ledger : List α) : Prop := (ledger.filterMap acquires).Nodup

variable {touches releases acquires} {ledger more : List α} {k : κ}

theorem released_append : Released touches releases (ledger ++ more) k ↔
    Released touches releases ledger k ∨ Released touches releases more k := by
  constructor
  · rintro ⟨call, member, released, same⟩
    rcases List.mem_append.mp member with old | new
    · exact Or.inl ⟨call, old, released, same⟩
    · exact Or.inr ⟨call, new, released, same⟩
  · rintro (⟨call, member, rest⟩ | ⟨call, member, rest⟩)
    · exact ⟨call, List.mem_append_left _ member, rest⟩
    · exact ⟨call, List.mem_append_right _ member, rest⟩

theorem released_single {call : α} : Released touches releases [call] k ↔
    releases call = true ∧ touches call = k := by
  constructor
  · rintro ⟨other, member, rest⟩
    rw [List.mem_singleton.mp member] at rest
    exact rest
  · exact fun rest => ⟨call, List.mem_singleton_self call, rest⟩

/-- More calls, on resources that were not released. -/
theorem sealed_append : Sealed touches releases (ledger ++ more) ↔
    Sealed touches releases ledger ∧ Sealed touches releases more ∧
      ∀ call ∈ more, ¬ Released touches releases ledger (touches call) := by
  unfold Sealed
  rw [List.pairwise_append]
  constructor
  · rintro ⟨first, second, apart⟩
    refine ⟨first, second, ?_⟩
    rintro call member ⟨early, inLedger, released, same⟩
    exact apart early inLedger call member released same.symm
  · rintro ⟨first, second, apart⟩
    exact ⟨first, second, fun early inLedger late inMore released same =>
      apart late inMore ⟨early, inLedger, released, same.symm⟩⟩

theorem Sealed.snoc {call : α} (before : Sealed touches releases ledger)
    (held : ¬ Released touches releases ledger (touches call)) :
    Sealed touches releases (ledger ++ [call]) :=
  sealed_append.mpr ⟨before, List.pairwise_singleton _ _, fun other member => by
    rw [List.mem_singleton.mp member]
    exact held⟩

/-- A resource is released at most once. -/
theorem Sealed.released_once (good : Sealed touches releases ledger) :
    ((ledger.filter releases).map touches).Nodup := by
  unfold List.Nodup
  rw [List.pairwise_map]
  have released := List.pairwise_filter.mpr
    (good.imp fun apart (early : releases _ = true) (_ : releases _ = true) => apart early)
  exact released.imp fun apart same => apart same.symm

/-- The call that acquired a resource. -/
theorem Distinct.unique (distinct : Distinct acquires ledger) {first second : α}
    (inFirst : first ∈ ledger) (inSecond : second ∈ ledger) (acquired : acquires first = some k)
    (again : acquires second = some k) : first = second := by
  induction ledger with
  | nil => cases inFirst
  | cons call rest ih =>
      have later : Distinct acquires rest := by
        unfold Distinct at distinct
        cases here : acquires call with
        | none =>
            rw [List.filterMap_cons_none here] at distinct
            exact distinct
        | some k' =>
            rw [List.filterMap_cons_some here] at distinct
            exact (List.nodup_cons.mp distinct).2
      have once : acquires call = some k → ∀ other ∈ rest, acquires other ≠ some k := by
        intro here other member same
        unfold Distinct at distinct
        rw [List.filterMap_cons_some here] at distinct
        exact (List.nodup_cons.mp distinct).1 (List.mem_filterMap.mpr ⟨other, member, same⟩)
      rcases List.mem_cons.mp inFirst with rfl | firstLater
      · rcases List.mem_cons.mp inSecond with rfl | secondLater
        · rfl
        · exact absurd again (once acquired second secondLater)
      · rcases List.mem_cons.mp inSecond with rfl | secondLater
        · exact absurd acquired (once again first firstLater)
        · exact ih later firstLater secondLater

/-- A resource that is new is acquired. -/
theorem Distinct.snoc (distinct : Distinct acquires ledger) {call : α}
    (new : ∀ k, acquires call = some k → k ∉ ledger.filterMap acquires) :
    Distinct acquires (ledger ++ [call]) := by
  unfold Distinct
  rw [List.filterMap_append]
  cases acquired : acquires call with
  | none =>
      rw [List.filterMap_cons_none acquired, List.filterMap_nil, List.append_nil]
      exact distinct
  | some k =>
      rw [List.filterMap_cons_some acquired, List.filterMap_nil, List.nodup_append]
      refine ⟨distinct, List.nodup_singleton k, ?_⟩
      intro first inFirst second inSecond same
      rw [same, List.mem_singleton.mp inSecond] at inFirst
      exact new k acquired inFirst

end Ledger

end Tun01
