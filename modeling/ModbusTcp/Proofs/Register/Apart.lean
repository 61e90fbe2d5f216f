import Mathlib.Order.CompletePartialOrder
import Mathlib.Order.Interval.Set.Disjoint
import ModbusTcp.Proofs.Register.Layout

/-!
# Definitions that keep apart

A layout is checked in the order of the addresses, each definition against the one before it alone.  This comes
to a condition on any two of them, wherever they stand in the list.  Only definitions without registers are
different: at the address of one with registers they are accepted in front of it, and rejected behind it.

* `Definition.Apart` — two definitions that keep apart, whichever comes first.
* `Layout.Tidy` — no definition without registers is listed behind one with registers at its address.
* `Layout.validate_eq_ok_iff_apart` — acceptance, told without the order of the addresses.
* `Definition.addresses`, `Definition.disjoint_addresses_iff` — definitions with addresses of their own.
* **`Layout.validate_eq_ok_iff_disjoint`** — the layouts of definitions with registers that are accepted.
-/

namespace ModbusTcp

namespace Definition

/-- Two definitions keep apart: at different addresses the lower one ends before the other one begins, and at
one address at most one of them has registers. -/
structure Apart (left right : Definition) : Prop where
  before : left.address < right.address → left.Before right
  behind : right.address < left.address → right.Before left
  beside : left.address = right.address → left.count = 0 ∨ right.count = 0

theorem Apart.symm {left right : Definition} (apart : left.Apart right) : right.Apart left where
  before := apart.behind
  behind := apart.before
  beside := fun same => (apart.beside same.symm).symm

/-- The second of two definitions is not one without registers at the address of one with registers. -/
def InTurn (left right : Definition) : Prop :=
  left.address = right.address → left.count ≠ 0 → right.count ≠ 0

instance (left right : Definition) : Decidable (left.InTurn right) :=
  inferInstanceAs (Decidable (_ → _ → _))

/-- In the order of their addresses, one definition ends before the next if they keep apart and are in turn. -/
theorem before_iff_apart {left right : Definition} (ascending : left.address.toNat ≤ right.address.toNat) :
    left.Before right ↔ left.Apart right ∧ left.InTurn right := by
  have none : left.count = 0 ↔ left.count.toNat = 0 := UInt8.toNat_inj.symm
  have equal : left.address = right.address ↔ left.address.toNat = right.address.toNat := UInt16.toNat_inj.symm
  constructor
  · intro before
    have empty (same : left.address = right.address) : left.count = 0 := by
      rw [none]
      rw [equal] at same
      simp only [Before, stop] at before
      omega
    refine ⟨⟨fun _ => before, fun below => ?_, fun same => .inl (empty same)⟩, fun same some => ?_⟩
    · rw [UInt16.lt_iff_toNat_lt] at below
      omega
    · exact absurd (empty same) some
  · intro both
    obtain ⟨apart, inTurn⟩ := both
    by_cases same : left.address = right.address
    · have empty : left.count = 0 := by
        cases apart.beside same with
        | inl empty => exact empty
        | inr empty => exact Decidable.not_not.mp fun some => inTurn same some empty
      rw [Before, stop, none.mp empty, same]
      exact Nat.le_refl _
    · refine apart.before (UInt16.lt_iff_toNat_lt.mpr ?_)
      rw [equal] at same
      omega

end Definition

namespace Layout

variable {definitions : List Definition}

/-- No definition without registers is listed behind one with registers at its address. -/
def Tidy (definitions : List Definition) : Prop := definitions.Pairwise Definition.InTurn

instance (definitions : List Definition) : Decidable (Tidy definitions) :=
  inferInstanceAs (Decidable (definitions.Pairwise _))

/-- Two definitions at one address are in the same order before and after sorting. -/
theorem pair_sublist_sorted_iff {first second : Definition} (same : first.address = second.address) :
    [first, second].Sublist (sorted definitions) ↔ [first, second].Sublist definitions := by
  have own (list : List Definition) : [first, second].Sublist list ↔
      [first, second].Sublist (list.filter (·.address = second.address)) := by
    constructor
    · intro among
      have filtered := among.filter (·.address = second.address)
      rwa [List.filter_eq_self.mpr (by simp [same])] at filtered
    · intro among
      exact among.trans List.filter_sublist
  rw [own, filter_sorted, ← own]

/-- Sorting leaves a list tidy, and does not make it so. -/
theorem tidy_sorted_iff : Tidy (sorted definitions) ↔ Tidy definitions := by
  rw [Tidy, Tidy, List.pairwise_iff_forall_sublist, List.pairwise_iff_forall_sublist]
  constructor
  · intro tidy first second among same
    exact tidy ((pair_sublist_sorted_iff same).mpr among) same
  · intro tidy first second among same
    exact tidy ((pair_sublist_sorted_iff same).mp among) same

/-- A layout is accepted exactly if each definition fits, any two of them keep apart, and the list is tidy. -/
theorem validate_eq_ok_iff_apart :
    validate definitions = .ok () ↔ (∀ definition ∈ definitions, definition.Fits) ∧
      definitions.Pairwise Definition.Apart ∧ Tidy definitions := by
  have apart : (sorted definitions).Pairwise Definition.Before ↔
      (sorted definitions).Pairwise Definition.Apart ∧ Tidy (sorted definitions) := by
    rw [Tidy, ← List.pairwise_and_iff]
    have ascending := pairwise_sorted definitions
    constructor
    · intro before
      exact (before.and ascending).imp fun both => (Definition.before_iff_apart both.2).mp both.1
    · intro both
      exact (both.and ascending).imp fun both => (Definition.before_iff_apart both.2).mpr both.1
  rw [validate_eq_ok_iff, apart, tidy_sorted_iff,
    (sorted_perm definitions).pairwise_iff fun apart => apart.symm]

end Layout

/-! ### Definitions with addresses of their own -/

namespace Definition

/-- The addresses of the registers. -/
def addresses (definition : Definition) : Set Nat :=
  Set.Ico definition.address.toNat (definition.address.toNat + definition.count.toNat)

/-- Two definitions with registers share no address exactly if they keep apart. -/
theorem disjoint_addresses_iff {left right : Definition} (positive : 1 ≤ left.count.toNat)
    (positive' : 1 ≤ right.count.toNat) : Disjoint left.addresses right.addresses ↔ left.Apart right := by
  have equal : left.address = right.address ↔ left.address.toNat = right.address.toNat := UInt16.toNat_inj.symm
  have some : left.count ≠ 0 := fun none => Nat.ne_of_gt positive (congrArg UInt8.toNat none)
  have some' : right.count ≠ 0 := fun none => Nat.ne_of_gt positive' (congrArg UInt8.toNat none)
  rw [addresses, addresses, Set.Ico_disjoint_Ico]
  constructor
  · intro disjoint
    refine ⟨fun below => ?_, fun above => ?_, fun same => ?_⟩
    · rw [UInt16.lt_iff_toNat_lt] at below
      rw [Before, stop]
      omega
    · rw [UInt16.lt_iff_toNat_lt] at above
      rw [Before, stop]
      omega
    · rw [equal] at same
      omega
  · intro apart
    have before := apart.before
    have behind := apart.behind
    have beside : left.address.toNat ≠ right.address.toNat := fun same =>
      (apart.beside (equal.mpr same)).elim some some'
    rw [UInt16.lt_iff_toNat_lt] at before behind
    simp only [Before, stop] at before behind
    omega

end Definition

namespace Layout

variable {definitions : List Definition}

/-- **A layout of definitions with registers is accepted exactly if** each of them ends within the address
range, each value fits into its registers, and no two of them share an address. -/
theorem validate_eq_ok_iff_disjoint (positive : ∀ definition ∈ definitions, 1 ≤ definition.count.toNat) :
    validate definitions = .ok () ↔
      (∀ definition ∈ definitions, definition.address.toNat + definition.count.toNat ≤ 65536 ∧
        definition.register.width ≤ 2 * definition.count.toNat) ∧
      definitions.Pairwise fun left right => Disjoint left.addresses right.addresses := by
  have each (definition : Definition) : definition.Fits ↔
      definition.address.toNat + definition.count.toNat ≤ 65536 ∧
        definition.register.width ≤ 2 * definition.count.toNat := by
    constructor
    · intro fits
      exact ⟨fits.stop, fits.width⟩
    · intro fits
      exact ⟨fits.1, fits.2⟩
  have tidy : Tidy definitions := by
    refine List.pairwise_of_forall_mem_list ?_
    intro left _ right there _ _ none
    exact Nat.ne_of_gt (positive right there) (congrArg UInt8.toNat none)
  have apart : definitions.Pairwise Definition.Apart ↔
      definitions.Pairwise fun left right => Disjoint left.addresses right.addresses := by
    refine List.Pairwise.iff_of_mem ?_
    intro left right there there'
    exact (Definition.disjoint_addresses_iff (positive left there) (positive right there')).symm
  rw [validate_eq_ok_iff_apart, apart, and_iff_left tidy, forall₂_congr fun definition _ => each definition]

/-- The last two registers there are and those before them, listed the other way round: they are accepted, and
no longer so if the latter reach one register further. -/
theorem validate_at_the_end :
    let last : Definition := { label := "Last", address := 65534, count := 2, register := .numeric .f32 none }
    let before (count : UInt8) : Definition :=
      { label := "Before", address := 65530, count, register := .text 7 none }
    validate [last, before 4] = .ok () ∧ validate [last, before 5] ≠ .ok () := by
  intro last before
  have apart (count : UInt8) :
      [last, before count].Pairwise (fun left right => Disjoint left.addresses right.addresses) ↔
        65530 + count.toNat ≤ 65534 := by
    rw [List.pairwise_pair, Definition.addresses, Definition.addresses, Set.Ico_disjoint_Ico]
    show min 65536 (65530 + count.toNat) ≤ max 65534 65530 ↔ _
    omega
  constructor
  · exact (validate_eq_ok_iff_disjoint (by decide)).mpr ⟨by decide, (apart 4).mpr (by decide)⟩
  · intro accepted
    have disjoint := ((validate_eq_ok_iff_disjoint (by decide)).mp accepted).2
    exact absurd ((apart 5).mp disjoint) (by decide)

end Layout

end ModbusTcp
