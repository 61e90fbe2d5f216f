import ModbusTcp.Address

/-!
# The longest run of zeros

The text of an IPv6 address leaves out the longest run of zero groups, the first of several.  The run is found in one
pass over the groups.  What is known at a position is the longest run that ends there, and the first longest one of
those that end there or before.

* `ZeroRun.Within` — the groups of a run are zeros; `ZeroRun.Within.append_eq` puts them between the others.
* `ZeroRun.Yields` — a run is shorter than another, or as long and not in front of it.
* `ZeroRun.EndsAt`, `ZeroRun.BestBy` — what is known at a position; `longestFrom_bestBy` takes it to the end.
* `ZeroRun.IsLongest`, **`isLongest_longestZeroRun`** — the first of the longest runs is found.
-/

namespace ModbusTcp.IpAddress

namespace ZeroRun

/-- The groups of a run are zeros. -/
def Within (groups : List Nat) (run : ZeroRun) : Prop :=
  ∀ index, run.start ≤ index → index < run.start + run.length → groups[index]? = some 0

/-- A run is shorter than another one, or as long and not in front of it. -/
def Yields (run best : ZeroRun) : Prop :=
  run.length < best.length ∨ run.length = best.length ∧ (run.length = 0 ∨ best.start ≤ run.start)

/-- A run of zeros to which all others yield. -/
structure IsLongest (groups : List Nat) (run : ZeroRun) : Prop where
  within : run.Within groups
  yields : ∀ other : ZeroRun, other.Within groups → other.Yields run

/-- The longest run that ends at a position. -/
structure EndsAt (groups : List Nat) (position : Nat) (current : ZeroRun) : Prop where
  within : current.Within groups
  ends : current.length = 0 ∨ current.start + current.length = position
  longest : ∀ other : ZeroRun, other.Within groups → other.start + other.length = position →
    other.length ≤ current.length

/-- The first longest run of those that end at a position or before. -/
structure BestBy (groups : List Nat) (position : Nat) (best : ZeroRun) : Prop where
  within : best.Within groups
  ends : best.start + best.length ≤ position
  yields : ∀ other : ZeroRun, other.Within groups → other.start + other.length ≤ position → other.Yields best

variable {groups : List Nat} {position group : Nat} {current best : ZeroRun}

/-- A run that has a group ends with the groups or before. -/
theorem Within.inside {run : ZeroRun} (within : run.Within groups) (some : 0 < run.length) :
    run.start + run.length ≤ groups.length := by
  have last := within (run.start + run.length - 1) (by omega) (by omega)
  obtain ⟨inside, _⟩ := List.getElem?_eq_some_iff.mp last
  omega

/-- The groups are what stands in front of a run, its zeros, and what stands behind it. -/
theorem Within.append_eq {run : ZeroRun} (within : run.Within groups) :
    groups.take run.start ++ List.replicate run.length 0 ++ groups.drop (run.start + run.length) = groups := by
  have zeros : (groups.drop run.start).take run.length = List.replicate run.length 0 := by
    refine List.ext_getElem? fun index => ?_
    rw [List.getElem?_take, List.getElem?_drop, List.getElem?_replicate]
    split
    · next less => exact within _ (Nat.le_add_right _ _) (Nat.add_lt_add_left less _)
    · rfl
  rw [← zeros, ← List.drop_drop, List.append_assoc, List.take_append_drop, List.take_append_drop]

/-- The run that a zero makes longer. -/
def lengthen (position : Nat) (current : ZeroRun) : ZeroRun :=
  ⟨if current.length = 0 then position else current.start, current.length + 1⟩

theorem EndsAt.lengthen (endsAt : current.EndsAt groups position) (zero : groups[position]? = some 0) :
    (current.lengthen position).EndsAt groups (position + 1) := by
  have start : (current.lengthen position).start + current.length = position := by
    show (if current.length = 0 then position else current.start) + current.length = position
    rcases endsAt.ends with none | ends
    · rw [if_pos none, none, Nat.add_zero]
    · split <;> omega
  have length : (current.lengthen position).length = current.length + 1 := rfl
  refine ⟨fun index first last => ?_, .inr (by omega), fun other within ends => ?_⟩
  · by_cases newest : index = position
    · rw [newest, zero]
    · rcases endsAt.ends with none | ends
      · omega
      · exact endsAt.within index (by omega) (by omega)
  · by_cases none : other.length = 0
    · omega
    · have shorter := endsAt.longest ⟨other.start, other.length - 1⟩
        (fun index first last => within index first (by dsimp only at last; omega)) (by dsimp only; omega)
      dsimp only at shorter
      omega

/-- No run ends behind a group that is no zero. -/
theorem length_eq_zero_of_ends {other : ZeroRun} (there : groups[position]? = some group) (nonzero : group ≠ 0)
    (within : other.Within groups) (ends : other.start + other.length = position + 1) : other.length = 0 := by
  refine Nat.eq_zero_of_not_pos fun some => ?_
  have zero := within position (by omega) (by omega)
  exact nonzero (Option.some.inj (there.symm.trans zero))

theorem endsAt_none (there : groups[position]? = some group) (nonzero : group ≠ 0) :
    EndsAt groups (position + 1) ⟨0, 0⟩ where
  within _ _ last := absurd last (Nat.not_lt_zero _)
  ends := .inl rfl
  longest _ within ends := Nat.le_of_eq (length_eq_zero_of_ends there nonzero within ends)

theorem BestBy.lengthen (bestBy : best.BestBy groups position) (endsAt : current.EndsAt groups (position + 1))
    (some : current.start + current.length = position + 1) :
    BestBy groups (position + 1) (if best.length < current.length then current else best) := by
  have before := bestBy.ends
  split
  · next longer =>
    refine ⟨endsAt.within, Nat.le_of_eq some, fun other within ends => ?_⟩
    by_cases last : other.start + other.length = position + 1
    · have := endsAt.longest other within last
      rw [Yields]
      omega
    · have := bestBy.yields other within (by omega)
      rw [Yields] at this ⊢
      omega
  · next shorter =>
    refine ⟨bestBy.within, by omega, fun other within ends => ?_⟩
    by_cases last : other.start + other.length = position + 1
    · have := endsAt.longest other within last
      rw [Yields]
      omega
    · exact bestBy.yields other within (by omega)

theorem BestBy.skip (bestBy : best.BestBy groups position) (there : groups[position]? = some group)
    (nonzero : group ≠ 0) : BestBy groups (position + 1) best := by
  refine ⟨bestBy.within, Nat.le_succ_of_le bestBy.ends, fun other within ends => ?_⟩
  by_cases last : other.start + other.length = position + 1
  · have := length_eq_zero_of_ends there nonzero within last
    rw [Yields]
    omega
  · exact bestBy.yields other within (by omega)

end ZeroRun

open ZeroRun

/-- The pass over the groups keeps what is known at a position, up to the end. -/
theorem longestFrom_bestBy {done rest : List Nat} {current best : ZeroRun}
    (endsAt : current.EndsAt (done ++ rest) done.length) (bestBy : best.BestBy (done ++ rest) done.length) :
    (longestFrom done.length current best rest).BestBy (done ++ rest) (done ++ rest).length := by
  induction rest generalizing done current best with
  | nil =>
    rw [List.append_nil] at bestBy ⊢
    exact bestBy
  | cons group rest ih =>
    have there : (done ++ group :: rest)[done.length]? = some group := by
      rw [List.getElem?_append_right (Nat.le_refl _), Nat.sub_self]
      rfl
    have moved : done ++ group :: rest = (done ++ [group]) ++ rest := List.append_cons done group rest
    have next : done.length + 1 = (done ++ [group]).length := by
      rw [List.length_append, List.length_singleton]
    rw [longestFrom]
    by_cases zero : group = 0
    · subst zero
      have longer := endsAt.lengthen there
      rw [if_pos rfl]
      have ends := longer.ends.resolve_left (Nat.succ_ne_zero _)
      have better := bestBy.lengthen longer ends
      rw [moved] at longer better ⊢
      rw [next] at longer better ⊢
      exact ih longer better
    · rw [if_neg zero]
      have fresh := endsAt_none there zero
      have kept := bestBy.skip there zero
      rw [moved] at fresh kept ⊢
      rw [next] at fresh kept ⊢
      exact ih fresh kept

/-- The first of the longest runs of zeros is found. -/
theorem isLongest_longestZeroRun (groups : List Nat) : (longestZeroRun groups).IsLongest groups := by
  have none (run : ZeroRun) (empty : run.length = 0) : run.Within groups :=
    fun index first last => absurd last (by omega)
  have best : (longestZeroRun groups).BestBy groups groups.length := by
    refine @longestFrom_bestBy [] groups ⟨0, 0⟩ ⟨0, 0⟩ ⟨none _ rfl, .inl rfl, fun other _ ends => ?_⟩
      ⟨none _ rfl, Nat.le_refl 0, fun other _ ends => ?_⟩
    · exact Nat.le_trans (Nat.le_add_left _ _) (Nat.le_of_eq ends)
    · have empty : other.length = 0 := Nat.le_zero.mp (Nat.le_trans (Nat.le_add_left _ _) ends)
      exact .inr ⟨empty, .inl empty⟩
  refine ⟨best.within, fun other within => ?_⟩
  by_cases empty : other.length = 0
  · rw [Yields]
    omega
  · exact best.yields other within (within.inside (Nat.pos_of_ne_zero empty))

end ModbusTcp.IpAddress
