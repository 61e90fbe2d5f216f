import ModbusTcp.Proofs.Register.Apart
import ModbusTcp.Proofs.Register.Image

/-!
# Definitions in another order

Definitions are put in the order of their addresses before anything is done with them, so the order in which
they are listed hardly matters.  It does for definitions at one address, which keep their order: a list that is
not tidy is rejected.  All lists that are accepted have one buffer and get the same values.

* `Layout.validate_reordered` — the orders in which an accepted layout is accepted.
* `Layout.encode_reordered`, `Layout.decode_reordered` — the buffer and the values are the same.
* **`Layout.accepted_reordered`** — what another order of the list changes, and what it does not.
* `Layout.rejected_reordered` — an accepted list that is rejected in another order.
-/

namespace ModbusTcp.Layout

variable {order : ByteOrder} {left right : List Definition} {buffer : Bytes}

/-- **An accepted layout is accepted in another order exactly if that is tidy.** -/
theorem validate_reordered (same : left.Perm right) (valid : validate left = .ok ()) :
    validate right = .ok () ↔ Tidy right := by
  obtain ⟨fits, apart, -⟩ := validate_eq_ok_iff_apart.mp valid
  rw [validate_eq_ok_iff_apart]
  constructor
  · intro accepted
    exact accepted.2.2
  · intro tidy
    refine ⟨fun definition there => fits definition (same.mem_iff.mpr there), ?_, tidy⟩
    exact (same.pairwise_iff fun apart => apart.symm).mp apart

/-- Two tidy lists of the same definitions are both accepted, or none is. -/
theorem validate_reordered_iff (same : left.Perm right) (tidy : Tidy left) (tidy' : Tidy right) :
    validate left = .ok () ↔ validate right = .ok () := by
  constructor
  · intro valid
    exact (validate_reordered same valid).mpr tidy'
  · intro valid
    exact (validate_reordered same.symm valid).mpr tidy

theorem span_reordered (same : left.Perm right) : span left = span right :=
  span_eq_of_mem_iff fun _ => same.mem_iff

/-- The buffer of accepted lists of the same definitions is the same. -/
theorem encode_reordered (same : left.Perm right) (valid : validate left = .ok ())
    (valid' : validate right = .ok ()) : encode order left = encode order right :=
  encode_eq_of_prints valid valid' (span_reordered same) fun _ => (same.map _).mem_iff

/-- In accepted lists of the same definitions each of them gets the same value. -/
theorem decode_reordered (same : left.Perm right) {got got' : List Definition}
    (decoded : decode order left buffer = .ok got) (decoded' : decode order right buffer = .ok got') :
    (left.zip got).Perm (right.zip got') := by
  obtain ⟨valid, enough⟩ := (exists_decode_eq_ok_iff order buffer).mp ⟨got, decoded⟩
  obtain ⟨valid', enough'⟩ := (exists_decode_eq_ok_iff order buffer).mp ⟨got', decoded'⟩
  have eq : got = _ := Except.ok.inj (decoded.symm.trans (decode_eq_ok order valid enough))
  have eq' : got' = _ := Except.ok.inj (decoded'.symm.trans (decode_eq_ok order valid' enough'))
  have paired (list : List Definition) (f : Definition → Definition) :
      list.zip (list.map f) = list.map fun definition => (definition, f definition) := by
    have mapped := @List.zip_map' _ _ _ id f list
    rwa [List.map_id] at mapped
  rw [eq, eq', span_reordered same, paired, paired]
  exact same.map _

/-- **What another order of a list changes.**  Two tidy lists of the same definitions are accepted or rejected
alike, whether they are checked, encoded or decoded.  Of all orders of an accepted list those that are not tidy
are rejected, and no others.  Whenever two orders are accepted the start and the buffer are the same, and each
definition gets the same value. -/
theorem accepted_reordered (order : ByteOrder) (same : left.Perm right) (buffer : Bytes) :
    (Tidy left → Tidy right →
        (validate left = .ok () ↔ validate right = .ok ()) ∧
        ((∃ encoded, encode order left = .ok encoded) ↔ ∃ encoded, encode order right = .ok encoded) ∧
        ((∃ got, decode order left buffer = .ok got) ↔ ∃ got, decode order right buffer = .ok got)) ∧
      (validate left = .ok () → (validate right = .ok () ↔ Tidy right)) ∧
      (∀ encoded encoded', encode order left = .ok encoded → encode order right = .ok encoded' →
        encoded = encoded') ∧
      ∀ got got', decode order left buffer = .ok got → decode order right buffer = .ok got' →
        (left.zip got).Perm (right.zip got') := by
  refine ⟨?_, validate_reordered same, ?_, fun _ _ => decode_reordered same⟩
  · intro tidy tidy'
    have accepted := validate_reordered_iff same tidy tidy'
    rw [exists_encode_eq_ok_iff, exists_encode_eq_ok_iff, exists_decode_eq_ok_iff, exists_decode_eq_ok_iff,
      span_reordered same, accepted]
    exact ⟨.rfl, .rfl, .rfl⟩
  · intro encoded encoded' left_ right_
    have valid := (exists_encode_eq_ok_iff order).mp ⟨encoded, left_⟩
    have valid' := (exists_encode_eq_ok_iff order).mp ⟨encoded', right_⟩
    rw [encode_reordered same valid valid', right_] at left_
    exact (Except.ok.inj left_).symm

/-- A definition without registers at the address of one with registers, and a third one behind: they are
accepted with the first two in this order, wherever the third one stands, and have one buffer. -/
theorem accepted_reordered_of_tidy :
    let mark : Definition := { label := "Mark", address := 5, count := 0, register := .text 0 none }
    let level : Definition := { label := "Level", address := 5, count := 1, register := .numeric .u8 (some 9) }
    let name : Definition := { label := "Name", address := 7, count := 2, register := .text 3 (some "abc") }
    [mark, level, name].Perm [name, mark, level] ∧ validate [name, mark, level] = .ok () ∧
      ∃ encoded, encode .big [mark, level, name] = .ok encoded ∧
        encode .big [name, mark, level] = .ok encoded := by
  intro mark level name
  have same : ([mark, level] ++ [name]).Perm ([name] ++ [mark, level]) := List.perm_append_comm
  have ascending : sorted [mark, level, name] = [mark, level, name] := by
    simp [sorted, mark, level, name, List.mergeSort]
  have valid : validate [mark, level, name] = .ok () := by
    rw [validate, ascending]
    rfl
  obtain ⟨-, orders, encodes, -⟩ := accepted_reordered .big same []
  have valid' := (orders valid).mpr (by decide)
  obtain ⟨encoded, left⟩ := (exists_encode_eq_ok_iff .big).mpr valid
  obtain ⟨encoded', right⟩ := (exists_encode_eq_ok_iff .big).mpr valid'
  exact ⟨same, valid', encoded, left, encodes encoded encoded' left right ▸ right⟩

/-- A definition without registers, at the address of one with registers: in one order the two are accepted, in
the other one they are said to overlap, so that they are not checked, encoded or decoded alike. -/
theorem rejected_reordered :
    let mark : Definition := { label := "Mark", address := 5, count := 0, register := .text 0 none }
    let level : Definition := { label := "Level", address := 5, count := 1, register := .numeric .u8 (some 9) }
    [mark, level].Perm [level, mark] ∧ validate [mark, level] = .ok () ∧
      validate [level, mark] = .error (.overlap "Mark" 5 6) ∧
      encode .big [mark, level] = .ok (5, [9, 0]) ∧
      encode .big [level, mark] = .error (.overlap "Mark" 5 6) ∧
      (∃ got, decode .big [mark, level] [7, 0] = .ok got) ∧
      ¬∃ got, decode .big [level, mark] [7, 0] = .ok got := by
  intro mark level
  have ascending : sorted [mark, level] = [mark, level] := by
    simp [sorted, mark, level, List.mergeSort]
  have ascending' : sorted [level, mark] = [level, mark] := by
    simp [sorted, mark, level, List.mergeSort]
  have valid : validate [mark, level] = .ok () := by
    rw [validate, ascending]
    rfl
  have rejected : validate [level, mark] = .error (.overlap "Mark" 5 6) := by
    rw [validate, ascending']
    rfl
  have encoded : encode .big [mark, level] = .ok (5, [9, 0]) := by
    rw [encode_eq_fill .big valid, ascending]
    rfl
  refine ⟨.swap .., valid, rejected, encoded, encode_eq_error .big rejected, ?_, ?_⟩
  · exact (exists_decode_eq_ok_iff .big [7, 0]).mpr ⟨valid, by decide⟩
  · rw [exists_decode_eq_ok_iff, rejected]
    intro accepted
    cases accepted.1

end ModbusTcp.Layout
