import ModbusTcp.Proofs.Register.Value
import ModbusTcp.Register.Layout

/-!
# Definitions in a buffer

Definitions that keep apart do not see each other in the buffer that they share: each one finds its own
bytes in its place, and zeros behind them.

* `Layout.validate_eq_ok_iff` — the layouts that are accepted.
* `Layout.within_of_mem`, `Layout.span_le` — what the covering span covers; `Layout.span_eq_of_mem_iff` — it
  does not depend on the order.
* `Layout.getElem?_fill_of_outside`, `Layout.slice_fill` — a buffer with values written to it.
* `Layout.exists_encode_eq` — the buffer that encoding gives.
* `Layout.decode_eq_ok` — the values that decoding gives; `Layout.decode_eq_error_of_short` — it needs all
  of the span.
* `Definition.bare` — what a layout depends on.
-/

namespace ModbusTcp

namespace Definition

/-- The registers end within the address range and have room for the value. -/
structure Fits (definition : Definition) : Prop where
  stop : definition.stop ≤ Layout.addressCount
  width : definition.register.width ≤ definition.byteLength

/-- The registers of one definition end before those of another one begin. -/
def Before (left right : Definition) : Prop := left.stop ≤ right.address.toNat

/-- The bytes of all the registers: those of the value, and zeros that fill them. -/
def bytes (order : ByteOrder) (definition : Definition) : Bytes :=
  definition.register.encode order ++
    List.replicate (definition.byteLength - definition.register.width) 0

/-- The registers lie within so many registers from a base on. -/
structure Within (base : UInt16) (count : Nat) (definition : Definition) : Prop where
  start : base.toNat ≤ definition.address.toNat
  stop : definition.stop ≤ base.toNat + count

end Definition

namespace Layout

/-! ### Accepted layouts -/

theorem validateFrom_eq_ok_iff {previousEnd : Option Nat} {definitions : List Definition} :
    validateFrom previousEnd definitions = .ok () ↔
      (∀ definition ∈ definitions,
        definition.Fits ∧ previousEnd.getD 0 ≤ definition.address.toNat) ∧
        definitions.Pairwise Definition.Before := by
  induction definitions generalizing previousEnd with
  | nil => simp [validateFrom]
  | cons first others ih =>
    have ends : first.address.toNat ≤ first.stop := Nat.le_add_right ..
    rw [validateFrom, List.pairwise_cons, List.forall_mem_cons]
    by_cases overflow : addressCount < first.stop
    · rw [if_pos overflow]
      refine iff_of_false nofun ?_
      rintro ⟨⟨⟨fits, _⟩, _⟩, _⟩
      exact Nat.not_le.mpr overflow fits.stop
    by_cases overlap : first.address.toNat < previousEnd.getD 0
    · rw [if_neg overflow, if_pos overlap]
      refine iff_of_false nofun ?_
      rintro ⟨⟨⟨_, behind⟩, _⟩, _⟩
      exact Nat.not_le.mpr overlap behind
    by_cases wide : first.byteLength < first.register.width
    · rw [if_neg overflow, if_neg overlap, if_pos wide]
      refine iff_of_false nofun ?_
      rintro ⟨⟨⟨fits, _⟩, _⟩, _⟩
      exact Nat.not_le.mpr wide fits.width
    rw [if_neg overflow, if_neg overlap, if_neg wide, ih]
    constructor
    · rintro ⟨each, apart⟩
      have inOrder : previousEnd.getD 0 ≤ first.stop := by omega
      refine ⟨⟨⟨⟨by omega, by omega⟩, by omega⟩, ?_⟩, ?_, apart⟩
      · intro definition there
        obtain ⟨fits, behind⟩ := each definition there
        exact ⟨fits, Nat.le_trans inOrder behind⟩
      · intro definition there
        exact (each definition there).2
    · rintro ⟨⟨_, each⟩, behind, apart⟩
      refine ⟨?_, apart⟩
      intro definition there
      exact ⟨(each definition there).1, behind definition there⟩

theorem mem_sorted {definitions : List Definition} {definition : Definition} :
    definition ∈ sorted definitions ↔ definition ∈ definitions := List.mem_mergeSort

theorem sorted_perm (definitions : List Definition) : (sorted definitions).Perm definitions :=
  List.mergeSort_perm _ _

theorem address_trans (left middle right : Definition) (below : decide (left.address ≤ middle.address))
    (above : decide (middle.address ≤ right.address)) : decide (left.address ≤ right.address) := by
  simp only [decide_eq_true_eq, UInt16.le_iff_toNat_le] at below above ⊢
  exact Nat.le_trans below above

theorem address_total (left right : Definition) :
    decide (left.address ≤ right.address) || decide (right.address ≤ left.address) := by
  simp only [Bool.or_eq_true, decide_eq_true_eq, UInt16.le_iff_toNat_le]
  exact Nat.le_total _ _

theorem pairwise_sorted (definitions : List Definition) :
    (sorted definitions).Pairwise fun left right => left.address.toNat ≤ right.address.toNat := by
  refine (List.pairwise_mergeSort address_trans address_total definitions).imp ?_
  intro left right ordered
  exact UInt16.le_iff_toNat_le.mp (of_decide_eq_true ordered)

/-- Definitions at one address keep their order. -/
theorem filter_sorted (definitions : List Definition) (address : UInt16) :
    (sorted definitions).filter (·.address = address) = definitions.filter (·.address = address) := by
  let own := definitions.filter (·.address = address)
  have ascending : own.Pairwise fun left right => decide (left.address ≤ right.address) := by
    refine List.pairwise_of_forall_mem_list ?_
    intro left there right there'
    have same := of_decide_eq_true (List.mem_filter.mp there).2
    have same' := of_decide_eq_true (List.mem_filter.mp there').2
    simp only [same, same', UInt16.le_refl, decide_true]
  have among : own.Sublist (sorted definitions) :=
    List.sublist_mergeSort address_trans address_total ascending List.filter_sublist
  have all : own.filter (·.address = address) = own := by
    rw [List.filter_filter]
    simp only [Bool.and_self, own]
  have few := among.filter (·.address = address)
  rw [all] at few
  exact (few.eq_of_length ((sorted_perm definitions).filter _).length_eq.symm).symm

/-- A layout is accepted exactly if each definition fits and they keep apart. -/
theorem validate_eq_ok_iff {definitions : List Definition} :
    validate definitions = .ok () ↔
      (∀ definition ∈ definitions, definition.Fits) ∧ (sorted definitions).Pairwise Definition.Before := by
  rw [validate, validateFrom_eq_ok_iff]
  simp only [mem_sorted, Option.getD_none, Nat.zero_le, and_true]

/-! ### The covering span -/

theorem toNat_min (left right : UInt16) : (min left right).toNat = min left.toNat right.toNat := by
  show (if left ≤ right then left else right).toNat = _
  split
  · rename_i smaller
    exact (Nat.min_eq_left (UInt16.le_iff_toNat_le.mp smaller)).symm
  · rename_i larger
    exact (Nat.min_eq_right (Nat.le_of_not_le (mt UInt16.le_iff_toNat_le.mpr larger))).symm

theorem start_le (first : Definition) (others : List Definition) :
    ∀ definition ∈ first :: others, (start first others).toNat ≤ definition.address.toNat := by
  have below (least : UInt16) :
      (others.foldl (fun start definition => min start definition.address) least).toNat ≤ least.toNat ∧
        ∀ definition ∈ others,
          (others.foldl (fun start definition => min start definition.address) least).toNat ≤
            definition.address.toNat := by
    induction others generalizing least with
    | nil => exact ⟨Nat.le_refl _, List.forall_mem_nil _⟩
    | cons next others ih =>
      obtain ⟨least', each⟩ := ih (min least next.address)
      rw [toNat_min] at least'
      rw [List.foldl_cons, List.forall_mem_cons]
      exact ⟨Nat.le_trans least' (Nat.min_le_left ..), Nat.le_trans least' (Nat.min_le_right ..), each⟩
  rw [List.forall_mem_cons]
  exact below first.address

theorem le_stop (first : Definition) (others : List Definition) :
    ∀ definition ∈ first :: others, definition.stop ≤ stop first others := by
  have above (greatest : Nat) :
      greatest ≤ others.foldl (fun stop definition => max stop definition.stop) greatest ∧
        ∀ definition ∈ others,
          definition.stop ≤ others.foldl (fun stop definition => max stop definition.stop) greatest := by
    induction others generalizing greatest with
    | nil => exact ⟨Nat.le_refl _, List.forall_mem_nil _⟩
    | cons next others ih =>
      obtain ⟨greatest', each⟩ := ih (max greatest next.stop)
      rw [List.foldl_cons, List.forall_mem_cons]
      exact ⟨Nat.le_trans (Nat.le_max_left ..) greatest', Nat.le_trans (Nat.le_max_right ..) greatest',
        each⟩
  rw [List.forall_mem_cons]
  exact above first.stop

theorem le_start {first : Definition} {others : List Definition} {bound : Nat}
    (bounded : ∀ definition ∈ first :: others, bound ≤ definition.address.toNat) :
    bound ≤ (start first others).toNat := by
  obtain ⟨head, tail⟩ := List.forall_mem_cons.mp bounded
  have above (least : UInt16) (large : bound ≤ least.toNat) :
      bound ≤ (others.foldl (fun start definition => min start definition.address) least).toNat := by
    clear bounded
    induction others generalizing least with
    | nil => exact large
    | cons next others ih =>
      obtain ⟨next_, others_⟩ := List.forall_mem_cons.mp tail
      refine ih others_ _ ?_
      rw [toNat_min]
      exact Nat.le_min.mpr ⟨large, next_⟩
  exact above first.address head

theorem stop_le {first : Definition} {others : List Definition} {bound : Nat}
    (bounded : ∀ definition ∈ first :: others, definition.stop ≤ bound) : stop first others ≤ bound := by
  obtain ⟨head, tail⟩ := List.forall_mem_cons.mp bounded
  have below (greatest : Nat) (small : greatest ≤ bound) :
      others.foldl (fun stop definition => max stop definition.stop) greatest ≤ bound := by
    clear bounded
    induction others generalizing greatest with
    | nil => exact small
    | cons next others ih =>
      obtain ⟨next_, others_⟩ := List.forall_mem_cons.mp tail
      exact ih others_ _ (Nat.max_le.mpr ⟨small, next_⟩)
  exact below first.stop head

/-- The span ends where the last definition does. -/
theorem span_cons_stop (first : Definition) (others : List Definition) :
    (span (first :: others)).1.toNat + (span (first :: others)).2 = stop first others := by
  have low := start_le first others first List.mem_cons_self
  have high := le_stop first others first List.mem_cons_self
  have ends : first.address.toNat ≤ first.stop := Nat.le_add_right ..
  show (start first others).toNat + (stop first others - (start first others).toNat) = _
  omega

/-- The span covers each definition. -/
theorem within_of_mem {definitions : List Definition} {definition : Definition}
    (there : definition ∈ definitions) :
    definition.Within (span definitions).1 (span definitions).2 := by
  cases definitions with
  | nil => exact nomatch there
  | cons first others =>
    refine ⟨start_le first others definition there, ?_⟩
    rw [span_cons_stop]
    exact le_stop first others definition there

/-- The span does not depend on the order of the definitions. -/
theorem span_eq_of_mem_iff {left right : List Definition}
    (same : ∀ definition, definition ∈ left ↔ definition ∈ right) : span left = span right := by
  cases left with
  | nil =>
    obtain rfl : right = [] := List.eq_nil_iff_forall_not_mem.mpr fun definition there =>
      List.not_mem_nil ((same definition).mpr there)
    rfl
  | cons first others =>
    cases right with
    | nil => exact absurd ((same first).mp List.mem_cons_self) List.not_mem_nil
    | cons first' others' =>
      have start_ : start first others = start first' others' := by
        apply UInt16.toNat_inj.mp
        apply Nat.le_antisymm
        · exact le_start fun definition there => start_le first others definition ((same definition).mpr there)
        · exact le_start fun definition there => start_le first' others' definition ((same definition).mp there)
      have stop_ : stop first others = stop first' others' := by
        apply Nat.le_antisymm
        · exact stop_le fun definition there => le_stop first' others' definition ((same definition).mp there)
        · exact stop_le fun definition there => le_stop first others definition ((same definition).mpr there)
      rw [span, span, start_, stop_]

/-- The span ends where the address range does, at the latest. -/
theorem span_le {definitions : List Definition} {bound : Nat}
    (bounded : ∀ definition ∈ definitions, definition.stop ≤ bound) :
    (span definitions).1.toNat + (span definitions).2 ≤ bound := by
  cases definitions with
  | nil => exact Nat.zero_le bound
  | cons first others =>
    rw [span_cons_stop]
    exact stop_le bounded

/-! ### Writing values to a buffer -/

section Overwrite

variable {buffer bytes : Bytes} {offset : Nat}

theorem length_overwrite (room : offset + bytes.length ≤ buffer.length) :
    (overwrite buffer offset bytes).length = buffer.length := by
  rw [overwrite, List.length_append, List.length_append, List.length_take, List.length_drop]
  omega

theorem getElem?_overwrite_of_outside (room : offset + bytes.length ≤ buffer.length) {position : Nat}
    (outside : position < offset ∨ offset + bytes.length ≤ position) :
    (overwrite buffer offset bytes)[position]? = buffer[position]? := by
  have front : (buffer.take offset).length = offset := List.length_take_of_le (by omega)
  rw [overwrite, List.append_assoc, List.getElem?_append, List.getElem?_append, List.getElem?_drop,
    front]
  rcases outside with before | behind
  · rw [if_pos before, List.getElem?_take_of_lt before]
  · rw [if_neg (by omega), if_neg (by omega)]
    exact congrArg (buffer[·]?) (by omega)

theorem getElem?_overwrite_of_inside (room : offset + bytes.length ≤ buffer.length) {position : Nat}
    (inside : position < bytes.length) :
    (overwrite buffer offset bytes)[offset + position]? = bytes[position]? := by
  have front : (buffer.take offset).length = offset := List.length_take_of_le (by omega)
  rw [overwrite, List.append_assoc, List.getElem?_append_right (by omega),
    List.getElem?_append_left (by omega), front, Nat.add_sub_cancel_left]

end Overwrite

section Fill

variable {order : ByteOrder} {base : UInt16} {count : Nat}

/-- The buffer after each value has been written to its place. -/
def fill (order : ByteOrder) (base : UInt16) (buffer : Bytes) (definitions : List Definition) : Bytes :=
  definitions.foldl
    (fun buffer definition =>
      overwrite buffer (offset base definition) (definition.register.encode order))
    buffer

/-- A definition has room in a buffer that covers it. -/
theorem offset_add_byteLength_le {definition : Definition} (within : definition.Within base count) :
    offset base definition + definition.byteLength ≤ 2 * count := by
  have stop := within.stop
  have start := within.start
  simp only [Definition.stop] at stop
  simp only [offset, Definition.byteLength]
  omega

/-- In a buffer that covers a definition there are all the bytes of its registers. -/
theorem length_slice {buffer : Bytes} {definition : Definition} (within : definition.Within base count)
    (enough : 2 * count ≤ buffer.length) :
    (slice base buffer definition).length = definition.byteLength := by
  have room := offset_add_byteLength_le within
  rw [slice, List.length_take, List.length_drop]
  omega

theorem offset_add_width_le {definition : Definition} (fits : definition.Fits)
    (within : definition.Within base count) :
    offset base definition + (definition.register.encode order).length ≤ 2 * count := by
  have room := offset_add_byteLength_le within
  have width := fits.width
  rw [Register.length_encode]
  omega

theorem length_fill {buffer : Bytes} (covers : buffer.length = 2 * count) {definitions : List Definition}
    (each : ∀ definition ∈ definitions, definition.Fits ∧ definition.Within base count) :
    (fill order base buffer definitions).length = 2 * count := by
  induction definitions generalizing buffer with
  | nil => exact covers
  | cons first others ih =>
    obtain ⟨⟨fits, within⟩, others_⟩ := List.forall_mem_cons.mp each
    have room : offset base first + (first.register.encode order).length ≤ buffer.length :=
      covers ▸ offset_add_width_le fits within
    exact ih ((length_overwrite room).trans covers) others_

/-- A byte that belongs to no value stays as it was. -/
theorem getElem?_fill_of_outside {buffer : Bytes} (covers : buffer.length = 2 * count)
    {definitions : List Definition}
    (each : ∀ definition ∈ definitions, definition.Fits ∧ definition.Within base count) {position : Nat}
    (outside : ∀ definition ∈ definitions, position < offset base definition ∨
      offset base definition + definition.register.width ≤ position) :
    (fill order base buffer definitions)[position]? = buffer[position]? := by
  induction definitions generalizing buffer with
  | nil => rfl
  | cons first others ih =>
    obtain ⟨⟨fits, within⟩, others_⟩ := List.forall_mem_cons.mp each
    obtain ⟨first_, others'⟩ := List.forall_mem_cons.mp outside
    have room : offset base first + (first.register.encode order).length ≤ buffer.length :=
      covers ▸ offset_add_width_le fits within
    show (fill order base (overwrite buffer _ _) others)[position]? = _
    rw [ih ((length_overwrite room).trans covers) others_ others']
    refine getElem?_overwrite_of_outside room ?_
    rwa [Register.length_encode]

/-- The registers of a definition stay as they were if all values are written before or behind them. -/
theorem slice_fill_of_apart {buffer : Bytes} (covers : buffer.length = 2 * count)
    {definitions : List Definition} {definition : Definition} (within : definition.Within base count)
    (each : ∀ other ∈ definitions, other.Fits ∧ other.Within base count)
    (apart : ∀ other ∈ definitions, other.Before definition ∨ definition.Before other) :
    slice base (fill order base buffer definitions) definition = slice base buffer definition := by
  apply List.ext_getElem?
  intro index
  rw [slice, slice, List.getElem?_take, List.getElem?_take]
  split
  · rename_i inside
    rw [List.getElem?_drop, List.getElem?_drop, getElem?_fill_of_outside covers each]
    intro other there
    obtain ⟨fits, within'⟩ := each other there
    have width := fits.width
    have start := within'.start
    have start' := within.start
    have apart' := apart other there
    simp only [Definition.Before, Definition.stop] at apart'
    simp only [Definition.byteLength] at width inside
    simp only [offset]
    omega
  · rfl

/-- A value stands at the front of the registers that it has been written to. -/
theorem slice_overwrite {buffer : Bytes} (covers : buffer.length = 2 * count) {definition : Definition}
    (fits : definition.Fits) (within : definition.Within base count) :
    slice base (overwrite buffer (offset base definition) (definition.register.encode order))
        definition =
      definition.register.encode order ++ (slice base buffer definition).drop definition.register.width := by
  have width := fits.width
  have length : (definition.register.encode order).length = definition.register.width :=
    Register.length_encode order _
  have room : offset base definition + (definition.register.encode order).length ≤ buffer.length :=
    covers ▸ offset_add_width_le fits within
  apply List.ext_getElem?
  intro index
  rw [slice, slice, List.getElem?_take, List.getElem?_append, List.getElem?_drop, List.getElem?_drop,
    List.getElem?_take, List.getElem?_drop, length]
  by_cases inside : index < definition.register.width
  · rw [if_pos (by omega), if_pos inside, getElem?_overwrite_of_inside room (by omega)]
  · rw [if_neg inside, getElem?_overwrite_of_outside room (by omega),
      Nat.add_sub_cancel' (Nat.le_of_not_lt inside)]

/-- **Each value stands at the front of its registers**, in a buffer to which values that keep apart have
been written. -/
theorem slice_fill {buffer : Bytes} (covers : buffer.length = 2 * count) {definitions : List Definition}
    (each : ∀ definition ∈ definitions, definition.Fits ∧ definition.Within base count)
    (apart : definitions.Pairwise Definition.Before) {definition : Definition}
    (there : definition ∈ definitions) :
    slice base (fill order base buffer definitions) definition =
      definition.register.encode order ++ (slice base buffer definition).drop definition.register.width := by
  -- What is written before the definition or behind it leaves its registers alone.
  obtain ⟨before, behind, rfl⟩ := List.append_of_mem there
  obtain ⟨_, after, front⟩ := List.pairwise_append.mp apart
  obtain ⟨each₁, each₂⟩ := List.forall_mem_append.mp each
  obtain ⟨⟨fits, within⟩, each₃⟩ := List.forall_mem_cons.mp each₂
  have covers₁ : (fill order base buffer before).length = 2 * count := length_fill covers each₁
  have room : offset base definition + (definition.register.encode order).length ≤
      (fill order base buffer before).length := covers₁ ▸ offset_add_width_le fits within
  have covers₂ := (length_overwrite room).trans covers₁
  show slice base (List.foldl _ buffer (before ++ definition :: behind)) definition = _
  rw [List.foldl_append, List.foldl_cons]
  show slice base (fill order base (overwrite (fill order base buffer before) _ _) behind) definition = _
  rw [slice_fill_of_apart covers₂ within each₃, slice_overwrite covers₁ fits within,
    slice_fill_of_apart covers within each₁]
  · intro other earlier
    exact .inl (front other earlier definition List.mem_cons_self)
  · intro other later
    exact .inr (List.rel_of_pairwise_cons after later)

end Fill

/-! ### Encoding and decoding -/

section Valid

variable {order : ByteOrder} {definitions : List Definition}

/-- An accepted layout is encoded by writing its values to zeros. -/
theorem encode_eq_fill (order : ByteOrder) (valid : validate definitions = .ok ()) :
    encode order definitions = .ok ((span definitions).1,
      fill order (span definitions).1 (List.replicate (2 * (span definitions).2) 0) (sorted definitions)) := by
  rw [encode, valid]
  rfl

theorem encode_eq_error (order : ByteOrder) {reason : ProtocolError}
    (rejected : validate definitions = .error reason) : encode order definitions = .error reason := by
  rw [encode, rejected]
  rfl

/-- Each definition of an accepted layout fits, and its registers are within the span. -/
theorem fits_within_of_mem_sorted (valid : validate definitions = .ok ()) {definition : Definition}
    (there : definition ∈ sorted definitions) :
    definition.Fits ∧ definition.Within (span definitions).1 (span definitions).2 := by
  have there := mem_sorted.mp there
  exact ⟨(validate_eq_ok_iff.mp valid).1 definition there, within_of_mem there⟩

/-- An accepted layout has a buffer, in which each value stands at the front of its registers and zeros
fill them. -/
theorem exists_encode_eq (order : ByteOrder) (valid : validate definitions = .ok ()) :
    ∃ buffer, encode order definitions = .ok ((span definitions).1, buffer) ∧
      buffer.length = 2 * (span definitions).2 ∧
      ∀ definition ∈ definitions,
        slice (span definitions).1 buffer definition = definition.bytes order := by
  obtain ⟨-, apart⟩ := validate_eq_ok_iff.mp valid
  let zeros : Bytes := List.replicate (2 * (span definitions).2) 0
  have covers : zeros.length = 2 * (span definitions).2 := List.length_replicate
  have each (definition : Definition) (there : definition ∈ sorted definitions) :=
    fits_within_of_mem_sorted valid there
  refine ⟨_, encode_eq_fill order valid, length_fill covers each, ?_⟩
  · intro definition there
    have empty : slice (span definitions).1 zeros definition =
        List.replicate definition.byteLength 0 := by
      have room := offset_add_byteLength_le (within_of_mem there)
      rw [slice, List.drop_replicate, List.take_replicate, Nat.min_eq_left (by omega)]
    rw [slice_fill covers each apart (mem_sorted.mpr there), empty, List.drop_replicate,
      Definition.bytes]

/-- A list of results is there if each of them is. -/
theorem mapM_eq_ok {ε α β : Type} {f : α → Except ε β} {g : α → β} {items : List α}
    (each : ∀ item ∈ items, f item = .ok (g item)) : items.mapM f = .ok (items.map g) := by
  induction items with
  | nil => rfl
  | cons item items ih =>
    obtain ⟨head, tail⟩ := List.forall_mem_cons.mp each
    rw [List.mapM_cons, head, ih tail]
    rfl

/-- In a buffer that is long enough each definition of an accepted layout has room for its value. -/
theorem width_le_length_slice (valid : validate definitions = .ok ()) {buffer : Bytes}
    (enough : 2 * (span definitions).2 ≤ buffer.length) {definition : Definition}
    (there : definition ∈ definitions) :
    definition.register.width ≤ (slice (span definitions).1 buffer definition).length := by
  rw [length_slice (within_of_mem there) enough]
  exact ((validate_eq_ok_iff.mp valid).1 definition there).width

/-- An accepted layout gets its values from a buffer that is long enough. -/
theorem decode_eq_ok (order : ByteOrder) (valid : validate definitions = .ok ()) {buffer : Bytes}
    (enough : 2 * (span definitions).2 ≤ buffer.length) :
    decode order definitions buffer = .ok (definitions.map fun definition =>
      { definition with
        register := definition.register.read order (slice (span definitions).1 buffer definition) }) := by
  have each (definition : Definition) (there : definition ∈ definitions) :
      decodeOne order (span definitions).1 buffer definition = .ok { definition with
        register := definition.register.read order (slice (span definitions).1 buffer definition) } := by
    rw [decodeOne, Register.decode_eq_read order _ (width_le_length_slice valid enough there)]
    rfl
  rw [decode, valid]
  show (if buffer.length < 2 * (span definitions).2 then _ else
    (definitions.mapM (decodeOne order (span definitions).1 buffer)).mapError _) = _
  rw [if_neg (Nat.not_lt.mpr enough), mapM_eq_ok each]
  rfl

/-- Nothing is decoded if the layout is rejected. -/
theorem decode_eq_error (order : ByteOrder) (buffer : Bytes) {reason : ProtocolError}
    (rejected : validate definitions = .error reason) :
    decode order definitions buffer = .error (.protocol reason) := by
  rw [decode, rejected]
  rfl

/-- A buffer that is too short is rejected, once the layout is accepted. -/
theorem decode_eq_error_of_short (order : ByteOrder) (valid : validate definitions = .ok ()) {buffer : Bytes}
    (short : buffer.length < 2 * (span definitions).2) :
    decode order definitions buffer =
      .error (.protocol (.bufferTooShort (2 * (span definitions).2) buffer.length)) := by
  rw [decode, valid]
  exact if_pos short

/-- A list of definitions is encoded exactly if the layout is accepted. -/
theorem exists_encode_eq_ok_iff (order : ByteOrder) :
    (∃ encoded, encode order definitions = .ok encoded) ↔ validate definitions = .ok () := by
  constructor
  · intro succeeds
    obtain ⟨encoded, succeeds⟩ := succeeds
    cases valid : validate definitions with
    | ok _ => rfl
    | error reason => cases succeeds.symm.trans (encode_eq_error order valid)
  · intro valid
    exact ⟨_, encode_eq_fill order valid⟩

/-- A buffer is decoded exactly if the layout is accepted and all of the span is there. -/
theorem exists_decode_eq_ok_iff (order : ByteOrder) (buffer : Bytes) :
    (∃ got, decode order definitions buffer = .ok got) ↔
      validate definitions = .ok () ∧ 2 * (span definitions).2 ≤ buffer.length := by
  constructor
  · intro succeeds
    obtain ⟨got, succeeds⟩ := succeeds
    cases valid : validate definitions with
    | ok _ =>
      refine ⟨rfl, Nat.le_of_not_lt fun short => ?_⟩
      cases succeeds.symm.trans (decode_eq_error_of_short order valid short)
    | error reason => cases succeeds.symm.trans (decode_eq_error order buffer valid)
  · intro accepted
    exact ⟨_, decode_eq_ok order accepted.1 accepted.2⟩

end Valid

end Layout

/-! ### What a layout depends on -/

namespace Definition

/-- The place and the kind of a definition, without its value and all that is there to describe it. -/
def bare (definition : Definition) : Definition where
  label := ""
  address := definition.address
  count := definition.count
  register := definition.register.cleared

theorem fits_bare {definition : Definition} : definition.bare.Fits ↔ definition.Fits := by
  constructor
  · rintro ⟨stop, width⟩
    exact ⟨stop, definition.register.width_cleared ▸ width⟩
  · rintro ⟨stop, width⟩
    exact ⟨stop, definition.register.width_cleared.symm ▸ width⟩

end Definition

namespace Layout

theorem sorted_map_bare (definitions : List Definition) :
    sorted (definitions.map Definition.bare) = (sorted definitions).map Definition.bare :=
  (List.map_mergeSort (f := Definition.bare) fun _ _ _ _ => rfl).symm

theorem validate_map_bare {definitions : List Definition} :
    validate (definitions.map Definition.bare) = .ok () ↔ validate definitions = .ok () := by
  rw [validate_eq_ok_iff, validate_eq_ok_iff, sorted_map_bare, List.pairwise_map, List.forall_mem_map]
  simp only [Definition.fits_bare]
  rfl

theorem span_map_bare (definitions : List Definition) :
    span (definitions.map Definition.bare) = span definitions := by
  cases definitions with
  | nil => rfl
  | cons first others =>
    have start_ : start first.bare (others.map Definition.bare) = start first others := List.foldl_map
    have stop_ : stop first.bare (others.map Definition.bare) = stop first others := List.foldl_map
    rw [List.map_cons, span, start_, stop_]
    rfl

section Bare

variable {blanks definitions : List Definition}

theorem span_eq_of_bare (same : blanks.map Definition.bare = definitions.map Definition.bare) :
    span blanks = span definitions := by
  rw [← span_map_bare, same, span_map_bare]

theorem validate_eq_ok_of_bare (same : blanks.map Definition.bare = definitions.map Definition.bare)
    (valid : validate definitions = .ok ()) : validate blanks = .ok () := by
  rw [← validate_map_bare, same, validate_map_bare]
  exact valid

/-- What does not depend on more than the places and the kinds is the same for lists that agree in them. -/
theorem map_eq_of_bare {α : Type} {value : Definition → α}
    (bare : ∀ definition : Definition, value definition.bare = value definition)
    (same : blanks.map Definition.bare = definitions.map Definition.bare) :
    blanks.map value = definitions.map value := by
  have mapped (list : List Definition) : (list.map Definition.bare).map value = list.map value := by
    rw [List.map_map]
    exact List.map_congr_left fun definition _ => bare definition
  rw [← mapped, same, mapped]

end Bare

end Layout

end ModbusTcp
