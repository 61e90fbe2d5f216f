import ModbusTcp.Proofs.Register.Layout
import ModbusTcp.Register.InPlace

/-!
# Definitions and buffers in place

Decoding in place changes one definition after the other, and it could stop in the middle.  It does not: an
accepted layout and a buffer that covers it are all that decoding needs, so either every definition gets its
value or none does.  No difference of addresses is negative on the way, and no slice leaves the buffer.
Encoding in place does not stop in the middle either: no value leaves the space of its registers.

* `Layout.map_references`, `Layout.checkedSpan_eq` — the references and what is computed from them.
* `Layout.decodeChecked_eq_ok`, `Layout.exists_decodeAt_eq` — one definition, and the loop.
* `Layout.decodeInPlace_eq` — decoding in place comes to what `Layout.decode` says.
* `Layout.encodeChecked_eq`, `Layout.encodeFrom_eq` — one value, and the loop.
* `Layout.encodeInPlace_eq` — encoding in place comes to what `Layout.encode` says.
-/

namespace ModbusTcp

namespace Layout

variable {order : ByteOrder} {base : UInt16} {buffer : Bytes} {definitions : List Definition}

/-! ### References -/

theorem map_references (definitions : List Definition) :
    (references definitions).map (·.1) = sorted definitions := by
  have moved := List.map_mergeSort (f := Prod.fst)
    (r := fun left right : Definition × Nat => left.1.address ≤ right.1.address)
    (s := fun left right => left.address ≤ right.address) (l := definitions.zipIdx) fun _ _ _ _ => rfl
  rwa [List.zipIdx_map_fst] at moved

/-- Each place is referenced once. -/
theorem nodup_places (definitions : List Definition) : ((references definitions).map (·.2)).Nodup := by
  have places : ((references definitions).map (·.2)).Perm (List.range' 0 definitions.length) := by
    rw [← List.zipIdx_map_snd 0 definitions]
    exact (List.mergeSort_perm _ _).map _
  exact places.nodup_iff.mpr List.nodup_range'

theorem mem_references {definition : Definition} {place : Nat} :
    (definition, place) ∈ references definitions ↔ definitions[place]? = some definition := by
  rw [references, List.mem_mergeSort, List.mem_zipIdx_iff_getElem?]

theorem mem_places {place : Nat} :
    place ∈ (references definitions).map (·.2) ↔ place < definitions.length := by
  rw [List.mem_map]
  constructor
  · rintro ⟨⟨definition, _⟩, there, rfl⟩
    exact (List.getElem?_eq_some_iff.mp (mem_references.mp there)).1
  · intro inside
    exact ⟨(definitions[place], place), mem_references.mpr (List.getElem?_eq_getElem inside), rfl⟩

theorem span_sorted (definitions : List Definition) : span (sorted definitions) = span definitions :=
  span_eq_of_mem_iff fun _ => mem_sorted

/-- The first reference is to the lowest address. -/
theorem address_of_sorted_cons {first : Definition} {others : List Definition}
    (order : sorted definitions = first :: others) : first.address = (span definitions).1 := by
  have inOrder := pairwise_sorted definitions
  rw [order, List.pairwise_cons] at inOrder
  rw [← span_sorted, order]
  apply UInt16.toNat_inj.mp
  apply Nat.le_antisymm
  · exact le_start (List.forall_mem_cons.mpr ⟨Nat.le_refl _, inOrder.1⟩)
  · exact start_le first others first List.mem_cons_self

/-! ### Differences and slices -/

/-- The covering span does not end before it starts. -/
theorem checkedSpan_eq (definitions : List Definition) : checkedSpan definitions = .ok (span definitions) := by
  cases definitions with
  | nil => rfl
  | cons first others =>
    have low := start_le first others first List.mem_cons_self
    have high := le_stop first others first List.mem_cons_self
    have ends : first.address.toNat ≤ first.stop := Nat.le_add_right ..
    rw [checkedSpan, if_neg (by omega), span]

/-- The registers of a definition are in a buffer that covers it. -/
theorem checkedSlice_eq {count : Nat} {definition : Definition} (within : definition.Within base count)
    (covers : 2 * count ≤ buffer.length) :
    checkedSlice base buffer definition = .ok (slice base buffer definition) := by
  have room := offset_add_byteLength_le within
  have start := within.start
  rw [checkedSlice, if_neg (by rw [UInt16.lt_iff_toNat_lt]; omega), if_neg (by omega)]

/-- What an accepted definition becomes. -/
def decoded (order : ByteOrder) (base : UInt16) (buffer : Bytes) (definition : Definition) : Definition :=
  { definition with register := definition.register.read order (slice base buffer definition) }

/-- Each definition of an accepted layout gets its value from a buffer that is long enough. -/
theorem decodeChecked_eq_ok (order : ByteOrder) (valid : validate definitions = .ok ())
    (enough : 2 * (span definitions).2 ≤ buffer.length) {definition : Definition}
    (there : definition ∈ definitions) :
    decodeChecked order (span definitions).1 buffer definition =
      .ok (decoded order (span definitions).1 buffer definition) := by
  rw [decodeChecked, checkedSlice_eq (within_of_mem there) enough]
  dsimp only
  rw [Register.decode_eq_read order _ (width_le_length_slice valid enough there)]
  rfl

/-! ### The loop -/

/-- The loop changes the definitions at its places and no others, if each of them can be decoded. -/
theorem exists_decodeAt_eq {f : Definition → Definition} {places : List Nat} (distinct : places.Nodup)
    (each : ∀ place ∈ places, ∃ definition, definitions[place]? = some definition ∧
      decodeChecked order base buffer definition = .ok (f definition)) :
    ∃ after, decodeAt order base buffer places definitions = (.ok (), after) ∧
      ∀ index, after[index]? = if index ∈ places then definitions[index]?.map f else definitions[index]? := by
  induction places generalizing definitions with
  | nil => exact ⟨definitions, rfl, fun index => (if_neg List.not_mem_nil).symm⟩
  | cons place places ih =>
    obtain ⟨fresh, distinct'⟩ := List.nodup_cons.mp distinct
    obtain ⟨⟨definition, there, decodes⟩, others⟩ := List.forall_mem_cons.mp each
    obtain ⟨inside, -⟩ := List.getElem?_eq_some_iff.mp there
    -- What has been written is at another place than all that is still to be read.
    have still : ∀ other ∈ places, ∃ unread, (definitions.set place (f definition))[other]? = some unread ∧
        decodeChecked order base buffer unread = .ok (f unread) := by
      intro other later
      have apart : place ≠ other := fun same => fresh (same ▸ later)
      rw [List.getElem?_set, if_neg apart]
      exact others other later
    obtain ⟨after, ran, holds⟩ := ih distinct' still
    refine ⟨after, ?_, fun index => ?_⟩
    · rw [decodeAt, there]
      dsimp only
      rw [decodes]
      exact ran
    · rw [holds, List.getElem?_set]
      by_cases same : place = index
      · subst same
        rw [if_neg fresh, if_pos rfl, if_pos inside, if_pos List.mem_cons_self, there]
        rfl
      · have elsewhere : index ∈ place :: places ↔ index ∈ places := by
          rw [List.mem_cons, or_iff_right fun same' => same same'.symm]
        rw [if_neg same]
        simp only [elsewhere]

/-- The loop over all references gives every definition its value. -/
theorem decodeAt_references (order : ByteOrder) (valid : validate definitions = .ok ())
    (enough : 2 * (span definitions).2 ≤ buffer.length) :
    decodeAt order (span definitions).1 buffer ((references definitions).map (·.2)) definitions =
      (.ok (), definitions.map (decoded order (span definitions).1 buffer)) := by
  have each : ∀ place ∈ (references definitions).map (·.2), ∃ definition,
      definitions[place]? = some definition ∧ decodeChecked order (span definitions).1 buffer definition =
        .ok (decoded order (span definitions).1 buffer definition) := by
    intro place there
    have inside := mem_places.mp there
    exact ⟨definitions[place], List.getElem?_eq_getElem inside,
      decodeChecked_eq_ok order valid enough (List.getElem_mem inside)⟩
  obtain ⟨after, ran, holds⟩ := exists_decodeAt_eq (nodup_places definitions) each
  rw [ran]
  congr 1
  apply List.ext_getElem?
  intro index
  rw [holds, List.getElem?_map]
  by_cases inside : index < definitions.length
  · rw [if_pos (mem_places.mpr inside)]
  · rw [if_neg fun there => inside (mem_places.mp there), List.getElem?_eq_none (Nat.le_of_not_lt inside)]
    rfl

/-- **Decoding in place comes to what `decode` says**: all the values, or an error and the definitions as
they were. -/
theorem decodeInPlace_eq (order : ByteOrder) (definitions : List Definition) (buffer : Bytes) :
    decodeInPlace order definitions buffer =
      match decode order definitions buffer with
      | .ok after => (.ok (), after)
      | .error error => (.error (.failed error), definitions) := by
  rw [decodeInPlace, map_references, checkedSpan_eq, span_sorted,
    show validateFrom none (sorted definitions) = validate definitions from rfl]
  cases valid : validate definitions with
  | error reason => rw [decode_eq_error order buffer valid]
  | ok _ =>
    cases referenced : references definitions with
    | nil =>
      have none : sorted definitions = [] := by rw [← map_references, referenced, List.map_nil]
      obtain rfl : definitions = [] := List.eq_nil_iff_forall_not_mem.mpr fun definition there =>
        List.not_mem_nil (none ▸ mem_sorted.mpr there)
      rw [decode_eq_ok order valid (Nat.zero_le _)]
      rfl
    | cons reference others =>
      obtain ⟨first, place⟩ := reference
      have ascending : sorted definitions = first :: others.map (·.1) := by
        rw [← map_references, referenced, List.map_cons]
      have base : first.address = (span definitions).1 := address_of_sorted_cons ascending
      dsimp only
      rw [base, ← referenced]
      by_cases short : buffer.length < 2 * (span definitions).2
      · rw [if_pos short, decode_eq_error_of_short order valid short]
      · have enough := Nat.le_of_not_lt short
        rw [if_neg short, decodeAt_references order valid enough, decode_eq_ok order valid enough]
        rfl

/-! ### Encoding -/

/-- Bytes that stand behind a value anyway can be written with it. -/
theorem overwrite_append_drop {bytes : Bytes} {offset count : Nat} (few : bytes.length ≤ count)
    (room : offset + count ≤ buffer.length) :
    overwrite buffer offset (bytes ++ ((buffer.drop offset).take count).drop bytes.length) =
      overwrite buffer offset bytes := by
  let rest := buffer.drop (offset + bytes.length)
  let filling := count - bytes.length
  have behind : ((buffer.drop offset).take count).drop bytes.length = rest.take filling := by
    rw [List.drop_take, List.drop_drop]
  have last : buffer.drop (offset + (bytes ++ rest.take filling).length) = rest.drop filling := by
    rw [List.drop_drop, List.length_append, List.length_take, List.length_drop]
    congr 1
    omega
  calc
    overwrite buffer offset (bytes ++ _)
    _ = buffer.take offset ++ (bytes ++ rest.take filling) ++ rest.drop filling := by
      rw [behind, overwrite, last]
    _ = buffer.take offset ++ bytes ++ (rest.take filling ++ rest.drop filling) := by
      simp only [List.append_assoc]
    _ = overwrite buffer offset bytes := by rw [List.take_append_drop, overwrite]

/-- A value does not leave the space of its registers. -/
theorem encodeChecked_eq (order : ByteOrder) {count : Nat} {definition : Definition} (fits : definition.Fits)
    (within : definition.Within base count) (covers : buffer.length = 2 * count) :
    encodeChecked order base buffer definition =
      .ok (overwrite buffer (offset base definition) (definition.register.encode order)) := by
  have enough : 2 * count ≤ buffer.length := Nat.le_of_eq covers.symm
  have few : (definition.register.encode order).length ≤ definition.byteLength := by
    rw [Register.length_encode]
    exact fits.width
  have room : offset base definition + definition.byteLength ≤ buffer.length :=
    covers ▸ offset_add_byteLength_le within
  rw [encodeChecked, checkedSlice_eq within enough]
  dsimp only
  rw [FixedBuffer.put, FixedBuffer.remaining, length_slice within enough, if_pos few]
  exact congrArg Except.ok (overwrite_append_drop few room)

/-- The loop writes every value. -/
theorem encodeFrom_eq (order : ByteOrder) {count : Nat} (covers : buffer.length = 2 * count)
    (each : ∀ definition ∈ definitions, definition.Fits ∧ definition.Within base count) :
    encodeFrom order base definitions buffer = .ok (fill order base buffer definitions) := by
  induction definitions generalizing buffer with
  | nil => rfl
  | cons definition others ih =>
    obtain ⟨⟨fits, within⟩, each⟩ := List.forall_mem_cons.mp each
    have room : offset base definition + (definition.register.encode order).length ≤ buffer.length :=
      covers ▸ offset_add_width_le fits within
    rw [encodeFrom, encodeChecked_eq order fits within covers]
    exact ih ((length_overwrite room).trans covers) each

/-- **Encoding in place comes to what `encode` says**: each value stays within its space. -/
theorem encodeInPlace_eq (order : ByteOrder) (definitions : List Definition) :
    encodeInPlace order definitions =
      match encode order definitions with
      | .ok encoded => .ok encoded
      | .error reason => .error (.failed (.protocol reason)) := by
  rw [encodeInPlace, checkedSpan_eq, span_sorted]
  cases valid : validate definitions with
  | error reason => rw [encode_eq_error order valid]
  | ok _ =>
    dsimp only
    rw [encode_eq_fill order valid,
      encodeFrom_eq order List.length_replicate fun _ there => fits_within_of_mem_sorted valid there]
    rfl

end Layout

end ModbusTcp
