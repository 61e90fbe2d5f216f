import Mathlib.Data.List.Forall2
import ModbusTcp.Client.InPlace
import ModbusTcp.Proofs.Client.Definitions
import ModbusTcp.Proofs.Register.InPlace

/-!
# Definitions read in place

Definitions that are decoded in place all get their values, or none of them does.  So whatever a peer sends
to a client that reads them, they only change if that succeeds.

* `Client.readInPlace_eq` — reading definitions in place comes to what the operation says.
* `Definition.Taken` — a definition that has got its value.
* **`Layout.decodeInPlace_all_or_nothing`** — which definitions change, and how.
-/

namespace ModbusTcp

/-! ### Reading from a peer -/

namespace Operation

variable {α β : Type}

/-- An operation that goes on with what another one accepts. -/
theorem interpret_of_accept {operation : Operation α} {whole : Operation β} {f : α → Except Error β}
    (accept : ∀ payload, whole.accept payload = operation.accept payload >>= f) (request response : Frame) :
    whole.interpret request response =
      match operation.interpret request response with
      | .error error => .error error
      | .ok (.exception code) => .ok (.exception code)
      | .ok (.value value) => (f value).map .value := by
  rw [interpret, interpret]
  cases response.pdu? with
  | none => rfl
  | some pdu =>
    dsimp only
    by_cases other : withoutFlag pdu.function ≠ (request.pdu?.map (·.function)).getD 0
    · rw [if_pos other, if_pos other]
    · rw [if_neg other, if_neg other]
      split
      · rfl
      · rename_i payload _ _
        rw [accept]
        cases operation.accept payload <;> rfl
      · rfl

end Operation

namespace Client

variable {σ : Type}

/-- **Reading in place comes to what the operation says**: all the values, or something else and the
definitions as they were. -/
theorem readInPlace_eq (peer : Peer σ) (client : Client σ) (unit : UInt8) (definitions : List Definition)
    (circumstances : Circumstances) :
    let performed :=
      client.perform peer (.readDefinitions client.config.order unit definitions) circumstances
    client.readInPlace peer unit definitions circumstances =
      match performed.1 with
      | .ok (.value got) => (.ok (.value ()), got, performed.2)
      | .ok (.exception code) => (.ok (.exception code), definitions, performed.2)
      | .error error => (.error (.failed error), definitions, performed.2) := by
  intro performed
  let order := client.config.order
  have accepted (payload : Packet) : (Operation.readDefinitions order unit definitions).accept payload =
      (Operation.readSpan order unit definitions).accept payload >>= Layout.decode order definitions := rfl
  have prepares : client.prepare (Operation.readSpan order unit definitions) =
      client.prepare (Operation.readDefinitions order unit definitions) := rfl
  rw [show performed = _ from perform.eq_def .., readInPlace, perform, prepares]
  cases client.prepare (Operation.readDefinitions order unit definitions) with
  | error error => rfl
  | ok prepared =>
    obtain ⟨request, next⟩ := prepared
    dsimp only
    cases (next.transceive peer request circumstances).1 with
    | error error => rfl
    | ok response =>
      dsimp only [bind, Except.bind]
      rw [Operation.interpret_of_accept accepted]
      cases (Operation.readSpan order unit definitions).interpret request response with
      | error error => rfl
      | ok answer =>
        cases answer with
        | exception code => rfl
        | value buffer =>
          dsimp only
          rw [Layout.decodeInPlace_eq]
          cases Layout.decode order definitions buffer <;> rfl

end Client

/-! ### All or nothing -/

/-- A definition has got a value of its kind, which depends on nothing but as many bytes of a buffer as the
value is wide, from the place of its own registers on, and it has kept all else. -/
structure Definition.Taken (order : ByteOrder) (start : UInt16) (buffer : Bytes)
    (before after : Definition) : Prop where
  kept : after = { before with register := after.register }
  kind : after.register.cleared = before.register.cleared
  initialized : after.register.isInitialized
  value : after.register = before.register.cleared.read order
    ((buffer.drop (2 * (before.address.toNat - start.toNat))).take before.register.width)

namespace Layout

variable {order : ByteOrder} {base : UInt16} {buffer : Bytes} {definitions : List Definition}

theorem taken_decoded {definition : Definition} (fits : definition.Fits) :
    definition.Taken order base buffer (decoded order base buffer definition) where
  kept := rfl
  kind := definition.register.cleared_read order _
  initialized := by
    rw [decoded]
    cases definition.register <;> rfl
  value := by
    rw [definition.register.read_cleared, Register.read_take order (Nat.le_refl _)]
    exact Register.read_take order fits.width _

/-- Decoding in place gives all the values, if the layout is accepted and the buffer holds its span, and
reports an error without any change if not. -/
theorem decodeInPlace_cases (order : ByteOrder) (definitions : List Definition) (buffer : Bytes) :
    let accepted := validate definitions = .ok () ∧ 2 * (span definitions).2 ≤ buffer.length
    accepted ∧ decodeInPlace order definitions buffer =
        (.ok (), definitions.map (decoded order (span definitions).1 buffer)) ∨
      ¬accepted ∧ ∃ error, decodeInPlace order definitions buffer = (.error (.failed error), definitions) := by
  intro accepted
  rw [decodeInPlace_eq]
  cases valid : validate definitions with
  | error reason =>
    rw [decode_eq_error order buffer valid]
    refine .inr ⟨fun both => ?_, _, rfl⟩
    cases valid.symm.trans both.1
  | ok _ =>
    by_cases short : buffer.length < 2 * (span definitions).2
    · rw [decode_eq_error_of_short order valid short]
      exact .inr ⟨fun both => Nat.not_le.mpr short both.2, _, rfl⟩
    · have enough := Nat.le_of_not_lt short
      rw [decode_eq_ok order valid enough]
      exact .inl ⟨⟨valid, enough⟩, rfl⟩

/-- **Decoding in place is all or nothing.**  For any definitions in any order and any buffer, no difference
of addresses is negative and no slice leaves the buffer.  Decoding succeeds exactly if the layout is accepted
and the buffer holds the covering span.  Then each definition has got its value from its own bytes and has
kept all else; after an error none has changed.  So whatever a peer sends to a client that reads definitions,
they only change if that succeeds. -/
theorem decodeInPlace_all_or_nothing (order : ByteOrder) (definitions : List Definition) (buffer : Bytes)
    {σ : Type} (peer : Peer σ) (client : Client σ) (unit : UInt8) (circumstances : Circumstances) :
    let ran := decodeInPlace order definitions buffer
    let start := (span definitions).1
    let count := (span definitions).2
    let read := client.readInPlace peer unit definitions circumstances
    ran.1 ≠ .error .outOfRange ∧
      (ran.1 = .ok () ↔ validate definitions = .ok () ∧ 2 * count ≤ buffer.length) ∧
      (ran.1 = .ok () → List.Forall₂ (Definition.Taken order start buffer) definitions ran.2) ∧
      (ran.1 ≠ .ok () → ran.2 = definitions) ∧
      read.1 ≠ .error .outOfRange ∧ (read.1 ≠ .ok (.value ()) → read.2.1 = definitions) := by
  intro ran start count read
  have reading : read.1 ≠ .error .outOfRange ∧ (read.1 ≠ .ok (.value ()) → read.2.1 = definitions) := by
    rw [show read = _ from client.readInPlace_eq peer unit definitions circumstances]
    cases (client.perform peer (.readDefinitions client.config.order unit definitions) circumstances).1 with
    | error error => exact ⟨nofun, fun _ => rfl⟩
    | ok answer =>
      cases answer with
      | exception code => exact ⟨nofun, fun _ => rfl⟩
      | value got => exact ⟨nofun, fun changed => absurd rfl changed⟩
  rcases decodeInPlace_cases order definitions buffer with ⟨accepted, same⟩ | ⟨rejected, error, same⟩
  · have taken : List.Forall₂ (Definition.Taken order start buffer) definitions ran.2 := by
      rw [show ran = _ from same, List.forall₂_map_right_iff, List.forall₂_same]
      exact fun definition there => taken_decoded ((validate_eq_ok_iff.mp accepted.1).1 definition there)
    rw [show ran = _ from same] at taken ⊢
    exact ⟨nofun, iff_of_true rfl accepted, fun _ => taken, fun failed => absurd rfl failed, reading⟩
  · rw [show ran = _ from same]
    exact ⟨nofun, iff_of_false nofun rejected, nofun, fun _ => rfl, reading⟩

/-- A text in front of a number that stands two registers before it: both are decoded from ten bytes, and
neither from nine, or by a client that is not connected. -/
theorem decodeInPlace_of_two :
    let name : Definition := { label := "Name", address := 7, count := 3, register := .text 5 none }
    let level : Definition := { label := "Level", address := 5, count := 1, register := .numeric .u8 none }
    let bytes : Bytes := [7, 9, 9, 9, 0x61, 0x62, 0, 0, 0, 9]
    let client : Client Unit := { config := { host := "device" }, factory := {} }
    (decodeInPlace .big [name, level] bytes).1 = .ok () ∧
      List.Forall₂ (Definition.Taken .big 5 bytes) [name, level]
        (decodeInPlace .big [name, level] bytes).2 ∧
      (decodeInPlace .big [name, level] (bytes.take 9)).2 = [name, level] ∧
      (client.readInPlace (.silent Unit) 1 [name, level] {}).2.1 = [name, level] := by
  intro name level bytes client
  have ascending : sorted [name, level] = [level, name] := by
    simp [sorted, level, name, List.mergeSort]
  have fits : FitsRequest [name, level] := ⟨by rw [validate, ascending]; rfl, by decide, by decide⟩
  obtain ⟨-, succeeds, taken, -, -, unread⟩ :=
    decodeInPlace_all_or_nothing .big [name, level] bytes (.silent Unit) client 1 {}
  obtain ⟨-, succeeds', -, unchanged, -⟩ :=
    decodeInPlace_all_or_nothing .big [name, level] (bytes.take 9) (.silent Unit) client 1 {}
  have accepted := succeeds.mpr ⟨fits.valid, by decide⟩
  refine ⟨accepted, taken accepted, unchanged fun short => ?_, unread ?_⟩
  · exact absurd (succeeds'.mp short).2 (by decide)
  · rw [Client.readInPlace_eq, Client.perform, Client.prepare,
      Operation.build_readDefinitions client.config.order 1 fits]
    intro read
    cases read

end Layout

end ModbusTcp
