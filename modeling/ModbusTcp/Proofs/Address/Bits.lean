import ModbusTcp.Address

/-!
# The bits of addresses

An IPv4 address is four octets, an IPv6 address eight groups of sixteen bits.  An IPv4 address can be written as an
IPv6 one, with sixteen ones in front of its own bits and zeros in front of these.

* `IpAddress.mapped` — the IPv6 form of an IPv4 address; `IpAddress.canonical_eq_v4_iff` and
  `IpAddress.canonical_eq_v6_iff` say what an address is compared as.
* `IpAddress.IsMapped` — an address is such a form; no IPv4 address is one.
* `IpAddress.ofOctets_octets`, `IpAddress.ofGroups_groups` — an address is made of its octets or groups;
  `IpAddress.groups_mapped` has the groups of the IPv6 form.
-/

namespace ModbusTcp

/-! ### The two forms of an IPv4 address -/

namespace IpAddress

/-- The IPv6 form of an IPv4 address. -/
def mapped (bits : BitVec 32) : BitVec 128 := 0xFFFF#96 ++ bits

theorem mapped?_eq_some_iff {bits : BitVec 128} {short : BitVec 32} :
    mapped? bits = some short ↔ bits = mapped short := by
  rw [mapped?, mapped]
  constructor
  · intro found
    split at found
    · next high =>
      rw [← Option.some.inj found, ← high]
      exact (@BitVec.extractLsb'_append_extractLsb' 96 32 bits).symm
    · cases found
  · rintro rfl
    rw [BitVec.extractLsb'_append_eq_left, BitVec.extractLsb'_append_eq_right, if_pos rfl]

theorem mapped?_eq_none_iff {bits : BitVec 128} : mapped? bits = none ↔ ∀ short, bits ≠ mapped short := by
  rw [Option.eq_none_iff_forall_ne_some]
  exact forall_congr' fun short => not_congr mapped?_eq_some_iff

/-- Both forms of an IPv4 address are compared as it. -/
theorem canonical_eq_v4_iff {address : IpAddress} {short : BitVec 32} :
    address.canonical = .v4 short ↔ address = .v4 short ∨ address = .v6 (mapped short) := by
  cases address with
  | v4 bits => exact ⟨.inl, fun same => same.elim id fun other => IpAddress.noConfusion other⟩
  | v6 bits =>
    rw [canonical]
    constructor
    · intro same
      split at same
      · next other found => exact .inr (congrArg v6 (mapped?_eq_some_iff.mp (found.trans (by cases same; rfl))))
      · cases same
    · rintro (same | same)
      · cases same
      · rw [mapped?_eq_some_iff.mpr (v6.inj same)]

/-- An IPv6 address is compared as itself, unless it is the form of an IPv4 address. -/
theorem canonical_eq_v6_iff {address : IpAddress} {bits : BitVec 128} :
    address.canonical = .v6 bits ↔ address = .v6 bits ∧ ∀ short, bits ≠ mapped short := by
  cases address with
  | v4 short => exact ⟨fun same => IpAddress.noConfusion same, fun same => IpAddress.noConfusion same.1⟩
  | v6 other =>
    rw [canonical, ← mapped?_eq_none_iff]
    constructor
    · intro same
      split at same
      · cases same
      · next none =>
        obtain rfl := v6.inj same
        exact ⟨rfl, none⟩
    · rintro ⟨same, none⟩
      obtain rfl := v6.inj same
      rw [none]

/-- An address is the IPv6 form of an IPv4 address. -/
def IsMapped (address : IpAddress) : Prop := ∃ short, address = .v6 (mapped short)

theorem not_isMapped_v4 (bits : BitVec 32) : ¬IsMapped (.v4 bits) := by
  rintro ⟨short, same⟩
  cases same

theorem not_isMapped_v6_iff {bits : BitVec 128} : ¬IsMapped (.v6 bits) ↔ ∀ short, bits ≠ mapped short := by
  rw [IsMapped, not_exists]
  exact forall_congr' fun short => not_congr ⟨v6.inj, congrArg v6⟩

/-! ### Octets and groups -/

/-- An IPv4 address is made of its octets. -/
theorem ofOctets_octets (bits : BitVec 32) :
    ofOctets (.ofNat (bits.extractLsb' 24 8).toNat) (.ofNat (bits.extractLsb' 16 8).toNat)
      (.ofNat (bits.extractLsb' 8 8).toNat) (.ofNat (bits.extractLsb' 0 8).toNat) = bits := by
  have octet (part : BitVec 8) : (UInt8.ofNat part.toNat).toBitVec = part :=
    (BitVec.ofNat_toNat 8 part).trans (BitVec.setWidth_eq part)
  rw [ofOctets, octet, octet, octet, octet]
  have two : bits.extractLsb' 24 8 ++ bits.extractLsb' 16 8 = bits.extractLsb' 16 16 :=
    BitVec.extractLsb'_append_extractLsb'_eq_extractLsb' rfl
  have three : bits.extractLsb' 16 16 ++ bits.extractLsb' 8 8 = bits.extractLsb' 8 24 :=
    BitVec.extractLsb'_append_extractLsb'_eq_extractLsb' rfl
  have four : bits.extractLsb' 8 24 ++ bits.extractLsb' 0 8 = bits.extractLsb' 0 32 :=
    BitVec.extractLsb'_append_extractLsb'_eq_extractLsb' rfl
  rw [two, three, four, BitVec.extractLsb'_eq_self]

theorem length_groups (bits : BitVec 128) : (groups bits).length = 8 := rfl

theorem lt_of_mem_groups {bits : BitVec 128} {group : Nat} (member : group ∈ groups bits) : group < 65536 := by
  obtain ⟨low, _, rfl⟩ := List.mem_map.mp member
  exact BitVec.isLt _

/-- The groups of the higher bits and one group more. -/
theorem shiftLeft_or_group (bits : BitVec 128) (low : Nat) :
    bits >>> (low + 16) <<< 16 ||| BitVec.ofNat 128 ((bits.extractLsb' low 16).toNat % 65536) = bits >>> low := by
  rw [Nat.mod_eq_of_lt (BitVec.isLt _)]
  refine BitVec.eq_of_getLsbD_eq fun index inside => ?_
  rw [BitVec.getLsbD_or, BitVec.getLsbD_shiftLeft, BitVec.getLsbD_ushiftRight, BitVec.getLsbD_ushiftRight,
    BitVec.getLsbD_ofNat, ← BitVec.getLsbD, BitVec.getLsbD_extractLsb']
  by_cases group : index < 16
  · simp [group, inside]
  · have place : low + 16 + (index - 16) = low + index := by omega
    simp [group, inside, place]

/-- An IPv6 address is made of its groups. -/
theorem ofGroups_groups (bits : BitVec 128) : ofGroups (groups bits) = bits := by
  have none : (0 : BitVec 128) = bits >>> (112 + 16) := (BitVec.ushiftRight_eq_zero (Nat.le_refl 128)).symm
  simp only [ofGroups, groups, List.map_cons, List.map_nil, List.foldl_cons, List.foldl_nil]
  rw [none, shiftLeft_or_group bits 112, shiftLeft_or_group bits 96, shiftLeft_or_group bits 80,
    shiftLeft_or_group bits 64, shiftLeft_or_group bits 48, shiftLeft_or_group bits 32,
    shiftLeft_or_group bits 16, shiftLeft_or_group bits 0]
  exact BitVec.ushiftRight_zero bits

/-- The groups of the IPv6 form of an IPv4 address. -/
theorem groups_mapped (bits : BitVec 32) :
    groups (mapped bits) =
      [0, 0, 0, 0, 0, 65535, (bits.extractLsb' 16 16).toNat, (bits.extractLsb' 0 16).toNat] := by
  have above (low : Nat) (high : 32 ≤ low) :
      (mapped bits).extractLsb' low 16 = (0xFFFF#96).extractLsb' (low - 32) 16 :=
    BitVec.extractLsb'_append_eq_of_le high
  have below (low : Nat) (within : low + 16 ≤ 32) : (mapped bits).extractLsb' low 16 = bits.extractLsb' low 16 :=
    BitVec.extractLsb'_append_eq_of_add_le within
  simp only [groups, List.map_cons, List.map_nil]
  rw [above 112 (by decide), above 96 (by decide), above 80 (by decide), above 64 (by decide),
    above 48 (by decide), above 32 (by decide), below 16 (by decide), below 0 (by decide)]
  rfl

end IpAddress

end ModbusTcp
