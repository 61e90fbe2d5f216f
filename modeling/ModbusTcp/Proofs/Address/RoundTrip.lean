import ModbusTcp.Address.Parse
import ModbusTcp.Proofs.Address.Written

/-!
# What is written is read

The text of an address is read as this address.  No part of a text can be mistaken for another one: an octet ends where
a point stands, a group where a colon stands, and the groups end where two colons stand or nothing.

* `IpAddress.takeOctet_toDigits`, `IpAddress.takeGroup_toDigits`, `IpAddress.takeV4_dotted` — the parts of a text.
* `IpAddress.takeGroups_colons` — groups are read up to where they stop.
* **`IpAddress.parse?_of_written`** — the text of an address is read as this address.
* `IpAddress.parsePrefixLength?_toDigits` — a number of leading bits is read.
-/

namespace ModbusTcp.IpAddress

open Digits

variable {chars rest tail : List Char} {isFirst : Bool} {room group : Nat} {values : List Nat}

/-! ### Octets -/

theorem takeOctet_toDigits {number : Nat} (small : number < 256) (ends : Ends 10 rest) :
    takeOctet (Nat.toDigits 10 number ++ rest) = some (.ofNat number, rest) := by
  obtain ⟨digits, spells, taken⟩ := exists_take_toDigits (by decide) (by decide) number ends
  have few : digits.length ≤ 3 := by
    rw [spells.length, Nat.length_toDigits_le_iff (by decide) (by decide)]
    omega
  have inside : ¬(digits.isEmpty ∨ 3 < digits.length ∨ 255 < number) := by
    rw [List.isEmpty_iff]
    rintro (empty | many | large)
    · exact spells.ne_nil empty
    · omega
    · omega
  have plain : ¬(digits.head? = some 0 ∧ 1 < digits.length) := by
    rintro ⟨zero, several⟩
    rw [spells.length, spells.first zero] at several
    exact absurd several (by decide)
  rw [takeOctet, taken]
  dsimp only
  rw [spells.value, if_neg inside, if_neg plain]

theorem takeOctet_of_ends (ends : Ends 10 chars) : takeOctet chars = none := by
  rw [takeOctet, take_of_ends ends]
  rfl

/-- An octet is read off the front. -/
theorem takeOctet_suffix {octet : UInt8} (taken : takeOctet chars = some (octet, rest)) : rest <:+ chars := by
  rw [takeOctet] at taken
  dsimp only at taken
  split at taken
  · cases taken
  · split at taken
    · cases taken
    · cases taken
      exact take_suffix 10 chars

/-- The octets of an IPv4 address are read, if no further digit follows. -/
theorem takeV4_dotted (bits : BitVec 32) (ends : Ends 10 rest) :
    takeV4 (dotted bits ++ rest) = some (bits, rest) := by
  have octet (low : Nat) : (bits.extractLsb' low 8).toNat < 256 := BitVec.isLt _
  have point (chars : List Char) : takeChar '.' ('.' :: chars) = some chars := rfl
  simp only [dotted_eq, List.append_assoc, List.cons_append, takeV4, Option.bind_eq_bind, point,
    takeOctet_toDigits (octet 24) (ends_point 10 _), takeOctet_toDigits (octet 16) (ends_point 10 _),
    takeOctet_toDigits (octet 8) (ends_point 10 _), takeOctet_toDigits (octet 0) ends, Option.bind_some]
  rw [ofOctets_octets]
  rfl

/-- No IPv4 address starts with something else than a digit. -/
theorem takeV4_of_ends (ends : Ends 10 chars) : takeV4 chars = none := by
  rw [takeV4, takeOctet_of_ends ends]
  rfl

/-- Without points there is no IPv4 address. -/
theorem takeV4_of_not_mem (plain : '.' ∉ chars) : takeV4 chars = none := by
  rw [takeV4]
  cases taken : takeOctet chars with
  | none => rfl
  | some read =>
    obtain ⟨octet, rest⟩ := read
    have none : takeChar '.' rest = none := by
      cases rest with
      | nil => rfl
      | cons char rest =>
        have member : char ∈ chars := (takeOctet_suffix taken).mem List.mem_cons_self
        exact if_neg (ne_of_mem_of_not_mem member plain)
    dsimp only [Option.bind_eq_bind, Option.bind_some]
    rw [none]
    rfl

/-! ### Groups -/

theorem takeGroup_toDigits (small : group < 65536) (ends : Ends 16 rest) :
    takeGroup (Nat.toDigits 16 group ++ rest) = some (group, rest) := by
  obtain ⟨digits, spells, taken⟩ := exists_take_toDigits (by decide) (by decide) group ends
  have few : digits.length ≤ 4 := by
    rw [spells.length, Nat.length_toDigits_le_iff (by decide) (by decide)]
    omega
  have inside : ¬(digits.isEmpty ∨ 4 < digits.length) := by
    rw [List.isEmpty_iff]
    rintro (empty | many)
    · exact spells.ne_nil empty
    · omega
  rw [takeGroup, taken]
  dsimp only
  rw [spells.value, if_neg inside]

theorem takeGroup_of_ends (ends : Ends 16 chars) : takeGroup chars = none := by
  rw [takeGroup, take_of_ends ends]
  rfl

/-- A group is read, if it is not the first octet of an IPv4 address, and then the others. -/
theorem takeGroups_group (colon : takeColon isFirst chars = some (Nat.toDigits 16 group ++ rest))
    (small : group < 65536) (ends : Ends 16 rest) (other : takeV4 (Nat.toDigits 16 group ++ rest) = none) :
    takeGroups isFirst (room + 1) chars =
      { takeGroups false room rest with values := group :: (takeGroups false room rest).values } := by
  have none : (if room = 0 then Option.none else takeColon isFirst chars >>= takeV4) = Option.none := by
    rw [colon]
    exact (ite_eq_left_iff).mpr fun _ => other
  rw [takeGroups, none, colon]
  dsimp only [Option.bind_eq_bind, Option.bind_some]
  rw [takeGroup_toDigits small ends]

/-- An IPv4 address stands for two groups. -/
theorem takeGroups_dotted (bits : BitVec 32) (colon : takeColon isFirst chars = some (dotted bits ++ rest))
    (ends : Ends 10 rest) :
    takeGroups isFirst (room + 2) chars =
      ⟨[(bits.extractLsb' 16 16).toNat, (bits.extractLsb' 0 16).toNat], true, rest⟩ := by
  rw [takeGroups, if_neg (Nat.succ_ne_zero room), colon]
  dsimp only [Option.bind_eq_bind, Option.bind_some]
  rw [takeV4_dotted bits ends]

/-- Behind the last group there is nothing, or two colons. -/
def Stops (chars : List Char) : Prop := chars = [] ∨ ∃ tail, chars = "::".toList ++ tail

theorem Stops.ends (stops : Stops rest) : Ends 16 rest := by
  rcases stops with rfl | ⟨tail, rfl⟩
  · exact ends_nil 16
  · exact ends_colon 16 _

/-- No group is read where the groups stop. -/
theorem takeGroups_of_stops (stops : Stops rest) : takeGroups isFirst room rest = ⟨[], false, rest⟩ := by
  have ends : ∀ next, takeColon isFirst rest = some next → Ends 16 next := by
    intro next colon
    cases isFirst with
    | true =>
      obtain rfl := Option.some.inj colon
      exact stops.ends
    | false =>
      rcases stops with rfl | ⟨tail, rfl⟩
      · cases colon
      · obtain rfl := Option.some.inj colon
        exact ends_colon 16 _
  have noV4 : takeColon isFirst rest >>= takeV4 = none :=
    Option.bind_eq_none_iff.mpr fun next colon => takeV4_of_ends ((ends next colon).lower (by decide))
  have noGroup : takeColon isFirst rest >>= takeGroup = none :=
    Option.bind_eq_none_iff.mpr fun next colon => takeGroup_of_ends (ends next colon)
  cases room with
  | zero => rfl
  | succ room => rw [takeGroups, noV4, noGroup, ite_self]

/-- Groups are not taken for an IPv4 address. -/
theorem takeV4_groups (plain : '.' ∉ rest) : takeV4 (Nat.toDigits 16 group ++ (further values ++ rest)) = none := by
  rw [← List.append_assoc, ← colons_cons]
  refine takeV4_of_not_mem fun member => ?_
  exact (List.mem_append.mp member).elim (point_not_mem_colons _) plain

theorem ends_further (ends : Ends 16 rest) : Ends 16 (further values ++ rest) := by
  cases values with
  | nil => exact ends
  | cons group values => exact ends_colon 16 _

/-- Groups behind others are read, up to where they stop. -/
theorem takeGroups_further (fit : values.length ≤ room) (small : ∀ group ∈ values, group < 65536)
    (stops : Stops rest) (plain : '.' ∉ rest) :
    takeGroups false room (further values ++ rest) = ⟨values, false, rest⟩ := by
  induction values generalizing room with
  | nil => exact takeGroups_of_stops stops
  | cons group values ih =>
    obtain ⟨room, rfl⟩ := Nat.exists_eq_add_of_le' (Nat.le_trans (Nat.succ_pos _) fit)
    have colon : takeColon false (further (group :: values) ++ rest) =
        some (Nat.toDigits 16 group ++ (further values ++ rest)) := congrArg some (List.append_assoc _ _ _)
    rw [takeGroups_group colon (small group List.mem_cons_self) (ends_further stops.ends) (takeV4_groups plain),
      ih (Nat.le_of_succ_le_succ fit) fun other member => small other (List.mem_cons_of_mem group member)]

/-- Groups are read, up to where they stop. -/
theorem takeGroups_colons (fit : values.length ≤ room) (small : ∀ group ∈ values, group < 65536)
    (stops : Stops rest) (plain : '.' ∉ rest) :
    takeGroups true room (colons values ++ rest) = ⟨values, false, rest⟩ := by
  cases values with
  | nil => exact takeGroups_of_stops stops
  | cons group values =>
    obtain ⟨room, rfl⟩ := Nat.exists_eq_add_of_le' (Nat.le_trans (Nat.succ_pos _) fit)
    rw [colons_cons, List.append_assoc,
      takeGroups_group rfl (small group List.mem_cons_self) (ends_further stops.ends) (takeV4_groups plain),
      takeGroups_further (Nat.le_of_succ_le_succ fit)
        (fun other member => small other (List.mem_cons_of_mem group member)) stops plain]

/-! ### IPv6 addresses -/

/-- Eight groups are an address. -/
theorem takeV6_colons (eight : values.length = 8) (small : ∀ group ∈ values, group < 65536) :
    takeV6 (colons values) = some (ofGroups values, []) := by
  have read := takeGroups_colons (Nat.le_of_eq eight) small (.inl rfl) List.not_mem_nil
  rw [List.append_nil] at read
  rw [takeV6, read]
  dsimp only
  rw [if_pos eight]

/-- Two colons stand for the groups that are missing. -/
theorem takeV6_of_front {front back : List Nat} {endsInV4 : Bool} (few : front.length < 8)
    (before : takeGroups true 8 chars = ⟨front, false, "::".toList ++ tail⟩)
    (behind : takeGroups true (7 - front.length) tail = ⟨back, endsInV4, []⟩) :
    takeV6 chars =
      some (ofGroups (front ++ List.replicate (8 - front.length - back.length) 0 ++ back), []) := by
  have colons : (takeChar ':' ("::".toList ++ tail) >>= takeChar ':') = some tail := rfl
  rw [takeV6, before]
  dsimp only
  rw [if_neg (Nat.ne_of_lt few), if_neg Bool.false_ne_true, colons]
  dsimp only [Option.bind_eq_bind, Option.bind_some]
  rw [behind]
  rfl

/-- The groups in front of two colons and those behind them are read, and zeros put between them. -/
theorem takeV6_compressed {front back : List Nat} {zeros : Nat} (some : 0 < zeros)
    (eight : front.length + zeros + back.length = 8) (smallFront : ∀ group ∈ front, group < 65536)
    (smallBack : ∀ group ∈ back, group < 65536) :
    takeV6 (colons front ++ "::".toList ++ colons back) =
      Option.some (ofGroups (front ++ List.replicate zeros 0 ++ back), []) := by
  have plain : '.' ∉ "::".toList ++ colons back := by simpa using point_not_mem_colons back
  have before : takeGroups true 8 (colons front ++ ("::".toList ++ colons back)) =
      ⟨front, false, "::".toList ++ colons back⟩ :=
    takeGroups_colons (by omega) smallFront (.inr ⟨_, rfl⟩) plain
  have behind : takeGroups true (7 - front.length) (colons back ++ []) = ⟨back, false, []⟩ :=
    takeGroups_colons (by omega) smallBack (.inl rfl) List.not_mem_nil
  rw [List.append_nil] at behind
  have missing : 8 - front.length - back.length = zeros := by omega
  rw [List.append_assoc, takeV6_of_front (by omega) before behind, missing]

/-- The IPv6 form of an IPv4 address has no group in front of the colons, and the one of sixteen ones behind them. -/
theorem takeV6_mapped (bits : BitVec 32) : takeV6 ("::ffff:".toList ++ dotted bits) = some (mapped bits, []) := by
  have before : takeGroups true 8 ("::ffff:".toList ++ dotted bits) =
      ⟨[], false, "::".toList ++ ("ffff:".toList ++ dotted bits)⟩ := takeGroups_of_stops (.inr ⟨_, rfl⟩)
  have octets := @takeGroups_dotted (':' :: dotted bits) [] false 4 bits
    (congrArg some (List.append_nil _).symm) (ends_nil 10)
  have behind := @takeGroups_group ("ffff:".toList ++ dotted bits) (':' :: dotted bits) true 6 65535 rfl (by decide)
    (ends_colon 16 _) (takeV4_of_ends (by rintro char ⟨⟩; rfl))
  rw [octets] at behind
  rw [takeV6_of_front (by decide) before behind, ← ofGroups_groups (mapped bits), groups_mapped]
  rfl

/-! ### Addresses -/

/-- **What is written is read.**  The text of an address, in its form, is read as this address. -/
theorem parse?_of_written {address : IpAddress} (written : Written address chars) : parse? chars = some address := by
  cases written with
  | v4 bits =>
    have read := takeV4_dotted bits (ends_nil 10)
    rw [List.append_nil] at read
    rw [parse?, read]
  | mapped bits =>
    have other : takeV4 ("::ffff:".toList ++ dotted bits) = none := takeV4_of_ends (ends_colon 10 _)
    rw [parse?, other, takeV6_mapped]
  | @full bits other apart =>
    have read := takeV6_colons (length_groups bits) fun group member => lt_of_mem_groups member
    rw [parse?, takeV4_of_not_mem (point_not_mem_colons _), read, ofGroups_groups]
  | @compressed bits run other longest several =>
    have within := longest.within
    have inside := within.inside (by omega)
    rw [length_groups] at inside
    have plain : '.' ∉ colons ((groups bits).take run.start) ++ "::".toList ++
        colons ((groups bits).drop (run.start + run.length)) := by
      simp [point_not_mem_colons]
    have eight : ((groups bits).take run.start).length + run.length +
        ((groups bits).drop (run.start + run.length)).length = 8 := by
      rw [List.length_take, List.length_drop, length_groups]
      omega
    have read := takeV6_compressed (by omega) eight
      (fun group member => lt_of_mem_groups (List.mem_of_mem_take member))
      (fun group member => lt_of_mem_groups (List.mem_of_mem_drop member))
    rw [parse?, takeV4_of_not_mem plain, read, within.append_eq, ofGroups_groups]

/-- A number of leading bits is read. -/
theorem parsePrefixLength?_toDigits {number : Nat} (small : number < 256) :
    parsePrefixLength? (Nat.toDigits 10 number) = some number := by
  obtain ⟨digits, spells, taken⟩ := exists_take_toDigits (by decide) (by decide) number (ends_nil 10)
  rw [List.append_nil] at taken
  have unsigned : (Nat.toDigits 10 number).head? ≠ some '+' := by
    intro plus
    obtain ⟨digit, inside, same⟩ := exists_of_mem_toDigits (by decide) number (List.mem_of_mem_head? plus)
    have digits : ∀ digit < 10, '+' ≠ Nat.digitChar digit := by decide
    exact digits digit inside same
  have inside : ¬(digits.isEmpty ∨ ¬([] : List Char).isEmpty ∨ 255 < number) := by
    rw [List.isEmpty_iff]
    rintro (empty | more | large)
    · exact spells.ne_nil empty
    · exact more rfl
    · omega
  rw [parsePrefixLength?, if_neg unsigned, taken]
  dsimp only
  rw [spells.value, if_neg inside]

end ModbusTcp.IpAddress
