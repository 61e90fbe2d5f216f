import ModbusTcp.Proofs.Address.Bits
import ModbusTcp.Proofs.Address.ZeroRun
import ModbusTcp.Proofs.Text.Digits

/-!
# How addresses are written

An IPv4 address is written as four decimal numbers with points between them.  An IPv6 address is written as eight
hexadecimal numbers with colons between them, without the longest run of zeros if this has more than one; the IPv6 form
of an IPv4 address is written with the text of the IPv4 address.

* `IpAddress.dotted`, `IpAddress.colons` — numbers with points or colons between them.
* `IpAddress.Written` — the form of the text of an address; **`IpAddress.written_text`** says that it has this form.
* `IpAddress.dotted_eq`, `IpAddress.colons_cons` — the first of the numbers and the others.
* `IpAddress.IsSign`, `IpAddress.Written.isSign` — the characters that occur in a text.
-/

namespace ModbusTcp.IpAddress

/-! ### The form of a text -/

/-- The octets of an IPv4 address, with points between them. -/
def dotted (bits : BitVec 32) : List Char := ['.'].intercalate ((octets bits).map (Nat.toDigits 10))

/-- Groups of an IPv6 address, with colons between them. -/
def colons (groups : List Nat) : List Char := [':'].intercalate (groups.map (Nat.toDigits 16))

/-- The text of an address. -/
inductive Written : IpAddress → List Char → Prop
  /-- Four octets. -/
  | v4 (bits : BitVec 32) : Written (.v4 bits) (dotted bits)
  /-- The octets of an IPv4 address in IPv6 form. -/
  | mapped (bits : BitVec 32) : Written (.v6 (mapped bits)) ("::ffff:".toList ++ dotted bits)
  /-- Eight groups among which no two neighbours are zeros. -/
  | full {bits : BitVec 128} (other : ∀ short, bits ≠ IpAddress.mapped short)
      (apart : ∀ run : ZeroRun, run.Within (groups bits) → run.length ≤ 1) : Written (.v6 bits) (colons (groups bits))
  /-- The groups without the first of the longest runs of zeros. -/
  | compressed {bits : BitVec 128} {run : ZeroRun} (other : ∀ short, bits ≠ IpAddress.mapped short)
      (longest : run.IsLongest (groups bits)) (several : 1 < run.length) :
      Written (.v6 bits) (colons ((groups bits).take run.start) ++ "::".toList ++
        colons ((groups bits).drop (run.start + run.length)))

theorem toList_textV4 (bits : BitVec 32) : (textV4 bits).toList = dotted bits := by
  rw [textV4, String.toList_intercalate, List.map_map, dotted]
  refine congrArg _ (List.map_congr_left fun octet _ => ?_)
  rw [Function.comp_apply, Nat.toString_eq_ofList_toDigits, String.toList_ofList]

theorem toList_textGroups (groups : List Nat) : (textGroups groups).toList = colons groups := by
  rw [textGroups, String.toList_intercalate, List.map_map, colons]
  exact congrArg _ (List.map_congr_left fun group _ => Hex.toList_lower group)

/-- Every address is written in its form. -/
theorem written_text (address : IpAddress) : Written address address.text.toList := by
  cases address with
  | v4 bits =>
    rw [text, toList_textV4]
    exact .v4 bits
  | v6 bits =>
    rw [text, textV6]
    cases found : mapped? bits with
    | some short =>
      obtain rfl := mapped?_eq_some_iff.mp found
      dsimp only
      rw [String.toList_append, toList_textV4]
      exact .mapped short
    | none =>
      have other := mapped?_eq_none_iff.mp found
      have longest := isLongest_longestZeroRun (groups bits)
      dsimp only
      split
      · next several =>
        rw [String.toList_append, String.toList_append, toList_textGroups, toList_textGroups]
        exact .compressed other longest several
      · next few =>
        rw [toList_textGroups]
        refine .full other fun run within => ?_
        have yields := longest.yields run within
        rw [ZeroRun.Yields] at yields
        omega

/-! ### Its parts -/

theorem dotted_eq (bits : BitVec 32) :
    dotted bits = Nat.toDigits 10 (bits.extractLsb' 24 8).toNat ++ '.' ::
      (Nat.toDigits 10 (bits.extractLsb' 16 8).toNat ++ '.' ::
        (Nat.toDigits 10 (bits.extractLsb' 8 8).toNat ++ '.' ::
          Nat.toDigits 10 (bits.extractLsb' 0 8).toNat)) := by
  simp only [dotted, octets, List.map_cons, List.map_nil, List.intercalate_cons_cons, List.intercalate_singleton,
    List.append_assoc, List.singleton_append]

/-- Groups behind others, each with a colon in front of it. -/
def further (groups : List Nat) : List Char := groups.flatMap fun group => ':' :: Nat.toDigits 16 group

theorem colons_cons (group : Nat) (groups : List Nat) :
    colons (group :: groups) = Nat.toDigits 16 group ++ further groups := by
  induction groups generalizing group with
  | nil => exact List.intercalate_singleton.trans (List.append_nil _).symm
  | cons next groups ih =>
    have rest : colons (group :: next :: groups) = Nat.toDigits 16 group ++ [':'] ++ colons (next :: groups) :=
      List.intercalate_cons_cons
    rw [rest, ih, List.append_assoc]
    rfl

/-- A character of the text of an address. -/
def IsSign (char : Char) : Prop := char = '.' ∨ char = ':' ∨ ∃ digit < 16, char = Nat.digitChar digit

theorem isSign_of_mem_toDigits {base number : Nat} {char : Char} (many : 1 < base) (known : base ≤ 16)
    (member : char ∈ Nat.toDigits base number) : IsSign char := by
  obtain ⟨digit, inside, same⟩ := Digits.exists_of_mem_toDigits many number member
  exact .inr (.inr ⟨digit, Nat.lt_of_lt_of_le inside known, same⟩)

theorem isSign_of_mem_dotted {bits : BitVec 32} {char : Char} (member : char ∈ dotted bits) : IsSign char := by
  rcases Digits.exists_of_mem_intercalate (by decide) member with point | ⟨digit, inside, same⟩
  · exact .inl point
  · exact .inr (.inr ⟨digit, Nat.lt_trans inside (by decide), same⟩)

theorem mem_colons {groups : List Nat} {char : Char} (member : char ∈ colons groups) :
    char = ':' ∨ ∃ digit < 16, char = Nat.digitChar digit :=
  Digits.exists_of_mem_intercalate (by decide) member

/-- Groups have no points. -/
theorem point_not_mem_colons (groups : List Nat) : '.' ∉ colons groups := by
  intro member
  have digits : ∀ digit < 16, '.' ≠ Nat.digitChar digit := by decide
  rcases mem_colons member with colon | ⟨digit, inside, same⟩
  · exact absurd colon (by decide)
  · exact digits digit inside same

/-- The text of an address has no other characters. -/
theorem Written.isSign {address : IpAddress} {chars : List Char} (written : Written address chars) {char : Char}
    (member : char ∈ chars) : IsSign char := by
  cases written with
  | v4 bits => exact isSign_of_mem_dotted member
  | mapped bits =>
    rcases List.mem_append.mp member with member | member
    · have letter : char = ':' ∨ char = 'f' ∨ char = ':' := by simpa using member
      rcases letter with colon | letter | colon
      · exact .inr (.inl colon)
      · exact .inr (.inr ⟨15, by decide, letter⟩)
      · exact .inr (.inl colon)
    · exact isSign_of_mem_dotted member
  | full other apart => exact .inr (mem_colons member)
  | compressed other longest several =>
    simp only [List.mem_append] at member
    rcases member with (member | member) | member
    · exact .inr (mem_colons member)
    · have colon : char = ':' := by simpa using member
      exact .inr (.inl colon)
    · exact .inr (mem_colons member)

end ModbusTcp.IpAddress
