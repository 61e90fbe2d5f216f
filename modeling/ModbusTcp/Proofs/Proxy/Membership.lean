import ModbusTcp.Proofs.Address.Bits
import ModbusTcp.Proxy.SourceFilter

/-!
# Who belongs to a network

A filter compares addresses under a mask.  What the mask keeps are the leading bits, so an address belongs to a
network if their leading bits agree.  A peer whose IPv6 address is the form of an IPv4 address is compared as that IPv4
address.  The network of a filter is compared as it is written, so no peer is compared with it as such a form.

* `SourceFilter.and_mask_eq_iff` — masks and leading bits.
* `SourceFilter.Covers`, **`SourceFilter.contains_iff`** — who belongs to a network.
* **`SourceFilter.contains_own_address`** — which filters contain the address that they are written with.
-/

namespace ModbusTcp

open IpAddress (mapped)

/-! ### Leading bits -/

namespace SourceFilter

/-- So many leading bits of two addresses agree. -/
def Agree {width : Nat} (kept : Nat) (left right : BitVec width) : Prop :=
  ∀ index < kept, left.getMsbD index = right.getMsbD index

theorem getMsbD_mask {width kept index : Nat} (inside : index < width) :
    (mask width kept).getMsbD index = decide (index < kept) := by
  rw [mask, BitVec.getMsbD_shiftLeft, BitVec.getMsbD_allOnes]
  exact decide_eq_decide.mpr (by omega)

/-- Addresses are the same under a mask if the bits agree that it keeps, even if it should keep more than there
are. -/
theorem and_mask_eq_iff {width kept : Nat} {left right : BitVec width} :
    left &&& mask width kept = right &&& mask width kept ↔ Agree kept left right := by
  constructor
  · intro same index keeps
    by_cases inside : index < width
    · have bit := congrArg (BitVec.getMsbD · index) same
      simp only [BitVec.getMsbD_and, getMsbD_mask inside, keeps, decide_true, Bool.and_true] at bit
      exact bit
    · rw [BitVec.getMsbD_of_ge _ _ (by omega), BitVec.getMsbD_of_ge _ _ (by omega)]
  · intro agree
    refine BitVec.eq_of_getMsbD_eq fun index inside => ?_
    rw [BitVec.getMsbD_and, BitVec.getMsbD_and, getMsbD_mask inside]
    by_cases keeps : index < kept
    · rw [agree index keeps]
    · rw [decide_eq_false keeps, Bool.and_false, Bool.and_false]

theorem Agree.refl {width : Nat} (kept : Nat) (bits : BitVec width) : Agree kept bits bits := fun _ _ => rfl

theorem Agree.shorten {width kept fewer : Nat} {left right : BitVec width} (agree : Agree kept left right)
    (less : fewer ≤ kept) : Agree fewer left right :=
  fun index keeps => agree index (Nat.lt_of_lt_of_le keeps less)

/-- Addresses of which all bits agree are the same. -/
theorem agree_width_iff {width : Nat} {left right : BitVec width} : Agree width left right ↔ left = right :=
  ⟨BitVec.eq_of_getMsbD_eq, fun same => same ▸ Agree.refl width left⟩

/-! ### Membership -/

/-- A peer belongs to the network of a filter: an IPv4 address in either form to an IPv4 network, any other IPv6 address
to an IPv6 network, if the leading bits that count agree with those of the network. -/
def Covers (filter : SourceFilter) (peer : IpAddress) : Prop :=
  match filter.network with
  | .v4 network =>
    ∃ bits, (peer = .v4 bits ∨ peer = .v6 (mapped bits)) ∧ Agree filter.prefixLength network bits
  | .v6 network =>
    ∃ bits, (peer = .v6 bits ∧ ∀ short, bits ≠ mapped short) ∧ Agree filter.prefixLength network bits

/-- A filter contains those who belong to its network. -/
theorem contains_iff {filter : SourceFilter} {peer : IpAddress} : filter.contains peer ↔ filter.Covers peer := by
  obtain ⟨network, prefixLength⟩ := filter
  cases network with
  | v4 network =>
    simp only [contains, Covers, ← IpAddress.canonical_eq_v4_iff, ← and_mask_eq_iff]
    cases peer.canonical <;> simp
  | v6 network =>
    simp only [contains, Covers, ← IpAddress.canonical_eq_v6_iff, ← and_mask_eq_iff]
    cases peer.canonical <;> simp

/-! ### The address of a filter -/

/-- A filter that has been checked is the one which it has been made from. -/
theorem eq_of_ofNetwork {network : IpAddress} {prefixLength : Nat} {filter : SourceFilter}
    (made : ofNetwork network prefixLength = .ok filter) : filter = ⟨network, prefixLength⟩ := by
  rw [ofNetwork] at made
  cases valid : validate ⟨network, prefixLength⟩ with
  | error reason =>
    rw [valid] at made
    cases made
  | ok checked =>
    rw [valid] at made
    exact (Except.ok.inj made).symm

/-- All bits of a bare address count. -/
theorem prefixLength_of_bare {text : String} {filter : SourceFilter} (bare : '/' ∉ text.toList)
    (parsed : parse text = .ok filter) : filter.prefixLength = filter.network.width := by
  rw [parse, splitSlash_of_not_mem bare] at parsed
  cases read : IpAddress.parse? (trimBlanks text.toList) with
  | none =>
    simp only [read] at parsed
    cases parsed
  | some network =>
    simp only [read] at parsed
    rw [eq_of_ofNetwork parsed]

theorem contains_network_iff {filter : SourceFilter} : filter.contains filter.network ↔ ¬filter.network.IsMapped := by
  rw [contains_iff]
  obtain ⟨network, prefixLength⟩ := filter
  cases network with
  | v4 network => exact iff_of_true ⟨network, .inl rfl, Agree.refl _ _⟩ (IpAddress.not_isMapped_v4 network)
  | v6 network =>
    rw [IpAddress.not_isMapped_v6_iff]
    constructor
    · rintro ⟨bits, ⟨same, form⟩, _⟩
      obtain rfl := IpAddress.v6.inj same
      exact form
    · exact fun form => ⟨network, ⟨rfl, form⟩, Agree.refl _ _⟩

theorem contains_of_width_iff {filter : SourceFilter} (all : filter.prefixLength = filter.network.width)
    {peer : IpAddress} :
    filter.contains peer ↔ ¬filter.network.IsMapped ∧ peer.canonical = filter.network.canonical := by
  rw [contains_iff]
  obtain ⟨network, prefixLength⟩ := filter
  obtain rfl : prefixLength = network.width := all
  cases network with
  | v4 network =>
    rw [and_iff_right (IpAddress.not_isMapped_v4 network)]
    show (∃ bits, _ ∧ Agree 32 network bits) ↔ peer.canonical = .v4 network
    simp only [agree_width_iff, exists_eq_right', IpAddress.canonical_eq_v4_iff]
  | v6 network =>
    rw [IpAddress.not_isMapped_v6_iff]
    show (∃ bits, _ ∧ Agree 128 network bits) ↔ _
    simp only [agree_width_iff, exists_eq_right', ← IpAddress.canonical_eq_v6_iff]
    constructor
    · intro same
      have other := (IpAddress.canonical_eq_v6_iff.mp same).2
      exact ⟨other, same.trans (IpAddress.canonical_eq_v6_iff.mpr ⟨rfl, other⟩).symm⟩
    · rintro ⟨other, same⟩
      exact same.trans (IpAddress.canonical_eq_v6_iff.mpr ⟨rfl, other⟩)

/-- **Which filters contain the address that they are written with.**  A filter, accepted or not and however many
bits count, contains the address of its network exactly if this is not the IPv6 form of an IPv4 address.  If it has been
read from a bare address it contains just this address, an IPv4 address in both forms, and it contains nobody if the
address is such a form. -/
theorem contains_own_address (filter : SourceFilter) :
    (filter.contains filter.network ↔ ¬filter.network.IsMapped) ∧
      ∀ text : String, '/' ∉ text.toList → parse text = .ok filter → ∀ peer : IpAddress,
        filter.contains peer ↔ ¬filter.network.IsMapped ∧ peer.canonical = filter.network.canonical :=
  ⟨contains_network_iff, fun _ bare parsed _ => contains_of_width_iff (prefixLength_of_bare bare parsed)⟩

/-- A bare IPv4 address is contained in both forms, and its neighbour is not. -/
theorem contains_own_address_of_bare :
    ∃ filter, parse "10.0.0.7" = .ok filter ∧ filter.contains filter.network ∧
      filter.contains (.v6 (mapped (IpAddress.ofOctets 10 0 0 7))) ∧
      ¬filter.contains (.v4 (IpAddress.ofOctets 10 0 0 8)) := by
  let filter : SourceFilter := ⟨.v4 (IpAddress.ofOctets 10 0 0 7), 32⟩
  have parsed : parse "10.0.0.7" = .ok filter := rfl
  have form : ¬filter.network.IsMapped := IpAddress.not_isMapped_v4 _
  have contained := (contains_own_address filter).2 "10.0.0.7" (by decide) parsed
  exact ⟨filter, parsed, (contains_own_address filter).1.mpr form, (contained _).mpr ⟨form, by decide⟩,
    fun inside => absurd ((contained _).mp inside).2 (by decide)⟩

/-- A filter is read from the IPv6 form of an IPv4 address.  It does not contain this address, in neither form. -/
theorem misses_own_address :
    ∃ filter, parse "::ffff:10.0.0.7" = .ok filter ∧ filter.contains filter.network = false ∧
      filter.contains (.v4 (IpAddress.ofOctets 10 0 0 7)) = false :=
  ⟨⟨.v6 (mapped (IpAddress.ofOctets 10 0 0 7)), 128⟩, rfl, by decide, by decide⟩

end SourceFilter

end ModbusTcp
