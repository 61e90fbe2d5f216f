import ModbusTcp.Proofs.Address.RoundTrip
import ModbusTcp.Proxy.SourceFilter

/-!
# The text of a filter

A filter is written as its address, a slash and the number of leading bits that count.  An address has neither blanks nor
slashes, so the first slash is found again, and blanks around the parts are dropped when they are read.

* `SourceFilter.spaced` — the text of a filter with something around its parts.
* `SourceFilter.parse_spaced` — blanks around the parts do not matter.
* **`SourceFilter.survives_text`** — a filter is read from its text.
-/

namespace ModbusTcp

/-! ### Signs -/

namespace IpAddress

theorem IsSign.not_isBlank {char : Char} (sign : IsSign char) : ¬isBlank char := by
  have digits : ∀ digit < 16, ¬isBlank (Nat.digitChar digit) := by decide
  rcases sign with rfl | rfl | ⟨digit, inside, rfl⟩
  · decide
  · decide
  · exact digits digit inside

theorem IsSign.ne_slash {char : Char} (sign : IsSign char) : char ≠ '/' := by
  have digits : ∀ digit < 16, Nat.digitChar digit ≠ '/' := by decide
  rcases sign with rfl | rfl | ⟨digit, inside, rfl⟩
  · decide
  · decide
  · exact digits digit inside

end IpAddress

open IpAddress (IsSign Written)

namespace SourceFilter

/-- The text of a filter with something around the address and the number. -/
def spaced (filter : SourceFilter) (left right left' right' : List Char) : String :=
  String.ofList (left ++ filter.network.text.toList ++ right ++ '/' ::
    (left' ++ Nat.toDigits 10 filter.prefixLength ++ right'))

theorem text_eq_spaced (filter : SourceFilter) : filter.text = filter.spaced [] [] [] [] := by
  have number : (toString filter.prefixLength).toList = Nat.toDigits 10 filter.prefixLength := by
    rw [Nat.toString_eq_ofList_toDigits, String.toList_ofList]
  refine String.toList_inj.mp ?_
  rw [text, spaced, String.toList_append, String.toList_append, number, String.toList_ofList]
  simp

/-- A filter that is valid can be made. -/
theorem ofNetwork_of_validate {filter : SourceFilter} (valid : filter.validate = .ok ()) :
    ofNetwork filter.network filter.prefixLength = .ok filter := by
  rw [ofNetwork, valid]
  rfl

theorem prefixLength_lt {filter : SourceFilter} (valid : filter.validate = .ok ()) : filter.prefixLength < 256 := by
  have width : filter.network.width < 256 := by
    cases filter.network with
    | v4 bits => exact (by decide : 32 < 256)
    | v6 bits => exact (by decide : 128 < 256)
  rw [validate] at valid
  split at valid
  · cases valid
  · omega

/-- Blanks around the parts of a text do not matter. -/
theorem parse_spaced {filter : SourceFilter} {left right left' right' : List Char} (valid : filter.validate = .ok ())
    (blank : ∀ char ∈ left ++ right ++ left' ++ right', isBlank char) :
    parse (filter.spaced left right left' right') = .ok filter := by
  simp only [List.forall_mem_append] at blank
  obtain ⟨⟨⟨leftBlank, rightBlank⟩, leftBlank'⟩, rightBlank'⟩ := blank
  have written := IpAddress.written_text filter.network
  have small := prefixLength_lt valid
  have plain : '/' ∉ left ++ filter.network.text.toList ++ right := by
    have blank {chars : List Char} (blanks : ∀ char ∈ chars, isBlank char) : '/' ∉ chars :=
      fun member => absurd (blanks '/' member) (by decide)
    have address : '/' ∉ filter.network.text.toList := fun member => (written.isSign member).ne_slash rfl
    simp [blank leftBlank, blank rightBlank, address]
  have address : trimBlanks (left ++ filter.network.text.toList ++ right) = filter.network.text.toList :=
    trimBlanks_append leftBlank rightBlank fun char member => (written.isSign member).not_isBlank
  have number : trimBlanks (left' ++ Nat.toDigits 10 filter.prefixLength ++ right') =
      Nat.toDigits 10 filter.prefixLength :=
    trimBlanks_append leftBlank' rightBlank' fun char member =>
      (IpAddress.isSign_of_mem_toDigits (by decide) (by decide) member).not_isBlank
  rw [parse, spaced, String.toList_ofList, splitSlash_append plain]
  dsimp only
  rw [address, number, IpAddress.parse?_of_written written, IpAddress.parsePrefixLength?_toDigits small]
  exact ofNetwork_of_validate valid

/-- **A filter survives its text.**  The address of a filter is written in the form of addresses, and a filter of which no
more leading bits should count than there are is read from its text, also if blanks stand around the address or the
number. -/
theorem survives_text {filter : SourceFilter} (valid : filter.validate = .ok ()) :
    Written filter.network filter.network.text.toList ∧ parse filter.text = .ok filter ∧
      ∀ left right left' right', (∀ char ∈ left ++ right ++ left' ++ right', isBlank char) →
        parse (filter.spaced left right left' right') = .ok filter := by
  refine ⟨IpAddress.written_text _, ?_, fun left right left' right' blank => parse_spaced valid blank⟩
  rw [text_eq_spaced]
  exact parse_spaced valid fun char member => absurd member List.not_mem_nil

/-- Of two runs of zeros that are as long, the second one is written, and a run of a single zero always. -/
theorem survives_text_of_equal_runs :
    ∃ filter : SourceFilter, filter.validate = .ok () ∧ filter.text = "2001:0:8::a:0:0/64" ∧
      filter.spaced [' '] ['\t'] [' '] ['\n'] = " 2001:0:8::a:0:0\t/ 64\n" ∧
      parse filter.text = .ok filter ∧ parse (filter.spaced [' '] ['\t'] [' '] ['\n']) = .ok filter := by
  let filter : SourceFilter := ⟨.v6 (IpAddress.ofGroups [0x2001, 0, 8, 0, 0, 10, 0, 0]), 64⟩
  have survives := @survives_text filter rfl
  exact ⟨filter, rfl, by decide, by decide, survives.2.1, survives.2.2 _ _ _ _ (List.all_eq_true.mp rfl)⟩

end SourceFilter

end ModbusTcp
