import ModbusTcp.Text.Hex

/-!
# Numbers as digits

The digits that are written for a number are read back as this number, in every base up to sixteen, as far as no
further digit follows.

* `Digits.value?_digitChar`, `Digits.exists_of_mem_toDigits` — the characters of a number;
  `Digits.exists_of_mem_intercalate` has those of several numbers with something between them.
* `Digits.Spells` — digits that are those of a number; they start with a zero only if the number is zero.
* **`Digits.exists_take_toDigits`** — what is written is read back.
* `Hex.toList_lower` — hexadecimal text without a least number of digits.
-/

namespace ModbusTcp.Digits

theorem value?_digitChar {base digit : Nat} (inside : digit < base) (known : base ≤ 16) :
    value? base (Nat.digitChar digit) = some digit := by
  have values : ∀ digit < 16, value? 16 (Nat.digitChar digit) = some digit := by decide
  have value := values digit (by omega)
  rw [value?, Option.filter_eq_some_iff] at value ⊢
  exact ⟨value.1, decide_eq_true inside⟩

/-- The characters of a number are digits of its base. -/
theorem exists_of_mem_toDigits {base : Nat} (many : 1 < base) (number : Nat) {char : Char}
    (member : char ∈ Nat.toDigits base number) : ∃ digit < base, char = Nat.digitChar digit := by
  induction number using Nat.strongRecOn with
  | _ number ih =>
  by_cases small : number < base
  · rw [Nat.toDigits_of_lt_base small, List.mem_singleton] at member
    exact ⟨number, small, member⟩
  · rw [Nat.toDigits_of_base_le many (Nat.le_of_not_lt small), List.mem_append, List.mem_singleton] at member
    rcases member with member | rfl
    · exact ih _ (Nat.div_lt_self (by omega) many) member
    · exact ⟨number % base, Nat.mod_lt _ (by omega), rfl⟩

/-- Between separators there are digits. -/
theorem exists_of_mem_intercalate {base : Nat} (many : 1 < base) {separator char : Char} {numbers : List Nat}
    (member : char ∈ [separator].intercalate (numbers.map (Nat.toDigits base))) :
    char = separator ∨ ∃ digit < base, char = Nat.digitChar digit := by
  induction numbers with
  | nil => cases member
  | cons number numbers ih =>
    cases numbers with
    | nil =>
      rw [List.map_cons, List.map_nil, List.intercalate_singleton] at member
      exact .inr (exists_of_mem_toDigits many number member)
    | cons next numbers =>
      rw [List.map_cons, List.map_cons, List.intercalate_cons_cons, ← List.map_cons, List.mem_append, List.mem_append,
        List.mem_singleton] at member
      rcases member with (digit | between) | others
      · exact .inr (exists_of_mem_toDigits many number digit)
      · exact .inl between
      · exact ih others

/-- The characters do not go on with a digit. -/
def Ends (base : Nat) (chars : List Char) : Prop := ∀ char ∈ chars.head?, value? base char = none

theorem ends_nil (base : Nat) : Ends base [] := nofun

theorem ends_point (base : Nat) (rest : List Char) : Ends base ('.' :: rest) := by
  rintro char ⟨⟩
  rfl

theorem ends_colon (base : Nat) (rest : List Char) : Ends base (':' :: rest) := by
  rintro char ⟨⟩
  rfl

/-- What is no digit is none in a lower base. -/
theorem Ends.lower {base lower : Nat} {chars : List Char} (ends : Ends base chars) (less : lower ≤ base) :
    Ends lower chars := by
  intro char first
  have strange := ends char first
  rw [value?, Option.filter_eq_none_iff] at strange ⊢
  intro digit found inside
  exact strange digit found (decide_eq_true (Nat.lt_of_lt_of_le (of_decide_eq_true inside) less))

theorem take_of_ends {base : Nat} {chars : List Char} (ends : Ends base chars) : take base chars = ([], chars) := by
  cases chars with
  | nil => rfl
  | cons char rest => rw [take, ends char rfl]

/-- Nothing is skipped behind the digits. -/
theorem take_suffix (base : Nat) (chars : List Char) : (take base chars).2 <:+ chars := by
  induction chars with
  | nil => exact List.suffix_refl []
  | cons char rest ih =>
    rw [take]
    split
    · exact ih.trans (List.suffix_cons char rest)
    · exact List.suffix_refl _

/-- Digits are those of a number: they spell it, and there is no zero in front of others. -/
structure Spells (base number : Nat) (digits : List Nat) : Prop where
  value : toNat base digits = number
  length : digits.length = (Nat.toDigits base number).length
  first : digits.head? = some 0 → number = 0

theorem Spells.ne_nil {base number : Nat} {digits : List Nat} (spells : Spells base number digits) : digits ≠ [] := by
  rintro rfl
  have positive : 0 < (Nat.toDigits base number).length := Nat.length_toDigits_pos
  rw [← spells.length] at positive
  exact Nat.lt_irrefl 0 positive

theorem toNat_append_singleton (base : Nat) (digits : List Nat) (digit : Nat) :
    toNat base (digits ++ [digit]) = base * toNat base digits + digit := by
  rw [toNat, List.foldl_append]
  rfl

/-- The digits of a number are taken off the front of what has been written. -/
theorem exists_take_toDigits_append {base : Nat} (many : 1 < base) (known : base ≤ 16) (number : Nat) :
    ∃ digits, Spells base number digits ∧ ∀ rest,
      take base (Nat.toDigits base number ++ rest) = (digits ++ (take base rest).1, (take base rest).2) := by
  induction number using Nat.strongRecOn with
  | _ number ih =>
  by_cases small : number < base
  · refine ⟨[number], ⟨?_, ?_, ?_⟩, fun rest => ?_⟩
    · exact Nat.zero_add number
    · rw [Nat.toDigits_of_lt_base small]
      rfl
    · exact fun zero => Option.some.inj zero
    · rw [Nat.toDigits_of_lt_base small, List.singleton_append, take, value?_digitChar small known]
      rfl
  · have large : base ≤ number := Nat.le_of_not_lt small
    obtain ⟨digits, spells, taken⟩ := ih (number / base) (Nat.div_lt_self (by omega) many)
    have last : number % base < base := Nat.mod_lt _ (by omega)
    refine ⟨digits ++ [number % base], ⟨?_, ?_, ?_⟩, fun rest => ?_⟩
    · rw [toNat_append_singleton, spells.value, Nat.div_add_mod]
    · rw [Nat.toDigits_of_base_le many large, List.length_append, List.length_append, spells.length]
      rfl
    · intro zero
      obtain ⟨front, others, rfl⟩ := List.exists_cons_of_ne_nil spells.ne_nil
      have none := spells.first zero
      have some := Nat.div_pos large (by omega)
      omega
    · rw [Nat.toDigits_of_base_le many large, List.append_assoc, taken, List.singleton_append, take,
        value?_digitChar last known, List.append_assoc]
      rfl

/-- What has been written is read back, if no further digit follows. -/
theorem exists_take_toDigits {base : Nat} (many : 1 < base) (known : base ≤ 16) (number : Nat) {rest : List Char}
    (ends : Ends base rest) :
    ∃ digits, Spells base number digits ∧ take base (Nat.toDigits base number ++ rest) = (digits, rest) := by
  obtain ⟨digits, spells, taken⟩ := exists_take_toDigits_append many known number
  refine ⟨digits, spells, ?_⟩
  rw [taken, take_of_ends ends, List.append_nil]

end ModbusTcp.Digits

namespace ModbusTcp.Hex

/-- Every number has a digit. -/
theorem toList_lower (number : Nat) : (lower 1 number).toList = Nat.toDigits 16 number := by
  have positive : 0 < (Nat.toDigits 16 number).length := Nat.length_toDigits_pos
  rw [lower, String.toList_ofList, Nat.sub_eq_zero_of_le positive]
  rfl

end ModbusTcp.Hex
