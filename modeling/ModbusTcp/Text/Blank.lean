/-!
# Blanks

The characters that count as white space in settings are those of the Unicode property White_Space.

* `isBlank` — the property; `trimBlanks` — a text without blanks at its ends.
* `isBlank_of_isWhitespace` — every white space character of ASCII is a blank.
* `trimBlanks_append` — the blanks around a text are dropped.
-/

namespace ModbusTcp

/-- The character has the Unicode property White_Space. -/
def isBlank (char : Char) : Bool :=
  let code := char.toNat
  (0x09 ≤ code && code ≤ 0x0D) || code = 0x20 || code = 0x85 || code = 0xA0 || code = 0x1680 ||
    (0x2000 ≤ code && code ≤ 0x200A) || code = 0x2028 || code = 0x2029 || code = 0x202F ||
    code = 0x205F || code = 0x3000

/-- Characters without the blanks at both ends. -/
def trimBlanks (chars : List Char) : List Char :=
  ((chars.dropWhile isBlank).reverse.dropWhile isBlank).reverse

/-- A text that consists of blanks, if of anything. -/
def isBlankText (text : String) : Bool := (trimBlanks text.toList).isEmpty

/-- Every white space character of ASCII is a blank. -/
theorem isBlank_of_isWhitespace {char : Char} (white : char.isWhitespace) : isBlank char := by
  simp only [Char.isWhitespace, Bool.or_eq_true, decide_eq_true_eq] at white
  rcases white with ((rfl | rfl) | rfl) | rfl <;> rfl

theorem dropWhile_isBlank_append {before text : List Char} (blank : ∀ char ∈ before, isBlank char)
    (plain : ∀ char ∈ text, ¬isBlank char) : (before ++ text).dropWhile isBlank = text := by
  rw [List.dropWhile_append_of_pos blank]
  cases text with
  | nil => rfl
  | cons char rest => exact List.dropWhile_cons_of_neg (plain char List.mem_cons_self)

/-- The blanks around a text that has none are dropped. -/
theorem trimBlanks_append {before text after : List Char} (front : ∀ char ∈ before, isBlank char)
    (back : ∀ char ∈ after, isBlank char) (plain : ∀ char ∈ text, ¬isBlank char) :
    trimBlanks (before ++ text ++ after) = text := by
  rw [trimBlanks, List.append_assoc, List.dropWhile_append_of_pos front]
  cases text with
  | nil =>
    rw [List.nil_append, ← List.append_nil after, List.dropWhile_append_of_pos back]
    rfl
  | cons char rest =>
    rw [List.cons_append, List.dropWhile_cons_of_neg (plain char List.mem_cons_self), ← List.cons_append,
      List.reverse_append, dropWhile_isBlank_append, List.reverse_reverse]
    · exact fun char member => back char (List.mem_reverse.mp member)
    · exact fun char member => plain char (List.mem_reverse.mp member)

end ModbusTcp
