import Watch.Json

/-!
# Texts without control characters

What is written of a value is graphic: it has no control character, whatever characters the strings
in the value are made of. A string stands between quotation marks, where each control character is
spelled out as an escape, and nothing else that is written depends on a text.
-/

namespace Watch

/-- A text of which no character is a control character. -/
def Graphic (text : List Char) : Prop :=
  ∀ char ∈ text, 0x20 ≤ char.toNat

namespace Graphic

variable {text first second : List Char} {char : Char}

@[simp]
theorem nil : Graphic [] := by
  simp [Graphic]

@[simp]
theorem cons_iff : Graphic (char :: text) ↔ 0x20 ≤ char.toNat ∧ Graphic text := by
  simp [Graphic]

@[simp]
theorem append_iff : Graphic (first ++ second) ↔ Graphic first ∧ Graphic second := by
  simp [Graphic, or_imp, forall_and]

theorem flatMap {Item : Type} {items : List Item} {spell : Item → List Char}
    (graphic : ∀ item ∈ items, Graphic (spell item)) : Graphic (items.flatMap spell) := by
  intro char member
  rcases List.mem_flatMap.1 member with ⟨item, listed, spelled⟩
  exact graphic item listed char spelled

theorem not_mem (graphic : Graphic text) (control : char.toNat < 0x20) : char ∉ text := by
  intro member
  have above := graphic char member
  omega

end Graphic

/-! ## Literals and numerals -/

theorem Digit.graphic_char (digit : Digit) : 0x20 ≤ digit.char.toNat := by
  revert digit
  decide

theorem graphic_toDigits (number : Nat) : Graphic (Nat.toDigits 10 number) := by
  intro char member
  have digit : char.isDigit = true :=
    Nat.isDigit_of_mem_toDigits (by decide) (by decide) member
  simp only [Char.isDigit, Bool.and_eq_true, decide_eq_true_eq, UInt32.le_iff_toNat_le] at digit
  have above : 48 ≤ char.toNat := digit.1
  omega

namespace Literal

theorem graphic_hexDigit (digit : Nat) (small : digit < 16) :
    0x20 ≤ (Nat.digitChar digit).toNat := by
  revert digit
  decide

/-- A character that stands for itself inside a literal is none of the control characters. -/
theorem graphic_escape (char : Char) : Graphic (escape char) := by
  unfold escape
  split
  case h_8 =>
    split
    next control =>
      have high := graphic_hexDigit (char.toNat / 16) (by omega)
      have low := graphic_hexDigit (char.toNat % 16) (by omega)
      simp [high, low]
    next other => simpa using other
  all_goals simp

theorem graphic_quote (text : String) : Graphic (quote text) := by
  have spelled : Graphic (text.toList.flatMap escape) :=
    Graphic.flatMap fun char _ => graphic_escape char
  simp [quote, spelled]

theorem graphic_write (literal : Literal) : Graphic literal.write := by
  cases literal with
  | plain text => exact graphic_quote text
  | escaped text => exact graphic_quote text
  | unpaired => simp [write]

end Literal

theorem Numeral.graphic_write (numeral : Numeral) : Graphic (numeral.write Json.spelling) := by
  have sign : Graphic (if numeral.negative then ['-'] else []) := by
    split <;> simp
  have point : Graphic (if numeral.fraction.isEmpty then [] else ['.']) := by
    split <;> simp
  have fraction : Graphic (numeral.fraction.map Digit.char) := by
    intro char member
    rcases List.mem_map.1 member with ⟨digit, -, rfl⟩
    exact digit.graphic_char
  have whole := graphic_toDigits numeral.whole
  cases power : numeral.exponent with
  | none =>
      simp only [write, power, Graphic.append_iff]
      exact ⟨⟨⟨⟨sign, whole⟩, point⟩, fraction⟩, Graphic.nil⟩
  | some exponent =>
      have digits := graphic_toDigits exponent.natAbs
      have powerSign : Graphic (if exponent < 0 then ['-']
          else if Json.spelling.plusSign then ['+'] else []) := by
        split <;> simp [Json.spelling]
      have mark : 0x20 ≤ Json.spelling.mark.toNat := by decide
      simp only [write, power, Graphic.append_iff, Graphic.cons_iff]
      exact ⟨⟨⟨⟨sign, whole⟩, point⟩, fraction⟩, mark, powerSign, digits⟩

namespace Json

mutual

theorem graphic_chars (json : Json) : Graphic json.chars := by
  cases json with
  | null => simp [chars]
  | boolean truth => cases truth <;> simp [chars]
  | number numeral => exact numeral.graphic_write
  | string literal => exact literal.graphic_write
  | array items =>
      cases items with
      | nil => simp [chars]
      | cons item items => simp [chars, graphic_chars item, graphic_itemsChars items]
  | object members =>
      rcases members with _ | ⟨⟨key, item⟩, members⟩
      · simp [chars]
      · simp [chars, key.graphic_write, graphic_chars item, graphic_membersChars members]

theorem graphic_itemsChars (items : List Json) : Graphic (itemsChars items) := by
  cases items with
  | nil => simp [itemsChars]
  | cons item items => simp [itemsChars, graphic_chars item, graphic_itemsChars items]

theorem graphic_membersChars (members : List (Literal × Json)) :
    Graphic (membersChars members) := by
  rcases members with _ | ⟨⟨key, item⟩, members⟩
  · simp [membersChars]
  · simp [membersChars, key.graphic_write, graphic_chars item, graphic_membersChars members]

end

theorem graphic_write (json : Json) : Graphic json.write.toList := by
  simpa [write] using json.graphic_chars

end Json

end Watch
