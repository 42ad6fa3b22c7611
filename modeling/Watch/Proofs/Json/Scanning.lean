import Watch.Json.Reader

/-!
# Scanning what was written

A scanner that is given the text of a numeral or of a literal finds that numeral or literal again.
`Scanner.tokens?` is the whole of what a scanner makes of a text. It is stated for a text that goes
on behind the numeral or the literal: a numeral ends only where a character cannot continue it
(`EndsNumeral`), and a literal ends at its quotation mark.

A literal is found again up to the way in which it was spelled (`Literal.normal`): what is written
has no more escapes than it needs.
-/

namespace Watch

namespace Digit

@[simp]
theorem ofChar?_char (digit : Digit) : ofChar? digit.char = some digit := by
  revert digit
  decide

end Digit

namespace Literal

/-- A literal with the same text and no more escapes than it needs. -/
def normal : Literal → Literal
  | .plain text | .escaped text => .ofText text
  | .unpaired => .unpaired

@[simp]
theorem text?_ofText (text : String) : (ofText text).text? = some text := by
  rw [ofText]
  split <;> rfl

@[simp]
theorem normal_ofText (text : String) : (ofText text).normal = ofText text := by
  rw [ofText]
  split
  · next needed => simp [normal, ofText, needed]
  · next plain => simp [normal, ofText, plain]

/-- A piece that stands for a character, whichever pieces follow it. -/
def Piece.StandsFor (piece : Piece) (char : Char) : Prop :=
  ∀ pieces, resolve (piece :: pieces) = (resolve pieces).map (char :: ·)

theorem Piece.StandsFor.char (char : Char) : (Piece.char char).StandsFor char :=
  fun _ => rfl

theorem Piece.StandsFor.unit {char : Char} (small : char.toNat < 0x20) :
    (Piece.unit char.toNat.toUInt16).StandsFor char := by
  have value : char.toNat.toUInt16.toNat = char.toNat := by
    simp [Nat.toUInt16, UInt16.toNat_ofNat']
    omega
  have notHigh : Utf16.isHighHalf char.toNat.toUInt16 = false := by
    simp [Utf16.isHighHalf, UInt16.le_iff_toNat_le, value]
    omega
  have notLow : Utf16.isLowHalf char.toNat.toUInt16 = false := by
    simp [Utf16.isLowHalf, UInt16.le_iff_toNat_le, value]
    omega
  intro pieces
  rcases pieces with _ | ⟨_ | _, rest⟩ <;>
    simp [resolve, notHigh, notLow, value]

end Literal

namespace Json

namespace Scanner

/-- The tokens that a scanner finds in a text, up to its end. -/
def tokens? : Scanner → List Char → Option (List Token)
  | scanner, [] => scanner.finish?
  | scanner, char :: rest =>
    (scanner.step char).bind fun (scanner, tokens) => (tokens? scanner rest).map (tokens ++ ·)

theorem tokens?_of_step {scanner next : Scanner} {char : Char}
    (step : scanner.step char = some (next, [])) (rest : List Char) :
    tokens? scanner (char :: rest) = tokens? next rest := by
  simp [tokens?, step]

theorem tokens?_between_of_start {char : Char} {token : Token}
    (start : start char = some (.between, [token])) (rest : List Char) :
    tokens? .between (char :: rest) = (tokens? .between rest).map (token :: ·) := by
  simp [tokens?, step, start]

theorem tokens?_word (word : List Char) (token : Token) (rest : List Char) (begun : word ≠ []) :
    tokens? (.word word token) (word ++ rest) = (tokens? .between rest).map (token :: ·) := by
  induction word with
  | nil => contradiction
  | cons char chars ih =>
      cases chars with
      | nil =>
          have last : (Scanner.word [char] token).step char = some (.between, [token]) := by
            simp [step]
          simp [tokens?, last]
      | cons next chars =>
          have step : (Scanner.word (char :: next :: chars) token).step char =
              some (.word (next :: chars) token, []) := by
            simp [step]
          rw [List.cons_append, tokens?_of_step step]
          exact ih (by simp)

/-! ## Numerals -/

/-- A text that does not go on with a numeral: it is at its end, or goes on behind a value. -/
def EndsNumeral (rest : List Char) : Prop :=
  ∀ char ∈ rest.head?, char = ',' ∨ char = ']' ∨ char = '\x7d'

theorem next?_digit (part : NumeralPart) (digit : Digit) :
    part.next? digit.char = part.withDigit digit := by
  simp [NumeralPart.next?]

/-- The digits of a number, of which a part of a numeral has the first, bring it to the number. -/
theorem foldlM_toDigits (part : Nat → NumeralPart)
    (grows : ∀ number, 0 < number → ∀ digit : Digit,
      (part number).withDigit digit = some (part (number * 10 + digit.val))) (number : Nat) :
    ∃ (digit : Digit) (tail : List Char), Nat.toDigits 10 number = digit.char :: tail ∧
      tail.foldlM NumeralPart.next? (part digit.val) = some (part number) := by
  induction number using Nat.strongRecOn with
  | ind number ih =>
      by_cases small : number < 10
      · exact ⟨⟨number, small⟩, [], Nat.toDigits_of_lt_base small, rfl⟩
      · rcases ih (number / 10) (by omega) with ⟨digit, tail, digits, found⟩
        let last : Digit := ⟨number % 10, by omega⟩
        refine ⟨digit, tail ++ [last.char], ?_, ?_⟩
        · rw [Nat.toDigits_of_base_le (by omega) (by omega), digits]
          rfl
        · have whole : number / 10 * 10 + number % 10 = number := by omega
          simp [List.foldlM_append, found, next?_digit, grows (number / 10) (by omega), last, whole]

theorem tokens?_number {part next : NumeralPart} {chars : List Char}
    (taken : chars.foldlM NumeralPart.next? part = some next) (rest : List Char) :
    tokens? (.number part) (chars ++ rest) = tokens? (.number next) rest := by
  induction chars generalizing part with
  | nil =>
      cases taken
      rfl
  | cons char chars ih =>
      simp only [List.foldlM_cons, Option.bind_eq_bind, Option.bind_eq_some_iff] at taken
      rcases taken with ⟨middle, first, later⟩
      have step : (number part).step char = some (number middle, []) := by
        simp [Scanner.step, first]
      rw [List.cons_append, tokens?_of_step step, ih later]

theorem next?_eq_none_of_ends (part : NumeralPart) {char : Char}
    (ends : char = ',' ∨ char = ']' ∨ char = '\x7d') : part.next? char = none := by
  rcases ends with rfl | rfl | rfl <;> cases part <;> rfl

theorem tokens?_number_end {part : NumeralPart} {numeral : Numeral} {rest : List Char}
    (finished : part.finish? = some numeral) (ends : EndsNumeral rest) :
    tokens? (.number part) rest = (tokens? .between rest).map (.number numeral :: ·) := by
  cases rest with
  | nil => simp [tokens?, finish?, finished]
  | cons char rest =>
      have stops := next?_eq_none_of_ends part (ends char rfl)
      cases begun : start char with
      | none => simp [tokens?, step, stops, begun]
      | some next => simp [tokens?, step, stops, finished, begun, Function.comp_def]

theorem foldlM_fraction (negative : Bool) (whole : Nat) (before digits : List Digit) :
    (digits.map Digit.char).foldlM NumeralPart.next? (.fraction negative whole before) =
      some (.fraction negative whole (digits.reverse ++ before)) := by
  induction digits generalizing before with
  | nil => rfl
  | cons digit digits ih => simp [next?_digit, NumeralPart.withDigit, ih]

theorem foldlM_point (negative : Bool) (whole : Nat) (fraction : List Digit) :
    ∃ part : NumeralPart,
      ((if fraction.isEmpty then [] else ['.']) ++ fraction.map Digit.char).foldlM
          NumeralPart.next? (.whole negative whole) = some part ∧
        part.finish? = some ⟨negative, whole, fraction, none⟩ ∧
        part.next? 'e' = some (.mark negative whole fraction.reverse) := by
  cases fraction with
  | nil => exact ⟨.whole negative whole, rfl, rfl, rfl⟩
  | cons digit digits =>
      refine ⟨.fraction negative whole (digits.reverse ++ [digit]), ?_, ?_, ?_⟩
      · have point : (NumeralPart.whole negative whole).next? '.' =
            some (.point negative whole) := rfl
        simp [point, next?_digit, NumeralPart.withDigit, foldlM_fraction]
      · simp [NumeralPart.finish?]
      · rw [List.reverse_cons]
        rfl

theorem foldlM_power (negative : Bool) (whole : Nat) (digits : List Digit) (exponent : Int) :
    ∃ part : NumeralPart,
      ((if exponent < 0 then ['-'] else ['+']) ++ Nat.toDigits 10 exponent.natAbs).foldlM
          NumeralPart.next? (.mark negative whole digits) = some part ∧
        part.finish? = some ⟨negative, whole, digits.reverse, some exponent⟩ := by
  rcases foldlM_toDigits (.exponent negative whole digits (decide (exponent < 0)))
    (fun _ _ _ => rfl) exponent.natAbs with ⟨digit, tail, spelled, power⟩
  refine ⟨.exponent negative whole digits (decide (exponent < 0)) exponent.natAbs, ?_, ?_⟩
  · rw [spelled]
    by_cases down : exponent < 0
    · have sign : (NumeralPart.mark negative whole digits).next? '-' =
          some (.markSign negative whole digits true) := rfl
      simpa [down, sign, next?_digit, NumeralPart.withDigit] using power
    · have sign : (NumeralPart.mark negative whole digits).next? '+' =
          some (.markSign negative whole digits false) := rfl
      simpa [down, sign, next?_digit, NumeralPart.withDigit] using power
  · by_cases down : exponent < 0
    · have value : -(exponent.natAbs : Int) = exponent := by omega
      simp only [NumeralPart.finish?, decide_eq_true down, if_true, value]
    · have value : (exponent.natAbs : Int) = exponent := by omega
      simp only [NumeralPart.finish?, decide_eq_false down, value]
      rfl

/-- What a numeral is written as behind its whole part. -/
def tail (numeral : Numeral) : List Char :=
  (if numeral.fraction.isEmpty then [] else ['.']) ++ numeral.fraction.map Digit.char ++
    match numeral.exponent with
    | none => []
    | some exponent =>
      'e' :: ((if exponent < 0 then ['-'] else ['+']) ++ Nat.toDigits 10 exponent.natAbs)

theorem write_eq (numeral : Numeral) :
    numeral.write spelling = (if numeral.negative then ['-'] else []) ++
      (Nat.toDigits 10 numeral.whole ++ tail numeral) := by
  cases h : numeral.exponent <;> simp [Numeral.write, tail, spelling, h]

theorem foldlM_tail (numeral : Numeral) :
    ∃ part : NumeralPart, (tail numeral).foldlM NumeralPart.next?
        (.whole numeral.negative numeral.whole) = some part ∧ part.finish? = some numeral := by
  rcases numeral with ⟨negative, whole, fraction, exponent⟩
  rcases foldlM_point negative whole fraction with ⟨part, point, finished, marked⟩
  simp only [tail, List.foldlM_append, point]
  cases exponent with
  | none => exact ⟨part, rfl, finished⟩
  | some exponent =>
      rcases foldlM_power negative whole fraction.reverse exponent with ⟨last, power, finished⟩
      refine ⟨last, ?_, by simpa using finished⟩
      simpa [marked] using power

theorem tokens?_between_digit (digit : Digit) (rest : List Char) :
    tokens? .between (digit.char :: rest) = tokens? (.number (.whole false digit.val)) rest := by
  have begun : Scanner.between.step digit.char = some (.number (.whole false digit.val), []) := by
    revert digit
    decide
  exact tokens?_of_step begun rest

theorem tokens?_numeral (numeral : Numeral) {rest : List Char} (ends : EndsNumeral rest) :
    tokens? .between (numeral.write spelling ++ rest) =
      (tokens? .between rest).map (.number numeral :: ·) := by
  have grows : ∀ number, 0 < number → ∀ digit : Digit,
      (NumeralPart.whole numeral.negative number).withDigit digit =
        some (.whole numeral.negative (number * 10 + digit.val)) := by
    intro number positive digit
    simp [NumeralPart.withDigit, Nat.ne_of_gt positive]
  rcases foldlM_toDigits (.whole numeral.negative) grows numeral.whole with
    ⟨digit, others, digits, whole⟩
  rcases foldlM_tail numeral with ⟨part, followed, finished⟩
  have begun : tokens? .between (numeral.write spelling ++ rest) =
      tokens? (.number (.whole numeral.negative digit.val)) (others ++ (tail numeral ++ rest)) := by
    rw [write_eq, digits]
    cases numeral.negative with
    | false => simp [tokens?_between_digit]
    | true =>
        have sign : (Scanner.number .sign).step digit.char =
            some (.number (.whole true digit.val), []) := by
          simp [step, next?_digit, NumeralPart.withDigit]
        have minus : Scanner.between.step '-' = some (.number .sign, []) := rfl
        simp [tokens?_of_step minus, tokens?_of_step sign]
  rw [begun, tokens?_number whole, tokens?_number followed, tokens?_number_end finished ends]

/-! ## Literals -/

theorem hexDigit?_digitChar (digit : Nat) (small : digit < 16) :
    hexDigit? (Nat.digitChar digit) = some digit := by
  revert digit
  decide

theorem tokens?_unit (pieces : List Literal.Piece) (hasEscapes : Bool) {number : Nat}
    (small : number < 0x20) (rest : List Char) :
    tokens? (.string pieces hasEscapes)
        ('\\' :: 'u' :: '0' :: '0' :: Nat.digitChar (number / 16) ::
          Nat.digitChar (number % 16) :: rest) =
      tokens? (.string (.unit number.toUInt16 :: pieces) true) rest := by
  have backslash : (string pieces hasEscapes).step '\\' = some (.escape pieces, []) := rfl
  have letter : (Scanner.escape pieces).step 'u' = some (.unit pieces 3 0, []) := rfl
  have first : (Scanner.unit pieces 3 0).step '0' = some (.unit pieces 2 0, []) := rfl
  have second : (Scanner.unit pieces 2 0).step '0' = some (.unit pieces 1 0, []) := rfl
  have third : (Scanner.unit pieces 1 0).step (Nat.digitChar (number / 16)) =
      some (.unit pieces 0 (number / 16), []) := by
    simp [step, hexDigit?_digitChar (number / 16) (by omega)]
  have digits : number / 16 * 16 + number % 16 = number := by omega
  have last : (Scanner.unit pieces 0 (number / 16)).step (Nat.digitChar (number % 16)) =
      some (.string (.unit number.toUInt16 :: pieces) true, []) := by
    simp only [step, hexDigit?_digitChar (number % 16) (by omega), Option.bind_eq_bind,
      Option.bind_some, digits]
    rfl
  rw [tokens?_of_step backslash, tokens?_of_step letter, tokens?_of_step first,
    tokens?_of_step second, tokens?_of_step third, tokens?_of_step last]

/-- The spelling of a character adds one piece to a literal, which stands for the character. -/
theorem tokens?_escape (char : Char) :
    ∃ piece : Literal.Piece, piece.StandsFor char ∧ ∀ pieces hasEscapes rest,
      tokens? (.string pieces hasEscapes) (Literal.escape char ++ rest) =
        tokens? (.string (piece :: pieces) (hasEscapes || Literal.needsEscape char)) rest := by
  unfold Literal.escape
  split
  case h_8 notQuote notBackslash _ _ _ _ _ =>
      by_cases small : char.toNat < 0x20
      · refine ⟨.unit char.toNat.toUInt16, .unit small, fun pieces hasEscapes rest => ?_⟩
        have escaped : Literal.needsEscape char = true := by simp [Literal.needsEscape, small]
        rw [if_pos small, escaped, Bool.or_true]
        exact tokens?_unit pieces hasEscapes small rest
      · refine ⟨.char char, .char char, fun pieces hasEscapes rest => ?_⟩
        have plain : Literal.needsEscape char = false := by
          simp only [Literal.needsEscape, Bool.or_eq_false_iff, beq_eq_false_iff_ne,
            decide_eq_false_iff_not]
          exact ⟨⟨notQuote, notBackslash⟩, small⟩
        have step : (string pieces hasEscapes).step char =
            some (.string (.char char :: pieces) hasEscapes, []) := by
          rw [Scanner.step, if_neg notQuote, if_neg notBackslash, if_neg small]
        rw [if_neg small, plain, Bool.or_false]
        exact tokens?_of_step step rest
  -- The seven characters with a letter of their own all take the same two steps.
  all_goals
    refine ⟨.char _, .char _, fun pieces hasEscapes rest => ?_⟩
    have backslash : (string pieces hasEscapes).step '\\' = some (.escape pieces, []) := rfl
    show tokens? _ _ = tokens? (.string (_ :: pieces) (hasEscapes || true)) rest
    rw [Bool.or_true]
    exact (tokens?_of_step backslash _).trans (tokens?_of_step rfl rest)

theorem tokens?_escapes (chars : List Char) :
    ∃ pieces : List Literal.Piece, Literal.resolve pieces = some chars ∧
      ∀ before hasEscapes rest,
        tokens? (.string before hasEscapes) (chars.flatMap Literal.escape ++ '"' :: rest) =
          (tokens? .between rest).map (.string (.ofPieces (before.reverse ++ pieces)
            (hasEscapes || chars.any Literal.needsEscape)) :: ·) := by
  induction chars with
  | nil =>
      refine ⟨[], rfl, fun before hasEscapes rest => ?_⟩
      simp [tokens?, step]
  | cons char chars ih =>
      rcases tokens?_escape char with ⟨piece, standsFor, scanned⟩
      rcases ih with ⟨pieces, resolved, scannedAll⟩
      refine ⟨piece :: pieces, ?_, ?_⟩
      · simp [standsFor pieces, resolved]
      · intro before hasEscapes rest
        simp [scanned, scannedAll, Bool.or_assoc]

theorem tokens?_quote (text : String) (rest : List Char) :
    tokens? .between (Literal.quote text ++ rest) =
      (tokens? .between rest).map (.string (.ofText text) :: ·) := by
  rcases tokens?_escapes text.toList with ⟨pieces, resolved, scanned⟩
  have opened : Scanner.between.step '"' = some (.string [] false, []) := rfl
  have literal : Literal.ofPieces pieces (text.toList.any Literal.needsEscape) = .ofText text := by
    simp [Literal.ofPieces, Literal.ofText, resolved]
  simp [Literal.quote, tokens?_of_step opened, scanned, literal]

theorem tokens?_literal (literal : Literal) (rest : List Char) :
    tokens? .between (literal.write ++ rest) =
      (tokens? .between rest).map (.string literal.normal :: ·) := by
  cases literal with
  | plain text => exact tokens?_quote text rest
  | escaped text => exact tokens?_quote text rest
  | unpaired =>
      have opened : Scanner.between.step '"' = some (.string [] false, []) := rfl
      have backslash : (string [] false).step '\\' = some (.escape [], []) := rfl
      have letter : (Scanner.escape []).step 'u' = some (.unit [] 3 0, []) := rfl
      have first : (Scanner.unit [] 3 0).step 'd' = some (.unit [] 2 0xd, []) := rfl
      have second : (Scanner.unit [] 2 0xd).step '8' = some (.unit [] 1 0xd8, []) := rfl
      have third : (Scanner.unit [] 1 0xd8).step '0' = some (.unit [] 0 0xd80, []) := rfl
      have last : (Scanner.unit [] 0 0xd80).step '0' =
          some (.string [.unit 0xd800] true, []) := rfl
      have closed : (Scanner.string [.unit 0xd800] true).step '"' =
          some (.between, [.string .unpaired]) := rfl
      simp only [Literal.write, List.cons_append, List.nil_append, tokens?_of_step opened,
        tokens?_of_step backslash, tokens?_of_step letter, tokens?_of_step first,
        tokens?_of_step second, tokens?_of_step third, tokens?_of_step last]
      simp only [tokens?, closed, Option.bind_some]
      rfl

end Scanner

end Json

end Watch
