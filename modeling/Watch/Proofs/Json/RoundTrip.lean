import Watch.Proofs.Json.Scanning

/-!
# Reading what was written

The text of a value is read as that value, with its literals spelled anew (`Json.read?_write`). Two
lemmas meet at the tokens of the value: the scanner finds them in the text, and the reader puts the
value together from them, wherever in another value it stands.
-/

namespace Watch

namespace Json

mutual

/-- A value with the same texts, spelled with no more escapes than they need. -/
def normal : Json → Json
  | .null => .null
  | .boolean truth => .boolean truth
  | .number numeral => .number numeral
  | .string literal => .string literal.normal
  | .array items => .array (itemsNormal items)
  | .object members => .object (membersNormal members)

/-- Items with the same texts. -/
def itemsNormal : List Json → List Json
  | [] => []
  | item :: items => normal item :: itemsNormal items

/-- Members with the same texts. -/
def membersNormal : List (Literal × Json) → List (Literal × Json)
  | [] => []
  | (key, item) :: members => (key.normal, normal item) :: membersNormal members

end

mutual

/-- The tokens of a value. -/
def tokens : Json → List Token
  | .null => [.null]
  | .boolean truth => [.boolean truth]
  | .number numeral => [.number numeral]
  | .string literal => [.string literal]
  | .array [] => [.arrayStart, .arrayEnd]
  | .array (item :: items) => .arrayStart :: (tokens item ++ itemsTokens items)
  | .object [] => [.objectStart, .objectEnd]
  | .object ((key, item) :: members) =>
    .objectStart :: .string key :: .colon :: (tokens item ++ membersTokens members)

/-- The tokens of the items of an array after the first, and of its end. -/
def itemsTokens : List Json → List Token
  | [] => [.arrayEnd]
  | item :: items => .comma :: (tokens item ++ itemsTokens items)

/-- The tokens of the members of an object after the first, and of its end. -/
def membersTokens : List (Literal × Json) → List Token
  | [] => [.objectEnd]
  | (key, item) :: members =>
    .comma :: .string key :: .colon :: (tokens item ++ membersTokens members)

end

/-! ## From the text to the tokens -/

namespace Scanner

theorem endsNumeral_items (items : List Json) (rest : List Char) :
    EndsNumeral (itemsChars items ++ rest) := by
  cases items <;> simp [EndsNumeral, itemsChars]

theorem endsNumeral_members (members : List (Literal × Json)) (rest : List Char) :
    EndsNumeral (membersChars members ++ rest) := by
  cases members <;> simp [EndsNumeral, membersChars]

mutual

theorem tokens?_chars (json : Json) {rest : List Char} (ends : EndsNumeral rest) :
    tokens? .between (json.chars ++ rest) =
      (tokens? .between rest).map (json.normal.tokens ++ ·) := by
  match json with
  | .null =>
      have begun : Scanner.between.step 'n' = some (.word ['u', 'l', 'l'] .null, []) := rfl
      exact (tokens?_of_step begun _).trans (tokens?_word ['u', 'l', 'l'] .null rest (by simp))
  | .boolean true =>
      have begun : Scanner.between.step 't' =
          some (.word ['r', 'u', 'e'] (.boolean true), []) := rfl
      exact (tokens?_of_step begun _).trans
        (tokens?_word ['r', 'u', 'e'] (.boolean true) rest (by simp))
  | .boolean false =>
      have begun : Scanner.between.step 'f' =
          some (.word ['a', 'l', 's', 'e'] (.boolean false), []) := rfl
      exact (tokens?_of_step begun _).trans
        (tokens?_word ['a', 'l', 's', 'e'] (.boolean false) rest (by simp))
  | .number numeral => simp [chars, normal, tokens, tokens?_numeral numeral ends]
  | .string literal => simp [chars, normal, tokens, tokens?_literal]
  | .array [] =>
      have opened : start '[' = some (.between, [.arrayStart]) := rfl
      have closed : start ']' = some (.between, [.arrayEnd]) := rfl
      simp [chars, normal, itemsNormal, tokens, tokens?_between_of_start opened,
        tokens?_between_of_start closed, Function.comp_def]
  | .array (item :: items) =>
      have opened : start '[' = some (.between, [.arrayStart]) := rfl
      have first := tokens?_chars item (endsNumeral_items items rest)
      have others := tokens?_itemsChars items rest
      simp [chars, normal, itemsNormal, tokens, tokens?_between_of_start opened, first, others,
        Function.comp_def]
  | .object [] =>
      have opened : start '\x7b' = some (.between, [.objectStart]) := rfl
      have closed : start '\x7d' = some (.between, [.objectEnd]) := rfl
      simp [chars, normal, membersNormal, tokens, tokens?_between_of_start opened,
        tokens?_between_of_start closed, Function.comp_def]
  | .object ((key, item) :: members) =>
      have opened : start '\x7b' = some (.between, [.objectStart]) := rfl
      have colon : start ':' = some (.between, [.colon]) := rfl
      have first := tokens?_chars item (endsNumeral_members members rest)
      have others := tokens?_membersChars members rest
      simp [chars, normal, membersNormal, tokens, tokens?_between_of_start opened,
        tokens?_literal, tokens?_between_of_start colon, first, others, Function.comp_def]

theorem tokens?_itemsChars (items : List Json) (rest : List Char) :
    tokens? .between (itemsChars items ++ rest) =
      (tokens? .between rest).map (itemsTokens (itemsNormal items) ++ ·) := by
  match items with
  | [] =>
      have closed : start ']' = some (.between, [.arrayEnd]) := rfl
      simp [itemsChars, itemsNormal, itemsTokens, tokens?_between_of_start closed]
  | item :: items =>
      have comma : start ',' = some (.between, [.comma]) := rfl
      have first := tokens?_chars item (endsNumeral_items items rest)
      have others := tokens?_itemsChars items rest
      simp [itemsChars, itemsNormal, itemsTokens, tokens?_between_of_start comma, first, others,
        Function.comp_def]

theorem tokens?_membersChars (members : List (Literal × Json)) (rest : List Char) :
    tokens? .between (membersChars members ++ rest) =
      (tokens? .between rest).map (membersTokens (membersNormal members) ++ ·) := by
  match members with
  | [] =>
      have closed : start '\x7d' = some (.between, [.objectEnd]) := rfl
      simp [membersChars, membersNormal, membersTokens, tokens?_between_of_start closed]
  | (key, item) :: members =>
      have comma : start ',' = some (.between, [.comma]) := rfl
      have colon : start ':' = some (.between, [.colon]) := rfl
      have first := tokens?_chars item (endsNumeral_members members rest)
      have others := tokens?_membersChars members rest
      simp [membersChars, membersNormal, membersTokens, tokens?_between_of_start comma,
        tokens?_literal, tokens?_between_of_start colon, first, others, Function.comp_def]

end

end Scanner

/-! ## From the tokens to the value -/

namespace Reader

/-- What a value begins with does not end an array. -/
theorem firstItem_tokens (json : Json) (outer : List Open) (rest : List Token) :
    (json.tokens ++ rest).foldlM step (.firstItem outer) =
      (json.tokens ++ rest).foldlM step (.value (.array [] :: outer)) := by
  rcases json with _ | _ | _ | _ | (_ | _) | (_ | _) <;> rfl

mutual

theorem foldlM_tokens (json : Json) (outer : List Open) (rest : List Token) :
    (json.tokens ++ rest).foldlM step (.value outer) =
      rest.foldlM step (complete json outer) := by
  match json with
  | .null => rfl
  | .boolean _ => rfl
  | .number _ => rfl
  | .string _ => rfl
  | .array [] => rfl
  | .array (item :: items) =>
      have opened : step (.value outer) .arrayStart = some (.firstItem outer) := rfl
      have first := foldlM_tokens item (.array [] :: outer) (itemsTokens items ++ rest)
      have others := foldlM_itemsTokens items [item] outer rest
      simp only [tokens, List.cons_append, List.append_assoc, List.foldlM_cons, opened,
        Option.bind_eq_bind, Option.bind_some, firstItem_tokens, first]
      exact others
  | .object [] => rfl
  | .object ((key, item) :: members) =>
      have opened : step (.value outer) .objectStart = some (.firstKey outer) := rfl
      have named : step (.firstKey outer) (.string key) = some (.afterKey [] key outer) := rfl
      have colon : step (.afterKey [] key outer) .colon =
          some (.value (.object [] key :: outer)) := rfl
      have first := foldlM_tokens item (.object [] key :: outer) (membersTokens members ++ rest)
      have others := foldlM_membersTokens members [(key, item)] outer rest
      simp only [tokens, List.cons_append, List.append_assoc, List.foldlM_cons, opened, named,
        colon, Option.bind_eq_bind, Option.bind_some, first]
      exact others

theorem foldlM_itemsTokens (items read : List Json) (outer : List Open) (rest : List Token) :
    (itemsTokens items ++ rest).foldlM step (.afterItem read outer) =
      rest.foldlM step (complete (.array (read.reverse ++ items)) outer) := by
  match items with
  | [] =>
      have closed : step (.afterItem read outer) .arrayEnd =
          some (complete (.array read.reverse) outer) := rfl
      simp [itemsTokens, closed]
  | item :: items =>
      have comma : step (.afterItem read outer) .comma = some (.value (.array read :: outer)) := rfl
      have first := foldlM_tokens item (.array read :: outer) (itemsTokens items ++ rest)
      have others := foldlM_itemsTokens items (item :: read) outer rest
      simp only [itemsTokens, List.cons_append, List.append_assoc, List.foldlM_cons, comma,
        Option.bind_eq_bind, Option.bind_some, first]
      simpa [complete] using others

theorem foldlM_membersTokens (members read : List (Literal × Json)) (outer : List Open)
    (rest : List Token) :
    (membersTokens members ++ rest).foldlM step (.afterMember read outer) =
      rest.foldlM step (complete (.object (read.reverse ++ members)) outer) := by
  match members with
  | [] =>
      have closed : step (.afterMember read outer) .objectEnd =
          some (complete (.object read.reverse) outer) := rfl
      simp [membersTokens, closed]
  | (key, item) :: members =>
      have comma : step (.afterMember read outer) .comma = some (.nextKey read outer) := rfl
      have named : step (.nextKey read outer) (.string key) =
          some (.afterKey read key outer) := rfl
      have colon : step (.afterKey read key outer) .colon =
          some (.value (.object read key :: outer)) := rfl
      have first := foldlM_tokens item (.object read key :: outer) (membersTokens members ++ rest)
      have others := foldlM_membersTokens members ((key, item) :: read) outer rest
      simp only [membersTokens, List.cons_append, List.append_assoc, List.foldlM_cons, comma,
        named, colon, Option.bind_eq_bind, Option.bind_some, first]
      simpa [complete] using others

end

end Reader

/-- Scanner and reader side by side do what the scanner does first and the reader after it. -/
theorem foldlM_readChar (scanner : Scanner) (reader : Reader) (text : List Char) :
    ((text.foldlM readChar (scanner, reader)).bind fun state =>
        state.1.finish?.bind fun tokens => tokens.foldlM Reader.step state.2) =
      (scanner.tokens? text).bind fun tokens => tokens.foldlM Reader.step reader := by
  induction text generalizing scanner reader with
  | nil => simp [Scanner.tokens?]
  | cons char text ih =>
      cases scanned : scanner.step char with
      | none => simp [readChar, Scanner.tokens?, scanned]
      | some next =>
          rcases next with ⟨next, tokens⟩
          have joined : ((next.tokens? text).map (tokens ++ ·)).bind
              (fun tokens => tokens.foldlM Reader.step reader) =
                (next.tokens? text).bind fun later =>
                  (tokens ++ later).foldlM Reader.step reader :=
            Option.bind_map
          cases taken : tokens.foldlM Reader.step reader with
          | none => simp [readChar, Scanner.tokens?, scanned, taken, joined]
          | some reader => simp [readChar, Scanner.tokens?, scanned, taken, joined, ih]

theorem read?_eq (text : String) :
    read? text = ((Scanner.between.tokens? text.toList).bind fun tokens =>
      tokens.foldlM Reader.step (.value [])).bind Reader.finish? := by
  rw [← foldlM_readChar]
  simp [read?, Option.bind_assoc]

/-- The text of a value is read as the value, with its literals spelled anew. -/
theorem read?_write (json : Json) : read? json.write = some json.normal := by
  have ends : Scanner.EndsNumeral [] := by simp [Scanner.EndsNumeral]
  have scanned : Scanner.between.tokens? json.chars = some json.normal.tokens := by
    simpa [Scanner.tokens?, Scanner.finish?] using Scanner.tokens?_chars json ends
  have taken : json.normal.tokens.foldlM Reader.step (.value []) =
      some (.finished json.normal) := by
    simpa [Reader.complete] using Reader.foldlM_tokens json.normal [] []
  simp [read?_eq, write, scanned, taken, Reader.finish?]

end Json

end Watch
