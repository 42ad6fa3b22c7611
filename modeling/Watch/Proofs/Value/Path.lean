import Watch.Proofs.Value.Integral

/-!
# Conversions through other integral types

What an integral value becomes does not depend on the way: if no type on the way is narrower than
the last one, it is what converting the value at once comes to, whatever the signs of the types are
(`Value.convertTo_through`, `Value.convertTo_along`). The reason is that a type keeps of a value the
residue of its number, and a residue for a wider type determines the one for a narrower.

A type that represents all numbers of another one (`TypeTag.Represents`) keeps the number of each of
its values, so that converting back restores the value.
-/

namespace Watch

/-- A type that has a value for every number that values of another type stand for. -/
def TypeTag.Represents (target source : TypeTag) : Prop :=
  ∀ (value : Value) (number : Int), value.tag = source → value.integer? = some number →
    ∃ image : Value, image.tag = target ∧ image.integer? = some number

namespace Value

variable {value : Value} {number : Int} {tag target : TypeTag}

/-- A type that is no wider may be gone to through another one. -/
theorem convertTo_through (isInteger : value.integer? = some number)
    (integral : tag.isIntegral = true) (integralToo : target.isIntegral = true)
    (narrower : target.bits ≤ tag.bits) :
    (do (← value.convertTo tag).convertTo target) = value.convertTo target := by
  rw [convertTo_of_integer? isInteger integral, convertTo_of_integer? isInteger integralToo]
  exact convertTo_ofInteger number integral integralToo narrower

/-- A type that is no wider than any on the way may be gone to along them all. -/
theorem convertTo_along (chain : List TypeTag) (isInteger : value.integer? = some number)
    (integral : target.isIntegral = true)
    (wider : ∀ tag ∈ chain, tag.isIntegral = true ∧ target.bits ≤ tag.bits) :
    (do (← chain.foldlM convertTo value).convertTo target) = value.convertTo target := by
  induction chain generalizing value number with
  | nil => rfl
  | cons tag chain ih =>
      rcases wider tag List.mem_cons_self with ⟨integralToo, narrower⟩
      rcases integer?_ofInteger number integralToo with ⟨own, isOwn, -⟩
      have rest := ih isOwn fun other member => wider other (List.mem_cons_of_mem _ member)
      rw [← convertTo_through isInteger integralToo integral narrower]
      rw [List.foldlM_cons, convertTo_of_integer? isInteger integralToo]
      exact rest

/-- A type that represents another one keeps the numbers of its values. -/
theorem integer?_ofInteger_of_represents (represents : target.Represents value.tag)
    (isInteger : value.integer? = some number) :
    (ofInteger number target).integer? = some number := by
  rcases represents value number rfl isInteger with ⟨image, rfl, isImage⟩
  rw [← eq_ofInteger_of_integer? isImage]
  exact isImage

/--
A conversion of an integral value to an integral type comes to the same, whether it is made at once
or through another integral type that is no narrower, or along any number of such types; and through
a type that represents all numbers of the type of the value, with the number kept, it leads back to
the value.
-/
theorem convertTo_independent (value : Value) (integral : value.tag.isIntegral = true) :
    (∀ wide narrow : TypeTag, wide.isIntegral = true → narrow.isIntegral = true →
      narrow.bits ≤ wide.bits →
        ∃ through result, value.convertTo wide = .ok through ∧
          through.convertTo narrow = .ok result ∧ value.convertTo narrow = .ok result) ∧
      (∀ (chain : List TypeTag) (narrow : TypeTag), narrow.isIntegral = true →
        (∀ tag ∈ chain, tag.isIntegral = true ∧ narrow.bits ≤ tag.bits) →
          (do (← chain.foldlM convertTo value).convertTo narrow) = value.convertTo narrow) ∧
      ∀ target : TypeTag, target.isIntegral = true → target.Represents value.tag →
        ∃ image, value.convertTo target = .ok image ∧ image.integer? = value.integer? ∧
          image.convertTo value.tag = .ok value := by
  rcases exists_integer? integral with ⟨number, isInteger⟩
  refine ⟨?_, ?_, ?_⟩
  · intro wide narrow isWide isNarrow narrower
    refine ⟨_, _, convertTo_of_integer? isInteger isWide, ?_,
      convertTo_of_integer? isInteger isNarrow⟩
    exact convertTo_ofInteger number isWide isNarrow narrower
  · intro chain narrow isNarrow wider
    exact convertTo_along chain isInteger isNarrow wider
  · intro target isTarget represents
    have kept := integer?_ofInteger_of_represents represents isInteger
    refine ⟨_, convertTo_of_integer? isInteger isTarget, kept.trans isInteger.symm, ?_⟩
    rw [convertTo_of_integer? kept integral, ← eq_ofInteger_of_integer? isInteger]

/-- The greatest `char` becomes a negative `byte` on every way, and comes back from an `int`. -/
theorem convertTo_independent_char :
    let greatest : Value := .char 0xFFFF
    greatest.tag.isIntegral = true ∧ TypeTag.int.Represents .char ∧
      greatest.convertTo .byte = .ok (.byte (-1)) ∧
      (do (← greatest.convertTo .short).convertTo .byte) = .ok (.byte (-1)) ∧
      (do (← [TypeTag.long, .short, .char].foldlM convertTo greatest).convertTo .byte) =
        .ok (.byte (-1)) ∧
      greatest.convertTo .int = .ok (.int 65535) ∧
      (Value.int 65535).convertTo .char = .ok greatest := by
  intro greatest
  have represents : TypeTag.int.Represents .char := by
    intro value number isChar isInteger
    cases value with
    | char unit =>
        cases isInteger
        have fits := unit.toNat_lt
        refine ⟨.int (.ofInt unit.toNat), rfl, congrArg some ?_⟩
        exact Int32.toInt_ofInt_of_le (by omega) (by omega)
    | _ => cases isChar
  rcases convertTo_independent greatest rfl with ⟨through, along, back⟩
  have atOnce : greatest.convertTo .byte = .ok (.byte (-1)) := rfl
  rcases through .short .byte rfl rfl (by decide) with ⟨step, result, stepped, rest, direct⟩
  rcases back .int rfl represents with ⟨image, imaged, -, returned⟩
  cases imaged
  refine ⟨rfl, represents, atOnce, ?_, ?_, rfl, returned⟩
  · rw [← atOnce, direct, ← rest, stepped]
    rfl
  · rw [← atOnce]
    exact along [.long, .short, .char] .byte rfl (by decide)

end Value

end Watch
