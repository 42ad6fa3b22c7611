import Mathlib.FieldTheory.Finite.Basic
import Watch.Text.Utf16

/-!
# The units of joined texts

Two texts that are joined have the units of the one followed by the units of the other. No pair
comes about at the seam, since each character brings all of its units, and a half of a pair on its
own gets into a text only as the replacement character (`Utf16.units_singleton_charOfUnit`).

Thus lengths add up, in words that wrap, and hashes are put together like numbers that are written
one behind the other: what comes behind moves what is before it up by as many places as it has units
(`Utf16.hash_append`). The base of the hash is odd, so that by Euler's theorem its powers repeat
where the lengths do, and the length as a word says how far that is (`Utf16.pow_length`).
-/

namespace Watch

namespace Word

theorem ofNat_pow (base exponent : Nat) :
    Int32.ofNat (base ^ exponent) = Int32.ofNat base ^ exponent := by
  induction exponent with
  | zero => rfl
  | succ exponent ih => rw [Nat.pow_succ, Int32.ofNat_mul, ih, Int32.pow_succ]

theorem ofNat_eq_of_modEq {number other : Nat} (congruent : number ≡ other [MOD 2 ^ 32]) :
    Int32.ofNat number = Int32.ofNat other := by
  rw [← Int32.toBitVec_inj]
  exact BitVec.eq_of_toNat_eq congruent

/-- Residues of the exponent are enough for the powers of an odd number. -/
theorem pow_mod_modEq {base : Nat} (odd : base.Coprime 2) (exponent : Nat) :
    base ^ (exponent % 2 ^ 32) ≡ base ^ exponent [MOD 2 ^ 32] := by
  have totient : Nat.totient (2 ^ 32) = 2 ^ 31 := by
    rw [Nat.totient_prime_pow Nat.prime_two (by decide)]
    rfl
  have euler : base ^ 2 ^ 31 ≡ 1 [MOD 2 ^ 32] := by
    rw [← totient]
    exact Nat.ModEq.pow_totient (odd.pow_right 32)
  have period : base ^ 2 ^ 32 ≡ 1 [MOD 2 ^ 32] := by
    have squared := euler.pow 2
    rwa [one_pow, ← pow_mul, ← pow_succ] at squared
  calc
    base ^ (exponent % 2 ^ 32) = 1 ^ (exponent / 2 ^ 32) * base ^ (exponent % 2 ^ 32) := by
      rw [one_pow, one_mul]
    _ ≡ (base ^ 2 ^ 32) ^ (exponent / 2 ^ 32) * base ^ (exponent % 2 ^ 32) [MOD 2 ^ 32] :=
      (period.symm.pow _).mul_right _
    _ = base ^ exponent := by rw [← pow_mul, ← pow_add, Nat.div_add_mod]

end Word

namespace Utf16

theorem units_append (left right : String) : units (left ++ right) = units left ++ units right := by
  rw [units, String.toList_append, List.flatMap_append]
  rfl

/-- A character that stands for a unit has one unit: this one, unless it is half of a pair. -/
theorem units_singleton_charOfUnit (unit : UInt16) :
    units (String.singleton (charOfUnit unit)) =
      [if isHighHalf unit || isLowHalf unit then 0xFFFD else unit] := by
  have unitsEq (char : Char) : units (String.singleton char) = unitsOfChar char := by
    simp [units]
  rw [unitsEq, charOfUnit]
  split
  · rfl
  · next noHalf =>
    simp only [isHighHalf, isLowHalf, UInt16.le_iff_toNat_le, UInt16.lt_iff_toNat_lt,
      UInt16.reduceToNat, Bool.or_eq_true, Bool.and_eq_true, decide_eq_true_eq] at noHalf
    have small := unit.toNat_lt
    have valid : unit.toNat.isValidChar := by
      unfold Nat.isValidChar
      omega
    have pointEq : (Char.ofNat unit.toNat).toNat = unit.toNat := by
      rw [Char.ofNat, dif_pos valid]
      rfl
    rw [unitsOfChar, pointEq, if_pos small, Nat.toUInt16_eq, UInt16.ofNat_toNat]

theorem length_append (left right : String) :
    length (left ++ right) = length left + length right := by
  rw [length, units_append, List.length_append, Int32.ofNat_add]
  rfl

/-- The hash of units that come behind others, which have a hash already. -/
def hashFrom (start : Int32) (units : List UInt16) : Int32 :=
  units.foldl (fun hash unit => hash * 31 + unit.toUInt32.toInt32) start

/-- What is before some units counts as if it were as many places higher. -/
theorem hashFrom_eq (start : Int32) (units : List UInt16) :
    hashFrom start units = start * 31 ^ units.length + hashFrom 0 units := by
  -- The start has to vary: behind the first unit, the hash of that unit is the start.
  induction units generalizing start with
  | nil =>
      calc
        hashFrom start [] = start := rfl
        _ = start * 31 ^ 0 + 0 := by grind
  | cons unit units ih =>
      have hashFrom_cons (start : Int32) : hashFrom start (unit :: units) =
          (start * 31 + unit.toUInt32.toInt32) * 31 ^ units.length + hashFrom 0 units :=
        ih _
      rw [hashFrom_cons, hashFrom_cons, List.length_cons]
      grind

theorem hash_append (left right : String) :
    hash (left ++ right) = hash left * 31 ^ (units right).length + hash right := by
  have hash_eq (text : String) : hash text = hashFrom 0 (units text) := rfl
  rw [hash_eq, units_append, hashFrom, List.foldl_append]
  exact hashFrom_eq (hash left) (units right)

theorem pow_length (text : String) :
    (31 : Int32) ^ (length text).toUInt32.toNat = 31 ^ (units text).length := by
  have residue : (length text).toUInt32.toNat = (units text).length % 2 ^ 32 := by
    rw [length, Int32.toUInt32_ofNat', UInt32.toNat_ofNat']
  have base : Int32.ofNat 31 = 31 := rfl
  rw [residue, ← base, ← Word.ofNat_pow, ← Word.ofNat_pow]
  exact Word.ofNat_eq_of_modEq (Word.pow_mod_modEq (by decide) _)

end Utf16

end Watch
