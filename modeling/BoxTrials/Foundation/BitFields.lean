import Mathlib.Data.BitVec

/-!
# Bit fields of a word

A field is a number of neighbouring bits.  It is read by a shift and a mask, and
written by clearing its bits and adding the new ones; the other bits of the word
stay.
-/

namespace BoxTrials
namespace Foundation

variable {w : Nat}

def lowMask (w bits : Nat) : BitVec w :=
  (1#w <<< bits) - 1#w

def readField (bits shift : Nat) (val : BitVec w) : BitVec w :=
  (val >>> shift) &&& lowMask w bits

def writeField (bits shift : Nat) (data val : BitVec w) : BitVec w :=
  (val &&& ~~~ (lowMask w bits <<< shift)) ||| ((data &&& lowMask w bits) <<< shift)

theorem getLsbD_lowMask (w bits i : Nat) :
    (lowMask w bits).getLsbD i = decide (i < bits ∧ i < w) := by
  have hshift : 1#w <<< bits = BitVec.ofNat w (2 ^ bits) := by
    apply BitVec.eq_of_toNat_eq
    rw [BitVec.toNat_shiftLeft, BitVec.toNat_ofNat, BitVec.toNat_ofNat,
      Nat.shiftLeft_eq, Nat.mod_mul_mod, Nat.one_mul]
  have hmask : lowMask w bits = BitVec.ofNat w (2 ^ bits - 1) := by
    rw [lowMask, hshift, sub_eq_iff_eq_add, BitVec.ofNat_add_ofNat,
      Nat.sub_add_cancel Nat.one_le_two_pow]
  rw [hmask, BitVec.getLsbD_ofNat, Nat.testBit_two_pow_sub_one, ← Bool.decide_and]
  exact decide_eq_decide.mpr and_comm

theorem getLsbD_readField (bits shift : Nat) (val : BitVec w) (i : Nat) :
    (readField bits shift val).getLsbD i =
      (decide (i < bits) && val.getLsbD (shift + i)) := by
  rw [readField, BitVec.getLsbD_and, BitVec.getLsbD_ushiftRight, getLsbD_lowMask]
  by_cases hi : i < w
  · simp [hi, Bool.and_comm]
  · have hout : val.getLsbD (shift + i) = false := BitVec.getLsbD_of_ge _ _ (by omega)
    simp [hout]

theorem getLsbD_writeField {bits shift i : Nat} (data val : BitVec w)
    (hi : i < w) :
    (writeField bits shift data val).getLsbD i =
      if shift ≤ i ∧ i < shift + bits then
        data.getLsbD (i - shift)
      else
        val.getLsbD i := by
  rw [writeField, BitVec.getLsbD_or, BitVec.getLsbD_and, BitVec.getLsbD_not,
    BitVec.getLsbD_shiftLeft, BitVec.getLsbD_shiftLeft, BitVec.getLsbD_and,
    getLsbD_lowMask]
  by_cases hlow : i < shift
  · have hout : ¬ (shift ≤ i ∧ i < shift + bits) := by omega
    simp [hi, hlow, hout]
  · have hsub : i - shift < w := by omega
    by_cases hhigh : i < shift + bits
    · have hin : shift ≤ i ∧ i < shift + bits := by omega
      have hfield : i - shift < bits := by omega
      simp [hi, hlow, hin, hsub, hfield]
    · have hout : ¬ (shift ≤ i ∧ i < shift + bits) := by omega
      have hfield : ¬ i - shift < bits := by omega
      simp [hi, hlow, hout, hfield]

end Foundation
end BoxTrials
