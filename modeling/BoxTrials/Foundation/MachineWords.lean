import Mathlib.Data.Int.Basic
import Mathlib.Tactic.Ring

/-!
# 32-bit machine words

Conversions and arithmetic of a C `unsigned long` that has 32 bits.  Words are
natural numbers below the modulus.
-/

namespace BoxTrials
namespace Foundation

def wordModulus : Nat := 4294967296

def toULong (n : Int) : Nat :=
  (n % (wordModulus : Int)).toNat

def ulongSub (a b : Nat) : Nat :=
  (a + (wordModulus - b % wordModulus)) % wordModulus

def toInt32 (n : Nat) : Int :=
  if n % wordModulus < 2147483648 then
    ((n % wordModulus : Nat) : Int)
  else
    ((n % wordModulus : Nat) : Int) - (wordModulus : Int)

theorem toULong_of_nonneg {n : Int} (h0 : 0 ≤ n)
    (h : n < (wordModulus : Int)) : toULong n = n.toNat := by
  rw [toULong, Int.emod_eq_of_lt h0 h]

theorem toULong_cast {n : Int} (h0 : 0 ≤ n) (h : n < (wordModulus : Int)) :
    (toULong n : Int) = n := by
  rw [toULong_of_nonneg h0 h]
  exact Int.toNat_of_nonneg h0

theorem toInt32_of_small {n : Nat} (h : n < 2147483648) : toInt32 n = n := by
  have hmod : n % wordModulus = n := by
    rw [wordModulus]
    omega
  rw [toInt32, hmod, if_pos h]

/-- Elapsed time on a wrapping counter is the true elapsed time modulo the
word size. -/
theorem ulongSub_mod {a b : Nat} (h : b ≤ a) :
    ulongSub (a % wordModulus) (b % wordModulus) = (a - b) % wordModulus := by
  unfold ulongSub wordModulus
  omega

theorem toInt32_toULong {n : Int} (hlo : -2147483648 ≤ n)
    (hhi : n < 2147483648) : toInt32 (toULong n) = n := by
  unfold toInt32 toULong wordModulus
  split_ifs <;> omega

/-!
# Words in memory

The least significant byte of a word has the lowest address.
-/

def wordBytes (n : Nat) : List UInt8 :=
  [UInt8.ofNat n, UInt8.ofNat (n / 256), UInt8.ofNat (n / 65536),
    UInt8.ofNat (n / 16777216)]

def readWord (byte : Nat -> UInt8) (address : Nat) : Nat :=
  (byte address).toNat + 256 * (byte (address + 1)).toNat +
    65536 * (byte (address + 2)).toNat + 16777216 * (byte (address + 3)).toNat

theorem readWord_wordBytes {byte : Nat -> UInt8} {address n : Nat}
    (hn : n < wordModulus)
    (h : forall i, i < 4 -> (wordBytes n)[i]? = some (byte (address + i))) :
    readWord byte address = n := by
  have h0 : UInt8.ofNat n = byte address := Option.some.inj (h 0 (by decide))
  have h1 : UInt8.ofNat (n / 256) = byte (address + 1) :=
    Option.some.inj (h 1 (by decide))
  have h2 : UInt8.ofNat (n / 65536) = byte (address + 2) :=
    Option.some.inj (h 2 (by decide))
  have h3 : UInt8.ofNat (n / 16777216) = byte (address + 3) :=
    Option.some.inj (h 3 (by decide))
  rw [readWord, ← h0, ← h1, ← h2, ← h3]
  simp only [UInt8.toNat_ofNat']
  rw [wordModulus] at hn
  omega

end Foundation
end BoxTrials
