import Mathlib.Data.Nat.Digits.Lemmas
import BoxTrials.Receiver.PacketRoundTrip

/-!
# The buffers of hexadecimal texts

`IntToHexString` allocates one byte for each digit, and `sprintf` stores the
digits and a NUL.
-/

namespace BoxTrials
namespace Receiver

open Foundation

def hexDigitCount (n : Nat) : Nat :=
  max 1 (Nat.digits 16 n).length

/-- The buffer holds what is stored into it, and as many digits as the number
has, the most significant first. -/
structure HexBufferFits (n : Nat) : Prop where
  allocated : (intToHexString n).hex.length ≤ (intToHexString n).size
  size : (intToHexString n).size = hexDigitCount n
  digits : forall i, i < (intToHexString n).size ->
    (intToHexString n).hex[i]? =
      some (hexDigit (n / 16 ^ ((intToHexString n).size - 1 - i) % 16))

theorem size_eq_hexDigitCount (n : Nat) :
    (intToHexString n).size = hexDigitCount n := by
  by_cases h0 : n = 0
  · subst h0
    rfl
  · simp only [intToHexString, hexDigitCount]
    rw [if_neg h0, Nat.length_digits 16 n (by decide) h0]
    exact (Nat.max_eq_right (Nat.succ_pos _)).symm

theorem sprintfX_length (n : Nat) : (sprintfX n).length = hexDigitCount n := by
  by_cases h0 : n = 0
  · subst h0
    rfl
  · rw [sprintfX, if_neg h0, List.length_map, List.length_reverse, hexDigitCount,
      Nat.length_digits 16 n (by decide) h0]
    exact (Nat.max_eq_right (Nat.succ_pos _)).symm

theorem sprintfX_digit {n i : Nat} (h : i < hexDigitCount n) :
    (sprintfX n)[i]? =
      some (hexDigit (n / 16 ^ (hexDigitCount n - 1 - i) % 16)) := by
  by_cases h0 : n = 0
  · subst h0
    have hi : i = 0 := Nat.lt_one_iff.mp h
    subst hi
    rfl
  · have hcount : (Nat.digits 16 n).length = hexDigitCount n := by
      rw [← sprintfX_length, sprintfX, if_neg h0, List.length_map,
        List.length_reverse]
    rw [← hcount] at h ⊢
    have hdigit := Nat.getD_digits n ((Nat.digits 16 n).length - 1 - i)
      (b := 16) (by decide)
    rw [sprintfX, if_neg h0, List.getElem?_map, List.getElem?_reverse h, ← hdigit,
      List.getD_eq_getElem?_getD, List.getElem?_eq_getElem (by omega)]
    rfl

/-- The digits are the right ones and right in number, for every number; but they
and the NUL are always one byte more than was allocated. -/
theorem hexBuffer_overflows (n : Nat) :
    ¬ HexBufferFits n ∧
      (intToHexString n).hex.length = (intToHexString n).size + 1 ∧
      (intToHexString n).size = hexDigitCount n ∧
      forall i, i < (intToHexString n).size ->
        (intToHexString n).hex[i]? =
          some (hexDigit (n / 16 ^ ((intToHexString n).size - 1 - i) % 16)) := by
  have hstored : (intToHexString n).hex.length = (intToHexString n).size + 1 := by
    rw [size_eq_hexDigitCount, ← sprintfX_length]
    exact List.length_append
  refine ⟨?_, hstored, size_eq_hexDigitCount n, ?_⟩
  · intro hfits
    have := hfits.allocated
    omega
  · intro i hi
    rw [size_eq_hexDigitCount] at hi ⊢
    have hlt : i < (sprintfX n).length := by
      rw [sprintfX_length]
      exact hi
    rw [← sprintfX_digit hi]
    exact List.getElem?_append_left hlt

/-- The number in the comment next to the call: its text takes two bytes, and
one is allocated. -/
theorem not_hexBufferFits_twelve : ¬ HexBufferFits 12 := by
  intro h
  have hallocated := h.allocated
  revert hallocated
  decide +kernel

end Receiver
end BoxTrials
