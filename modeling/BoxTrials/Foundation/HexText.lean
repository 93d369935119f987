import Mathlib.Data.Nat.Digits.Defs
import Mathlib.Data.Nat.Log
import Mathlib.Tactic.IntervalCases
import Mathlib.Tactic.NormNum
import BoxTrials.Foundation.MachineWords

/-!
# Hexadecimal text in C

The two library functions a program uses to write and read hexadecimal text:
`sprintf` with the conversion `%X`, and `strtoul` in base 16.  A string is the
list of its bytes up to the terminating NUL.
-/

namespace BoxTrials
namespace Foundation

/-!
# Writing

`%X` prints the digits most significant first, with capital letters and without
leading zeros; zero itself is printed as one digit.
-/

def hexDigit (d : Nat) : UInt8 :=
  if d < 10 then
    UInt8.ofNat (0x30 + d)
  else
    UInt8.ofNat (0x41 + (d - 10))

/-- The characters `sprintf` stores for `%X`, without the NUL. -/
def sprintfX (n : Nat) : List UInt8 :=
  if n = 0 then
    [hexDigit 0]
  else
    (Nat.digits 16 n).reverse.map hexDigit

/-!
# Reading

`strtoul` skips white space, takes a sign and an optional `0x`, and reads digits
up to the first character that is not one.
-/

/-- `isspace` in the C locale. -/
def isSpace (c : UInt8) : Bool :=
  c == 0x20 || (0x09 ≤ c && c ≤ 0x0D)

def hexValue? (c : UInt8) : Option Nat :=
  if 0x30 ≤ c ∧ c ≤ 0x39 then
    some (c.toNat - 0x30)
  else if 0x41 ≤ c ∧ c ≤ 0x46 then
    some (c.toNat - 0x41 + 10)
  else if 0x61 ≤ c ∧ c ≤ 0x66 then
    some (c.toNat - 0x61 + 10)
  else
    none

def readSign : List UInt8 -> Bool × List UInt8
  | [] => (false, [])
  | c :: rest =>
      if c = 0x2D then
        (true, rest)
      else if c = 0x2B then
        (false, rest)
      else
        (false, c :: rest)

def skipHexMark : List UInt8 -> List UInt8
  | c :: x :: rest =>
      if c = 0x30 ∧ (x = 0x78 ∨ x = 0x58) then
        rest
      else
        c :: x :: rest
  | str => str

def readHex : Nat -> List UInt8 -> Nat
  | acc, [] => acc
  | acc, c :: rest =>
      match hexValue? c with
      | some d => readHex (16 * acc + d) rest
      | none => acc

/-- `strtoul(str, 0, 16)`. A value that is too large gives `ULONG_MAX`; a minus
sign negates the value as an unsigned number. -/
def strtoul16 (str : List UInt8) : Nat :=
  let signed := readSign (str.dropWhile isSpace)
  let value := readHex 0 (skipHexMark signed.2)
  if wordModulus ≤ value then
    wordModulus - 1
  else if signed.1 then
    (wordModulus - value) % wordModulus
  else
    value

/-!
# Digits
-/

theorem hexValue?_hexDigit {d : Nat} (h : d < 16) :
    hexValue? (hexDigit d) = some d := by
  interval_cases d <;> rfl

theorem hexValue?_lt {c : UInt8} {d : Nat} (h : hexValue? c = some d) :
    d < 16 := by
  unfold hexValue? at h
  simp only [UInt8.le_iff_toNat_le] at h
  split at h
  · rename_i hc
    have hhi : c.toNat ≤ 0x39 := hc.right
    cases h
    omega
  · split at h
    · rename_i hc
      have hhi : c.toNat ≤ 0x46 := hc.right
      cases h
      omega
    · split at h
      · rename_i hc
        have hhi : c.toNat ≤ 0x66 := hc.right
        cases h
        omega
      · cases h

theorem readHex_lt (str : List UInt8) (acc : Nat) :
    readHex acc str < (acc + 1) * 16 ^ str.length := by
  induction str generalizing acc with
  | nil =>
      simp [readHex]
  | cons c rest ih =>
      have hpow : 16 ^ (c :: rest).length = 16 * 16 ^ rest.length := by
        rw [List.length_cons, pow_succ, Nat.mul_comm]
      rw [readHex, hpow]
      cases hc : hexValue? c with
      | none =>
          have hone : 1 ≤ 16 ^ rest.length := Nat.one_le_pow _ _ (by decide)
          show acc < (acc + 1) * (16 * 16 ^ rest.length)
          nlinarith
      | some d =>
          have hd := hexValue?_lt hc
          calc
            readHex (16 * acc + d) rest
                < (16 * acc + d + 1) * 16 ^ rest.length := ih (16 * acc + d)
            _ ≤ ((acc + 1) * 16) * 16 ^ rest.length :=
                Nat.mul_le_mul_right _ (by omega)
            _ = (acc + 1) * (16 * 16 ^ rest.length) := by
                rw [Nat.mul_assoc]

/-!
# Signs and marks only shorten a string
-/

theorem readSign_length (str : List UInt8) :
    (readSign str).2.length ≤ str.length := by
  cases str with
  | nil =>
      simp [readSign]
  | cons c rest =>
      rw [readSign]
      split
      · simp
      · split <;> simp

theorem readSign_length_of_minus {str : List UInt8}
    (h : (readSign str).1 = true) :
    (readSign str).2.length + 1 ≤ str.length := by
  cases str with
  | nil =>
      cases h
  | cons c rest =>
      rw [readSign] at h ⊢
      split
      · simp
      · rename_i hc
        rw [if_neg hc] at h
        split at h <;> cases h

theorem skipHexMark_length (str : List UInt8) :
    (skipHexMark str).length ≤ str.length := by
  rcases str with _ | ⟨c, _ | ⟨x, rest⟩⟩
  · simp [skipHexMark]
  · simp [skipHexMark]
  · rw [skipHexMark]
    split
    · simp only [List.length_cons]
      omega
    · exact Nat.le_refl _

theorem strtoul16_toInt32_bounds {str : List UInt8} {k : Nat}
    (hlen : str.length = k + 1) (hk : k ≤ 6) :
    -(16 ^ k : Int) < toInt32 (strtoul16 str) ∧
      toInt32 (strtoul16 str) < (16 ^ (k + 1) : Int) := by
  have hdrop : (str.dropWhile isSpace).length ≤ k + 1 := by
    rw [← hlen]
    exact (List.dropWhile_sublist isSpace).length_le
  have hvalue := readHex_lt
    (skipHexMark (readSign (str.dropWhile isSpace)).2) 0
  have hmark := skipHexMark_length (readSign (str.dropWhile isSpace)).2
  have hsign := readSign_length (str.dropWhile isSpace)
  have hminus := @readSign_length_of_minus (str.dropWhile isSpace)
  generalize hval :
    readHex 0 (skipHexMark (readSign (str.dropWhile isSpace)).2) = value
    at hvalue
  generalize hshort :
    (skipHexMark (readSign (str.dropWhile isSpace)).2).length = short
    at hvalue hmark
  have hpos : value < 16 ^ (k + 1) := by
    have hle : 16 ^ short ≤ 16 ^ (k + 1) :=
      Nat.pow_le_pow_right (by decide) (by omega)
    omega
  have hbig : 16 ^ (k + 1) ≤ 16 ^ 7 :=
    Nat.pow_le_pow_right (by decide) (by omega)
  have hbound : value < 268435456 := by
    have h7 : 16 ^ 7 = 268435456 := by norm_num
    omega
  have hnegative :
      (readSign (str.dropWhile isSpace)).1 = true -> value < 16 ^ k := by
    intro hs
    have hle : 16 ^ short ≤ 16 ^ k :=
      Nat.pow_le_pow_right (by decide) (by
        have := hminus hs
        omega)
    omega
  have hpowk : (0 : Int) < 16 ^ k := by positivity
  have hposInt : (value : Int) < (16 ^ (k + 1) : Int) := by exact_mod_cast hpos
  simp only [strtoul16, hval]
  rw [if_neg (by rw [wordModulus]; omega)]
  cases hs : (readSign (str.dropWhile isSpace)).1 with
  | false =>
      rw [if_neg (by simp), toInt32_of_small (by omega)]
      constructor
      · omega
      · exact hposInt
  | true =>
      have hnegInt : (value : Int) < (16 ^ k : Int) := by
        exact_mod_cast hnegative hs
      rw [if_pos rfl]
      have hread : toInt32 ((wordModulus - value) % wordModulus) = -(value : Int) := by
        unfold toInt32 wordModulus
        split <;> omega
      rw [hread]
      constructor
      · omega
      · have : (0 : Int) < 16 ^ (k + 1) := by positivity
        omega

/-!
# Strings of digits
-/

def IsHexDigit (c : UInt8) : Prop :=
  (hexValue? c).isSome = true

instance (c : UInt8) : Decidable (IsHexDigit c) :=
  inferInstanceAs (Decidable (_ = true))

def hexNumber (str : List UInt8) : Nat :=
  (str.filterMap hexValue?).foldl (fun n d => 16 * n + d) 0

theorem isHexDigit_plain {c : UInt8} (h : IsHexDigit c) :
    isSpace c = false ∧ c ≠ 0x2D ∧ c ≠ 0x2B ∧ c ≠ 0x78 ∧ c ≠ 0x58 := by
  have hspace : isSpace c = false := by
    cases hc : isSpace c with
    | false =>
        rfl
    | true =>
        exfalso
        revert h
        simp only [IsHexDigit, hexValue?, isSpace, UInt8.le_iff_toNat_le,
          Bool.or_eq_true, beq_iff_eq, Bool.and_eq_true, decide_eq_true_eq] at hc ⊢
        rcases hc with rfl | ⟨hlo, hhi⟩
        · decide
        · have hhi : c.toNat ≤ 0x0D := hhi
          have h1 : ¬ (48 ≤ c.toNat) := by omega
          have h2 : ¬ (65 ≤ c.toNat) := by omega
          have h3 : ¬ (97 ≤ c.toNat) := by omega
          simp [h1, h2, h3]
  refine ⟨hspace, ?_, ?_, ?_, ?_⟩
  all_goals
    intro heq
    rw [heq] at h
    revert h
    decide

theorem readHex_of_digits {str : List UInt8}
    (h : forall c, c ∈ str -> IsHexDigit c) (acc : Nat) :
    readHex acc str =
      (str.filterMap hexValue?).foldl (fun n d => 16 * n + d) acc := by
  induction str generalizing acc with
  | nil =>
      rfl
  | cons c rest ih =>
      have hc := h c (List.mem_cons_self ..)
      rcases Option.isSome_iff_exists.mp hc with ⟨d, hd⟩
      rw [readHex, List.filterMap_cons, hd]
      exact ih (fun e he => h e (List.mem_cons_of_mem c he)) (16 * acc + d)

theorem strtoul16_of_digits {str : List UInt8}
    (h : forall c, c ∈ str -> IsHexDigit c)
    (hsmall : hexNumber str < wordModulus) : strtoul16 str = hexNumber str := by
  have hspace : str.dropWhile isSpace = str := by
    cases str with
    | nil =>
        rfl
    | cons c rest =>
        have hc := isHexDigit_plain (h c (List.mem_cons_self ..))
        rw [List.dropWhile_cons_of_neg (by simp [hc.left])]
  have hsign : readSign str = (false, str) := by
    cases str with
    | nil =>
        rfl
    | cons c rest =>
        have hc := isHexDigit_plain (h c (List.mem_cons_self ..))
        rw [readSign, if_neg hc.right.left, if_neg hc.right.right.left]
  have hmark : skipHexMark str = str := by
    rcases str with _ | ⟨c, _ | ⟨x, rest⟩⟩
    · rfl
    · rfl
    · have hx := isHexDigit_plain
        (h x (List.mem_cons_of_mem c (List.mem_cons_self ..)))
      rw [skipHexMark, if_neg]
      intro hmem
      rcases hmem with ⟨_, heq | heq⟩
      · exact hx.right.right.right.left heq
      · exact hx.right.right.right.right heq
  have hread : readHex 0 str = hexNumber str := readHex_of_digits h 0
  simp only [strtoul16, hspace, hsign, hmark, hread]
  rw [if_neg (by omega), if_neg (by simp)]

theorem hexNumber_lt {str : List UInt8}
    (h : forall c, c ∈ str -> IsHexDigit c) : hexNumber str < 16 ^ str.length := by
  have hlt := readHex_lt str 0
  rw [readHex_of_digits h, Nat.zero_add, Nat.one_mul] at hlt
  exact hlt

theorem hexNumber_map_hexDigit {ds : List Nat}
    (h : forall d, d ∈ ds -> d < 16) :
    hexNumber (ds.map hexDigit) = ds.foldl (fun n d => 16 * n + d) 0 := by
  have hvalues : (ds.map hexDigit).filterMap hexValue? = ds := by
    induction ds with
    | nil =>
        rfl
    | cons d rest ih =>
        have hd := hexValue?_hexDigit (h d (List.mem_cons_self ..))
        rw [List.map_cons, List.filterMap_cons_some hd,
          ih fun e he => h e (List.mem_cons_of_mem d he)]
  rw [hexNumber, hvalues]

theorem strtoul16_map_hexDigit (ds : List Nat) (h : forall d, d ∈ ds -> d < 16)
    (hsmall : ds.foldl (fun n d => 16 * n + d) 0 < wordModulus) :
    strtoul16 (ds.map hexDigit) = ds.foldl (fun n d => 16 * n + d) 0 := by
  have hall : forall c, c ∈ ds.map hexDigit -> IsHexDigit c := by
    intro c hc
    rcases List.mem_map.mp hc with ⟨d, hd, rfl⟩
    rw [IsHexDigit, hexValue?_hexDigit (h d hd)]
    rfl
  rw [strtoul16_of_digits hall (by rw [hexNumber_map_hexDigit h]; exact hsmall),
    hexNumber_map_hexDigit h]

end Foundation
end BoxTrials
