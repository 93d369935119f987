import BoxTrials.Foundation.LastMatch
import BoxTrials.Libraries.BusIO

/-!
# Fields of a chip

A driver keeps the settings of its chip in fields of the registers.  A field is
written by reading its register first, so a lost transaction may leave the other
fields of the register with ones.
-/

namespace BoxTrials
namespace Libraries
namespace BusIO

open Foundation

structure Field where
  reg : Byte
  bits : Nat
  shift : Nat
  fits : shift + bits ≤ 8
  deriving DecidableEq

def Field.value (f : Field) (regs : Nat -> Byte) : Byte :=
  readField f.bits f.shift (regs f.reg.toNat)

def Field.ones (f : Field) : Byte :=
  lowMask 8 f.bits

def Field.Covers (g f : Field) : Prop :=
  g.reg = f.reg ∧ g.shift ≤ f.shift ∧ f.shift + f.bits ≤ g.shift + g.bits

def Field.Apart (g f : Field) : Prop :=
  g.reg ≠ f.reg ∨ g.shift + g.bits ≤ f.shift ∨ f.shift + f.bits ≤ g.shift

instance (g f : Field) : Decidable (g.Covers f) :=
  inferInstanceAs (Decidable (_ ∧ _))

instance (g f : Field) : Decidable (g.Apart f) :=
  inferInstanceAs (Decidable (_ ∨ _))

/-- A chip that keeps what is written to it, but for the writes that reset all
of its registers and the registers that can only be read. -/
structure Memory where
  defaults : Nat -> Byte
  resets : Nat -> Byte -> Bool
  readOnly : Nat -> Bool

def Memory.store (m : Memory) (reg : Nat) (value : Byte) (regs : Nat -> Byte) :
    Nat -> Byte :=
  if m.resets reg value then
    m.defaults
  else if m.readOnly reg then
    regs
  else
    Function.update regs reg value

/-!
# Writes of fields
-/

/-- A write of a field, or of a whole register without reading it. -/
structure FieldWrite where
  field : Field
  data : BitVec 32
  whole : Bool := false
  whole_bits : whole = true -> field.bits = 8 := by decide

def FieldWrite.perform (wiring : Wiring) (i2cdevice : Option Byte)
    (w : FieldWrite) (bus : Bus) : Bool × Bus :=
  let register : Register :=
    { i2cdevice := i2cdevice, address := w.field.reg.setWidth 16 }
  if w.whole then
    register.write wiring w.data 0 bus
  else
    let slice : RegisterBits :=
      { register := register, bits := w.field.bits, shift := w.field.shift }
    slice.write wiring w.data bus

structure FieldEntry where
  write : FieldWrite
  /-- The bits outside of the field were read. -/
  known : Bool
  /-- The byte that the chip received. -/
  stored : Option Byte

def FieldWrite.lastTransaction (wiring : Wiring) (addr : Byte) (w : FieldWrite)
    (n : Nat) : Nat :=
  if w.whole then n else wiring.afterRead addr n

def FieldWrite.entry (wiring : Wiring) (addr : Byte) (w : FieldWrite) (bus : Bus) :
    FieldEntry :=
  let n := bus.transactions
  let known := w.whole || wiring.reads addr n
  let old :=
    if known then (bus.regs addr w.field.reg.toNat).setWidth 32
    else BitVec.allOnes 32
  { write := w
    known := known
    stored :=
      if wiring.acks addr (w.lastTransaction wiring addr n) then
        some ((writeField w.field.bits w.field.shift w.data old).setWidth 8)
      else
        none }

def performAll (wiring : Wiring) (addr : Byte) :
    List FieldWrite -> Bus -> List FieldEntry × Bus
  | [], bus => ([], bus)
  | w :: rest, bus =>
      let (entries, later) :=
        performAll wiring addr rest (w.perform wiring (some addr) bus).2
      (w.entry wiring addr bus :: entries, later)

def Field.effect (m : Memory) (f : Field) (e : FieldEntry) : Option Byte :=
  match e.stored with
  | none => none
  | some byte =>
      if m.resets e.write.field.reg.toNat byte then
        some (f.value m.defaults)
      else if m.readOnly e.write.field.reg.toNat then
        none
      else if e.write.field.Covers f then
        some (readField f.bits (f.shift - e.write.field.shift)
          (e.write.data.setWidth 8))
      else if e.write.field.reg = f.reg ∧ e.known = false then
        some f.ones
      else
        none

/-!
# A write
-/

theorem FieldWrite.whole_shift {w : FieldWrite} (h : w.whole = true) :
    w.field.shift = 0 := by
  have hbits := w.whole_bits h
  have hfits := w.field.fits
  omega

theorem writeField_whole (data old : BitVec 32) :
    (writeField 8 0 data old).setWidth 8 = data.setWidth 8 := by
  apply BitVec.eq_of_getLsbD_eq
  intro i hi
  have hin : 0 ≤ i ∧ i < 0 + 8 := by omega
  rw [BitVec.getLsbD_setWidth, BitVec.getLsbD_setWidth,
    getLsbD_writeField data old (by omega), if_pos hin, Nat.sub_zero]

theorem perform_spec (wiring : Wiring) (addr : Byte) (w : FieldWrite) (bus : Bus) :
    exists bus', w.perform wiring (some addr) bus =
        ((w.entry wiring addr bus).stored.isSome, bus') ∧
      bus'.transactions = w.lastTransaction wiring addr bus.transactions + 1 ∧
      forall addr', bus'.regs addr' =
        match (w.entry wiring addr bus).stored with
        | some byte =>
            if addr' = addr then
              wiring.store addr w.field.reg.toNat byte (bus.regs addr)
            else
              bus.regs addr'
        | none => bus.regs addr' := by
  cases hwhole : w.whole with
  | false =>
      have hperform : w.perform wiring (some addr) bus =
          (byteRegisterBits addr w.field.reg w.field.bits w.field.shift).write
            wiring w.data bus := by
        simp only [FieldWrite.perform, hwhole, Bool.false_eq_true, if_false]
        rfl
      rcases writeBits_byteRegister wiring addr w.field.reg w.field.bits
        w.field.shift w.data bus with ⟨bus', hwrite, hcount, hregs⟩
      have hlast : w.lastTransaction wiring addr bus.transactions =
          wiring.afterRead addr bus.transactions := by
        rw [FieldWrite.lastTransaction, hwhole, if_neg Bool.false_ne_true]
      refine ⟨bus', ?_, by rw [hlast, hcount], ?_⟩
      · rw [hperform, hwrite]
        simp only [FieldWrite.entry, hlast]
        cases wiring.acks addr (wiring.afterRead addr bus.transactions) <;> rfl
      · intro addr'
        rw [hregs addr']
        simp only [FieldWrite.entry, hlast, hwhole, Bool.false_or]
        cases wiring.acks addr (wiring.afterRead addr bus.transactions) <;> simp
  | true =>
      have hperform : w.perform wiring (some addr) bus =
          (byteRegister addr w.field.reg).write wiring w.data 1 bus := by
        simp only [FieldWrite.perform, hwhole, if_true]
        rfl
      rcases write_byteRegister wiring addr w.field.reg w.data bus with
        ⟨bus', hwrite, hcount, hregs⟩
      have hlast : w.lastTransaction wiring addr bus.transactions =
          bus.transactions := by
        rw [FieldWrite.lastTransaction, hwhole, if_pos rfl]
      refine ⟨bus', ?_, by rw [hlast, hcount], ?_⟩
      · rw [hperform, hwrite]
        simp only [FieldWrite.entry, hlast]
        cases wiring.acks addr bus.transactions <;> rfl
      · intro addr'
        rw [hregs addr']
        simp only [FieldWrite.entry, hlast, w.whole_bits hwhole,
          FieldWrite.whole_shift hwhole, writeField_whole]
        cases wiring.acks addr bus.transactions <;> simp

theorem getLsbD_stored {wiring : Wiring} {addr : Byte} {w : FieldWrite} {bus : Bus}
    {byte : Byte} (h : (w.entry wiring addr bus).stored = some byte) {i : Nat}
    (hi : i < 8) :
    byte.getLsbD i =
      if w.field.shift ≤ i ∧ i < w.field.shift + w.field.bits then
        w.data.getLsbD (i - w.field.shift)
      else
        !(w.entry wiring addr bus).known ||
          (bus.regs addr w.field.reg.toNat).getLsbD i := by
  simp only [FieldWrite.entry, Option.ite_none_right_eq_some,
    Option.some.injEq] at h ⊢
  rw [← h.right, BitVec.getLsbD_setWidth, decide_eq_true hi, Bool.true_and,
    getLsbD_writeField _ _ (by omega)]
  split
  · rfl
  · have hword : i < 32 := by omega
    cases w.whole || wiring.reads addr bus.transactions with
    | false =>
        rw [if_neg Bool.false_ne_true, BitVec.getLsbD_allOnes, decide_eq_true hword]
        rfl
    | true =>
        rw [if_pos rfl, BitVec.getLsbD_setWidth, decide_eq_true hword]
        rfl

theorem stored_covered {wiring : Wiring} {addr : Byte} {w : FieldWrite} {bus : Bus}
    {byte : Byte} (hstored : (w.entry wiring addr bus).stored = some byte)
    {f : Field} (hcovers : w.field.Covers f) :
    readField f.bits f.shift byte =
      readField f.bits (f.shift - w.field.shift) (w.data.setWidth 8) := by
  have hfits := f.fits
  rcases hcovers with ⟨_, hlo, hhi⟩
  apply BitVec.eq_of_getLsbD_eq
  intro i _
  rw [getLsbD_readField, getLsbD_readField, BitVec.getLsbD_setWidth]
  by_cases hbit : i < f.bits
  · have hin : w.field.shift ≤ f.shift + i ∧
        f.shift + i < w.field.shift + w.field.bits := by omega
    have hsub : f.shift + i - w.field.shift = f.shift - w.field.shift + i := by
      omega
    have hbyte : f.shift - w.field.shift + i < 8 := by omega
    rw [getLsbD_stored hstored (by omega), if_pos hin, hsub,
      decide_eq_true hbyte, Bool.true_and]
  · rw [decide_eq_false hbit, Bool.false_and, Bool.false_and]

theorem stored_beside {wiring : Wiring} {addr : Byte} {w : FieldWrite} {bus : Bus}
    {byte : Byte} (hstored : (w.entry wiring addr bus).stored = some byte)
    {f : Field} (hreg : w.field.reg = f.reg) (hapart : w.field.Apart f) :
    readField f.bits f.shift byte =
      if (w.entry wiring addr bus).known then f.value (bus.regs addr) else f.ones := by
  have hfits := f.fits
  have hout := hapart.resolve_left (not_not.mpr hreg)
  have hbits : forall i, i < f.bits -> byte.getLsbD (f.shift + i) =
      (!(w.entry wiring addr bus).known ||
        (bus.regs addr f.reg.toNat).getLsbD (f.shift + i)) := by
    intro i hi
    rw [getLsbD_stored hstored (by omega), if_neg (by omega), hreg]
  apply BitVec.eq_of_getLsbD_eq
  intro i hi
  rw [getLsbD_readField]
  cases hknown : (w.entry wiring addr bus).known with
  | false =>
      rw [if_neg Bool.false_ne_true, Field.ones, getLsbD_lowMask]
      by_cases hbit : i < f.bits
      · rw [hbits i hbit, hknown]
        simp [hbit, hi]
      · simp [hbit]
  | true =>
      rw [if_pos rfl, Field.value, getLsbD_readField]
      by_cases hbit : i < f.bits
      · rw [hbits i hbit, hknown]
        simp
      · simp [hbit]

theorem value_perform {wiring : Wiring} {addr : Byte} {m : Memory}
    (hstore : wiring.store addr = m.store) {f : Field} {w : FieldWrite}
    (haligned : w.field.Covers f ∨ w.field.Apart f) (bus : Bus) :
    f.value ((w.perform wiring (some addr) bus).2.regs addr) =
      (f.effect m (w.entry wiring addr bus)).getD (f.value (bus.regs addr)) := by
  rcases perform_spec wiring addr w bus with ⟨bus', hperform, _, hregs⟩
  have hregs := hregs addr
  rw [hperform, Field.effect]
  cases hstored : (w.entry wiring addr bus).stored with
  | none =>
      rw [hstored] at hregs
      rw [hregs]
      rfl
  | some byte =>
      rw [hstored] at hregs
      simp only [if_true, hstore, Memory.store] at hregs
      rw [hregs]
      have hwrite : (w.entry wiring addr bus).write = w := rfl
      have hsame (hreg : w.field.reg = f.reg) :
          f.value (Function.update (bus.regs addr) w.field.reg.toNat byte) =
            readField f.bits f.shift byte := by
        rw [Field.value, hreg, Function.update_self]
      simp only [hwrite]
      -- A reset and a register that can only be read do not depend on the byte.
      split
      · rfl
      split
      · rfl
      by_cases hcovers : w.field.Covers f
      · rw [if_pos hcovers, Option.getD_some, hsame hcovers.left,
          stored_covered hstored hcovers]
      · rw [if_neg hcovers]
        by_cases hreg : w.field.reg = f.reg
        · rw [hsame hreg,
            stored_beside hstored hreg (haligned.resolve_left hcovers)]
          cases (w.entry wiring addr bus).known with
          | false =>
              rw [if_neg Bool.false_ne_true, if_pos ⟨hreg, rfl⟩, Option.getD_some]
          | true =>
              rw [if_pos rfl, if_neg fun hall => absurd hall.right (by decide),
                Option.getD_none]
        · have hne : f.reg.toNat ≠ w.field.reg.toNat :=
            fun heq => hreg (BitVec.eq_of_toNat_eq heq.symm)
          rw [if_neg fun hall => hreg hall.left, Option.getD_none, Field.value,
            Field.value, Function.update_of_ne hne]

/-!
# Reads
-/

theorem Field.readField_setWidth (f : Field) (byte : Byte) :
    readField f.bits f.shift (byte.setWidth 32) =
      (readField f.bits f.shift byte).setWidth 32 := by
  have hfits := f.fits
  apply BitVec.eq_of_getLsbD_eq
  intro i hi
  rw [getLsbD_readField, BitVec.getLsbD_setWidth, BitVec.getLsbD_setWidth,
    getLsbD_readField, decide_eq_true hi, Bool.true_and]
  by_cases hbit : i < f.bits
  · have hword : f.shift + i < 32 := by omega
    rw [decide_eq_true hword, Bool.true_and]
  · rw [decide_eq_false hbit, Bool.false_and, Bool.false_and]

theorem Field.readField_allOnes (f : Field) :
    readField f.bits f.shift (BitVec.allOnes 32) = f.ones.setWidth 32 := by
  have hfits := f.fits
  apply BitVec.eq_of_getLsbD_eq
  intro i hi
  rw [getLsbD_readField, BitVec.getLsbD_allOnes, BitVec.getLsbD_setWidth,
    Field.ones, getLsbD_lowMask, decide_eq_true hi, Bool.true_and,
    ← Bool.decide_and]
  apply decide_eq_decide.mpr
  omega

theorem read_field (wiring : Wiring) (addr : Byte) (f : Field) (bus : Bus) :
    exists bus', (byteRegisterBits addr f.reg f.bits f.shift).read wiring bus =
        ((if wiring.reads addr bus.transactions then
          f.value (bus.regs addr)
        else
          f.ones).setWidth 32, bus') ∧
      bus'.transactions = wiring.afterRead addr bus.transactions ∧
      forall addr', bus'.regs addr' = bus.regs addr' := by
  rcases read_byteRegister wiring addr f.reg bus with ⟨bus', hread, hrest⟩
  refine ⟨bus', ?_, hrest⟩
  simp only [RegisterBits.read, byteRegisterBits, hread]
  cases wiring.reads addr bus.transactions with
  | false =>
      rw [if_neg Bool.false_ne_true, if_neg Bool.false_ne_true,
        f.readField_allOnes]
  | true =>
      rw [if_pos rfl, if_pos rfl, f.readField_setWidth]
      rfl

/-!
# Runs of writes
-/

/-- After a run of writes a field has the value that the last write with an
effect on it has left. -/
theorem value_performAll {wiring : Wiring} {addr : Byte} {m : Memory}
    (hstore : wiring.store addr = m.store) {f : Field} (writes : List FieldWrite)
    (haligned : forall w, w ∈ writes -> w.field.Covers f ∨ w.field.Apart f)
    (bus : Bus) :
    f.value ((performAll wiring addr writes bus).2.regs addr) =
      (lastValue (f.effect m) (performAll wiring addr writes bus).1).getD
        (f.value (bus.regs addr)) := by
  induction writes generalizing bus with
  | nil =>
      rfl
  | cons w rest ih =>
      have hrest := ih fun w' hw' => haligned w' (List.mem_cons_of_mem w hw')
      rw [performAll]
      simp only
      rw [hrest, value_perform hstore (haligned w (List.mem_cons_self ..)),
        lastValue_cons]
      cases lastValue (f.effect m) (performAll wiring addr rest _).1 <;> rfl

end BusIO
end Libraries
end BoxTrials
