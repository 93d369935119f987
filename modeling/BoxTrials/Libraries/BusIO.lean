import Mathlib.Logic.Function.Basic
import BoxTrials.Foundation.BitFields

/-!
# The Adafruit BusIO library

A driver reaches the registers of its chip over the I2C bus.  A register is read
by a transmission of its address and a request, and written by a transmission of
its address and its bytes.  Any of these transactions may fail; a read that
failed yields ones.
-/

namespace BoxTrials
namespace Libraries
namespace BusIO

open Foundation

abbrev Byte := BitVec 8

/-!
# The bus

What is on the other side of `Wire`: chips whose registers have one byte each.
-/

structure Chip where
  regs : Nat -> Byte
  pointer : Nat

structure Wiring where
  /-- Whether the `n`-th transaction gets through, if it is with the chip at the
  given address. -/
  acks : Byte -> Nat -> Bool
  /-- What a byte that is written to a register does to the registers of the
  chip at the given address. -/
  store : Byte -> Nat -> Byte -> (Nat -> Byte) -> Nat -> Byte

structure Bus where
  chip : Byte -> Chip
  transactions : Nat

def Bus.regs (bus : Bus) (addr : Byte) : Nat -> Byte :=
  (bus.chip addr).regs

def storeBytes (store : Nat -> Byte -> (Nat -> Byte) -> Nat -> Byte) :
    Nat -> List Byte -> (Nat -> Byte) -> Nat -> Byte
  | _, [], regs => regs
  | reg, value :: rest, regs => storeBytes store (reg + 1) rest (store reg value regs)

def Chip.receive (store : Nat -> Byte -> (Nat -> Byte) -> Nat -> Byte) (c : Chip) :
    List Byte -> Chip
  | [] => c
  | reg :: bytes =>
      { regs := storeBytes store reg.toNat bytes c.regs
        pointer := reg.toNat + bytes.length }

/-- `beginTransmission`, `write` and `endTransmission`: whether the status is
zero. -/
def transmit (wiring : Wiring) (addr : Byte) (bytes : List Byte) (bus : Bus) :
    Bool × Bus :=
  if wiring.acks addr bus.transactions then
    (true,
      { chip := Function.update bus.chip addr
          ((bus.chip addr).receive (wiring.store addr) bytes)
        transactions := bus.transactions + 1 })
  else
    (false, { bus with transactions := bus.transactions + 1 })

/-- `requestFrom` and the reads of what it received. -/
def requestFrom (wiring : Wiring) (addr : Byte) (len : Nat) (bus : Bus) :
    List Byte × Bus :=
  let c := bus.chip addr
  if wiring.acks addr bus.transactions then
    ((List.range len).map fun i => c.regs (c.pointer + i),
      { chip := Function.update bus.chip addr { c with pointer := c.pointer + len }
        transactions := bus.transactions + 1 })
  else
    ([], { bus with transactions := bus.transactions + 1 })

/-!
# Adafruit_I2CDevice
-/

/-- The buffer size of the ESP8266. -/
def maxBufferSize : Nat := 32

/-- `Adafruit_I2CDevice::begin`, which looks for the chip. -/
def I2CDevice.begin (wiring : Wiring) (addr : Byte) (bus : Bus) : Bool × Bus :=
  transmit wiring addr [] bus

def I2CDevice.write (wiring : Wiring) (addr : Byte)
    (buffer prefixBuffer : List Byte) (bus : Bus) : Bool × Bus :=
  if buffer.length + prefixBuffer.length > maxBufferSize then
    (false, bus)
  else
    transmit wiring addr (prefixBuffer ++ buffer) bus

/-- `Adafruit_I2CDevice::read`, in pieces that fit into the buffer. -/
def I2CDevice.read (wiring : Wiring) (addr : Byte) (len : Nat) (bus : Bus) :
    Option (List Byte) × Bus :=
  if len = 0 then
    (some [], bus)
  else
    let readLen := if len > maxBufferSize then maxBufferSize else len
    let (piece, bus) := requestFrom wiring addr readLen bus
    if piece.length ≠ readLen then
      (none, bus)
    else
      let (rest, bus) := I2CDevice.read wiring addr (len - readLen) bus
      (rest.map (piece ++ ·), bus)
  termination_by len
  decreasing_by
    rw [maxBufferSize]
    split <;> omega

def I2CDevice.writeThenRead (wiring : Wiring) (addr : Byte)
    (writeBuffer : List Byte) (readLen : Nat) (bus : Bus) :
    Option (List Byte) × Bus :=
  let (written, bus) := I2CDevice.write wiring addr writeBuffer [] bus
  if written then
    I2CDevice.read wiring addr readLen bus
  else
    (none, bus)

/-!
# Adafruit_BusIO_Register
-/

inductive ByteOrder where
  | LSBFIRST
  | MSBFIRST
  deriving DecidableEq, Repr

/-- A register of a chip; without a device there is no chip to reach. -/
structure Register where
  i2cdevice : Option Byte
  address : BitVec 16
  width : Nat := 1
  byteorder : ByteOrder := .LSBFIRST
  addrwidth : Nat := 1

def Register.addrbuffer (r : Register) : List Byte :=
  [r.address.setWidth 8, (r.address >>> 8).setWidth 8].take r.addrwidth

def Register.writeBuffer (wiring : Wiring) (r : Register) (buffer : List Byte)
    (bus : Bus) : Bool × Bus :=
  match r.i2cdevice with
  | none => (false, bus)
  | some addr => I2CDevice.write wiring addr buffer r.addrbuffer bus

def valueBytes : Nat -> BitVec 32 -> List Byte
  | 0, _ => []
  | n + 1, value => value.setWidth 8 :: valueBytes n (value >>> 8)

def Register.write (wiring : Wiring) (r : Register) (value : BitVec 32)
    (numbytes : Nat) (bus : Bus) : Bool × Bus :=
  let numbytes := if numbytes = 0 then r.width else numbytes
  if numbytes > 4 then
    (false, bus)
  else
    let bytes := valueBytes numbytes value
    match r.byteorder with
    | .LSBFIRST => r.writeBuffer wiring bytes bus
    | .MSBFIRST => r.writeBuffer wiring bytes.reverse bus

def Register.readBuffer (wiring : Wiring) (r : Register) (len : Nat) (bus : Bus) :
    Option (List Byte) × Bus :=
  match r.i2cdevice with
  | none => (none, bus)
  | some addr => I2CDevice.writeThenRead wiring addr r.addrbuffer len bus

def bytesValue : List Byte -> BitVec 32
  | [] => 0#32
  | b :: rest => (bytesValue rest <<< 8) ||| b.setWidth 32

/-- `read` of a value; all its bits are set if that fails. -/
def Register.read (wiring : Wiring) (r : Register) (bus : Bus) :
    BitVec 32 × Bus :=
  match r.readBuffer wiring r.width bus with
  | (none, bus) => (BitVec.allOnes 32, bus)
  | (some bytes, bus) =>
      match r.byteorder with
      | .LSBFIRST => (bytesValue bytes, bus)
      | .MSBFIRST => (bytesValue bytes.reverse, bus)

/-!
# Adafruit_BusIO_RegisterBits
-/

structure RegisterBits where
  register : Register
  bits : Nat
  shift : Nat

def RegisterBits.read (wiring : Wiring) (r : RegisterBits) (bus : Bus) :
    BitVec 32 × Bus :=
  let (val, bus) := r.register.read wiring bus
  (readField r.bits r.shift val, bus)

/-- The rest of the register is written back as it was read. -/
def RegisterBits.write (wiring : Wiring) (r : RegisterBits) (data : BitVec 32)
    (bus : Bus) : Bool × Bus :=
  let (val, bus) := r.register.read wiring bus
  r.register.write wiring (writeField r.bits r.shift data val) r.register.width bus

/-!
# Registers of one byte

What a read and a write come to, depending on which of their transactions get
through.  Neither touches the registers of another chip.
-/

def byteRegister (addr reg : Byte) : Register :=
  { i2cdevice := some addr, address := reg.setWidth 16 }

def byteRegisterBits (addr reg : Byte) (bits shift : Nat) : RegisterBits :=
  { register := byteRegister addr reg, bits := bits, shift := shift }

def Wiring.reads (wiring : Wiring) (addr : Byte) (n : Nat) : Bool :=
  wiring.acks addr n && wiring.acks addr (n + 1)

def Wiring.afterRead (wiring : Wiring) (addr : Byte) (n : Nat) : Nat :=
  if wiring.acks addr n then n + 2 else n + 1

theorem addrbuffer_byteRegister (addr reg : Byte) :
    (byteRegister addr reg).addrbuffer = [reg] := by
  simp [byteRegister, Register.addrbuffer]

theorem transmit_regs (wiring : Wiring) (addr addr' : Byte) (bytes : List Byte)
    (bus : Bus) :
    (transmit wiring addr bytes bus).2.regs addr' =
      if addr' = addr ∧ wiring.acks addr bus.transactions = true then
        ((bus.chip addr).receive (wiring.store addr) bytes).regs
      else
        bus.regs addr' := by
  unfold transmit
  by_cases hack : wiring.acks addr bus.transactions = true
  · by_cases haddr : addr' = addr
    · subst haddr
      simp [hack, Bus.regs]
    · simp [hack, haddr, Bus.regs]
  · simp [hack, Bus.regs]

theorem transmit_fst (wiring : Wiring) (addr : Byte) (bytes : List Byte)
    (bus : Bus) :
    (transmit wiring addr bytes bus).1 = wiring.acks addr bus.transactions ∧
      (transmit wiring addr bytes bus).2.transactions = bus.transactions + 1 := by
  unfold transmit
  split
  · rename_i hack
    exact ⟨hack.symm, rfl⟩
  · rename_i hack
    exact ⟨(eq_false_of_ne_true hack).symm, rfl⟩

theorem transmit_select {wiring : Wiring} {addr : Byte} {bus : Bus}
    (hack : wiring.acks addr bus.transactions = true) (reg : Byte) :
    ((transmit wiring addr [reg] bus).2.chip addr).pointer = reg.toNat := by
  simp [transmit, hack, Chip.receive]

theorem transmit_select_regs (wiring : Wiring) (addr addr' reg : Byte)
    (bus : Bus) :
    (transmit wiring addr [reg] bus).2.regs addr' = bus.regs addr' := by
  rw [transmit_regs]
  split
  · rename_i h
    rw [h.left]
    rfl
  · rfl

theorem begin_spec (wiring : Wiring) (addr : Byte) (bus : Bus) :
    exists bus',
      I2CDevice.begin wiring addr bus = (wiring.acks addr bus.transactions, bus') ∧
      bus'.transactions = bus.transactions + 1 ∧
      forall addr', bus'.regs addr' = bus.regs addr' := by
  rcases transmit_fst wiring addr [] bus with ⟨hfst, hcount⟩
  refine ⟨(transmit wiring addr [] bus).2, Prod.ext hfst rfl, hcount, ?_⟩
  intro addr'
  rw [transmit_regs]
  split
  · rename_i h
    rw [h.left]
    rfl
  · rfl

theorem requestFrom_regs (wiring : Wiring) (addr addr' : Byte) (len : Nat)
    (bus : Bus) :
    (requestFrom wiring addr len bus).2.regs addr' = bus.regs addr' := by
  simp only [requestFrom]
  split
  · by_cases haddr : addr' = addr
    · subst haddr
      simp [Bus.regs]
    · simp [haddr, Bus.regs]
  · rfl

theorem requestFrom_transactions (wiring : Wiring) (addr : Byte) (len : Nat)
    (bus : Bus) :
    (requestFrom wiring addr len bus).2.transactions = bus.transactions + 1 := by
  simp only [requestFrom]
  split <;> rfl

theorem requestFrom_fst (wiring : Wiring) (addr : Byte) (len : Nat) (bus : Bus) :
    (requestFrom wiring addr len bus).1 =
      if wiring.acks addr bus.transactions then
        (List.range len).map fun i =>
          bus.regs addr ((bus.chip addr).pointer + i)
      else
        [] := by
  simp only [requestFrom]
  split <;> rfl

theorem read_piece (wiring : Wiring) (addr : Byte) {len : Nat} (hpos : 0 < len)
    (hle : len ≤ maxBufferSize) (bus : Bus) :
    I2CDevice.read wiring addr len bus =
      (if wiring.acks addr bus.transactions then
        some (requestFrom wiring addr len bus).1
      else
        none, (requestFrom wiring addr len bus).2) := by
  have hlen : ¬ len > maxBufferSize := Nat.not_lt.mpr hle
  have hfst := requestFrom_fst wiring addr len bus
  rw [I2CDevice.read, if_neg (Nat.ne_of_gt hpos)]
  simp only [if_neg hlen, Nat.sub_self]
  by_cases hack : wiring.acks addr bus.transactions = true
  · rw [if_pos hack] at hfst ⊢
    have hlength : (requestFrom wiring addr len bus).1.length = len := by
      rw [hfst, List.length_map, List.length_range]
    rw [if_neg (not_not.mpr hlength), I2CDevice.read, if_pos rfl]
    simp
  · rw [if_neg hack] at hfst ⊢
    have hlength : (requestFrom wiring addr len bus).1.length ≠ len := by
      rw [hfst]
      exact Nat.ne_of_lt hpos
    rw [if_pos hlength]

theorem writeThenRead_select (wiring : Wiring) (addr reg : Byte) {len : Nat}
    (hpos : 0 < len) (hle : len ≤ maxBufferSize) (bus : Bus) :
    exists bus', I2CDevice.writeThenRead wiring addr [reg] len bus =
        (if wiring.reads addr bus.transactions then
          some ((List.range len).map fun i => bus.regs addr (reg.toNat + i))
        else
          none, bus') ∧
      bus'.transactions = wiring.afterRead addr bus.transactions ∧
      forall addr', bus'.regs addr' = bus.regs addr' := by
  have hwrite : I2CDevice.write wiring addr [reg] [] bus =
      transmit wiring addr [reg] bus := rfl
  rcases transmit_fst wiring addr [reg] bus with ⟨hfst, hcount⟩
  simp only [I2CDevice.writeThenRead, hwrite, hfst]
  by_cases hack : wiring.acks addr bus.transactions = true
  · rw [if_pos hack, read_piece wiring addr hpos hle, hcount, requestFrom_fst, hcount]
    refine ⟨_, Prod.ext ?_ rfl, ?_, ?_⟩
    · simp only [Wiring.reads, hack, Bool.true_and, transmit_select hack,
        transmit_select_regs]
      split <;> rfl
    · rw [requestFrom_transactions, hcount, Wiring.afterRead, if_pos hack]
    · intro addr'
      rw [requestFrom_regs, transmit_select_regs]
  · rw [if_neg hack]
    refine ⟨_, Prod.ext ?_ rfl, ?_,
      fun addr' => transmit_select_regs wiring addr addr' reg bus⟩
    · simp [Wiring.reads, hack]
    · rw [hcount, Wiring.afterRead, if_neg hack]

theorem read_byteRegister (wiring : Wiring) (addr reg : Byte) (bus : Bus) :
    exists bus', (byteRegister addr reg).read wiring bus =
        (if wiring.reads addr bus.transactions then
          (bus.regs addr reg.toNat).setWidth 32
        else
          BitVec.allOnes 32, bus') ∧
      bus'.transactions = wiring.afterRead addr bus.transactions ∧
      forall addr', bus'.regs addr' = bus.regs addr' := by
  rcases @writeThenRead_select wiring addr reg 1 (by decide) (by decide) bus with
    ⟨bus', hread, hrest⟩
  refine ⟨bus', ?_, hrest⟩
  have hbuffer : (byteRegister addr reg).readBuffer wiring
      (byteRegister addr reg).width bus =
        I2CDevice.writeThenRead wiring addr [reg] 1 bus := by
    simp only [byteRegister, Register.readBuffer]
    rw [← addrbuffer_byteRegister addr reg]
    rfl
  rw [Register.read, hbuffer, hread]
  cases wiring.reads addr bus.transactions with
  | false => rfl
  | true => simp [byteRegister, bytesValue]

theorem write_byteRegister (wiring : Wiring) (addr reg : Byte)
    (value : BitVec 32) (bus : Bus) :
    exists bus', (byteRegister addr reg).write wiring value 1 bus =
        (wiring.acks addr bus.transactions, bus') ∧
      bus'.transactions = bus.transactions + 1 ∧
      forall addr', bus'.regs addr' =
        if addr' = addr ∧ wiring.acks addr bus.transactions = true then
          wiring.store addr reg.toNat (value.setWidth 8) (bus.regs addr)
        else
          bus.regs addr' := by
  have hwrite : (byteRegister addr reg).write wiring value 1 bus =
      transmit wiring addr [reg, value.setWidth 8] bus := by
    have hbuffer := addrbuffer_byteRegister addr reg
    simp only [Register.write, Register.writeBuffer, byteRegister] at hbuffer ⊢
    rw [hbuffer]
    rfl
  rcases transmit_fst wiring addr [reg, value.setWidth 8] bus with ⟨hfst, hcount⟩
  refine ⟨(transmit wiring addr [reg, value.setWidth 8] bus).2,
    hwrite.trans (Prod.ext hfst rfl), hcount, ?_⟩
  intro addr'
  rw [transmit_regs]
  rfl

/-- A write of a slice: what could not be read is written back as ones. -/
theorem writeBits_byteRegister (wiring : Wiring) (addr reg : Byte)
    (bits shift : Nat) (data : BitVec 32) (bus : Bus) :
    exists bus', (byteRegisterBits addr reg bits shift).write wiring data bus =
        (wiring.acks addr (wiring.afterRead addr bus.transactions), bus') ∧
      bus'.transactions = wiring.afterRead addr bus.transactions + 1 ∧
      forall addr', bus'.regs addr' =
        if addr' = addr ∧
            wiring.acks addr (wiring.afterRead addr bus.transactions) = true then
          wiring.store addr reg.toNat
            ((writeField bits shift data
              (if wiring.reads addr bus.transactions then
                (bus.regs addr reg.toNat).setWidth 32
              else
                BitVec.allOnes 32)).setWidth 8)
            (bus.regs addr)
        else
          bus.regs addr' := by
  rcases read_byteRegister wiring addr reg bus with
    ⟨bus₁, hread, hcount₁, hregs₁⟩
  generalize hval : (if wiring.reads addr bus.transactions then
    (bus.regs addr reg.toNat).setWidth 32 else BitVec.allOnes 32) = val at hread ⊢
  rcases write_byteRegister wiring addr reg (writeField bits shift data val) bus₁ with
    ⟨bus₂, hwrite, hcount₂, hregs₂⟩
  rw [hcount₁] at hwrite hcount₂
  refine ⟨bus₂, ?_, hcount₂, ?_⟩
  · simp only [RegisterBits.write, byteRegisterBits, hread]
    exact hwrite
  · intro addr'
    rw [hregs₂ addr', hcount₁, hregs₁, hregs₁]

end BusIO
end Libraries
end BoxTrials
