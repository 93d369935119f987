import BoxTrials.Libraries.BusIO

/-!
# The Adafruit AW9523 library

The driver of a port expander with sixteen pins.  A pin is one bit in each of
several pairs of registers, and is written by reading the whole register first.
-/

namespace BoxTrials
namespace Libraries

open Foundation
open BusIO

structure AW9523 where
  i2cDev : Option Byte
  deriving DecidableEq, Repr

namespace AW9523

/-!
# The chip
-/

abbrev AW9523_REG_CHIPID : Nat := 0x10
abbrev AW9523_REG_SOFTRESET : Nat := 0x7F
abbrev AW9523_REG_INPUT0 : Nat := 0x00
abbrev AW9523_REG_OUTPUT0 : Nat := 0x02
abbrev AW9523_REG_CONFIG0 : Nat := 0x04
abbrev AW9523_REG_INTENABLE0 : Nat := 0x06
abbrev AW9523_REG_GCR : Nat := 0x11
abbrev AW9523_REG_LEDMODE : Nat := 0x12

/-- What a write of a register does. The soft reset brings all registers to
their defaults; the inputs and the chip ID can only be read. -/
def chipStore (defaults : Nat -> Byte) (reg : Nat) (value : Byte)
    (regs : Nat -> Byte) : Nat -> Byte :=
  if reg = AW9523_REG_SOFTRESET then
    defaults
  else if reg = AW9523_REG_INPUT0 ∨ reg = AW9523_REG_INPUT0 + 1 ∨
      reg = AW9523_REG_CHIPID then
    regs
  else
    Function.update regs reg value

def expanderWiring (acks : Byte -> Nat -> Bool)
    (defaults : Byte -> Nat -> Byte) : Wiring where
  acks := acks
  store := fun addr => chipStore (defaults addr)

def pinBit (base pin : Nat) (regs : Nat -> Byte) : Bool :=
  (regs (base + pin / 8)).getLsbD (pin % 8)

/-!
# The driver
-/

def register (aw : AW9523) (reg : Nat) : Register :=
  { i2cdevice := aw.i2cDev, address := BitVec.ofNat 16 reg }

def pinBits (aw : AW9523) (base pin : Nat) : RegisterBits :=
  { register := aw.register (base + pin / 8), bits := 1, shift := pin % 8 }

def reset (wiring : Wiring) (aw : AW9523) (bus : Bus) : Bool × Bus :=
  (aw.register AW9523_REG_SOFTRESET).write wiring 0#32 0 bus

/-- The two writes that `interruptEnableGpio` and `configureDirection` consist
of, the second one only if the first one was acknowledged. -/
def writePair (wiring : Wiring) (aw : AW9523) (base : Nat)
    (pins : BitVec 16) (bus : Bus) : Bool × Bus :=
  let low := ~~~ ((pins &&& 0xFF#16).setWidth 32)
  let high := ~~~ ((pins >>> 8).setWidth 32)
  let (written, bus) := (aw.register base).write wiring low 0 bus
  if written then
    (aw.register (base + 1)).write wiring high 0 bus
  else
    (false, bus)

def interruptEnableGpio (wiring : Wiring) (aw : AW9523)
    (pins : BitVec 16) (bus : Bus) : Bool × Bus :=
  aw.writePair wiring AW9523_REG_INTENABLE0 pins bus

def configureDirection (wiring : Wiring) (aw : AW9523)
    (pins : BitVec 16) (bus : Bus) : Bool × Bus :=
  aw.writePair wiring AW9523_REG_CONFIG0 pins bus

def openDrainPort0 (wiring : Wiring) (aw : AW9523) (od : Bool)
    (bus : Bus) : Bool × Bus :=
  let opendrain : RegisterBits :=
    { register := aw.register AW9523_REG_GCR, bits := 1, shift := 4 }
  opendrain.write wiring (BitVec.ofBool (!od) |>.setWidth 32) bus

def digitalWrite (wiring : Wiring) (aw : AW9523) (pin : Nat)
    (val : Bool) (bus : Bus) : Bus :=
  ((aw.pinBits AW9523_REG_OUTPUT0 pin).write wiring
    ((BitVec.ofBool val).setWidth 32) bus).2

abbrev INPUT : Nat := 0x00
abbrev OUTPUT : Nat := 0x01
abbrev AW9523_LED_MODE : Nat := 0x99

def writeMode (wiring : Wiring) (aw : AW9523) (pin : Nat)
    (config mode : BitVec 32) (bus : Bus) : Bus :=
  let bus := ((aw.pinBits AW9523_REG_CONFIG0 pin).write wiring config bus).2
  ((aw.pinBits AW9523_REG_LEDMODE pin).write wiring mode bus).2

def pinMode (wiring : Wiring) (aw : AW9523) (pin mode : Nat)
    (bus : Bus) : Bus :=
  let bus :=
    if mode = OUTPUT then aw.writeMode wiring pin 0#32 1#32 bus else bus
  let bus :=
    if mode = INPUT then aw.writeMode wiring pin 1#32 1#32 bus else bus
  if mode = AW9523_LED_MODE then aw.writeMode wiring pin 0#32 0#32 bus else bus

/-- The object gets its device even when the chip does not answer. -/
def begin (wiring : Wiring) (addr : Byte) (bus : Bus) :
    Bool × AW9523 × Bus :=
  let aw : AW9523 := { i2cDev := some addr }
  let (found, bus) := I2CDevice.begin wiring addr bus
  if !found then
    (false, aw, bus)
  else
    let (written, bus) := aw.reset wiring bus
    if !written then
      (false, aw, bus)
    else
      let (id, bus) := (aw.register AW9523_REG_CHIPID).read wiring bus
      if id ≠ 0x23#32 then
        (false, aw, bus)
      else
        let bus := (aw.configureDirection wiring 0#16 bus).2
        let bus := (aw.openDrainPort0 wiring false bus).2
        let bus := (aw.interruptEnableGpio wiring 0#16 bus).2
        (true, aw, bus)

/-!
# Writing the bit of a pin

The bits of the other pins come back as they were read, and as ones if they
could not be read.
-/

def IsPinPair (base : Nat) : Prop :=
  base = AW9523_REG_OUTPUT0 ∨ base = AW9523_REG_CONFIG0 ∨
    base = AW9523_REG_INTENABLE0 ∨ base = AW9523_REG_LEDMODE

theorem IsPinPair.cases {base : Nat} (h : IsPinPair base) :
    base = 2 ∨ base = 4 ∨ base = 6 ∨ base = 18 :=
  h

theorem chipStore_pinPair {base pin : Nat} (hbase : IsPinPair base)
    (hpin : pin < 16) (defaults : Nat -> Byte) (value : Byte)
    (regs : Nat -> Byte) :
    chipStore defaults (base + pin / 8) value regs =
      Function.update regs (base + pin / 8) value := by
  have hplain : base + pin / 8 ≠ AW9523_REG_SOFTRESET ∧
      ¬ (base + pin / 8 = AW9523_REG_INPUT0 ∨
        base + pin / 8 = AW9523_REG_INPUT0 + 1 ∨
        base + pin / 8 = AW9523_REG_CHIPID) := by
    have hcases := hbase.cases
    simp only [AW9523_REG_SOFTRESET, AW9523_REG_INPUT0, AW9523_REG_CHIPID]
    omega
  rw [chipStore, if_neg hplain.left, if_neg hplain.right]

theorem register_eq {reg : Nat} (h : reg < 256) (addr : Byte) :
    register { i2cDev := some addr } reg =
      byteRegister addr (BitVec.ofNat 8 reg) := by
  have haddress : BitVec.ofNat 16 reg = (BitVec.ofNat 8 reg).setWidth 16 := by
    apply BitVec.eq_of_toNat_eq
    simp only [BitVec.toNat_ofNat, BitVec.toNat_setWidth]
    omega
  rw [register, byteRegister, haddress]

theorem pinRegister_lt {base pin : Nat} (hbase : IsPinPair base)
    (hpin : pin < 16) : base + pin / 8 < 256 := by
  have hcases := hbase.cases
  omega

theorem pinRegister_eq_iff {base base' pin pin' : Nat} (hbase : IsPinPair base)
    (hbase' : IsPinPair base') (hpin : pin < 16) (hpin' : pin' < 16) :
    base' + pin' / 8 = base + pin / 8 <-> base' = base ∧ pin' / 8 = pin / 8 := by
  have hcases := hbase.cases
  have hcases' := hbase'.cases
  omega

theorem getLsbD_pinByte (reads : Bool) (byte : Byte) (data : BitVec 32)
    {shift i : Nat} (hi : i < 8) :
    ((writeField 1 shift data
      (if reads then byte.setWidth 32 else BitVec.allOnes 32)).setWidth 8).getLsbD
        i = if i = shift then data.getLsbD 0 else !reads || byte.getLsbD i := by
  rw [BitVec.getLsbD_setWidth, getLsbD_writeField _ _ (by omega)]
  by_cases hshift : i = shift
  · subst hshift
    simp [hi]
  · have hout : ¬ (shift ≤ i ∧ i < shift + 1) := by omega
    have hwide : i < 32 := by omega
    rw [if_neg hout, if_neg hshift]
    cases reads with
    | false =>
        rw [if_neg Bool.false_ne_true, BitVec.getLsbD_allOnes]
        simp [hi, hwide]
    | true => simp [hi, hwide]

theorem pinBits_write {wiring : Wiring} {addr : Byte} {defaults : Nat -> Byte}
    (hchip : wiring.store addr = chipStore defaults) {base pin : Nat}
    (hbase : IsPinPair base) (hpin : pin < 16) (data : BitVec 32) (bus : Bus) :
    exists bus',
      (pinBits { i2cDev := some addr } base pin).write wiring data bus =
        (wiring.acks addr (wiring.afterRead addr bus.transactions), bus') ∧
      bus'.transactions = wiring.afterRead addr bus.transactions + 1 ∧
      forall addr' base' pin', IsPinPair base' -> pin' < 16 ->
        pinBit base' pin' (bus'.regs addr') =
          if (addr' = addr ∧ base' = base ∧ pin' / 8 = pin / 8) ∧
              wiring.acks addr (wiring.afterRead addr bus.transactions) = true then
            if pin' = pin then
              data.getLsbD 0
            else
              !wiring.reads addr bus.transactions ||
                pinBit base' pin' (bus.regs addr')
          else
            pinBit base' pin' (bus.regs addr') := by
  have hlt := pinRegister_lt hbase hpin
  have hreg : (BitVec.ofNat 8 (base + pin / 8)).toNat = base + pin / 8 :=
    Nat.mod_eq_of_lt hlt
  rcases writeBits_byteRegister wiring addr (BitVec.ofNat 8 (base + pin / 8)) 1
    (pin % 8) data bus with ⟨bus', hwrite, hcount, hregs⟩
  rw [byteRegisterBits, ← register_eq hlt] at hwrite
  refine ⟨bus', hwrite, hcount, ?_⟩
  intro addr' base' pin' hbase' hpin'
  have hshift : pin' % 8 < 8 := Nat.mod_lt pin' (by decide)
  rw [pinBit, hregs addr', hreg, hchip, chipStore_pinPair hbase hpin]
  by_cases hack : addr' = addr ∧
      wiring.acks addr (wiring.afterRead addr bus.transactions) = true
  · rw [if_pos hack]
    by_cases hsame : base' = base ∧ pin' / 8 = pin / 8
    · have hslot := (pinRegister_eq_iff hbase hbase' hpin hpin').mpr hsame
      have hpins : pin' % 8 = pin % 8 <-> pin' = pin := by omega
      rw [hslot, Function.update_self, getLsbD_pinByte _ _ _ hshift,
        if_pos (⟨⟨hack.left, hsame⟩, hack.right⟩ : _ ∧ _), pinBit, hslot, hack.left]
      simp only [hpins]
    · have hslot := mt (pinRegister_eq_iff hbase hbase' hpin hpin').mp hsame
      rw [Function.update_of_ne hslot, if_neg fun h => hsame h.left.right, pinBit,
        hack.left]
  · rw [if_neg hack, if_neg fun h => hack ⟨h.left.left, h.right⟩, pinBit]

/-!
# Starting an expander
-/

section Begin

variable {wiring : Wiring} {addr : Byte} {defaults : Nat -> Byte}

theorem register_write {reg : Nat} (h : reg < 256) (value : BitVec 32)
    (bus : Bus) :
    exists bus',
      (register { i2cDev := some addr } reg).write wiring value 0 bus =
        (wiring.acks addr bus.transactions, bus') ∧
      bus'.transactions = bus.transactions + 1 ∧
      forall addr', bus'.regs addr' =
        if addr' = addr ∧ wiring.acks addr bus.transactions = true then
          wiring.store addr reg (value.setWidth 8) (bus.regs addr)
        else
          bus.regs addr' := by
  have hreg : (BitVec.ofNat 8 reg).toNat = reg := Nat.mod_eq_of_lt h
  rcases write_byteRegister wiring addr (BitVec.ofNat 8 reg) value bus with
    ⟨bus', hwrite, hcount, hregs⟩
  rw [hreg] at hregs
  refine ⟨bus', ?_, hcount, hregs⟩
  rw [register_eq h]
  exact hwrite

def Starts (wiring : Wiring) (addr : Byte) (defaults : Nat -> Byte) (n : Nat) :
    Prop :=
  wiring.acks addr n = true ∧ wiring.acks addr (n + 1) = true ∧
    wiring.reads addr (n + 2) = true ∧ defaults AW9523_REG_CHIPID = 0x23#8

/-- The registers while `begin` finds out what chip there is. -/
theorem begin_cases (hchip : wiring.store addr = chipStore defaults) (bus : Bus) :
    (Starts wiring addr defaults bus.transactions ∧
      exists bus₁, begin wiring addr bus =
          (true, { i2cDev := some addr },
            (interruptEnableGpio wiring { i2cDev := some addr } 0#16
              (openDrainPort0 wiring { i2cDev := some addr } false
                (configureDirection wiring { i2cDev := some addr } 0#16
                  bus₁).2).2).2) ∧
        bus₁.regs addr = defaults ∧
        forall addr', addr' ≠ addr -> bus₁.regs addr' = bus.regs addr') ∨
    (¬ Starts wiring addr defaults bus.transactions ∧
      exists bus', begin wiring addr bus = (false, { i2cDev := some addr }, bus')) := by
  rcases begin_spec wiring addr bus with ⟨bus₀, hprobe, hcount₀, hregs₀⟩
  simp only [begin, hprobe]
  by_cases hfound : wiring.acks addr bus.transactions = true
  case neg =>
    right
    refine ⟨fun h => hfound h.left, bus₀, ?_⟩
    simp [hfound]
  rcases @register_write wiring addr AW9523_REG_SOFTRESET (by decide) 0#32 bus₀ with
    ⟨bus₁, hreset, hcount₁, hregs₁⟩
  rw [hcount₀] at hreset hcount₁ hregs₁
  simp only [hfound, reset, hreset]
  by_cases hwritten : wiring.acks addr (bus.transactions + 1) = true
  case neg =>
    right
    refine ⟨fun h => hwritten h.right.left, bus₁, ?_⟩
    simp [hwritten]
  -- From here on the chip has its defaults, whatever it had before.
  have hdefaults : bus₁.regs addr = defaults := by
    rw [hregs₁ addr, if_pos ⟨rfl, hwritten⟩, hchip]
    exact if_pos rfl
  rcases read_byteRegister wiring addr (BitVec.ofNat 8 AW9523_REG_CHIPID) bus₁ with
    ⟨bus₂, hread, _, hregs₂⟩
  rw [hcount₁, hdefaults] at hread
  have hid : (register { i2cDev := some addr } AW9523_REG_CHIPID).read wiring bus₁ =
      (if wiring.reads addr (bus.transactions + 1 + 1) then
        (defaults AW9523_REG_CHIPID).setWidth 32
      else
        BitVec.allOnes 32, bus₂) := by
    rw [register_eq (by decide)]
    exact hread
  simp only [hwritten, hid]
  by_cases hreads : wiring.reads addr (bus.transactions + 2) = true
  case neg =>
    right
    refine ⟨fun h => hreads h.right.right.left, bus₂, ?_⟩
    simp [hreads]
  simp only [hreads, if_true]
  by_cases hchipID : defaults AW9523_REG_CHIPID = 0x23#8
  · left
    refine ⟨⟨hfound, hwritten, hreads, hchipID⟩, bus₂, ?_, ?_, ?_⟩
    · rw [hchipID]
      rfl
    · rw [hregs₂, hdefaults]
    · intro addr' hne
      rw [hregs₂, hregs₁, if_neg fun h => hne h.left, hregs₀]
  · right
    refine ⟨fun h => hchipID h.right.right.right, bus₂, ?_⟩
    have hne : (defaults AW9523_REG_CHIPID).setWidth 32 ≠ 0x23#32 := by
      intro h
      apply hchipID
      have htrunc := congrArg (BitVec.setWidth 8) h
      rwa [BitVec.setWidth_setWidth_of_le _ (by decide), BitVec.setWidth_eq] at htrunc
    simp [hne]

end Begin

/-!
# Configuring pins

What the configuration comes to as long as nothing fails on the bus.
-/

section Configure

variable {wiring : Wiring} {addr : Byte} {defaults : Nat -> Byte}

theorem pinBits_write_acked (hchip : wiring.store addr = chipStore defaults)
    (hacks : forall n, wiring.acks addr n = true) {base pin : Nat}
    (hbase : IsPinPair base) (hpin : pin < 16) (data : BitVec 32) (bus : Bus)
    (addr' : Byte) {base' pin' : Nat} (hbase' : IsPinPair base')
    (hpin' : pin' < 16) :
    pinBit base' pin' (((pinBits { i2cDev := some addr } base pin).write wiring
        data bus).2.regs addr') =
      if addr' = addr ∧ base' = base ∧ pin' = pin then
        data.getLsbD 0
      else
        pinBit base' pin' (bus.regs addr') := by
  rcases pinBits_write hchip hbase hpin data bus with ⟨bus', hwrite, _, hbits⟩
  have hreads : wiring.reads addr bus.transactions = true := by
    simp [Wiring.reads, hacks]
  rw [hwrite, hbits addr' base' pin' hbase' hpin', hreads, hacks]
  by_cases hsame : addr' = addr ∧ base' = base ∧ pin' = pin
  · rcases hsame with ⟨rfl, rfl, rfl⟩
    simp
  · rw [if_neg hsame]
    split
    · rename_i hport
      rw [if_neg fun h => hsame ⟨hport.left.left, hport.left.right.left, h⟩]
      rfl
    · rfl

theorem writePair_zero (hchip : wiring.store addr = chipStore defaults)
    (hacks : forall n, wiring.acks addr n = true) {base : Nat}
    (hbase : IsPinPair base) (bus : Bus) (addr' : Byte) {base' pin' : Nat}
    (hbase' : IsPinPair base') (hpin' : pin' < 16) :
    pinBit base' pin' ((writePair wiring { i2cDev := some addr } base 0#16
        bus).2.regs addr') =
      if addr' = addr ∧ base' = base then
        true
      else
        pinBit base' pin' (bus.regs addr') := by
  have hlow : base < 256 := @pinRegister_lt base 0 hbase (by decide)
  have hhigh : base + 1 < 256 := @pinRegister_lt base 8 hbase (by decide)
  rcases @register_write wiring addr base hlow (~~~ ((0#16 &&& 0xFF#16).setWidth 32))
    bus with ⟨bus₁, hwrite₁, _, hregs₁⟩
  rcases @register_write wiring addr (base + 1) hhigh
    (~~~ ((0#16 >>> 8).setWidth 32)) bus₁ with ⟨bus₂, hwrite₂, _, hregs₂⟩
  have hstore₁ : forall value regs, chipStore defaults base value regs =
      Function.update regs base value :=
    @chipStore_pinPair base 0 hbase (by decide) defaults
  have hstore₂ : forall value regs, chipStore defaults (base + 1) value regs =
      Function.update regs (base + 1) value :=
    @chipStore_pinPair base 8 hbase (by decide) defaults
  have hpair : (writePair wiring { i2cDev := some addr } base 0#16 bus).2 = bus₂ := by
    simp only [writePair, hwrite₁, hwrite₂, hacks]
    rfl
  rw [hpair, pinBit, hregs₂ addr', hchip]
  by_cases haddr : addr' = addr
  · subst haddr
    rw [if_pos ⟨rfl, hacks _⟩, hregs₁ addr', if_pos ⟨rfl, hacks _⟩, hchip, hstore₁,
      hstore₂]
    by_cases hsame : base' = base
    · subst hsame
      have hones : forall i, i < 8 -> (0xFF#8).getLsbD i = true := by decide
      have hbit := hones (pin' % 8) (Nat.mod_lt pin' (by decide))
      rw [if_pos ⟨rfl, rfl⟩]
      rcases (by omega : pin' / 8 = 1 ∨ pin' / 8 = 0) with hport | hport
      · rw [hport, Function.update_self]
        exact hbit
      · rw [hport, Function.update_of_ne (by omega), Nat.add_zero,
          Function.update_self]
        exact hbit
    · have hcases := hbase.cases
      have hcases' := hbase'.cases
      rw [if_neg fun h => hsame h.right, Function.update_of_ne (by omega),
        Function.update_of_ne (by omega), pinBit]
  · rw [if_neg fun h => haddr h.left, hregs₁ addr', if_neg fun h => haddr h.left,
      if_neg fun h => haddr h.left, pinBit]

/-- `openDrainPort0` writes none of the pairs. -/
theorem openDrainPort0_pinBit (hchip : wiring.store addr = chipStore defaults)
    (od : Bool) (bus : Bus) (addr' : Byte) {base pin : Nat}
    (hbase : IsPinPair base) (hpin : pin < 16) :
    pinBit base pin ((openDrainPort0 wiring { i2cDev := some addr } od
        bus).2.regs addr') = pinBit base pin (bus.regs addr') := by
  rcases writeBits_byteRegister wiring addr (BitVec.ofNat 8 AW9523_REG_GCR) 1 4
    ((BitVec.ofBool (!od)).setWidth 32) bus with ⟨bus', hwrite, _, hregs⟩
  have hbus : (openDrainPort0 wiring { i2cDev := some addr } od bus).2 = bus' := by
    rw [byteRegisterBits, ← register_eq (by decide)] at hwrite
    simp only [openDrainPort0, hwrite]
  have hne : base + pin / 8 ≠ AW9523_REG_GCR := by
    have hcases := hbase.cases
    simp only [AW9523_REG_GCR]
    omega
  rw [hbus, pinBit, hregs addr', pinBit]
  split
  · rename_i h
    rw [hchip, h.left]
    show (chipStore defaults AW9523_REG_GCR _ _ _).getLsbD _ = _
    rw [chipStore, if_neg (by decide), if_neg (by decide), Function.update_of_ne hne]
  · rfl

theorem begin_pinBit (hchip : wiring.store addr = chipStore defaults)
    (hacks : forall n, wiring.acks addr n = true)
    (hid : defaults AW9523_REG_CHIPID = 0x23#8) (bus : Bus) :
    exists bus', begin wiring addr bus = (true, { i2cDev := some addr }, bus') ∧
      (forall pin, pin < 16 ->
        pinBit AW9523_REG_INTENABLE0 pin (bus'.regs addr) = true) ∧
      forall addr', addr' ≠ addr -> forall base pin, IsPinPair base -> pin < 16 ->
        pinBit base pin (bus'.regs addr') = pinBit base pin (bus.regs addr') := by
  have hstarts : Starts wiring addr defaults bus.transactions := by
    simp [Starts, Wiring.reads, hacks, hid]
  rcases begin_cases hchip bus with ⟨_, bus₁, hbegin, _, hother⟩ | ⟨hnot, _⟩
  case inr => exact absurd hstarts hnot
  have hint : IsPinPair AW9523_REG_INTENABLE0 := Or.inr (Or.inr (Or.inl rfl))
  have hconfig : IsPinPair AW9523_REG_CONFIG0 := Or.inr (Or.inl rfl)
  refine ⟨_, hbegin, ?_, ?_⟩
  · intro pin hpin
    rw [interruptEnableGpio, writePair_zero hchip hacks hint _ _ hint hpin,
      if_pos ⟨rfl, rfl⟩]
  · intro addr' hne base pin hbase hpin
    rw [interruptEnableGpio, writePair_zero hchip hacks hint _ _ hbase hpin,
      if_neg fun h => hne h.left, openDrainPort0_pinBit hchip _ _ _ hbase hpin,
      configureDirection, writePair_zero hchip hacks hconfig _ _ hbase hpin,
      if_neg fun h => hne h.left, pinBit, hother addr' hne, pinBit]

theorem pinMode_output (hchip : wiring.store addr = chipStore defaults)
    (hacks : forall n, wiring.acks addr n = true) {pin : Nat} (hpin : pin < 16)
    (bus : Bus) (addr' : Byte) {base' pin' : Nat} (hbase' : IsPinPair base')
    (hpin' : pin' < 16) :
    pinBit base' pin' ((pinMode wiring { i2cDev := some addr } pin OUTPUT
        bus).regs addr') =
      if addr' = addr ∧ base' = AW9523_REG_LEDMODE ∧ pin' = pin then
        true
      else if addr' = addr ∧ base' = AW9523_REG_CONFIG0 ∧ pin' = pin then
        false
      else
        pinBit base' pin' (bus.regs addr') := by
  have hmode : IsPinPair AW9523_REG_LEDMODE := Or.inr (Or.inr (Or.inr rfl))
  have hconfig : IsPinPair AW9523_REG_CONFIG0 := Or.inr (Or.inl rfl)
  have houtput : pinMode wiring { i2cDev := some addr } pin OUTPUT bus =
      writeMode wiring { i2cDev := some addr } pin 0#32 1#32 bus := by
    simp [pinMode, OUTPUT, INPUT, AW9523_LED_MODE]
  rw [houtput, writeMode, pinBits_write_acked hchip hacks hmode hpin _ _ _ hbase' hpin',
    pinBits_write_acked hchip hacks hconfig hpin _ _ _ hbase' hpin']
  rfl

end Configure

end AW9523
end Libraries
end BoxTrials
