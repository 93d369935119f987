import BoxTrials.Libraries.AW9523
import BoxTrials.Receiver.PinMap
import BoxTrials.Receiver.Steps

/-!
# The pins on the expanders

The LED functions write the pins one by one, over a bus on which any transaction
may fail.  A write that fails leaves the pins; a write after a read that failed
raises the other pins of the port.
-/

namespace BoxTrials
namespace Receiver

open Foundation
open Libraries
open Libraries.BusIO

/-!
# Writing pins over the bus
-/

def Expander.address : Expander -> Byte
  | .aw1 => 0x58#8
  | .aw2 => 0x59#8
  | .aw3 => 0x5A#8

theorem Expander.address_injective {aw aw' : Expander}
    (h : aw.address = aw'.address) : aw = aw' := by
  revert h
  cases aw <;> cases aw' <;> decide

/-- The objects `aw1`, `aw2` and `aw3`. -/
abbrev Expanders := Expander -> AW9523

def Expanders.unset : Expanders :=
  fun _ => { i2cDev := none }

def Expanders.begun : Expanders :=
  fun aw => { i2cDev := some aw.address }

structure PinWrite where
  aw : Expander
  pin : Nat
  level : Bool
  deriving DecidableEq, Repr

def LedCall.pinWrites : LedCall -> List PinWrite
  | .setBoardColor board red blue green =>
      match boardPins board with
      | none => []
      | some b =>
          [⟨b.aw, b.red, Receiver.level red⟩, ⟨b.aw, b.green, Receiver.level green⟩,
            ⟨b.aw, b.blue, Receiver.level blue⟩]
  | .rgbReset =>
      (List.range 16).flatMap fun i =>
        [⟨.aw1, i, LOW⟩, ⟨.aw2, i, LOW⟩, ⟨.aw3, i, LOW⟩]

def PinWrite.write (p : PinWrite) (pins : Pins) : Pins :=
  digitalWrite p.aw p.pin p.level pins

def PinWrite.perform (wiring : Wiring) (aws : Expanders) (p : PinWrite)
    (bus : Bus) : Bus :=
  (aws p.aw).digitalWrite wiring p.pin p.level bus

def performLedCalls (wiring : Wiring) (aws : Expanders) (calls : List LedCall)
    (bus : Bus) : Bus :=
  (calls.flatMap LedCall.pinWrites).foldl (fun bus p => p.perform wiring aws bus) bus

/-- The level of a pin, as the output register of its expander has it. -/
def pinLevel (bus : Bus) (aw : Expander) (pin : Nat) : Bool :=
  AW9523.pinBit AW9523.AW9523_REG_OUTPUT0 pin (bus.regs aw.address)

def HasExpanders (wiring : Wiring) : Prop :=
  forall aw : Expander, exists defaults,
    wiring.store aw.address = AW9523.chipStore defaults

theorem pinWrites_lt {c : LedCall} {p : PinWrite} (h : p ∈ c.pinWrites) :
    p.pin < 16 := by
  cases c with
  | setBoardColor board red blue green =>
      rw [LedCall.pinWrites] at h
      cases hb : boardPins board with
      | none =>
          rw [hb] at h
          cases h
      | some b =>
          rw [hb] at h
          have hlt := (boardPins_wired hb).lt b.aw
          simp only [List.mem_cons, List.not_mem_nil, or_false] at h
          rcases h with rfl | rfl | rfl
          · exact hlt _ ⟨rfl, Or.inl rfl⟩
          · exact hlt _ ⟨rfl, Or.inr (Or.inl rfl)⟩
          · exact hlt _ ⟨rfl, Or.inr (Or.inr rfl)⟩
  | rgbReset =>
      rcases List.mem_flatMap.mp h with ⟨i, hi, hp⟩
      rw [List.mem_range] at hi
      simp only [List.mem_cons, List.not_mem_nil, or_false] at hp
      rcases hp with rfl | rfl | rfl <;> exact hi

theorem write_pinWrites (c : LedCall) (pins : Pins) :
    c.write pins = c.pinWrites.foldl (fun pins p => p.write pins) pins := by
  cases c with
  | setBoardColor board red blue green =>
      rw [LedCall.write, LedCall.pinWrites, Receiver.setBoardColor]
      cases boardPins board <;> rfl
  | rgbReset =>
      rw [LedCall.write, LedCall.pinWrites, List.foldl_flatMap]
      rfl

/-!
# What a call does to a pin
-/

/-- What the call that begins with transaction `n` does to a pin: it sets its own
pin if its write gets through, and raises the other pins of the port if its read
did not. -/
def PinWrite.effect (wiring : Wiring) (aw : Expander) (pin : Nat) :
    Nat × PinWrite -> Option Bool
  | (n, p) =>
      if p.aw = aw ∧
          wiring.acks aw.address (wiring.afterRead aw.address n) = true then
        if pin = p.pin then
          some p.level
        else if pin / 8 = p.pin / 8 ∧ wiring.reads aw.address n = false then
          some HIGH
        else
          none
      else
        none

def numbered (wiring : Wiring) : Nat -> List PinWrite -> List (Nat × PinWrite)
  | _, [] => []
  | n, p :: rest =>
      (n, p) :: numbered wiring (wiring.afterRead p.aw.address n + 1) rest

theorem perform_spec {wiring : Wiring} (hwiring : HasExpanders wiring)
    {p : PinWrite} (hp : p.pin < 16) (bus : Bus) :
    (p.perform wiring Expanders.begun bus).transactions =
        wiring.afterRead p.aw.address bus.transactions + 1 ∧
      forall aw pin, pin < 16 ->
        pinLevel (p.perform wiring Expanders.begun bus) aw pin =
          (PinWrite.effect wiring aw pin (bus.transactions, p)).getD
            (pinLevel bus aw pin) := by
  rcases hwiring p.aw with ⟨defaults, hchip⟩
  rcases AW9523.pinBits_write hchip (Or.inl rfl) hp
    ((BitVec.ofBool p.level).setWidth 32) bus with ⟨bus', hwrite, hcount, hbits⟩
  have hperform : p.perform wiring Expanders.begun bus = bus' := by
    simp only [PinWrite.perform, Expanders.begun, AW9523.digitalWrite, hwrite]
  have hdata : ((BitVec.ofBool p.level).setWidth 32).getLsbD 0 = p.level := by
    cases p.level <;> rfl
  rw [hperform]
  refine ⟨hcount, ?_⟩
  intro aw pin hpin
  have haddress : aw.address = p.aw.address <-> p.aw = aw :=
    ⟨fun h => (Expander.address_injective h).symm, fun h => by rw [h]⟩
  rw [pinLevel, hbits aw.address _ pin (Or.inl rfl) hpin, hdata, PinWrite.effect]
  by_cases hack : p.aw = aw ∧
      wiring.acks aw.address (wiring.afterRead aw.address bus.transactions) = true
  · rcases hack with ⟨rfl, hack⟩
    rw [if_pos (⟨rfl, hack⟩ : _ ∧ _)]
    by_cases hport : pin / 8 = p.pin / 8
    · rw [if_pos ⟨⟨rfl, rfl, hport⟩, hack⟩]
      by_cases hsame : pin = p.pin
      · rw [if_pos hsame, if_pos hsame]
        rfl
      · rw [if_neg hsame, if_neg hsame]
        cases wiring.reads p.aw.address bus.transactions <;> simp [hport, pinLevel]
    · have hsame : pin ≠ p.pin := fun h => hport (by rw [h])
      rw [if_neg fun h => hport h.left.right.right, if_neg hsame,
        if_neg fun h => hport h.left]
      rfl
  · rw [if_neg hack, if_neg]
    · rfl
    · rintro ⟨⟨haddr, _⟩, hwritten⟩
      have haw := haddress.mp haddr
      subst haw
      exact hack ⟨rfl, hwritten⟩

theorem pinLevel_pinWrites {wiring : Wiring} (hwiring : HasExpanders wiring)
    {writes : List PinWrite} (hwrites : forall p, p ∈ writes -> p.pin < 16)
    (bus : Bus) (aw : Expander) {pin : Nat} (hpin : pin < 16) :
    pinLevel
        (writes.foldl (fun bus p => p.perform wiring Expanders.begun bus) bus) aw pin =
      (lastValue (PinWrite.effect wiring aw pin)
        (numbered wiring bus.transactions writes)).getD (pinLevel bus aw pin) := by
  induction writes generalizing bus with
  | nil =>
      rfl
  | cons p rest ih =>
      rcases perform_spec hwiring (hwrites p (List.mem_cons_self ..)) bus with
        ⟨hcount, hlevel⟩
      have hrest := ih (fun q hq => hwrites q (List.mem_cons_of_mem p hq))
        (p.perform wiring Expanders.begun bus)
      rw [List.foldl_cons, hrest, hcount, hlevel aw pin hpin, numbered, lastValue_cons]
      cases lastValue (PinWrite.effect wiring aw pin)
        (numbered wiring (wiring.afterRead p.aw.address bus.transactions + 1) rest) <;>
        rfl

theorem pinLevel_ledCalls {wiring : Wiring} (hwiring : HasExpanders wiring)
    (calls : List LedCall) (bus : Bus) (aw : Expander) {pin : Nat}
    (hpin : pin < 16) :
    pinLevel (performLedCalls wiring Expanders.begun calls bus) aw pin =
      (lastValue (PinWrite.effect wiring aw pin)
        (numbered wiring bus.transactions (calls.flatMap LedCall.pinWrites))).getD
          (pinLevel bus aw pin) := by
  apply pinLevel_pinWrites hwiring _ bus aw hpin
  intro p hp
  rcases List.mem_flatMap.mp hp with ⟨c, _, hp⟩
  exact pinWrites_lt hp

def workbench (acks : Byte -> Nat -> Bool) : Wiring :=
  AW9523.expanderWiring acks
    (fun _ reg => if reg = AW9523.AW9523_REG_CHIPID then 0x23#8 else 0#8)

theorem hasExpanders_workbench (acks : Byte -> Nat -> Bool) :
    HasExpanders (workbench acks) :=
  fun _ => ⟨_, rfl⟩

def poweredBus : Bus where
  chip _ := { regs := fun _ => 0xFF#8, pointer := 0 }
  transactions := 0

/-- One failure near the end of `RGB_reset` leaves a pin high. -/
example : pinLevel (performLedCalls (workbench fun _ n => decide (n ≠ 141))
    Expanders.begun [.rgbReset] poweredBus) .aw3 8 = true := by
  decide +kernel

/-!
# A bus without failures
-/

/-- Every transaction with an expander gets through. -/
def Faultless (wiring : Wiring) : Prop :=
  forall (aw : Expander) n, wiring.acks aw.address n = true

def Represents (bus : Bus) (pins : Pins) : Prop :=
  forall aw pin, pin < 16 -> pinLevel bus aw pin = pins aw pin

theorem represents_perform {wiring : Wiring} (hwiring : HasExpanders wiring)
    (hacks : Faultless wiring) {p : PinWrite} (hp : p.pin < 16) {bus : Bus}
    {pins : Pins} (h : Represents bus pins) :
    Represents (p.perform wiring Expanders.begun bus) (p.write pins) := by
  intro aw pin hpin
  have hreads : wiring.reads aw.address bus.transactions = true := by
    simp [Wiring.reads, hacks aw]
  rw [(perform_spec hwiring hp bus).right aw pin hpin, PinWrite.effect, hreads,
    hacks aw, PinWrite.write, digitalWrite, h aw pin hpin]
  by_cases haw : p.aw = aw
  · by_cases hsame : pin = p.pin <;> simp [haw, hsame]
  · simp [haw, Ne.symm haw]

theorem represents_ledCalls {wiring : Wiring} (hwiring : HasExpanders wiring)
    (hacks : Faultless wiring) (calls : List LedCall) {bus : Bus} {pins : Pins}
    (h : Represents bus pins) :
    Represents (performLedCalls wiring Expanders.begun calls bus)
      (calls.foldl (fun pins c => c.write pins) pins) := by
  have hwrites : forall (writes : List PinWrite) {bus : Bus} {pins : Pins},
      (forall p, p ∈ writes -> p.pin < 16) -> Represents bus pins ->
        Represents
          (writes.foldl (fun bus p => p.perform wiring Expanders.begun bus) bus)
          (writes.foldl (fun pins p => p.write pins) pins) := by
    intro writes
    induction writes with
    | nil => exact fun _ hrep => hrep
    | cons p rest ih =>
        intro bus pins hlt hrep
        exact ih (fun q hq => hlt q (List.mem_cons_of_mem p hq))
          (represents_perform hwiring hacks (hlt p (List.mem_cons_self ..)) hrep)
  induction calls generalizing bus pins with
  | nil =>
      exact h
  | cons c rest ih =>
      rw [performLedCalls, List.flatMap_cons, List.foldl_append, List.foldl_cons]
      apply ih
      rw [write_pinWrites]
      exact hwrites c.pinWrites (fun p hp => pinWrites_lt hp) h

end Receiver
end BoxTrials
