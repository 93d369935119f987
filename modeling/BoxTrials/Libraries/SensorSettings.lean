import BoxTrials.Libraries.MPU6050

/-!
# The settings of the sensor

The settings share registers but no bits.  As long as no read is lost a setting
changes by its own calls only, and a sample is scaled by the range of the chip.
-/

namespace BoxTrials
namespace Libraries
namespace MPU6050

open Foundation
open BusIO

variable {real : Type} {wiring : Wiring} {addr : Byte} {defaults : Nat -> Byte}

/-!
# The layout
-/

def settings : List Field :=
  [sampleRateDiv, fsyncOut, filterConfig, gyroRange, accelRange, highPassConfig,
    motionThreshold, motionDuration, intLevel, intLatch, i2cBypass, intMotion,
    i2cMasterEnable, sleep, cycle, tempStdby, clockSelect, cycleRate, accelStdby,
    gyroStdby]

theorem settings_apart : forall g, g ∈ settings -> forall f, f ∈ settings ->
    g = f ∨ (¬ g.Covers f ∧ g.Apart f) := by
  decide

theorem settings_power : forall g, g ∈ settings -> g.reg = MPU6050_PWR_MGMT_1 ->
    g.shift + g.bits ≤ 7 := by
  decide

theorem settings_writable : forall g, g ∈ settings ->
    ¬ (MPU6050_INT_STATUS.toNat ≤ g.reg.toNat ∧
        g.reg.toNat < MPU6050_ACCEL_OUT.toNat + 14 ∨
      g.reg.toNat = MPU6050_WHO_AM_I.toNat) := by
  decide

theorem call_settings (c : Call) {w : FieldWrite} (h : w ∈ c.writes) :
    w.field ∈ settings := by
  have hfields : forall f, f ∈ c.writes.map FieldWrite.field -> f ∈ settings := by
    cases c <;> simp [Call.writes, MPU6050.setSampleRateDivisor,
      MPU6050.setAccelerometerRange, MPU6050.setGyroRange, MPU6050.setClock,
      MPU6050.setFsyncSampleOutput, MPU6050.setFilterBandwidth,
      MPU6050.setHighPassFilter, MPU6050.setInterruptPinPolarity,
      MPU6050.setInterruptPinLatch, MPU6050.setMotionInterrupt,
      MPU6050.setMotionDetectionThreshold, MPU6050.setMotionDetectionDuration,
      MPU6050.setI2CBypass, MPU6050.enableSleep, MPU6050.enableCycle,
      MPU6050.setCycleRate, MPU6050.setGyroStandby,
      MPU6050.setAccelerometerStandby, MPU6050.setTemperatureStandby, settings]
  exact hfields w.field (List.mem_map_of_mem h)

/-!
# Runs of calls
-/

/-- The value that a write has put into a field, if it is a write of the field and
got through. -/
def ownValue (f : Field) (e : FieldEntry) : Option Byte :=
  if e.write.field = f ∧ e.stored.isSome then
    some (readField f.bits 0 (e.write.data.setWidth 8))
  else
    none

/-- A write that got through although the read before it was lost, and so has
reset the chip or left ones in the other fields of its register. -/
def Disturbs (f : Field) (e : FieldEntry) : Prop :=
  e.known = false ∧ e.stored.isSome ∧
    (e.write.field.reg = MPU6050_PWR_MGMT_1 ∨
      (e.write.field.reg = f.reg ∧ e.write.field ≠ f))

instance (f : Field) (e : FieldEntry) : Decidable (Disturbs f e) :=
  inferInstanceAs (Decidable (_ ∧ _))

def Idle (regs : Nat -> Byte) : Prop :=
  (regs MPU6050_PWR_MGMT_1.toNat).getLsbD 7 = false

theorem stored_idle {w : FieldWrite} (hw : w.field ∈ settings) {f : Field}
    {bus : Bus} (hidle : Idle (bus.regs addr))
    (hgentle : ¬ Disturbs f (w.entry wiring addr bus)) {byte : Byte}
    (hstored : (w.entry wiring addr bus).stored = some byte)
    (hreg : w.field.reg = MPU6050_PWR_MGMT_1) : byte.getLsbD 7 = false := by
  have hlow := settings_power w.field hw hreg
  have hknown : (w.entry wiring addr bus).known = true := by
    apply Decidable.by_contra
    intro hlost
    apply hgentle
    rw [Disturbs, hstored]
    exact ⟨eq_false_of_ne_true hlost, rfl, Or.inl hreg⟩
  rw [getLsbD_stored hstored (by decide), if_neg (by omega), hknown, hreg, hidle]
  rfl

theorem chip_keeps {g : Field} (hg : g ∈ settings) {byte : Byte}
    (hidle : g.reg = MPU6050_PWR_MGMT_1 -> byte.getLsbD 7 = false) :
    (chip defaults).resets g.reg.toNat byte = false ∧
      (chip defaults).readOnly g.reg.toNat = false := by
  constructor
  · simp only [chip]
    by_cases hreg : g.reg = MPU6050_PWR_MGMT_1
    · rw [hidle hreg, Bool.and_false]
    · have hne : g.reg.toNat ≠ MPU6050_PWR_MGMT_1.toNat :=
        fun heq => hreg (BitVec.eq_of_toNat_eq heq)
      rw [decide_eq_false hne, Bool.false_and]
  · exact decide_eq_false (settings_writable g hg)

theorem perform_idle (hstore : wiring.store addr = (chip defaults).store)
    {w : FieldWrite} (hw : w.field ∈ settings) {f : Field} {bus : Bus}
    (hidle : Idle (bus.regs addr))
    (hgentle : ¬ Disturbs f (w.entry wiring addr bus)) :
    Idle ((w.perform wiring (some addr) bus).2.regs addr) := by
  rcases perform_spec wiring addr w bus with ⟨bus', hperform, _, hregs⟩
  have hregs := hregs addr
  rw [hperform, Idle]
  cases hstored : (w.entry wiring addr bus).stored with
  | none =>
      rw [hstored] at hregs
      rw [hregs]
      exact hidle
  | some byte =>
      rw [hstored] at hregs
      have hbyte := stored_idle hw hidle hgentle hstored
      rcases @chip_keeps defaults w.field hw byte hbyte with ⟨hreset, hwritable⟩
      simp only [if_true, hstore, Memory.store, hreset, hwritable,
        Bool.false_eq_true, if_false] at hregs
      rw [hregs]
      by_cases hreg : w.field.reg = MPU6050_PWR_MGMT_1
      · rw [hreg, Function.update_self]
        exact hbyte hreg
      · have hne : MPU6050_PWR_MGMT_1.toNat ≠ w.field.reg.toNat :=
          fun heq => hreg (BitVec.eq_of_toNat_eq heq.symm)
        rw [Function.update_of_ne hne]
        exact hidle

theorem effect_own {w : FieldWrite} (hw : w.field ∈ settings) {f : Field}
    (hf : f ∈ settings) {bus : Bus} (hidle : Idle (bus.regs addr))
    (hgentle : ¬ Disturbs f (w.entry wiring addr bus)) :
    f.effect (chip defaults) (w.entry wiring addr bus) =
      ownValue f (w.entry wiring addr bus) := by
  have hwrite : (w.entry wiring addr bus).write = w := rfl
  rw [Field.effect, ownValue, hwrite]
  cases hstored : (w.entry wiring addr bus).stored with
  | none =>
      simp only [Option.isSome_none, Bool.false_eq_true, and_false, if_false]
  | some byte =>
      rcases @chip_keeps defaults w.field hw byte
        (stored_idle hw hidle hgentle hstored) with ⟨hreset, hwritable⟩
      simp only [hreset, hwritable, Bool.false_eq_true, if_false,
        Option.isSome_some, and_true]
      rcases settings_apart w.field hw f hf with heq | ⟨hcovers, _⟩
      · rw [heq, if_pos ⟨rfl, Nat.le_refl _, Nat.le_refl _⟩, if_pos rfl, Nat.sub_self]
      · have hne : w.field ≠ f :=
          fun heq => hcovers (heq ▸ ⟨rfl, Nat.le_refl _, Nat.le_refl _⟩)
        have hother : ¬ (w.field.reg = f.reg ∧
            (w.entry wiring addr bus).known = false) := by
          intro hall
          apply hgentle
          rw [Disturbs, hstored]
          exact ⟨hall.right, rfl, Or.inr ⟨hall.left, hne⟩⟩
        rw [if_neg hcovers, if_neg hne, if_neg hother]

theorem setting_aligned {w : FieldWrite} (hw : w.field ∈ settings) {f : Field}
    (hf : f ∈ settings) : w.field.Covers f ∨ w.field.Apart f := by
  rcases settings_apart w.field hw f hf with heq | hapart
  · exact Or.inl (heq ▸ ⟨rfl, Nat.le_refl _, Nat.le_refl _⟩)
  · exact Or.inr hapart.right

theorem effects_own (hstore : wiring.store addr = (chip defaults).store)
    {writes : List FieldWrite} (hwrites : forall w, w ∈ writes -> w.field ∈ settings)
    {f : Field} (hf : f ∈ settings) {bus : Bus} (hidle : Idle (bus.regs addr))
    (hgentle : forall e, e ∈ (performAll wiring addr writes bus).1 ->
      ¬ Disturbs f e) :
    forall e, e ∈ (performAll wiring addr writes bus).1 ->
      f.effect (chip defaults) e = ownValue f e := by
  induction writes generalizing bus with
  | nil => exact fun e he => by cases he
  | cons w rest ih =>
      have hw := hwrites w (List.mem_cons_self ..)
      have hfirst := hgentle (w.entry wiring addr bus) (List.mem_cons_self ..)
      intro e he
      rcases List.mem_cons.mp he with hhead | htail
      · rw [hhead]
        exact effect_own hw hf hidle hfirst
      · exact ih (fun w' hw' => hwrites w' (List.mem_cons_of_mem w hw'))
          (perform_idle hstore hw hidle hfirst)
          (fun e he => hgentle e (List.mem_cons_of_mem _ he)) e htail

theorem performAll_own (hstore : wiring.store addr = (chip defaults).store)
    {writes : List FieldWrite} (hwrites : forall w, w ∈ writes -> w.field ∈ settings)
    {f : Field} (hf : f ∈ settings) {bus : Bus} (hidle : Idle (bus.regs addr))
    (hgentle : forall e, e ∈ (performAll wiring addr writes bus).1 ->
      ¬ Disturbs f e) :
    f.value ((performAll wiring addr writes bus).2.regs addr) =
      (lastValue (ownValue f) (performAll wiring addr writes bus).1).getD
        (f.value (bus.regs addr)) := by
  rw [value_performAll hstore writes fun w hw => setting_aligned (hwrites w hw) hf]
  rw [lastValue_congr (effects_own hstore hwrites hf hidle hgentle)]

/-- After any calls a getter that gets through yields what was last set by a call
that got through, unless a call with a lost read has disturbed the setting. -/
theorem getField_run (hstore : wiring.store addr = (chip defaults).store)
    (calls : List Call) {f : Field} (hf : f ∈ settings) {bus : Bus}
    (hidle : Idle (bus.regs addr))
    (hgentle : forall e,
      e ∈ (performAll wiring addr (calls.flatMap Call.writes) bus).1 ->
        ¬ Disturbs f e)
    (hget : wiring.reads addr
      (performAll wiring addr (calls.flatMap Call.writes) bus).2.transactions =
        true) :
    (getField f wiring { i2cDev := some addr }
        (performAll wiring addr (calls.flatMap Call.writes) bus).2).1 =
      ((lastValue (ownValue f)
          (performAll wiring addr (calls.flatMap Call.writes) bus).1).getD
        (f.value (bus.regs addr))).setWidth 32 := by
  have hwrites : forall w, w ∈ calls.flatMap Call.writes -> w.field ∈ settings := by
    intro w hw
    rcases List.mem_flatMap.mp hw with ⟨c, _, hw⟩
    exact call_settings c hw
  rw [← performAll_own hstore hwrites hf hidle hgentle]
  rcases read_field wiring addr f
    (performAll wiring addr (calls.flatMap Call.writes) bus).2 with ⟨bus', hread, _⟩
  rw [if_pos hget] at hread
  exact congrArg Prod.fst hread

def lossyWiring : Wiring where
  acks := fun _ n => n != 5 && n != 6
  store := fun _ => (chip fun _ => 0).store

/-- The range stays although the write of the high-pass filter is lost, and the
read before the write of the bandwidth. -/
theorem getField_run_lossyWiring :
    (getField accelRange lossyWiring { i2cDev := some MPU6050_I2CADDR_DEFAULT }
      (performAll lossyWiring MPU6050_I2CADDR_DEFAULT
        ([Call.setAccelerometerRange .MPU6050_RANGE_8_G,
          .setHighPassFilter .MPU6050_HIGHPASS_5_HZ,
          .setFilterBandwidth .MPU6050_BAND_5_HZ].flatMap Call.writes)
        { chip := fun _ => { regs := fun _ => 0, pointer := 0 }
          transactions := 0 }).2).1 = AccelRange.MPU6050_RANGE_8_G.value :=
  getField_run rfl _ (by decide) rfl (by decide +kernel) (by decide +kernel)

end MPU6050
end Libraries
end BoxTrials
