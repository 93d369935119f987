import BoxTrials.Libraries.RegisterFields

/-!
# The Adafruit MPU6050 library

The driver of an accelerometer.  Its settings are fields of the chip's registers,
and a sample is read from fourteen successive registers and scaled by the range
that is read after it.
-/

namespace BoxTrials
namespace Libraries

open Foundation
open BusIO

structure MPU6050 where
  i2cDev : Option Byte
  deriving DecidableEq, Repr

namespace MPU6050

/-!
# The chip
-/

abbrev MPU6050_I2CADDR_DEFAULT : Byte := 0x68#8
abbrev MPU6050_DEVICE_ID : BitVec 32 := 0x68#32

abbrev MPU6050_SMPLRT_DIV : Byte := 0x19#8
abbrev MPU6050_CONFIG : Byte := 0x1A#8
abbrev MPU6050_GYRO_CONFIG : Byte := 0x1B#8
abbrev MPU6050_ACCEL_CONFIG : Byte := 0x1C#8
abbrev MPU6050_MOT_THR : Byte := 0x1F#8
abbrev MPU6050_MOT_DUR : Byte := 0x20#8
abbrev MPU6050_INT_PIN_CONFIG : Byte := 0x37#8
abbrev MPU6050_INT_ENABLE : Byte := 0x38#8
abbrev MPU6050_INT_STATUS : Byte := 0x3A#8
abbrev MPU6050_ACCEL_OUT : Byte := 0x3B#8
abbrev MPU6050_SIGNAL_PATH_RESET : Byte := 0x68#8
abbrev MPU6050_USER_CTRL : Byte := 0x6A#8
abbrev MPU6050_PWR_MGMT_1 : Byte := 0x6B#8
abbrev MPU6050_PWR_MGMT_2 : Byte := 0x6C#8
abbrev MPU6050_WHO_AM_I : Byte := 0x75#8

inductive AccelRange where
  | MPU6050_RANGE_2_G
  | MPU6050_RANGE_4_G
  | MPU6050_RANGE_8_G
  | MPU6050_RANGE_16_G
  deriving DecidableEq, Repr

def AccelRange.value : AccelRange -> BitVec 32
  | MPU6050_RANGE_2_G => 0b00#32
  | MPU6050_RANGE_4_G => 0b01#32
  | MPU6050_RANGE_8_G => 0b10#32
  | MPU6050_RANGE_16_G => 0b11#32

inductive GyroRange where
  | MPU6050_RANGE_250_DEG
  | MPU6050_RANGE_500_DEG
  | MPU6050_RANGE_1000_DEG
  | MPU6050_RANGE_2000_DEG
  deriving DecidableEq, Repr

def GyroRange.value : GyroRange -> BitVec 32
  | MPU6050_RANGE_250_DEG => 0#32
  | MPU6050_RANGE_500_DEG => 1#32
  | MPU6050_RANGE_1000_DEG => 2#32
  | MPU6050_RANGE_2000_DEG => 3#32

inductive Bandwidth where
  | MPU6050_BAND_260_HZ
  | MPU6050_BAND_184_HZ
  | MPU6050_BAND_94_HZ
  | MPU6050_BAND_44_HZ
  | MPU6050_BAND_21_HZ
  | MPU6050_BAND_10_HZ
  | MPU6050_BAND_5_HZ
  deriving DecidableEq, Repr

def Bandwidth.value : Bandwidth -> BitVec 32
  | MPU6050_BAND_260_HZ => 0#32
  | MPU6050_BAND_184_HZ => 1#32
  | MPU6050_BAND_94_HZ => 2#32
  | MPU6050_BAND_44_HZ => 3#32
  | MPU6050_BAND_21_HZ => 4#32
  | MPU6050_BAND_10_HZ => 5#32
  | MPU6050_BAND_5_HZ => 6#32

inductive Highpass where
  | MPU6050_HIGHPASS_DISABLE
  | MPU6050_HIGHPASS_5_HZ
  | MPU6050_HIGHPASS_2_5_HZ
  | MPU6050_HIGHPASS_1_25_HZ
  | MPU6050_HIGHPASS_0_63_HZ
  | MPU6050_HIGHPASS_UNUSED
  | MPU6050_HIGHPASS_HOLD
  deriving DecidableEq, Repr

def Highpass.value : Highpass -> BitVec 32
  | MPU6050_HIGHPASS_DISABLE => 0#32
  | MPU6050_HIGHPASS_5_HZ => 1#32
  | MPU6050_HIGHPASS_2_5_HZ => 2#32
  | MPU6050_HIGHPASS_1_25_HZ => 3#32
  | MPU6050_HIGHPASS_0_63_HZ => 4#32
  | MPU6050_HIGHPASS_UNUSED => 5#32
  | MPU6050_HIGHPASS_HOLD => 6#32

inductive FsyncOut where
  | MPU6050_FSYNC_OUT_DISABLED
  | MPU6050_FSYNC_OUT_TEMP
  | MPU6050_FSYNC_OUT_GYROX
  | MPU6050_FSYNC_OUT_GYROY
  | MPU6050_FSYNC_OUT_GYROZ
  | MPU6050_FSYNC_OUT_ACCELX
  | MPU6050_FSYNC_OUT_ACCELY
  | MPU6050_FSYNC_OUT_ACCEL_Z
  deriving DecidableEq, Repr

def FsyncOut.value : FsyncOut -> BitVec 32
  | MPU6050_FSYNC_OUT_DISABLED => 0#32
  | MPU6050_FSYNC_OUT_TEMP => 1#32
  | MPU6050_FSYNC_OUT_GYROX => 2#32
  | MPU6050_FSYNC_OUT_GYROY => 3#32
  | MPU6050_FSYNC_OUT_GYROZ => 4#32
  | MPU6050_FSYNC_OUT_ACCELX => 5#32
  | MPU6050_FSYNC_OUT_ACCELY => 6#32
  | MPU6050_FSYNC_OUT_ACCEL_Z => 7#32

inductive ClockSelect where
  | MPU6050_INTR_8MHz
  | MPU6050_PLL_GYROX
  | MPU6050_PLL_GYROY
  | MPU6050_PLL_GYROZ
  | MPU6050_PLL_EXT_32K
  | MPU6050_PLL_EXT_19MHz
  | MPU6050_STOP
  deriving DecidableEq, Repr

def ClockSelect.value : ClockSelect -> BitVec 32
  | MPU6050_INTR_8MHz => 0#32
  | MPU6050_PLL_GYROX => 1#32
  | MPU6050_PLL_GYROY => 2#32
  | MPU6050_PLL_GYROZ => 3#32
  | MPU6050_PLL_EXT_32K => 4#32
  | MPU6050_PLL_EXT_19MHz => 5#32
  | MPU6050_STOP => 7#32

inductive CycleRate where
  | MPU6050_CYCLE_1_25_HZ
  | MPU6050_CYCLE_5_HZ
  | MPU6050_CYCLE_20_HZ
  | MPU6050_CYCLE_40_HZ
  deriving DecidableEq, Repr

def CycleRate.value : CycleRate -> BitVec 32
  | MPU6050_CYCLE_1_25_HZ => 0#32
  | MPU6050_CYCLE_5_HZ => 1#32
  | MPU6050_CYCLE_20_HZ => 2#32
  | MPU6050_CYCLE_40_HZ => 3#32

def chip (defaults : Nat -> Byte) : Memory where
  defaults := defaults
  resets := fun reg value =>
    decide (reg = MPU6050_PWR_MGMT_1.toNat) && value.getLsbD 7
  readOnly := fun reg =>
    decide (MPU6050_INT_STATUS.toNat ≤ reg ∧ reg < MPU6050_ACCEL_OUT.toNat + 14 ∨
      reg = MPU6050_WHO_AM_I.toNat)

/-!
# Settings
-/

def sampleRateDiv : Field := ⟨MPU6050_SMPLRT_DIV, 8, 0, by decide⟩
def fsyncOut : Field := ⟨MPU6050_CONFIG, 3, 3, by decide⟩
def filterConfig : Field := ⟨MPU6050_CONFIG, 3, 0, by decide⟩
def gyroRange : Field := ⟨MPU6050_GYRO_CONFIG, 2, 3, by decide⟩
def accelRange : Field := ⟨MPU6050_ACCEL_CONFIG, 2, 3, by decide⟩
def highPassConfig : Field := ⟨MPU6050_ACCEL_CONFIG, 3, 0, by decide⟩
def motionThreshold : Field := ⟨MPU6050_MOT_THR, 8, 0, by decide⟩
def motionDuration : Field := ⟨MPU6050_MOT_DUR, 8, 0, by decide⟩
def intLevel : Field := ⟨MPU6050_INT_PIN_CONFIG, 1, 7, by decide⟩
def intLatch : Field := ⟨MPU6050_INT_PIN_CONFIG, 1, 5, by decide⟩
def i2cBypass : Field := ⟨MPU6050_INT_PIN_CONFIG, 1, 1, by decide⟩
def intMotion : Field := ⟨MPU6050_INT_ENABLE, 1, 6, by decide⟩
def i2cMasterEnable : Field := ⟨MPU6050_USER_CTRL, 1, 5, by decide⟩
def deviceReset : Field := ⟨MPU6050_PWR_MGMT_1, 1, 7, by decide⟩
def sleep : Field := ⟨MPU6050_PWR_MGMT_1, 1, 6, by decide⟩
def cycle : Field := ⟨MPU6050_PWR_MGMT_1, 1, 5, by decide⟩
def tempStdby : Field := ⟨MPU6050_PWR_MGMT_1, 1, 3, by decide⟩
def clockSelect : Field := ⟨MPU6050_PWR_MGMT_1, 3, 0, by decide⟩
def cycleRate : Field := ⟨MPU6050_PWR_MGMT_2, 2, 6, by decide⟩
def accelStdby : Field := ⟨MPU6050_PWR_MGMT_2, 3, 3, by decide⟩
def gyroStdby : Field := ⟨MPU6050_PWR_MGMT_2, 3, 0, by decide⟩

def flag (b : Bool) : BitVec 32 :=
  (BitVec.ofBool b).setWidth 32

def setSampleRateDivisor (divisor : Byte) : FieldWrite :=
  { field := sampleRateDiv, data := divisor.setWidth 32, whole := true }

def setAccelerometerRange (newRange : AccelRange) : FieldWrite :=
  { field := accelRange, data := newRange.value }

def setGyroRange (newRange : GyroRange) : FieldWrite :=
  { field := gyroRange, data := newRange.value }

def setClock (newClock : ClockSelect) : FieldWrite :=
  { field := clockSelect, data := newClock.value }

def setFsyncSampleOutput (fsyncOutput : FsyncOut) : FieldWrite :=
  { field := fsyncOut, data := fsyncOutput.value }

def setFilterBandwidth (bandwidth : Bandwidth) : FieldWrite :=
  { field := filterConfig, data := bandwidth.value }

def setHighPassFilter (bandwidth : Highpass) : FieldWrite :=
  { field := highPassConfig, data := bandwidth.value }

def setInterruptPinPolarity (activeLow : Bool) : FieldWrite :=
  { field := intLevel, data := flag activeLow }

def setInterruptPinLatch (held : Bool) : FieldWrite :=
  { field := intLatch, data := flag held }

def setMotionInterrupt (active : Bool) : FieldWrite :=
  { field := intMotion, data := flag active }

def setMotionDetectionThreshold (thr : Byte) : FieldWrite :=
  { field := motionThreshold, data := thr.setWidth 32, whole := true }

def setMotionDetectionDuration (dur : Byte) : FieldWrite :=
  { field := motionDuration, data := dur.setWidth 32, whole := true }

def setI2CBypass (bypass : Bool) : List FieldWrite :=
  [{ field := i2cBypass, data := flag bypass },
    { field := i2cMasterEnable, data := flag (!bypass) }]

def enableSleep (enable : Bool) : FieldWrite :=
  { field := sleep, data := flag enable }

def enableCycle (enable : Bool) : FieldWrite :=
  { field := cycle, data := flag enable }

def setCycleRate (rate : CycleRate) : FieldWrite :=
  { field := cycleRate, data := rate.value }

def axes (xAxisStandby yAxisStandby zAxisStandby : Bool) : BitVec 32 :=
  (flag xAxisStandby <<< 2) ||| (flag yAxisStandby <<< 1) ||| flag zAxisStandby

def setGyroStandby (xAxisStandby yAxisStandby zAxisStandby : Bool) : FieldWrite :=
  { field := gyroStdby, data := axes xAxisStandby yAxisStandby zAxisStandby }

def setAccelerometerStandby (xAxisStandby yAxisStandby zAxisStandby : Bool) :
    FieldWrite :=
  { field := accelStdby, data := axes xAxisStandby yAxisStandby zAxisStandby }

def setTemperatureStandby (enable : Bool) : FieldWrite :=
  { field := tempStdby, data := flag enable }

inductive Call where
  | setSampleRateDivisor (divisor : Byte)
  | setAccelerometerRange (newRange : AccelRange)
  | setGyroRange (newRange : GyroRange)
  | setClock (newClock : ClockSelect)
  | setFsyncSampleOutput (fsyncOutput : FsyncOut)
  | setFilterBandwidth (bandwidth : Bandwidth)
  | setHighPassFilter (bandwidth : Highpass)
  | setInterruptPinPolarity (activeLow : Bool)
  | setInterruptPinLatch (held : Bool)
  | setMotionInterrupt (active : Bool)
  | setMotionDetectionThreshold (thr : Byte)
  | setMotionDetectionDuration (dur : Byte)
  | setI2CBypass (bypass : Bool)
  | enableSleep (enable : Bool)
  | enableCycle (enable : Bool)
  | setCycleRate (rate : CycleRate)
  | setGyroStandby (xAxisStandby yAxisStandby zAxisStandby : Bool)
  | setAccelerometerStandby (xAxisStandby yAxisStandby zAxisStandby : Bool)
  | setTemperatureStandby (enable : Bool)
  deriving DecidableEq, Repr

def Call.writes : Call -> List FieldWrite
  | setSampleRateDivisor divisor => [MPU6050.setSampleRateDivisor divisor]
  | setAccelerometerRange newRange => [MPU6050.setAccelerometerRange newRange]
  | setGyroRange newRange => [MPU6050.setGyroRange newRange]
  | setClock newClock => [MPU6050.setClock newClock]
  | setFsyncSampleOutput fsyncOutput => [MPU6050.setFsyncSampleOutput fsyncOutput]
  | setFilterBandwidth bandwidth => [MPU6050.setFilterBandwidth bandwidth]
  | setHighPassFilter bandwidth => [MPU6050.setHighPassFilter bandwidth]
  | setInterruptPinPolarity activeLow =>
      [MPU6050.setInterruptPinPolarity activeLow]
  | setInterruptPinLatch held => [MPU6050.setInterruptPinLatch held]
  | setMotionInterrupt active => [MPU6050.setMotionInterrupt active]
  | setMotionDetectionThreshold thr => [MPU6050.setMotionDetectionThreshold thr]
  | setMotionDetectionDuration dur => [MPU6050.setMotionDetectionDuration dur]
  | setI2CBypass bypass => MPU6050.setI2CBypass bypass
  | enableSleep enable => [MPU6050.enableSleep enable]
  | enableCycle enable => [MPU6050.enableCycle enable]
  | setCycleRate rate => [MPU6050.setCycleRate rate]
  | setGyroStandby x y z => [MPU6050.setGyroStandby x y z]
  | setAccelerometerStandby x y z => [MPU6050.setAccelerometerStandby x y z]
  | setTemperatureStandby enable => [MPU6050.setTemperatureStandby enable]

def getField (f : Field) (wiring : Wiring) (mpu : MPU6050) (bus : Bus) :
    BitVec 32 × Bus :=
  let slice : RegisterBits :=
    { register := { i2cdevice := mpu.i2cDev, address := f.reg.setWidth 16 }
      bits := f.bits
      shift := f.shift }
  slice.read wiring bus

def getAccelerometerRange := getField accelRange
def getGyroRange := getField gyroRange
def getClock := getField clockSelect
def getFsyncSampleOutput := getField fsyncOut
def getFilterBandwidth := getField filterConfig
def getHighPassFilter := getField highPassConfig
def getCycleRate := getField cycleRate

def getSampleRateDivisor (wiring : Wiring) (mpu : MPU6050) (bus : Bus) :
    Byte × Bus :=
  let register : Register :=
    { i2cdevice := mpu.i2cDev, address := MPU6050_SMPLRT_DIV.setWidth 16 }
  let (value, bus) := register.read wiring bus
  (value.setWidth 8, bus)

/-!
# Starting the sensor
-/

def performList (wiring : Wiring) (mpu : MPU6050) (writes : List FieldWrite)
    (bus : Bus) : Bus :=
  writes.foldl (fun bus w => (w.perform wiring mpu.i2cDev bus).2) bus

/-- The loop of `reset`, for at most so many polls. -/
def resetPolls (wiring : Wiring) (mpu : MPU6050) : Nat -> Bus -> Option Bus
  | 0, _ => none
  | polls + 1, bus =>
      let (value, bus) := getField deviceReset wiring mpu bus
      if value = 1#32 then
        resetPolls wiring mpu polls bus
      else
        some bus

def resetWrite : FieldWrite :=
  { field := deviceReset, data := 1#32 }

def sigPathReset : FieldWrite :=
  { field := ⟨MPU6050_SIGNAL_PATH_RESET, 8, 0, by decide⟩
    data := 0x7#32
    whole := true }

/-- `reset`, if it takes at most so many polls. -/
def reset (wiring : Wiring) (mpu : MPU6050) (polls : Nat) (bus : Bus) :
    Option Bus :=
  let bus := mpu.performList wiring [resetWrite] bus
  (resetPolls wiring mpu polls bus).map (mpu.performList wiring [sigPathReset])

/-- The clock is set to the PLL with the gyroscope's X axis. -/
def powerMgmt1 : FieldWrite :=
  { field := ⟨MPU6050_PWR_MGMT_1, 8, 0, by decide⟩, data := 0x01#32, whole := true }

def initWrites : List FieldWrite :=
  [setSampleRateDivisor 0, setFilterBandwidth .MPU6050_BAND_260_HZ,
    setGyroRange .MPU6050_RANGE_500_DEG,
    setAccelerometerRange .MPU6050_RANGE_2_G, powerMgmt1]

def init (wiring : Wiring) (mpu : MPU6050) (polls : Nat) (bus : Bus) :
    Option Bus :=
  (mpu.reset wiring polls bus).map (mpu.performList wiring initWrites)

/-- The loop that looks for the chip. -/
def findChip (wiring : Wiring) (addr : Byte) : Nat -> Bus -> Bool × Bus
  | 0, bus => (false, bus)
  | tries + 1, bus =>
      let (found, bus) := I2CDevice.begin wiring addr bus
      if found then
        (true, bus)
      else
        findChip wiring addr tries bus

/-- `begin`, if it takes at most so many polls of the reset. -/
def begin (wiring : Wiring) (addr : Byte) (polls : Nat) (bus : Bus) :
    Option (Bool × MPU6050 × Bus) :=
  let mpu : MPU6050 := { i2cDev := some addr }
  let (found, bus) := findChip wiring addr 5 bus
  if !found then
    some (false, mpu, bus)
  else
    let chipId : Register :=
      { i2cdevice := mpu.i2cDev, address := MPU6050_WHO_AM_I.setWidth 16 }
    let (id, bus) := chipId.read wiring bus
    if id ≠ MPU6050_DEVICE_ID then
      some (false, mpu, bus)
    else
      (mpu.init wiring polls bus).map fun bus => (true, mpu, bus)

/-!
# Samples
-/

structure Floats (real : Type) where
  ofInt : Int -> real
  div : real -> real -> real
  mul : real -> real -> real
  gravity : real

variable {real : Type}

structure AccelEvent (real : Type) where
  x : real
  y : real
  z : real

abbrev Buffer := Fin 14 -> Byte

def raw (high low : Byte) : Int :=
  (high ++ low).toInt

def accelScale (range : BitVec 32) : Int :=
  if range = AccelRange.MPU6050_RANGE_2_G.value then
    16384
  else if range = AccelRange.MPU6050_RANGE_4_G.value then
    8192
  else if range = AccelRange.MPU6050_RANGE_8_G.value then
    4096
  else if range = AccelRange.MPU6050_RANGE_16_G.value then
    2048
  else
    1

def sample (floats : Floats real) (buffer : Buffer) (range : BitVec 32) :
    AccelEvent real :=
  let scale := floats.ofInt (accelScale range)
  let axis := fun value =>
    floats.mul (floats.div (floats.ofInt value) scale) floats.gravity
  { x := axis (raw (buffer 0) (buffer 1))
    y := axis (raw (buffer 2) (buffer 3))
    z := axis (raw (buffer 4) (buffer 5)) }

def dataRegs (regs : Nat -> Byte) : Buffer :=
  fun i => regs (MPU6050_ACCEL_OUT.toNat + i)

/-- `getEvent`, with what is in the buffer of `_read` before. It stays there if
the read of the data fails, which nothing asks for. -/
def getEvent (floats : Floats real) (wiring : Wiring) (mpu : MPU6050)
    (buffer : Buffer) (bus : Bus) : AccelEvent real × Bus :=
  let dataReg : Register :=
    { i2cdevice := mpu.i2cDev
      address := MPU6050_ACCEL_OUT.setWidth 16
      width := 14 }
  let (bytes, bus) := dataReg.readBuffer wiring 14 bus
  let buffer : Buffer :=
    match bytes with
    | some bytes => fun i => bytes.getD i (buffer i)
    | none => buffer
  let (range, bus) := getAccelerometerRange wiring mpu bus
  let (_, bus) := getGyroRange wiring mpu bus
  (sample floats buffer range, bus)

end MPU6050
end Libraries
end BoxTrials
