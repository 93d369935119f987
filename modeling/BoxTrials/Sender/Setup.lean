import BoxTrials.Libraries.SensorStart
import BoxTrials.Sender.Loop

/-!
# Setting up a sensor board

`setup()` starts the radio and the sensor, takes the number of the board from its
address, and measures what the sensor shows at rest.
-/

namespace BoxTrials
namespace Sender

open Foundation
open Libraries
open Libraries.BusIO
open Libraries.MPU6050

variable {real : Type}

structure SketchOps (real : Type) extends FloatOps real, Floats real where
  add : real -> real -> real
  format : real -> String

structure SketchWorld where
  wiring : Wiring
  espNowInit : Int
  macAddress : String
  /-- What the sensor has measured when the `n`-th event is read. -/
  measured : Nat -> Buffer
  /-- What is in the buffer of the `n`-th event before it is read. -/
  stack : Nat -> Buffer

structure Sketch (real : Type) where
  board : Board real
  calM : real
  mpu : MPU6050
  bus : Bus
  events : Nat

def Sketch.powerOn (ops : SketchOps real) (bus : Bus) : Sketch real where
  board :=
    { lastTime := 0
      theshold := ops.ofInt 0
      previousMovingState := -1
      calX := ops.ofInt 0
      calY := ops.ofInt 0
      calZ := ops.ofInt 0
      myData :=
        { id := 0
          x := ops.ofInt 0
          y := ops.ofInt 0
          z := ops.ofInt 0
          m := ops.ofInt 0
          isMoving := false }
      serialOut := []
      id_nonneg := Int.le_refl 0
      id_le := (by decide : (0 : Int) ≤ 14) }
  calM := ops.ofInt 0
  mpu := { i2cDev := none }
  bus := bus
  events := 0

def Sketch.print (text : String) (s : Sketch real) : Sketch real :=
  { s with board := { s.board with serialOut := s.board.serialOut ++ [text] } }

/-!
# The sensor
-/

def measure (buffer : Buffer) (bus : Bus) : Bus :=
  let c := bus.chip MPU6050_I2CADDR_DEFAULT
  let regs := fun reg =>
    if h : MPU6050_ACCEL_OUT.toNat ≤ reg ∧ reg - MPU6050_ACCEL_OUT.toNat < 14 then
      buffer ⟨reg - MPU6050_ACCEL_OUT.toNat, h.right⟩
    else
      c.regs reg
  { bus with
    chip := Function.update bus.chip MPU6050_I2CADDR_DEFAULT { c with regs := regs } }

def Sketch.getEvent (ops : SketchOps real) (x : SketchWorld) (s : Sketch real) :
    Acceleration real × Sketch real :=
  let (a, bus) := MPU6050.getEvent ops.toFloats x.wiring s.mpu (x.stack s.events)
    (measure (x.measured s.events) s.bus)
  ({ x := a.x, y := a.y, z := a.z }, { s with bus := bus, events := s.events + 1 })

def Sketch.configure (x : SketchWorld) (w : FieldWrite) (s : Sketch real) :
    Sketch real :=
  { s with bus := s.mpu.performList x.wiring [w] s.bus }

/-!
# The number of the board
-/

def boardAddresses : List (String × Int) :=
  [("C8:C9:A3:0B:46:21", 1), ("24:D7:EB:C6:E5:7A", 2), ("50:02:91:EA:E3:13", 3),
    ("8C:CE:4E:CE:E8:1A", 4), ("48:3F:DA:7D:FD:6C", 5), ("D8:BF:C0:C1:2C:41", 6),
    ("E0:98:06:8A:B6:B4", 7), ("BC:DD:C2:6C:7D:3A", 8), ("8C:CE:4E:CC:60:6D", 9),
    ("48:3F:DA:5F:A9:EE", 10), ("50:02:91:DA:F1:66", 11), ("EC:FA:BC:4C:36:65", 12),
    ("8C:AA:B5:69:B5:10", 13), ("98:F4:AB:BE:A0:AB", 14)]

/-- The conditions on the address, one after the other. -/
def boardId (macAddress : String) (id : Int) : List (String × Int) -> Int
  | [] => id
  | (address, number) :: rest =>
      boardId macAddress (if macAddress = address then number else id) rest

def boardLines (macAddress text : String) : List (String × Int) -> List String
  | [] => []
  | (address, number) :: rest =>
      if macAddress = address then
        (text ++ toString number ++ "\r\n") :: boardLines macAddress text rest
      else
        boardLines macAddress text rest

theorem boardId_range (macAddress : String) {id : Int} (h : 0 ≤ id ∧ id ≤ 14)
    {addresses : List (String × Int)}
    (haddresses : forall entry, entry ∈ addresses -> 0 ≤ entry.2 ∧ entry.2 ≤ 14) :
    0 ≤ boardId macAddress id addresses ∧ boardId macAddress id addresses ≤ 14 := by
  induction addresses generalizing id with
  | nil => exact h
  | cons entry rest ih =>
      rw [boardId]
      apply ih _ fun e he => haddresses e (List.mem_cons_of_mem entry he)
      split
      · exact haddresses entry (List.mem_cons_self ..)
      · exact h

theorem boardAddresses_range : forall entry, entry ∈ boardAddresses ->
    0 ≤ entry.2 ∧ entry.2 ≤ 14 := by
  decide

def Sketch.setBoardId (x : SketchWorld) (s : Sketch real) : Sketch real :=
  have hrange := boardId_range x.macAddress ⟨s.board.id_nonneg, s.board.id_le⟩
    boardAddresses_range
  { s with
    board :=
      { s.board with
        myData :=
          { s.board.myData with
            id := boardId x.macAddress s.board.myData.id boardAddresses }
        serialOut := s.board.serialOut ++
          boardLines x.macAddress "Board ID: " boardAddresses
        id_nonneg := hrange.left
        id_le := hrange.right } }

/-!
# calibration
-/

def axesText (ops : SketchOps real) (a : Acceleration real) : String :=
  "x:" ++ ops.format a.x ++ " y:" ++ ops.format a.y ++ " z:" ++ ops.format a.z ++ " "

/-- The loop over the samples: their sums. -/
def Sketch.collect (ops : SketchOps real) (x : SketchWorld) :
    Nat -> Sketch real -> Acceleration real × Sketch real
  | 0, s => ({ x := ops.ofInt 0, y := ops.ofInt 0, z := ops.ofInt 0 }, s)
  | i + 1, s =>
      let (sum, s) := Sketch.collect ops x i s
      let (a, s) := s.getEvent ops x
      let sum : Acceleration real :=
        { x := ops.add sum.x a.x, y := ops.add sum.y a.y, z := ops.add sum.z a.z }
      (sum, s.print
        ("Runnig SUM(" ++ toString i ++ ")  " ++ axesText ops sum ++ "\n"))

@[irreducible] def numSamples : Nat := 1000

/-- The offsets and the threshold, from the means and one more event. -/
def Sketch.setCalibration (ops : SketchOps real) (cal a : Acceleration real)
    (s : Sketch real) : Sketch real :=
  let calM := ops.magnitude (ops.sub a.x cal.x) (ops.sub a.y cal.y)
    (ops.sub a.z cal.z)
  { s with
    board :=
      { s.board with
        calX := cal.x
        calY := cal.y
        calZ := cal.z
        theshold := ops.add calM (ops.ofInt 3) }
    calM := calM }

def Sketch.calibration (ops : SketchOps real) (x : SketchWorld) (s : Sketch real) :
    Sketch real :=
  let (sum, s) := (s.print "Calibrating MPU6050...\r\n").collect ops x numSamples
  let mean := fun value => ops.div value (ops.ofInt numSamples)
  let cal : Acceleration real := { x := mean sum.x, y := mean sum.y, z := mean sum.z }
  let (a, s) := s.getEvent ops x
  let s := s.setCalibration ops cal a
  (s.print "--- Finished Calibration ---\r\n").print
    (axesText ops cal ++ "m:" ++ ops.format s.calM ++ " Theshold:" ++
      ops.format s.board.theshold ++ " \n")

/-!
# setup
-/

inductive Setup (real : Type) where
  | polling
  /-- In `while (1) delay(10)`. -/
  | hung (s : Sketch real)
  | returned (s : Sketch real)

/-- The rest of `setup()` when the sensor has been found. -/
def Sketch.sensorFound (ops : SketchOps real) (x : SketchWorld) (s : Sketch real) :
    Sketch real :=
  let s := s.print "MPU6050 Found!\r\n"
  let s := s.configure x (setAccelerometerRange .MPU6050_RANGE_2_G)
  let s := s.print "Accelerometer range set to: +-2G\r\n"
  let s := s.configure x (setFilterBandwidth .MPU6050_BAND_5_HZ)
  let s := s.print "Filter bandwidth set to: 5 Hz\r\n"
  (s.setBoardId x).calibration ops x

/-- `setup()`, for at most so many polls. -/
def setup (ops : SketchOps real) (x : SketchWorld) (polls : Nat) (bus : Bus) :
    Setup real :=
  let s := Sketch.powerOn ops bus
  if x.espNowInit ≠ 0 then
    .returned (s.print "Error initializing ESP-NOW\r\n")
  else
    let s := s.print "Adafruit MPU6050 test!\r\n"
    match MPU6050.begin x.wiring MPU6050_I2CADDR_DEFAULT polls s.bus with
    | none => .polling
    | some (false, mpu, bus) =>
        let s : Sketch real := { s with mpu := mpu, bus := bus }
        .hung (s.print "Failed to find MPU6050 chip\r\n")
    | some (true, mpu, bus) =>
        let s : Sketch real := { s with mpu := mpu, bus := bus }
        .returned (s.sensorFound ops x)

/-- `setup()` of the sketch that tells the address of a board. -/
def getMacSetup (macAddress : String) : List String :=
  ["\r\n", "ESP Board MAC Address:  ", macAddress ++ "\r\n"] ++
    boardLines macAddress "Hello, I am ESP32 No"
      [("C8:C9:A3:0B:46:21", 1), ("24:D7:EB:C6:E5:7A", 2),
        ("50:02:91:EA:E3:13", 3), ("8C:CE:4E:CE:E8:1A", 4),
        ("48:3F:DA:7D:FD:6C", 5), ("D8:BF:C0:C1:2C:41", 6),
        ("E0:98:06:8A:B6:B4", 7), ("BC:DD:C2:6C:7D:3A", 8),
        ("8C:CE:4E:CC:60:6D", 9), ("48:3F:DA:5F:A9:EE", 10),
        ("50:02:91:DA:F1:66", 11), ("EC:FA:BC:4C:36:65", 12),
        ("8C:AA:B5:69:B5:10", 13), ("98:F4:AB:BE:A0:AB", 14)]

/-!
# The numbers

The addresses of the table are distinct, so the conditions on the address amount
to one lookup.
-/

theorem lookup_of_not_mem {macAddress : String} {addresses : List (String × Int)}
    (h : macAddress ∉ addresses.map Prod.fst) :
    addresses.lookup macAddress = none := by
  rw [List.lookup_eq_none_iff]
  intro entry hmem
  apply bne_iff_ne.mpr
  intro heq
  apply h
  rw [heq]
  exact List.mem_map_of_mem hmem

theorem boardId_lookup (macAddress : String) (id : Int)
    {addresses : List (String × Int)} (h : (addresses.map Prod.fst).Nodup) :
    boardId macAddress id addresses = (addresses.lookup macAddress).getD id := by
  induction addresses generalizing id with
  | nil => rfl
  | cons entry rest ih =>
      rw [List.map_cons, List.nodup_cons] at h
      rw [boardId, ih _ h.right, List.lookup_cons]
      by_cases heq : macAddress = entry.1
      · rw [lookup_of_not_mem (heq ▸ h.left), if_pos heq, beq_iff_eq.mpr heq]
        rfl
      · rw [if_neg heq, beq_eq_false_iff_ne.mpr heq]

theorem boardLines_lookup (macAddress text : String)
    {addresses : List (String × Int)} (h : (addresses.map Prod.fst).Nodup) :
    boardLines macAddress text addresses =
      ((addresses.lookup macAddress).map fun number =>
        text ++ toString number ++ "\r\n").toList := by
  induction addresses with
  | nil => rfl
  | cons entry rest ih =>
      rw [List.map_cons, List.nodup_cons] at h
      rw [boardLines, ih h.right, List.lookup_cons]
      by_cases heq : macAddress = entry.1
      · rw [lookup_of_not_mem (heq ▸ h.left), if_pos heq, beq_iff_eq.mpr heq]
        rfl
      · rw [if_neg heq, beq_eq_false_iff_ne.mpr heq]

theorem boardAddresses_nodup : (boardAddresses.map Prod.fst).Nodup := by
  decide

theorem boardNumbers_nodup : (boardAddresses.map Prod.snd).Nodup := by
  decide

theorem mem_of_lookup {macAddress : String} {number : Int}
    (h : boardAddresses.lookup macAddress = some number) :
    (macAddress, number) ∈ boardAddresses := by
  rcases List.lookup_eq_some_iff.mp h with ⟨before, after, hsplit, _⟩
  rw [hsplit]
  exact List.mem_append_right before (List.mem_cons_self ..)

theorem lookup_injective {a b : String} {number : Int}
    (ha : boardAddresses.lookup a = some number)
    (hb : boardAddresses.lookup b = some number) : a = b := by
  have hentries := List.inj_on_of_nodup_map boardNumbers_nodup (mem_of_lookup ha)
    (mem_of_lookup hb) rfl
  exact congrArg Prod.fst hentries

/-!
# Events

An event reads the sensor and sets nothing.
-/

structure Ranged (s : Sketch real) : Prop where
  mpu : s.mpu = { i2cDev := some MPU6050_I2CADDR_DEFAULT }
  range : accelRange.value (s.bus.regs MPU6050_I2CADDR_DEFAULT) = 0#8

theorem measure_data (buffer : Buffer) (bus : Bus) :
    dataRegs ((measure buffer bus).regs MPU6050_I2CADDR_DEFAULT) = buffer := by
  funext i
  have hle : MPU6050_ACCEL_OUT.toNat ≤ MPU6050_ACCEL_OUT.toNat + i :=
    Nat.le_add_right _ _
  simp only [dataRegs, measure, Bus.regs, Function.update_self,
    Nat.add_sub_cancel_left]
  exact dif_pos ⟨hle, i.isLt⟩

theorem measure_range (buffer : Buffer) (bus : Bus) :
    accelRange.value ((measure buffer bus).regs MPU6050_I2CADDR_DEFAULT) =
      accelRange.value (bus.regs MPU6050_I2CADDR_DEFAULT) := by
  have hout : ¬ (MPU6050_ACCEL_OUT.toNat ≤ accelRange.reg.toNat ∧
      accelRange.reg.toNat - MPU6050_ACCEL_OUT.toNat < 14) := by decide
  simp only [Field.value, measure, Bus.regs, Function.update_self, dif_neg hout]

/-- The transactions of the next event: whether its data and its range are
read. -/
def Sketch.dataRead (x : SketchWorld) (s : Sketch real) : Bool :=
  x.wiring.reads MPU6050_I2CADDR_DEFAULT s.bus.transactions

def Sketch.rangeRead (x : SketchWorld) (s : Sketch real) : Bool :=
  x.wiring.reads MPU6050_I2CADDR_DEFAULT
    (pollAt x.wiring MPU6050_I2CADDR_DEFAULT s.bus.transactions 1)

/-- The acceleration of the next event: what was measured, in the range of the
chip, or else what a lost read makes of it. -/
def Sketch.reading (ops : SketchOps real) (x : SketchWorld) (s : Sketch real) :
    Acceleration real :=
  let a := sample ops.toFloats
    (if s.dataRead x then x.measured s.events else x.stack s.events)
    (if s.rangeRead x then AccelRange.MPU6050_RANGE_2_G.value
      else AccelRange.MPU6050_RANGE_16_G.value)
  { x := a.x, y := a.y, z := a.z }

theorem range_read (through : Bool) :
    ((if through then 0#8 else accelRange.ones).setWidth 32 : BitVec 32) =
      if through then AccelRange.MPU6050_RANGE_2_G.value
      else AccelRange.MPU6050_RANGE_16_G.value := by
  cases through <;> decide

theorem Sketch.getEvent_spec (ops : SketchOps real) (x : SketchWorld)
    {s : Sketch real} (h : Ranged s) :
    exists bus', s.getEvent ops x =
        (s.reading ops x,
          { board := s.board, calM := s.calM, mpu := s.mpu, bus := bus',
            events := s.events + 1 }) ∧
      bus'.transactions =
        pollAt x.wiring MPU6050_I2CADDR_DEFAULT s.bus.transactions 3 ∧
      accelRange.value (bus'.regs MPU6050_I2CADDR_DEFAULT) = 0#8 := by
  rcases MPU6050.getEvent_spec ops.toFloats x.wiring MPU6050_I2CADDR_DEFAULT
    (x.stack s.events) (measure (x.measured s.events) s.bus) with
    ⟨bus', hevent, hcount, hregs⟩
  have htransactions : (measure (x.measured s.events) s.bus).transactions =
      s.bus.transactions := rfl
  rw [measure_data, measure_range, h.range, htransactions, range_read] at hevent
  refine ⟨bus', ?_, hcount, ?_⟩
  · simp only [Sketch.getEvent, h.mpu, hevent, Sketch.reading]
    rfl
  · rw [hregs, measure_range, h.range]

/-!
# After setup
-/

def sums (ops : SketchOps real) (n : Nat) (f : Nat -> real) : real :=
  (List.range n).foldl (fun sum k => ops.add sum (f k)) (ops.ofInt 0)

theorem sums_succ (ops : SketchOps real) (n : Nat) (f : Nat -> real) :
    sums ops (n + 1) f = ops.add (sums ops n f) (f n) := by
  rw [sums, List.range_succ, List.foldl_append]
  rfl

theorem Sketch.collect_spec (ops : SketchOps real) (x : SketchWorld)
    {s : Sketch real} (h : Ranged s) (i : Nat) :
    Ranged (s.collect ops x i).2 ∧
      (s.collect ops x i).2.board.myData.id = s.board.myData.id ∧
      (s.collect ops x i).2.board.previousMovingState =
        s.board.previousMovingState ∧
      (s.collect ops x i).2.events = s.events + i := by
  induction i with
  | zero => exact ⟨h, rfl, rfl, rfl⟩
  | succ i ih =>
      rcases ih with ⟨hranged, hid, hprevious, hevents⟩
      rcases Sketch.getEvent_spec ops x hranged with ⟨bus', hevent, _, hrange⟩
      simp only [Sketch.collect, hevent, Sketch.print]
      exact ⟨⟨hranged.mpu, hrange⟩, hid, hprevious, congrArg (· + 1) hevents⟩

theorem Sketch.collect_transactions (ops : SketchOps real) (x : SketchWorld)
    {s : Sketch real} (h : Ranged s) (i : Nat) :
    (s.collect ops x (i + 1)).2.bus.transactions =
      pollAt x.wiring MPU6050_I2CADDR_DEFAULT
        (s.collect ops x i).2.bus.transactions 3 := by
  have hranged := (Sketch.collect_spec ops x h i).left
  rcases Sketch.getEvent_spec ops x hranged with ⟨bus', hevent, hcount, _⟩
  simp only [Sketch.collect, hevent, Sketch.print]
  exact hcount

theorem Sketch.collect_sums (ops : SketchOps real) (x : SketchWorld)
    {s : Sketch real} (h : Ranged s) (i : Nat) :
    (s.collect ops x i).1 =
      { x := sums ops i fun k => ((s.collect ops x k).2.reading ops x).x
        y := sums ops i fun k => ((s.collect ops x k).2.reading ops x).y
        z := sums ops i fun k => ((s.collect ops x k).2.reading ops x).z } := by
  induction i with
  | zero => rfl
  | succ i ih =>
      have hranged := (Sketch.collect_spec ops x h i).left
      rcases Sketch.getEvent_spec ops x hranged with ⟨bus', hevent, _⟩
      simp only [Sketch.collect, hevent, ih, sums_succ]

structure SampledBy (ops : SketchOps real) (x : SketchWorld) (s : Sketch real)
    (u : Nat -> Sketch real) : Prop where
  events : forall k, (u k).events = k
  transactions : forall k, (u (k + 1)).bus.transactions =
    pollAt x.wiring MPU6050_I2CADDR_DEFAULT (u k).bus.transactions 3
  calX : s.board.calX = ops.div
    (sums ops numSamples fun k => ((u k).reading ops x).x) (ops.ofInt numSamples)
  calY : s.board.calY = ops.div
    (sums ops numSamples fun k => ((u k).reading ops x).y) (ops.ofInt numSamples)
  calZ : s.board.calZ = ops.div
    (sums ops numSamples fun k => ((u k).reading ops x).z) (ops.ofInt numSamples)
  /-- The threshold comes from one more event. -/
  theshold : s.board.theshold =
    ops.add
      (ops.magnitude (ops.sub ((u numSamples).reading ops x).x s.board.calX)
        (ops.sub ((u numSamples).reading ops x).y s.board.calY)
        (ops.sub ((u numSamples).reading ops x).z s.board.calZ))
      (ops.ofInt 3)
  eventsAfter : s.events = numSamples + 1
  transactionsAfter : s.bus.transactions =
    pollAt x.wiring MPU6050_I2CADDR_DEFAULT (u numSamples).bus.transactions 3

structure Calibrated (ops : SketchOps real) (x : SketchWorld) (s : Sketch real) :
    Prop where
  ranged : Ranged s
  id : s.board.myData.id = (boardAddresses.lookup x.macAddress).getD 0
  previous : s.board.previousMovingState = -1
  sampled : exists u, SampledBy ops x s u

theorem Calibrated.print {ops : SketchOps real} {x : SketchWorld} {s : Sketch real}
    (h : Calibrated ops x s) (text : String) : Calibrated ops x (s.print text) where
  ranged := ⟨h.ranged.mpu, h.ranged.range⟩
  id := h.id
  previous := h.previous
  sampled := by
    rcases h.sampled with ⟨u, hu⟩
    exact ⟨u, hu.events, hu.transactions, hu.calX, hu.calY, hu.calZ, hu.theshold,
      hu.eventsAfter, hu.transactionsAfter⟩

theorem setCalibration_calibrated {ops : SketchOps real} {x : SketchWorld}
    {t : Sketch real} {u : Nat -> Sketch real} {cal : Acceleration real}
    (hranged : Ranged t)
    (hid : t.board.myData.id = (boardAddresses.lookup x.macAddress).getD 0)
    (hprevious : t.board.previousMovingState = -1)
    (hevents : forall k, (u k).events = k)
    (htransactions : forall k, (u (k + 1)).bus.transactions =
      pollAt x.wiring MPU6050_I2CADDR_DEFAULT (u k).bus.transactions 3)
    (hx : cal.x = ops.div (sums ops numSamples fun k => ((u k).reading ops x).x)
      (ops.ofInt numSamples))
    (hy : cal.y = ops.div (sums ops numSamples fun k => ((u k).reading ops x).y)
      (ops.ofInt numSamples))
    (hz : cal.z = ops.div (sums ops numSamples fun k => ((u k).reading ops x).z)
      (ops.ofInt numSamples))
    (hafter : t.events = (u numSamples).events + 1)
    (hbus : t.bus.transactions =
      pollAt x.wiring MPU6050_I2CADDR_DEFAULT (u numSamples).bus.transactions 3) :
    Calibrated ops x
      (t.setCalibration ops cal ((u numSamples).reading ops x)) where
  ranged := ⟨hranged.mpu, hranged.range⟩
  id := hid
  previous := hprevious
  sampled := by
    rw [hevents] at hafter
    exact ⟨u, hevents, htransactions, hx, hy, hz, rfl, hafter, hbus⟩

theorem calibration_calibrated (ops : SketchOps real) (x : SketchWorld)
    {s : Sketch real} (h : Ranged s)
    (hid : s.board.myData.id = (boardAddresses.lookup x.macAddress).getD 0)
    (hprevious : s.board.previousMovingState = -1) (hevents : s.events = 0) :
    Calibrated ops x (s.calibration ops x) := by
  have hprint : Ranged (s.print "Calibrating MPU6050...\r\n") := ⟨h.mpu, h.range⟩
  have hspec := Sketch.collect_spec ops x hprint
  have htransactions := Sketch.collect_transactions ops x hprint
  have hsums := Sketch.collect_sums ops x hprint
  have hevents' : forall k,
      ((s.print "Calibrating MPU6050...\r\n").collect ops x k).2.events = k := by
    intro k
    rw [(hspec k).right.right.right, Sketch.print, hevents, Nat.zero_add]
  rw [Sketch.calibration]
  -- The loop is not run: only what it leaves is of use from here on.
  have hloop : exists c : Nat -> Acceleration real × Sketch real, forall k,
      (s.print "Calibrating MPU6050...\r\n").collect ops x k = c k :=
    ⟨_, fun _ => rfl⟩
  rcases hloop with ⟨c, hc⟩
  simp only [hc] at hspec htransactions hsums hevents' ⊢
  rcases hspec numSamples with ⟨hranged, hid', hprevious', _⟩
  rcases Sketch.getEvent_spec ops x hranged with ⟨bus', hevent, hcount, hrange⟩
  simp only [hevent, hsums]
  apply Calibrated.print
  apply Calibrated.print
  apply setCalibration_calibrated (u := fun k => (c k).2)
  case hranged => exact ⟨hranged.mpu, hrange⟩
  case hid => exact hid'.trans hid
  case hprevious => exact hprevious'.trans hprevious
  case hevents => exact hevents'
  case htransactions => exact htransactions
  case hx | hy | hz | hafter => rfl
  case hbus => exact hcount

theorem configure_range {x : SketchWorld} {defaults : Nat -> Byte}
    (hstore : x.wiring.store MPU6050_I2CADDR_DEFAULT = (chip defaults).store)
    (hdefaults : accelRange.value defaults = 0#8) {w : FieldWrite}
    (hw : KeepsRange w) {s : Sketch real} (h : Ranged s) :
    Ranged (s.configure x w) := by
  constructor
  case mpu => exact h.mpu
  case range =>
    simp only [Sketch.configure, h.mpu]
    exact performList_range hstore hdefaults
      (fun w' hw' => List.mem_singleton.mp hw' ▸ hw) h.range

theorem Ranged.print {s : Sketch real} (h : Ranged s) (text : String) :
    Ranged (s.print text) :=
  ⟨h.mpu, h.range⟩

theorem Ranged.setBoardId {s : Sketch real} (h : Ranged s) (x : SketchWorld) :
    Ranged (s.setBoardId x) :=
  ⟨h.mpu, h.range⟩

theorem sensorFound_calibrated {ops : SketchOps real} {x : SketchWorld}
    {defaults : Nat -> Byte}
    (hstore : x.wiring.store MPU6050_I2CADDR_DEFAULT = (chip defaults).store)
    (hdefaults : accelRange.value defaults = 0#8) {s : Sketch real} (h : Ranged s)
    (hid : s.board.myData.id = 0) (hprevious : s.board.previousMovingState = -1)
    (hevents : s.events = 0) : Calibrated ops x (s.sensorFound ops x) := by
  have hrange := configure_range hstore hdefaults
    (w := setAccelerometerRange .MPU6050_RANGE_2_G) (Or.inl ⟨rfl, rfl⟩)
    (h.print "MPU6050 Found!\r\n")
  have hfilter := configure_range hstore hdefaults
    (w := setFilterBandwidth .MPU6050_BAND_5_HZ) (Or.inr (by decide))
    (hrange.print "Accelerometer range set to: +-2G\r\n")
  apply calibration_calibrated
  case h => exact (hfilter.print "Filter bandwidth set to: 5 Hz\r\n").setBoardId x
  case hid =>
    rw [← boardId_lookup x.macAddress 0 boardAddresses_nodup, ← hid]
    rfl
  case hprevious => exact hprevious
  case hevents => exact hevents

/-- What `setup()` comes to when the radio works. -/
theorem setup_cases (ops : SketchOps real) {x : SketchWorld} {bus : Bus}
    (h : PoweredOn x.wiring MPU6050_I2CADDR_DEFAULT bus) (hradio : x.espNowInit = 0)
    (polls : Nat) :
    (exists t k s, StartsAt x.wiring MPU6050_I2CADDR_DEFAULT bus.transactions t k ∧
        setup ops x polls bus = .returned s ∧ Calibrated ops x s) ∨
      ((exists s, setup ops x polls bus = .hung s) ∧ forall t k,
        ¬ StartsAt x.wiring MPU6050_I2CADDR_DEFAULT bus.transactions t k) ∨
      (setup ops x polls bus = .polling ∧ forall t k,
        StartsAt x.wiring MPU6050_I2CADDR_DEFAULT bus.transactions t k ->
          polls ≤ k) := by
  have hbus : ((Sketch.powerOn ops bus).print "Adafruit MPU6050 test!\r\n").bus =
      bus := rfl
  rw [setup, if_neg (not_not.mpr hradio)]
  simp only [hbus]
  rcases begin_cases h polls with ⟨t, k, bus', hstarts, hbegin, hrange⟩ |
    ⟨hbegin, hnot⟩ | ⟨hbegin, hlater⟩
  · rw [hbegin]
    exact Or.inl ⟨t, k, _, hstarts, rfl,
      sensorFound_calibrated h.store h.range ⟨rfl, hrange⟩ rfl rfl rfl⟩
  · rcases Option.map_eq_some_iff.mp hbegin with
      ⟨⟨found, mpu, bus'⟩, hresult, hfound⟩
    simp only at hfound
    rw [hresult, hfound]
    exact Or.inr (Or.inl ⟨⟨_, rfl⟩, hnot⟩)
  · rw [hbegin]
    exact Or.inr (Or.inr ⟨rfl, hlater⟩)

theorem setup_calibrated {ops : SketchOps real} {x : SketchWorld} {polls : Nat}
    {bus : Bus} {s : Sketch real}
    (h : PoweredOn x.wiring MPU6050_I2CADDR_DEFAULT bus) (hradio : x.espNowInit = 0)
    (hreturned : setup ops x polls bus = .returned s) : Calibrated ops x s := by
  rcases setup_cases ops h hradio polls with ⟨_, _, t, _, hsetup, hcalibrated⟩ |
    ⟨⟨t, hsetup⟩, _⟩ | ⟨hsetup, _⟩
  · rw [hreturned] at hsetup
    exact Setup.returned.inj hsetup ▸ hcalibrated
  · rw [hreturned] at hsetup
    cases hsetup
  · rw [hreturned] at hsetup
    cases hsetup

/-!
# A board on the bench
-/

def benchOps : SketchOps Int where
  sub := fun a b => a - b
  magnitude := fun x y z => max x.natAbs (max y.natAbs z.natAbs)
  gt := fun a b => decide (a > b)
  ofInt := fun n => n
  div := fun a b => a / b
  mul := fun a b => a * b
  gravity := 10
  add := fun a b => a + b
  format := toString

def benchRegs (reg : Nat) : Byte :=
  if reg = MPU6050_WHO_AM_I.toNat then 0x68#8
  else if reg = MPU6050_PWR_MGMT_1.toNat then 0x40#8
  else 0#8

def benchBus : Bus where
  chip := fun _ => { regs := benchRegs, pointer := 0 }
  transactions := 0

/-- A board of the given address that lies still. -/
def benchWorld (macAddress : String) : SketchWorld where
  wiring := { acks := fun _ _ => true, store := fun _ => (chip benchRegs).store }
  espNowInit := 0
  macAddress := macAddress
  measured := fun _ i => if i.val = 4 then 0x40#8 else 0#8
  stack := fun _ _ => 0#8

theorem benchPoweredOn (macAddress : String) :
    PoweredOn (benchWorld macAddress).wiring MPU6050_I2CADDR_DEFAULT benchBus where
  store := rfl
  id := rfl
  idle := rfl
  range := by decide

theorem benchStarts (macAddress : String) :
    StartsAt (benchWorld macAddress).wiring MPU6050_I2CADDR_DEFAULT
      benchBus.transactions 0 0 where
  tries := by decide
  silent := fun j hj => absurd hj (Nat.not_lt_zero j)
  answers := rfl
  identified := rfl
  polled := rfl

theorem benchReturned (macAddress : String) (measured : Nat -> Buffer) : exists s,
    setup benchOps { benchWorld macAddress with measured := measured } 1 benchBus =
      .returned s := by
  have hpoweredOn : PoweredOn
      ({ benchWorld macAddress with measured := measured } : SketchWorld).wiring
      MPU6050_I2CADDR_DEFAULT benchBus := benchPoweredOn macAddress
  rcases setup_cases benchOps hpoweredOn rfl 1 with
    ⟨_, _, s, _, hsetup, _⟩ | ⟨_, hnot⟩ | ⟨_, hlater⟩
  · exact ⟨s, hsetup⟩
  · exact absurd (benchStarts macAddress) (hnot 0 0)
  · exact absurd (hlater 0 0 (benchStarts macAddress)) (by decide)

/-!
# When setup comes back
-/

/-- `setup()` comes back if the radio fails, or if the sensor is found and its
reset is seen to be over. -/
theorem setup_returns (ops : SketchOps real) {x : SketchWorld} {bus : Bus}
    (h : PoweredOn x.wiring MPU6050_I2CADDR_DEFAULT bus) :
    (exists polls s, setup ops x polls bus = .returned s) <->
      x.espNowInit ≠ 0 ∨ exists t k,
        StartsAt x.wiring MPU6050_I2CADDR_DEFAULT bus.transactions t k := by
  by_cases hradio : x.espNowInit = 0
  · constructor
    · rintro ⟨polls, s, hreturned⟩
      rcases setup_cases ops h hradio polls with ⟨t, k, _, hstarts, _⟩ |
        ⟨⟨_, hsetup⟩, _⟩ | ⟨hsetup, _⟩
      · exact Or.inr ⟨t, k, hstarts⟩
      · rw [hreturned] at hsetup
        cases hsetup
      · rw [hreturned] at hsetup
        cases hsetup
    · intro hstarts
      rcases hstarts.resolve_left (not_not.mpr hradio) with ⟨t, k, hstarts⟩
      rcases setup_cases ops h hradio (k + 1) with ⟨_, _, s, _, hsetup, _⟩ |
        ⟨_, hnot⟩ | ⟨_, hlater⟩
      · exact ⟨k + 1, s, hsetup⟩
      · exact absurd hstarts (hnot t k)
      · exact absurd (hlater t k hstarts) (Nat.not_succ_le_self k)
  · constructor
    · exact fun _ => Or.inl hradio
    · intro _
      refine ⟨0, (Sketch.powerOn ops bus).print "Error initializing ESP-NOW\r\n", ?_⟩
      rw [setup, if_pos hradio]

theorem setup_returns_bench : exists polls s,
    setup benchOps (benchWorld "24:D7:EB:C6:E5:7A") polls benchBus = .returned s :=
  (setup_returns benchOps (benchPoweredOn _)).mpr (Or.inr ⟨0, 0, benchStarts _⟩)

end Sender
end BoxTrials
