import BoxTrials.Receiver.Display
import BoxTrials.Receiver.SetupRun

/-!
# From power on

The whole program on its bus: `setup()` with the looks at the table that it
takes, and `loop()` after it.  What the boards show is read off the output
registers of the expanders.
-/

namespace BoxTrials
namespace Receiver

open Foundation
open Libraries
open Libraries.ArduinoTimer
open Libraries.BusIO

/-!
# A later start

Setup reads from outside as well, so the loop begins with a later read.
-/

def World.shift (w : World) (r : Nat) : World where
  time n := w.time (n + r)
  time_mono _ _ h := w.time_mono (Nat.add_le_add_right h r)
  isMoving n i := w.isMoving (n + r) i
  command n := w.command (n + r)

def Device.shift (d : Device) (r : Nat) : Device :=
  { d with reads := d.reads + r }

@[simp] theorem shift_globals (d : Device) (r : Nat) :
    (d.shift r).globals = d.globals := rfl

@[simp] theorem shift_pc (d : Device) (r : Nat) : (d.shift r).pc = d.pc := rfl

@[simp] theorem shift_reads_succ (d : Device) (r : Nat) :
    (d.shift r).reads + 1 = d.reads + 1 + r :=
  Nat.add_right_comm ..

theorem millis_shift (w : World) (r : Nat) (d : Device) :
    millis w (d.shift r) =
      ((millis (w.shift r) d).1, (millis (w.shift r) d).2.shift r) := by
  simp only [millis, shift_reads_succ]
  rfl

theorem callHandler_shift (r : Nat) (h : Handler) (d : Device) :
    callHandler h (d.shift r) =
      ((callHandler h d).1, (callHandler h d).2.shift r) := by
  cases h
  by_cases hidle : d.globals.currentTrial < 1 ∨ d.globals.state ≠ MODE_STREAM
  · simp [callHandler, timerEventWriteSTREAM, hidle]
  · cases hwritten : (d.globals.writePacket STREAM d.globals.currentObject
      d.globals.currentTrial).1 <;>
      simp [callHandler, timerEventWriteSTREAM, hidle, hwritten] <;> rfl

theorem tick_shift (w : World) (r : Nat) (d : Device) :
    tick w (d.shift r) = (tick (w.shift r) d).shift r := by
  have h := tickSlots_map (fun d : Device => d.shift r) (millis_shift w r)
    (callHandler_shift r) d.globals.timer.slots d
  simp only [tick, Timer.tick, shift_globals, h]
  rfl

theorem withTarget_shift (r : Nat) (next next' : Int -> Device) (d : Device)
    (h : forall b, next' b = (next b).shift r) :
    (d.shift r).withTarget next' = (d.withTarget next).shift r := by
  unfold Device.withTarget
  rw [shift_globals]
  cases d.globals.target with
  | none => rfl
  | some b => exact h b

theorem light_shift (r : Nat) (color : Int -> Pins -> Pins) (next : Pc)
    (d : Device) : (d.shift r).light color next = (d.light color next).shift r := by
  unfold Device.light
  rw [shift_globals]
  split
  · rfl
  · exact withTarget_shift r _ _ d fun _ => rfl

theorem scanStep_shift (w : World) (r s : Nat) (j : Int) (d : Device) :
    scanStep w s j (d.shift r) = (scanStep (w.shift r) s j d).shift r := by
  unfold scanStep
  split
  · apply withTarget_shift r _ _ d
    intro b
    have hmoving : w.isMoving (d.shift r).reads j =
        (w.shift r).isMoving d.reads j := rfl
    simp only [hmoving, shift_reads_succ]
    split_ifs <;> rfl
  · rfl

theorem testStep_shift (w : World) (r : Nat) (d : Device) :
    testStep w (d.shift r) = (testStep (w.shift r) d).shift r := by
  unfold testStep
  rw [shift_pc]
  cases d.pc with
  | trialHead =>
      simp only [millis_shift, shift_globals]
      split <;> rfl
  | trialTick s | passTick s =>
      simp only [tick_shift]
      rfl
  | moveMe s => exact light_shift r moveMe (.waitHead s) d
  | waitHead s =>
      simp only [millis_shift]
      rw [shift_globals]
      split <;> rfl
  | readTarget s =>
      apply withTarget_shift r _ _ d
      intro b
      have hmoving : w.isMoving (d.shift r).reads b =
          (w.shift r).isMoving d.reads b := rfl
      simp only [hmoving, shift_reads_succ]
      split <;> rfl
  | scan s j => exact scanStep_shift w r s j d
  | respond outcome =>
      cases outcome with
      | correct => exact light_shift r moveMeCorrect (.trialEnd .correct) d
      | wrongBox => rfl
      | timeout => exact light_shift r moveMeWrong (.trialEnd .timeout) d
  | flash j =>
      simp only []
      split
      · exact light_shift r moveMeWrong (.gap j) d
      · rfl
  | gap j => rfl
  | trialEnd outcome => rfl
  | loopTop | loopStream | returned | undefined => rfl

theorem step_shift (w : World) (r : Nat) (d : Device) :
    step w (d.shift r) = (step (w.shift r) d).shift r := by
  by_cases htest : d.pc.inTest = true
  · have htest' : (d.shift r).pc.inTest = true := htest
    rw [step_of_inTest w htest', step_of_inTest (w.shift r) htest, testStep_shift]
  · unfold step
    rw [shift_pc]
    cases hpc : d.pc with
    | loopTop =>
        have hcommand : w.command (d.shift r).reads = (w.shift r).command d.reads := rfl
        simp only [hcommand, shift_reads_succ]
        cases (w.shift r).command d.reads with
        | none => rfl
        | some c =>
            simp only [receive, shift_reads_succ]
            rfl
    | loopStream =>
        simp only [tick_shift, shift_globals]
        split <;> rfl
    | returned => rfl
    | undefined => rfl
    | _ => exact testStep_shift w r d

/-!
# The LED calls of a step
-/

def Device.colorCalls (d : Device) (red blue green : Int) : List LedCall :=
  match d.globals.target with
  | none => []
  | some b =>
      if 1 ≤ b ∧ b ≤ 12 then
        [.setBoardColor b red blue green]
      else
        []

def Device.nextCalls (d : Device) : List LedCall :=
  match d.pc with
  | .moveMe _ => d.colorCalls 0 1 0
  | .respond .correct => d.colorCalls 0 0 1
  | .respond .timeout => d.colorCalls 1 0 0
  | .flash j => if j < 5 then d.colorCalls 1 0 0 else []
  | .gap _ | .trialEnd _ => [.rgbReset]
  | _ => []

theorem light_colorCalls (d : Device) (red blue green : Int) (next : Pc) :
    (d.light (colorTarget (level red) (level blue) (level green)) next).pins =
      (d.colorCalls red blue green).foldl (fun pins c => c.write pins) d.pins := by
  rw [Device.light, Device.withTarget, Device.colorCalls]
  cases hsequence : d.globals.trialSequence with
  | none =>
      have htarget : d.globals.target = none := by
        rw [Globals.target, hsequence]
      rw [if_pos rfl, htarget]
      rfl
  | some sequence =>
      rw [if_neg (by simp)]
      cases d.globals.target with
      | none => rfl
      | some b =>
          simp only [colorTarget]
          split <;> rfl

theorem step_pins (w : World) (d : Device) :
    (step w d).pins = d.nextCalls.foldl (fun pins c => c.write pins) d.pins := by
  by_cases htest : d.pc.inTest = true
  · rw [step_of_inTest w htest]
    cases hpc : d.pc with
    | trialHead =>
        simp only [testStep, Device.nextCalls, hpc]
        split <;> rfl
    | trialTick s | passTick s =>
        simp only [testStep, Device.nextCalls, hpc]
        exact (tick_ticked w d).pins
    | moveMe s =>
        simp only [testStep, Device.nextCalls, hpc]
        exact light_colorCalls d 0 1 0 (.waitHead s)
    | waitHead s =>
        simp only [testStep, Device.nextCalls, hpc]
        split <;> rfl
    | readTarget s =>
        simp only [testStep, Device.withTarget, Device.nextCalls, hpc]
        split
        · rfl
        · split <;> rfl
    | scan s j =>
        simp only [testStep, scanStep, Device.withTarget, Device.nextCalls, hpc]
        split
        · split
          · rfl
          · split_ifs <;> rfl
        · rfl
    | respond outcome =>
        cases outcome with
        | correct =>
            simp only [testStep, Device.nextCalls, hpc]
            exact light_colorCalls d 0 0 1 (.trialEnd .correct)
        | wrongBox =>
            simp only [testStep, Device.nextCalls, hpc]
            rfl
        | timeout =>
            simp only [testStep, Device.nextCalls, hpc]
            exact light_colorCalls d 1 0 0 (.trialEnd .timeout)
    | flash j =>
        simp only [testStep, Device.nextCalls, hpc]
        split
        · exact light_colorCalls d 1 0 0 (.gap j)
        · rfl
    | gap j | trialEnd outcome =>
        simp only [testStep, Device.nextCalls, hpc]
        rfl
    | loopTop | loopStream | returned | undefined =>
        rw [hpc] at htest
        cases htest
  · cases hpc : d.pc with
    | loopTop =>
        simp only [step, Device.nextCalls, hpc]
        split <;> rfl
    | loopStream =>
        simp only [step, Device.nextCalls, hpc]
        split
        · exact (tick_ticked w d).pins
        · rfl
    | returned | undefined =>
        simp only [step, Device.nextCalls, hpc]
        rfl
    | _ => simp [hpc, Pc.inTest, Pc.inTrial] at htest

/-!
# The machine
-/

structure Machine where
  setup : Setup
  device : Device

/-- One step: of setup, and once it is done of `loop()`, whose LED calls go to the
objects that setup has left. -/
def machineStep (x : SetupWorld) (m : Machine) : Machine :=
  if m.setup.pc = .done then
    { setup :=
        { m.setup with
          bus := performLedCalls x.wiring m.setup.aws m.device.nextCalls m.setup.bus }
      device := step x.world m.device }
  else
    { setup := setupStep x m.setup
      device := Device.boot.shift (setupStep x m.setup).reads }

def machineRun (x : SetupWorld) (bus : Bus) (n : Nat) : Machine :=
  (machineStep x)^[n] { setup := Setup.start bus, device := Device.boot }

theorem machineRun_succ (x : SetupWorld) (bus : Bus) (n : Nat) :
    machineRun x bus (n + 1) = machineStep x (machineRun x bus n) :=
  Function.iterate_succ_apply' (machineStep x) n _

structure Loops (x : SetupWorld) (m : Machine) (k : Nat) : Prop where
  device : m.device = (run (x.world.shift m.setup.reads) k).shift m.setup.reads
  done : m.setup.pc ≠ .done -> k = 0

/-- The loop after setup is the one that the statements about runs are about, in
the world from the end of setup on. -/
theorem machineStep_loops {x : SetupWorld} {m : Machine} {k : Nat}
    (h : Loops x m k) : exists k', Loops x (machineStep x m) k' := by
  unfold machineStep
  split
  · rename_i hdone
    -- A step of the loop, seen from the end of setup.
    refine ⟨k + 1, ?_, fun hnot => absurd hdone hnot⟩
    show step x.world m.device = _
    rw [h.device, step_shift, run, run, Function.iterate_succ_apply']
  · exact ⟨0, rfl, fun _ => rfl⟩

theorem machineRun_loops (x : SetupWorld) (bus : Bus) (n : Nat) :
    exists k, Loops x (machineRun x bus n) k := by
  induction n with
  | zero => exact ⟨0, rfl, fun _ => rfl⟩
  | succ n ih =>
      rcases ih with ⟨k, hk⟩
      rw [machineRun_succ]
      exact machineStep_loops hk

/-!
# Failures after setup
-/

def LoopBegun (x : SetupWorld) (bus : Bus) (m : Machine) : Prop :=
  if m.setup.pc = .done then
    x.espNowInit = 0 -> m.setup.aws = Expanders.begun
  else
    Begun x bus m.setup

theorem machineStep_begun {x : SetupWorld} {defaults : Expander -> Nat -> Byte}
    (hchips : forall aw : Expander,
      x.wiring.store aw.address = AW9523.chipStore (defaults aw))
    {bus : Bus} {m : Machine} (h : LoopBegun x bus m) :
    LoopBegun x bus (machineStep x m) := by
  unfold LoopBegun at h
  unfold machineStep
  split
  · rename_i hdone
    rw [if_pos hdone] at h
    unfold LoopBegun
    rw [if_pos hdone]
    exact h
  · rename_i hdone
    rw [if_neg hdone] at h
    have hnext := setupStep_begun h
    unfold LoopBegun
    split
    · rename_i hdone'
      have hend : (setupStep x m.setup).pc = .done := hdone'
      intro hinit
      unfold Begun at hnext
      simp only [hend] at hnext
      rcases hnext with hfailed | hstarted
      · exact absurd hinit hfailed.radio
      · exact hstarted.aws.trans (startExpanders_started hchips hstarted.started).left
    · exact hnext

/-- In a run on a bus with the expanders, whatever fails there, a step after
setup gives each pin the level of its last call that gets through to it. -/
theorem pinLevel_machineRun {x : SetupWorld} (hwiring : HasExpanders x.wiring)
    (hinit : x.espNowInit = 0) (bus : Bus) {n : Nat}
    (hdone : (machineRun x bus n).setup.pc = .done) (aw : Expander) {pin : Nat}
    (hpin : pin < 16) :
    pinLevel (machineRun x bus (n + 1)).setup.bus aw pin =
      (lastValue (PinWrite.effect x.wiring aw pin)
        (numbered x.wiring (machineRun x bus n).setup.bus.transactions
          ((machineRun x bus n).device.nextCalls.flatMap LedCall.pinWrites))).getD
        (pinLevel (machineRun x bus n).setup.bus aw pin) := by
  have hbegun : forall n, LoopBegun x bus (machineRun x bus n) := by
    intro n
    induction n with
    | zero => exact ⟨rfl, rfl, rfl⟩
    | succ n ih =>
        rw [machineRun_succ]
        exact machineStep_begun (fun aw => (hwiring aw).choose_spec) ih
  have haws := hbegun n
  unfold LoopBegun at haws
  rw [if_pos hdone] at haws
  rw [machineRun_succ, machineStep, if_pos hdone]
  simp only [haws hinit]
  exact pinLevel_ledCalls hwiring _ _ aw hpin

/-- Box 3 is commanded after setup, in which all boards moved, and one read of a
register fails. -/
def lossyTable : SetupWorld where
  world := World.scripted
    (List.replicate 12 (Command.ofFields PING 0 0) ++
      [Command.ofFields NTRIALS 0 1, Command.ofFields TRIAL 3 1,
        Command.ofFields TIMEOUT 0 1000, Command.ofFields SAMPLERATE 0 20,
        Command.ofFields STREAM 0 1])
    (fun n => n) monotone_id (fun _ _ => true)
  wiring := workbench fun _ n => decide (n ≠ 8065)
  espNowInit := 0

/-- The read is one of those of `MoveMe`, which is called in step 66. -/
theorem pinLevel_machineRun_lossyTable :
    (machineRun lossyTable poweredBus 65).setup.pc = .done ∧
      pinLevel (machineRun lossyTable poweredBus (65 + 1)).setup.bus .aw1 12 =
        (lastValue (PinWrite.effect lossyTable.wiring .aw1 12)
          (numbered lossyTable.wiring
            (machineRun lossyTable poweredBus 65).setup.bus.transactions
            ((machineRun lossyTable poweredBus 65).device.nextCalls.flatMap
              LedCall.pinWrites))).getD
          (pinLevel (machineRun lossyTable poweredBus 65).setup.bus .aw1 12) :=
  ⟨by decide +kernel,
    pinLevel_machineRun (hasExpanders_workbench _) rfl poweredBus (by decide +kernel)
      .aw1 (by decide)⟩

/-!
# What the boards show after setup
-/

structure LoopShows (m : Machine) : Prop where
  aws : m.setup.aws = Expanders.begun
  configured : Configured m.setup.bus
  levels : Represents m.setup.bus m.device.pins
  displays : Displays m.device

def MachineShows (m : Machine) : Prop :=
  if m.setup.pc = .done then
    LoopShows m
  else
    SetupShows m.setup

theorem machineStep_shows {x : SetupWorld} (hinit : x.espNowInit = 0)
    (hgenuine : Genuine x.wiring) {m : Machine} (h : MachineShows m) :
    MachineShows (machineStep x m) := by
  unfold MachineShows at h
  unfold machineStep
  split
  · rename_i hdone
    rw [if_pos hdone] at h
    unfold MachineShows
    rw [if_pos hdone]
    constructor
    case aws => exact h.aws
    case configured =>
      show Configured (performLedCalls _ m.setup.aws _ _)
      rw [h.aws]
      exact ledCalls_configured hgenuine.hasExpanders _ h.configured
    case levels =>
      show Represents (performLedCalls _ m.setup.aws _ _) (step x.world m.device).pins
      rw [h.aws, step_pins]
      exact represents_ledCalls hgenuine.hasExpanders hgenuine.acks _ h.levels
    case displays => exact step_displays x.world h.displays
  · rename_i hdone
    rw [if_neg hdone] at h
    have hnext := setupStep_shows hinit hgenuine h
    unfold MachineShows
    split
    · -- Setup ends with all boards dark, as the loop finds them.
      rename_i hdone'
      have hend : (setupStep x m.setup).pc = .done := hdone'
      unfold SetupShows at hnext
      simp only [hend] at hnext
      have hdark := hnext.levels
      rw [hend] at hdark
      exact ⟨hnext.aws, hnext.configured, hdark, displays_of_dark rfl rfl trivial⟩
    · exact hnext

theorem machineRun_shows {x : SetupWorld} (hinit : x.espNowInit = 0)
    (hgenuine : Genuine x.wiring) (bus : Bus) (n : Nat) :
    MachineShows (machineRun x bus n) := by
  induction n with
  | zero => trivial
  | succ n ih =>
      rw [machineRun_succ]
      exact machineStep_shows hinit hgenuine ih

/-- The boards after setup, read off the chips. -/
structure OnTheBoards (x : SetupWorld) (m : Machine) : Prop where
  loop : exists k,
    m.device = (run (x.world.shift m.setup.reads) k).shift m.setup.reads
  outputs : Configured m.setup.bus
  /-- The commanded board has the color of the place in the program, and all other
  pins are low. -/
  levels : Represents m.setup.bus (display m.device.globals.target m.device.pc.color)

/-- With a radio and without failures on the bus, the expanders show the display
of the program at every step after setup. -/
theorem onTheBoards_run {x : SetupWorld} (hinit : x.espNowInit = 0)
    (hgenuine : Genuine x.wiring) (bus : Bus) {n : Nat}
    (hdone : (machineRun x bus n).setup.pc = .done) :
    OnTheBoards x (machineRun x bus n) := by
  have hshows := machineRun_shows hinit hgenuine bus n
  unfold MachineShows at hshows
  rw [if_pos hdone] at hshows
  rcases machineRun_loops x bus n with ⟨k, hk⟩
  constructor
  case loop => exact ⟨k, hk.device⟩
  case outputs => exact hshows.configured
  case levels =>
    rw [← hshows.displays.pins]
    exact hshows.levels

/-- The same script on a bus without failures. -/
def soundTable : SetupWorld :=
  { lossyTable with wiring := workbench fun _ _ => true }

/-- Step 69 is in the trial: board 3 has moved and is to be dark again next. -/
theorem onTheBoards_soundTable :
    (machineRun soundTable poweredBus 69).device.globals.target = some 3 ∧
      (machineRun soundTable poweredBus 69).device.pc.color = Color.pureGreen ∧
      OnTheBoards soundTable (machineRun soundTable poweredBus 69) :=
  ⟨by decide +kernel, by decide +kernel,
    onTheBoards_run rfl genuine_workbench poweredBus (by decide +kernel)⟩

/-!
# Without a radio

`SystemSetup` returns before it starts the expanders, so their objects have no
device and no LED call gets onto the bus.
-/

theorem perform_unset (wiring : Wiring) (p : PinWrite) (bus : Bus) :
    p.perform wiring Expanders.unset bus = bus :=
  rfl

theorem ledCalls_unset (wiring : Wiring) (calls : List LedCall) (bus : Bus) :
    performLedCalls wiring Expanders.unset calls bus = bus := by
  rw [performLedCalls]
  induction calls.flatMap LedCall.pinWrites with
  | nil => rfl
  | cons p rest ih => rw [List.foldl_cons, perform_unset, ih]

/-- The loop runs as it would with a radio, but nothing is ever shown. -/
theorem radioFailed_run {x : SetupWorld} (hfailed : x.espNowInit ≠ 0) (bus : Bus)
    (n : Nat) :
    (machineRun x bus n).setup.bus = bus ∧
      (machineRun x bus (n + 1)).device = run x.world n := by
  have hafter : forall n, (machineRun x bus (n + 1)).setup =
        { pc := .done, aws := Expanders.unset, bus := bus, reads := 0 } ∧
      (machineRun x bus (n + 1)).device = run x.world n := by
    intro n
    induction n with
    | zero =>
        have hfirst : setupStep x (Setup.start bus) =
            { pc := .done, aws := Expanders.unset, bus := bus, reads := 0 } := by
          simp only [setupStep, Setup.start]
          rw [if_pos hfailed]
        have hstart : (machineRun x bus 0).setup = Setup.start bus := rfl
        rw [machineRun_succ, machineStep, hstart, if_neg SetupPc.noConfusion, hfirst]
        exact ⟨rfl, rfl⟩
    | succ n ih =>
        rw [machineRun_succ, machineStep, ih.left, if_pos rfl, ih.right]
        constructor
        · simp only [ledCalls_unset]
        · exact (Function.iterate_succ_apply' (step x.world) n Device.boot).symm
  constructor
  · cases n with
    | zero => rfl
    | succ n => rw [(hafter n).left]
  · exact (hafter n).right

/-- The same script without a radio; the trial is run and answered in the dark. -/
def radiolessTable : SetupWorld :=
  { lossyTable with espNowInit := 1 }

theorem radioFailed_radiolessTable :
    (run radiolessTable.world 41).pc.color = Color.dark ∧
      (run radiolessTable.world 40).pc.color = Color.pureGreen ∧
      (machineRun radiolessTable poweredBus 41).setup.bus = poweredBus ∧
      (machineRun radiolessTable poweredBus (41 + 1)).device =
        run radiolessTable.world 41 :=
  ⟨by decide +kernel, by decide +kernel, radioFailed_run (by decide) poweredBus 41⟩

end Receiver
end BoxTrials
