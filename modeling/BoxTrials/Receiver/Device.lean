import Mathlib.Order.Monotone.Basic
import BoxTrials.Receiver.Commands
import BoxTrials.Receiver.Leds

/-!
# The receiver as a state machine

`loop()` and `TestSequence()` run on one thread, while the clock advances, the
boards report and bytes arrive from the computer.  A step of the machine is a
piece of the code with at most one read from outside, except that
`timer.tick()`, which reads the clock once for each task, is one step, and so is
`DoCommand(ReadCommand())`, whose only read besides the packet is that of the
clock by a start.  Between any two reads the outside may have changed in any
way.
-/

namespace BoxTrials
namespace Receiver

open Foundation
open Libraries.ArduinoTimer

/-!
# What is outside
-/

/-- What the program finds when it reads from outside for the `n`-th time. -/
structure World where
  /-- The time since the start of the clock, in milliseconds. -/
  time : Nat -> Nat
  time_mono : Monotone time
  /-- `boardsStruct[i].isMoving`, and for an index outside of the table what is
  in the memory next to it. -/
  isMoving : Nat -> Int -> Bool
  /-- The packet that `ReadCommand` returns, if any byte is available. -/
  command : Nat -> Option Command

def World.scripted (cmds : List Command) (time : Nat -> Nat)
    (time_mono : Monotone time) (isMoving : Nat -> Int -> Bool) : World where
  time := time
  time_mono := time_mono
  isMoving := isMoving
  command := fun n => cmds[n]?

/-!
# The state of the machine
-/

inductive Outcome where
  | correct
  | wrongBox
  | timeout
  deriving DecidableEq, Repr

/-- What happens in a run, for the statements about whole runs. The program does
not read it. -/
inductive Event where
  /-- `DoCommand` gets a packet. -/
  | received (p : Packet)
  /-- `TestSequence` enters its loop body for a trial. -/
  | began (trial : Int)
  /-- `TimerEvent_WriteSTREAM` has written a packet. -/
  | sampled (object trial : Int)
  /-- The wait loop has found an object moving. -/
  | observed (object trial : Int)
  /-- A pass of the wait loop has reset the current object. -/
  | cleared (trial : Int)
  /-- The loop body of a trial is done. -/
  | finished (trial : Int) (outcome : Outcome)
  deriving DecidableEq, Repr

def Event.packet? : Event -> Option Packet
  | .received p => some p
  | _ => none

/-- The places in the code between two steps. -/
inductive Pc where
  /-- The top of `loop()`. -/
  | loopTop
  /-- Before `if(_state == MODE_STREAM)`. -/
  | loopStream
  /-- Before the loop condition of `TestSequence`. -/
  | trialHead
  /-- Before the `timer.tick()` that opens a trial. -/
  | trialTick (startTime : Nat)
  /-- Before `MoveMe()`. -/
  | moveMe (startTime : Nat)
  /-- Before the condition of the wait loop. -/
  | waitHead (startTime : Nat)
  /-- Before the commanded object is looked at. -/
  | readTarget (startTime : Nat)
  /-- In the scan of the other objects, before object `j`. -/
  | scan (startTime : Nat) (j : Int)
  /-- Before the `timer.tick()` at the end of a pass. -/
  | passTick (startTime : Nat)
  /-- Before the LED response to the outcome. -/
  | respond (outcome : Outcome)
  /-- In the red flashes, before flash `j`. -/
  | flash (j : Nat)
  /-- In the red flashes, before the dark gap of flash `j`. -/
  | gap (j : Nat)
  /-- Before the `RGB_reset()` that ends a trial. -/
  | trialEnd (outcome : Outcome)
  /-- `TestSequence` is done. -/
  | returned
  /-- The program has accessed memory outside of the sequence. Nothing is known
  about the rest of such a run. -/
  | undefined
  deriving DecidableEq, Repr

structure Device where
  globals : Globals
  pins : Pins
  pc : Pc
  /-- The number of reads from outside so far. -/
  reads : Nat
  /-- The events so far, in order. -/
  trace : List Event

/-- The receiver after `setup()`. -/
def Device.boot : Device where
  globals := Globals.boot
  pins := Pins.dark
  pc := .loopTop
  reads := 0
  trace := []

def Device.history (d : Device) : List Packet :=
  d.trace.filterMap Event.packet?

/-- `_trialSequence[_currentTrial-1]`, if there is such an entry. -/
def Globals.target (g : Globals) : Option Int :=
  match g.trialSequence with
  | none => none
  | some sequence =>
      if 1 ≤ g.currentTrial then
        sequence[(g.currentTrial - 1).toNat]?
      else
        none

/-!
# Steps
-/

def Device.emit (e : Event) (d : Device) : Device :=
  { d with trace := d.trace ++ [e] }

def millis (w : World) (d : Device) : Nat × Device :=
  (w.time d.reads % wordModulus, { d with reads := d.reads + 1 })

/-- `TimerEvent_WriteSTREAM`. The result of the write is not looked at. -/
def timerEventWriteSTREAM (d : Device) : Bool × Device :=
  if d.globals.currentTrial < 1 ∨ d.globals.state ≠ MODE_STREAM then
    (false, d)
  else
    let object := d.globals.currentObject
    let trial := d.globals.currentTrial
    let (written, g) := d.globals.writePacket STREAM object trial
    let d := { d with globals := g }
    (true, if written then d.emit (.sampled object trial) else d)

def callHandler : Handler -> Device -> Bool × Device
  | .timerEventWriteSTREAM, d => timerEventWriteSTREAM d

/-- `timer.tick()`. -/
def tick (w : World) (d : Device) : Device :=
  let (timer, d) := d.globals.timer.tick (millis w) callHandler d
  { d with globals := { d.globals with timer := timer } }

/-- Reading the current entry of the sequence, which must exist. -/
def Device.withTarget (next : Int -> Device) (d : Device) : Device :=
  match d.globals.target with
  | none => { d with pc := .undefined }
  | some b => next b

/-- A call of `MoveMe` or one of its variants, which check for a null pointer. -/
def Device.light (color : Int -> Pins -> Pins) (next : Pc) (d : Device) :
    Device :=
  if d.globals.trialSequence = none then
    { d with pc := next }
  else
    d.withTarget fun b => { d with pins := color b d.pins, pc := next }

/-- One pass of the loop over the other objects. -/
def scanStep (w : World) (startTime : Nat) (j : Int) (d : Device) : Device :=
  if j ≤ NOBJECTS then
    d.withTarget fun b =>
      if j = b then
        { d with pc := .scan startTime (j + 1) }
      else if w.isMoving d.reads j then
        { d with
          globals := { d.globals with currentObject := j }
          pc := .respond .wrongBox
          reads := d.reads + 1
          trace := d.trace ++ [.observed j d.globals.currentTrial] }
      else if j = NOBJECTS then
        { d with
          globals := { d.globals with currentObject := 0 }
          pc := .scan startTime (j + 1)
          reads := d.reads + 1
          trace := d.trace ++ [.cleared d.globals.currentTrial] }
      else
        { d with pc := .scan startTime (j + 1), reads := d.reads + 1 }
  else
    { d with pc := .passTick startTime }

/-- The steps of `TestSequence`. Outside of it nothing happens. -/
def testStep (w : World) (d : Device) : Device :=
  match d.pc with
  | .trialHead =>
      if d.globals.currentTrial ≤ d.globals.numberOfTrials then
        let (startTime, d) := millis w d
        { d.emit (.began d.globals.currentTrial) with pc := .trialTick startTime }
      else
        { d with pc := .returned }
  | .trialTick startTime => { tick w d with pc := .moveMe startTime }
  | .moveMe startTime => d.light moveMe (.waitHead startTime)
  | .waitHead startTime =>
      let (now, d) := millis w d
      if ulongSub now startTime < toULong d.globals.timeoutMs then
        { d with pc := .readTarget startTime }
      else
        { d with pc := .respond .timeout }
  | .readTarget startTime =>
      d.withTarget fun b =>
        if w.isMoving d.reads b then
          { d with
            globals := { d.globals with currentObject := b }
            pc := .respond .correct
            reads := d.reads + 1
            trace := d.trace ++ [.observed b d.globals.currentTrial] }
        else
          { d with pc := .scan startTime 1, reads := d.reads + 1 }
  | .scan startTime j => scanStep w startTime j d
  | .passTick startTime => { tick w d with pc := .waitHead startTime }
  | .respond .correct => d.light moveMeCorrect (.trialEnd .correct)
  | .respond .wrongBox => { d with pc := .flash 0 }
  | .respond .timeout => d.light moveMeWrong (.trialEnd .timeout)
  | .flash j =>
      if j < 5 then
        d.light moveMeWrong (.gap j)
      else
        { d with pc := .trialEnd .wrongBox }
  | .gap j => { d with pins := rgbReset d.pins, pc := .flash (j + 1) }
  | .trialEnd outcome =>
      { d with
        globals := { d.globals with currentTrial := d.globals.currentTrial + 1 }
        pins := rgbReset d.pins
        pc := .trialHead
        trace := d.trace ++ [.finished d.globals.currentTrial outcome] }
  | .loopTop | .loopStream | .returned | .undefined => d

/-- `DoCommand(ReadCommand())`. A write that missed the sequence ends what is
known about the run. -/
def receive (w : World) (c : Command) (d : Device) : Device :=
  let g := (doCommand (w.time d.reads % wordModulus) c.packet d.globals).2
  { d with
    globals := g
    pc := if g.outside = [] then .loopStream else .undefined
    reads := d.reads + 1
    trace := d.trace ++ [.received c.packet] }

/-- The steps of `loop()`, with those of `TestSequence` in it. -/
def step (w : World) (d : Device) : Device :=
  match d.pc with
  | .loopTop =>
      match w.command d.reads with
      | some c => receive w c d
      | none => { d with pc := .loopStream, reads := d.reads + 1 }
  | .loopStream =>
      if d.globals.state = MODE_STREAM then
        { tick w d with pc := .trialHead }
      else
        { d with pc := .loopTop }
  | .returned => { d with pc := .loopTop }
  | .undefined => d
  | _ => testStep w d

def run (w : World) (n : Nat) : Device :=
  (step w)^[n] Device.boot

end Receiver
end BoxTrials
