import BoxTrials.Receiver.Configuration
import BoxTrials.Receiver.Device

/-!
# What a step can do

Invariants of the machine are proved from two facts about it: a tick only
writes sample packets and keeps the time, and every step is one of a few kinds
of move.
-/

namespace BoxTrials
namespace Receiver

open Foundation
open Libraries.ArduinoTimer

/-!
# Ticks
-/

structure Ticked (d d' : Device) : Prop where
  pc : d'.pc = d.pc
  pins : d'.pins = d.pins
  reads : d.reads ≤ d'.reads
  globals : d'.globals =
    { d.globals with
      timer := d'.globals.timer
      serialOut := d'.globals.serialOut }
  trace : exists samples, d'.trace = d.trace ++ samples ∧
    forall e, e ∈ samples ->
      e = Event.sampled d.globals.currentObject d.globals.currentTrial

theorem ticked_refl (d : Device) : Ticked d d where
  pc := rfl
  pins := rfl
  reads := Nat.le_refl _
  globals := rfl
  trace := ⟨[], by simp, by simp⟩

theorem ticked_trans {a b c : Device} (hab : Ticked a b) (hbc : Ticked b c) :
    Ticked a c where
  pc := hbc.pc.trans hab.pc
  pins := hbc.pins.trans hab.pins
  reads := Nat.le_trans hab.reads hbc.reads
  globals := by
    have hb := hab.globals
    have hc := hbc.globals
    rw [hb] at hc
    exact hc
  trace := by
    rcases hab.trace with ⟨first, hfirst, hfirstEvents⟩
    rcases hbc.trace with ⟨second, hsecond, hsecondEvents⟩
    have hobject : b.globals.currentObject = a.globals.currentObject := by
      rw [hab.globals]
    have htrial : b.globals.currentTrial = a.globals.currentTrial := by
      rw [hab.globals]
    refine ⟨first ++ second, by rw [hsecond, hfirst, List.append_assoc], ?_⟩
    intro e he
    rcases List.mem_append.mp he with he | he
    · exact hfirstEvents e he
    · rw [hsecondEvents e he, hobject, htrial]

theorem millis_ticked (w : World) (d : Device) : Ticked d (millis w d).2 where
  pc := rfl
  pins := rfl
  reads := Nat.le_succ _
  globals := rfl
  trace := ⟨[], by simp [millis], by simp⟩

theorem timerEventWriteSTREAM_ticked (d : Device) :
    Ticked d (timerEventWriteSTREAM d).2 := by
  unfold timerEventWriteSTREAM
  split
  · exact ticked_refl d
  · constructor
    all_goals
      cases hwritten : (d.globals.writePacket STREAM d.globals.currentObject
        d.globals.currentTrial).1
    case trace.true =>
      exact ⟨[.sampled d.globals.currentObject d.globals.currentTrial],
        by simp [hwritten, Device.emit], by simp⟩
    case trace.false =>
      exact ⟨[], by simp [hwritten], by simp⟩
    all_goals
      simp [hwritten, Device.emit, Globals.writePacket_snd]

theorem callHandler_ticked (h : Handler) (d : Device) :
    Ticked d (callHandler h d).2 := by
  cases h
  exact timerEventWriteSTREAM_ticked d

theorem tick_ticked (w : World) (d : Device) : Ticked d (tick w d) := by
  have h := tickSlots_rel (millis w) callHandler Ticked ticked_refl
    ticked_trans (millis_ticked w) callHandler_ticked d.globals.timer.slots d
  exact
    { pc := h.pc
      pins := h.pins
      reads := h.reads
      globals := by
        have hglobals := h.globals
        simp only [tick, Timer.tick]
        rw [hglobals]
      trace := h.trace }

theorem tick_configuration (w : World) (d : Device) :
    (tick w d).globals.configuration = d.globals.configuration := by
  rw [(tick_ticked w d).globals]
  rfl

theorem tick_outside (w : World) (d : Device) :
    (tick w d).globals.outside = d.globals.outside := by
  rw [(tick_ticked w d).globals]

theorem tick_currentTrial (w : World) (d : Device) :
    (tick w d).globals.currentTrial = d.globals.currentTrial := by
  rw [(tick_ticked w d).globals]

theorem tick_target (w : World) (d : Device) :
    (tick w d).globals.target = d.globals.target := by
  rw [(tick_ticked w d).globals]
  rfl

theorem tick_state (w : World) (d : Device) :
    (tick w d).globals.state = d.globals.state :=
  congrArg Configuration.state (tick_configuration w d)

theorem tick_numberOfTrials (w : World) (d : Device) :
    (tick w d).globals.numberOfTrials = d.globals.numberOfTrials :=
  congrArg Configuration.numberOfTrials (tick_configuration w d)

theorem tick_reads_le (w : World) (d : Device) :
    (tick w d).reads ≤ d.reads + maxTasks := by
  have h := tickSlots_reads_le (millis w) callHandler Device.reads
    (fun _ => rfl)
    (by
      intro h d
      cases h
      simp only [callHandler, timerEventWriteSTREAM]
      split
      · rfl
      · split <;> rfl)
    d.globals.timer.slots d
  rw [d.globals.timer.slots_length] at h
  exact h

/-!
# Places in the code

`TestMove` lists the kinds of moves of `TestSequence`, and `Move` those of `loop()`.
The moves of `Control` change only the place, the LEDs and the number of reads.
-/

def Pc.inTrial : Pc -> Bool
  | .trialTick _ | .moveMe _ | .waitHead _ | .readTarget _ | .scan _ _
  | .passTick _ | .respond _ | .flash _ | .gap _ | .trialEnd _ => true
  | .loopTop | .loopStream | .trialHead | .returned | .undefined => false

def Pc.inTest (pc : Pc) : Bool :=
  pc == .trialHead || pc.inTrial

inductive Control : Pc -> Pc -> Prop where
  | lit (s : Nat) : Control (.moveMe s) (.waitHead s)
  | inTime (s : Nat) : Control (.waitHead s) (.readTarget s)
  | late (s : Nat) : Control (.waitHead s) (.respond .timeout)
  | targetStill (s : Nat) : Control (.readTarget s) (.scan s 1)
  | nextObject (s : Nat) (j : Int) : Control (.scan s j) (.scan s (j + 1))
  | scanned (s : Nat) (j : Int) : Control (.scan s j) (.passTick s)
  | responded (o : Outcome) : Control (.respond o) (.trialEnd o)
  | flashing : Control (.respond .wrongBox) (.flash 0)
  | flash (j : Nat) : Control (.flash j) (.gap j)
  | gap (j : Nat) : Control (.gap j) (.flash (j + 1))
  | flashed (j : Nat) : Control (.flash j) (.trialEnd .wrongBox)

inductive TestMove (w : World) : Device -> Device -> Prop where
  | begins {d : Device} (hpc : d.pc = .trialHead)
      (hle : d.globals.currentTrial ≤ d.globals.numberOfTrials) :
      TestMove w d
        { d with
          pc := .trialTick (w.time d.reads % wordModulus)
          reads := d.reads + 1
          trace := d.trace ++ [.began d.globals.currentTrial] }
  | returns {d : Device} (hpc : d.pc = .trialHead)
      (hgt : d.globals.numberOfTrials < d.globals.currentTrial) :
      TestMove w d { d with pc := .returned }
  | openingTick {d : Device} {s : Nat} (hpc : d.pc = .trialTick s) :
      TestMove w d { tick w d with pc := .moveMe s }
  | passTick {d : Device} {s : Nat} (hpc : d.pc = .passTick s) :
      TestMove w d { tick w d with pc := .waitHead s }
  | control {d : Device} {pc : Pc} (hcontrol : Control d.pc pc) (pins : Pins)
      {reads : Nat} (hreads : d.reads ≤ reads) :
      TestMove w d { d with pins := pins, pc := pc, reads := reads }
  | observesTarget {d : Device} {s : Nat} {b : Int}
      (hpc : d.pc = .readTarget s) (htarget : d.globals.target = some b)
      (hmoving : w.isMoving d.reads b = true) :
      TestMove w d
        { d with
          globals := { d.globals with currentObject := b }
          pc := .respond .correct
          reads := d.reads + 1
          trace := d.trace ++ [.observed b d.globals.currentTrial] }
  | observesOther {d : Device} {s : Nat} {b j : Int}
      (hpc : d.pc = .scan s j) (hj : j ≤ NOBJECTS)
      (htarget : d.globals.target = some b) (hne : j ≠ b)
      (hmoving : w.isMoving d.reads j = true) :
      TestMove w d
        { d with
          globals := { d.globals with currentObject := j }
          pc := .respond .wrongBox
          reads := d.reads + 1
          trace := d.trace ++ [.observed j d.globals.currentTrial] }
  | clears {d : Device} {s : Nat} {b : Int}
      (hpc : d.pc = .scan s NOBJECTS)
      (htarget : d.globals.target = some b) (hne : NOBJECTS ≠ b) :
      TestMove w d
        { d with
          globals := { d.globals with currentObject := 0 }
          pc := .scan s (NOBJECTS + 1)
          reads := d.reads + 1
          trace := d.trace ++ [.cleared d.globals.currentTrial] }
  | finishes {d : Device} {outcome : Outcome}
      (hpc : d.pc = .trialEnd outcome) :
      TestMove w d
        { d with
          globals :=
            { d.globals with currentTrial := d.globals.currentTrial + 1 }
          pins := rgbReset d.pins
          pc := .trialHead
          trace := d.trace ++ [.finished d.globals.currentTrial outcome] }
  | fault {d : Device} (hpc : d.pc.inTrial = true)
      (htarget : d.globals.target = none) :
      TestMove w d { d with pc := .undefined }

theorem light_testMove {w : World} {d : Device} {color : Int -> Pins -> Pins}
    {next : Pc} (hcontrol : Control d.pc next) (hpc : d.pc.inTrial = true) :
    TestMove w d (d.light color next) := by
  unfold Device.light Device.withTarget
  split
  · exact TestMove.control hcontrol d.pins (Nat.le_refl _)
  · split
    · rename_i htarget
      exact TestMove.fault hpc htarget
    · exact TestMove.control hcontrol _ (Nat.le_refl _)

theorem light_of_target {d : Device} {b : Int}
    (htarget : d.globals.target = some b) (color : Int -> Pins -> Pins)
    (next : Pc) :
    (d.light color next).pc = next ∧
      (d.light color next).globals = d.globals ∧
      (d.light color next).reads = d.reads := by
  simp only [Device.light, Device.withTarget, htarget]
  split <;> exact ⟨rfl, rfl, rfl⟩

theorem light_cases (d : Device) (color : Int -> Pins -> Pins) (next : Pc) :
    (d.light color next).pc = next ∨
      (d.light color next).pc = .undefined ∧ d.globals.target = none := by
  unfold Device.light Device.withTarget
  split
  · exact Or.inl rfl
  · split
    · rename_i htarget
      exact Or.inr ⟨rfl, htarget⟩
    · exact Or.inl rfl

theorem scanStep_testMove {w : World} {d : Device} {s : Nat} {j : Int}
    (hpc : d.pc = .scan s j) : TestMove w d (scanStep w s j d) := by
  unfold scanStep Device.withTarget
  split
  · rename_i hj
    split
    · rename_i htarget
      exact TestMove.fault (by rw [hpc]; rfl) htarget
    · rename_i b htarget
      beta_reduce
      split
      · exact TestMove.control (by rw [hpc]; exact .nextObject s j) d.pins
          (Nat.le_refl _)
      split
      · rename_i hne hmoving
        exact TestMove.observesOther hpc hj htarget hne hmoving
      split
      · rename_i hne _ hlast
        subst hlast
        exact TestMove.clears hpc htarget hne
      · exact TestMove.control (by rw [hpc]; exact .nextObject s j) d.pins
          (Nat.le_succ _)
  · exact TestMove.control (by rw [hpc]; exact .scanned s j) d.pins
      (Nat.le_refl _)

theorem testStep_testMove (w : World) {d : Device} (h : d.pc.inTest = true) :
    TestMove w d (testStep w d) := by
  cases hpc : d.pc with
  | trialHead =>
      simp only [testStep, hpc]
      split
      · rename_i hle
        exact TestMove.begins hpc hle
      · rename_i hgt
        exact TestMove.returns hpc (by omega)
  | trialTick s =>
      simp only [testStep, hpc]
      exact TestMove.openingTick hpc
  | moveMe s =>
      simp only [testStep, hpc]
      exact light_testMove (by rw [hpc]; exact .lit s) (by rw [hpc]; rfl)
  | waitHead s =>
      simp only [testStep, hpc, millis]
      split
      · exact TestMove.control (by rw [hpc]; exact .inTime s) d.pins
          (Nat.le_succ _)
      · exact TestMove.control (by rw [hpc]; exact .late s) d.pins
          (Nat.le_succ _)
  | readTarget s =>
      simp only [testStep, hpc, Device.withTarget]
      split
      · rename_i htarget
        exact TestMove.fault (by rw [hpc]; rfl) htarget
      · rename_i b htarget
        split
        · rename_i hmoving
          exact TestMove.observesTarget hpc htarget hmoving
        · exact TestMove.control (by rw [hpc]; exact .targetStill s) d.pins
            (Nat.le_succ _)
  | scan s j =>
      simp only [testStep, hpc]
      exact scanStep_testMove hpc
  | passTick s =>
      simp only [testStep, hpc]
      exact TestMove.passTick hpc
  | respond outcome =>
      cases outcome with
      | correct =>
          simp only [testStep, hpc]
          exact light_testMove (by rw [hpc]; exact .responded _)
            (by rw [hpc]; rfl)
      | wrongBox =>
          simp only [testStep, hpc]
          exact TestMove.control (by rw [hpc]; exact .flashing) d.pins
            (Nat.le_refl _)
      | timeout =>
          simp only [testStep, hpc]
          exact light_testMove (by rw [hpc]; exact .responded _)
            (by rw [hpc]; rfl)
  | flash j =>
      simp only [testStep, hpc]
      split
      · exact light_testMove (by rw [hpc]; exact .flash j) (by rw [hpc]; rfl)
      · exact TestMove.control (by rw [hpc]; exact .flashed j) d.pins
          (Nat.le_refl _)
  | gap j =>
      simp only [testStep, hpc]
      exact TestMove.control (by rw [hpc]; exact .gap j) _ (Nat.le_refl _)
  | trialEnd outcome =>
      simp only [testStep, hpc]
      exact TestMove.finishes hpc
  | loopTop => simp [hpc, Pc.inTest, Pc.inTrial] at h
  | loopStream => simp [hpc, Pc.inTest, Pc.inTrial] at h
  | returned => simp [hpc, Pc.inTest, Pc.inTrial] at h
  | undefined => simp [hpc, Pc.inTest, Pc.inTrial] at h

theorem testStep_of_not_inTest (w : World) {d : Device}
    (h : d.pc.inTest = false) : testStep w d = d := by
  cases hpc : d.pc <;> simp [hpc, Pc.inTest, Pc.inTrial] at h <;>
    simp [testStep, hpc]

inductive Move (w : World) : Device -> Device -> Prop where
  | receives {d : Device} {c : Command} (hpc : d.pc = .loopTop)
      (hcommand : w.command d.reads = some c) : Move w d (receive w c d)
  | nothing {d : Device} (hpc : d.pc = .loopTop)
      (hcommand : w.command d.reads = none) :
      Move w d { d with pc := .loopStream, reads := d.reads + 1 }
  | streams {d : Device} (hpc : d.pc = .loopStream)
      (hstate : d.globals.state = MODE_STREAM) :
      Move w d { tick w d with pc := .trialHead }
  | rests {d : Device} (hpc : d.pc = .loopStream)
      (hstate : d.globals.state ≠ MODE_STREAM) :
      Move w d { d with pc := .loopTop }
  | tests {d d' : Device} (hpc : d.pc.inTest = true) (h : TestMove w d d') :
      Move w d d'
  | loops {d : Device} (hpc : d.pc = .returned) :
      Move w d { d with pc := .loopTop }
  | stays {d : Device} (hpc : d.pc = .undefined) : Move w d d

theorem step_of_inTest (w : World) {d : Device} (h : d.pc.inTest = true) :
    step w d = testStep w d := by
  cases hpc : d.pc <;> simp [hpc, Pc.inTest, Pc.inTrial] at h <;>
    simp [step, hpc]

theorem step_move (w : World) (d : Device) : Move w d (step w d) := by
  by_cases htest : d.pc.inTest = true
  · rw [step_of_inTest w htest]
    exact Move.tests htest (testStep_testMove w htest)
  · cases hpc : d.pc with
    | loopTop =>
        simp only [step, hpc]
        split
        · rename_i c hcommand
          exact Move.receives hpc hcommand
        · rename_i hcommand
          exact Move.nothing hpc hcommand
    | loopStream =>
        simp only [step, hpc]
        split
        · rename_i hstate
          exact Move.streams hpc hstate
        · rename_i hstate
          exact Move.rests hpc hstate
    | returned =>
        simp only [step, hpc]
        exact Move.loops hpc
    | undefined =>
        simp only [step, hpc]
        exact Move.stays hpc
    | _ => simp [hpc, Pc.inTest, Pc.inTrial] at htest

theorem run_succ (w : World) (n : Nat) : run w (n + 1) = step w (run w n) :=
  Function.iterate_succ_apply' (step w) n Device.boot

theorem run_move (w : World) (n : Nat) : Move w (run w n) (run w (n + 1)) := by
  rw [run_succ]
  exact step_move w (run w n)

/-!
# Samples
-/

def Ticks (d : Device) : Prop :=
  (d.pc = .loopStream ∧ d.globals.state = MODE_STREAM) ∨
    exists s, d.pc = .trialTick s ∨ d.pc = .passTick s

theorem tick_samples (w : World) (d : Device) :
    exists events, (tick w d).trace = d.trace ++ events ∧
      forall object trial, .sampled object trial ∈ events ->
        object = d.globals.currentObject ∧ trial = d.globals.currentTrial := by
  rcases (tick_ticked w d).trace with ⟨samples, htrace, hsamples⟩
  refine ⟨samples, htrace, ?_⟩
  intro object trial hmem
  cases hsamples _ hmem
  exact ⟨rfl, rfl⟩

theorem move_samples {w : World} {d d' : Device} (h : Move w d d') :
    exists events, d'.trace = d.trace ++ events ∧
      forall object trial, .sampled object trial ∈ events ->
        Ticks d ∧ object = d.globals.currentObject ∧
          trial = d.globals.currentTrial := by
  have hticks : Ticks d ->
      exists events, (tick w d).trace = d.trace ++ events ∧
        forall object trial, .sampled object trial ∈ events ->
          Ticks d ∧ object = d.globals.currentObject ∧
            trial = d.globals.currentTrial := by
    intro hticks
    rcases tick_samples w d with ⟨events, htrace, hevents⟩
    exact ⟨events, htrace, fun object trial hmem =>
      ⟨hticks, hevents object trial hmem⟩⟩
  cases h with
  | @receives c _ _ => exact ⟨[.received c.packet], rfl, by simp⟩
  | streams hpc hstate => exact hticks (Or.inl ⟨hpc, hstate⟩)
  | tests htest hmove =>
      cases hmove with
      | begins => exact ⟨_, rfl, by simp⟩
      | openingTick hpc => exact hticks (Or.inr ⟨_, Or.inl hpc⟩)
      | passTick hpc => exact hticks (Or.inr ⟨_, Or.inr hpc⟩)
      | observesTarget => exact ⟨_, rfl, by simp⟩
      | observesOther => exact ⟨_, rfl, by simp⟩
      | clears => exact ⟨_, rfl, by simp⟩
      | finishes => exact ⟨_, rfl, by simp⟩
      | _ => exact ⟨[], (List.append_nil _).symm, by simp⟩
  | _ => exact ⟨[], (List.append_nil _).symm, by simp⟩

/-!
# The history of a run
-/

theorem history_append {d d' : Device} {events : List Event}
    (htrace : d'.trace = d.trace ++ events)
    (hevents : forall e, e ∈ events -> forall p, e ≠ Event.received p) :
    d'.history = d.history := by
  have hnone : events.filterMap Event.packet? = [] := by
    rw [List.filterMap_eq_nil_iff]
    intro e he
    cases e with
    | received p => exact absurd rfl (hevents _ he p)
    | _ => rfl
  rw [Device.history, htrace, List.filterMap_append, hnone, List.append_nil]
  rfl

theorem ticked_history {d d' : Device} (h : Ticked d d') :
    d'.history = d.history := by
  rcases h.trace with ⟨samples, htrace, hsamples⟩
  apply history_append htrace
  intro e he p
  rw [hsamples e he]
  exact Event.noConfusion

theorem tick_history (w : World) (d : Device) :
    (tick w d).history = d.history :=
  ticked_history (tick_ticked w d)

theorem receive_history (w : World) (c : Command) (d : Device) :
    (receive w c d).history = d.history ++ [c.packet] := by
  simp [receive, Device.history, Event.packet?]

def Begins (d : Device) : Prop :=
  d.pc = .trialHead ∧ d.globals.currentTrial ≤ d.globals.numberOfTrials

theorem begins_step {w : World} {d : Device} (h : Begins d) :
    (step w d).pc.inTrial = true ∧ (step w d).history = d.history ∧
      (step w d).globals = d.globals := by
  have hstep : step w d = testStep w d :=
    step_of_inTest w (by rw [h.left]; rfl)
  rw [hstep]
  simp only [testStep, h.left]
  rw [if_pos h.right]
  exact ⟨rfl, history_append rfl (by simp), rfl⟩

theorem testMove_frame {w : World} {d d' : Device} (h : TestMove w d d') :
    d'.globals.configuration = d.globals.configuration ∧
      d'.globals.outside = d.globals.outside ∧ d'.history = d.history := by
  cases h with
  | begins => exact ⟨rfl, rfl, history_append rfl (by simp)⟩
  | returns => exact ⟨rfl, rfl, rfl⟩
  | openingTick | passTick =>
      exact ⟨tick_configuration w d, tick_outside w d, tick_history w d⟩
  | control => exact ⟨rfl, rfl, rfl⟩
  | observesTarget => exact ⟨rfl, rfl, history_append rfl (by simp)⟩
  | observesOther => exact ⟨rfl, rfl, history_append rfl (by simp)⟩
  | clears => exact ⟨rfl, rfl, history_append rfl (by simp)⟩
  | finishes => exact ⟨rfl, rfl, history_append rfl (by simp)⟩
  | fault => exact ⟨rfl, rfl, rfl⟩

theorem move_history {w : World} {d d' : Device} (h : Move w d d')
    (hpc : d.pc ≠ .loopTop) : d'.history = d.history := by
  cases h with
  | receives htop | nothing htop => exact absurd htop hpc
  | streams => exact tick_history w d
  | tests _ hmove => exact (testMove_frame hmove).right.right
  | rests | loops | stays => rfl

theorem move_extends {w : World} {d d' : Device} (h : Move w d d') :
    exists later, d'.history = d.history ++ later := by
  by_cases hpc : d.pc = .loopTop
  · cases h with
    | @receives c => exact ⟨[c.packet], receive_history w c d⟩
    | nothing => exact ⟨[], (List.append_nil _).symm⟩
    | streams hstream | rests hstream | loops hstream | stays hstream =>
        rw [hpc] at hstream
        cases hstream
    | tests htest =>
        rw [hpc] at htest
        cases htest
  · exact ⟨[], by rw [move_history h hpc, List.append_nil]⟩

/-!
# Reads
-/

theorem step_reads_loopTop (w : World) {d : Device} (hpc : d.pc = .loopTop) :
    (step w d).reads = d.reads + 1 := by
  simp only [step, hpc]
  split <;> rfl

theorem move_reads {w : World} {d d' : Device} (h : Move w d d') :
    d.reads ≤ d'.reads := by
  cases h with
  | receives | nothing => exact Nat.le_succ _
  | streams => exact (tick_ticked w d).reads
  | tests _ hmove =>
      cases hmove with
      | openingTick | passTick => exact (tick_ticked w d).reads
      | control _ _ hreads => exact hreads
      | begins | observesTarget | observesOther | clears => exact Nat.le_succ _
      | returns | finishes | fault => exact Nat.le_refl _
  | rests | loops | stays => exact Nat.le_refl _

/-!
# The trial counter
-/

theorem control_inTrial {pc pc' : Pc} (h : Control pc pc') :
    pc.inTrial = true ∧ pc'.inTrial = true := by
  cases h <;> exact ⟨rfl, rfl⟩

theorem inTest_of_inTrial {pc : Pc} (h : pc.inTrial = true) :
    pc.inTest = true := by
  simp [Pc.inTest, h]

theorem testMove_counter {w : World} {d d' : Device} (h : TestMove w d d') :
    (d'.globals.currentTrial = d.globals.currentTrial ∧
      (d'.pc.inTrial = true -> d.pc.inTrial = true ∨
        d.globals.currentTrial ≤ d.globals.numberOfTrials)) ∨
    (d.pc.inTrial = true ∧ d'.pc = .trialHead ∧
      d'.globals.currentTrial = d.globals.currentTrial + 1) := by
  cases h with
  | begins hpc hle => exact Or.inl ⟨rfl, fun _ => Or.inr hle⟩
  | returns hpc hgt => exact Or.inl ⟨rfl, fun h => by cases h⟩
  | openingTick hpc | passTick hpc =>
      exact Or.inl ⟨tick_currentTrial w d, fun _ => Or.inl (by rw [hpc]; rfl)⟩
  | control hcontrol =>
      exact Or.inl ⟨rfl, fun _ => Or.inl (control_inTrial hcontrol).left⟩
  | observesTarget hpc => exact Or.inl ⟨rfl, fun _ => Or.inl (by rw [hpc]; rfl)⟩
  | observesOther hpc => exact Or.inl ⟨rfl, fun _ => Or.inl (by rw [hpc]; rfl)⟩
  | clears hpc => exact Or.inl ⟨rfl, fun _ => Or.inl (by rw [hpc]; rfl)⟩
  | finishes hpc => exact Or.inr ⟨by rw [hpc]; rfl, rfl, rfl⟩
  | fault hpc => exact Or.inl ⟨rfl, fun _ => Or.inl hpc⟩

theorem testMove_target {w : World} {d d' : Device} (h : TestMove w d d')
    (hpc : d'.pc.inTrial = true) : d'.globals.target = d.globals.target := by
  have hsequence : d'.globals.trialSequence = d.globals.trialSequence :=
    congrArg Configuration.trialSequence (testMove_frame h).left
  rcases testMove_counter h with ⟨hcounter, _⟩ | ⟨_, hhead, _⟩
  · rw [Globals.target, Globals.target, hsequence, hcounter]
  · rw [hhead] at hpc
    cases hpc

theorem testMove_stays {w : World} {d d' : Device} (h : TestMove w d d')
    (htarget : d.pc.inTrial = true -> d.globals.target ≠ none) :
    d'.pc.inTest = true ∨ d'.pc = .returned := by
  cases h with
  | returns => exact Or.inr rfl
  | control hcontrol =>
      exact Or.inl (inTest_of_inTrial (control_inTrial hcontrol).right)
  | fault hpc hnone => exact absurd hnone (htarget hpc)
  | _ => exact Or.inl rfl

end Receiver
end BoxTrials
