import BoxTrials.Receiver.Steps

/-!
# Experiments

The properties of `TestSequence` on its own are stated for a well-formed
experiment: the globals of a moment at which the function is entered for its
first trial, with the proofs that they describe a sequence of trials.
-/

namespace BoxTrials
namespace Receiver

open Libraries.ArduinoTimer

/-- A well-formed experiment, about to run. -/
structure Experiment where
  globals : Globals
  pins : Pins
  /-- The number of reads from outside so far. -/
  reads : Nat
  sequence : List Int
  stored : globals.trialSequence = some sequence
  length : (sequence.length : Int) = globals.numberOfTrials
  nonempty : 1 ≤ globals.numberOfTrials
  targets : forall b, b ∈ sequence -> 1 ≤ b ∧ b ≤ NOBJECTS
  first : globals.currentTrial = 1
  timeout_pos : 0 < globals.timeoutMs
  timeout_int : globals.timeoutMs < 2147483648

def Experiment.entry (e : Experiment) : Device where
  globals := e.globals
  pins := e.pins
  pc := .trialHead
  reads := e.reads
  trace := []

def Experiment.after (e : Experiment) (w : World) (n : Nat) : Device :=
  (testStep w)^[n] e.entry

def twoTrials : Experiment where
  globals :=
    { Globals.boot with
      state := MODE_STREAM
      numberOfTrials := 2
      trialSequence := some [1, 2]
      timeoutMs := 50
      currentTrial := 1
      currentObject := 0
      timer := Globals.boot.timer.every 0 10 Handler.timerEventWriteSTREAM }
  pins := Pins.dark
  reads := 0
  sequence := [1, 2]
  stored := rfl
  length := rfl
  nonempty := by decide
  targets := by decide
  first := rfl
  timeout_pos := by decide
  timeout_int := by decide

/-!
# Trials and their outcomes
-/

def Event.isProgress : Event -> Bool
  | .began _ | .finished _ _ => true
  | _ => false

def Device.progress (d : Device) : List Event :=
  d.trace.filter Event.isProgress

def rounds (k : Int) : List Outcome -> List Event
  | [] => []
  | outcome :: rest => .began k :: .finished k outcome :: rounds (k + 1) rest

theorem rounds_snoc (k : Int) (outcomes : List Outcome) (outcome : Outcome) :
    rounds k (outcomes ++ [outcome]) =
      rounds k outcomes ++
        [.began (k + outcomes.length), .finished (k + outcomes.length) outcome] := by
  induction outcomes generalizing k with
  | nil =>
      simp [rounds]
  | cons first rest ih =>
      have hlen : k + 1 + (rest.length : Int) =
          k + ((rest.length + 1 : Nat) : Int) := by
        omega
      simp [rounds, ih, hlen]

theorem tick_progress (w : World) (d : Device) :
    (tick w d).progress = d.progress := by
  rcases (tick_ticked w d).trace with ⟨samples, htrace, hsamples⟩
  have hnone : samples.filter Event.isProgress = [] := by
    rw [List.filter_eq_nil_iff]
    intro e he
    rw [hsamples e he]
    exact Bool.false_ne_true
  rw [Device.progress, htrace, List.filter_append, hnone, List.append_nil]
  rfl

/-!
# The invariant of an experiment
-/

structure Experiment.Within (e : Experiment) (d : Device)
    (outcomes : List Outcome) : Prop where
  configuration : d.globals.configuration = e.globals.configuration
  place : d.pc.inTest = true ∨ d.pc = .returned
  counter : d.globals.currentTrial = (outcomes.length : Int) + 1
  bounded : d.pc.inTrial = true ->
    d.globals.currentTrial ≤ e.globals.numberOfTrials
  atMost : (outcomes.length : Int) ≤ e.globals.numberOfTrials
  complete : d.pc = .returned ->
    (outcomes.length : Int) = e.globals.numberOfTrials
  progress : d.progress = rounds 1 outcomes ++
    (if d.pc.inTrial then [.began d.globals.currentTrial] else [])

theorem Experiment.within_entry (e : Experiment) : e.Within e.entry [] where
  configuration := rfl
  place := Or.inl rfl
  counter := e.first
  bounded := fun h => by cases h
  atMost := by
    have := e.nonempty
    simp only [List.length_nil]
    omega
  complete := fun h => by cases h
  progress := rfl

theorem Experiment.within_target {e : Experiment} {d : Device}
    {outcomes : List Outcome} (h : e.Within d outcomes)
    (hpc : d.pc.inTrial = true) :
    exists b, d.globals.target = some b ∧ 1 ≤ b ∧ b ≤ NOBJECTS := by
  have hsequence : d.globals.trialSequence = some e.sequence :=
    (congrArg Configuration.trialSequence h.configuration).trans e.stored
  have hcounter := h.counter
  have hbounded := h.bounded hpc
  have hlength := e.length
  have hindex : (d.globals.currentTrial - 1).toNat < e.sequence.length := by
    omega
  refine ⟨e.sequence[(d.globals.currentTrial - 1).toNat], ?_,
    e.targets _ (List.getElem_mem hindex)⟩
  simp only [Globals.target, hsequence]
  rw [if_pos (by omega), List.getElem?_eq_getElem hindex]

theorem Experiment.within_step {e : Experiment} {w : World} {d : Device}
    {outcomes : List Outcome} (h : e.Within d outcomes) :
    exists outcomes', e.Within (testStep w d) outcomes' := by
  cases htest : d.pc.inTest with
  | false =>
      rw [testStep_of_not_inTest w htest]
      exact ⟨outcomes, h⟩
  | true =>
      have hmove := testStep_testMove w htest
      generalize testStep w d = d' at hmove
      have hconfiguration :=
        (testMove_frame hmove).left.trans h.configuration
      have hcounter := h.counter
      have hnumber : d.globals.numberOfTrials = e.globals.numberOfTrials :=
        congrArg Configuration.numberOfTrials h.configuration
      -- Inside a trial the counter and the progress stay.
      have hinside : d.pc.inTrial = true -> d'.pc.inTrial = true ->
          d'.globals.currentTrial = d.globals.currentTrial ->
          d'.progress = d.progress ->
          exists outcomes', e.Within d' outcomes' := by
        intro hin hin' hsame hprogress
        refine ⟨outcomes, hconfiguration, Or.inl (inTest_of_inTrial hin'),
          hsame.trans hcounter, fun _ => hsame.trans_le (h.bounded hin), h.atMost,
          ?_, ?_⟩
        · intro hreturned
          rw [hreturned] at hin'
          cases hin'
        · rw [hprogress, h.progress, hin, hin', hsame]
      have hticked := tick_currentTrial w d
      cases hmove with
      | begins hpc hle =>
          refine ⟨outcomes, hconfiguration, Or.inl rfl, hcounter,
            fun _ => hnumber ▸ hle, h.atMost, Pc.noConfusion, ?_⟩
          have hprogress := h.progress
          rw [hpc] at hprogress
          simp only [Device.progress, List.filter_append] at hprogress ⊢
          rw [hprogress]
          simp [Pc.inTrial, Event.isProgress]
      | returns hpc hgt =>
          have hprogress := h.progress
          rw [hpc] at hprogress
          have hatMost := h.atMost
          exact ⟨outcomes, hconfiguration, Or.inr rfl, hcounter,
            Bool.noConfusion, hatMost, fun _ => by omega, hprogress⟩
      | openingTick hpc =>
          exact hinside (by rw [hpc]; rfl) rfl hticked (tick_progress w d)
      | passTick hpc =>
          exact hinside (by rw [hpc]; rfl) rfl hticked (tick_progress w d)
      | control hcontrol =>
          exact hinside (control_inTrial hcontrol).left
            (control_inTrial hcontrol).right rfl rfl
      | observesTarget hpc _ _ =>
          exact hinside (by rw [hpc]; rfl) rfl rfl
            (by simp [Device.progress, Event.isProgress])
      | observesOther hpc _ _ _ _ =>
          exact hinside (by rw [hpc]; rfl) rfl rfl
            (by simp [Device.progress, Event.isProgress])
      | clears hpc _ _ =>
          exact hinside (by rw [hpc]; rfl) rfl rfl
            (by simp [Device.progress, Event.isProgress])
      | @finishes outcome hpc =>
          have hin : d.pc.inTrial = true := by rw [hpc]; rfl
          have hbounded := h.bounded hin
          have hprogress := h.progress
          rw [hin] at hprogress
          refine ⟨outcomes ++ [outcome], hconfiguration, Or.inl rfl, ?_,
            Bool.noConfusion, ?_, Pc.noConfusion, ?_⟩
          · show d.globals.currentTrial + 1 = _
            rw [hcounter, List.length_append]
            rfl
          · rw [List.length_append, List.length_singleton]
            omega
          · simp only [Device.progress, List.filter_append] at hprogress ⊢
            rw [hprogress, rounds_snoc, hcounter]
            simp [Pc.inTrial, Event.isProgress, Int.add_comm]
      | fault hpc htarget =>
          rcases Experiment.within_target h hpc with ⟨b, hsome, _⟩
          rw [htarget] at hsome
          cases hsome

theorem Experiment.after_succ (e : Experiment) (w : World) (n : Nat) :
    e.after w (n + 1) = testStep w (e.after w n) :=
  Function.iterate_succ_apply' (testStep w) n e.entry

theorem Experiment.within_after (e : Experiment) (w : World) (n : Nat) :
    exists outcomes, e.Within (e.after w n) outcomes := by
  induction n with
  | zero =>
      exact ⟨[], e.within_entry⟩
  | succ n ih =>
      rcases ih with ⟨outcomes, h⟩
      rw [e.after_succ]
      exact Experiment.within_step h

end Receiver
end BoxTrials
