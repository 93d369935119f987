import BoxTrials.Receiver.Runs

/-!
# The range of the trial counter

The counter is declared as a trial number from 1 to the number of trials.  It is
compared with that number only where `TestSequence` begins a trial, while the
timer reads it in every iteration of `loop()` in which the state is
`MODE_STREAM`.
-/

namespace BoxTrials
namespace Receiver

open Foundation

def CounterInRange (g : Globals) : Prop :=
  g.currentTrial = NOVALUE ∨
    (1 ≤ g.currentTrial ∧ g.currentTrial ≤ g.numberOfTrials)

/-- Between two iterations of `loop()` and at every tick the counter is in its
range, and the samples that are written have the number of a trial. -/
structure CounterDocumented (w : World) (n : Nat) : Prop where
  counter : (run w n).pc = .loopTop ∨ Ticks (run w n) ->
    CounterInRange (run w n).globals
  samples : forall events object trial,
    (run w (n + 1)).trace = (run w n).trace ++ events ->
      .sampled object trial ∈ events ->
        1 ≤ trial ∧ trial ≤ (run w n).globals.numberOfTrials

def CompletesLast (d : Device) : Prop :=
  (exists outcome, d.pc = .trialEnd outcome) ∧
    d.globals.currentTrial = d.globals.numberOfTrials

structure Counting (d : Device) : Prop where
  running : d.globals.state = MODE_STREAM ->
    (1 ≤ d.globals.currentTrial ∧
      d.globals.currentTrial ≤ d.globals.numberOfTrials) ∧ d.pc ≠ .loopTop
  resting : d.globals.state ≠ MODE_STREAM -> d.globals.currentTrial = NOVALUE
  inside : d.pc ≠ .returned

theorem counting_boot : Counting Device.boot where
  running := by decide
  resting := fun _ => rfl
  inside := by decide

theorem counting_testMove {w : World} {d d' : Device} (hd : Sound d)
    (h : Counting d) (hpc : d.pc.inTest = true) (hmove : TestMove w d d')
    (hlast : ¬ CompletesLast d) : Counting d' := by
  have hstate := hd.streaming hpc
  rcases h.running hstate with ⟨⟨hlo, hhi⟩, _⟩
  have hconfiguration := (testMove_frame hmove).left
  have hstate' : d'.globals.state = MODE_STREAM :=
    (congrArg Configuration.state hconfiguration).trans hstate
  have hnumber : d'.globals.numberOfTrials = d.globals.numberOfTrials :=
    congrArg Configuration.numberOfTrials hconfiguration
  have hplace : d'.pc.inTest = true -> d'.pc ≠ .loopTop ∧ d'.pc ≠ .returned := by
    intro hin
    constructor
    all_goals
      intro heq
      rw [heq] at hin
      cases hin
  have hkept : d'.globals.currentTrial = d.globals.currentTrial ->
      d'.pc ≠ .loopTop ∧ d'.pc ≠ .returned -> Counting d' := by
    intro hsame hpc'
    exact
      { running := fun _ => ⟨⟨by omega, by omega⟩, hpc'.left⟩
        resting := fun hnot => absurd hstate' hnot
        inside := hpc'.right }
  have htick := tick_currentTrial w d
  cases hmove with
  | returns _ hgt => omega
  | openingTick | passTick => exact hkept htick (hplace rfl)
  | control hcontrol =>
      exact hkept rfl (hplace (inTest_of_inTrial (control_inTrial hcontrol).right))
  | finishes hpc =>
      have hne : d.globals.currentTrial ≠ d.globals.numberOfTrials :=
        fun heq => hlast ⟨⟨_, hpc⟩, heq⟩
      exact
        { running := fun _ => ⟨⟨by simp only; omega, by simp only; omega⟩, by simp⟩
          resting := fun hnot => absurd hstate' hnot
          inside := by simp }
  | fault => exact hkept rfl (by simp)
  | _ => exact hkept rfl (hplace rfl)

theorem counting_receive {w : World} {d : Device} {c : Command} (h : Counting d)
    (hpc : d.pc = .loopTop) (hstart : IsStart c.packet ->
      1 ≤ d.globals.numberOfTrials) : Counting (receive w c d) := by
  have hstate : d.globals.state ≠ MODE_STREAM :=
    fun hstate => (h.running hstate).right hpc
  have hplace : (receive w c d).pc ≠ .loopTop ∧ (receive w c d).pc ≠ .returned := by
    simp only [receive]
    split <;> simp
  by_cases hs : IsStart c.packet
  · rcases doCommand_start hs (w.time d.reads % wordModulus) d.globals with
      ⟨out, heq⟩
    have hglobals : (receive w c d).globals = _ := heq
    refine ⟨fun _ => ⟨?_, hplace.left⟩, fun hnot => ?_, hplace.right⟩
    · rw [hglobals]
      exact ⟨le_refl (1 : Int), hstart hs⟩
    · rw [hglobals] at hnot
      exact absurd rfl hnot
  by_cases ht : IsStop c.packet
  · rcases doCommand_stop ht (w.time d.reads % wordModulus) d.globals with
      ⟨out, heq⟩
    have hglobals : (receive w c d).globals = _ := heq
    refine ⟨fun hstream => ?_, fun _ => ?_, hplace.right⟩
    · rw [hglobals] at hstream
      cases hstream
    · rw [hglobals]
  · have hsame := doCommand_sameRun_of_not hs ht (w.time d.reads % wordModulus)
      d.globals
    exact ⟨fun hstream => absurd (hsame.state.symm.trans hstream) hstate,
      fun _ => hsame.currentTrial.trans (h.resting hstate), hplace.right⟩

theorem counting_step {w : World} {d : Device} (hd : Sound d) (h : Counting d)
    (hstart : Starts w d -> 1 ≤ d.globals.numberOfTrials)
    (hlast : ¬ CompletesLast d) : Counting (step w d) := by
  have hmove := step_move w d
  generalize step w d = d' at hmove
  cases hmove with
  | @receives c hpc hcommand =>
      exact counting_receive h hpc fun hs => hstart ⟨hpc, c, hcommand, hs⟩
  | nothing hpc _ =>
      exact ⟨fun hstate => absurd hpc (h.running hstate).right, h.resting, by simp⟩
  | streams hpc hstate =>
      refine ⟨?_, ?_, by simp⟩
      · intro _
        rcases h.running hstate with ⟨hrange, _⟩
        simp only
        rw [tick_currentTrial, tick_numberOfTrials]
        exact ⟨hrange, by simp⟩
      · intro hnot
        exact absurd ((tick_state w d).trans hstate) hnot
  | rests _ hstate =>
      exact ⟨fun hstream => absurd hstream hstate, h.resting, by simp⟩
  | tests htest hmove => exact counting_testMove hd h htest hmove hlast
  | loops hpc => exact absurd hpc h.inside
  | stays _ => exact h

theorem run_counting {w : World}
    (h : forall n, TrialsInRange (run w n).history ∧
      (Starts w (run w n) -> 1 ≤ (run w n).globals.numberOfTrials) ∧
      ¬ CompletesLast (run w n)) (n : Nat) : Counting (run w n) := by
  induction n with
  | zero =>
      exact counting_boot
  | succ n ih =>
      rcases h n with ⟨hrange, hstart, hlast⟩
      rw [run_succ]
      exact counting_step (run_sound ((run_defined_iff w n).mpr hrange)) ih hstart
        hlast

/-!
# Runs
-/

theorem completesLast_leaves {w : World} {n : Nat} (hd : Sound (run w n))
    (h : CompletesLast (run w n)) :
    (run w (n + 3)).pc = .loopTop ∧ ¬ CounterInRange (run w (n + 3)).globals := by
  rcases h with ⟨⟨outcome, hpc⟩, heq⟩
  have hcount := hd.counting (hd.streaming (by rw [hpc]; rfl))
  have hfinished : run w (n + 1) = testStep w (run w n) := by
    rw [run_succ, step_of_inTest w (by rw [hpc]; rfl)]
  simp only [testStep, hpc] at hfinished
  have hreturned : run w (n + 2) = { run w (n + 1) with pc := .returned } := by
    rw [run_succ w (n + 1), step_of_inTest w (by rw [hfinished]; rfl)]
    simp only [testStep, hfinished]
    rw [if_neg (by omega)]
  have htop : run w (n + 3) = { run w (n + 2) with pc := .loopTop } := by
    rw [run_succ w (n + 2)]
    simp only [step, hreturned]
  rw [htop, hreturned, hfinished]
  refine ⟨rfl, ?_⟩
  intro hrange
  simp only [CounterInRange, NOVALUE] at hrange
  omega

/-- The counter of a run is in its range exactly when no experiment is started
without a number of trials, none completes its last trial, and every TRIAL is
numbered within the sequence. -/
theorem counterDocumented_iff (w : World) :
    (forall n, (run w n).pc ≠ .undefined ∧ CounterDocumented w n) <->
      (forall n, TrialsInRange (run w n).history ∧
        (Starts w (run w n) -> 1 ≤ (run w n).globals.numberOfTrials) ∧
        ¬ CompletesLast (run w n)) := by
  constructor
  · intro h n
    have hd := run_sound (h n).left
    refine ⟨(run_defined_iff w n).mp (h n).left, ?_, ?_⟩
    · intro hstart
      rcases starts_globals hstart with ⟨now, out, hglobals⟩
      rw [← run_succ] at hglobals
      have hpc : (run w (n + 1)).pc = .loopStream := by
        have hdefined := (h (n + 1)).left
        rw [run_succ] at hdefined ⊢
        exact starts_pc hstart hdefined
      have hrange := (h (n + 1)).right.counter
        (Or.inr (Or.inl ⟨hpc, by rw [hglobals]⟩))
      rw [hglobals] at hrange
      simp only [CounterInRange, NOVALUE] at hrange
      omega
    · intro hlast
      rcases completesLast_leaves hd hlast with ⟨htop, hbeyond⟩
      exact hbeyond ((h (n + 3)).right.counter (Or.inl htop))
  · intro h n
    have hdefined := (run_defined_iff w n).mpr (h n).left
    have hd := run_sound hdefined
    have hcounting := run_counting h n
    have hcounter : (run w n).pc = .loopTop ∨ Ticks (run w n) ->
        CounterInRange (run w n).globals := by
      intro _
      by_cases hstate : (run w n).globals.state = MODE_STREAM
      · exact Or.inr (hcounting.running hstate).left
      · exact Or.inl (hcounting.resting hstate)
    refine ⟨hdefined, hcounter, ?_⟩
    intro events object trial htrace hmem
    rcases move_samples (run_move w n) with ⟨events', htrace', hsamples⟩
    rw [htrace', List.append_cancel_left_eq] at htrace
    rw [← htrace] at hmem
    rcases hsamples object trial hmem with ⟨hticks, _, htrial⟩
    have hstate : (run w n).globals.state = MODE_STREAM := by
      rcases hticks with ⟨_, hstate⟩ | ⟨s, hpc | hpc⟩
      · exact hstate
      · exact hd.streaming (by rw [hpc]; rfl)
      · exact hd.streaming (by rw [hpc]; rfl)
    rw [htrial]
    exact (hcounting.running hstate).left

def oneTrial : World :=
  World.scripted
    [Command.ofFields NTRIALS 0 1, Command.ofFields TRIAL 1 1,
      Command.ofFields STREAM 0 1]
    (fun n => n) monotone_id (fun _ b => b == 1)

/-- When the trial is over, `loop()` starts again with the counter at 2. -/
theorem not_counterDocumented_oneTrial :
    ¬ forall n, CounterDocumented oneTrial n := by
  intro h
  have hrange := (h 15).counter (Or.inl (by decide +kernel))
  revert hrange
  unfold CounterInRange
  decide +kernel

end Receiver
end BoxTrials
