import BoxTrials.Receiver.Runs

/-!
# The sample stream

Every start adds a task that samples.  A task is removed only by a tick, and
ticks run only while the experiment does, so a stop leaves the task in the timer
and the next start adds another one.
-/

namespace BoxTrials
namespace Receiver

open Foundation
open Libraries.ArduinoTimer

/-- While the experiment runs, the only task is that of the last start, with the
interval of the sample rate at that start, and a start finds no task. -/
structure OneStream (w : World) (n : Nat) : Prop where
  streaming : (run w n).globals.state = MODE_STREAM ->
    exists m task, LastStart w m n ∧
      (run w n).globals.timer.live = [task] ∧
      task.expires = sampleInterval (run w m).globals.sampleRateHz
  fresh : Starts w (run w n) -> (run w n).globals.timer.live = []

/-!
# The interval
-/

theorem sampleInterval_eq_zero_iff {f : Int} (hf : f = NOVALUE ∨ 0 < f) :
    sampleInterval f = 0 <-> 1000 < f := by
  rcases hf with rfl | hf
  · rw [sampleInterval_noValue]
    decide
  · rw [sampleInterval_of_pos hf]
    have hnonneg : 0 ≤ 1000 / f := Int.ediv_nonneg (by decide) (le_of_lt hf)
    constructor
    · intro h
      by_contra hle
      have hone : 1 ≤ 1000 / f := by
        rw [Int.le_ediv_iff_mul_le hf]
        omega
      omega
    · intro h
      rw [Int.ediv_eq_zero_of_lt (by decide) h]
      rfl

theorem sound_sampleRate {d : Device} (hd : Sound d) :
    d.globals.sampleRateHz = NOVALUE ∨ 0 < d.globals.sampleRateHz := by
  rw [hd.sampleRateHz]
  exact lastParameter_cases SAMPLERATE d.history

/-!
# Ticks
-/

theorem callHandler_streaming (h : Handler) (d : Device)
    (hd : d.globals.state = MODE_STREAM ∧ 1 ≤ d.globals.currentTrial) :
    (callHandler h d).1 = true ∧
      ((callHandler h d).2.globals.state = MODE_STREAM ∧
        1 ≤ (callHandler h d).2.globals.currentTrial) := by
  have hnot : ¬ (d.globals.currentTrial < 1 ∨ d.globals.state ≠ MODE_STREAM) := by
    intro hbad
    rcases hbad with hlt | hne
    · omega
    · exact hne hd.left
  have hframe := (callHandler_ticked h d).globals
  refine ⟨?_, by rw [hframe]; exact hd.left, by rw [hframe]; exact hd.right⟩
  cases h
  simp only [callHandler, timerEventWriteSTREAM]
  rw [if_neg hnot]

theorem tick_profiles (w : World) {d : Device}
    (hstate : d.globals.state = MODE_STREAM) (hcount : 1 ≤ d.globals.currentTrial)
    (hrepeats : forall task, task ∈ d.globals.timer.live -> task.repeats = true) :
    (tick w d).globals.timer.live.map Task.profile =
      d.globals.timer.live.map Task.profile :=
  tick_live_profiles (millis w) callHandler
    (fun d => d.globals.state = MODE_STREAM ∧ 1 ≤ d.globals.currentTrial)
    (fun _ hd => hd) callHandler_streaming d.globals.timer d ⟨hstate, hcount⟩
    hrepeats

theorem tick_live_nil (w : World) {d : Device}
    (honce : forall task, task ∈ d.globals.timer.live ->
      task.expires = 0 ∧ task.repeats = false) :
    (tick w d).globals.timer.live = [] :=
  tick_live_of_once (millis w) callHandler d.globals.timer d honce

/-!
# The timer along a run
-/

theorem step_timer {w : World} {d : Device} (hd : Sound d)
    (hstart : ¬ Starts w d) :
    (d.globals.state = MODE_STREAM ∧ (step w d).globals.state = MODE_STREAM ∧
      (step w d).globals.timer = (tick w d).globals.timer) ∨
    ((step w d).globals.timer = d.globals.timer ∧
      ((step w d).globals.state = MODE_STREAM ->
        d.globals.state = MODE_STREAM)) := by
  have hticks := tick_state w d
  have hmove := step_move w d
  generalize step w d = d' at hmove
  cases hmove with
  | @receives c hpc hcommand =>
      right
      have hnot : ¬ IsStart c.packet := fun h => hstart ⟨hpc, c, hcommand, h⟩
      by_cases hstop : IsStop c.packet
      · rcases doCommand_stop hstop (w.time d.reads % wordModulus) d.globals with
          ⟨out, heq⟩
        simp only [receive]
        rw [heq]
        refine ⟨rfl, ?_⟩
        intro hmode
        cases hmode
      · have hsame := doCommand_sameRun_of_not hnot hstop
          (w.time d.reads % wordModulus) d.globals
        exact ⟨hsame.timer, fun h => hsame.state.symm.trans h⟩
  | streams hpc hstate =>
      exact Or.inl ⟨hstate, hticks.trans hstate, rfl⟩
  | tests htest hmove =>
      have hstate := hd.streaming htest
      cases hmove with
      | openingTick hpc => exact Or.inl ⟨hstate, hticks.trans hstate, rfl⟩
      | passTick hpc => exact Or.inl ⟨hstate, hticks.trans hstate, rfl⟩
      | _ => exact Or.inr ⟨rfl, fun h => h⟩
  | _ => exact Or.inr ⟨rfl, fun h => h⟩

def StreamTask (w : World) (n : Nat) : Prop :=
  ((run w n).globals.state ≠ MODE_STREAM ∧
    (run w n).globals.timer.live = [] ∧
    forall k, k < n -> ¬ Starts w (run w k)) ∨
  exists m task, LastStart w m n ∧
    (run w n).globals.timer.live = [task] ∧ task.repeats = true ∧
    task.expires = sampleInterval (run w m).globals.sampleRateHz

theorem streamTask_start {w : World} {n : Nat} (hsound : Sound (run w n))
    (hlive : (run w n).globals.timer.live = [])
    (hstart : Starts w (run w n))
    (hrate : (run w n).globals.sampleRateHz ≤ 1000) :
    StreamTask w (n + 1) := by
  rcases starts_globals hstart with ⟨now, out, hglobals⟩
  have hnonzero : sampleInterval (run w n).globals.sampleRateHz ≠ 0 := by
    rw [Ne, sampleInterval_eq_zero_iff (sound_sampleRate hsound)]
    omega
  have hadded := every_live_of_nil hlive now
    (sampleInterval (run w n).globals.sampleRateHz) Handler.timerEventWriteSTREAM
  right
  refine ⟨n, _, ⟨hstart, Nat.lt_succ_self n, ?_⟩,
    (by rw [run_succ, hglobals]; exact hadded), decide_eq_true hnonzero, rfl⟩
  intro k hlo hhi
  omega

theorem streamTask_step {w : World} {n : Nat} (hsound : Sound (run w n))
    (h : StreamTask w n) (hstart : ¬ Starts w (run w n)) :
    StreamTask w (n + 1) := by
  have hstep := step_timer hsound hstart
  rw [← run_succ] at hstep
  rcases h with ⟨hstate, hlive, hnone⟩ | ⟨m, task, hlast, hlive, hrep, hexp⟩
  · left
    rcases hstep with ⟨hstream, _, _⟩ | ⟨htimer, hmode⟩
    · exact absurd hstream hstate
    · refine ⟨fun h => hstate (hmode h), by rw [htimer, hlive], ?_⟩
      intro k hk
      rcases Nat.lt_succ_iff_lt_or_eq.mp hk with hk | rfl
      · exact hnone k hk
      · exact hstart
  · right
    have hlast' : LastStart w m (n + 1) := by
      refine ⟨hlast.starts, Nat.lt_succ_of_lt hlast.before, ?_⟩
      intro k hlo hhi
      rcases Nat.lt_succ_iff_lt_or_eq.mp hhi with hk | rfl
      · exact hlast.last k hlo hk
      · exact hstart
    rcases hstep with ⟨hstream, _, htimer⟩ | ⟨htimer, _⟩
    · have hprofiles := tick_profiles w hstream (hsound.counting hstream)
        (by rw [hlive]; simpa using hrep)
      rw [← htimer, hlive] at hprofiles
      rcases List.map_eq_singleton_iff.mp hprofiles with ⟨kept, hkept, hprofile⟩
      simp only [Task.profile, Prod.mk.injEq] at hprofile
      exact ⟨m, kept, hlast', hkept, hprofile.right.right.trans hrep,
        hprofile.right.left.trans hexp⟩
    · exact ⟨m, task, hlast', by rw [htimer, hlive], hrep, hexp⟩

theorem run_streamTask {w : World}
    (hrange : forall n, TrialsInRange (run w n).history)
    (hunique : forall m n, Starts w (run w m) -> Starts w (run w n) -> m = n)
    (hrate : forall n, Starts w (run w n) ->
      (run w n).globals.sampleRateHz ≤ 1000) (n : Nat) : StreamTask w n := by
  induction n with
  | zero =>
      have hboot : Globals.boot.state ≠ MODE_STREAM := by decide
      refine Or.inl ⟨hboot, rfl, ?_⟩
      intro k hk
      exact absurd hk (Nat.not_lt_zero k)
  | succ n ih =>
      have hsound := run_sound ((run_defined_iff w n).mpr (hrange n))
      by_cases hstart : Starts w (run w n)
      · rcases ih with ⟨_, hlive, _⟩ | ⟨m, _, hlast, _⟩
        · exact streamTask_start hsound hlive hstart (hrate n hstart)
        · have := hunique m n hlast.starts hstart
          have := hlast.before
          omega
      · exact streamTask_step hsound ih hstart

/-!
# Runs with one stream
-/

theorem oneStream_live_ne_nil {w : World}
    (hdefined : forall n, (run w n).pc ≠ .undefined)
    (h : forall n, OneStream w n) {m n : Nat} (hmn : m ≤ n)
    (hlive : (run w m).globals.timer.live ≠ []) :
    (run w n).globals.timer.live ≠ [] := by
  induction n, hmn using Nat.le_induction with
  | base =>
      exact hlive
  | succ n _ ih =>
      by_cases hstart : Starts w (run w n)
      · exact absurd ((h n).fresh hstart) ih
      · have hstep := step_timer (run_sound (hdefined n)) hstart
        rw [← run_succ] at hstep
        rcases hstep with ⟨_, hstream, _⟩ | ⟨htimer, _⟩
        · rcases (h (n + 1)).streaming hstream with ⟨_, task, _, hone, _⟩
          rw [hone]
          exact List.cons_ne_nil task []
        · rw [htimer]
          exact ih

theorem rate_of_oneStream {w : World}
    (hdefined : forall n, (run w n).pc ≠ .undefined)
    (h : forall n, OneStream w n) {n : Nat} (hstart : Starts w (run w n)) :
    (run w n).globals.sampleRateHz ≤ 1000 := by
  by_contra hgt
  have hsound := run_sound (hdefined n)
  have hzero : sampleInterval (run w n).globals.sampleRateHz = 0 :=
    (sampleInterval_eq_zero_iff (sound_sampleRate hsound)).mpr (by omega)
  rcases starts_globals hstart with ⟨now, out, hglobals⟩
  rw [← run_succ] at hglobals
  have hstate : (run w (n + 1)).globals.state = MODE_STREAM := by
    rw [hglobals]
  have hpc : (run w (n + 1)).pc = .loopStream := by
    have hdef := hdefined (n + 1)
    rw [run_succ] at hdef ⊢
    exact starts_pc hstart hdef
  have hlive := every_live_of_nil ((h n).fresh hstart) now
    (sampleInterval (run w n).globals.sampleRateHz) Handler.timerEventWriteSTREAM
  have htick : (tick w (run w (n + 1))).globals.timer.live = [] := by
    apply tick_live_nil
    intro task htask
    rw [hglobals] at htask
    rw [hlive, hzero, List.mem_singleton] at htask
    rw [htask]
    exact ⟨rfl, rfl⟩
  have hnext : run w (n + 2) =
      { tick w (run w (n + 1)) with pc := .trialHead } := by
    rw [run_succ, step_loopStream hpc hstate]
  have hstream : (run w (n + 2)).globals.state = MODE_STREAM := by
    rw [hnext]
    exact (tick_state w (run w (n + 1))).trans hstate
  rcases (h (n + 2)).streaming hstream with ⟨_, task, _, hone, _⟩
  rw [hnext] at hone
  rw [show ({ tick w (run w (n + 1)) with pc := Pc.trialHead } :
    Device).globals.timer.live = [] from htick] at hone
  cases hone

/-- The sample stream is one in all of a run exactly when the run starts at most
one experiment, its sample rate is at most 1000, and every TRIAL is numbered
within the sequence. -/
theorem oneStream_iff (w : World) :
    (forall n, (run w n).pc ≠ .undefined ∧ OneStream w n) <->
      (forall n, TrialsInRange (run w n).history) ∧
        (forall m n, Starts w (run w m) -> Starts w (run w n) -> m = n) ∧
        forall n, Starts w (run w n) ->
          (run w n).globals.sampleRateHz ≤ 1000 := by
  constructor
  · intro h
    have hdefined := fun n => (h n).left
    have hone := fun n => (h n).right
    have hlater : forall m n, Starts w (run w m) -> Starts w (run w n) ->
        ¬ m < n := by
      intro m n hm hn hlt
      rcases starts_globals hm with ⟨now, out, hglobals⟩
      have hlive : (run w (m + 1)).globals.timer.live ≠ [] := by
        rw [run_succ, hglobals]
        rw [every_live_of_nil ((hone m).fresh hm)]
        exact List.cons_ne_nil _ []
      exact oneStream_live_ne_nil hdefined hone hlt hlive ((hone n).fresh hn)
    refine ⟨fun n => (run_defined_iff w n).mp (hdefined n), ?_,
      fun n => rate_of_oneStream hdefined hone⟩
    intro m n hm hn
    have := hlater m n hm hn
    have := hlater n m hn hm
    omega
  · intro hall n
    rcases hall with ⟨hrange, hunique, hrate⟩
    refine ⟨(run_defined_iff w n).mpr (hrange n), ?_⟩
    have htask := run_streamTask hrange hunique hrate n
    constructor
    · intro hstate
      rcases htask with ⟨hnot, _, _⟩ | ⟨m, task, hlast, hlive, _, hexp⟩
      · exact absurd hstate hnot
      · exact ⟨m, task, hlast, hlive, hexp⟩
    · intro hstart
      rcases htask with ⟨_, hlive, _⟩ | ⟨m, _, hlast, _⟩
      · exact hlive
      · have := hunique m n hlast.starts hstart
        have := hlast.before
        omega

/-- A start, a stop and a start: the timer holds the tasks of both experiments.
The third entry of the script is passed over, since the timer makes that read. -/
theorem not_oneStream_restart :
    ¬ forall n, OneStream
      (World.scripted
        [⟨⟨SAMPLERATE, 0, 20⟩, by constructor <;> decide⟩,
          ⟨⟨STREAM, 0, 1⟩, by constructor <;> decide⟩,
          ⟨⟨PING, 0, 0⟩, by constructor <;> decide⟩,
          ⟨⟨STREAM, 0, 0⟩, by constructor <;> decide⟩,
          ⟨⟨STREAM, 0, 1⟩, by constructor <;> decide⟩]
        (fun n => n) monotone_id (fun _ _ => false)) n := by
  intro h
  rcases (h 9).streaming (by decide +kernel) with ⟨m, task, _, hlive, _⟩
  have hlength := congrArg List.length hlive
  revert hlength
  rw [List.length_singleton]
  decide +kernel

end Receiver
end BoxTrials
