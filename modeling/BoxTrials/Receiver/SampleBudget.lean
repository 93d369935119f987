import BoxTrials.Libraries.TimerLoad
import BoxTrials.Receiver.Runs

/-!
# The number of samples

Starts pile up tasks in the timer, and what each of them samples depends on when
the loop comes to tick.  But no run has more samples than its starts ask for: one
for each interval that has passed since a start, by the clock.
-/

namespace BoxTrials
namespace Receiver

open Foundation
open Libraries.ArduinoTimer

def Event.isSample : Event -> Bool
  | .sampled _ _ => true
  | _ => false

def Device.samples (d : Device) : Nat :=
  d.trace.countP Event.isSample

/-- What a start that comes now can have sampled by the time `t`. -/
def startAllowance (w : World) (t : Nat) (d : Device) : Nat :=
  match d.pc, w.command d.reads with
  | .loopTop, some c =>
      if c.packet.commandNumber = STREAM ∧ c.packet.data = 1 then
        allowance (sampleInterval d.globals.sampleRateHz) (t - w.time d.reads)
      else
        0
  | _, _ => 0

/-- The same for all starts in the first `n` steps. -/
def sampleBudget (w : World) (t : Nat) : Nat -> Nat
  | 0 => 0
  | n + 1 => sampleBudget w t n + startAllowance w t (run w n)

def Device.now (w : World) (d : Device) : Nat :=
  w.time d.reads

theorem clocked_millis (w : World) :
    Clocked (millis w) callHandler (Device.now w) where
  time _ := rfl
  time_le d := w.time_mono (Nat.le_succ d.reads)
  call_le h d := w.time_mono (callHandler_ticked h d).reads

theorem samples_snoc {d d' : Device} {e : Event} (htrace : d'.trace = d.trace ++ [e]) :
    d'.samples = d.samples + e.isSample.toNat := by
  rw [Device.samples, htrace, List.countP_append, List.countP_singleton]
  cases e.isSample <;> rfl

theorem samples_other {d d' : Device} {e : Event} (htrace : d'.trace = d.trace ++ [e])
    (he : e.isSample = false) : d'.samples = d.samples := by
  rw [samples_snoc htrace, he]
  rfl

theorem emit_samples (e : Event) (d : Device) :
    (d.emit e).samples = d.samples + e.isSample.toNat :=
  samples_snoc rfl

theorem callHandler_samples (h : Handler) (d : Device) :
    (callHandler h d).2.samples ≤ d.samples + 1 := by
  cases h
  show (timerEventWriteSTREAM d).2.samples ≤ _
  unfold timerEventWriteSTREAM
  split
  · exact Nat.le_succ _
  · cases hwritten : (d.globals.writePacket STREAM d.globals.currentObject
      d.globals.currentTrial).1 with
    | false =>
        simp only [hwritten]
        exact Nat.le_succ _
    | true =>
        simp only [hwritten, if_true]
        exact Nat.le_of_eq (emit_samples (.sampled _ _) _)

theorem startAllowance_of_starts {w : World} {d : Device} (h : Starts w d) (t : Nat) :
    startAllowance w t d =
      allowance (sampleInterval d.globals.sampleRateHz) (t - d.now w) := by
  rcases h with ⟨hpc, c, hcommand, hstart⟩
  simp only [startAllowance, hpc, hcommand]
  exact if_pos hstart

inductive TimerMove (w : World) (d d' : Device) : Prop where
  | ticks (htimer : d'.globals.timer = (tick w d).globals.timer)
      (hsamples : d'.samples = (tick w d).samples)
      (hreads : d'.reads = (tick w d).reads)
  | starts (hstart : Starts w d)
      (htimer : d'.globals.timer = d.globals.timer.every (d.now w % wordModulus)
        (sampleInterval d.globals.sampleRateHz) Handler.timerEventWriteSTREAM)
      (hsamples : d'.samples = d.samples) (hreads : d.reads ≤ d'.reads)
  | keeps (htimer : d'.globals.timer = d.globals.timer)
      (hsamples : d'.samples = d.samples) (hreads : d.reads ≤ d'.reads)

theorem step_timerMove (w : World) (d : Device) : TimerMove w d (step w d) := by
  have hmove := step_move w d
  generalize hd' : step w d = d' at hmove ⊢
  cases hmove with
  | @receives c hpc hcommand =>
      have hsamples : (receive w c d).samples = d.samples := samples_other rfl rfl
      by_cases hstart : IsStart c.packet
      · rcases doCommand_start hstart (w.time d.reads % wordModulus) d.globals with
          ⟨out, heq⟩
        refine .starts ⟨hpc, c, hcommand, hstart⟩ ?_ hsamples (Nat.le_succ _)
        simp only [receive]
        rw [heq]
        rfl
      by_cases hstop : IsStop c.packet
      · rcases doCommand_stop hstop (w.time d.reads % wordModulus) d.globals with
          ⟨out, heq⟩
        refine .keeps ?_ hsamples (Nat.le_succ _)
        simp only [receive]
        rw [heq]
      · have hsame := doCommand_sameRun_of_not hstart hstop
          (w.time d.reads % wordModulus) d.globals
        exact .keeps hsame.timer hsamples (Nat.le_succ _)
  | streams _ _ => exact .ticks rfl rfl rfl
  | tests _ hmove =>
      cases hmove with
      | openingTick _ => exact .ticks rfl rfl rfl
      | passTick _ => exact .ticks rfl rfl rfl
      | begins _ _ => exact .keeps rfl (samples_other rfl rfl) (Nat.le_succ _)
      | observesTarget _ _ _ => exact .keeps rfl (samples_other rfl rfl) (Nat.le_succ _)
      | observesOther _ _ _ _ _ => exact .keeps rfl (samples_other rfl rfl) (Nat.le_succ _)
      | clears _ _ _ => exact .keeps rfl (samples_other rfl rfl) (Nat.le_succ _)
      | finishes _ => exact .keeps rfl (samples_other rfl rfl) (Nat.le_refl _)
      | control _ _ hreads => exact .keeps rfl rfl hreads
      | _ => exact .keeps rfl rfl (Nat.le_refl _)
  | nothing _ _ => exact .keeps rfl rfl (Nat.le_succ _)
  | _ => exact .keeps rfl rfl (Nat.le_refl _)

theorem step_reads_le (w : World) (d : Device) : d.reads ≤ (step w d).reads := by
  cases step_timerMove w d with
  | ticks _ _ hreads =>
      rw [hreads]
      exact (tick_ticked w d).reads
  | starts _ _ _ hreads => exact hreads
  | keeps _ _ hreads => exact hreads

def Covered (w : World) (t n : Nat) : Prop :=
  exists runs, Within ((run w n).now w) t (run w n).globals.timer.slots runs ∧
    (run w n).samples + runs ≤ sampleBudget w t n

theorem covered_step {w : World} {t n : Nat} (h : Covered w t n)
    (ht : (run w (n + 1)).now w ≤ t) : Covered w t (n + 1) := by
  rcases h with ⟨runs, hwithin, hbound⟩
  have hmove := step_timerMove w (run w n)
  rw [← run_succ] at hmove
  unfold Covered
  rw [sampleBudget]
  cases hmove with
  | ticks htimer hsamples hreads =>
      have hnow : (run w (n + 1)).now w = (tick w (run w n)).now w := by
        rw [Device.now, hreads, Device.now]
      rw [hnow] at ht ⊢
      -- The samples of the tick are runs that were allowed before.
      rcases within_tickSlots (clocked_millis w) (fun _ => rfl) callHandler_samples
        (run w n).globals.timer.slots (run w n) hwithin ht with
        ⟨runs', hwithin', hbound'⟩
      rw [htimer, hsamples]
      refine ⟨runs', hwithin', ?_⟩
      have htick : (tick w (run w n)).samples =
          (tickSlots (millis w) callHandler (run w n).globals.timer.slots
            (run w n)).2.samples := rfl
      omega
  | starts hstart htimer hsamples hreads =>
      have hnow : (run w n).now w ≤ (run w (n + 1)).now w := w.time_mono hreads
      rw [startAllowance_of_starts hstart, htimer, hsamples]
      -- The new task brings what the start adds to the budget.
      rcases @within_addTask _ _ _ _ _ hwithin
        { handler := Handler.timerEventWriteSTREAM,
          start := (run w n).now w % wordModulus,
          expires := sampleInterval (run w n).globals.sampleRateHz,
          repeats := decide (sampleInterval (run w n).globals.sampleRateHz ≠ 0) }
        rfl (fun hzero => by simp [show sampleInterval _ = 0 from hzero]) with
        ⟨runs', hwithin', hbound'⟩
      refine ⟨runs', within_mono hwithin' hnow, ?_⟩
      simp only at hbound'
      omega
  | keeps htimer hsamples hreads =>
      rw [htimer, hsamples]
      exact ⟨runs, within_mono hwithin (w.time_mono hreads), by omega⟩

theorem run_covered (w : World) (n : Nat) {t : Nat} (ht : (run w n).now w ≤ t) :
    Covered w t n := by
  induction n with
  | zero => exact ⟨0, within_create _ _, Nat.le_refl _⟩
  | succ n ih =>
      have hreads : (run w n).reads ≤ (run w (n + 1)).reads := by
        rw [run_succ]
        exact step_reads_le w (run w n)
      exact covered_step (ih (Nat.le_trans (w.time_mono hreads) ht)) ht

/-- In every run, the samples up to a step are no more than one for each interval
that has passed since each start, even if starts pile up and the clock wraps. -/
theorem samples_le_budget (w : World) (n : Nat) :
    (run w n).samples ≤ sampleBudget w ((run w n).now w) n := by
  rcases run_covered w n (Nat.le_refl _) with ⟨runs, _, hbound⟩
  exact Nat.le_trans (Nat.le_add_right _ runs) hbound

end Receiver
end BoxTrials
