import BoxTrials.Foundation.TapeReader
import BoxTrials.Receiver.PowerOn

/-!
# Looks at the table

From power-on the receiver looks at the table once in a step at most, and counts
the look as a read.  So it does not matter whether the answers are known in
advance or given by a table that changes between the steps.
-/

namespace BoxTrials
namespace Receiver

open Foundation

def World.sees (w : World) (flags : Nat -> Int -> Bool) : World :=
  { w with isMoving := flags }

def SetupWorld.sees (x : SetupWorld) (flags : Nat -> Int -> Bool) : SetupWorld :=
  { x with world := x.world.sees flags }

theorem step_sees (w : World) {flags flags' : Nat -> Int -> Bool} {d : Device}
    (h : d.reads < (step (w.sees flags) d).reads ->
      flags d.reads = flags' d.reads) :
    step (w.sees flags') d = step (w.sees flags) d := by
  cases hpc : d.pc with
  | readTarget s =>
      simp only [step, testStep, hpc, Device.withTarget] at h ⊢
      cases htarget : d.globals.target with
      | none => rfl
      | some b =>
          simp only [htarget] at h ⊢
          have hsame : flags d.reads = flags' d.reads := by
            apply h
            split <;> exact Nat.lt_succ_self _
          simp only [World.sees, hsame]
          rfl
  | scan s j =>
      simp only [step, testStep, hpc, scanStep, Device.withTarget] at h ⊢
      split
      · rename_i hj
        cases htarget : d.globals.target with
        | none => rfl
        | some b =>
            simp only [if_pos hj, htarget] at h ⊢
            by_cases hb : j = b
            · rw [if_pos hb, if_pos hb]
            · rw [if_neg hb] at h ⊢
              have hsame : flags d.reads = flags' d.reads := by
                apply h
                split
                · exact Nat.lt_succ_self _
                · split <;> exact Nat.lt_succ_self _
              rw [if_neg hb]
              simp only [World.sees, hsame]
              rfl
      · rfl
  | respond outcome =>
      cases outcome <;> simp only [step, testStep, hpc]
  | _ =>
      simp only [step, testStep, hpc] <;> rfl

theorem setupStep_sees (x : SetupWorld) {flags flags' : Nat -> Int -> Bool}
    {s : Setup} (h : s.reads < (setupStep (x.sees flags) s).reads ->
      flags s.reads = flags' s.reads) :
    setupStep (x.sees flags') s = setupStep (x.sees flags) s := by
  cases hpc : s.pc with
  | wait i =>
      simp only [setupStep, hpc] at h ⊢
      have hsame : flags s.reads = flags' s.reads := by
        apply h
        split <;> exact Nat.lt_succ_self _
      simp only [SetupWorld.sees, World.sees, hsame]
      rfl
  | _ =>
      simp only [setupStep, hpc] <;> rfl

theorem setupStep_reads_le (x : SetupWorld) (s : Setup) :
    s.reads ≤ (setupStep x s).reads := by
  cases hpc : s.pc with
  | wait i =>
      simp only [setupStep, hpc]
      split <;> exact Nat.le_succ _
  | radio | colors | board i =>
      simp only [setupStep, hpc]
      split <;> exact Nat.le_refl _
  | _ =>
      simp only [setupStep, hpc]
      exact Nat.le_refl _

def Machine.reads (m : Machine) : Nat :=
  if m.setup.pc = .done then m.device.reads else m.setup.reads

theorem machineStep_reads (x : SetupWorld) (m : Machine) :
    (machineStep x m).reads =
      if m.setup.pc = .done then (step x.world m.device).reads
      else (setupStep x m.setup).reads := by
  unfold machineStep
  split
  · rename_i hdone
    exact if_pos hdone
  · unfold Machine.reads
    split
    · exact Nat.zero_add _
    · rfl

theorem machineStep_reads_le (x : SetupWorld) (m : Machine) :
    m.reads ≤ (machineStep x m).reads := by
  rw [machineStep_reads, Machine.reads]
  split
  · exact move_reads (step_move x.world m.device)
  · exact setupStep_reads_le x m.setup

theorem machineStep_sees (x : SetupWorld) {flags flags' : Nat -> Int -> Bool}
    {m : Machine} (h : m.reads < (machineStep (x.sees flags) m).reads ->
      flags m.reads = flags' m.reads) :
    machineStep (x.sees flags') m = machineStep (x.sees flags) m := by
  have hreads := machineStep_reads (x.sees flags) m
  by_cases hdone : m.setup.pc = .done
  · rw [if_pos hdone] at hreads
    rw [hreads, Machine.reads, if_pos hdone] at h
    have hstep := step_sees x.world h
    rw [machineStep, machineStep, if_pos hdone, if_pos hdone]
    exact congrArg
      (fun d => { setup := _, device := d : Machine }) hstep
  · rw [if_neg hdone] at hreads
    rw [hreads, Machine.reads, if_neg hdone] at h
    have hstep := setupStep_sees x h
    rw [machineStep, machineStep, if_neg hdone, if_neg hdone, hstep]

def tableReader (x : SetupWorld) : TapeReader (Int -> Bool) Machine where
  step := fun flags m => machineStep (x.sees flags) m
  position := Machine.reads
  position_le := fun flags m => machineStep_reads_le (x.sees flags) m
  step_congr := by
    intro flags flags' m h
    apply machineStep_sees x
    exact h m.reads (Nat.le_refl _)

end Receiver
end BoxTrials
