import BoxTrials.Libraries.TimerSchedule

/-!
# How often tasks can run

Each task brings an allowance of runs, which grows with the time since it was
last started.  A tick uses up the allowance of a task that it runs, and starts a
new one; together the tasks of a timer never run more often than this.
-/

namespace BoxTrials
namespace Libraries

open Foundation

namespace ArduinoTimer

variable {eta sigma : Type}

def allowance (interval elapsed : Nat) : Nat :=
  if interval = 0 then 1 else elapsed / interval

theorem allowance_run {interval start now t : Nat} (hdue : start + interval ≤ now)
    (ht : now ≤ t) (hpos : interval ≠ 0) :
    allowance interval (t - now) + 1 ≤ allowance interval (t - start) := by
  rw [allowance, allowance, if_neg hpos, if_neg hpos,
    ← Nat.add_div_right _ (Nat.pos_of_ne_zero hpos)]
  exact Nat.div_le_div_right (by omega)

theorem allowance_pos {interval start now t : Nat} (hdue : start + interval ≤ now)
    (ht : now ≤ t) : 1 ≤ allowance interval (t - start) := by
  unfold allowance
  split
  · exact Nat.le_refl 1
  · rename_i hpos
    exact (Nat.one_le_div_iff (Nat.pos_of_ne_zero hpos)).mpr (by omega)

inductive Within (now t : Nat) : List (Option (Task eta)) -> Nat -> Prop where
  | nil : Within now t [] 0
  | free {rest : List (Option (Task eta))} {runs : Nat} (h : Within now t rest runs) :
      Within now t (none :: rest) runs
  | taken {task : Task eta} {rest : List (Option (Task eta))} {start runs : Nat}
      (hle : start ≤ now) (hstart : task.start = start % wordModulus)
      (honce : task.expires = 0 -> task.repeats = false)
      (h : Within now t rest runs) :
      Within now t (some task :: rest) (allowance task.expires (t - start) + runs)

theorem within_mono {now now' t : Nat} {slots : List (Option (Task eta))} {runs : Nat}
    (h : Within now t slots runs) (hle : now ≤ now') : Within now' t slots runs := by
  induction h with
  | nil => exact .nil
  | free _ ih => exact .free ih
  | taken hstart hword honce _ ih =>
      exact .taken (Nat.le_trans hstart hle) hword honce ih

theorem within_create (now t : Nat) :
    Within now t (Timer.create : Timer eta).slots 0 := by
  show Within now t (List.replicate maxTasks none) 0
  induction maxTasks with
  | zero => exact .nil
  | succ n ih => exact .free ih

theorem within_addTask {now t : Nat} {slots : List (Option (Task eta))} {runs : Nat}
    (h : Within now t slots runs) {task : Task eta}
    (hstart : task.start = now % wordModulus)
    (honce : task.expires = 0 -> task.repeats = false) :
    exists runs', Within now t (ArduinoTimer.addTask task slots) runs' ∧
      runs' ≤ runs + allowance task.expires (t - now) := by
  induction h with
  | nil => exact ⟨0, .nil, Nat.zero_le _⟩
  | @free rest runs h _ =>
      exact ⟨_, .taken (Nat.le_refl now) hstart honce h, by omega⟩
  | taken hle hword hold _ ih =>
      rcases ih with ⟨runs', hrest, hbound⟩
      exact ⟨_, .taken hle hword hold hrest, by omega⟩

variable {timeFunc : sigma -> Nat × sigma} {call : eta -> sigma -> Bool × sigma}
variable {clock events : sigma -> Nat}

theorem tickTask_cases (htime : forall s, (timeFunc s).1 = clock s % wordModulus)
    (task : Task eta) (s : sigma) :
    tickTask timeFunc call task s = (some task, (timeFunc s).2) ∨
      (task.expires ≤ ulongSub (clock s % wordModulus) task.start ∧
        (tickTask timeFunc call task s).2 = (call task.handler (timeFunc s).2).2 ∧
        ((tickTask timeFunc call task s).1 = none ∨
          (task.repeats = true ∧ (tickTask timeFunc call task s).1 =
            some { task with start := clock s % wordModulus }))) := by
  simp only [tickTask, htime]
  split
  · rename_i hdue
    refine Or.inr ⟨hdue, ?_⟩
    split
    · rename_i hkeep
      exact ⟨rfl, Or.inr ⟨(Bool.and_eq_true_iff.mp hkeep).right, rfl⟩⟩
    · exact ⟨rfl, Or.inl rfl⟩
  · exact Or.inl rfl

theorem within_tickSlots (hclock : Clocked timeFunc call clock)
    (hread : forall s, events (timeFunc s).2 = events s)
    (hcall : forall h s, events (call h s).2 ≤ events s + 1) {t : Nat}
    (slots : List (Option (Task eta))) (s : sigma) {runs : Nat}
    (h : Within (clock s) t slots runs)
    (ht : clock (tickSlots timeFunc call slots s).2 ≤ t) :
    exists runs', Within (clock (tickSlots timeFunc call slots s).2) t
        (tickSlots timeFunc call slots s).1 runs' ∧
      events (tickSlots timeFunc call slots s).2 + runs' ≤ events s + runs := by
  induction slots generalizing s runs with
  | nil => exact ⟨runs, h, Nat.le_refl _⟩
  | cons slot rest ih =>
      cases h with
      | free h =>
          rcases ih s h ht with ⟨runs', hrest, hbound⟩
          exact ⟨runs', .free hrest, hbound⟩
      | @taken task _ start runs hle hstart honce h =>
          rw [tickSlots_some] at ht ⊢
          simp only at ht ⊢
          have hstep : clock s ≤ clock (tickTask timeFunc call task s).2 :=
            tickSlots_clock hclock [some task] s
          have hlater := @tickSlots_clock _ _ timeFunc call clock hclock rest
            (tickTask timeFunc call task s).2
          rcases ih (tickTask timeFunc call task s).2 (within_mono h hstep) ht with
            ⟨runs', hrest, hbound⟩
          rcases @tickTask_cases _ _ timeFunc call clock hclock.time task s with
            hidle | ⟨hdue, hstate, hslot⟩
          · -- The task is not due, and its allowance stays.
            rw [hidle] at hrest hbound hlater ⊢
            simp only [hread] at hbound ⊢
            refine ⟨_, .taken (Nat.le_trans hle (Nat.le_trans (hclock.time_le s) hlater))
              hstart honce hrest, ?_⟩
            omega
          · have hevents : events (tickTask timeFunc call task s).2 ≤ events s + 1 := by
              rw [hstate, ← hread s]
              exact hcall task.handler (timeFunc s).2
            have hpassed : start + task.expires ≤ clock s := by
              rw [hstart, ulongSub_mod hle] at hdue
              have hmod := Nat.mod_le (clock s - start) wordModulus
              omega
            have hend : clock s ≤ t := Nat.le_trans hstep (Nat.le_trans hlater ht)
            rcases hslot with hnone | ⟨hrepeats, hkept⟩
            · -- The task is dropped, and its allowance had the run.
              have hone := allowance_pos hpassed hend
              rw [hnone]
              exact ⟨runs', .free hrest, by omega⟩
            · -- The task starts again, with one run less.
              have hpos : task.expires ≠ 0 := by
                intro hzero
                rw [honce hzero] at hrepeats
                cases hrepeats
              have hrun := allowance_run hpassed hend hpos
              rw [hkept]
              exact ⟨_, .taken (Nat.le_trans hstep hlater) rfl honce hrest, by
                simp only
                omega⟩

end ArduinoTimer
end Libraries
end BoxTrials
