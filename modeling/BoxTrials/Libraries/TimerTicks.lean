import BoxTrials.Libraries.TimerSchedule

/-!
# The time until the next event

`ticks` answers how long a program may sleep.  It reads the clock anew for each
task, and in the end takes off the time that it has needed itself.
-/

namespace BoxTrials
namespace Libraries

open Foundation

namespace ArduinoTimer

variable {eta sigma : Type}

def ulongMax : Nat := wordModulus - 1

section Ticks

variable (timeFunc : sigma -> Nat × sigma)

/-- The loop of `ticks`, which it leaves at a task that is due. -/
def ticksLoop : List (Option (Task eta)) -> Nat -> sigma -> Nat × sigma
  | [], ticks, s => (ticks, s)
  | none :: rest, ticks, s => ticksLoop rest ticks s
  | some task :: rest, ticks, s =>
      let (t, s) := timeFunc s
      let duration := ulongSub t task.start
      if duration ≥ task.expires then
        (0, s)
      else
        let remaining := task.expires - duration
        ticksLoop rest (if remaining < ticks then remaining else ticks) s

def Timer.ticks (timer : Timer eta) (s : sigma) : Nat × sigma :=
  let (start, s) := timeFunc s
  let (ticks, s) := ticksLoop timeFunc timer.slots ulongMax s
  let (now, s) := timeFunc s
  let elapsed := ulongSub now start
  (if elapsed ≥ ticks ∨ ticks = ulongMax then 0 else ticks - elapsed, s)

end Ticks

def Task.dueAt (task : Task eta) (t : Nat) : Nat :=
  t + (task.expires - ulongSub (t % wordModulus) task.start)

def Task.Due (task : Task eta) (t : Nat) : Prop :=
  ulongSub (t % wordModulus) task.start ≥ task.expires

theorem ulongSub_add (t e start : Nat) :
    ulongSub ((t + e) % wordModulus) start =
      (ulongSub (t % wordModulus) start + e) % wordModulus := by
  unfold ulongSub wordModulus
  omega

theorem dueAt_spec {task : Task eta} (hword : task.expires < wordModulus) {t : Nat}
    (hnot : ¬ task.Due t) : t < task.dueAt t ∧ task.Due (task.dueAt t) ∧
      forall u, t ≤ u -> u < task.dueAt t -> ¬ task.Due u := by
  unfold Task.Due Task.dueAt at *
  refine ⟨by omega, ?_, ?_⟩
  · rw [ulongSub_add, Nat.mod_eq_of_lt (by omega)]
    omega
  · intro u hle hlt
    have hsplit : u = t + (u - t) := by omega
    rw [hsplit, ulongSub_add, Nat.mod_eq_of_lt (by omega)]
    omega

variable {timeFunc : sigma -> Nat × sigma} {clock : sigma -> Nat}

structure Bounds (clock : sigma -> Nat) (slots : List (Option (Task eta)))
    (limit : Nat) (s s' : sigma) (ticks : Nat) : Prop where
  later : clock s ≤ clock s'
  le_limit : ticks ≤ limit
  each : 0 < ticks -> forall task, some task ∈ slots ->
    exists t, clock s ≤ t ∧ t ≤ clock s' ∧ ¬ task.Due t ∧ t + ticks ≤ task.dueAt t
  attained : 0 < ticks -> ticks < limit -> exists task, some task ∈ slots ∧
    exists t, clock s ≤ t ∧ t ≤ clock s' ∧ ¬ task.Due t ∧ t + ticks = task.dueAt t

theorem bounds_free {slots : List (Option (Task eta))} {limit ticks : Nat}
    {s s' : sigma} (h : Bounds clock slots limit s s' ticks) :
    Bounds clock (none :: slots) limit s s' ticks where
  later := h.later
  le_limit := h.le_limit
  each := by
    intro hpos task htask
    rcases List.mem_cons.mp htask with hnone | hmem
    · cases hnone
    · exact h.each hpos task hmem
  attained := by
    intro hpos hlt
    rcases h.attained hpos hlt with ⟨task, hmem, hdue⟩
    exact ⟨task, List.mem_cons_of_mem _ hmem, hdue⟩

theorem bounds_task {slots : List (Option (Task eta))} {limit limit' ticks : Nat}
    {s s₁ s' : sigma} {task : Task eta} (hread : clock s ≤ clock s₁)
    (hdue : ¬ task.Due (clock s)) (hlimit : limit' ≤ limit)
    (hremaining : limit' ≤ task.dueAt (clock s) - clock s)
    (hcases : limit' = limit ∨ limit' = task.dueAt (clock s) - clock s)
    (h : Bounds clock slots limit' s₁ s' ticks) :
    Bounds clock (some task :: slots) limit s s' ticks := by
  have hlater := Nat.le_trans hread h.later
  have hbound := h.le_limit
  constructor
  case later => exact hlater
  case le_limit => exact Nat.le_trans hbound hlimit
  case each =>
    intro hpos other hmem
    rcases List.mem_cons.mp hmem with hsame | hmem
    · cases hsame
      exact ⟨clock s, Nat.le_refl _, hlater, hdue, by omega⟩
    · rcases h.each hpos other hmem with ⟨t, hlo, hhi, hother⟩
      exact ⟨t, Nat.le_trans hread hlo, hhi, hother⟩
  case attained =>
    intro hpos hlt
    by_cases hkept : ticks < limit'
    · rcases h.attained hpos hkept with ⟨other, hmem, t, hlo, hhi, hother⟩
      exact ⟨other, List.mem_cons_of_mem _ hmem, t, Nat.le_trans hread hlo, hhi,
        hother⟩
    · exact ⟨task, List.mem_cons_self .., clock s, Nat.le_refl _, hlater, hdue,
        by omega⟩

theorem ticksLoop_bounds (htime : forall s, (timeFunc s).1 = clock s % wordModulus)
    (hle : forall s, clock s ≤ clock (timeFunc s).2) (slots : List (Option (Task eta)))
    (limit : Nat) (s : sigma) :
    Bounds clock slots limit s (ticksLoop timeFunc slots limit s).2
      (ticksLoop timeFunc slots limit s).1 := by
  induction slots generalizing limit s with
  | nil =>
      constructor
      case later => exact Nat.le_refl _
      case le_limit => exact Nat.le_refl _
      case each => exact fun _ task htask => absurd htask List.not_mem_nil
      case attained => exact fun _ hlt => absurd hlt (Nat.lt_irrefl _)
  | cons slot rest ih =>
      cases slot with
      | none => exact bounds_free (ih limit s)
      | some task =>
          by_cases hdue : task.Due (clock s)
          · have hloop : ticksLoop timeFunc (some task :: rest) limit s =
                (0, (timeFunc s).2) := by
              simp only [ticksLoop, htime]
              exact if_pos hdue
            rw [hloop]
            exact
              { later := hle s
                le_limit := Nat.zero_le _
                each := fun hpos => absurd hpos (Nat.lt_irrefl _)
                attained := fun hpos => absurd hpos (Nat.lt_irrefl _) }
          · have hloop : ticksLoop timeFunc (some task :: rest) limit s =
                ticksLoop timeFunc rest
                  (if task.dueAt (clock s) - clock s < limit then
                    task.dueAt (clock s) - clock s
                  else
                    limit) (timeFunc s).2 := by
              simp only [ticksLoop, htime, Task.dueAt, Nat.add_sub_cancel_left]
              exact if_neg hdue
            rw [hloop]
            -- The loop goes on with the lower one of the two bounds.
            split
            · rename_i hless
              exact bounds_task (hle s) hdue (Nat.le_of_lt hless) (Nat.le_refl _)
                (Or.inr rfl) (ih _ _)
            · rename_i hmore
              exact bounds_task (hle s) hdue (Nat.le_refl _) (Nat.not_lt.mp hmore)
                (Or.inl rfl) (ih _ _)

/-- How far the answer of `ticks` can be relied on, at the end of the call. -/
structure SleepsWell (timer : Timer eta) (began now ticks : Nat) : Prop where
  /-- No task is due before the time is over. -/
  notTooLong : forall task, some task ∈ timer.slots ->
    forall t, now ≤ t -> t < now + ticks -> ¬ task.Due t
  /-- Some task is due then, or later by no more than the call has taken. -/
  notTooShort : 0 < ticks -> exists task, some task ∈ timer.slots ∧
    exists t, now + ticks ≤ t ∧ t ≤ now + ticks + (now - began) ∧ task.Due t

/-- A program that sleeps for as long as `ticks` says misses no task, and wakes up
for one. -/
theorem ticks_sleepsWell (htime : forall s, (timeFunc s).1 = clock s % wordModulus)
    (hle : forall s, clock s ≤ clock (timeFunc s).2) (timer : Timer eta) (s : sigma)
    (hwords : forall task, some task ∈ timer.slots -> task.expires < wordModulus)
    (hturn : clock (ticksLoop timeFunc timer.slots ulongMax (timeFunc s).2).2 <
      clock s + wordModulus) :
    SleepsWell timer (clock s)
      (clock (ticksLoop timeFunc timer.slots ulongMax (timeFunc s).2).2)
      (timer.ticks timeFunc s).1 := by
  have hloop := ticksLoop_bounds htime hle timer.slots ulongMax (timeFunc s).2
  have hread := hle s
  have hlater := hloop.later
  generalize hend : ticksLoop timeFunc timer.slots ulongMax (timeFunc s).2 = result
    at hloop hturn hlater ⊢
  rcases result with ⟨bound, s'⟩
  simp only at hloop hturn hlater ⊢
  have helapsed : ulongSub (clock s' % wordModulus) (clock s % wordModulus) =
      clock s' - clock s := by
    rw [ulongSub_mod (by omega), Nat.mod_eq_of_lt (by omega)]
  have hticks : (timer.ticks timeFunc s).1 =
      if clock s' - clock s ≥ bound ∨ bound = ulongMax then
        0
      else
        bound - (clock s' - clock s) := by
    simp only [Timer.ticks, hend, htime, helapsed]
  rw [hticks]
  by_cases hzero : clock s' - clock s ≥ bound ∨ bound = ulongMax
  · rw [if_pos hzero]
    constructor
    case notTooLong => intro task _ t hlo hhi; omega
    case notTooShort => exact fun hpos => absurd hpos (Nat.lt_irrefl _)
  · rw [if_neg hzero]
    have hlimit := hloop.le_limit
    have hpos : 0 < bound := by omega
    constructor
    case notTooLong =>
      intro task hmem t hlo hhi
      rcases hloop.each hpos task hmem with ⟨u, hulo, huhi, hnot, hdue⟩
      exact (dueAt_spec (hwords task hmem) hnot).right.right t (by omega) (by omega)
    case notTooShort =>
      intro _
      rcases hloop.attained hpos (by omega) with ⟨task, hmem, u, hulo, huhi, hnot, hdue⟩
      exact ⟨task, hmem, task.dueAt u, by omega, by omega,
        (dueAt_spec (hwords task hmem) hnot).right.left⟩

theorem pulse_slots : pulse.slots =
    some { handler := (), start := 4294967290, expires := 20, repeats := true } ::
      List.replicate 15 none := rfl

theorem ticks_sleepsWell_pulse :
    (pulse.ticks steadyTime 4294967300).1 = 10 ∧
      SleepsWell pulse 4294967300 4294967300 (pulse.ticks steadyTime 4294967300).1 := by
  have hwords : forall task, some task ∈ pulse.slots -> task.expires < wordModulus := by
    intro task hmem
    rw [pulse_slots] at hmem
    simp only [List.mem_cons, Option.some.injEq, List.mem_replicate] at hmem
    rcases hmem with rfl | ⟨_, hnone⟩
    · decide
    · cases hnone
  exact ⟨by decide, @ticks_sleepsWell Unit Nat steadyTime id (fun _ => rfl)
    (fun _ => Nat.le_refl _) pulse 4294967300 hwords (by decide)⟩

end ArduinoTimer
end Libraries
end BoxTrials
