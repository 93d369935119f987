import BoxTrials.Foundation.PeriodicSchedule
import BoxTrials.Libraries.TimerHandles

/-!
# When tasks run

A task is looked at by every tick, at the time that the clock shows when the tick
comes to its slot.  Whatever else is in the timer, and whatever the program does
between the ticks, its runs are those of a schedule on the wrapping clock.
-/

namespace BoxTrials
namespace Libraries

open Foundation

namespace ArduinoTimer

variable {eta sigma : Type}

/-- The time function shows the clock modulo the word size, and nothing turns the
clock back. -/
structure Clocked (timeFunc : sigma -> Nat × sigma)
    (call : eta -> sigma -> Bool × sigma) (clock : sigma -> Nat) : Prop where
  time : forall s, (timeFunc s).1 = clock s % wordModulus
  time_le : forall s, clock s ≤ clock (timeFunc s).2
  call_le : forall h s, clock s ≤ clock (call h s).2

/-- A timer that is ticked again and again. Between two ticks the program may do
anything but touch slot `i`. -/
structure Ticking (timeFunc : sigma -> Nat × sigma)
    (call : eta -> sigma -> Bool × sigma) (clock : sigma -> Nat) (i : Nat) where
  timer : Nat -> Timer eta
  state : Nat -> sigma
  slot : forall n, (timer (n + 1)).task? i =
    ((timer n).tick timeFunc call (state n)).1.task? i
  later : forall n,
    clock ((timer n).tick timeFunc call (state n)).2 ≤ clock (state (n + 1))

variable {timeFunc : sigma -> Nat × sigma} {call : eta -> sigma -> Bool × sigma}
variable {clock : sigma -> Nat} {i : Nat}

namespace Ticking

variable (x : Ticking timeFunc call clock i)

def here (n : Nat) : sigma :=
  stateAt timeFunc call (x.timer n).slots (x.state n) i

def look (n : Nat) : Nat :=
  clock (x.here n)

def runs (n : Nat) : Bool :=
  match (x.timer n).task? i with
  | none => false
  | some task => decide (ulongSub (x.look n % wordModulus) task.start ≥ task.expires)

def count : Nat -> Nat
  | 0 => 0
  | n + 1 => count n + (x.runs n).toNat

def answers (h : eta) (n : Nat) : Bool :=
  (call h (timeFunc (x.here n)).2).1

def schedule (first interval : Nat) : Schedule where
  turn := wordModulus
  interval := interval
  first := first
  look := x.look

end Ticking

/-!
# The time of a tick
-/

theorem tickSlots_append (slots later : List (Option (Task eta))) (s : sigma) :
    tickSlots timeFunc call (slots ++ later) s =
      ((tickSlots timeFunc call slots s).1 ++
          (tickSlots timeFunc call later (tickSlots timeFunc call slots s).2).1,
        (tickSlots timeFunc call later (tickSlots timeFunc call slots s).2).2) := by
  induction slots generalizing s with
  | nil => rfl
  | cons slot rest ih =>
      cases slot with
      | none =>
          rw [List.cons_append, tickSlots_none, tickSlots_none, ih]
          rfl
      | some task =>
          rw [List.cons_append, tickSlots_some, tickSlots_some, ih]
          rfl

theorem tickSlots_clock (hclock : Clocked timeFunc call clock)
    (slots : List (Option (Task eta))) (s : sigma) :
    clock s ≤ clock (tickSlots timeFunc call slots s).2 :=
  tickSlots_rel timeFunc call (fun s s' => clock s ≤ clock s')
    (fun _ => Nat.le_refl _) Nat.le_trans hclock.time_le hclock.call_le slots s

theorem stateAt_clock (hclock : Clocked timeFunc call clock)
    (slots : List (Option (Task eta))) (s : sigma) (i : Nat) :
    clock s ≤ clock (stateAt timeFunc call slots s i) ∧
      clock (stateAt timeFunc call slots s i) ≤
        clock (tickSlots timeFunc call slots s).2 := by
  constructor
  · exact tickSlots_clock hclock (slots.take i) s
  · have hsplit := @tickSlots_append _ _ timeFunc call (slots.take i) (slots.drop i) s
    rw [List.take_append_drop] at hsplit
    rw [hsplit]
    exact tickSlots_clock hclock (slots.drop i) _

theorem look_le_look (hclock : Clocked timeFunc call clock)
    (x : Ticking timeFunc call clock i) (n : Nat) : x.look n ≤ x.look (n + 1) := by
  have hend := (stateAt_clock hclock (x.timer n).slots (x.state n) i).right
  have hbegin :=
    (stateAt_clock hclock (x.timer (n + 1)).slots (x.state (n + 1)) i).left
  exact Nat.le_trans hend (Nat.le_trans (x.later n) hbegin)

theorem schedule_forward (hclock : Clocked timeFunc call clock)
    (x : Ticking timeFunc call clock i) {first : Nat}
    (hfirst : first ≤ clock (x.state 0)) (interval : Nat) :
    (x.schedule first interval).Forward where
  first_le :=
    Nat.le_trans hfirst (stateAt_clock hclock (x.timer 0).slots (x.state 0) i).left
  look_le := look_le_look hclock x

theorem task?_succ (hclock : Clocked timeFunc call clock)
    (x : Ticking timeFunc call clock i) {n : Nat} {task : Task eta}
    (htask : (x.timer n).task? i = some task) :
    (x.timer (n + 1)).task? i =
      if x.runs n then
        if x.answers task.handler n && task.repeats then
          some { task with start := x.look n % wordModulus }
        else
          none
      else
        some task := by
  have htime : (timeFunc (x.here n)).1 = x.look n % wordModulus := hclock.time _
  have hruns : x.runs n =
      decide (ulongSub (x.look n % wordModulus) task.start ≥ task.expires) := by
    simp only [Ticking.runs, htask]
  rw [x.slot, tick_task?, htask, Option.bind_some, hruns]
  show (tickTask timeFunc call task (x.here n)).1 = _
  simp only [tickTask, htime]
  by_cases hdue : ulongSub (x.look n % wordModulus) task.start ≥ task.expires
  · rw [if_pos (decide_eq_true hdue), if_pos hdue]
    exact apply_ite Prod.fst _ _ _
  · rw [if_neg (fun h => hdue (of_decide_eq_true h)), if_neg hdue]

theorem task?_succ_of_none (x : Ticking timeFunc call clock i) {n : Nat}
    (h : (x.timer n).task? i = none) : (x.timer (n + 1)).task? i = none := by
  rw [x.slot, tick_task?, h]
  rfl

/-!
# Repeated tasks
-/

section Repeated

variable {h : eta} {first interval : Nat} {x : Ticking timeFunc call clock i}

theorem repeated_slot (hclock : Clocked timeFunc call clock)
    (hfirst : first ≤ clock (x.state 0))
    (htask : (x.timer 0).task? i = some
      { handler := h, start := first % wordModulus, expires := interval,
        repeats := true })
    (hanswers : forall n, x.answers h n = true) (n : Nat) :
    (x.timer n).task? i = some
        { handler := h, start := (x.schedule first interval).start n % wordModulus,
          expires := interval, repeats := true } ∧
      x.runs n = (x.schedule first interval).runs n := by
  have hforward := schedule_forward hclock x hfirst interval
  have hruns : forall n, (x.timer n).task? i = some
        { handler := h, start := (x.schedule first interval).start n % wordModulus,
          expires := interval, repeats := true } ->
      x.runs n = (x.schedule first interval).runs n := by
    intro n hslot
    have hle : (x.schedule first interval).start n ≤ x.look n :=
      hforward.start_le_look n
    simp only [Ticking.runs, hslot, ulongSub_mod hle]
    rfl
  induction n with
  | zero => exact ⟨htask, hruns 0 htask⟩
  | succ n ih =>
      have hslot : (x.timer (n + 1)).task? i = some
          { handler := h,
            start := (x.schedule first interval).start (n + 1) % wordModulus,
            expires := interval, repeats := true } := by
        rw [task?_succ hclock x ih.left, ih.right, hanswers]
        cases hdue : (x.schedule first interval).runs n with
        | true =>
            rw [Schedule.start_succ_of_runs hdue]
            rfl
        | false =>
            rw [Schedule.start_succ_of_not_runs hdue]
            rfl
      exact ⟨hslot, hruns (n + 1) hslot⟩

/-- How a task that was added by `every` keeps its pace. -/
structure KeepsPace (x : Ticking timeFunc call clock i) (first interval : Nat) :
    Prop where
  apart : forall m n, m < n -> x.runs m = true -> x.runs n = true ->
    x.look m + interval ≤ x.look n
  /-- The run at tick `n` counts. -/
  notTooOften : forall n, first + x.count (n + 1) * interval ≤ x.look n
  /-- With ticks at most `gap` apart, and no turn of the clock in an interval and a
  gap. -/
  notTooSeldom : forall gap, x.look 0 ≤ first + gap ->
    (forall n, x.look (n + 1) ≤ x.look n + gap) -> interval + gap < wordModulus ->
      forall n, x.look n ≤ first + (x.count n + 1) * (interval + gap)

/-- A task that `every` has added keeps its pace for as long as its handler answers
true, on a clock that wraps. -/
theorem every_keepsPace (hclock : Clocked timeFunc call clock)
    (hfirst : first ≤ clock (x.state 0)) (hinterval : interval ≠ 0)
    {timer : Timer eta}
    (hadded : timer.everyTask (first % wordModulus) interval h = (some i, x.timer 0))
    (hanswers : forall n, x.answers h n = true) : KeepsPace x first interval := by
  have htask : (x.timer 0).task? i = some
      { handler := h, start := first % wordModulus, expires := interval,
        repeats := true } := by
    have hslot := (addTask_task? timer
      { handler := h, start := first % wordModulus, expires := interval,
        repeats := decide (interval ≠ 0) } i).left
    rw [Timer.everyTask] at hadded
    rw [hadded, if_pos rfl, decide_eq_true hinterval] at hslot
    exact hslot
  have hforward := schedule_forward hclock x hfirst interval
  have hruns := fun n => (repeated_slot hclock hfirst htask hanswers n).right
  have hcount : forall n, x.count n = (x.schedule first interval).count n := by
    intro n
    induction n with
    | zero => rfl
    | succ n ih => rw [Ticking.count, Schedule.count, ih, hruns]
  constructor
  case apart =>
    intro m n hmn hm hn
    rw [hruns] at hm hn
    exact hforward.runs_apart hmn hm hn
  case notTooOften =>
    intro n
    rw [hcount]
    exact hforward.count_succ_le n
  case notTooSeldom =>
    intro gap hgap hgaps hroom n
    have hprompt : (x.schedule first interval).Prompt gap :=
      { hforward with first_gap := hgap, look_gap := hgaps, room := hroom }
    rw [hcount]
    exact hprompt.look_le_count n

end Repeated

/-!
# Tasks that run once
-/

section Once

variable {h : eta} {first delay : Nat} {x : Ticking timeFunc call clock i}

theorem once_slot (hclock : Clocked timeFunc call clock)
    (htask : (x.timer 0).task? i = some
      { handler := h, start := first % wordModulus, expires := delay,
        repeats := false }) (n : Nat) :
    (((forall k, k < n -> x.runs k = false) ∧
        (x.timer n).task? i = (x.timer 0).task? i) ∨
      ((exists k, k < n ∧ x.runs k = true ∧ forall j, j < k -> x.runs j = false) ∧
        (x.timer n).task? i = none)) := by
  induction n with
  | zero => exact Or.inl ⟨fun k hk => absurd hk (Nat.not_lt_zero k), rfl⟩
  | succ n ih =>
      rcases ih with ⟨hidle, hslot⟩ | ⟨⟨k, hk, hran⟩, hfree⟩
      · have hnext := task?_succ hclock x (hslot.trans htask)
        cases hruns : x.runs n with
        | true =>
            -- The first run frees the slot.
            rw [hruns, Bool.and_false] at hnext
            exact Or.inr ⟨⟨n, Nat.lt_succ_self n, hruns, hidle⟩, hnext⟩
        | false =>
            rw [hruns] at hnext
            refine Or.inl ⟨?_, hnext.trans htask.symm⟩
            intro k hk
            rcases Nat.lt_succ_iff_lt_or_eq.mp hk with hlt | rfl
            · exact hidle k hlt
            · exact hruns
      · exact Or.inr ⟨⟨k, Nat.lt_succ_of_lt hk, hran⟩, task?_succ_of_none x hfree⟩

theorem once_runs (hclock : Clocked timeFunc call clock)
    (hfirst : first ≤ clock (x.state 0))
    (htask : (x.timer 0).task? i = some
      { handler := h, start := first % wordModulus, expires := delay,
        repeats := false }) (n : Nat)
    (hidle : forall k, k < n -> x.runs k = false) :
    (x.schedule first delay).start n = first ∧
      x.runs n = (x.schedule first delay).runs n := by
  have hforward := schedule_forward hclock x hfirst delay
  induction n with
  | zero =>
      have hle : first ≤ x.look 0 := hforward.first_le
      refine ⟨rfl, ?_⟩
      simp only [Ticking.runs, htask, ulongSub_mod hle]
      rfl
  | succ n ih =>
      rcases ih fun k hk => hidle k (Nat.lt_succ_of_lt hk) with ⟨hstart, hruns⟩
      rw [hidle n (Nat.lt_succ_self n)] at hruns
      have hnext : (x.schedule first delay).start (n + 1) = first := by
        rw [Schedule.start_succ_of_not_runs hruns.symm, hstart]
      have hle : first ≤ x.look (n + 1) := hnext ▸ hforward.start_le_look (n + 1)
      have hslot : (x.timer (n + 1)).task? i = (x.timer 0).task? i := by
        rcases once_slot hclock htask (n + 1) with ⟨_, hslot⟩ | ⟨⟨k, hk, hran, _⟩, _⟩
        · exact hslot
        · rw [hidle k hk] at hran
          cases hran
      refine ⟨hnext, ?_⟩
      simp only [Ticking.runs, hslot.trans htask, ulongSub_mod hle, Schedule.runs, hnext]
      rfl

/-- How a task that was added by `in` or `at` runs, when it is due at a time. -/
structure RunsOnce (x : Ticking timeFunc call clock i) (first due : Nat) : Prop where
  once : forall m n, x.runs m = true -> x.runs n = true -> m = n
  notEarly : forall n, x.runs n = true -> due ≤ x.look n
  freed : forall m n, x.runs m = true -> m < n -> (x.timer n).task? i = none
  /-- With ticks at most `gap` apart, and no turn of the clock until then. -/
  onTime : forall gap, x.look 0 ≤ first + gap ->
    (forall n, x.look (n + 1) ≤ x.look n + gap) -> due - first + gap < wordModulus ->
      (forall t, exists n, t ≤ x.look n) ->
        exists n, x.runs n = true ∧ x.look n ≤ due + gap ∧
          forall k, k < n -> x.look k < due

theorem once_idle (hclock : Clocked timeFunc call clock)
    (htask : (x.timer 0).task? i = some
      { handler := h, start := first % wordModulus, expires := delay,
        repeats := false }) {n : Nat} (hn : x.runs n = true) :
    forall k, k < n -> x.runs k = false := by
  rcases once_slot hclock htask n with ⟨hidle, _⟩ | ⟨_, hfree⟩
  · exact hidle
  · simp only [Ticking.runs, hfree] at hn
    cases hn

theorem once_quiet (hclock : Clocked timeFunc call clock)
    (hfirst : first ≤ clock (x.state 0))
    (htask : (x.timer 0).task? i = some
      { handler := h, start := first % wordModulus, expires := delay,
        repeats := false }) {n : Nat}
    (hbefore : forall k, k < n -> (x.schedule first delay).runs k = false) :
    forall k, k < n -> x.runs k = false := by
  induction n with
  | zero => exact fun k hk => absurd hk (Nat.not_lt_zero k)
  | succ n ih =>
      intro k hk
      have hearlier := ih fun j hj => hbefore j (Nat.lt_succ_of_lt hj)
      rcases Nat.lt_succ_iff_lt_or_eq.mp hk with hlt | rfl
      · exact hearlier k hlt
      · rw [(once_runs hclock hfirst htask k hearlier).right]
        exact hbefore k hk

theorem runsOnce_of_slot (hclock : Clocked timeFunc call clock)
    (hfirst : first ≤ clock (x.state 0))
    (htask : (x.timer 0).task? i = some
      { handler := h, start := first % wordModulus, expires := delay,
        repeats := false }) : RunsOnce x first (first + delay) := by
  have hforward := schedule_forward hclock x hfirst delay
  have honce : forall m n, x.runs m = true -> x.runs n = true -> ¬ m < n := by
    intro m n hm hn hlt
    rw [once_idle hclock htask hn m hlt] at hm
    cases hm
  constructor
  case once =>
    intro m n hm hn
    exact Nat.le_antisymm (Nat.not_lt.mp (honce n m hn hm))
      (Nat.not_lt.mp (honce m n hm hn))
  case notEarly =>
    intro n hn
    rcases once_runs hclock hfirst htask n (once_idle hclock htask hn) with
      ⟨hstart, hruns⟩
    have hle := hforward.start_le_look n
    rw [hruns] at hn
    have hdue := Schedule.start_add_le_look hn
    rw [hstart] at hdue hle
    have hlook : (x.schedule first delay).look n = x.look n := rfl
    have hinterval : (x.schedule first delay).interval = delay := rfl
    omega
  case freed =>
    intro m n hm hmn
    rcases once_slot hclock htask n with ⟨hidle, _⟩ | ⟨_, hfree⟩
    · rw [hidle m hmn] at hm
      cases hm
    · exact hfree
  case onTime =>
    intro gap hgap hgaps hroom hforever
    have hprompt : (x.schedule first delay).Prompt gap :=
      { hforward with
        first_gap := hgap
        look_gap := hgaps
        room := by
          show delay + gap < wordModulus
          omega }
    rcases hprompt.exists_run hforever 0 with ⟨n, _, hrun, hlate, hbefore⟩
    have hquiet := once_quiet hclock hfirst htask fun k hk =>
      hbefore k (Nat.zero_le k) hk
    refine ⟨n, ?_, hlate, ?_⟩
    · rw [(once_runs hclock hfirst htask n hquiet).right]
      exact hrun
    · intro k hk
      have hstart := (once_runs hclock hfirst htask k fun j hj =>
        hquiet j (Nat.lt_trans hj hk)).left
      have hnot : ¬ (x.schedule first delay).runs k = true := by
        rw [hbefore k (Nat.zero_le k) hk]
        exact Bool.false_ne_true
      rw [hprompt.runs_iff, hstart] at hnot
      exact Nat.not_le.mp hnot

theorem in_runsOnce (hclock : Clocked timeFunc call clock)
    (hfirst : first ≤ clock (x.state 0)) {timer : Timer eta}
    (hadded : timer.inTask (first % wordModulus) delay h = (some i, x.timer 0)) :
    RunsOnce x first (first + delay) := by
  have hslot := (addTask_task? timer
    { handler := h, start := first % wordModulus, expires := delay,
      repeats := false } i).left
  rw [Timer.inTask] at hadded
  rw [hadded, if_pos rfl] at hslot
  exact runsOnce_of_slot hclock hfirst hslot

theorem at_runsOnce (hclock : Clocked timeFunc call clock)
    (hfirst : first ≤ clock (x.state 0)) {due : Nat} (hdue : first ≤ due)
    (hturn : due < first + wordModulus) {timer : Timer eta}
    (hadded : timer.atTask (first % wordModulus) (due % wordModulus) h =
      (some i, x.timer 0)) : RunsOnce x first due := by
  have hdelay : ulongSub (due % wordModulus) (first % wordModulus) = due - first := by
    rw [ulongSub_mod hdue, Nat.mod_eq_of_lt (by omega)]
  have hslot := (addTask_task? timer
    { handler := h, start := first % wordModulus,
      expires := ulongSub (due % wordModulus) (first % wordModulus),
      repeats := false } i).left
  rw [Timer.atTask] at hadded
  rw [hadded, if_pos rfl, hdelay] at hslot
  have honce := runsOnce_of_slot hclock hfirst hslot
  rw [Nat.add_sub_cancel' hdue] at honce
  exact honce

/-- The calls that add a task to be run once, at the true time `first`, and when
the task is then due: `in` when its delay has passed, `at` when the clock next shows
its time, which for a time that has just passed is a turn later. -/
inductive AddedOnce (timer timer' : Timer eta) (i first : Nat) (h : eta) : Nat -> Prop
  | inTask {delay : Nat}
      (added : timer.inTask (first % wordModulus) delay h = (some i, timer')) :
      AddedOnce timer timer' i first h (first + delay)
  | atTask {due : Nat} (le : first ≤ due) (turn : due < first + wordModulus)
      (added : timer.atTask (first % wordModulus) (due % wordModulus) h =
        (some i, timer')) :
      AddedOnce timer timer' i first h due

/-- A task that `in` or `at` has added runs once, and not before it is due. -/
theorem addedOnce_runsOnce (hclock : Clocked timeFunc call clock)
    (hfirst : first ≤ clock (x.state 0)) {due : Nat} {timer : Timer eta}
    (hadded : AddedOnce timer (x.timer 0) i first h due) : RunsOnce x first due := by
  cases hadded with
  | inTask added => exact in_runsOnce hclock hfirst added
  | atTask le turn added => exact at_runsOnce hclock hfirst le turn added

end Once

/-!
# A timer that is ticked every millisecond
-/

section Steady

def steadyTime (s : Nat) : Nat × Nat :=
  (s % wordModulus, s)

def steadyCall (_ : Unit) (s : Nat) : Bool × Nat :=
  (true, s)

theorem steady_clocked : Clocked steadyTime steadyCall id where
  time _ := rfl
  time_le _ := Nat.le_refl _
  call_le _ _ := Nat.le_refl _

def steadyTimer (timer : Timer Unit) (first : Nat) : Nat -> Timer Unit
  | 0 => timer
  | n + 1 => ((steadyTimer timer first n).tick steadyTime steadyCall (first + n)).1

def steady (timer : Timer Unit) (first i : Nat) :
    Ticking steadyTime steadyCall id i where
  timer := steadyTimer timer first
  state n := first + n
  slot _ := rfl
  later n := by
    have hsame := tickSlots_rel steadyTime steadyCall (fun s s' => s' = s)
      (fun _ => rfl) (fun hab hbc => hbc.trans hab) (fun _ => rfl) (fun _ _ => rfl)
      (steadyTimer timer first n).slots (first + n)
    show (tickSlots steadyTime steadyCall _ (first + n)).2 ≤ first + (n + 1)
    rw [hsame]
    exact Nat.le_succ _

def pulse : Timer Unit :=
  (Timer.create.everyTask (4294967290 % wordModulus) 20 ()).2

theorem pulse_eq :
    Timer.create.everyTask (4294967290 % wordModulus) 20 () = (some 0, pulse) := rfl

theorem every_keepsPace_pulse : KeepsPace (steady pulse 4294967290 0) 4294967290 20 :=
  every_keepsPace steady_clocked (Nat.le_refl _) (by decide) pulse_eq fun _ => rfl

def alarm : Timer Unit :=
  (Timer.create.atTask (4294967290 % wordModulus) (4294967300 % wordModulus) ()).2

theorem alarm_eq :
    Timer.create.atTask (4294967290 % wordModulus) (4294967300 % wordModulus) () =
      (some 0, alarm) := rfl

theorem addedOnce_runsOnce_alarm :
    RunsOnce (steady alarm 4294967290 0) 4294967290 4294967300 :=
  addedOnce_runsOnce steady_clocked (Nat.le_refl _)
    (AddedOnce.atTask (by decide) (by decide) alarm_eq)

end Steady

end ArduinoTimer
end Libraries
end BoxTrials
