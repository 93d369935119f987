import Mathlib.Data.List.ReduceOption
import BoxTrials.Foundation.MachineWords

/-!
# The arduino-timer library

A timer holds a fixed number of task slots.  `every` takes the first free slot,
or none if all are taken; `tick` goes through the slots in order and calls the
handler of each task that is due.  A task leaves its slot only there, when its
handler answers false or when it does not repeat.

The time function and the handlers act on a state of the program that uses the
timer; the timer itself is no part of it.
-/

namespace BoxTrials
namespace Libraries

open Foundation

namespace ArduinoTimer

variable {eta sigma : Type}

/-- A taken slot: the handler, the time it was last started, the units of time
after which it is due, and whether it is repeated. -/
structure Task (eta : Type) where
  handler : eta
  start : Nat
  expires : Nat
  repeats : Bool
  deriving DecidableEq, Repr

def Task.profile (task : Task eta) : eta × Nat × Bool :=
  (task.handler, task.expires, task.repeats)

/-- `TIMER_MAX_TASKS`. -/
def maxTasks : Nat := 16

structure Timer (eta : Type) where
  slots : List (Option (Task eta))
  slots_length : slots.length = maxTasks

/-- `timer_create_default()`. -/
def Timer.create : Timer eta where
  slots := List.replicate maxTasks none
  slots_length := List.length_replicate

def Timer.live (timer : Timer eta) : List (Task eta) :=
  timer.slots.reduceOption

/-!
# Adding a task
-/

/-- `next_task_slot` and the writes of `add_task`: the first free slot is taken.
Without a free slot nothing happens. -/
def addTask (task : Task eta) :
    List (Option (Task eta)) -> List (Option (Task eta))
  | [] => []
  | none :: rest => some task :: rest
  | some other :: rest => some other :: addTask task rest

theorem addTask_length (task : Task eta) (slots : List (Option (Task eta))) :
    (addTask task slots).length = slots.length := by
  induction slots with
  | nil =>
      rfl
  | cons slot rest ih =>
      cases slot with
      | none =>
          rfl
      | some other =>
          simp [addTask, ih]

/-- `Timer::every`. The interval doubles as the repeat flag, so an interval of
zero makes a task that runs once. -/
def Timer.every (timer : Timer eta) (now interval : Nat) (h : eta) :
    Timer eta where
  slots := addTask
    { handler := h, start := now, expires := interval,
      repeats := decide (interval ≠ 0) } timer.slots
  slots_length := (addTask_length _ _).trans timer.slots_length

theorem addTask_live_of_nil (task : Task eta) {slots : List (Option (Task eta))}
    (hlen : slots.length ≠ 0) (h : slots.reduceOption = []) :
    (addTask task slots).reduceOption = [task] := by
  cases slots with
  | nil => exact absurd rfl hlen
  | cons slot rest =>
      cases slot with
      | none =>
          rw [List.reduceOption_cons_of_none] at h
          simp [addTask, h]
      | some other =>
          rw [List.reduceOption_cons_of_some] at h
          cases h

theorem every_live_of_nil {timer : Timer eta} (h : timer.live = [])
    (now interval : Nat) (handler : eta) :
    (timer.every now interval handler).live =
      [{ handler := handler, start := now, expires := interval,
         repeats := decide (interval ≠ 0) }] :=
  addTask_live_of_nil _ (by rw [timer.slots_length]; decide) h

/-!
# Ticking
-/

section Tick

variable (timeFunc : sigma -> Nat × sigma) (call : eta -> sigma -> Bool × sigma)

/-- The body of the loop in `tick` for a slot that holds a task. -/
def tickTask (task : Task eta) (s : sigma) : Option (Task eta) × sigma :=
  let (t, s) := timeFunc s
  if ulongSub t task.start ≥ task.expires then
    let (keep, s) := call task.handler s
    if keep && task.repeats then
      (some { task with start := t }, s)
    else
      (none, s)
  else
    (some task, s)

/-- The loop of `tick` over the slots. -/
def tickSlots : List (Option (Task eta)) -> sigma ->
    List (Option (Task eta)) × sigma
  | [], s => ([], s)
  | none :: rest, s =>
      let (rest, s) := tickSlots rest s
      (none :: rest, s)
  | some task :: rest, s =>
      let (slot, s) := tickTask timeFunc call task s
      let (rest, s) := tickSlots rest s
      (slot :: rest, s)

@[simp] theorem tickSlots_nil (s : sigma) :
    tickSlots timeFunc call [] s = ([], s) := rfl

@[simp] theorem tickSlots_none (rest : List (Option (Task eta))) (s : sigma) :
    tickSlots timeFunc call (none :: rest) s =
      (none :: (tickSlots timeFunc call rest s).1,
        (tickSlots timeFunc call rest s).2) := rfl

theorem tickSlots_some (task : Task eta) (rest : List (Option (Task eta)))
    (s : sigma) :
    tickSlots timeFunc call (some task :: rest) s =
      ((tickTask timeFunc call task s).1 ::
          (tickSlots timeFunc call rest (tickTask timeFunc call task s).2).1,
        (tickSlots timeFunc call rest (tickTask timeFunc call task s).2).2) :=
  rfl

theorem tickSlots_length (slots : List (Option (Task eta))) (s : sigma) :
    (tickSlots timeFunc call slots s).1.length = slots.length := by
  induction slots generalizing s with
  | nil =>
      rfl
  | cons slot rest ih =>
      cases slot with
      | none =>
          simp [ih]
      | some task =>
          simp [tickSlots_some, ih]

/-- `Timer::tick`. The number of ticks until the next event, which it also
computes, only reads the clock. -/
def Timer.tick (timer : Timer eta) (s : sigma) : Timer eta × sigma :=
  ({ slots := (tickSlots timeFunc call timer.slots s).1
     slots_length :=
       (tickSlots_length timeFunc call timer.slots s).trans timer.slots_length },
    (tickSlots timeFunc call timer.slots s).2)

/-!
## What a tick can do to the program state

A tick only reads the clock and calls handlers, so every preorder that those
two respect relates the state before a tick to the state after it.
-/

theorem tickSlots_rel (rel : sigma -> sigma -> Prop)
    (hrefl : forall s, rel s s)
    (htrans : forall {a b c}, rel a b -> rel b c -> rel a c)
    (htime : forall s, rel s (timeFunc s).2)
    (hcall : forall h s, rel s (call h s).2)
    (slots : List (Option (Task eta))) (s : sigma) :
    rel s (tickSlots timeFunc call slots s).2 := by
  have htask : forall task s, rel s (tickTask timeFunc call task s).2 := by
    intro task s
    have hread := htime s
    simp only [tickTask]
    split
    · have hrun := htrans hread (hcall task.handler (timeFunc s).2)
      split <;> exact hrun
    · exact hread
  induction slots generalizing s with
  | nil =>
      exact hrefl s
  | cons slot rest ih =>
      cases slot with
      | none =>
          exact ih s
      | some task =>
          rw [tickSlots_some]
          exact htrans (htask task s) (ih (tickTask timeFunc call task s).2)

theorem tickSlots_reads_le (reads : sigma -> Nat)
    (htime : forall s, reads (timeFunc s).2 = reads s + 1)
    (hcall : forall h s, reads (call h s).2 = reads s)
    (slots : List (Option (Task eta))) (s : sigma) :
    reads (tickSlots timeFunc call slots s).2 ≤ reads s + slots.length := by
  have htask : forall task s,
      reads (tickTask timeFunc call task s).2 = reads s + 1 := by
    intro task s
    simp only [tickTask]
    split
    · have hrun := (hcall task.handler (timeFunc s).2).trans (htime s)
      split <;> exact hrun
    · exact htime s
  induction slots generalizing s with
  | nil =>
      simp
  | cons slot rest ih =>
      cases slot with
      | none =>
          have := ih s
          simp only [tickSlots_none, List.length_cons]
          omega
      | some task =>
          have hrest := ih (tickTask timeFunc call task s).2
          rw [htask] at hrest
          simp only [tickSlots_some, List.length_cons]
          omega

/-!
## Due tasks

`anyDue` follows the loop of `tick` up to the first task that is due, without
running anything.
-/

def anyDue : List (Option (Task eta)) -> sigma -> Prop
  | [], _ => False
  | none :: rest, s => anyDue rest s
  | some task :: rest, s =>
      ulongSub (timeFunc s).1 task.start ≥ task.expires ∨
        anyDue rest (timeFunc s).2

theorem tickSlots_of_not_anyDue (slots : List (Option (Task eta))) (s : sigma)
    (h : ¬ anyDue timeFunc slots s) :
    (tickSlots timeFunc call slots s).1 = slots ∧
      exists k, (tickSlots timeFunc call slots s).2 =
        (fun s => (timeFunc s).2)^[k] s := by
  induction slots generalizing s with
  | nil =>
      exact ⟨rfl, 0, rfl⟩
  | cons slot rest ih =>
      cases slot with
      | none =>
          rcases ih s h with ⟨hslots, k, hstate⟩
          exact ⟨by simp [hslots], k, hstate⟩
      | some task =>
          have hnot : ¬ ulongSub (timeFunc s).1 task.start ≥ task.expires :=
            fun hdue => h (Or.inl hdue)
          have htask : tickTask timeFunc call task s =
              (some task, (timeFunc s).2) := by
            simp only [tickTask]
            rw [if_neg hnot]
          rcases ih (timeFunc s).2 (fun hdue => h (Or.inr hdue)) with
            ⟨hslots, k, hstate⟩
          rw [tickSlots_some, htask]
          exact ⟨by simp [hslots], k + 1, by rw [hstate]; rfl⟩

theorem tickSlots_of_anyDue (rel : sigma -> sigma -> Prop)
    (hrefl : forall s, rel s s)
    (htrans : forall {a b c}, rel a b -> rel b c -> rel a c)
    (htime : forall s, rel s (timeFunc s).2)
    (hcall : forall h s, rel s (call h s).2)
    (slots : List (Option (Task eta))) (s : sigma)
    (h : anyDue timeFunc slots s) :
    exists k handler,
      rel (call handler ((fun s => (timeFunc s).2)^[k] s)).2
        (tickSlots timeFunc call slots s).2 := by
  induction slots generalizing s with
  | nil =>
      cases h
  | cons slot rest ih =>
      cases slot with
      | none =>
          exact ih s h
      | some task =>
          rw [tickSlots_some]
          by_cases hdue : ulongSub (timeFunc s).1 task.start ≥ task.expires
          · refine ⟨1, task.handler, ?_⟩
            have hstate : (tickTask timeFunc call task s).2 =
                (call task.handler (timeFunc s).2).2 := by
              simp only [tickTask]
              rw [if_pos hdue]
              split <;> rfl
            rw [hstate]
            exact tickSlots_rel timeFunc call rel hrefl htrans htime hcall
              rest _
          · have hstate : (tickTask timeFunc call task s).2 =
                (timeFunc s).2 := by
              simp only [tickTask]
              rw [if_neg hdue]
            rw [hstate]
            rcases h with hnow | hlater
            · exact absurd hnow hdue
            · rcases ih (timeFunc s).2 hlater with ⟨k, handler, hrel⟩
              exact ⟨k + 1, handler, hrel⟩

/-!
## Which tasks stay

A repeating task whose handler answers true stays in its slot; only its start
time moves.
-/

theorem tickSlots_keeps (inv : sigma -> Prop)
    (htime : forall s, inv s -> inv (timeFunc s).2)
    (hcall : forall h s, inv s -> (call h s).1 = true ∧ inv (call h s).2)
    (slots : List (Option (Task eta))) (s : sigma) (hinv : inv s)
    (hrepeats : forall task, some task ∈ slots -> task.repeats = true) :
    (tickSlots timeFunc call slots s).1.map (Option.map Task.profile) =
      slots.map (Option.map Task.profile) := by
  induction slots generalizing s with
  | nil =>
      rfl
  | cons slot rest ih =>
      have hrest : forall task, some task ∈ rest -> task.repeats = true :=
        fun task htask => hrepeats task (List.mem_cons_of_mem slot htask)
      cases slot with
      | none =>
          simp [ih s hinv hrest]
      | some task =>
          have hread := htime s hinv
          have hkeep := hcall task.handler (timeFunc s).2 hread
          have hrep := hrepeats task (List.mem_cons_self ..)
          have htask :
              (tickTask timeFunc call task s).1.map Task.profile =
                  some task.profile ∧
                inv (tickTask timeFunc call task s).2 := by
            simp only [tickTask]
            split
            · rw [hkeep.left, hrep]
              exact ⟨by simp [Task.profile, hrep], hkeep.right⟩
            · exact ⟨rfl, hread⟩
          rw [tickSlots_some]
          simp [htask.left, ih _ htask.right hrest]

theorem tick_live_profiles (inv : sigma -> Prop)
    (htime : forall s, inv s -> inv (timeFunc s).2)
    (hcall : forall h s, inv s -> (call h s).1 = true ∧ inv (call h s).2)
    (timer : Timer eta) (s : sigma) (hinv : inv s)
    (hrepeats : forall task, task ∈ timer.live -> task.repeats = true) :
    (timer.tick timeFunc call s).1.live.map Task.profile =
      timer.live.map Task.profile := by
  have hkeeps := tickSlots_keeps timeFunc call inv htime hcall timer.slots s hinv
    (fun task htask => hrepeats task (List.reduceOption_mem_iff.mpr htask))
  have hlive := congrArg List.reduceOption hkeeps
  rw [List.reduceOption_map, List.reduceOption_map] at hlive
  exact hlive

theorem tickSlots_drops (slots : List (Option (Task eta))) (s : sigma)
    (h : forall task, some task ∈ slots ->
      task.expires = 0 ∧ task.repeats = false) :
    (tickSlots timeFunc call slots s).1.reduceOption = [] := by
  induction slots generalizing s with
  | nil =>
      rfl
  | cons slot rest ih =>
      have hrest : forall task, some task ∈ rest ->
          task.expires = 0 ∧ task.repeats = false :=
        fun task htask => h task (List.mem_cons_of_mem slot htask)
      cases slot with
      | none =>
          rw [tickSlots_none, List.reduceOption_cons_of_none]
          exact ih s hrest
      | some task =>
          rcases h task (List.mem_cons_self ..) with ⟨hzero, honce⟩
          have htask : (tickTask timeFunc call task s).1 = none := by
            simp only [tickTask]
            rw [if_pos (by rw [hzero]; exact Nat.zero_le _), honce]
            simp
          rw [tickSlots_some, htask, List.reduceOption_cons_of_none]
          exact ih _ hrest

theorem tick_live_of_once (timer : Timer eta) (s : sigma)
    (h : forall task, task ∈ timer.live ->
      task.expires = 0 ∧ task.repeats = false) :
    (timer.tick timeFunc call s).1.live = [] :=
  tickSlots_drops timeFunc call timer.slots s
    (fun task htask => h task (List.reduceOption_mem_iff.mpr htask))

/-!
## The same tick on another state
-/

theorem tickSlots_map {tau : Type} {timeFunc : sigma -> Nat × sigma}
    {call : eta -> sigma -> Bool × sigma} {timeFunc' : tau -> Nat × tau}
    {call' : eta -> tau -> Bool × tau} (f : sigma -> tau)
    (htime : forall s, timeFunc' (f s) = ((timeFunc s).1, f (timeFunc s).2))
    (hcall : forall h s, call' h (f s) = ((call h s).1, f (call h s).2))
    (slots : List (Option (Task eta))) (s : sigma) :
    tickSlots timeFunc' call' slots (f s) =
      ((tickSlots timeFunc call slots s).1,
        f (tickSlots timeFunc call slots s).2) := by
  have htask : forall task s, tickTask timeFunc' call' task (f s) =
      ((tickTask timeFunc call task s).1, f (tickTask timeFunc call task s).2) := by
    intro task s
    simp only [tickTask, htime, hcall]
    split
    · split <;> rfl
    · rfl
  induction slots generalizing s with
  | nil =>
      rfl
  | cons slot rest ih =>
      cases slot with
      | none =>
          rw [tickSlots_none, tickSlots_none, ih]
      | some task =>
          rw [tickSlots_some, tickSlots_some, htask, ih]

end Tick

end ArduinoTimer

end Libraries
end BoxTrials
