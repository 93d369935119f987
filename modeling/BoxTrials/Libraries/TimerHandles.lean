import BoxTrials.Libraries.ArduinoTimer

/-!
# Task handles

`in`, `at` and `every` return the slot that they have taken, and `cancel` frees
the slot of a handle.  A handle is good from when it is returned until its task
leaves the slot; after that the slot may be given to another task, and the old
handle cancels that one.
-/

namespace BoxTrials
namespace Libraries

open Foundation

namespace ArduinoTimer

variable {eta sigma : Type}

/-!
# The operations
-/

/-- `next_task_slot`; the null pointer is `none`. -/
def nextTaskSlot (slots : List (Option (Task eta))) : Option Nat :=
  slots.findIdx? Option.isNone

def remove (i : Nat) (slots : List (Option (Task eta))) :
    List (Option (Task eta)) :=
  slots.set i none

/-- `add_task`, with the handle that it returns. -/
def Timer.addTask (timer : Timer eta) (task : Task eta) : Option Nat × Timer eta :=
  (nextTaskSlot timer.slots,
    { slots := ArduinoTimer.addTask task timer.slots
      slots_length := (addTask_length _ _).trans timer.slots_length })

def Timer.inTask (timer : Timer eta) (now delay : Nat) (h : eta) :
    Option Nat × Timer eta :=
  timer.addTask { handler := h, start := now, expires := delay, repeats := false }

def Timer.atTask (timer : Timer eta) (now time : Nat) (h : eta) :
    Option Nat × Timer eta :=
  timer.addTask
    { handler := h, start := now, expires := ulongSub time now, repeats := false }

def Timer.everyTask (timer : Timer eta) (now interval : Nat) (h : eta) :
    Option Nat × Timer eta :=
  timer.addTask
    { handler := h, start := now, expires := interval,
      repeats := decide (interval ≠ 0) }

theorem everyTask_snd (timer : Timer eta) (now interval : Nat) (h : eta) :
    (timer.everyTask now interval h).2 = timer.every now interval h := rfl

/-- `cancel` of a handle: the result, the handle after it, and the timer. -/
def Timer.cancel (timer : Timer eta) : Option Nat -> Bool × Option Nat × Timer eta
  | some i =>
      (true, none,
        { slots := remove i timer.slots
          slots_length := List.length_set.trans timer.slots_length })
  | none => (false, none, timer)

def Timer.cancelAll (timer : Timer eta) : Timer eta where
  slots := timer.slots.map fun _ => none
  slots_length := List.length_map _ |>.trans timer.slots_length

def Timer.size (timer : Timer eta) : Nat :=
  timer.slots.foldl (fun s slot => if slot.isSome then s + 1 else s) 0

def Timer.empty (timer : Timer eta) : Bool :=
  timer.slots.all Option.isNone

def Timer.task? (timer : Timer eta) (i : Nat) : Option (Task eta) :=
  timer.slots[i]?.join

/-!
# Adding and cancelling
-/

theorem addTask_of_some {slots : List (Option (Task eta))} {i : Nat}
    (h : nextTaskSlot slots = some i) (task : Task eta) :
    ArduinoTimer.addTask task slots = slots.set i (some task) ∧
      slots[i]? = some none := by
  induction slots generalizing i with
  | nil => cases h
  | cons slot rest ih =>
      cases slot with
      | none =>
          simp only [nextTaskSlot, List.findIdx?_cons, Option.isNone_none, if_true,
            Option.some.injEq] at h
          subst h
          exact ⟨rfl, rfl⟩
      | some other =>
          simp only [nextTaskSlot, List.findIdx?_cons, Option.isNone_some,
            Bool.false_eq_true, if_false, Option.map_eq_some_iff] at h
          rcases h with ⟨j, hj, rfl⟩
          rcases ih hj with ⟨hadd, hfree⟩
          exact ⟨by rw [ArduinoTimer.addTask, hadd, List.set_cons_succ], hfree⟩

theorem addTask_of_none {slots : List (Option (Task eta))}
    (h : nextTaskSlot slots = none) (task : Task eta) :
    ArduinoTimer.addTask task slots = slots := by
  induction slots with
  | nil => rfl
  | cons slot rest ih =>
      cases slot with
      | none => simp [nextTaskSlot, List.findIdx?_cons] at h
      | some other =>
          have hrest : nextTaskSlot rest = none := by
            simpa [nextTaskSlot, List.findIdx?_cons] using h
          rw [ArduinoTimer.addTask, ih hrest]

theorem addTask_task? (timer : Timer eta) (task : Task eta) (j : Nat) :
    (timer.addTask task).2.task? j =
        (if (timer.addTask task).1 = some j then some task else timer.task? j) ∧
      ((timer.addTask task).1 = some j -> timer.task? j = none) := by
  have hslots : (timer.addTask task).2.slots =
      ArduinoTimer.addTask task timer.slots := rfl
  cases hslot : nextTaskSlot timer.slots with
  | none =>
      have hsame : (timer.addTask task).2.task? j = timer.task? j := by
        rw [Timer.task?, hslots, addTask_of_none hslot, Timer.task?]
      have hnone : (timer.addTask task).1 = none := hslot
      rw [hsame, hnone]
      exact ⟨rfl, fun h => by cases h⟩
  | some i =>
      rcases addTask_of_some hslot task with ⟨hadd, hfree⟩
      have hsome : (timer.addTask task).1 = some i := hslot
      have hafter : (timer.addTask task).2.task? j =
          (timer.slots.set i (some task))[j]?.join := by
        rw [Timer.task?, hslots, hadd]
      rw [hafter, hsome]
      by_cases hj : i = j
      · subst hj
        rcases List.getElem?_eq_some_iff.mp hfree with ⟨hlt, _⟩
        rw [List.getElem?_set_self hlt, if_pos rfl, Timer.task?, hfree]
        exact ⟨rfl, fun _ => rfl⟩
      · rw [List.getElem?_set_ne hj, if_neg fun h => hj (Option.some.inj h)]
        exact ⟨rfl, fun h => absurd (Option.some.inj h) hj⟩

theorem addTask_keeps {timer : Timer eta} {i : Nat} {task : Task eta}
    (h : timer.task? i = some task) (other : Task eta) :
    (timer.addTask other).2.task? i = some task ∧
      (timer.addTask other).1 ≠ some i := by
  rcases addTask_task? timer other i with ⟨hafter, hfree⟩
  have hne : (timer.addTask other).1 ≠ some i := by
    intro hslot
    rw [hfree hslot] at h
    cases h
  rw [hafter, if_neg hne]
  exact ⟨h, hne⟩

theorem cancel_task? (timer : Timer eta) (i j : Nat) :
    (timer.cancel (some i)).2.2.task? j =
      if j = i then none else timer.task? j := by
  simp only [Timer.cancel, Timer.task?, remove]
  by_cases hj : i = j
  · subst hj
    rw [if_pos rfl, List.getElem?_set]
    split
    · split <;> rfl
    · rename_i hne
      exact absurd rfl hne
  · rw [if_neg (Ne.symm hj), List.getElem?_set_ne hj]

theorem cancelAll_task? (timer : Timer eta) (j : Nat) :
    timer.cancelAll.task? j = none := by
  simp only [Timer.cancelAll, Timer.task?, List.getElem?_map]
  cases timer.slots[j]? <;> rfl

/-!
# The number of tasks
-/

theorem foldl_size (slots : List (Option (Task eta))) (n : Nat) :
    slots.foldl (fun s slot => if slot.isSome then s + 1 else s) n =
      n + slots.reduceOption.length := by
  induction slots generalizing n with
  | nil => rfl
  | cons slot rest ih =>
      cases slot with
      | none =>
          rw [List.reduceOption_cons_of_none]
          exact ih n
      | some task =>
          rw [List.reduceOption_cons_of_some, List.length_cons, List.foldl_cons, ih,
            Option.isSome_some, if_pos rfl, Nat.add_right_comm, Nat.add_assoc]

theorem size_eq (timer : Timer eta) : timer.size = timer.live.length := by
  rw [Timer.size, foldl_size, Nat.zero_add, Timer.live]

theorem empty_iff (timer : Timer eta) : timer.empty = true <-> timer.size = 0 := by
  rw [size_eq, Timer.live, List.length_eq_zero_iff, Timer.empty]
  induction timer.slots with
  | nil => simp
  | cons slot rest ih =>
      cases slot with
      | none => simpa using ih
      | some task => simp

theorem empty_of_task? {timer : Timer eta} {i : Nat} {task : Task eta}
    (h : timer.task? i = some task) : timer.empty = false := by
  rw [Timer.task?, Option.join_eq_some_iff] at h
  rw [Timer.empty, List.all_eq_false]
  exact ⟨some task, List.mem_of_getElem? h, Bool.false_ne_true⟩

theorem size_le (timer : Timer eta) : timer.size ≤ maxTasks := by
  rw [size_eq, ← timer.slots_length]
  exact List.reduceOption_length_le timer.slots

theorem addTask_length_live (task : Task eta) (slots : List (Option (Task eta))) :
    (nextTaskSlot slots = none ∧ slots.reduceOption.length = slots.length) ∨
      (nextTaskSlot slots ≠ none ∧ slots.reduceOption.length < slots.length ∧
        (ArduinoTimer.addTask task slots).reduceOption.length =
          slots.reduceOption.length + 1) := by
  induction slots with
  | nil => exact Or.inl ⟨rfl, rfl⟩
  | cons slot rest ih =>
      cases slot with
      | none =>
          have hle := List.reduceOption_length_le rest
          refine Or.inr ⟨by simp [nextTaskSlot, List.findIdx?_cons], ?_, ?_⟩
          · rw [List.reduceOption_cons_of_none, List.length_cons]
            omega
          · rw [ArduinoTimer.addTask, List.reduceOption_cons_of_some,
              List.reduceOption_cons_of_none, List.length_cons]
      | some other =>
          have hnext : nextTaskSlot (some other :: rest) =
              (nextTaskSlot rest).map (· + 1) := by
            simp [nextTaskSlot, List.findIdx?_cons]
          rw [hnext, ArduinoTimer.addTask, List.reduceOption_cons_of_some,
            List.reduceOption_cons_of_some]
          simp only [List.length_cons, Option.map_eq_none_iff, ne_eq]
          rcases ih with ⟨hnone, hfull⟩ | ⟨hsome, hless, hmore⟩
          · exact Or.inl ⟨hnone, by omega⟩
          · exact Or.inr ⟨hsome, by omega, by omega⟩

/-- A task is turned down exactly when all slots are taken; otherwise it is one
more. -/
theorem addTask_size (timer : Timer eta) (task : Task eta) :
    ((timer.addTask task).1 = none <-> timer.size = maxTasks) ∧
      (timer.addTask task).2.size =
        if timer.size = maxTasks then timer.size else timer.size + 1 := by
  have hslots : (timer.addTask task).2.slots =
      ArduinoTimer.addTask task timer.slots := rfl
  have hfst : (timer.addTask task).1 = nextTaskSlot timer.slots := rfl
  simp only [size_eq, Timer.live, hfst, hslots]
  rw [← timer.slots_length]
  rcases addTask_length_live task timer.slots with ⟨hnone, hfull⟩ | ⟨hsome, hless, hmore⟩
  · rw [addTask_of_none hnone, if_pos hfull]
    exact ⟨⟨fun _ => hfull, fun _ => hnone⟩, rfl⟩
  · rw [if_neg (Nat.ne_of_lt hless)]
    exact ⟨⟨fun h => absurd h hsome, fun h => absurd h (Nat.ne_of_lt hless)⟩, hmore⟩

/-!
# What a tick does to a slot
-/

section Perform

variable (timeFunc : sigma -> Nat × sigma) (call : eta -> sigma -> Bool × sigma)

def stateAt (slots : List (Option (Task eta))) (s : sigma) (i : Nat) : sigma :=
  (tickSlots timeFunc call (slots.take i) s).2

theorem tickSlots_getElem? (slots : List (Option (Task eta))) (s : sigma) (i : Nat) :
    (tickSlots timeFunc call slots s).1[i]? =
      slots[i]?.map fun slot => slot.bind fun task =>
        (tickTask timeFunc call task (stateAt timeFunc call slots s i)).1 := by
  induction slots generalizing s i with
  | nil => rfl
  | cons slot rest ih =>
      cases i with
      | zero =>
          cases slot with
          | none => rfl
          | some task => rfl
      | succ i =>
          cases slot with
          | none =>
              rw [tickSlots_none, List.getElem?_cons_succ, List.getElem?_cons_succ, ih]
              rfl
          | some task =>
              rw [tickSlots_some, List.getElem?_cons_succ, List.getElem?_cons_succ, ih]
              rfl

theorem tick_task? (timer : Timer eta) (s : sigma) (i : Nat) :
    (timer.tick timeFunc call s).1.task? i =
      (timer.task? i).bind fun task =>
        (tickTask timeFunc call task (stateAt timeFunc call timer.slots s i)).1 := by
  have hslots : (timer.tick timeFunc call s).1.slots =
      (tickSlots timeFunc call timer.slots s).1 := rfl
  rw [Timer.task?, hslots, tickSlots_getElem?, Timer.task?]
  cases timer.slots[i]? with
  | none => rfl
  | some slot => cases slot <;> rfl

theorem tickTask_fst (task : Task eta) (s : sigma) :
    (tickTask timeFunc call task s).1 = none ∨
      exists start, (tickTask timeFunc call task s).1 = some { task with start := start } := by
  simp only [tickTask]
  split
  · split
    · exact Or.inr ⟨_, rfl⟩
    · exact Or.inl rfl
  · exact Or.inr ⟨task.start, rfl⟩

/-!
# Lifetimes
-/

inductive Operation (eta sigma : Type) where
  | inTask (delay : Nat) (h : eta)
  | atTask (time : Nat) (h : eta)
  | everyTask (interval : Nat) (h : eta)
  | cancel (task : Option Nat)
  | cancelAll
  | tick
  | other (f : sigma -> sigma)

def Operation.perform : Operation eta sigma -> Timer eta × sigma -> Timer eta × sigma
  | .inTask delay h, (timer, s) =>
      let (now, s) := timeFunc s
      ((timer.inTask now delay h).2, s)
  | .atTask time h, (timer, s) =>
      let (now, s) := timeFunc s
      ((timer.atTask now time h).2, s)
  | .everyTask interval h, (timer, s) =>
      let (now, s) := timeFunc s
      ((timer.everyTask now interval h).2, s)
  | .cancel task, (timer, s) => ((timer.cancel task).2.2, s)
  | .cancelAll, (timer, s) => (timer.cancelAll, s)
  | .tick, (timer, s) => timer.tick timeFunc call s
  | .other f, (timer, s) => (timer, f s)

/-- The operation ends the task in slot `i`: it cancels that handle or all tasks,
or it is a tick that runs the task for the last time. -/
def Operation.Ends (i : Nat) : Operation eta sigma -> Timer eta × sigma -> Prop
  | .cancel task, _ => task = some i
  | .cancelAll, _ => True
  | .tick, (timer, s) =>
      exists task, timer.task? i = some task ∧
        (tickTask timeFunc call task (stateAt timeFunc call timer.slots s i)).1 = none
  | .inTask _ _, _ | .atTask _ _, _ | .everyTask _ _, _ | .other _, _ => False

def Spares (i : Nat) : List (Operation eta sigma) -> Timer eta × sigma -> Prop
  | [], _ => True
  | op :: rest, st =>
      ¬ op.Ends timeFunc call i st ∧ Spares i rest (op.perform timeFunc call st)

def performAll (ops : List (Operation eta sigma)) (st : Timer eta × sigma) :
    Timer eta × sigma :=
  ops.foldl (fun st op => op.perform timeFunc call st) st

theorem perform_keeps {i : Nat} {st : Timer eta × sigma} {task : Task eta}
    (htask : st.1.task? i = some task) {op : Operation eta sigma}
    (hspares : ¬ op.Ends timeFunc call i st) :
    exists start, (op.perform timeFunc call st).1.task? i =
      some { task with start := start } := by
  rcases st with ⟨timer, s⟩
  cases op with
  | inTask delay h => exact ⟨task.start, (addTask_keeps htask _).left⟩
  | atTask time h => exact ⟨task.start, (addTask_keeps htask _).left⟩
  | everyTask interval h => exact ⟨task.start, (addTask_keeps htask _).left⟩
  | cancel handle =>
      cases handle with
      | none => exact ⟨task.start, htask⟩
      | some j =>
          have hne : i ≠ j := fun h => hspares (h ▸ rfl)
          refine ⟨task.start, ?_⟩
          show (timer.cancel (some j)).2.2.task? i = _
          rw [cancel_task?, if_neg hne]
          exact htask
  | cancelAll => exact absurd trivial hspares
  | tick =>
      show exists start, (timer.tick timeFunc call s).1.task? i = _
      have htask' : timer.task? i = some task := htask
      rw [tick_task?, htask', Option.bind_some]
      rcases tickTask_fst timeFunc call task (stateAt timeFunc call timer.slots s i) with
        hnone | hkept
      · exact absurd ⟨task, htask, hnone⟩ hspares
      · exact hkept
  | other f => exact ⟨task.start, htask⟩

theorem perform_ends {i : Nat} {st : Timer eta × sigma} {op : Operation eta sigma}
    (hends : op.Ends timeFunc call i st) :
    (op.perform timeFunc call st).1.task? i = none := by
  rcases st with ⟨timer, s⟩
  cases op with
  | inTask _ _ | atTask _ _ | everyTask _ _ | other _ => exact absurd hends not_false
  | cancel handle =>
      have hhandle : handle = some i := hends
      show (timer.cancel handle).2.2.task? i = none
      rw [hhandle, cancel_task?, if_pos rfl]
  | cancelAll => exact cancelAll_task? timer i
  | tick =>
      rcases hends with ⟨task, htask, hnone⟩
      show (timer.tick timeFunc call s).1.task? i = none
      rw [tick_task?, htask, Option.bind_some, hnone]

/-- The lifetime of a handle: as long as nothing has ended its task, the slot
holds it, and no other task is given the handle; what ends it frees the slot.
Meanwhile the timer tells that it is not empty, and turns down another task exactly
when it tells that it is full. -/
structure HandleLives (i : Nat) (task : Task eta) (st : Timer eta × sigma) : Prop where
  held : exists start, st.1.task? i = some { task with start := start }
  unique : forall other, (st.1.addTask other).1 ≠ some i
  ends : forall op : Operation eta sigma, op.Ends timeFunc call i st ->
    (op.perform timeFunc call st).1.task? i = none
  notEmpty : st.1.empty = false
  size : 0 < st.1.size ∧ st.1.size ≤ maxTasks
  refused : forall other, (st.1.addTask other).1 = none <-> st.1.size = maxTasks
  sizeAfter : forall other, (st.1.addTask other).2.size =
    if st.1.size = maxTasks then st.1.size else st.1.size + 1

theorem performAll_keeps {i : Nat} {ops : List (Operation eta sigma)}
    {st : Timer eta × sigma} {task : Task eta} (htask : st.1.task? i = some task)
    (hspares : Spares timeFunc call i ops st) :
    exists start, (performAll timeFunc call ops st).1.task? i =
      some { task with start := start } := by
  induction ops generalizing st task with
  | nil => exact ⟨task.start, htask⟩
  | cons op rest ih =>
      rcases perform_keeps timeFunc call htask hspares.left with ⟨start, hkept⟩
      have hrest := ih hkept hspares.right
      exact hrest

theorem handle_lives {timer : Timer eta} {task : Task eta} {i : Nat}
    (hadded : (timer.addTask task).1 = some i) (s : sigma)
    {ops : List (Operation eta sigma)}
    (hspares : Spares timeFunc call i ops ((timer.addTask task).2, s)) :
    HandleLives timeFunc call i task
      (performAll timeFunc call ops ((timer.addTask task).2, s)) := by
  have htask : (timer.addTask task).2.task? i = some task := by
    rw [(addTask_task? timer task i).left, if_pos hadded]
  have hheld := performAll_keeps timeFunc call htask hspares
  rcases hheld with ⟨start, hslot⟩
  constructor
  case held => exact ⟨start, hslot⟩
  case unique => exact fun other => (addTask_keeps hslot other).right
  case ends => exact fun op hends => perform_ends timeFunc call hends
  case notEmpty => exact empty_of_task? hslot
  case size =>
    refine ⟨Nat.pos_of_ne_zero fun hzero => ?_, size_le _⟩
    have hempty := (empty_iff _).mpr hzero
    rw [empty_of_task? hslot] at hempty
    cases hempty
  case refused => exact fun other => (addTask_size _ other).left
  case sizeAfter => exact fun other => (addTask_size _ other).right

end Perform

def secondly : Task Unit :=
  { handler := (), start := 5, expires := 20, repeats := true }

/-- The first task of a timer outlives a second one, a tick before it is due, and
the cancellation of the second one. -/
theorem handle_lives_secondly :
    HandleLives (fun s : Nat => (s, s)) (fun _ s => (true, s)) 0 secondly
      (performAll (fun s : Nat => (s, s)) (fun _ s => (true, s))
        [.inTask 3 (), .other (fun s => s + 10), .tick, .cancel (some 1)]
        ((Timer.create.addTask secondly).2, 5)) := by
  apply handle_lives
  case hadded => rfl
  case hspares =>
    refine ⟨not_false, not_false, ?_, ?_, trivial⟩
    · rintro ⟨task, htask, hnone⟩
      have hsame : task = secondly := Option.some.inj (htask.symm.trans rfl)
      subst hsame
      revert hnone
      decide
    · intro hcancel
      cases hcancel

end ArduinoTimer
end Libraries
end BoxTrials
