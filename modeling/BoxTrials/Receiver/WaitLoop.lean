import Mathlib.Data.Int.LeastGreatest
import Mathlib.Order.Bounds.Defs
import BoxTrials.Foundation.PollLoop
import BoxTrials.Receiver.Device

/-!
# The wait loop

The loop of `TestSequence` that waits for an object to move, as a function of
the times of its polls and of the board table that each pass finds.  How a trial
ends, what its ticks report and what a wrapping clock does to it are statements
about this loop.
-/

namespace BoxTrials
namespace Receiver

open Foundation

/-!
# One pass
-/

structure WaitVars where
  isMoving : Bool
  otherBoxMoving : Bool
  currentObject : Int
  deriving DecidableEq, Repr

/-- The loop over the other objects from `j` on, with `left` objects to come. -/
def scanOthers (isMoving : Int -> Bool) (target : Int) :
    Nat -> Int -> WaitVars -> WaitVars
  | 0, _, v => v
  | left + 1, j, v =>
      if j = target then
        scanOthers isMoving target left (j + 1) v
      else if isMoving j then
        { v with otherBoxMoving := true, currentObject := j }
      else if j = NOBJECTS then
        scanOthers isMoving target left (j + 1) { v with currentObject := 0 }
      else
        scanOthers isMoving target left (j + 1) v

def waitPass (isMoving : Int -> Bool) (target : Int) (v : WaitVars) :
    WaitVars :=
  if isMoving target then
    { v with isMoving := true, currentObject := target }
  else
    scanOthers isMoving target NOBJECTS.toNat 1 v

section Pass

variable {isMoving : Int -> Bool} {target : Int}

theorem scanOthers_isMoving (left : Nat) (j : Int) (v : WaitVars) :
    (scanOthers isMoving target left j v).isMoving = v.isMoving := by
  induction left generalizing j v with
  | zero =>
      rfl
  | succ left ih =>
      rw [scanOthers]
      split_ifs
      · exact ih (j + 1) v
      · rfl
      · exact ih (j + 1) _
      · exact ih (j + 1) v

theorem scanOthers_found {left : Nat} {i j : Int} (v : WaitVars)
    (hleft : (left : Int) + j = NOBJECTS + 1) (hlo : j ≤ i) (hhi : i ≤ NOBJECTS)
    (hne : i ≠ target) (hmoving : isMoving i = true)
    (hfirst : forall k, j ≤ k -> k < i -> k ≠ target -> isMoving k = false) :
    scanOthers isMoving target left j v =
      { v with otherBoxMoving := true, currentObject := i } := by
  induction left generalizing j with
  | zero =>
      simp only [NOBJECTS] at hleft hhi
      omega
  | succ left ih =>
      rw [scanOthers]
      by_cases hji : j = i
      · rw [hji, if_neg hne, if_pos hmoving]
      · have hlater := ih (j := j + 1) (by push_cast at hleft; omega) (by omega)
          fun k hk => hfirst k (by omega)
        by_cases hj : j = target
        · rw [if_pos hj, hlater]
        · have hstill := hfirst j (le_refl j) (by omega) hj
          have hlast : j ≠ NOBJECTS := by omega
          rw [if_neg hj, if_neg (ne_true_of_eq_false hstill), if_neg hlast, hlater]

theorem scanOthers_still {left : Nat} {j : Int} (v : WaitVars)
    (hleft : (left : Int) + j = NOBJECTS + 1)
    (hstill : forall k, j ≤ k -> k ≤ NOBJECTS -> k ≠ target ->
      isMoving k = false) :
    scanOthers isMoving target left j v =
      { v with
        currentObject :=
          if left = 0 ∨ target = NOBJECTS then v.currentObject else 0 } := by
  induction left generalizing j v with
  | zero =>
      simp [scanOthers]
  | succ left ih =>
      have hnext : (left : Int) + (j + 1) = NOBJECTS + 1 := by
        push_cast at hleft
        omega
      have hlater := fun v => ih v hnext fun k hk => hstill k (by omega)
      rw [scanOthers, hlater, hlater]
      by_cases hj : j = target
      · rw [if_pos hj]
        rcases Nat.eq_zero_or_pos left with hzero | hpos
        · have hlast : target = NOBJECTS := by omega
          simp [hlast]
        · simp [Nat.ne_of_gt hpos]
      · have hle : j ≤ NOBJECTS := by omega
        rw [if_neg hj, if_neg (ne_true_of_eq_false (hstill j (le_refl j) hle hj))]
        by_cases hlast : j = NOBJECTS
        · have hother : target ≠ NOBJECTS := fun h => hj (hlast.trans h.symm)
          simp [hlast, hother]
        · have hpos : left ≠ 0 := by omega
          simp [hlast, hpos]

theorem waitPass_target (v : WaitVars) (h : isMoving target = true) :
    waitPass isMoving target v =
      { v with isMoving := true, currentObject := target } :=
  if_pos h

theorem waitPass_other {i : Int} (v : WaitVars) (h : isMoving target = false)
    (hlo : 1 ≤ i) (hhi : i ≤ NOBJECTS) (hmoving : isMoving i = true)
    (hfirst : forall k, 1 ≤ k -> k < i -> isMoving k = false) :
    waitPass isMoving target v =
      { v with otherBoxMoving := true, currentObject := i } := by
  rw [waitPass, if_neg (ne_true_of_eq_false h)]
  apply scanOthers_found v rfl hlo hhi _ hmoving
  · exact fun k hk hki _ => hfirst k hk hki
  · intro hi
    rw [hi, h] at hmoving
    cases hmoving

theorem waitPass_still (v : WaitVars) (h : isMoving target = false)
    (hstill : forall k, 1 ≤ k -> k ≤ NOBJECTS -> isMoving k = false) :
    waitPass isMoving target v =
      { v with
        currentObject := if target = NOBJECTS then v.currentObject else 0 } := by
  have hscan := @scanOthers_still isMoving target NOBJECTS.toNat 1 v rfl
    fun k hk hkn _ => hstill k hk hkn
  rw [waitPass, if_neg (ne_true_of_eq_false h), hscan]
  simp [NOBJECTS]

theorem waitPass_congr {isMoving' : Int -> Bool} (hlo : 1 ≤ target)
    (hhi : target ≤ NOBJECTS)
    (h : forall k, 1 ≤ k -> k ≤ NOBJECTS -> isMoving' k = isMoving k) :
    waitPass isMoving' target = waitPass isMoving target := by
  have hscan : forall (left : Nat) (j : Int) (v : WaitVars), 1 ≤ j ->
      (left : Int) + j = NOBJECTS + 1 ->
        scanOthers isMoving' target left j v = scanOthers isMoving target left j v := by
    intro left
    induction left with
    | zero =>
        intro j v _ _
        rfl
    | succ left ih =>
        intro j v hj hleft
        have hnext : (left : Int) + (j + 1) = NOBJECTS + 1 := by
          push_cast at hleft
          omega
        have hlater := fun v => ih (j + 1) v (by omega) hnext
        rw [scanOthers, scanOthers, h j hj (by omega), hlater, hlater]
  funext v
  rw [waitPass, waitPass, h target hlo hhi, hscan NOBJECTS.toNat 1 v (le_refl 1) rfl]

end Pass

/-!
# The loop
-/

/-- What the wait loop of a trial depends on. The times are those of a clock
that does not wrap. -/
structure Wait where
  /-- `_trialSequence[_currentTrial-1]`. -/
  target : Int
  timeoutMs : Int
  /-- `_currentObject` before the loop. -/
  currentObject : Int
  startTime : Nat
  /-- The time of the `k`-th poll. -/
  now : Nat -> Nat
  /-- `boardsStruct[i].isMoving` in the pass after the `k`-th poll. -/
  isMoving : Nat -> Int -> Bool

def WaitVars.outcome (v : WaitVars) : Outcome :=
  if v.isMoving then
    .correct
  else if v.otherBoxMoving then
    .wrongBox
  else
    .timeout

namespace Wait

/-- `millis() - startTime` at the `k`-th poll. -/
def elapsed (x : Wait) (k : Nat) : Nat :=
  ulongSub (x.now k % wordModulus) (x.startTime % wordModulus)

def loop (x : Wait) : PollLoop WaitVars where
  inTime k := decide (x.elapsed k < toULong x.timeoutMs)
  pass k := waitPass (x.isMoving k) x.target
  done v := v.isMoving || v.otherBoxMoving

def start (x : Wait) : WaitVars :=
  ⟨false, false, x.currentObject⟩

def Leaves (x : Wait) (k : Nat) (outcome : Outcome) (object : Int) : Prop :=
  exists v, x.loop.Leaves x.start k v ∧ v.outcome = outcome ∧
    v.currentObject = object

def Moves (x : Wait) (k : Nat) (b : Int) : Prop :=
  1 ≤ b ∧ b ≤ NOBJECTS ∧ x.isMoving k b = true

def Quiet (x : Wait) (n : Nat) : Prop :=
  forall k, k < n -> forall b, ¬ x.Moves k b

def HasObject (x : Wait) : Prop :=
  1 ≤ x.target ∧ x.target ≤ NOBJECTS

/-- The timeout is one that an `int` can hold, and `Timeout` accepts. -/
def HasTimeout (x : Wait) : Prop :=
  0 < x.timeoutMs ∧ x.timeoutMs < 2147483648

variable {x : Wait} {n k : Nat}

theorem inTime_iff (h : x.HasTimeout) :
    x.loop.inTime k = true <-> (x.elapsed k : Int) < x.timeoutMs := by
  rcases h with ⟨hpos, hint⟩
  have hlimit : (toULong x.timeoutMs : Int) = x.timeoutMs :=
    toULong_cast (le_of_lt hpos) (by rw [wordModulus]; omega)
  simp only [loop, decide_eq_true_eq]
  omega

theorem done_iff_outcome (x : Wait) (v : WaitVars) :
    x.loop.done v = true <-> v.outcome ≠ .timeout := by
  cases v with
  | mk isMoving otherBoxMoving object =>
      cases isMoving <;> cases otherBoxMoving <;> simp [loop, WaitVars.outcome]

theorem not_isMoving {b : Int} (h : forall b, ¬ x.Moves k b) (hlo : 1 ≤ b)
    (hhi : b ≤ NOBJECTS) : x.isMoving k b = false :=
  eq_false_of_ne_true fun hmoving => h b ⟨hlo, hhi, hmoving⟩

theorem passes_of_quiet (hx : x.HasObject) (h : x.Quiet n) :
    x.loop.passes x.start n =
      { x.start with
        currentObject :=
          if n = 0 ∨ x.target = NOBJECTS then x.currentObject else 0 } := by
  induction n with
  | zero =>
      rfl
  | succ n ih =>
      have hstill := h n (Nat.lt_succ_self n)
      rw [PollLoop.passes, ih fun k hk => h k (Nat.lt_succ_of_lt hk)]
      have hpass := fun v => waitPass_still v
        (not_isMoving hstill hx.left hx.right) fun b => not_isMoving hstill
      simp only [loop, hpass]
      by_cases hlast : x.target = NOBJECTS <;> simp [hlast]

theorem passes_of_target (hx : x.HasObject) (h : x.Quiet n)
    (hmoving : x.isMoving n x.target = true) :
    x.loop.passes x.start (n + 1) = ⟨true, false, x.target⟩ := by
  rw [PollLoop.passes, passes_of_quiet hx h]
  exact waitPass_target _ hmoving

theorem passes_of_other (hx : x.HasObject) (h : x.Quiet n)
    (htarget : x.isMoving n x.target = false) {b : Int}
    (hleast : IsLeast {b | x.Moves n b} b) :
    x.loop.passes x.start (n + 1) = ⟨false, true, b⟩ := by
  rcases hleast with ⟨⟨hlo, hhi, hmoving⟩, hfirst⟩
  rw [PollLoop.passes, passes_of_quiet hx h]
  apply waitPass_other _ htarget hlo hhi hmoving
  intro j hj hjb
  apply eq_false_of_ne_true
  intro hmovingj
  have := hfirst ⟨hj, by omega, hmovingj⟩
  omega

theorem exists_isLeast (h : exists b, x.Moves n b) :
    exists b, IsLeast {b | x.Moves n b} b :=
  Int.exists_least_of_bdd ⟨1, fun _ hb => hb.left⟩ h

theorem done_iff (hx : x.HasObject) (h : x.Quiet n) :
    x.loop.done (x.loop.passes x.start (n + 1)) = true <->
      exists b, x.Moves n b := by
  by_cases hmoves : exists b, x.Moves n b
  · apply iff_of_true _ hmoves
    rcases exists_isLeast hmoves with ⟨b, hleast⟩
    cases htarget : x.isMoving n x.target with
    | true =>
        rw [passes_of_target hx h htarget]
        rfl
    | false =>
        rw [passes_of_other hx h htarget hleast]
        rfl
  · apply iff_of_false _ hmoves
    have hquiet : x.Quiet (n + 1) := by
      intro j hj b hb
      rcases Nat.lt_succ_iff_lt_or_eq.mp hj with hlt | rfl
      · exact h j hlt b hb
      · exact hmoves ⟨b, hb⟩
    rw [passes_of_quiet hx hquiet]
    exact Bool.false_ne_true

theorem goesOn_iff (hx : x.HasObject) : x.loop.GoesOn x.start n <->
    (forall k, k < n -> x.loop.inTime k = true) ∧ x.Quiet n := by
  induction n with
  | zero =>
      simp [PollLoop.GoesOn, Quiet]
  | succ n ih =>
      rw [PollLoop.goesOn_succ, ih]
      constructor
      · intro h
        rcases h with ⟨⟨htime, hquiet⟩, hlast, hdone⟩
        have hstill : ¬ exists b, x.Moves n b := by
          rw [← done_iff hx hquiet, hdone]
          exact Bool.false_ne_true
        constructor <;> intro k hk <;>
          rcases Nat.lt_succ_iff_lt_or_eq.mp hk with hlt | rfl
        · exact htime k hlt
        · exact hlast
        · exact hquiet k hlt
        · exact fun b hb => hstill ⟨b, hb⟩
      · intro h
        rcases h with ⟨htime, hquiet⟩
        have hbefore : x.Quiet n := fun k hk => hquiet k (Nat.lt_succ_of_lt hk)
        refine ⟨⟨fun k hk => htime k (Nat.lt_succ_of_lt hk), hbefore⟩,
          htime n (Nat.lt_succ_self n), ?_⟩
        apply eq_false_of_ne_true
        intro hdone
        rcases (done_iff hx hbefore).mp hdone with ⟨b, hb⟩
        exact hquiet n (Nat.lt_succ_self n) b hb

end Wait

end Receiver
end BoxTrials
