import BoxTrials.Receiver.WaitLoop

/-!
# The wait on a clock that wraps

`millis()` starts again at zero every 49 days.  The wait loop subtracts its
values as unsigned numbers, which gives the true time since the start of the
trial as long as the passes are not too long.
-/

namespace BoxTrials
namespace Receiver
namespace Wait

open Foundation

def unbounded (x : Wait) : PollLoop WaitVars where
  inTime k := decide ((x.now k : Int) - x.startTime < x.timeoutMs)
  pass := x.loop.pass
  done := x.loop.done

/-- The times of the polls do not decrease, and neither the first poll nor any
later one comes more than the given time after the one before. -/
structure Gaps (x : Wait) : Prop where
  start_le : x.startTime ≤ x.now 0
  now_le : forall k, x.now k ≤ x.now (k + 1)
  start_gap : (x.now 0 : Int) - x.startTime < wordModulus - x.timeoutMs
  now_gap : forall k,
    (x.now (k + 1) : Int) - x.now k < wordModulus - x.timeoutMs

structure KeepsTime (x : Wait) : Prop where
  same : forall n, x.loop.after x.start n = x.unbounded.after x.start n
  /-- A timeout comes at the first poll that is late. -/
  onTime : forall k object, x.Leaves k .timeout object ->
    (x.startTime : Int) + x.timeoutMs ≤ x.now k ∧
      forall j, j < k -> (x.now j : Int) < x.startTime + x.timeoutMs
  notLater : forall k, (x.startTime : Int) + x.timeoutMs ≤ x.now k ->
    exists j v, j ≤ k ∧ x.loop.Leaves x.start j v

variable {x : Wait} {k n : Nat}

theorem Gaps.start_le_now (h : x.Gaps) (k : Nat) : x.startTime ≤ x.now k := by
  induction k with
  | zero =>
      exact h.start_le
  | succ k ih =>
      exact Nat.le_trans ih (h.now_le k)

theorem Gaps.elapsed_eq (h : x.Gaps) (hpos : 0 < x.timeoutMs)
    (hbefore : forall k, k < n -> x.unbounded.inTime k = true) :
    (x.elapsed n : Int) = x.now n - x.startTime := by
  have hturn : (x.now n : Int) - x.startTime < wordModulus := by
    cases n with
    | zero =>
        have := h.start_gap
        omega
    | succ n =>
        have hlast := of_decide_eq_true (hbefore n (Nat.lt_succ_self n))
        have hgap := h.now_gap n
        omega
  have hle := h.start_le_now n
  rw [elapsed, ulongSub_mod hle, Nat.mod_eq_of_lt (by omega)]
  omega

theorem Gaps.inTime_eq (h : x.Gaps) (hpos : 0 < x.timeoutMs)
    (hbefore : forall k, k < n -> x.unbounded.inTime k = true) :
    x.loop.inTime n = x.unbounded.inTime n := by
  have helapsed := h.elapsed_eq hpos hbefore
  have hword : x.timeoutMs < wordModulus := by
    have hle := h.start_le
    have hgap := h.start_gap
    omega
  have hlimit : (toULong x.timeoutMs : Int) = x.timeoutMs :=
    toULong_cast (le_of_lt hpos) hword
  simp only [loop, unbounded, decide_eq_decide]
  omega

/-- For every start and every timeout, polls that follow each other in less than
a turn of the clock, less the timeout, leave the loop where the true time
does. -/
theorem keepsTime (x : Wait) (hpos : 0 < x.timeoutMs) (h : x.Gaps) :
    x.KeepsTime := by
  have hsame : forall n,
      x.loop.after x.start n = x.unbounded.after x.start n := by
    have hpass : x.loop.pass = x.unbounded.pass := rfl
    have hdone : x.loop.done = x.unbounded.done := rfl
    apply PollLoop.after_congr hpass hdone
    intro m hbefore
    exact h.inTime_eq hpos hbefore
  have hleaves : forall {k v}, x.loop.Leaves x.start k v <->
      x.unbounded.Leaves x.start k v := by
    intro k v
    rw [PollLoop.Leaves, PollLoop.Leaves, hsame]
  constructor
  case same => exact hsame
  case onTime =>
    intro k object htimeout
    rcases htimeout with ⟨v, hv, houtcome, _⟩
    rcases PollLoop.leaves_iff.mp (hleaves.mp hv) with
      ⟨hgoes, ⟨hlate, _⟩ | ⟨_, hdone, hlast⟩⟩
    · have hnow := of_decide_eq_false hlate
      refine ⟨by omega, ?_⟩
      intro j hj
      have hin := of_decide_eq_true (hgoes j hj).left
      omega
    · rw [← hlast] at hdone
      exact absurd houtcome ((done_iff_outcome x v).mp hdone)
  case notLater =>
    intro k hk
    have hlate : x.unbounded.inTime k = false := by
      apply decide_eq_false
      omega
    rcases PollLoop.leaves_of_deadline hlate with ⟨j, v, hj, hv⟩
    exact ⟨j, v, hj, hleaves.mpr hv⟩

def wrapping : Wait where
  target := 1
  timeoutMs := 1000
  currentObject := 0
  startTime := 4294967000
  now k := 4294967000 + 400 * k
  isMoving _ _ := false

theorem keepsTime_wrapping : wrapping.KeepsTime := by
  apply keepsTime wrapping (by decide)
  constructor
  case start_le => exact Nat.le_refl _
  case now_le =>
    intro k
    simp only [wrapping]
    omega
  case start_gap => decide
  case now_gap =>
    intro k
    simp only [wrapping, wordModulus]
    push_cast
    omega

end Wait
end Receiver
end BoxTrials
