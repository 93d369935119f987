import Mathlib.Data.Nat.Init
import Mathlib.Tactic.Ring

/-!
# Periodic work on a clock that wraps

Work that is to be done periodically is looked at from time to time, and done when
at least its interval seems to have passed since it was started.  The clock starts
again at zero after a turn, so what seems to have passed is the true time modulo
the turn.
-/

namespace BoxTrials
namespace Foundation

/-- Work that is looked at again and again; all times are true times. -/
structure Schedule where
  turn : Nat
  interval : Nat
  first : Nat
  look : Nat -> Nat

namespace Schedule

variable (s : Schedule)

def start : Nat -> Nat
  | 0 => s.first
  | n + 1 =>
      if s.interval ≤ (s.look n - start n) % s.turn then
        s.look n
      else
        start n

def runs (n : Nat) : Bool :=
  decide (s.interval ≤ (s.look n - s.start n) % s.turn)

def count : Nat -> Nat
  | 0 => 0
  | n + 1 => count n + (s.runs n).toNat

structure Forward : Prop where
  first_le : s.first ≤ s.look 0
  look_le : forall n, s.look n ≤ s.look (n + 1)

/-- The looks come so close together that the clock cannot make a turn unseen. -/
structure Prompt (gap : Nat) : Prop extends Forward s where
  first_gap : s.look 0 ≤ s.first + gap
  look_gap : forall n, s.look (n + 1) ≤ s.look n + gap
  room : s.interval + gap < s.turn

variable {s} {m n gap : Nat}

theorem start_succ_of_runs (h : s.runs n = true) : s.start (n + 1) = s.look n :=
  if_pos (of_decide_eq_true h)

theorem start_succ_of_not_runs (h : s.runs n = false) :
    s.start (n + 1) = s.start n :=
  if_neg (of_decide_eq_false h)

theorem Forward.start_le_look (h : s.Forward) (n : Nat) :
    s.start n ≤ s.look n := by
  induction n with
  | zero => exact h.first_le
  | succ n ih =>
      have hstep := h.look_le n
      cases hruns : s.runs n with
      | true => rw [start_succ_of_runs hruns]; exact hstep
      | false => rw [start_succ_of_not_runs hruns]; exact Nat.le_trans ih hstep

theorem Forward.start_le_start (h : s.Forward) (hmn : m ≤ n) :
    s.start m ≤ s.start n := by
  induction n, hmn using Nat.le_induction with
  | base => exact Nat.le_refl _
  | succ n _ ih =>
      cases hruns : s.runs n with
      | true =>
          rw [start_succ_of_runs hruns]
          exact Nat.le_trans ih (h.start_le_look n)
      | false => rw [start_succ_of_not_runs hruns]; exact ih

theorem start_add_le_look (h : s.runs n = true) :
    s.start n + s.interval ≤ s.look n ∨ s.interval = 0 := by
  have hdue := of_decide_eq_true h
  have hmod := Nat.mod_le (s.look n - s.start n) s.turn
  omega

theorem Forward.runs_apart (h : s.Forward) (hmn : m < n) (hm : s.runs m = true)
    (hn : s.runs n = true) : s.look m + s.interval ≤ s.look n := by
  have hstart := h.start_le_start (Nat.succ_le_of_lt hmn)
  rw [start_succ_of_runs hm] at hstart
  have hle := h.start_le_look n
  rcases start_add_le_look hn with hdue | hzero <;> omega

theorem Forward.count_le (h : s.Forward) (n : Nat) :
    s.first + s.count n * s.interval ≤ s.start n := by
  induction n with
  | zero => simp [count, start]
  | succ n ih =>
      cases hruns : s.runs n with
      | true =>
          have hle := h.start_le_look n
          have hcount : s.count (n + 1) = s.count n + 1 := by
            rw [count, hruns]
            rfl
          rw [start_succ_of_runs hruns, hcount, Nat.succ_mul]
          rcases start_add_le_look hruns with hdue | hzero <;> omega
      | false =>
          have hcount : s.count (n + 1) = s.count n := by
            rw [count, hruns]
            rfl
          rw [start_succ_of_not_runs hruns, hcount]
          exact ih

/-!
# Prompt looks
-/

theorem Forward.count_succ_le (h : s.Forward) (n : Nat) :
    s.first + s.count (n + 1) * s.interval ≤ s.look n := by
  have hcount := h.count_le (n + 1)
  have hstart : s.start (n + 1) ≤ s.look n := by
    cases hruns : s.runs n with
    | true => exact Nat.le_of_eq (start_succ_of_runs hruns)
    | false =>
        rw [start_succ_of_not_runs hruns]
        exact h.start_le_look n
  exact Nat.le_trans hcount hstart

theorem Prompt.look_le_start (h : s.Prompt gap) (n : Nat) :
    s.look n ≤ s.start n + s.interval + gap := by
  induction n with
  | zero =>
      have hgap := h.first_gap
      rw [start]
      omega
  | succ n ih =>
      have hgap := h.look_gap n
      have hroom := h.room
      cases hruns : s.runs n with
      | true =>
          rw [start_succ_of_runs hruns]
          omega
      | false =>
          have hnot := of_decide_eq_false hruns
          rw [Nat.mod_eq_of_lt (by omega)] at hnot
          rw [start_succ_of_not_runs hruns]
          omega

theorem Prompt.runs_iff (h : s.Prompt gap) (n : Nat) :
    s.runs n = true <-> s.start n + s.interval ≤ s.look n := by
  have hlate := h.look_le_start n
  have hle := h.toForward.start_le_look n
  have hroom := h.room
  rw [runs, decide_eq_true_iff, Nat.mod_eq_of_lt (by omega)]
  omega

theorem Prompt.start_le (h : s.Prompt gap) (n : Nat) :
    s.start n ≤ s.first + s.count n * (s.interval + gap) := by
  induction n with
  | zero => simp [count, start]
  | succ n ih =>
      cases hruns : s.runs n with
      | true =>
          have hlate := h.look_le_start n
          have hcount : s.count (n + 1) = s.count n + 1 := by
            rw [count, hruns]
            rfl
          rw [start_succ_of_runs hruns, hcount, Nat.succ_mul]
          omega
      | false =>
          have hcount : s.count (n + 1) = s.count n := by
            rw [count, hruns]
            rfl
          rw [start_succ_of_not_runs hruns, hcount]
          exact ih

theorem Prompt.look_le_count (h : s.Prompt gap) (n : Nat) :
    s.look n ≤ s.first + (s.count n + 1) * (s.interval + gap) := by
  have hlate := h.look_le_start n
  have hstart := h.start_le n
  rw [Nat.succ_mul]
  omega

theorem start_eq_of_idle (hmn : m ≤ n)
    (hidle : forall j, m ≤ j -> j < n -> s.runs j = false) :
    s.start n = s.start m := by
  induction n, hmn using Nat.le_induction with
  | base => rfl
  | succ n hmn ih =>
      rw [start_succ_of_not_runs (hidle n hmn (Nat.lt_succ_self n))]
      exact ih fun j hj hlt => hidle j hj (Nat.lt_succ_of_lt hlt)

theorem Forward.look_le_look (h : s.Forward) (hmn : m ≤ n) : s.look m ≤ s.look n := by
  induction n, hmn using Nat.le_induction with
  | base => exact Nat.le_refl _
  | succ n _ ih => exact Nat.le_trans ih (h.look_le n)

theorem Prompt.exists_run (h : s.Prompt gap)
    (hforever : forall t, exists k, t ≤ s.look k) (n : Nat) :
    exists k, n ≤ k ∧ s.runs k = true ∧ s.look k ≤ s.start n + s.interval + gap ∧
      forall j, n ≤ j -> j < k -> s.runs j = false := by
  have hexists : exists k, n ≤ k ∧ s.runs k = true := by
    by_contra hnone
    have hidle : forall j, n ≤ j -> s.runs j = false :=
      fun j hj => eq_false_of_ne_true fun hruns => hnone ⟨j, hj, hruns⟩
    rcases hforever (s.start n + s.interval + gap + 1) with ⟨k, hk⟩
    have hlook := Nat.le_trans hk
      (h.toForward.look_le_look (Nat.le_max_left k n))
    have hstart := start_eq_of_idle (Nat.le_max_right k n) fun j hj _ => hidle j hj
    have hlate := h.look_le_start (max k n)
    omega
  rcases Nat.find_spec hexists with ⟨hle, hruns⟩
  have hidle : forall j, n ≤ j -> j < Nat.find hexists -> s.runs j = false :=
    fun j hj hlt => eq_false_of_ne_true fun hruns =>
      Nat.find_min hexists hlt ⟨hj, hruns⟩
  refine ⟨Nat.find hexists, hle, hruns, ?_, hidle⟩
  rw [← start_eq_of_idle hle hidle]
  exact h.look_le_start (Nat.find hexists)

end Schedule
end Foundation
end BoxTrials
