import Mathlib.Data.Nat.Init
import Mathlib.Order.Basic

/-!
# Loops with a deadline

A loop looks at a clock before each of its passes and leaves when the clock says
that it is late, or after a pass that has found something.  The passes, and what
the clock says, may differ from poll to poll.  This module says when such a loop
leaves and with which state.
-/

namespace BoxTrials
namespace Foundation

variable {sigma : Type _}

/-- A loop over states: what the `k`-th poll of the clock says, the pass that
follows it, and whether a state ends the loop. -/
structure PollLoop (sigma : Type _) where
  inTime : Nat -> Bool
  pass : Nat -> sigma -> sigma
  done : sigma -> Bool

inductive PollState (sigma : Type _) where
  | polling (s : sigma)
  /-- The loop was left at the given poll. -/
  | left (poll : Nat) (s : sigma)
  deriving DecidableEq, Repr

namespace PollLoop

def after (l : PollLoop sigma) (s : sigma) : Nat -> PollState sigma
  | 0 => .polling s
  | n + 1 =>
      match l.after s n with
      | .left k t => .left k t
      | .polling t =>
          if l.inTime n then
            if l.done (l.pass n t) then
              .left n (l.pass n t)
            else
              .polling (l.pass n t)
          else
            .left n t

def passes (l : PollLoop sigma) (s : sigma) : Nat -> sigma
  | 0 => s
  | n + 1 => l.pass n (l.passes s n)

def Leaves (l : PollLoop sigma) (s : sigma) (k : Nat) (t : sigma) : Prop :=
  l.after s (k + 1) = .left k t

def GoesOn (l : PollLoop sigma) (s : sigma) (n : Nat) : Prop :=
  forall k, k < n -> l.inTime k = true ∧ l.done (l.passes s (k + 1)) = false

variable {l : PollLoop sigma} {s t : sigma} {k n : Nat}

theorem goesOn_succ : l.GoesOn s (n + 1) <->
    l.GoesOn s n ∧ l.inTime n = true ∧ l.done (l.passes s (n + 1)) = false := by
  constructor
  · intro h
    exact ⟨fun k hk => h k (Nat.lt_succ_of_lt hk), h n (Nat.lt_succ_self n)⟩
  · intro h k hk
    rcases Nat.lt_succ_iff_lt_or_eq.mp hk with hlt | rfl
    · exact h.left k hlt
    · exact h.right

theorem after_of_goesOn (h : l.GoesOn s n) :
    l.after s n = .polling (l.passes s n) := by
  induction n with
  | zero =>
      rfl
  | succ n ih =>
      rcases goesOn_succ.mp h with ⟨hbefore, htime, hdone⟩
      rw [passes] at hdone
      rw [after, ih hbefore]
      simp only [htime, hdone, if_true]
      rfl

theorem after_eq_polling_iff :
    l.after s n = .polling t <-> l.GoesOn s n ∧ t = l.passes s n := by
  constructor
  · intro h
    induction n generalizing t with
    | zero =>
        cases h
        exact ⟨fun k hk => absurd hk (Nat.not_lt_zero k), rfl⟩
    | succ n ih =>
        rw [after] at h
        cases hbefore : l.after s n with
        | left k u =>
            rw [hbefore] at h
            cases h
        | polling u =>
            rcases ih hbefore with ⟨hgoes, rfl⟩
            simp only [hbefore] at h
            split at h
            · rename_i htime
              split at h
              · cases h
              · rename_i hdone
                cases h
                exact ⟨goesOn_succ.mpr ⟨hgoes, htime, eq_false_of_ne_true hdone⟩,
                  rfl⟩
            · cases h
  · intro h
    rw [h.right]
    exact after_of_goesOn h.left

theorem after_of_leaves (h : l.Leaves s k t) (hk : k < n) :
    l.after s n = .left k t := by
  induction n, hk using Nat.le_induction with
  | base =>
      exact h
  | succ n _ ih =>
      rw [after, ih]

theorem leaves_unique {k' : Nat} {t' : sigma} (h : l.Leaves s k t)
    (h' : l.Leaves s k' t') : k = k' ∧ t = t' := by
  have hfirst := after_of_leaves h (Nat.lt_succ_of_le (Nat.le_max_left k k'))
  have hsecond := after_of_leaves h' (Nat.lt_succ_of_le (Nat.le_max_right k k'))
  rw [hfirst] at hsecond
  cases hsecond
  exact ⟨rfl, rfl⟩

theorem leaves_of_late (h : l.GoesOn s k) (hlate : l.inTime k = false) :
    l.Leaves s k (l.passes s k) := by
  rw [Leaves, after, after_of_goesOn h]
  simp [hlate]

theorem leaves_of_done (h : l.GoesOn s k) (htime : l.inTime k = true)
    (hdone : l.done (l.passes s (k + 1)) = true) :
    l.Leaves s k (l.passes s (k + 1)) := by
  rw [passes] at hdone
  rw [Leaves, after, after_of_goesOn h]
  simp [htime, hdone, passes]

theorem goesOn_step (h : l.GoesOn s n) :
    (l.inTime n = false ∧ l.Leaves s n (l.passes s n)) ∨
      (l.inTime n = true ∧ l.done (l.passes s (n + 1)) = true ∧
        l.Leaves s n (l.passes s (n + 1))) ∨
      l.GoesOn s (n + 1) := by
  cases htime : l.inTime n with
  | false =>
      exact Or.inl ⟨rfl, leaves_of_late h htime⟩
  | true =>
      cases hdone : l.done (l.passes s (n + 1)) with
      | true => exact Or.inr (Or.inl ⟨rfl, rfl, leaves_of_done h htime hdone⟩)
      | false => exact Or.inr (Or.inr (goesOn_succ.mpr ⟨h, htime, hdone⟩))

theorem goesOn_or_leaves (l : PollLoop sigma) (s : sigma) (n : Nat) :
    l.GoesOn s n ∨ exists k t, k < n ∧ l.Leaves s k t := by
  induction n with
  | zero =>
      exact Or.inl fun k hk => absurd hk (Nat.not_lt_zero k)
  | succ n ih =>
      rcases ih with hgoes | ⟨k, t, hk, hleaves⟩
      · rcases goesOn_step hgoes with ⟨_, hleaves⟩ | ⟨_, _, hleaves⟩ | hgoes'
        · exact Or.inr ⟨n, _, Nat.lt_succ_self n, hleaves⟩
        · exact Or.inr ⟨n, _, Nat.lt_succ_self n, hleaves⟩
        · exact Or.inl hgoes'
      · exact Or.inr ⟨k, t, Nat.lt_succ_of_lt hk, hleaves⟩

/-- A loop is left at the first poll that is late or whose pass ends it. -/
theorem leaves_iff : l.Leaves s k t <->
    l.GoesOn s k ∧
      ((l.inTime k = false ∧ t = l.passes s k) ∨
        (l.inTime k = true ∧ l.done (l.passes s (k + 1)) = true ∧
          t = l.passes s (k + 1))) := by
  constructor
  · intro h
    have hgoes : l.GoesOn s k := by
      rcases goesOn_or_leaves l s k with hgoes | ⟨j, u, hj, hleaves⟩
      · exact hgoes
      · exact absurd (leaves_unique hleaves h).left (Nat.ne_of_lt hj)
    refine ⟨hgoes, ?_⟩
    rcases goesOn_step hgoes with ⟨hlate, hleaves⟩ | ⟨htime, hdone, hleaves⟩ |
      hgoes'
    · exact Or.inl ⟨hlate, (leaves_unique h hleaves).right⟩
    · exact Or.inr ⟨htime, hdone, (leaves_unique h hleaves).right⟩
    · rw [Leaves, after_of_goesOn hgoes'] at h
      cases h
  · intro h
    rcases h with ⟨hgoes, ⟨hlate, rfl⟩ | ⟨htime, hdone, rfl⟩⟩
    · exact leaves_of_late hgoes hlate
    · exact leaves_of_done hgoes htime hdone

theorem leaves_of_deadline (hlate : l.inTime n = false) :
    exists k t, k ≤ n ∧ l.Leaves s k t := by
  rcases goesOn_or_leaves l s (n + 1) with hgoes | ⟨k, t, hk, hleaves⟩
  · have htime := (hgoes n (Nat.lt_succ_self n)).left
    rw [hlate] at htime
    cases htime
  · exact ⟨k, t, Nat.le_of_lt_succ hk, hleaves⟩

/-- Two loops with the same passes are left at the same poll with the same state,
if their clocks agree up to the first poll that is late for one of them. -/
theorem after_congr {l l' : PollLoop sigma} (hpass : l'.pass = l.pass)
    (hdone : l'.done = l.done)
    (htime : forall n, (forall k, k < n -> l.inTime k = true) ->
      l'.inTime n = l.inTime n) (s : sigma) (n : Nat) :
    l'.after s n = l.after s n := by
  induction n with
  | zero =>
      rfl
  | succ n ih =>
      rw [after, after, ih, hpass, hdone]
      cases hbefore : l.after s n with
      | left k t =>
          rfl
      | polling t =>
          have hgoes := (after_eq_polling_iff.mp hbefore).left
          rw [htime n fun k hk => (hgoes k hk).left]

end PollLoop

end Foundation
end BoxTrials
