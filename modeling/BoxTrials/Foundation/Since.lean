import Mathlib.Logic.Basic

/-!
# What has happened since

A moment lies since an event if the event came before it, and nothing that ends
what the event began has come between.  A property that the event begins, that
the ending ends and that nothing else changes holds at just these moments.
-/

namespace BoxTrials
namespace Foundation

/-- `p` was true before `n`, and `q` has not been true since. -/
def Since (p q : Nat -> Prop) (n : Nat) : Prop :=
  exists m, m < n ∧ p m ∧ forall k, m < k -> k < n -> ¬ q k

variable {p q r : Nat -> Prop} {n : Nat}

theorem not_since_zero : ¬ Since p q 0 := by
  intro h
  rcases h with ⟨m, hm, _⟩
  exact Nat.not_lt_zero m hm

theorem since_succ : Since p q (n + 1) <-> p n ∨ (Since p q n ∧ ¬ q n) := by
  constructor
  · intro h
    rcases h with ⟨m, hm, hp, hnot⟩
    rcases Nat.lt_succ_iff_lt_or_eq.mp hm with hlt | rfl
    · right
      exact ⟨⟨m, hlt, hp, fun k hmk hk => hnot k hmk (Nat.lt_succ_of_lt hk)⟩,
        hnot n hlt (Nat.lt_succ_self n)⟩
    · exact Or.inl hp
  · intro h
    rcases h with hp | ⟨⟨m, hm, hp, hnot⟩, hq⟩
    · exact ⟨n, Nat.lt_succ_self n, hp,
        fun k hnk hk => absurd hnk (Nat.not_lt.mpr (Nat.le_of_lt_succ hk))⟩
    · refine ⟨m, Nat.lt_succ_of_lt hm, hp, fun k hmk hk => ?_⟩
      rcases Nat.lt_succ_iff_lt_or_eq.mp hk with hlt | rfl
      · exact hnot k hmk hlt
      · exact hq

/-- A property of the moments of a run that `p` begins and `q` ends. -/
theorem since_of_changes (hzero : ¬ r 0) (hbegins : forall n, p n -> r (n + 1))
    (hends : forall n, ¬ p n -> q n -> ¬ r (n + 1))
    (hkeeps : forall n, ¬ p n -> ¬ q n -> (r (n + 1) <-> r n)) (n : Nat) :
    r n <-> Since p q n := by
  induction n with
  | zero => exact iff_of_false hzero not_since_zero
  | succ n ih =>
      rw [since_succ, ← ih]
      by_cases hp : p n
      · exact iff_of_true (hbegins n hp) (Or.inl hp)
      · by_cases hq : q n
        · exact iff_of_false (hends n hp hq) fun h =>
            h.elim hp fun hboth => hboth.right hq
        · rw [hkeeps n hp hq]
          exact ⟨fun h => Or.inr ⟨h, hq⟩, fun h => h.elim (absurd · hp) And.left⟩

end Foundation
end BoxTrials
