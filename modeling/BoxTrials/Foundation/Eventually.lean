import Mathlib.Logic.Function.Iterate

/-!
# Reaching a state

A deterministic machine is a function that is iterated.  This module has the
rules by which one shows that its iterates reach a goal: by a further step, by
way of an intermediate goal, and by a variant that decreases.
-/

namespace BoxTrials
namespace Foundation

variable {sigma : Type _} {next : sigma -> sigma}
variable {goal mid inv : sigma -> Prop} {s : sigma}

def Eventually (next : sigma -> sigma) (goal : sigma -> Prop) (s : sigma) :
    Prop :=
  exists n, goal (next^[n] s)

theorem eventually_now (h : goal s) : Eventually next goal s :=
  ⟨0, h⟩

theorem eventually_next (h : Eventually next goal (next s)) :
    Eventually next goal s := by
  rcases h with ⟨n, hn⟩
  exact ⟨n + 1, by rw [Function.iterate_succ_apply]; exact hn⟩

theorem eventually_trans (h : Eventually next mid s)
    (hmid : forall t, mid t -> Eventually next goal t) :
    Eventually next goal s := by
  rcases h with ⟨m, hm⟩
  rcases hmid _ hm with ⟨n, hn⟩
  exact ⟨n + m, by rw [Function.iterate_add_apply]; exact hn⟩

theorem eventually_mono (h : Eventually next mid s)
    (hmid : forall t, mid t -> goal t) : Eventually next goal s := by
  rcases h with ⟨n, hn⟩
  exact ⟨n, hmid _ hn⟩

theorem eventually_with_invariant (hinv : forall t, inv t -> inv (next t))
    (hs : inv s) (h : Eventually next goal s) :
    Eventually next (fun t => goal t ∧ inv t) s := by
  rcases h with ⟨n, hn⟩
  exact ⟨n, hn, Function.Iterate.rec inv hs hinv n⟩

theorem eventually_of_variant (inv : sigma -> Prop) (variant : sigma -> Nat)
    (hround : forall t, inv t -> Eventually next
      (fun u => goal u ∨ (inv u ∧ variant u < variant t)) t)
    (h : inv s) : Eventually next goal s := by
  generalize hbound : variant s = bound
  induction bound using Nat.strongRecOn generalizing s with
  | ind bound ih =>
      apply eventually_trans (hround s h)
      intro u hu
      rcases hu with hgoal | ⟨hinv, hless⟩
      · exact eventually_now hgoal
      · exact ih (variant u) (hbound ▸ hless) hinv rfl

end Foundation
end BoxTrials
