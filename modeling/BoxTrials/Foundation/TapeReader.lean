import Mathlib.Logic.Function.Iterate

/-!
# Machines that read a tape

A machine takes its input from a tape whose entries it looks at in their order,
each at most once.  What it has done so far then depends on the entries behind
it only, and the rest of the tape may still be chosen.
-/

namespace BoxTrials
namespace Foundation

variable {alpha sigma : Type _}

/-- A machine with a tape, of which a step looks at the entries that it
passes. -/
structure TapeReader (alpha sigma : Type _) where
  step : (Nat -> alpha) -> sigma -> sigma
  position : sigma -> Nat
  position_le : forall tape s, position s ≤ position (step tape s)
  step_congr : forall tape tape' s,
    (forall k, position s ≤ k -> k < position (step tape s) ->
      tape k = tape' k) -> step tape' s = step tape s

def TapeReader.run (m : TapeReader alpha sigma) (tape : Nat -> alpha) (n : Nat)
    (s : sigma) : sigma :=
  (m.step tape)^[n] s

theorem TapeReader.run_succ (m : TapeReader alpha sigma) (tape : Nat -> alpha)
    (n : Nat) (s : sigma) :
    m.run tape (n + 1) s = m.step tape (m.run tape n s) :=
  Function.iterate_succ_apply' (m.step tape) n s

theorem TapeReader.run_congr (m : TapeReader alpha sigma)
    {tape tape' : Nat -> alpha} {n : Nat} {s : sigma}
    (h : forall k, k < m.position (m.run tape n s) -> tape k = tape' k) :
    m.run tape' n s = m.run tape n s := by
  induction n with
  | zero =>
      rfl
  | succ n ih =>
      rw [m.run_succ] at h ⊢
      have hle := m.position_le tape (m.run tape n s)
      have hsame := ih fun k hk => h k (Nat.lt_of_lt_of_le hk hle)
      rw [m.run_succ, hsame]
      exact m.step_congr tape tape' (m.run tape n s) fun k _ hk => h k hk

/-- After a run the rest of the tape can be replaced by that of another one. -/
theorem TapeReader.run_splice (m : TapeReader alpha sigma)
    (tape next : Nat -> alpha) (n : Nat) (s : sigma) :
    m.run (fun k => if k < m.position (m.run tape n s) then tape k else next k)
        (n + 1) s =
      m.step next (m.run tape n s) := by
  rw [m.run_succ]
  rw [@TapeReader.run_congr _ _ m tape _ n s fun k hk => (if_pos hk).symm]
  apply m.step_congr
  intro k hle _
  exact (if_neg (Nat.not_lt.mpr hle)).symm

theorem TapeReader.run_extends (m : TapeReader alpha sigma)
    (tape next : Nat -> alpha) (n : Nat) (s : sigma) :
    exists tape', m.run tape' (n + 1) s = m.step next (m.run tape n s) :=
  ⟨_, m.run_splice tape next n s⟩

end Foundation
end BoxTrials
