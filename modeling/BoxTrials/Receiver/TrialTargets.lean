import BoxTrials.Receiver.Runs

/-!
# The targets of trials

`TestSequence` uses the entries of the sequence as indices of the board table
without a check.  Whether they are objects is decided by the commands that were
received before.
-/

namespace BoxTrials
namespace Receiver

open Foundation

def Device.boardIndex (d : Device) : Option Int :=
  match d.pc with
  | .readTarget _ => d.globals.target
  | .scan _ j =>
      if j ≤ NOBJECTS ∧ d.globals.target ≠ some j then
        some j
      else
        none
  | _ => none

/-- A trial that is executed has an object as its target, and the table of 15
boards is read within its bounds. -/
def RealTarget (d : Device) : Prop :=
  (d.pc.inTrial = true ->
    exists b, d.globals.target = some b ∧ 1 ≤ b ∧ b ≤ NOBJECTS) ∧
  (forall i, d.boardIndex = some i -> 0 ≤ i ∧ i ≤ 14)

/-- The last TRIAL for the current trial number, among the commands since the
NTRIALS that made the sequence, names an object. -/
def Commanded (d : Device) : Prop :=
  exists n later b, lastMatch (accepted NTRIALS) d.history = some (n, later) ∧
    lastValue (trialObject d.globals.currentTrial) later = some b ∧
    1 ≤ b ∧ b ≤ NOBJECTS

theorem run_scan_pos (w : World) (n : Nat) {s : Nat} {j : Int}
    (h : (run w n).pc = .scan s j) : 1 ≤ j := by
  induction n generalizing s j with
  | zero =>
      cases h
  | succ n ih =>
      have hmove := run_move w n
      generalize run w (n + 1) = d' at hmove h
      cases hmove with
      | @receives c _ _ =>
          have hout := receive_outsideTest w c (run w n)
          rw [h] at hout
          cases hout
      | tests _ hmove =>
          cases hmove with
          | control hcontrol =>
              simp only at h
              rw [h] at hcontrol
              cases hpc : (run w n).pc with
              | readTarget s' =>
                  rw [hpc] at hcontrol
                  cases hcontrol
                  omega
              | scan s' j' =>
                  rw [hpc] at hcontrol
                  cases hcontrol
                  have := ih hpc
                  omega
              | _ =>
                  rw [hpc] at hcontrol
                  cases hcontrol
          | clears _ _ _ =>
              simp only [Pc.scan.injEq] at h
              simp only [NOBJECTS] at h
              omega
          | _ => cases h
      | stays hpc =>
          rw [hpc] at h
          cases h
      | _ => cases h

theorem commanded_of_inTrial {w : World}
    (h : forall n, Begins (run w n) -> Commanded (run w n)) (n : Nat)
    (hpc : (run w n).pc.inTrial = true) : Commanded (run w n) := by
  induction n with
  | zero =>
      cases hpc
  | succ n ih =>
      have hmove := run_move w n
      generalize run w (n + 1) = d' at hmove hpc
      cases hmove with
      | @receives c _ _ =>
          have hout := receive_outsideTest w c (run w n)
          rw [inTest_of_inTrial hpc] at hout
          cases hout
      | tests htest hmove =>
          rcases testMove_frame hmove with ⟨hconfiguration, _, hhistory⟩
          have hnumber : d'.globals.numberOfTrials =
              (run w n).globals.numberOfTrials :=
            congrArg Configuration.numberOfTrials hconfiguration
          rcases testMove_counter hmove with ⟨hsame, henter⟩ | ⟨_, hhead, _⟩
          · unfold Commanded
            rw [hhistory, hsame]
            by_cases hin : (run w n).pc.inTrial = true
            · exact ih hin
            · rcases henter hpc with hin' | hle
              · exact absurd hin' hin
              · have hhead : (run w n).pc = .trialHead := by
                  simp only [Pc.inTest, Bool.or_eq_true, hin] at htest
                  simpa using htest
                exact h n ⟨hhead, hle⟩
          · rw [hhead] at hpc
            cases hpc
      | stays hundefined =>
          rw [hundefined] at hpc
          cases hpc
      | _ => cases hpc

theorem target_of_commanded {d : Device} (hd : Sound d)
    (hpc : d.pc.inTrial = true) (h : Commanded d) :
    exists b, d.globals.target = some b ∧ 1 ≤ b ∧ b ≤ NOBJECTS := by
  rcases sound_target hd hpc with ⟨n, later, hfound, _, _, _, htarget⟩
  rcases h with ⟨n', later', b, hfound', hlast, hb⟩
  rw [hfound] at hfound'
  cases hfound'
  refine ⟨b, ?_, hb⟩
  rw [htarget, lastTrial, hlast]
  rfl

theorem commanded_of_target {d : Device} {b : Int} (hd : Sound d)
    (hpc : d.pc.inTrial = true) (htarget : d.globals.target = some b)
    (hb : 1 ≤ b ∧ b ≤ NOBJECTS) : Commanded d := by
  rcases sound_target hd hpc with ⟨n, later, hfound, _, _, _, hentry⟩
  rw [htarget, Option.some.injEq] at hentry
  refine ⟨n, later, b, hfound, ?_, hb⟩
  cases hlast : lastValue (trialObject d.globals.currentTrial) later with
  | none =>
      rw [lastTrial, hlast] at hentry
      simp only [Option.getD_none, NOVALUE] at hentry
      omega
  | some object =>
      rw [lastTrial, hlast] at hentry
      rw [hentry]
      rfl

theorem boardIndex_inRange {w : World} {n : Nat}
    (htarget : (run w n).pc.inTrial = true ->
      exists b, (run w n).globals.target = some b ∧ 1 ≤ b ∧ b ≤ NOBJECTS)
    {i : Int} (hi : (run w n).boardIndex = some i) : 0 ≤ i ∧ i ≤ 14 := by
  unfold Device.boardIndex at hi
  split at hi
  · rename_i s hpc
    rcases htarget (by rw [hpc]; rfl) with ⟨b, hb, hlo, hhi⟩
    rw [hb] at hi
    cases hi
    simp only [NOBJECTS] at hhi
    omega
  · rename_i s j hpc
    have hpos := run_scan_pos w n hpc
    split at hi
    · rename_i hj
      cases hi
      have hle := hj.left
      simp only [NOBJECTS] at hle
      omega
    · cases hi
  · cases hi

/-- A run stays within its memory with real targets exactly when every TRIAL is
numbered within the sequence, and every trial that begins has been given an
object since the sequence was made. -/
theorem realTarget_iff (w : World) :
    (forall n, (run w n).pc ≠ .undefined ∧ RealTarget (run w n)) <->
      (forall n, TrialsInRange (run w n).history ∧
        (Begins (run w n) -> Commanded (run w n))) := by
  constructor
  · intro h n
    refine ⟨(run_defined_iff w n).mp (h n).left, ?_⟩
    intro hbegins
    rcases begins_step (w := w) hbegins with ⟨hpc, hhistory, hglobals⟩
    have hnext := h (n + 1)
    rw [run_succ] at hnext
    have hsound : Sound (step w (run w n)) := by
      rw [← run_succ]
      exact run_sound (by rw [run_succ]; exact hnext.left)
    rcases hnext.right.left hpc with ⟨b, htarget, hb⟩
    have hcommanded := commanded_of_target hsound hpc htarget hb
    unfold Commanded at hcommanded ⊢
    rw [hhistory, hglobals] at hcommanded
    exact hcommanded
  · intro h n
    have hdefined := (run_defined_iff w n).mpr (h n).left
    have htarget : (run w n).pc.inTrial = true ->
        exists b, (run w n).globals.target = some b ∧ 1 ≤ b ∧ b ≤ NOBJECTS := by
      intro hpc
      exact target_of_commanded (run_sound hdefined) hpc
        (commanded_of_inTrial (fun m => (h m).right) n hpc)
    exact ⟨hdefined, htarget, fun _ => boardIndex_inRange htarget⟩

/-- One trial is announced and none is commanded: the experiment starts, and its
trial looks for object -1. -/
theorem not_realTarget_uncommanded :
    ¬ RealTarget
      (run (World.scripted
        [⟨⟨NTRIALS, 0, 1⟩, by constructor <;> decide⟩,
          ⟨⟨STREAM, 0, 1⟩, by constructor <;> decide⟩]
        (fun n => n) monotone_id (fun _ _ => false)) 5) := by
  intro h
  rcases h.left (by decide +kernel) with ⟨b, htarget, hlo, _⟩
  have hnone : (run (World.scripted
        [⟨⟨NTRIALS, 0, 1⟩, by constructor <;> decide⟩,
          ⟨⟨STREAM, 0, 1⟩, by constructor <;> decide⟩]
        (fun n => n) monotone_id (fun _ _ => false)) 5).globals.target =
      some NOVALUE := by
    decide +kernel
  rw [hnone, Option.some.injEq] at htarget
  rw [← htarget] at hlo
  revert hlo
  decide

end Receiver
end BoxTrials
