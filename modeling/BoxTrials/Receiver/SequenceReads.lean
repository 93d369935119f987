import BoxTrials.Receiver.Runs

/-!
# Reads of the sequence

`TestSequence` and the three functions that light the commanded box read
`_trialSequence[_currentTrial-1]`.  `TestSequence` does not check for a null
pointer or the lower bound; that every read is within the sequence follows from
what `NTrials`, `Stream` and the trial loop keep together.
-/

namespace BoxTrials
namespace Receiver

/-- The next step reads `_trialSequence[_currentTrial-1]`. -/
def Pc.readsSequence : Pc -> Bool
  | .moveMe _ | .readTarget _ | .respond .correct | .respond .timeout => true
  | .scan _ j => decide (j ≤ NOBJECTS)
  | .flash j => decide (j < 5)
  | _ => false

/-- A read of the current entry is within the sequence, which has as many
entries as there are trials. -/
structure EntryInBounds (g : Globals) : Prop where
  allocated : exists sequence, g.trialSequence = some sequence ∧
    (sequence.length : Int) = g.numberOfTrials
  lower : 1 ≤ g.currentTrial
  upper : g.currentTrial ≤ g.numberOfTrials

theorem inTrial_of_readsSequence {pc : Pc} (h : pc.readsSequence = true) :
    pc.inTrial = true := by
  cases pc with
  | moveMe | readTarget | respond | scan | flash => rfl
  | _ => cases h

/-- The places are all those at which a missing entry ends a run. -/
theorem readsSequence_of_fault {w : World} {d : Device}
    (htest : d.pc.inTest = true) (h : (testStep w d).pc = .undefined) :
    d.pc.readsSequence = true ∧ d.globals.target = none := by
  have hlight : forall {color : Int -> Pins -> Pins} {next : Pc},
      next ≠ .undefined -> (d.light color next).pc = .undefined ->
        d.globals.target = none := by
    intro color next hnext hpc
    rcases light_cases d color next with hsame | ⟨_, hnone⟩
    · exact absurd (hsame.symm.trans hpc) hnext
    · exact hnone
  cases hpc : d.pc with
  | trialHead =>
      simp only [testStep, hpc] at h
      split at h <;> cases h
  | trialTick s =>
      simp only [testStep, hpc] at h
      cases h
  | moveMe s =>
      simp only [testStep, hpc] at h
      exact ⟨rfl, hlight Pc.noConfusion h⟩
  | waitHead s =>
      simp only [testStep, hpc, millis] at h
      split at h <;> cases h
  | readTarget s =>
      simp only [testStep, hpc, Device.withTarget] at h
      split at h
      · rename_i hnone
        exact ⟨rfl, hnone⟩
      · split at h <;> cases h
  | scan s j =>
      simp only [testStep, hpc, scanStep, Device.withTarget] at h
      split at h
      · rename_i hj
        split at h
        · rename_i hnone
          exact ⟨decide_eq_true hj, hnone⟩
        · split_ifs at h
      · cases h
  | passTick s =>
      simp only [testStep, hpc] at h
      cases h
  | respond outcome =>
      cases outcome with
      | correct | timeout =>
          simp only [testStep, hpc] at h
          exact ⟨rfl, hlight Pc.noConfusion h⟩
      | wrongBox =>
          simp only [testStep, hpc] at h
          cases h
  | flash j =>
      simp only [testStep, hpc] at h
      split at h
      · rename_i hj
        exact ⟨decide_eq_true hj, hlight Pc.noConfusion h⟩
      · cases h
  | gap j =>
      simp only [testStep, hpc] at h
      cases h
  | trialEnd outcome =>
      simp only [testStep, hpc] at h
      cases h
  | loopTop => simp [hpc, Pc.inTest, Pc.inTrial] at htest
  | loopStream => simp [hpc, Pc.inTest, Pc.inTrial] at htest
  | returned => simp [hpc, Pc.inTest, Pc.inTrial] at htest
  | undefined => simp [hpc, Pc.inTest, Pc.inTrial] at htest

theorem sound_inBounds {d : Device} (hd : Sound d) (hpc : d.pc.inTrial = true) :
    EntryInBounds d.globals := by
  rcases sound_target hd hpc with ⟨n, _, _, hnumber, hlower, hupper, htarget⟩
  constructor
  case allocated =>
    cases hsequence : d.globals.trialSequence with
    | none =>
        rw [Globals.target, hsequence] at htarget
        cases htarget
    | some sequence => exact ⟨sequence, rfl, hd.sequence_length hsequence⟩
  case lower => exact hlower
  case upper =>
    rw [hnumber]
    exact hupper

/-- In every run, whatever commands it has received in whatever order, every
read of the current entry is within the sequence, if each TRIAL was. -/
theorem reads_inBounds (w : World) (n : Nat)
    (hrange : TrialsInRange (run w n).history)
    (hread : (run w n).pc.readsSequence = true) :
    EntryInBounds (run w n).globals :=
  sound_inBounds (run_sound ((run_defined_iff w n).mpr hrange))
    (inTrial_of_readsSequence hread)

/-- The count was announced twice, and the trial is about to look at its
target. -/
theorem reads_inBounds_announcedTwice :
    (run (World.scripted
        [Command.ofFields SAMPLERATE 0 20, Command.ofFields NTRIALS 0 2,
          Command.ofFields TRIAL 3 1, Command.ofFields NTRIALS 0 1,
          Command.ofFields STREAM 0 1]
        (fun n => n) monotone_id (fun _ _ => false)) 14).pc.readsSequence = true ∧
      EntryInBounds
        (run (World.scripted
          [Command.ofFields SAMPLERATE 0 20, Command.ofFields NTRIALS 0 2,
            Command.ofFields TRIAL 3 1, Command.ofFields NTRIALS 0 1,
            Command.ofFields STREAM 0 1]
          (fun n => n) monotone_id (fun _ _ => false)) 14).globals :=
  ⟨by decide +kernel,
    reads_inBounds _ 14 ((run_defined_iff _ 14).mp (by decide +kernel))
      (by decide +kernel)⟩

end Receiver
end BoxTrials
