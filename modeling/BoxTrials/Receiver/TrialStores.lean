import BoxTrials.Receiver.Runs

/-!
# Where TRIAL stores

`Trial` uses the number of the packet as an index without a check.  The length
of the sequence was set by an earlier command, so whether the store stays inside
depends on the run.
-/

namespace BoxTrials
namespace Receiver

def Arrives (w : World) (d : Device) (c : Command) : Prop :=
  d.pc = .loopTop ∧ w.command d.reads = some c

structure StoresEntry (p : Packet) (g g' : Globals) : Prop where
  number_pos : 1 ≤ p.data
  number_le : p.data ≤ g.numberOfTrials
  entries : exists sequence sequence', g.trialSequence = some sequence ∧
    g'.trialSequence = some sequence' ∧ sequence'.length = sequence.length ∧
    sequence'[(p.data - 1).toNat]? = some p.objectID ∧
    forall i, i ≠ (p.data - 1).toNat -> sequence'[i]? = sequence[i]?
  others : g' =
    { g with trialSequence := g'.trialSequence, serialOut := g'.serialOut }

/-- A TRIAL stores an entry, or it has no effect and gets no reply. -/
def StoresInside (p : Packet) (g g' : Globals) : Prop :=
  StoresEntry p g g' ∨ g' = g

theorem storesInside_iff {d : Device} (hd : Sound d) {p : Packet}
    (hp : p.commandNumber = TRIAL) (now : Nat) :
    StoresInside p d.globals (doCommand now p d.globals).2 <->
      (d.globals.trialSequence = none ∨
        (1 ≤ p.data ∧ p.data ≤ d.globals.numberOfTrials)) := by
  rw [doCommand_trial hp]
  unfold StoresInside trial
  cases hsequence : d.globals.trialSequence with
  | none =>
      exact iff_of_true (Or.inr rfl) (Or.inl rfl)
  | some sequence =>
      have hlength := hd.sequence_length hsequence
      dsimp only
      by_cases hrange : 1 ≤ p.data ∧ p.data ≤ sequence.length
      · refine iff_of_true (Or.inl ?_) (Or.inr ⟨hrange.left, by omega⟩)
        rw [storeTrial_of_inRange hrange]
        refine ⟨hrange.left, by omega, ⟨sequence, _, hsequence, rfl,
          List.length_set, ?_, ?_⟩, rfl⟩
        · exact List.getElem?_set_self (by omega)
        · intro i hi
          exact List.getElem?_set_ne (fun h => hi h.symm)
      · rw [storeTrial_of_outside hrange]
        refine iff_of_false ?_ ?_
        · intro h
          have houtside : d.globals.outside ++ [(p.data - 1, p.objectID)] =
              d.globals.outside := by
            rcases h with hentry | hsame
            · exact congrArg Globals.outside hentry.others
            · exact congrArg Globals.outside hsame
          simp at houtside
        · intro h
          rcases h with hnone | hin
          · cases hnone
          · omega

/-- Every TRIAL of a run stores inside the sequence exactly when every TRIAL
comes before the first sequence or is numbered within it. -/
theorem trials_storeInside_iff (w : World) :
    (forall n c, Arrives w (run w n) c -> c.packet.commandNumber = TRIAL ->
      StoresInside c.packet (run w n).globals (run w (n + 1)).globals) <->
    (forall n c, Arrives w (run w n) c -> c.packet.commandNumber = TRIAL ->
      (run w n).globals.trialSequence = none ∨
        (1 ≤ c.packet.data ∧
          c.packet.data ≤ (run w n).globals.numberOfTrials)) := by
  refine forall_congr' fun n => forall_congr' fun c => ?_
  refine imp_congr_right fun harrives => imp_congr_right fun hp => ?_
  have hd : Sound (run w n) := run_sound (by rw [harrives.left]; decide)
  rw [run_succ, step_receive harrives.left harrives.right]
  exact storesInside_iff hd hp _

def secondOfOne : World :=
  World.scripted
    [Command.ofFields NTRIALS 0 1, Command.ofFields TRIAL 3 2]
    (fun n => n) monotone_id (fun _ _ => false)

/-- The object is written behind the end of the sequence. -/
theorem not_storesInside_secondOfOne :
    ¬ forall n c, Arrives secondOfOne (run secondOfOne n) c ->
      c.packet.commandNumber = TRIAL ->
      StoresInside c.packet (run secondOfOne n).globals
        (run secondOfOne (n + 1)).globals := by
  intro h
  have hinside := h 2 (Command.ofFields TRIAL 3 2)
    ⟨by decide +kernel, rfl⟩ rfl
  rcases hinside with hentry | hsame
  · have hle := hentry.number_le
    revert hle
    decide +kernel
  · have houtside := congrArg Globals.outside hsame
    revert houtside
    decide +kernel

end Receiver
end BoxTrials
