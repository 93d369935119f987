import BoxTrials.Receiver.Configuration
import BoxTrials.Receiver.PacketRoundTrip

/-!
# Commands without a reply

The computer takes a missing reply for a command that had no effect.  Handlers
change the globals before they write the reply, and the writer has checks of
its own, so the two can differ: for TRIAL they do.
-/

namespace BoxTrials
namespace Receiver

open Foundation

/-- If `DoCommand` writes no reply, it leaves the globals as they were, and
writes nothing outside them. -/
def Atomic (now : Nat) (p : Packet) (g : Globals) : Prop :=
  (doCommand now p g).2.serialOut = g.serialOut -> (doCommand now p g).2 = g

/-- A TRIAL whose store goes through but whose reply the writer refuses: the
object is beyond NOBJECTS or the number is negative. If the entry already holds
the object, the store has no effect. -/
def UnansweredTrial (p : Packet) (g : Globals) : Prop :=
  p.commandNumber = TRIAL ∧
    exists sequence, g.trialSequence = some sequence ∧
      (NOBJECTS < p.objectID ∨ p.data < 0) ∧
      ¬ ((1 ≤ p.data ∧ p.data ≤ sequence.length) ∧
        sequence.set (p.data - 1).toNat p.objectID = sequence)

theorem writePacket_silent_iff (commandNumber objectID data : Int)
    (g : Globals) :
    (g.writePacket commandNumber objectID data).2.serialOut = g.serialOut <->
      ¬ Writable commandNumber objectID data := by
  rw [Globals.writePacket_snd]
  by_cases h : Writable commandNumber objectID data
  · rw [writePacket_of_writable h]
    simp [h, frame]
  · rw [writePacket_of_not_writable h]
    simp [h]

theorem writable_parameter {kind data : Int} (hlo : PING ≤ kind)
    (hhi : kind ≤ STREAM) (h0 : 0 ≤ data) (h : data ≤ 65535) :
    Writable kind 0 data := by
  refine ⟨hlo, hhi, by decide, by decide, ?_⟩
  rw [toULong_of_nonneg h0 (by rw [wordModulus]; omega)]
  omega

theorem atomic_of_writable {g g' : Globals} {commandNumber objectID data : Int}
    (hline : g'.serialOut = g.serialOut)
    (h : Writable commandNumber objectID data) :
    (g'.writePacket commandNumber objectID data).2.serialOut = g.serialOut ->
      (g'.writePacket commandNumber objectID data).2 = g := by
  intro hsilent
  rw [← hline] at hsilent
  exact absurd h ((writePacket_silent_iff _ _ _ g').mp hsilent)

theorem setParameter_atomic {kind data : Int}
    {store : Int -> Globals -> Globals} {g : Globals}
    (hline : (store data g).serialOut = g.serialOut)
    (hlo : PING ≤ kind) (hhi : kind ≤ STREAM) (h : data ≤ 65535) :
    (setParameter kind store data g).2.serialOut = g.serialOut ->
      (setParameter kind store data g).2 = g := by
  unfold setParameter
  by_cases hpos : 0 < data
  · simpa [hpos] using
      atomic_of_writable hline (writable_parameter hlo hhi (le_of_lt hpos) h)
  · simp [hpos]

theorem writable_trial_iff {c : Command} :
    Writable TRIAL c.packet.objectID c.packet.data <->
      ¬ (NOBJECTS < c.packet.objectID ∨ c.packet.data < 0) := by
  have hdec := c.decoded
  have hdata : toULong c.packet.data < 65536 <-> 0 ≤ c.packet.data := by
    have hlo := hdec.data_ge
    have hhi := hdec.data_le
    unfold toULong wordModulus
    omega
  have hid := hdec.object_nonneg
  simp only [Writable, hdata, PING, TRIAL, STREAM, NOBJECTS]
  omega

theorem storeTrial_serialOut (sequence : List Int) (index id : Int)
    (g : Globals) :
    (g.storeTrial sequence index id).serialOut = g.serialOut := by
  unfold Globals.storeTrial
  split <;> rfl

theorem storeTrial_eq_self_iff {g : Globals} {sequence : List Int}
    (hseq : g.trialSequence = some sequence) (trialNumber id : Int) :
    g.storeTrial sequence (trialNumber - 1) id = g <->
      (1 ≤ trialNumber ∧ trialNumber ≤ sequence.length) ∧
        sequence.set (trialNumber - 1).toNat id = sequence := by
  by_cases hrange : 1 ≤ trialNumber ∧ trialNumber ≤ sequence.length
  · rw [storeTrial_of_inRange hrange]
    constructor
    · intro h
      have hset := congrArg Globals.trialSequence h
      rw [hseq] at hset
      exact ⟨hrange, Option.some.inj hset⟩
    · intro h
      rw [h.right, ← hseq]
  · rw [storeTrial_of_outside hrange]
    constructor
    · intro h
      have houtside := congrArg (fun g => g.outside.length) h
      simp at houtside
    · intro h
      exact absurd h.left hrange

theorem trial_atomic_iff {c : Command} (h : c.packet.commandNumber = TRIAL)
    (g : Globals) :
    ((trial c.packet.objectID c.packet.data g).2.serialOut = g.serialOut ->
      (trial c.packet.objectID c.packet.data g).2 = g) <->
      ¬ UnansweredTrial c.packet g := by
  unfold trial
  cases hseq : g.trialSequence with
  | none =>
      simp [UnansweredTrial, hseq]
  | some sequence =>
      have hline := storeTrial_serialOut sequence (c.packet.data - 1)
        c.packet.objectID g
      have hself := storeTrial_eq_self_iff hseq c.packet.data c.packet.objectID
      dsimp only
      generalize g.storeTrial sequence (c.packet.data - 1) c.packet.objectID = g'
        at hline hself
      by_cases hrefused : NOBJECTS < c.packet.objectID ∨ c.packet.data < 0
      · -- The writer refuses, so the store alone decides.
        have hnot : ¬ Writable TRIAL c.packet.objectID c.packet.data :=
          fun hw => writable_trial_iff.mp hw hrefused
        have hwrite : (g'.writePacket TRIAL c.packet.objectID
            c.packet.data).2 = g' := by
          rw [Globals.writePacket_snd, writePacket_of_not_writable hnot]
        rw [hwrite, hself]
        simp [UnansweredTrial, h, hseq, hrefused, hline, and_assoc]
      · have hwritable := writable_trial_iff.mpr hrefused
        have hanswered : ¬ UnansweredTrial c.packet g := by
          intro hanswer
          rcases hanswer with ⟨_, _, _, hno, _⟩
          exact hrefused hno
        exact iff_of_true (atomic_of_writable hline hwritable) hanswered

/-- A command that gets no reply has had no effect, unless it is an unanswered
TRIAL. -/
theorem atomic_iff (now : Nat) (c : Command) (g : Globals) :
    Atomic now c.packet g <-> ¬ UnansweredTrial c.packet g := by
  by_cases ht : c.packet.commandNumber = TRIAL
  · rw [Atomic, doCommand_trial ht]
    exact trial_atomic_iff ht g
  · have hnot : ¬ UnansweredTrial c.packet g := fun h => ht h.left
    have hle := c.decoded.data_le
    simp only [hnot, not_false_eq_true, iff_true]
    unfold Atomic
    apply doCommand_elim (motive := fun result =>
      result.2.serialOut = g.serialOut -> result.2 = g)
    case hping =>
      exact fun _ => atomic_of_writable rfl (by decide)
    case hnTrials =>
      intro _
      unfold nTrials
      by_cases hpos : 0 < c.packet.data
      · rw [if_pos hpos]
        exact atomic_of_writable (g := g) rfl
          (writable_parameter (by decide) (by decide) (le_of_lt hpos) hle)
      · simp [hpos]
    case htrial => exact fun h => absurd h ht
    case hseparation =>
      exact fun _ => setParameter_atomic rfl (by decide) (by decide) hle
    case htimeout =>
      exact fun _ => setParameter_atomic rfl (by decide) (by decide) hle
    case hsampleRate =>
      exact fun _ => setParameter_atomic rfl (by decide) (by decide) hle
    case hstream =>
      intro _
      unfold stream
      by_cases h0 : c.packet.data = 0
      · simp only [if_pos h0]
        exact atomic_of_writable rfl (by decide)
      by_cases h1 : c.packet.data = 1
      · simp only [if_neg h0, if_pos h1]
        exact atomic_of_writable rfl (by decide)
      · simp [h0, h1]
    case hother => exact fun _ _ _ _ _ _ _ _ => rfl

/-- After an NTRIALS of one trial, a TRIAL that gives it object 12 is stored and
gets no reply. -/
theorem not_atomic_trial_object_12 :
    ¬ Atomic 0 ⟨TRIAL, 12, 1⟩
      (doCommands [(0, ⟨NTRIALS, 0, 1⟩)] Globals.boot) := by
  intro h
  have hsilent : (doCommand 0 ⟨TRIAL, 12, 1⟩
      (doCommands [(0, ⟨NTRIALS, 0, 1⟩)] Globals.boot)).2.serialOut =
      (doCommands [(0, ⟨NTRIALS, 0, 1⟩)] Globals.boot).serialOut := by
    decide +kernel
  have hentry := congrArg Globals.trialSequence (h hsilent)
  revert hentry
  decide +kernel

end Receiver
end BoxTrials
