import BoxTrials.Receiver.Configuration
import BoxTrials.Receiver.PacketRoundTrip

/-!
# Replies to commands

A handler answers a command with at most one packet, which carries the number of
the command.  The status that `DoCommand` returns says whether that happened,
except for the three handlers that bind the result of the write to a variable of
an inner block.
-/

namespace BoxTrials
namespace Receiver

open Foundation

def Replied (p : Packet) (g g' : Globals) : Prop :=
  exists id data, g'.serialOut = g.serialOut ++ frame p.commandNumber id data

/-- The status of a command says whether its reply was written. -/
def Truthful (now : Nat) (p : Packet) (g : Globals) : Prop :=
  (doCommand now p g).1 = true <-> Replied p g (doCommand now p g).2

/-- A parameter that is stored and sent back, while the status stays false. -/
def StatusLost (p : Packet) : Prop :=
  (p.commandNumber = SEPARATION ∨ p.commandNumber = TIMEOUT ∨
    p.commandNumber = SAMPLERATE) ∧ 0 < p.data ∧ toULong p.data < 65536

inductive Answered (p : Packet) (g : Globals) : Bool × Globals -> Prop where
  | silent {g' : Globals} (hline : g'.serialOut = g.serialOut)
      (hkept : ¬ StatusLost p) : Answered p g (false, g')
  | replied {g' : Globals} {id data : Int}
      (hwritable : Writable p.commandNumber id data)
      (hline : g'.serialOut = g.serialOut ++ frame p.commandNumber id data)
      (hkept : ¬ StatusLost p) : Answered p g (true, g')
  | repliedInBlock {g' : Globals} {id data : Int}
      (hwritable : Writable p.commandNumber id data)
      (hline : g'.serialOut = g.serialOut ++ frame p.commandNumber id data)
      (hlost : StatusLost p) : Answered p g (false, g')

theorem not_statusLost_of_ne {p : Packet} (h6 : p.commandNumber ≠ SEPARATION)
    (h7 : p.commandNumber ≠ TIMEOUT) (h8 : p.commandNumber ≠ SAMPLERATE) :
    ¬ StatusLost p := by
  intro h
  rcases h.left with h | h | h
  · exact h6 h
  · exact h7 h
  · exact h8 h

theorem writePacket_answered {p : Packet} {g g' : Globals} {kind : Int}
    (hkind : p.commandNumber = kind) (hline : g'.serialOut = g.serialOut)
    (hkept : ¬ StatusLost p) (id data : Int) :
    Answered p g (g'.writePacket kind id data) := by
  subst hkind
  by_cases h : Writable p.commandNumber id data
  · have hwrite : g'.writePacket p.commandNumber id data =
        (true, { g' with
          serialOut := g'.serialOut ++ frame p.commandNumber id data }) := by
      simp only [Globals.writePacket, writePacket_of_writable h]
    rw [hwrite]
    exact Answered.replied h (by rw [hline]) hkept
  · have hwrite : g'.writePacket p.commandNumber id data = (false, g') := by
      simp only [Globals.writePacket, writePacket_of_not_writable h]
    rw [hwrite]
    exact Answered.silent hline hkept

theorem setParameter_answered {p : Packet} {g : Globals} {kind : Int}
    {store : Int -> Globals -> Globals} (hkind : p.commandNumber = kind)
    (hparameter : kind = SEPARATION ∨ kind = TIMEOUT ∨ kind = SAMPLERATE)
    (hline : (store p.data g).serialOut = g.serialOut) :
    Answered p g (setParameter kind store p.data g) := by
  subst hkind
  have hlost : StatusLost p <-> 0 < p.data ∧ toULong p.data < 65536 :=
    and_iff_right hparameter
  have hnumber : PING ≤ p.commandNumber ∧ p.commandNumber ≤ STREAM := by
    rcases hparameter with h | h | h <;> rw [h] <;> decide
  unfold setParameter
  by_cases hpos : 0 < p.data
  · simp only [gt_iff_lt, hpos, if_true, Globals.writePacket]
    by_cases hdata : toULong p.data < 65536
    · have hwritable : Writable p.commandNumber 0 p.data :=
        ⟨hnumber.left, hnumber.right, by decide, by decide, hdata⟩
      rw [writePacket_of_writable hwritable]
      exact Answered.repliedInBlock hwritable (by rw [hline])
        (hlost.mpr ⟨hpos, hdata⟩)
    · rw [writePacket_of_not_writable fun h => hdata h.right.right.right.right]
      exact Answered.silent hline fun h => hdata (hlost.mp h).right
  · simp only [gt_iff_lt, hpos, if_false]
    exact Answered.silent rfl fun h => hpos (hlost.mp h).left

theorem doCommand_answered (now : Nat) (p : Packet) (g : Globals) :
    Answered p g (doCommand now p g) := by
  have hkept : forall {kind : Int}, p.commandNumber = kind ->
      kind ≠ SEPARATION -> kind ≠ TIMEOUT -> kind ≠ SAMPLERATE ->
        ¬ StatusLost p := by
    intro kind hkind h6 h7 h8
    subst hkind
    exact not_statusLost_of_ne h6 h7 h8
  apply doCommand_elim (motive := Answered p g)
  case hping =>
    intro h
    exact writePacket_answered h rfl
      (hkept h (by decide) (by decide) (by decide)) 0 0
  case hnTrials =>
    intro h
    have hkept := hkept h (by decide) (by decide) (by decide)
    unfold nTrials
    split
    · refine writePacket_answered h ?_ hkept _ _
      rfl
    · exact Answered.silent rfl hkept
  case htrial =>
    intro h
    have hkept := hkept h (by decide) (by decide) (by decide)
    unfold trial
    split
    · exact Answered.silent rfl hkept
    · refine writePacket_answered h ?_ hkept _ _
      unfold Globals.storeTrial
      split <;> rfl
  case hseparation =>
    exact fun h => setParameter_answered h (by decide) rfl
  case htimeout =>
    exact fun h => setParameter_answered h (by decide) rfl
  case hsampleRate =>
    exact fun h => setParameter_answered h (by decide) rfl
  case hstream =>
    intro h
    have hkept := hkept h (by decide) (by decide) (by decide)
    unfold stream
    split
    · refine writePacket_answered h ?_ hkept _ _
      rfl
    · split
      · refine writePacket_answered h ?_ hkept _ _
        rfl
      · exact Answered.silent rfl hkept
  case hother =>
    intro _ _ _ h6 h7 h8 _
    exact Answered.silent rfl (not_statusLost_of_ne h6 h7 h8)

theorem not_replied_of_silent {p : Packet} {g g' : Globals}
    (hline : g'.serialOut = g.serialOut) : ¬ Replied p g g' := by
  intro h
  rcases h with ⟨id, data, happend⟩
  have hlength := congrArg List.length (hline.symm.trans happend)
  rw [List.length_append, frame_length] at hlength
  omega

/-- The status of every command is truthful, except for a parameter that was
stored and sent back. -/
theorem truthful_iff (now : Nat) (p : Packet) (g : Globals) :
    Truthful now p g <-> ¬ StatusLost p := by
  have hanswered := doCommand_answered now p g
  unfold Truthful
  generalize doCommand now p g = result at hanswered
  cases hanswered with
  | silent hline hkept =>
      refine iff_of_true ⟨?_, ?_⟩ hkept
      · intro hstatus
        cases hstatus
      · intro hreplied
        exact absurd hreplied (not_replied_of_silent hline)
  | replied _ hline hkept =>
      exact iff_of_true ⟨fun _ => ⟨_, _, hline⟩, fun _ => rfl⟩ hkept
  | repliedInBlock _ hline hlost =>
      refine iff_of_false ?_ (not_not.mpr hlost)
      intro h
      cases h.mpr ⟨_, _, hline⟩

/-- A timeout of one second is stored and sent back, and the status is false. -/
theorem not_truthful_timeout : ¬ Truthful 0 ⟨TIMEOUT, 0, 1000⟩ Globals.boot := by
  intro h
  have hstatus := h.mpr ⟨0, 1000, by decide +kernel⟩
  revert hstatus
  decide +kernel

end Receiver
end BoxTrials
