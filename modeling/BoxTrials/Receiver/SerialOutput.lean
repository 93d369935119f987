import BoxTrials.Receiver.CommandReplies
import BoxTrials.Receiver.SerialLine

/-!
# What the receiver writes

The bytes on the way to the computer are packets one behind the other.  Each of
them answers a command, or it is a sample of an experiment that is on.
-/

namespace BoxTrials
namespace Receiver

open Foundation
open Libraries.ArduinoTimer

/-!
# The grammar
-/

/-- STX, a digit for the command, one for the object, four for the data, ETX. -/
def WellFormedFrame (bytes : List UInt8) : Prop :=
  exists c i d3 d2 d1 d0 : Nat, c ≤ 9 ∧ i ≤ 11 ∧
    d3 < 16 ∧ d2 < 16 ∧ d1 < 16 ∧ d0 < 16 ∧
    bytes = [STX, hexDigit c, hexDigit i, hexDigit d3, hexDigit d2,
      hexDigit d1, hexDigit d0, ETX]

def Streaming (packets : List Packet) : Prop :=
  exists before p after, packets = before ++ p :: after ∧ IsStart p ∧
    forall x, x ∈ after -> ¬ IsStop x

/-- The frames that are written in the course of a trace. -/
inductive Transcript : List Event -> List (List UInt8) -> Prop where
  | empty : Transcript [] []
  | silent {trace : List Event} {frames : List (List UInt8)} {e : Event}
      (h : Transcript trace frames)
      (he : forall object trial, e ≠ .sampled object trial) :
      Transcript (trace ++ [e]) frames
  /-- The one reply to a command, with its number. -/
  | reply {trace : List Event} {frames : List (List UInt8)} {p : Packet}
      {id data : Int} (h : Transcript trace frames)
      (hwritable : Writable p.commandNumber id data) :
      Transcript (trace ++ [.received p])
        (frames ++ [frame p.commandNumber id data])
  /-- A sample of a trial, while an experiment is on. -/
  | sample {trace : List Event} {frames : List (List UInt8)}
      {object trial : Int} (h : Transcript trace frames)
      (hstreaming : Streaming (trace.filterMap Event.packet?))
      (htrial : 1 ≤ trial) (hwritable : Writable STREAM object trial) :
      Transcript (trace ++ [.sampled object trial])
        (frames ++ [frame STREAM object trial])

theorem wellFormed_frame {c i d : Int} (h : Writable c i d) :
    WellFormedFrame (frame c i d) := by
  simp only [Writable, PING, STREAM, NOBJECTS] at h
  rcases h with ⟨hc0, hc9, hi0, hi11, _⟩
  have hdigit : forall n : Nat, n % 16 < 16 := fun n => Nat.mod_lt n (by decide)
  exact ⟨c.toNat, i.toNat, toULong d / 4096 % 16, toULong d / 256 % 16,
    toULong d / 16 % 16, toULong d % 16, by omega, by omega, hdigit _, hdigit _,
    hdigit _, hdigit _, rfl⟩

theorem transcript_wellFormed {trace : List Event} {frames : List (List UInt8)}
    (h : Transcript trace frames) :
    forall f, f ∈ frames -> WellFormedFrame f := by
  induction h with
  | empty =>
      intro f hf
      cases hf
  | silent _ _ ih => exact ih
  | reply _ hwritable ih =>
      intro f hf
      rcases List.mem_append.mp hf with hold | hnew
      · exact ih f hold
      · rw [List.mem_singleton.mp hnew]
        exact wellFormed_frame hwritable
  | sample _ _ _ hwritable ih =>
      intro f hf
      rcases List.mem_append.mp hf with hold | hnew
      · exact ih f hold
      · rw [List.mem_singleton.mp hnew]
        exact wellFormed_frame hwritable

theorem streaming_of_lastValue {packets : List Packet}
    (h : lastValue streamMode packets = some MODE_STREAM) :
    Streaming packets := by
  rcases Option.map_eq_some_iff.mp h with ⟨found, hfound, hmode⟩
  rcases found with ⟨mode, later⟩
  simp only at hmode
  subst hmode
  rcases lastMatch_eq_some hfound with ⟨before, p, hsplit, hp, hlater⟩
  refine ⟨before, p, later, hsplit, ?_, ?_⟩
  · unfold streamMode at hp
    split at hp
    · cases hp
    · split at hp
      · rename_i hstart
        exact hstart
      · cases hp
  · intro x hx hstop
    have hnone := hlater x hx
    have hzero : x.commandNumber = STREAM ∧ x.data = 0 := hstop
    rw [streamMode, if_pos hzero] at hnone
    cases hnone

/-!
# The invariant
-/

def Printed (d : Device) : Prop :=
  exists frames, d.globals.serialOut = frames.flatten ∧
    Transcript d.trace frames

theorem printed_same {d d' : Device} (h : Printed d)
    (hline : d'.globals.serialOut = d.globals.serialOut)
    (htrace : d'.trace = d.trace) : Printed d' := by
  rcases h with ⟨frames, hout, htranscript⟩
  exact ⟨frames, hline.trans hout, by rw [htrace]; exact htranscript⟩

theorem printed_silent {d d' : Device} {e : Event} (h : Printed d)
    (hline : d'.globals.serialOut = d.globals.serialOut)
    (htrace : d'.trace = d.trace ++ [e])
    (he : forall object trial, e ≠ .sampled object trial) : Printed d' := by
  rcases h with ⟨frames, hout, htranscript⟩
  refine ⟨frames, hline.trans hout, ?_⟩
  rw [htrace]
  exact htranscript.silent he

theorem printed_reply {d d' : Device} {p : Packet} {id data : Int}
    (h : Printed d) (hwritable : Writable p.commandNumber id data)
    (hline : d'.globals.serialOut =
      d.globals.serialOut ++ frame p.commandNumber id data)
    (htrace : d'.trace = d.trace ++ [.received p]) : Printed d' := by
  rcases h with ⟨frames, hout, htranscript⟩
  refine ⟨frames ++ [frame p.commandNumber id data], ?_, ?_⟩
  · rw [hline, hout, List.flatten_append, List.flatten_singleton]
  · rw [htrace]
    exact htranscript.reply hwritable

theorem timerEventWriteSTREAM_printed {d : Device} (h : Printed d)
    (hstreaming : d.globals.state = MODE_STREAM -> Streaming d.history) :
    Printed (timerEventWriteSTREAM d).2 := by
  unfold timerEventWriteSTREAM
  split
  · exact h
  · rename_i hvalid
    rcases not_or.mp hvalid with ⟨htrial, hstate⟩
    by_cases hwritable :
        Writable STREAM d.globals.currentObject d.globals.currentTrial
    · simp only [Globals.writePacket, writePacket_of_writable hwritable,
        Device.emit, if_true]
      rcases h with ⟨frames, hout, htranscript⟩
      refine ⟨frames ++ [frame STREAM d.globals.currentObject
        d.globals.currentTrial], ?_, ?_⟩
      · simp only
        rw [hout, List.flatten_append, List.flatten_singleton]
      · exact htranscript.sample (hstreaming (not_not.mp hstate))
          (Int.not_lt.mp htrial) hwritable
    · simp only [Globals.writePacket, writePacket_of_not_writable hwritable]
      exact h

theorem tick_printed (w : World) {d : Device} (h : Printed d)
    (hstreaming : d.globals.state = MODE_STREAM -> Streaming d.history) :
    Printed (tick w d) := by
  have hrel := tickSlots_rel (millis w) callHandler
    (fun a b => Ticked a b ∧ (Printed a ->
      (a.globals.state = MODE_STREAM -> Streaming a.history) -> Printed b))
    (fun a => ⟨ticked_refl a, fun hprinted _ => hprinted⟩)
    (by
      intro a b c hab hbc
      refine ⟨ticked_trans hab.left hbc.left, ?_⟩
      intro hprinted hmode
      apply hbc.right (hab.right hprinted hmode)
      intro hstate
      rw [ticked_history hab.left]
      apply hmode
      rw [hab.left.globals] at hstate
      exact hstate)
    (fun a => ⟨millis_ticked w a, fun hprinted _ => hprinted⟩)
    (by
      intro handler a
      refine ⟨callHandler_ticked handler a, ?_⟩
      intro hprinted hmode
      cases handler
      exact timerEventWriteSTREAM_printed hprinted hmode)
    d.globals.timer.slots d
  exact printed_same (hrel.right h hstreaming) rfl rfl

theorem receive_printed {w : World} {c : Command} {d : Device}
    (h : Printed d) : Printed (receive w c d) := by
  have hanswered := doCommand_answered (w.time d.reads % wordModulus) c.packet
    d.globals
  generalize hresult : doCommand (w.time d.reads % wordModulus) c.packet
    d.globals = result at hanswered
  have hglobals : (receive w c d).globals = result.2 := by
    rw [← hresult]
    rfl
  cases hanswered with
  | silent hline =>
      exact printed_silent h (by rw [hglobals]; exact hline) rfl
        (fun _ _ => Event.noConfusion)
  | replied hwritable hline | repliedInBlock hwritable hline =>
      exact printed_reply h hwritable (by rw [hglobals]; exact hline) rfl

theorem move_printed {w : World} {d d' : Device} (hmove : Move w d d')
    (h : Printed d)
    (hstreaming : d.globals.state = MODE_STREAM -> Streaming d.history) :
    Printed d' := by
  cases hmove with
  | receives => exact receive_printed h
  | nothing | rests | loops => exact printed_same h rfl rfl
  | stays => exact h
  | streams => exact printed_same (tick_printed w h hstreaming) rfl rfl
  | tests _ hmove =>
      cases hmove with
      | openingTick | passTick =>
          exact printed_same (tick_printed w h hstreaming) rfl rfl
      | begins | observesTarget | observesOther | clears | finishes =>
          exact printed_silent h rfl rfl (fun _ _ => Event.noConfusion)
      | returns | control | fault => exact printed_same h rfl rfl

theorem Sound.streaming_history {d : Device} (hd : Sound d)
    (hstate : d.globals.state = MODE_STREAM) : Streaming d.history := by
  apply streaming_of_lastValue
  have hmode : (lastValue streamMode d.history).getD NOVALUE = MODE_STREAM :=
    (congrArg Configuration.state hd.configuration).symm.trans hstate
  cases hlast : lastValue streamMode d.history with
  | none =>
      rw [hlast] at hmode
      cases hmode
  | some mode =>
      rw [hlast, Option.getD_some] at hmode
      rw [hmode]

theorem run_printed {w : World} {n : Nat} (h : (run w n).pc ≠ .undefined) :
    Printed (run w n) := by
  induction n with
  | zero =>
      exact ⟨[], rfl, Transcript.empty⟩
  | succ n ih =>
      have hpc : (run w n).pc ≠ .undefined := by
        intro hundefined
        apply h
        rw [run_succ]
        simp only [step, hundefined]
      exact move_printed (run_move w n) (ih hpc)
        (run_sound hpc).streaming_history

/-!
# The output of a run
-/

theorem portRun_defined_iff (w : World) (arrivals : Nat -> List UInt8)
    (n : Nat) : (portRun w arrivals n).device.pc ≠ .undefined <->
      TrialsInRange (portRun w arrivals n).device.history := by
  rcases (portRun_refines w arrivals n).runs with ⟨cmds, m, hrun⟩
  rw [hrun]
  exact run_defined_iff _ m

/-- Whatever arrives and whenever, the output is a list of frames, and each of
them is the reply to a command or a sample while an experiment is on. -/
theorem serialOut_frames {w : World} {arrivals : Nat -> List UInt8} {n : Nat}
    (h : TrialsInRange (portRun w arrivals n).device.history) :
    exists frames,
      (portRun w arrivals n).device.globals.serialOut = frames.flatten ∧
        Transcript (portRun w arrivals n).device.trace frames ∧
        forall f, f ∈ frames -> WellFormedFrame f := by
  have hpc := (portRun_defined_iff w arrivals n).mpr h
  rcases (portRun_refines w arrivals n).runs with ⟨cmds, m, hrun⟩
  rw [hrun] at hpc ⊢
  rcases run_printed hpc with ⟨frames, hout, htranscript⟩
  exact ⟨frames, hout, htranscript, transcript_wellFormed htranscript⟩

def sampledTrial (n : Nat) : Port :=
  portRun
    (World.scripted [] (fun n => n) monotone_id (fun _ _ => false))
    (fun n =>
      if n = 0 then
        frame NTRIALS 0 1 ++ frame TRIAL 1 1 ++ frame SAMPLERATE 0 1000 ++
          frame STREAM 0 1
      else
        [])
    n

/-- Four replies and two samples. -/
theorem serialOut_frames_sampledTrial :
    (sampledTrial 18).device.globals.serialOut.length = 6 * 8 ∧
      exists frames,
        (sampledTrial 18).device.globals.serialOut = frames.flatten ∧
          Transcript (sampledTrial 18).device.trace frames ∧
          forall f, f ∈ frames -> WellFormedFrame f :=
  ⟨by decide +kernel,
    serialOut_frames ((portRun_defined_iff _ _ 18).mp (by decide +kernel))⟩

end Receiver
end BoxTrials
