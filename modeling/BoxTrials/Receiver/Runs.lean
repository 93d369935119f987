import BoxTrials.Receiver.Steps

/-!
# Runs from boot

The invariant of the machine: the globals hold what the commands so far
configure, the trial counter counts within the sequence while `TestSequence`
runs, and no access misses the sequence, unless a TRIAL was numbered outside of
it.
-/

namespace BoxTrials
namespace Receiver

open Foundation
open Libraries.ArduinoTimer

/-!
# Commands and the current trial
-/

structure SameRun (g g' : Globals) : Prop where
  state : g'.state = g.state
  currentTrial : g'.currentTrial = g.currentTrial
  currentObject : g'.currentObject = g.currentObject
  timer : g'.timer = g.timer

theorem storeTrial_sameRun (sequence : List Int) (index id : Int)
    (g : Globals) : SameRun g (g.storeTrial sequence index id) := by
  unfold Globals.storeTrial
  split <;> exact ⟨rfl, rfl, rfl, rfl⟩

theorem setParameter_sameRun {kind value : Int}
    {store : Int -> Globals -> Globals} {g : Globals}
    (h : SameRun g (store value g)) :
    SameRun g (setParameter kind store value g).2 := by
  unfold setParameter
  split
  · exact ⟨h.state, h.currentTrial, h.currentObject, h.timer⟩
  · exact ⟨rfl, rfl, rfl, rfl⟩

theorem doCommand_sameRun {p : Packet} (h : p.commandNumber ≠ STREAM)
    (now : Nat) (g : Globals) : SameRun g (doCommand now p g).2 := by
  apply doCommand_elim (motive := fun result => SameRun g result.2)
  case hping => exact fun _ => ⟨rfl, rfl, rfl, rfl⟩
  case hnTrials =>
    intro _
    unfold nTrials
    split <;> exact ⟨rfl, rfl, rfl, rfl⟩
  case htrial =>
    intro _
    unfold trial
    split
    · exact ⟨rfl, rfl, rfl, rfl⟩
    · rename_i sequence _
      have hstore := storeTrial_sameRun sequence (p.data - 1) p.objectID g
      exact ⟨hstore.state, hstore.currentTrial, hstore.currentObject,
        hstore.timer⟩
  case hseparation => exact fun _ => setParameter_sameRun ⟨rfl, rfl, rfl, rfl⟩
  case htimeout => exact fun _ => setParameter_sameRun ⟨rfl, rfl, rfl, rfl⟩
  case hsampleRate => exact fun _ => setParameter_sameRun ⟨rfl, rfl, rfl, rfl⟩
  case hstream => exact fun hp => absurd hp h
  case hother => exact fun _ _ _ _ _ _ _ => ⟨rfl, rfl, rfl, rfl⟩

def IsStart (p : Packet) : Prop :=
  p.commandNumber = STREAM ∧ p.data = 1

def IsStop (p : Packet) : Prop :=
  p.commandNumber = STREAM ∧ p.data = 0

theorem doCommand_start {p : Packet} (h : IsStart p) (now : Nat)
    (g : Globals) :
    exists out, (doCommand now p g).2 =
      { g with
        state := MODE_STREAM
        currentTrial := 1
        currentObject := 0
        timer := g.timer.every now (sampleInterval g.sampleRateHz)
          Handler.timerEventWriteSTREAM
        serialOut := out } := by
  rw [doCommand_stream h.left, stream, h.right, if_neg (by decide), if_pos rfl]
  exact ⟨_, rfl⟩

theorem doCommand_stop {p : Packet} (h : IsStop p) (now : Nat) (g : Globals) :
    exists out, (doCommand now p g).2 =
      { g with
        state := MODE_INIT
        currentTrial := NOVALUE
        currentObject := NOVALUE
        serialOut := out } := by
  rw [doCommand_stream h.left, stream, h.right, if_pos rfl]
  exact ⟨_, rfl⟩

theorem doCommand_sameRun_of_not {p : Packet} (hstart : ¬ IsStart p)
    (hstop : ¬ IsStop p) (now : Nat) (g : Globals) :
    SameRun g (doCommand now p g).2 := by
  by_cases hp : p.commandNumber = STREAM
  · rw [doCommand_stream hp, stream, if_neg fun h => hstop ⟨hp, h⟩,
      if_neg fun h => hstart ⟨hp, h⟩]
    exact ⟨rfl, rfl, rfl, rfl⟩
  · exact doCommand_sameRun hp now g

theorem doCommand_counting {now : Nat} {p : Packet} {g : Globals}
    (h : g.state = MODE_STREAM -> 1 ≤ g.currentTrial) :
    (doCommand now p g).2.state = MODE_STREAM ->
      1 ≤ (doCommand now p g).2.currentTrial := by
  by_cases hstart : IsStart p
  · rcases doCommand_start hstart now g with ⟨out, heq⟩
    rw [heq]
    intro _
    exact le_refl (1 : Int)
  by_cases hstop : IsStop p
  · rcases doCommand_stop hstop now g with ⟨out, heq⟩
    rw [heq]
    intro hmode
    cases hmode
  · have hsame := doCommand_sameRun_of_not hstart hstop now g
    rw [hsame.state, hsame.currentTrial]
    exact h

/-!
# Stray writes
-/

/-- A TRIAL that is numbered outside of the sequence. -/
def Stray (p : Packet) (g : Globals) : Prop :=
  p.commandNumber = TRIAL ∧
    exists sequence, g.trialSequence = some sequence ∧
      ¬ (1 ≤ p.data ∧ p.data ≤ sequence.length)

theorem doCommand_outside_of_ne {p : Packet} (h : p.commandNumber ≠ TRIAL)
    (now : Nat) (g : Globals) : (doCommand now p g).2.outside = g.outside := by
  have hparameter : forall {kind : Int} {store : Int -> Globals -> Globals},
      (store p.data g).outside = g.outside ->
        (setParameter kind store p.data g).2.outside = g.outside := by
    intro kind store hstore
    unfold setParameter
    split
    · exact hstore
    · rfl
  apply doCommand_elim (motive := fun result => result.2.outside = g.outside)
  case hping => exact fun _ => rfl
  case hnTrials =>
    intro _
    unfold nTrials
    split <;> rfl
  case htrial => exact fun hp => absurd hp h
  case hseparation => exact fun _ => hparameter rfl
  case htimeout => exact fun _ => hparameter rfl
  case hsampleRate => exact fun _ => hparameter rfl
  case hstream =>
    intro _
    unfold stream
    split
    · rfl
    · split <;> rfl
  case hother => exact fun _ _ _ _ _ _ _ => rfl

theorem doCommand_outside_eq_nil_iff {g : Globals} (hg : g.outside = [])
    (now : Nat) (p : Packet) :
    (doCommand now p g).2.outside = [] <-> ¬ Stray p g := by
  by_cases hp : p.commandNumber = TRIAL
  · rw [doCommand_trial hp, trial]
    cases hseq : g.trialSequence with
    | none =>
        simp [Stray, hseq, hg]
    | some sequence =>
        dsimp only
        rw [Globals.writePacket_snd]
        by_cases hrange : 1 ≤ p.data ∧ p.data ≤ sequence.length
        · rw [storeTrial_of_inRange hrange]
          simp [Stray, hseq, hg, hrange]
        · rw [storeTrial_of_outside hrange]
          simp only [Stray, hseq, hp, true_and, Option.some.injEq, hg]
          simp [hrange]
  · rw [doCommand_outside_of_ne hp]
    simp [hg, Stray, hp]

/-!
# The invariant
-/

structure Sound (d : Device) : Prop where
  decoded : forall p, p ∈ d.history -> p.Decoded
  outside : d.globals.outside = []
  inRange : TrialsInRange d.history
  configuration : d.globals.configuration = configured d.history
  counting : d.globals.state = MODE_STREAM -> 1 ≤ d.globals.currentTrial
  streaming : d.pc.inTest = true -> d.globals.state = MODE_STREAM
  bounded : d.pc.inTrial = true ->
    d.globals.currentTrial ≤ d.globals.numberOfTrials

theorem sound_boot : Sound Device.boot where
  decoded := by simp [Device.history, Device.boot]
  outside := rfl
  inRange := trialsInRange_nil
  configuration := rfl
  counting := by decide
  streaming := by decide
  bounded := by decide

theorem Sound.numberOfTrials {d : Device} (hd : Sound d) :
    d.globals.numberOfTrials = lastParameter NTRIALS d.history :=
  congrArg Configuration.numberOfTrials hd.configuration

theorem Sound.trialSequence {d : Device} (hd : Sound d) :
    d.globals.trialSequence = (configured d.history).trialSequence :=
  congrArg Configuration.trialSequence hd.configuration

theorem Sound.timeoutMs {d : Device} (hd : Sound d) :
    d.globals.timeoutMs = lastParameter TIMEOUT d.history :=
  congrArg Configuration.timeoutMs hd.configuration

theorem Sound.sampleRateHz {d : Device} (hd : Sound d) :
    d.globals.sampleRateHz = lastParameter SAMPLERATE d.history :=
  congrArg Configuration.sampleRateHz hd.configuration

theorem Sound.sequence_length {d : Device} (hd : Sound d) {sequence : List Int}
    (h : d.globals.trialSequence = some sequence) :
    (sequence.length : Int) = d.globals.numberOfTrials := by
  rw [hd.trialSequence] at h
  rcases configured_sequence_length h with ⟨n, hlast, hlength, _⟩
  rw [hlength, hd.numberOfTrials, lastParameter, hlast]
  rfl

theorem sound_target {d : Device} (hd : Sound d) (hpc : d.pc.inTrial = true) :
    exists n later, lastMatch (accepted NTRIALS) d.history = some (n, later) ∧
      d.globals.numberOfTrials = n ∧
      1 ≤ d.globals.currentTrial ∧ d.globals.currentTrial ≤ n ∧
      d.globals.target = some (lastTrial d.globals.currentTrial later) := by
  have hcount := hd.counting (hd.streaming (inTest_of_inTrial hpc))
  have hbound := hd.bounded hpc
  have hnumber := hd.numberOfTrials
  have hsequence := hd.trialSequence
  cases hfound : lastMatch (accepted NTRIALS) d.history with
  | none =>
      rw [lastParameter, lastValue, hfound] at hnumber
      simp only [Option.map_none, Option.getD_none, NOVALUE] at hnumber
      omega
  | some found =>
      rcases found with ⟨n, later⟩
      rw [lastParameter, lastValue, hfound] at hnumber
      simp only [Option.map_some, Option.getD_some] at hnumber
      simp only [configured, hfound, Option.map_some] at hsequence
      refine ⟨n, later, rfl, hnumber, hcount, by omega, ?_⟩
      have hindex : (d.globals.currentTrial - 1).toNat <
          (sequenceEntries n later).length := by
        rw [sequenceEntries_length]
        omega
      have hcast : (((d.globals.currentTrial - 1).toNat : Int) + 1) =
          d.globals.currentTrial := by
        omega
      simp only [Globals.target, hsequence]
      rw [if_pos hcount, List.getElem?_eq_getElem hindex,
        sequenceEntries_getElem, hcast]

theorem sound_of_same {d d' : Device} (hd : Sound d)
    (hconfiguration : d'.globals.configuration = d.globals.configuration)
    (houtside : d'.globals.outside = d.globals.outside)
    (hhistory : d'.history = d.history)
    (hcounting : d'.globals.state = MODE_STREAM -> 1 ≤ d'.globals.currentTrial)
    (hstreaming : d'.pc.inTest = true -> d'.globals.state = MODE_STREAM)
    (hbounded : d'.pc.inTrial = true ->
      d'.globals.currentTrial ≤ d'.globals.numberOfTrials) : Sound d' where
  decoded := by
    rw [hhistory]
    exact hd.decoded
  outside := houtside.trans hd.outside
  inRange := by
    rw [hhistory]
    exact hd.inRange
  configuration := by
    rw [hconfiguration, hhistory]
    exact hd.configuration
  counting := hcounting
  streaming := hstreaming
  bounded := hbounded

theorem testMove_sound {w : World} {d d' : Device} (hd : Sound d)
    (hpc : d.pc.inTest = true) (h : TestMove w d d') :
    Sound d' ∧ d'.pc ≠ .undefined := by
  rcases testMove_frame h with ⟨hconfiguration, houtside, hhistory⟩
  have hstate : d'.globals.state = MODE_STREAM :=
    (congrArg Configuration.state hconfiguration).trans (hd.streaming hpc)
  have hnumber : d'.globals.numberOfTrials = d.globals.numberOfTrials :=
    congrArg Configuration.numberOfTrials hconfiguration
  have hcount := hd.counting (hd.streaming hpc)
  have htarget : d.pc.inTrial = true -> d.globals.target ≠ none := by
    intro htrial hnone
    rcases sound_target hd htrial with ⟨n, later, _, _, _, _, hsome⟩
    rw [hnone] at hsome
    cases hsome
  constructor
  · apply sound_of_same hd hconfiguration houtside hhistory
    · intro _
      rcases testMove_counter h with ⟨hsame, _⟩ | ⟨_, _, hnext⟩ <;> omega
    · exact fun _ => hstate
    · intro htrial
      rcases testMove_counter h with ⟨hsame, henter⟩ | ⟨_, hhead, _⟩
      · rcases henter htrial with hin | hle
        · have := hd.bounded hin
          omega
        · omega
      · rw [hhead] at htrial
        cases htrial
  · intro hundefined
    rcases testMove_stays h htarget with hin | hret
    · rw [hundefined] at hin
      cases hin
    · rw [hundefined] at hret
      cases hret

theorem receive_sound {w : World} {c : Command} {d : Device} (hd : Sound d) :
    (Sound (receive w c d) ∧ (receive w c d).pc = .loopStream) ∨
      ((receive w c d).pc = .undefined ∧
        ¬ TrialsInRange (receive w c d).history) := by
  have hhistory := receive_history w c d
  have hstray := doCommand_outside_eq_nil_iff hd.outside
    (w.time d.reads % wordModulus) c.packet
  by_cases h : Stray c.packet d.globals
  · right
    constructor
    · exact if_neg fun hnil => hstray.mp hnil h
    · rw [hhistory]
      intro hall
      rcases h with ⟨hp, sequence, hsequence, hout⟩
      exact hout (configured_inRange hd.configuration
        (trialsInRange_snoc.mp hall).right hp sequence hsequence)
  · left
    have hpc : (receive w c d).pc = .loopStream := if_pos (hstray.mpr h)
    have hrange : c.packet.commandNumber = TRIAL ->
        forall sequence, d.globals.trialSequence = some sequence ->
          1 ≤ c.packet.data ∧ c.packet.data ≤ sequence.length := by
      intro hp sequence hsequence
      by_contra hout
      exact h ⟨hp, sequence, hsequence, hout⟩
    have hlast : c.packet.commandNumber = TRIAL ->
        forall n, lastValue (accepted NTRIALS) d.history = some n ->
          1 ≤ c.packet.data ∧ c.packet.data ≤ n := by
      intro hp n hn
      rcases sequence_of_lastValue hd.configuration hn with
        ⟨sequence, hsequence, hlen⟩
      rw [← hlen]
      exact hrange hp sequence hsequence
    refine ⟨?_, hpc⟩
    constructor
    case decoded =>
      rw [hhistory]
      intro p hp
      rcases List.mem_append.mp hp with hp | hp
      · exact hd.decoded p hp
      · rw [List.mem_singleton.mp hp]
        exact c.decoded
    case outside => exact hstray.mpr h
    case inRange =>
      rw [hhistory]
      exact trialsInRange_snoc.mpr ⟨hd.inRange, hlast⟩
    case configuration =>
      rw [hhistory, configured_snoc hlast, ← hd.configuration]
      exact doCommand_configuration hrange _
    case counting =>
      exact doCommand_counting hd.counting
    case streaming =>
      rw [hpc]
      intro htest
      cases htest
    case bounded =>
      rw [hpc]
      intro htrial
      cases htrial

theorem step_sound (w : World) {d : Device} (hd : Sound d)
    (hpc : d.pc ≠ .undefined) :
    (Sound (step w d) ∧ (step w d).pc ≠ .undefined) ∨
      ((step w d).pc = .undefined ∧ ¬ TrialsInRange (step w d).history) := by
  have hmove := step_move w d
  generalize step w d = d' at hmove
  cases hmove with
  | receives _ _ =>
      rcases receive_sound (w := w) hd with ⟨hsound, hstream⟩ | hstray
      · exact Or.inl ⟨hsound, by rw [hstream]; decide⟩
      · exact Or.inr hstray
  | nothing _ _ =>
      exact Or.inl ⟨sound_of_same hd rfl rfl rfl hd.counting
        (fun h => by cases h) (fun h => by cases h), by simp⟩
  | streams _ hstate =>
      refine Or.inl ⟨sound_of_same hd (tick_configuration w d)
        (tick_outside w d) (tick_history w d) ?_
        (fun _ => (tick_state w d).trans hstate) (fun h => by cases h), by simp⟩
      show (tick w d).globals.state = _ -> 1 ≤ (tick w d).globals.currentTrial
      rw [tick_state, tick_currentTrial]
      exact hd.counting
  | rests _ _ =>
      exact Or.inl ⟨sound_of_same hd rfl rfl rfl hd.counting
        (fun h => by cases h) (fun h => by cases h), by simp⟩
  | tests htest h => exact Or.inl (testMove_sound hd htest h)
  | loops _ =>
      exact Or.inl ⟨sound_of_same hd rfl rfl rfl hd.counting
        (fun h => by cases h) (fun h => by cases h), by simp⟩
  | stays hundefined => exact absurd hundefined hpc

theorem run_status (w : World) (n : Nat) :
    (Sound (run w n) ∧ (run w n).pc ≠ .undefined) ∨
      ((run w n).pc = .undefined ∧ ¬ TrialsInRange (run w n).history) := by
  induction n with
  | zero =>
      exact Or.inl ⟨sound_boot, by simp [run, Device.boot]⟩
  | succ n ih =>
      rw [run_succ]
      rcases ih with ⟨hsound, hpc⟩ | ⟨hpc, hstray⟩
      · exact step_sound w hsound hpc
      · have hstay : step w (run w n) = run w n := by
          simp [step, hpc]
        rw [hstay]
        exact Or.inr ⟨hpc, hstray⟩

theorem run_sound {w : World} {n : Nat} (h : (run w n).pc ≠ .undefined) :
    Sound (run w n) := by
  rcases run_status w n with ⟨hsound, _⟩ | ⟨hpc, _⟩
  · exact hsound
  · exact absurd hpc h

/-- A run stays defined as long as every TRIAL is numbered within the
sequence. -/
theorem run_defined_iff (w : World) (n : Nat) :
    (run w n).pc ≠ .undefined <-> TrialsInRange (run w n).history := by
  rcases run_status w n with ⟨hsound, hpc⟩ | ⟨hpc, hstray⟩
  · exact iff_of_true hpc hsound.inRange
  · exact iff_of_false (fun h => h hpc) hstray

/-!
# Steps of a kind
-/

def Starts (w : World) (d : Device) : Prop :=
  d.pc = .loopTop ∧ exists c, w.command d.reads = some c ∧ IsStart c.packet

def Stops (w : World) (d : Device) : Prop :=
  d.pc = .loopTop ∧ exists c, w.command d.reads = some c ∧ IsStop c.packet

structure LastStart (w : World) (m n : Nat) : Prop where
  starts : Starts w (run w m)
  before : m < n
  last : forall k, m < k -> k < n -> ¬ Starts w (run w k)

theorem step_receive {w : World} {d : Device} {c : Command}
    (hpc : d.pc = .loopTop) (hcommand : w.command d.reads = some c) :
    step w d = receive w c d := by
  simp [step, hpc, hcommand]

theorem quiet_of_pc {w : World} {d : Device} (h : d.pc ≠ .loopTop) :
    ¬ Starts w d ∧ ¬ Stops w d :=
  ⟨fun hstart => h hstart.left, fun hstop => h hstop.left⟩

theorem receive_outsideTest (w : World) (c : Command) (d : Device) :
    (receive w c d).pc.inTest = false := by
  simp only [receive]
  split <;> rfl

theorem receive_pc {w : World} {c : Command} {d : Device}
    (h : (receive w c d).pc ≠ .undefined) :
    (receive w c d).pc = .loopStream := by
  simp only [receive] at h ⊢
  split
  · rfl
  · rename_i hout
    rw [if_neg hout] at h
    exact absurd rfl h

theorem receive_numberOfTrials {w : World} {c : Command} {d : Device}
    (hd : Sound d) (hnext : Sound (receive w c d)) :
    (receive w c d).globals.numberOfTrials =
      (accepted NTRIALS c.packet).getD d.globals.numberOfTrials := by
  rw [hnext.numberOfTrials, hd.numberOfTrials, receive_history]
  exact getD_lastValue_snoc (accepted NTRIALS) d.history c.packet NOVALUE

theorem step_loopStream {w : World} {d : Device} (hpc : d.pc = .loopStream)
    (hstate : d.globals.state = MODE_STREAM) :
    step w d = { tick w d with pc := .trialHead } := by
  simp [step, hpc, hstate]

theorem begins_of_loopStream {w : World} {d : Device} (hpc : d.pc = .loopStream)
    (hstate : d.globals.state = MODE_STREAM)
    (hle : d.globals.currentTrial ≤ d.globals.numberOfTrials) :
    Begins (step w d) ∧
      (step w d).globals.currentTrial = d.globals.currentTrial := by
  rw [step_loopStream hpc hstate]
  refine ⟨⟨rfl, ?_⟩, tick_currentTrial w d⟩
  show (tick w d).globals.currentTrial ≤ (tick w d).globals.numberOfTrials
  rw [tick_currentTrial, tick_numberOfTrials]
  exact hle

theorem starts_pc {w : World} {d : Device} (h : Starts w d)
    (hdefined : (step w d).pc ≠ .undefined) : (step w d).pc = .loopStream := by
  rcases h with ⟨hpc, c, hcommand, _⟩
  rw [step_receive hpc hcommand] at hdefined ⊢
  exact receive_pc hdefined

theorem starts_globals {w : World} {d : Device} (h : Starts w d) :
    exists now out, (step w d).globals =
      { d.globals with
        state := MODE_STREAM
        currentTrial := 1
        currentObject := 0
        timer := d.globals.timer.every now
          (sampleInterval d.globals.sampleRateHz) Handler.timerEventWriteSTREAM
        serialOut := out } := by
  rcases h with ⟨hpc, c, hcommand, hstart⟩
  rcases doCommand_start hstart (w.time d.reads % wordModulus) d.globals with
    ⟨out, heq⟩
  exact ⟨_, out, by rw [step_receive hpc hcommand, receive, heq]⟩

end Receiver
end BoxTrials
