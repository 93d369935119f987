import BoxTrials.Foundation.LastMatch
import BoxTrials.Receiver.Commands

/-!
# The configuration after a list of commands

What the commands since boot configure is stated here twice: as the globals
that `DoCommand` leaves, and as a function of the command list that only looks
up last values.  The two agree as long as no TRIAL is numbered outside the
sequence.
-/

namespace BoxTrials
namespace Receiver

open Foundation
open Libraries.ArduinoTimer

/-!
# What the commands say

Every parameter is the data of the last command of its kind that carried a
positive value.  The sequence starts with the last such NTRIALS, and its entries
are the last TRIALs after it.
-/

structure Configuration where
  state : Int
  numberOfTrials : Int
  trialSequence : Option (List Int)
  separationMs : Int
  timeoutMs : Int
  sampleRateHz : Int
  deriving DecidableEq, Repr

def Globals.configuration (g : Globals) : Configuration where
  state := g.state
  numberOfTrials := g.numberOfTrials
  trialSequence := g.trialSequence
  separationMs := g.separationMs
  timeoutMs := g.timeoutMs
  sampleRateHz := g.sampleRateHz

def accepted (kind : Int) (p : Packet) : Option Int :=
  if p.commandNumber = kind ∧ 0 < p.data then
    some p.data
  else
    none

def streamMode (p : Packet) : Option Int :=
  if p.commandNumber = STREAM ∧ p.data = 0 then
    some MODE_INIT
  else if p.commandNumber = STREAM ∧ p.data = 1 then
    some MODE_STREAM
  else
    none

def trialObject (k : Int) (p : Packet) : Option Int :=
  if p.commandNumber = TRIAL ∧ p.data = k then
    some p.objectID
  else
    none

def lastParameter (kind : Int) (cmds : List Packet) : Int :=
  (lastValue (accepted kind) cmds).getD NOVALUE

def lastTrial (k : Int) (cmds : List Packet) : Int :=
  (lastValue (trialObject k) cmds).getD NOVALUE

def sequenceEntries (n : Int) (cmds : List Packet) : List Int :=
  (List.range n.toNat).map fun i : Nat => lastTrial ((i : Int) + 1) cmds

/-- The configuration that a list of commands since boot stands for. -/
def configured (cmds : List Packet) : Configuration where
  state := (lastValue streamMode cmds).getD NOVALUE
  numberOfTrials := lastParameter NTRIALS cmds
  trialSequence :=
    (lastMatch (accepted NTRIALS) cmds).map fun found =>
      sequenceEntries found.1 found.2
  separationMs := lastParameter SEPARATION cmds
  timeoutMs := lastParameter TIMEOUT cmds
  sampleRateHz := lastParameter SAMPLERATE cmds

/-- Every TRIAL that arrives after an accepted NTRIALS is numbered within the
sequence. -/
def TrialsInRange (cmds : List Packet) : Prop :=
  forall before p after, cmds = before ++ p :: after ->
    p.commandNumber = TRIAL ->
    forall n, lastValue (accepted NTRIALS) before = some n ->
      1 ≤ p.data ∧ p.data ≤ n

theorem trialsInRange_of_append {cmds more : List Packet}
    (h : TrialsInRange (cmds ++ more)) : TrialsInRange cmds := by
  intro before p after hsplit
  exact h before p (after ++ more) (by rw [hsplit]; simp)

/-!
# One command

`Configuration.apply` is one command on a configuration.  Both descriptions
follow it.
-/

def storeEntry (p : Packet) (sequence : List Int) : List Int :=
  if p.commandNumber = TRIAL then
    sequence.set (p.data - 1).toNat p.objectID
  else
    sequence

def Configuration.apply (p : Packet) (c : Configuration) : Configuration where
  state := (streamMode p).getD c.state
  numberOfTrials := (accepted NTRIALS p).getD c.numberOfTrials
  trialSequence :=
    match accepted NTRIALS p with
    | some n => some (List.replicate n.toNat NOVALUE)
    | none => c.trialSequence.map (storeEntry p)
  separationMs := (accepted SEPARATION p).getD c.separationMs
  timeoutMs := (accepted TIMEOUT p).getD c.timeoutMs
  sampleRateHz := (accepted SAMPLERATE p).getD c.sampleRateHz

theorem accepted_of_ne {kind : Int} {p : Packet} (h : p.commandNumber ≠ kind) :
    accepted kind p = none :=
  if_neg fun hp => h hp.left

theorem accepted_eq_some_iff {kind n : Int} {p : Packet} :
    accepted kind p = some n <->
      (p.commandNumber = kind ∧ 0 < p.data) ∧ p.data = n := by
  rw [accepted, Option.ite_none_right_eq_some, Option.some.injEq]

theorem accepted_pos {kind n : Int} {p : Packet} (h : accepted kind p = some n) :
    0 < n := by
  rcases accepted_eq_some_iff.mp h with ⟨⟨_, hpos⟩, rfl⟩
  exact hpos

theorem trialObject_eq_some_iff {k object : Int} {p : Packet} :
    trialObject k p = some object <->
      (p.commandNumber = TRIAL ∧ p.data = k) ∧ p.objectID = object := by
  rw [trialObject, Option.ite_none_right_eq_some, Option.some.injEq]

theorem lastParameter_cases (kind : Int) (cmds : List Packet) :
    lastParameter kind cmds = NOVALUE ∨ 0 < lastParameter kind cmds := by
  unfold lastParameter
  cases hlast : lastValue (accepted kind) cmds with
  | none =>
      exact Or.inl rfl
  | some value =>
      rcases lastValue_eq_some hlast with ⟨p, _, hvalue⟩
      exact Or.inr (accepted_pos hvalue)

theorem streamMode_of_ne {p : Packet} (h : p.commandNumber ≠ STREAM) :
    streamMode p = none := by
  rw [streamMode, if_neg fun hp => h hp.left, if_neg fun hp => h hp.left]

theorem getD_lastValue_snoc (f : Packet -> Option Int) (cmds : List Packet)
    (p : Packet) (default : Int) :
    (lastValue f (cmds ++ [p])).getD default =
      (f p).getD ((lastValue f cmds).getD default) := by
  rw [lastValue_snoc]
  cases f p <;> rfl

theorem sequenceEntries_nil (n : Int) :
    sequenceEntries n [] = List.replicate n.toNat NOVALUE := by
  simp [sequenceEntries, lastTrial, List.map_const']

@[simp] theorem sequenceEntries_length (n : Int) (cmds : List Packet) :
    (sequenceEntries n cmds).length = n.toNat := by
  simp [sequenceEntries]

theorem sequenceEntries_getElem {n : Int} {cmds : List Packet} {i : Nat}
    (h : i < (sequenceEntries n cmds).length) :
    (sequenceEntries n cmds)[i] = lastTrial ((i : Int) + 1) cmds := by
  simp [sequenceEntries]

theorem lastTrial_snoc (k : Int) (cmds : List Packet) (p : Packet) :
    lastTrial k (cmds ++ [p]) = (trialObject k p).getD (lastTrial k cmds) :=
  getD_lastValue_snoc (trialObject k) cmds p NOVALUE

theorem sequenceEntries_snoc {n : Int} {p : Packet}
    (hrange : p.commandNumber = TRIAL -> 1 ≤ p.data ∧ p.data ≤ n)
    (cmds : List Packet) :
    sequenceEntries n (cmds ++ [p]) = storeEntry p (sequenceEntries n cmds) := by
  apply List.ext_getElem
  · unfold storeEntry
    split <;> simp
  · intro i hi hstored
    rw [sequenceEntries_getElem, lastTrial_snoc, trialObject]
    unfold storeEntry at hstored ⊢
    by_cases hp : p.commandNumber = TRIAL
    · have hdata := hrange hp
      simp only [if_pos hp]
      rw [List.getElem_set, sequenceEntries_getElem]
      by_cases hk : p.data = (i : Int) + 1
      · rw [if_pos ⟨hp, hk⟩, if_pos (by omega)]
        rfl
      · rw [if_neg (fun h => hk h.right), if_neg (by omega)]
        rfl
    · simp only [if_neg hp]
      rw [if_neg (fun h => hp h.left), sequenceEntries_getElem]
      rfl

theorem configured_snoc {cmds : List Packet} {p : Packet}
    (hrange : p.commandNumber = TRIAL ->
      forall n, lastValue (accepted NTRIALS) cmds = some n ->
        1 ≤ p.data ∧ p.data ≤ n) :
    configured (cmds ++ [p]) = (configured cmds).apply p := by
  have hsequence : (configured (cmds ++ [p])).trialSequence =
      ((configured cmds).apply p).trialSequence := by
    simp only [configured, Configuration.apply]
    cases hp : accepted NTRIALS p with
    | some n =>
        rw [lastMatch_snoc_of_some cmds hp]
        simp [sequenceEntries_nil]
    | none =>
        rw [lastMatch_snoc_of_none cmds hp]
        cases hfound : lastMatch (accepted NTRIALS) cmds with
        | none =>
            rfl
        | some found =>
            have hlast : lastValue (accepted NTRIALS) cmds = some found.1 := by
              rw [lastValue, hfound]
              rfl
            simp [sequenceEntries_snoc (fun ht => hrange ht found.1 hlast)]
  rw [Configuration.mk.injEq]
  refine ⟨?_, ?_, hsequence, ?_, ?_, ?_⟩
  all_goals
    exact getD_lastValue_snoc _ cmds p NOVALUE

theorem trialsInRange_nil : TrialsInRange [] := by
  intro before p after hsplit
  simp at hsplit

theorem trialsInRange_snoc {cmds : List Packet} {p : Packet} :
    TrialsInRange (cmds ++ [p]) <->
      TrialsInRange cmds ∧
        (p.commandNumber = TRIAL ->
          forall n, lastValue (accepted NTRIALS) cmds = some n ->
            1 ≤ p.data ∧ p.data ≤ n) := by
  constructor
  · intro h
    exact ⟨trialsInRange_of_append h, h cmds p [] rfl⟩
  · intro hboth before q after hsplit
    rcases hboth with ⟨hcmds, hp⟩
    rcases List.eq_nil_or_concat after with rfl | ⟨front, last, rfl⟩
    · have hboth := List.append_inj' hsplit rfl
      have hq : p = q := by simpa using hboth.right
      rw [← hboth.left, ← hq]
      exact hp
    · have hboth : cmds ++ [p] = (before ++ q :: front) ++ [last] := by
        rw [hsplit]
        simp
      exact hcmds before q front (List.append_inj' hboth rfl).left

/-!
# The handlers

`DoCommand` follows `Configuration.apply` too, whatever else it does.
-/

theorem storeEntry_of_ne {p : Packet} (h : p.commandNumber ≠ TRIAL) :
    storeEntry p = id := by
  funext sequence
  exact if_neg h

theorem nTrials_configuration {p : Packet} (h : p.commandNumber = NTRIALS)
    (g : Globals) :
    (nTrials p.data g).2.configuration = g.configuration.apply p := by
  have hstore := storeEntry_of_ne (p := p) (by rw [h]; decide)
  by_cases hpos : 0 < p.data
  · simp [nTrials, Globals.writePacket_snd, Globals.configuration,
      Configuration.apply, accepted, streamMode, h, hpos]
  · simp [nTrials, Globals.configuration, Configuration.apply, accepted,
      streamMode, h, hstore, hpos]

theorem trial_configuration {p : Packet} (h : p.commandNumber = TRIAL)
    {g : Globals}
    (hrange : forall sequence, g.trialSequence = some sequence ->
      1 ≤ p.data ∧ p.data ≤ sequence.length) :
    (trial p.objectID p.data g).2.configuration = g.configuration.apply p := by
  cases hseq : g.trialSequence with
  | none =>
      simp [trial, Globals.configuration, Configuration.apply, accepted,
        streamMode, h, hseq]
  | some sequence =>
      have hstore := storeTrial_of_inRange (hrange sequence hseq) p.objectID g
      simp [trial, Globals.writePacket_snd, Globals.configuration,
        Configuration.apply, accepted, streamMode, storeEntry, h, hseq, hstore]

theorem separation_configuration {p : Packet}
    (h : p.commandNumber = SEPARATION) (g : Globals) :
    (separation p.data g).2.configuration = g.configuration.apply p := by
  have hstore := storeEntry_of_ne (p := p) (by rw [h]; decide)
  by_cases hpos : 0 < p.data <;>
    simp [separation, setParameter, Globals.writePacket_snd,
      Globals.configuration, Configuration.apply, accepted, streamMode, h,
      hstore, hpos]

theorem timeout_configuration {p : Packet}
    (h : p.commandNumber = TIMEOUT) (g : Globals) :
    (timeout p.data g).2.configuration = g.configuration.apply p := by
  have hstore := storeEntry_of_ne (p := p) (by rw [h]; decide)
  by_cases hpos : 0 < p.data <;>
    simp [timeout, setParameter, Globals.writePacket_snd,
      Globals.configuration, Configuration.apply, accepted, streamMode, h,
      hstore, hpos]

theorem sampleRate_configuration {p : Packet}
    (h : p.commandNumber = SAMPLERATE) (g : Globals) :
    (sampleRate p.data g).2.configuration = g.configuration.apply p := by
  have hstore := storeEntry_of_ne (p := p) (by rw [h]; decide)
  by_cases hpos : 0 < p.data <;>
    simp [sampleRate, setParameter, Globals.writePacket_snd,
      Globals.configuration, Configuration.apply, accepted, streamMode, h,
      hstore, hpos]

theorem stream_configuration {p : Packet} (h : p.commandNumber = STREAM)
    (now : Nat) (g : Globals) :
    (stream now p.data g).2.configuration = g.configuration.apply p := by
  have hstore := storeEntry_of_ne (p := p) (by rw [h]; decide)
  by_cases h0 : p.data = 0
  · simp [stream, Globals.writePacket_snd, Globals.configuration,
      Configuration.apply, accepted, streamMode, h, hstore, h0]
  by_cases h1 : p.data = 1
  · simp [stream, Globals.writePacket_snd, Globals.configuration,
      Configuration.apply, accepted, streamMode, h, hstore, h1]
  · simp [stream, Globals.configuration, Configuration.apply, accepted,
      streamMode, h, hstore, h0, h1]

theorem doCommand_configuration {p : Packet} {g : Globals}
    (hrange : p.commandNumber = TRIAL ->
      forall sequence, g.trialSequence = some sequence ->
        1 ≤ p.data ∧ p.data ≤ sequence.length) (now : Nat) :
    (doCommand now p g).2.configuration = g.configuration.apply p := by
  have hunchanged : p.commandNumber ≠ NTRIALS -> p.commandNumber ≠ TRIAL ->
      p.commandNumber ≠ SEPARATION -> p.commandNumber ≠ TIMEOUT ->
      p.commandNumber ≠ SAMPLERATE -> p.commandNumber ≠ STREAM ->
      g.configuration.apply p = g.configuration := by
    intro h4 h5 h6 h7 h8 h9
    simp [Configuration.apply, accepted_of_ne h4, accepted_of_ne h6,
      accepted_of_ne h7, accepted_of_ne h8, streamMode_of_ne h9,
      storeEntry_of_ne h5]
  apply doCommand_elim (motive := fun result =>
    result.2.configuration = g.configuration.apply p)
  case hping =>
    intro h
    rw [hunchanged] <;> first | (rw [h]; decide) | rfl
  case hnTrials => exact fun h => nTrials_configuration h g
  case htrial => exact fun h => trial_configuration h (hrange h)
  case hseparation => exact fun h => separation_configuration h g
  case htimeout => exact fun h => timeout_configuration h g
  case hsampleRate => exact fun h => sampleRate_configuration h g
  case hstream => exact fun h => stream_configuration h now g
  case hother =>
    intro _ h4 h5 h6 h7 h8 h9
    exact (hunchanged h4 h5 h6 h7 h8 h9).symm

/-!
# Lists of commands
-/

/-- `DoCommand` on a list of commands, each with the time it is done. -/
def doCommands : List (Nat × Packet) -> Globals -> Globals
  | [], g => g
  | (now, p) :: rest, g => doCommands rest (doCommand now p g).2

theorem doCommands_snoc (cmds : List (Nat × Packet)) (now : Nat) (p : Packet)
    (g : Globals) :
    doCommands (cmds ++ [(now, p)]) g =
      (doCommand now p (doCommands cmds g)).2 := by
  induction cmds generalizing g with
  | nil =>
      rfl
  | cons entry rest ih =>
      exact ih (doCommand entry.1 entry.2 g).2

theorem configured_nil : configured [] = Globals.boot.configuration := rfl

theorem configured_sequence_length {cmds : List Packet} {sequence : List Int}
    (h : (configured cmds).trialSequence = some sequence) :
    exists n, lastValue (accepted NTRIALS) cmds = some n ∧
      (sequence.length : Int) = n ∧ 0 < n := by
  simp only [configured, Option.map_eq_some_iff] at h
  rcases h with ⟨found, hfound, rfl⟩
  have hlast : lastValue (accepted NTRIALS) cmds = some found.1 := by
    rw [lastValue, hfound]
    rfl
  have hpos : 0 < found.1 := by
    rcases @lastMatch_eq_some _ _ _ cmds found.2 found.1 hfound with
      ⟨_, p, _, hvalue, _⟩
    exact accepted_pos hvalue
  exact ⟨found.1, hlast, by rw [sequenceEntries_length]; omega, hpos⟩

theorem sequence_of_lastValue {cmds : List Packet} {g : Globals} {n : Int}
    (hg : g.configuration = configured cmds)
    (hn : lastValue (accepted NTRIALS) cmds = some n) :
    exists sequence, g.trialSequence = some sequence ∧
      (sequence.length : Int) = n := by
  have hsequence : g.trialSequence = (configured cmds).trialSequence :=
    congrArg Configuration.trialSequence hg
  cases hconf : (configured cmds).trialSequence with
  | none =>
      simp only [configured, Option.map_eq_none_iff] at hconf
      rw [lastValue, hconf] at hn
      cases hn
  | some sequence =>
      rcases configured_sequence_length hconf with ⟨m, hm, hlen, _⟩
      rw [hn] at hm
      cases hm
      exact ⟨sequence, by rw [hsequence, hconf], hlen⟩

theorem configured_inRange {cmds : List Packet} {p : Packet} {g : Globals}
    (hg : g.configuration = configured cmds)
    (h : p.commandNumber = TRIAL ->
      forall n, lastValue (accepted NTRIALS) cmds = some n ->
        1 ≤ p.data ∧ p.data ≤ n) :
    p.commandNumber = TRIAL ->
      forall sequence, g.trialSequence = some sequence ->
        1 ≤ p.data ∧ p.data ≤ sequence.length := by
  intro hp sequence hsequence
  have hconf : (configured cmds).trialSequence = some sequence := by
    rw [← hg]
    exact hsequence
  rcases configured_sequence_length hconf with ⟨n, hn, hlen, _⟩
  rw [hlen]
  exact h hp n hn

/-- The globals after a list of commands since boot hold exactly what the last
values of the list say. -/
theorem doCommands_configured (cmds : List (Nat × Packet))
    (h : TrialsInRange (cmds.map Prod.snd)) :
    (doCommands cmds Globals.boot).configuration =
        configured (cmds.map Prod.snd) ∧
      ((doCommands cmds Globals.boot).trialSequence = none <->
        forall p, p ∈ cmds.map Prod.snd -> accepted NTRIALS p = none) ∧
      (forall sequence,
        (doCommands cmds Globals.boot).trialSequence = some sequence ->
          (sequence.length : Int) =
            (doCommands cmds Globals.boot).numberOfTrials) := by
  have hconf : (doCommands cmds Globals.boot).configuration =
      configured (cmds.map Prod.snd) := by
    induction cmds using List.reverseRecOn with
    | nil =>
        exact configured_nil.symm
    | append_singleton cmds entry ih =>
        rcases entry with ⟨now, p⟩
        rw [List.map_append, List.map_singleton] at h ⊢
        rcases trialsInRange_snoc.mp h with ⟨hcmds, hp⟩
        have hg := ih hcmds
        rw [doCommands_snoc, configured_snoc hp, ← hg]
        exact doCommand_configuration (configured_inRange hg hp) now
  have hsequence : (doCommands cmds Globals.boot).trialSequence =
      (configured (cmds.map Prod.snd)).trialSequence :=
    congrArg Configuration.trialSequence hconf
  refine ⟨hconf, ?_, ?_⟩
  · rw [hsequence, ← lastMatch_eq_none_iff]
    simp [configured]
  · intro sequence hs
    rw [hsequence] at hs
    rcases configured_sequence_length hs with ⟨n, hn, hlen, _⟩
    have hnumber : (doCommands cmds Globals.boot).numberOfTrials =
        (configured (cmds.map Prod.snd)).numberOfTrials :=
      congrArg Configuration.numberOfTrials hconf
    rw [hnumber, hlen]
    simp [configured, lastParameter, hn]

/-- Two trials are announced, the second is set and the first never is. -/
theorem doCommands_configured_two_trials :
    (doCommands
      [(0, ⟨NTRIALS, 0, 2⟩), (5, ⟨TRIAL, 3, 2⟩), (9, ⟨STREAM, 0, 1⟩)]
      Globals.boot).configuration =
      { state := MODE_STREAM, numberOfTrials := 2,
        trialSequence := some [NOVALUE, 3], separationMs := NOVALUE,
        timeoutMs := NOVALUE, sampleRateHz := NOVALUE } := by
  refine (doCommands_configured
    [(0, ⟨NTRIALS, 0, 2⟩), (5, ⟨TRIAL, 3, 2⟩), (9, ⟨STREAM, 0, 1⟩)]
    ?_).left.trans (by decide)
  show TrialsInRange ((([] ++ [⟨NTRIALS, 0, 2⟩]) ++ [⟨TRIAL, 3, 2⟩]) ++
    [⟨STREAM, 0, 1⟩])
  refine trialsInRange_snoc.mpr ⟨trialsInRange_snoc.mpr
    ⟨trialsInRange_snoc.mpr ⟨trialsInRange_nil, ?_⟩, ?_⟩, ?_⟩
  · intro h
    cases h
  · intro _ n hn
    have h2 : n = 2 := by
      have hlast : lastValue (accepted NTRIALS)
          ([] ++ [(⟨NTRIALS, 0, 2⟩ : Packet)]) = some 2 := by decide
      rw [hlast] at hn
      exact (Option.some.inj hn).symm
    rw [h2]
    decide
  · intro h
    cases h

end Receiver
end BoxTrials
