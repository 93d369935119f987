import BoxTrials.Receiver.Runs

/-!
# The configuration at a start

STREAM 1 starts an experiment with whatever the globals hold.  Which commands
make the globals ready for it is stated here on the history of the run.
-/

namespace BoxTrials
namespace Receiver

open Foundation

/-!
# Ready globals
-/

/-- Every parameter of an experiment is set, and the two that are converted to
`unsigned long` keep their values. -/
structure Ready (g : Globals) : Prop where
  numberOfTrials : 1 ≤ g.numberOfTrials
  trialSequence : exists sequence, g.trialSequence = some sequence ∧
    (sequence.length : Int) = g.numberOfTrials ∧
    forall b, b ∈ sequence -> b ≠ NOVALUE
  timeout : 0 < g.timeoutMs
  sampleRate : 0 < g.sampleRateHz
  waitLimit : (toULong g.timeoutMs : Int) = g.timeoutMs
  interval : (sampleInterval g.sampleRateHz : Int) = 1000 / g.sampleRateHz

def Provided (kind : Int) (cmds : List Packet) : Prop :=
  exists p, p ∈ cmds ∧ p.commandNumber = kind ∧ 0 < p.data

/-- The commands announce a number of trials and then give every trial an
object, and they provide a timeout and a sample rate. -/
structure Complete (cmds : List Packet) : Prop where
  trials : exists n later, lastMatch (accepted NTRIALS) cmds = some (n, later) ∧
    forall k, 1 ≤ k -> k ≤ n ->
      exists p, p ∈ later ∧ p.commandNumber = TRIAL ∧ p.data = k
  timeout : Provided TIMEOUT cmds
  sampleRate : Provided SAMPLERATE cmds

/-!
# Commands and globals
-/

theorem lastParameter_pos_iff (kind : Int) (cmds : List Packet) :
    0 < lastParameter kind cmds <-> Provided kind cmds := by
  unfold lastParameter
  cases hlast : lastValue (accepted kind) cmds with
  | none =>
      have hall := lastValue_eq_none_iff.mp hlast
      refine iff_of_false (by decide) ?_
      intro hprovided
      rcases hprovided with ⟨p, hp, hkind, hpos⟩
      have hsome := accepted_eq_some_iff.mpr ⟨⟨hkind, hpos⟩, rfl⟩
      rw [hall p hp] at hsome
      cases hsome
  | some value =>
      rcases lastValue_eq_some hlast with ⟨p, hp, hvalue⟩
      exact iff_of_true (accepted_pos hvalue)
        ⟨p, hp, (accepted_eq_some_iff.mp hvalue).left⟩

theorem lastParameter_le {kind : Int} {cmds : List Packet}
    (hdecoded : forall p, p ∈ cmds -> p.Decoded) :
    lastParameter kind cmds ≤ 65535 := by
  unfold lastParameter
  cases hlast : lastValue (accepted kind) cmds with
  | none =>
      decide
  | some value =>
      rcases lastValue_eq_some hlast with ⟨p, hp, hvalue⟩
      rcases accepted_eq_some_iff.mp hvalue with ⟨_, rfl⟩
      exact (hdecoded p hp).data_le

theorem lastTrial_ne_noValue_iff {k : Int} {cmds : List Packet}
    (hdecoded : forall p, p ∈ cmds -> p.Decoded) :
    lastTrial k cmds ≠ NOVALUE <->
      exists p, p ∈ cmds ∧ p.commandNumber = TRIAL ∧ p.data = k := by
  unfold lastTrial
  cases hlast : lastValue (trialObject k) cmds with
  | none =>
      have hall := lastValue_eq_none_iff.mp hlast
      refine iff_of_false (fun h => h rfl) ?_
      intro hgiven
      rcases hgiven with ⟨p, hp, htrial, hk⟩
      have hsome := trialObject_eq_some_iff.mpr ⟨⟨htrial, hk⟩, rfl⟩
      rw [hall p hp] at hsome
      cases hsome
  | some object =>
      rcases lastValue_eq_some hlast with ⟨p, hp, hvalue⟩
      rcases trialObject_eq_some_iff.mp hvalue with ⟨hsent, rfl⟩
      have hnonneg := (hdecoded p hp).object_nonneg
      refine iff_of_true ?_ ⟨p, hp, hsent⟩
      simp only [Option.getD_some, NOVALUE]
      omega

theorem sequenceEntries_assigned_iff {n : Int} {cmds : List Packet}
    (hdecoded : forall p, p ∈ cmds -> p.Decoded) :
    (forall b, b ∈ sequenceEntries n cmds -> b ≠ NOVALUE) <->
      forall k, 1 ≤ k -> k ≤ n ->
        exists p, p ∈ cmds ∧ p.commandNumber = TRIAL ∧ p.data = k := by
  constructor
  · intro h k hlo hhi
    rw [← lastTrial_ne_noValue_iff hdecoded]
    apply h
    refine List.mem_map.mpr ⟨(k - 1).toNat, ?_, ?_⟩
    · rw [List.mem_range]
      omega
    · congr 1
      omega
  · intro h b hb
    rcases List.mem_map.mp hb with ⟨i, hi, rfl⟩
    rw [List.mem_range] at hi
    exact (lastTrial_ne_noValue_iff hdecoded).mpr
      (h ((i : Int) + 1) (by omega) (by omega))

theorem toULong_of_decoded {value : Int} (h0 : 0 < value)
    (h : value ≤ 65535) : (toULong value : Int) = value :=
  toULong_cast (le_of_lt h0) (by rw [wordModulus]; omega)

theorem interval_of_pos {f : Int} (hf : 0 < f) :
    (sampleInterval f : Int) = 1000 / f := by
  have hnonneg : 0 ≤ 1000 / f := Int.ediv_nonneg (by decide) (le_of_lt hf)
  rw [sampleInterval_of_pos hf]
  omega

theorem decoded_of_lastMatch {f : Packet -> Option Int} {cmds later : List Packet}
    {n : Int} (hdecoded : forall p, p ∈ cmds -> p.Decoded)
    (h : lastMatch f cmds = some (n, later)) :
    forall p, p ∈ later -> p.Decoded := by
  rcases lastMatch_eq_some h with ⟨before, q, hsplit, _, _⟩
  intro p hp
  apply hdecoded p
  rw [hsplit]
  simp [hp]

theorem ready_iff_complete {d : Device} (hd : Sound d) :
    Ready d.globals <-> Complete d.history := by
  have hnumber := hd.numberOfTrials
  have hsequence := hd.trialSequence
  have htimeout := hd.timeoutMs
  have hrate := hd.sampleRateHz
  constructor
  · intro h
    constructor
    case trials =>
      rcases h.trialSequence with ⟨sequence, hsome, _, hassigned⟩
      rw [hsequence] at hsome
      rcases Option.map_eq_some_iff.mp hsome with ⟨⟨n, later⟩, hfound, hentries⟩
      refine ⟨n, later, hfound, ?_⟩
      have hlater := decoded_of_lastMatch hd.decoded hfound
      rw [← hentries] at hassigned
      exact (sequenceEntries_assigned_iff hlater).mp hassigned
    case timeout =>
      rw [← lastParameter_pos_iff, ← htimeout]
      exact h.timeout
    case sampleRate =>
      rw [← lastParameter_pos_iff, ← hrate]
      exact h.sampleRate
  · intro h
    have htimeoutPos : 0 < d.globals.timeoutMs := by
      rw [htimeout, lastParameter_pos_iff]
      exact h.timeout
    have hratePos : 0 < d.globals.sampleRateHz := by
      rw [hrate, lastParameter_pos_iff]
      exact h.sampleRate
    have htimeoutLe : d.globals.timeoutMs ≤ 65535 := by
      rw [htimeout]
      exact lastParameter_le hd.decoded
    rcases h.trials with ⟨n, later, hfound, hgiven⟩
    rcases lastMatch_eq_some hfound with ⟨_, _, _, hvalue, _⟩
    have hpos : 0 < n := accepted_pos hvalue
    have hlater := decoded_of_lastMatch hd.decoded hfound
    have hn : d.globals.numberOfTrials = n := by
      rw [hnumber, lastParameter, lastValue, hfound]
      rfl
    constructor
    case numberOfTrials => omega
    case trialSequence =>
      refine ⟨sequenceEntries n later, ?_, ?_,
        (sequenceEntries_assigned_iff hlater).mpr hgiven⟩
      · rw [hsequence]
        simp [configured, hfound]
      · rw [sequenceEntries_length, hn]
        omega
    case timeout => exact htimeoutPos
    case sampleRate => exact hratePos
    case waitLimit => exact toULong_of_decoded htimeoutPos htimeoutLe
    case interval => exact interval_of_pos hratePos

/-!
# Starts
-/

theorem starts_ready_iff {w : World} {d : Device} (h : Starts w d) :
    Ready (step w d).globals <-> Ready d.globals := by
  rcases starts_globals h with ⟨now, out, hglobals⟩
  rw [hglobals]
  constructor
  · intro hready
    exact ⟨hready.numberOfTrials, hready.trialSequence, hready.timeout,
      hready.sampleRate, hready.waitLimit, hready.interval⟩
  · intro hready
    exact ⟨hready.numberOfTrials, hready.trialSequence, hready.timeout,
      hready.sampleRate, hready.waitLimit, hready.interval⟩

/-- Every start of a run finds ready globals exactly when every start comes
after a complete list of commands, and every TRIAL is numbered within the
sequence. -/
theorem starts_ready_iff_complete (w : World) :
    (forall n, (run w n).pc ≠ .undefined ∧
        (Starts w (run w n) -> Ready (run w (n + 1)).globals)) <->
      (forall n, TrialsInRange (run w n).history ∧
        (Starts w (run w n) -> Complete (run w n).history)) := by
  refine forall_congr' fun n => ?_
  rw [run_defined_iff]
  refine and_congr_right fun hrange => ?_
  have hsound := run_sound ((run_defined_iff w n).mpr hrange)
  refine imp_congr_right fun hstart => ?_
  rw [run_succ, starts_ready_iff hstart, ready_iff_complete hsound]

/-- The first command starts the experiment: nothing is set. -/
theorem not_ready_start_first :
    ¬ forall n,
      Starts
          (World.scripted [⟨⟨STREAM, 0, 1⟩, by constructor <;> decide⟩]
            (fun n => n) monotone_id (fun _ _ => false))
          (run (World.scripted [⟨⟨STREAM, 0, 1⟩, by constructor <;> decide⟩]
            (fun n => n) monotone_id (fun _ _ => false)) n) ->
        Ready (run (World.scripted
          [⟨⟨STREAM, 0, 1⟩, by constructor <;> decide⟩]
          (fun n => n) monotone_id (fun _ _ => false)) (n + 1)).globals := by
  intro h
  have hready := h 0 ⟨rfl, _, rfl, rfl, rfl⟩
  have hnumber := hready.numberOfTrials
  revert hnumber
  decide +kernel

end Receiver
end BoxTrials
