import BoxTrials.Foundation.Binary64
import BoxTrials.Receiver.Packets

/-!
# Commands

`DoCommand` and the handlers it chooses from.  Each handler answers whether the
command was successful and leaves the globals changed; a reply to the computer
is a packet in `serialOut`.
-/

namespace BoxTrials
namespace Receiver

open Foundation
open Libraries.ArduinoTimer

/-!
# Handlers
-/

def ping (g : Globals) : Bool × Globals :=
  g.writePacket PING 0 0

def testLED (_id _timeMs : Int) (g : Globals) : Bool × Globals :=
  (false, g)

def battery (_id : Int) (g : Globals) : Bool × Globals :=
  (false, g)

def calibrate (_id : Int) (g : Globals) : Bool × Globals :=
  (false, g)

/-- A new sequence replaces the old one, with no value in any entry. -/
def nTrials (numberOfTrials : Int) (g : Globals) : Bool × Globals :=
  if numberOfTrials > 0 then
    let g :=
      { g with
        numberOfTrials := numberOfTrials
        trialSequence := some (List.replicate numberOfTrials.toNat NOVALUE) }
    g.writePacket NTRIALS 0 g.numberOfTrials
  else
    (false, g)

/-- `_trialSequence[index] = id`. Nothing checks the index, so a write can miss
the array. -/
def Globals.storeTrial (sequence : List Int) (index id : Int) (g : Globals) :
    Globals :=
  if 0 ≤ index ∧ index < sequence.length then
    { g with trialSequence := some (sequence.set index.toNat id) }
  else
    { g with outside := g.outside ++ [(index, id)] }

/-- The reply carries what is read back from the place just written, the object
`id`. -/
def trial (id trialNumber : Int) (g : Globals) : Bool × Globals :=
  match g.trialSequence with
  | none => (false, g)
  | some sequence =>
      (g.storeTrial sequence (trialNumber - 1) id).writePacket TRIAL id trialNumber

/-- The three handlers that store a positive parameter. -/
def setParameter (command : Int) (store : Int -> Globals -> Globals)
    (value : Int) (g : Globals) : Bool × Globals :=
  let status := false
  if value > 0 then
    let g := store value g
    -- The result of the write is bound to a second `status`, local to this block.
    let (_status, g) := g.writePacket command 0 value
    (status, g)
  else
    (status, g)

def separation (timeMs : Int) (g : Globals) : Bool × Globals :=
  setParameter SEPARATION (fun value g => { g with separationMs := value }) timeMs g

def timeout (timeMs : Int) (g : Globals) : Bool × Globals :=
  setParameter TIMEOUT (fun value g => { g with timeoutMs := value }) timeMs g

def sampleRate (frequencyHz : Int) (g : Globals) : Bool × Globals :=
  setParameter SAMPLERATE (fun value g => { g with sampleRateHz := value })
    frequencyHz g

/-- `int dt_ms = (1.0 / _sampleRate_Hz) * 1000`, in double precision. -/
def dtMs (sampleRateHz : Int) : Int :=
  truncate (toDouble (toDouble (1 / sampleRateHz) * 1000))

/-- The interval as `timer.every` takes it, an `unsigned long`. -/
def sampleInterval (sampleRateHz : Int) : Nat :=
  toULong (dtMs sampleRateHz)

def stream (now : Nat) (flag : Int) (g : Globals) : Bool × Globals :=
  if flag = 0 then
    let g :=
      { g with
        state := MODE_INIT
        currentTrial := NOVALUE
        currentObject := NOVALUE }
    g.writePacket STREAM 0 g.state
  else if flag = 1 then
    let g :=
      { g with
        state := MODE_STREAM
        currentTrial := 1
        currentObject := 0
        timer := g.timer.every now (sampleInterval g.sampleRateHz)
          Handler.timerEventWriteSTREAM }
    g.writePacket STREAM 0 g.state
  else
    (false, g)

def noCommand (g : Globals) : Bool × Globals :=
  (false, g)

/-!
# DoCommand
-/

/-- `DoCommand`, with the time that `millis()` has when it runs. -/
def doCommand (now : Nat) (currentCommand : Packet) (g : Globals) :
    Bool × Globals :=
  let cmd := currentCommand.commandNumber
  let id := currentCommand.objectID
  let data := currentCommand.data
  if cmd = PING then
    ping g
  else if cmd = TESTLED then
    testLED id data g
  else if cmd = BATTERY then
    battery id g
  else if cmd = CALIBRATE then
    calibrate id g
  else if cmd = NTRIALS then
    nTrials data g
  else if cmd = TRIAL then
    trial id data g
  else if cmd = SEPARATION then
    separation data g
  else if cmd = TIMEOUT then
    timeout data g
  else if cmd = SAMPLERATE then
    sampleRate data g
  else if cmd = STREAM then
    stream now data g
  else
    noCommand g

theorem doCommand_elim {motive : Bool × Globals -> Prop} (now : Nat)
    (p : Packet) (g : Globals)
    (hping : p.commandNumber = PING -> motive (ping g))
    (hnTrials : p.commandNumber = NTRIALS -> motive (nTrials p.data g))
    (htrial : p.commandNumber = TRIAL -> motive (trial p.objectID p.data g))
    (hseparation : p.commandNumber = SEPARATION -> motive (separation p.data g))
    (htimeout : p.commandNumber = TIMEOUT -> motive (timeout p.data g))
    (hsampleRate : p.commandNumber = SAMPLERATE -> motive (sampleRate p.data g))
    (hstream : p.commandNumber = STREAM -> motive (stream now p.data g))
    (hother : p.commandNumber ≠ PING -> p.commandNumber ≠ NTRIALS ->
      p.commandNumber ≠ TRIAL -> p.commandNumber ≠ SEPARATION ->
      p.commandNumber ≠ TIMEOUT -> p.commandNumber ≠ SAMPLERATE ->
      p.commandNumber ≠ STREAM -> motive (false, g)) :
    motive (doCommand now p g) := by
  unfold doCommand
  by_cases h0 : p.commandNumber = PING
  · simpa only [if_pos h0] using hping h0
  by_cases h1 : p.commandNumber = TESTLED
  · simp only [if_neg h0, if_pos h1]
    apply hother <;> rw [h1] <;> decide
  by_cases h2 : p.commandNumber = BATTERY
  · simp only [if_neg h0, if_neg h1, if_pos h2]
    apply hother <;> rw [h2] <;> decide
  by_cases h3 : p.commandNumber = CALIBRATE
  · simp only [if_neg h0, if_neg h1, if_neg h2, if_pos h3]
    apply hother <;> rw [h3] <;> decide
  simp only [if_neg h0, if_neg h1, if_neg h2, if_neg h3]
  split
  · rename_i h4
    exact hnTrials h4
  split
  · rename_i h5
    exact htrial h5
  split
  · rename_i h6
    exact hseparation h6
  split
  · rename_i h7
    exact htimeout h7
  split
  · rename_i h8
    exact hsampleRate h8
  split
  · rename_i h9
    exact hstream h9
  · rename_i h4 h5 h6 h7 h8 h9
    exact hother h0 h4 h5 h6 h7 h8 h9

theorem doCommand_trial {p : Packet} (h : p.commandNumber = TRIAL) (now : Nat)
    (g : Globals) : doCommand now p g = trial p.objectID p.data g := by
  simp [doCommand, h, PING, TESTLED, BATTERY, CALIBRATE, NTRIALS, TRIAL]

theorem doCommand_stream {p : Packet} (h : p.commandNumber = STREAM) (now : Nat)
    (g : Globals) : doCommand now p g = stream now p.data g := by
  simp [doCommand, h, PING, TESTLED, BATTERY, CALIBRATE, NTRIALS, TRIAL,
    SEPARATION, TIMEOUT, SAMPLERATE, STREAM]

/-!
# Storing a trial
-/

theorem storeTrial_of_inRange {sequence : List Int} {trialNumber : Int}
    (h : 1 ≤ trialNumber ∧ trialNumber ≤ sequence.length) (id : Int)
    (g : Globals) :
    g.storeTrial sequence (trialNumber - 1) id =
      { g with
        trialSequence := some (sequence.set (trialNumber - 1).toNat id) } :=
  if_pos (by omega)

theorem storeTrial_of_outside {sequence : List Int} {trialNumber : Int}
    (h : ¬ (1 ≤ trialNumber ∧ trialNumber ≤ sequence.length)) (id : Int)
    (g : Globals) :
    g.storeTrial sequence (trialNumber - 1) id =
      { g with outside := g.outside ++ [(trialNumber - 1, id)] } :=
  if_neg (by omega)

/-!
# The sample interval
-/

theorem dtMs_of_pos {f : Int} (hf : 0 < f) : dtMs f = 1000 / f := by
  obtain ⟨n, rfl⟩ := Int.eq_ofNat_of_zero_le (le_of_lt hf)
  have hn : 0 < n := by exact_mod_cast hf
  have hcast : ((n : Int) : ℚ) = (n : ℚ) := by norm_cast
  have hthousand : (1000 : ℚ) = ((1000 : ℕ) : ℚ) := by norm_num
  rw [dtMs, hcast]
  by_cases hdvd : n ∣ 1000
  · -- The rates that divide 1000 are few, and each product comes out exact.
    have hall : forall m : ℕ, m < 1001 -> m ∣ 1000 ->
        truncate (toDouble (toDouble (1 / (m : ℚ)) * 1000)) = 1000 / (m : Int) := by
      decide +kernel
    exact hall n (Nat.lt_succ_of_le (Nat.le_of_dvd (by decide) hdvd)) hdvd
  · rw [hthousand, truncate_of_close hn hdvd
      (toDouble_recip_mul_close hn (by norm_num))]
    norm_cast

/-- Without a sample rate the quotient is negative, and as an `unsigned long`
it is an interval of more than 49 days. -/
theorem sampleInterval_noValue : sampleInterval NOVALUE = 4294966296 := by
  have hdt : dtMs NOVALUE = -1000 := by
    decide +kernel
  rw [sampleInterval, hdt]
  rfl

theorem sampleInterval_of_pos {f : Int} (hf : 0 < f) :
    sampleInterval f = (1000 / f).toNat := by
  have hle : (1000 : Int) / f ≤ 1000 := Int.ediv_le_self f (by decide)
  rw [sampleInterval, dtMs_of_pos hf]
  exact toULong_of_nonneg (Int.ediv_nonneg (by decide) (le_of_lt hf))
    (by rw [wordModulus]; omega)

end Receiver
end BoxTrials
