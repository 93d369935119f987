import BoxTrials.Libraries.ArduinoTimer

/-!
# Globals of the receiver

Constants and global variables of the sketch that runs the experiment.  An
`int` is an integer here; the places where its 32 bits matter convert it.
-/

namespace BoxTrials
namespace Receiver

open Libraries.ArduinoTimer

/-!
# Constants
-/

abbrev PING : Int := 0
abbrev TESTLED : Int := 1
abbrev BATTERY : Int := 2
abbrev CALIBRATE : Int := 3
abbrev NTRIALS : Int := 4
abbrev TRIAL : Int := 5
abbrev SEPARATION : Int := 6
abbrev TIMEOUT : Int := 7
abbrev SAMPLERATE : Int := 8
abbrev STREAM : Int := 9

abbrev NOBJECTS : Int := 11

abbrev NOVALUE : Int := -1

abbrev MODE_INIT : Int := 0

abbrev MODE_STREAM : Int := 1

/-!
# Packets
-/

structure Packet where
  commandNumber : Int
  objectID : Int
  data : Int
  deriving DecidableEq, Repr

/-- The values that the text of a packet can stand for: one hexadecimal digit
for the command and for the object, and four characters for the data, which
`strtoul` also reads with a sign. -/
structure Packet.Decoded (p : Packet) : Prop where
  command_nonneg : 0 ≤ p.commandNumber
  command_le : p.commandNumber ≤ 15
  object_nonneg : 0 ≤ p.objectID
  object_le : p.objectID ≤ 15
  data_ge : -4095 ≤ p.data
  data_le : p.data ≤ 65535

structure Command where
  packet : Packet
  decoded : packet.Decoded

def Command.ofFields (commandNumber objectID data : Int) : Command where
  packet := ⟨commandNumber % 16, objectID % 16, data % 65536⟩
  decoded := by
    constructor <;> simp only <;> omega

/-!
# Global variables
-/

inductive Handler where
  | timerEventWriteSTREAM
  deriving DecidableEq, Repr

structure Globals where
  state : Int
  numberOfTrials : Int
  trialSequence : Option (List Int)
  separationMs : Int
  timeoutMs : Int
  sampleRateHz : Int
  currentTrial : Int
  currentObject : Int
  timer : Timer Handler
  /-- The bytes written to the computer. -/
  serialOut : List UInt8
  /-- The writes through `_trialSequence` that missed the array, as index and
  value. What they overwrite is not known. -/
  outside : List (Int × Int)

def Globals.boot : Globals where
  state := NOVALUE
  numberOfTrials := NOVALUE
  trialSequence := none
  separationMs := NOVALUE
  timeoutMs := NOVALUE
  sampleRateHz := NOVALUE
  currentTrial := NOVALUE
  currentObject := NOVALUE
  timer := Timer.create
  serialOut := []
  outside := []

end Receiver
end BoxTrials
