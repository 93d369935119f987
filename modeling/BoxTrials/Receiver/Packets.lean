import BoxTrials.Foundation.HexText
import BoxTrials.Receiver.Globals

/-!
# Data packets

The serial line carries packets of eight bytes: STX, one hexadecimal digit for
the command, one for the object, four for the data, and ETX.  `writePacket` and
`readCommand` are the two ends of it.
-/

namespace BoxTrials
namespace Receiver

open Foundation

abbrev STX : UInt8 := 0x02

abbrev ETX : UInt8 := 0x03

/-!
# Writing packets
-/

/-- A character array of hexadecimal digits with its size. -/
structure HexString where
  hex : List UInt8
  size : Nat

/-- The digit count comes from `floor(log(n)/log(16)) + 1`, the characters from
`sprintf`. -/
def intToHexString (n : Nat) : HexString where
  hex := sprintfX n ++ [0]
  size :=
    if n = 0 then
      1
    else
      Nat.log 16 n + 1

/-- `Serial.write` of a character string stops at its NUL. -/
def serialWrite (str out : List UInt8) : List UInt8 :=
  out ++ str.takeWhile (fun c => c ≠ 0)

/-- The digits of the data go to the end of its four places. -/
def storeData (dataHex : HexString) (command : List UInt8) : List UInt8 :=
  if dataHex.size = 4 then
    (((command.set 3 (dataHex.hex.getD 0 0)).set 4
      (dataHex.hex.getD 1 0)).set 5
      (dataHex.hex.getD 2 0)).set 6
      (dataHex.hex.getD 3 0)
  else if dataHex.size = 3 then
    ((command.set 4 (dataHex.hex.getD 0 0)).set 5
      (dataHex.hex.getD 1 0)).set 6
      (dataHex.hex.getD 2 0)
  else if dataHex.size = 2 then
    (command.set 5 (dataHex.hex.getD 0 0)).set 6
      (dataHex.hex.getD 1 0)
  else
    command.set 6 (dataHex.hex.getD 0 0)

/-- `WritePacket`: whether the packet was written, and the bytes on the line. -/
def writePacket (commandNumber objectID data : Int) (out : List UInt8) :
    Bool × List UInt8 :=
  if commandNumber > STREAM ∨ commandNumber < PING ∨
      objectID > NOBJECTS ∨ objectID < 0 then
    (false, out)
  else
    let cmdHex := intToHexString (toULong commandNumber)
    let idHex := intToHexString (toULong objectID)
    let dataHex := intToHexString (toULong data)
    if cmdHex.size > 1 ∨ idHex.size > 1 ∨ dataHex.size > 4 then
      (false, out)
    else
      let command := List.replicate 8 0x30 ++ [0]
      let command := (command.set 0 STX).set 7 ETX
      let command := command.set 1 (cmdHex.hex.getD 0 0)
      let command := command.set 2 (idHex.hex.getD 0 0)
      let command := storeData dataHex command
      (true, serialWrite command out)

/-- `WritePacket` as the handlers call it. -/
def Globals.writePacket (commandNumber objectID data : Int) (g : Globals) :
    Bool × Globals :=
  let (status, out) := Receiver.writePacket commandNumber objectID data g.serialOut
  (status, { g with serialOut := out })

theorem Globals.writePacket_snd (commandNumber objectID data : Int)
    (g : Globals) :
    (g.writePacket commandNumber objectID data).2 =
      { g with
        serialOut :=
          (Receiver.writePacket commandNumber objectID data g.serialOut).2 } :=
  rfl

/-!
# Reading packets
-/

/-- `HexStringToInt`. -/
def hexStringToInt (str : List UInt8) : Int :=
  toInt32 (strtoul16 str)

/-- `ReadCommand` on the bytes that are still to arrive: the packet and the
bytes after it, or nothing if it waits for bytes that do not come. -/
def readCommand : List UInt8 -> Option (Packet × List UInt8)
  | [] => none
  | b0 :: rest =>
      if b0 = STX then
        match rest with
        | b1 :: b2 :: b3 :: b4 :: b5 :: b6 :: b7 :: rest =>
            if b7 ≠ ETX then
              -- Bad packet: the seven bytes are gone and reading starts again.
              readCommand rest
            else
              some
                ({ commandNumber := hexStringToInt [b1]
                   objectID := hexStringToInt [b2]
                   data := hexStringToInt [b3, b4, b5, b6] }, rest)
        | _ => none
      else
        readCommand rest

theorem readCommand_skip {b : UInt8} (h : b ≠ STX) (rest : List UInt8) :
    readCommand (b :: rest) = readCommand rest := by
  rw [readCommand.eq_def]
  simp [h]

theorem readCommand_length {bytes rest : List UInt8} {p : Packet}
    (h : readCommand bytes = some (p, rest)) : rest.length < bytes.length := by
  fun_induction readCommand bytes with
  | case1 =>
      cases h
  | case2 b1 b2 b3 b4 b5 b6 b7 tail hb7 ih =>
      have := ih h
      simp only [List.length_cons]
      omega
  | case3 b1 b2 b3 b4 b5 b6 b7 tail hb7 =>
      cases h
      simp only [List.length_cons]
      omega
  | case4 =>
      cases h
  | case5 b0 tail hb0 ih =>
      have := ih h
      simp only [List.length_cons]
      omega

/-- Every packet that `ReadCommand` returns has fields in range. -/
theorem readCommand_decoded {bytes rest : List UInt8} {p : Packet}
    (h : readCommand bytes = some (p, rest)) : p.Decoded := by
  fun_induction readCommand bytes with
  | case1 =>
      cases h
  | case2 b1 b2 b3 b4 b5 b6 b7 tail hb7 ih =>
      exact ih h
  | case3 b1 b2 b3 b4 b5 b6 b7 tail hb7 =>
      cases h
      have hcmd := @strtoul16_toInt32_bounds [b1] 0 rfl (by decide)
      have hid := @strtoul16_toInt32_bounds [b2] 0 rfl (by decide)
      have hdata := @strtoul16_toInt32_bounds [b3, b4, b5, b6] 3 rfl
        (by decide)
      norm_num at hcmd hid hdata
      constructor <;> simp only [hexStringToInt] <;> omega
  | case4 =>
      cases h
  | case5 b0 tail hb0 ih =>
      exact ih h

def readCommands (bytes : List UInt8) : List Packet :=
  match _h : readCommand bytes with
  | none => []
  | some (p, rest) => p :: readCommands rest
  termination_by bytes.length
  decreasing_by exact readCommand_length _h

theorem readCommands_of_none {bytes : List UInt8}
    (h : readCommand bytes = none) : readCommands bytes = [] := by
  rw [readCommands]
  split
  · rfl
  · rename_i heq
    rw [h] at heq
    cases heq

theorem readCommands_of_some {bytes rest : List UInt8} {p : Packet}
    (h : readCommand bytes = some (p, rest)) :
    readCommands bytes = p :: readCommands rest := by
  rw [readCommands]
  split
  · rename_i heq
    rw [h] at heq
    cases heq
  · rename_i q tail heq
    rw [h] at heq
    cases heq
    rfl

theorem readCommands_congr {a b : List UInt8} (h : readCommand a = readCommand b) :
    readCommands a = readCommands b := by
  cases hb : readCommand b with
  | none =>
      rw [readCommands_of_none (h.trans hb), readCommands_of_none hb]
  | some found =>
      rw [readCommands_of_some (h.trans hb), readCommands_of_some hb]

end Receiver
end BoxTrials
