import BoxTrials.Receiver.Packets

/-!
# Round trip of packets

The writer and the reader are written independently: the writer prints digits
of varying length and pads them, the reader takes fixed positions and leaves
their check to `strtoul`.  This module computes the bytes of a packet in closed
form and shows that the reader gets back what the writer accepted, on any line
noise that has no STX in it.
-/

namespace BoxTrials
namespace Receiver

open Foundation

/-!
# The text of a number
-/

theorem sprintfX_of_lt {n : Nat} (h : n < 16) : sprintfX n = [hexDigit n] := by
  unfold sprintfX
  split
  · rename_i h0
    rw [h0]
  · rename_i h0
    rw [Nat.digits_of_lt 16 n h0 h]
    rfl

theorem sprintfX_step {n : Nat} (h : 16 ≤ n) :
    sprintfX n = sprintfX (n / 16) ++ [hexDigit (n % 16)] := by
  have hn : n ≠ 0 := by omega
  have hq : n / 16 ≠ 0 := by omega
  rw [sprintfX, sprintfX, if_neg hn, if_neg hq,
    Nat.digits_def' (by decide) (Nat.pos_of_ne_zero hn)]
  simp

theorem intToHexString_size_eq {n k : Nat} (hlo : 16 ^ k ≤ n)
    (hhi : n < 16 ^ (k + 1)) : (intToHexString n).size = k + 1 := by
  have hn : n ≠ 0 := by
    have := Nat.one_le_pow k 16 (by decide)
    omega
  simp only [intToHexString]
  rw [if_neg hn, Nat.log_eq_of_pow_le_of_lt_pow hlo hhi]

theorem intToHexString_size_of_digit {n : Nat} (h : n < 16) :
    (intToHexString n).size = 1 := by
  by_cases h0 : n = 0
  · simp [intToHexString, h0]
  · exact intToHexString_size_eq (k := 0) (by omega) (by omega)

theorem intToHexString_size_le_four_iff (n : Nat) :
    (intToHexString n).size ≤ 4 <-> n < 65536 := by
  by_cases h0 : n = 0
  · simp [intToHexString, h0]
  · simp only [intToHexString]
    rw [if_neg h0]
    have hlog : Nat.log 16 n < 4 <-> n < 16 ^ 4 :=
      Nat.log_lt_iff_lt_pow (by decide) h0
    norm_num at hlog
    omega

/-!
# The bytes of a packet
-/

/-- The arguments that `WritePacket` accepts. -/
def Writable (commandNumber objectID data : Int) : Prop :=
  PING ≤ commandNumber ∧ commandNumber ≤ STREAM ∧
    0 ≤ objectID ∧ objectID ≤ NOBJECTS ∧ toULong data < 65536

instance (commandNumber objectID data : Int) :
    Decidable (Writable commandNumber objectID data) :=
  inferInstanceAs (Decidable (_ ∧ _ ∧ _ ∧ _ ∧ _))

def dataDigits (n : Nat) : List Nat :=
  [n / 4096 % 16, n / 256 % 16, n / 16 % 16, n % 16]

def frame (commandNumber objectID data : Int) : List UInt8 :=
  [STX, hexDigit commandNumber.toNat, hexDigit objectID.toNat] ++
    (dataDigits (toULong data)).map hexDigit ++ [ETX]

theorem frame_length (commandNumber objectID data : Int) :
    (frame commandNumber objectID data).length = 8 := rfl

theorem hexDigit_ne_zero {d : Nat} (h : d < 16) : hexDigit d ≠ 0 := by
  interval_cases d <;> decide

theorem serialWrite_bytes {c i d3 d2 d1 d0 : Nat} (hc : c < 16) (hi : i < 16)
    (h3 : d3 < 16) (h2 : d2 < 16) (h1 : d1 < 16) (h0 : d0 < 16)
    (out : List UInt8) :
    serialWrite
        [STX, hexDigit c, hexDigit i, hexDigit d3, hexDigit d2, hexDigit d1,
          hexDigit d0, ETX, 0] out =
      out ++ [STX, hexDigit c, hexDigit i, hexDigit d3, hexDigit d2,
        hexDigit d1, hexDigit d0, ETX] := by
  simp [serialWrite, STX, ETX, hexDigit_ne_zero hc,
    hexDigit_ne_zero hi, hexDigit_ne_zero h3, hexDigit_ne_zero h2,
    hexDigit_ne_zero h1, hexDigit_ne_zero h0]

theorem storeData_digits {n : Nat} (h : n < 65536) (c i : UInt8) :
    storeData (intToHexString n) [STX, c, i, 0x30, 0x30, 0x30, 0x30, ETX, 0] =
      [STX, c, i, hexDigit (n / 4096 % 16), hexDigit (n / 256 % 16),
        hexDigit (n / 16 % 16), hexDigit (n % 16), ETX, 0] := by
  have hzero : (0x30 : UInt8) = hexDigit 0 := rfl
  have hsecond : n / 256 = n / 16 / 16 := by omega
  have hthird : n / 4096 = n / 16 / 16 / 16 := by omega
  rw [hthird, hsecond]
  rcases lt_or_ge n 16 with h1 | h1
  · have hsize := intToHexString_size_of_digit h1
    have hhex : (intToHexString n).hex = [hexDigit n, 0] := by
      simp [intToHexString, sprintfX_of_lt h1]
    have hdigit : n % 16 = n := Nat.mod_eq_of_lt h1
    have hrest : n / 16 = 0 := by omega
    simp [storeData, hsize, hhex, hdigit, hrest, hzero]
  rcases lt_or_ge n 256 with h2 | h2
  · have hsize := intToHexString_size_eq (n := n) (k := 1) (by omega) (by omega)
    have hhex : (intToHexString n).hex =
        [hexDigit (n / 16), hexDigit (n % 16), 0] := by
      simp [intToHexString, sprintfX_step h1,
        sprintfX_of_lt (show n / 16 < 16 by omega)]
    have hdigit : n / 16 % 16 = n / 16 := by omega
    have hrest : n / 16 / 16 = 0 := by omega
    simp [storeData, hsize, hhex, hdigit, hrest, hzero]
  rcases lt_or_ge n 4096 with h3 | h3
  · have hsize := intToHexString_size_eq (n := n) (k := 2) (by omega) (by omega)
    have hhex : (intToHexString n).hex =
        [hexDigit (n / 16 / 16), hexDigit (n / 16 % 16), hexDigit (n % 16), 0] := by
      simp [intToHexString, sprintfX_step h1,
        sprintfX_step (show 16 ≤ n / 16 by omega),
        sprintfX_of_lt (show n / 16 / 16 < 16 by omega)]
    have hdigit : n / 16 / 16 % 16 = n / 16 / 16 := by omega
    have hrest : n / 16 / 16 / 16 = 0 := by omega
    simp [storeData, hsize, hhex, hdigit, hrest, hzero]
  · have hsize := intToHexString_size_eq (n := n) (k := 3) (by omega) (by omega)
    have hhex : (intToHexString n).hex =
        [hexDigit (n / 16 / 16 / 16), hexDigit (n / 16 / 16 % 16),
          hexDigit (n / 16 % 16), hexDigit (n % 16), 0] := by
      simp [intToHexString, sprintfX_step h1,
        sprintfX_step (show 16 ≤ n / 16 by omega),
        sprintfX_step (show 16 ≤ n / 16 / 16 by omega),
        sprintfX_of_lt (show n / 16 / 16 / 16 < 16 by omega)]
    have hdigit : n / 16 / 16 / 16 % 16 = n / 16 / 16 / 16 := by omega
    simp [storeData, hsize, hhex, hdigit]

theorem writePacket_of_writable {commandNumber objectID data : Int}
    (h : Writable commandNumber objectID data) (out : List UInt8) :
    writePacket commandNumber objectID data out =
      (true, out ++ frame commandNumber objectID data) := by
  simp only [Writable, PING, STREAM, NOBJECTS] at h
  rcases h with ⟨hc0, hc9, hi0, hi11, hdata⟩
  have hcmd : toULong commandNumber = commandNumber.toNat :=
    toULong_of_nonneg hc0 (by rw [wordModulus]; omega)
  have hid : toULong objectID = objectID.toNat :=
    toULong_of_nonneg hi0 (by rw [wordModulus]; omega)
  have hc : commandNumber.toNat < 16 := by omega
  have hi : objectID.toNat < 16 := by omega
  unfold writePacket frame
  rw [if_neg (by simp only [PING, STREAM, NOBJECTS]; omega), hcmd, hid]
  generalize commandNumber.toNat = c at hc
  generalize objectID.toNat = i at hi
  generalize toULong data = n at hdata
  simp only [intToHexString_size_of_digit hc, intToHexString_size_of_digit hi]
  have hsize := (intToHexString_size_le_four_iff n).mpr hdata
  rw [if_neg (by omega)]
  have hcommand : (intToHexString c).hex.getD 0 0 = hexDigit c := by
    simp [intToHexString, sprintfX_of_lt hc]
  have hobject : (intToHexString i).hex.getD 0 0 = hexDigit i := by
    simp [intToHexString, sprintfX_of_lt hi]
  have hbytes := serialWrite_bytes hc hi (Nat.mod_lt (n / 4096) (by decide))
    (Nat.mod_lt (n / 256) (by decide)) (Nat.mod_lt (n / 16) (by decide))
    (Nat.mod_lt n (by decide)) out
  rw [hcommand, hobject]
  show (true, serialWrite _ out) = (true, out ++
    [STX, hexDigit c, hexDigit i, hexDigit (n / 4096 % 16),
      hexDigit (n / 256 % 16), hexDigit (n / 16 % 16), hexDigit (n % 16), ETX])
  rw [← hbytes, ← storeData_digits hdata]
  rfl

theorem writePacket_of_not_writable {commandNumber objectID data : Int}
    (h : ¬ Writable commandNumber objectID data) (out : List UInt8) :
    writePacket commandNumber objectID data out = (false, out) := by
  unfold writePacket
  split
  · rfl
  · rename_i hfields
    have hsize : ¬ (intToHexString (toULong data)).size ≤ 4 := by
      rw [intToHexString_size_le_four_iff]
      intro hdata
      apply h
      simp only [Writable, PING, STREAM, NOBJECTS] at hfields ⊢
      omega
    rw [if_pos (Or.inr (Or.inr (by omega)))]

/-!
# Reading what was written

A piece of the line is aligned when the reader, started at its beginning, is at
its end after returning certain packets.  Aligned pieces compose.
-/

def Aligned (bytes : List UInt8) (packets : List Packet) : Prop :=
  forall rest, readCommands (bytes ++ rest) = packets ++ readCommands rest

theorem aligned_append {a b : List UInt8} {ps qs : List Packet}
    (ha : Aligned a ps) (hb : Aligned b qs) : Aligned (a ++ b) (ps ++ qs) := by
  intro rest
  rw [List.append_assoc, ha, hb, List.append_assoc]

theorem readCommands_of_aligned {bytes : List UInt8} {packets : List Packet}
    (h : Aligned bytes packets) : readCommands bytes = packets := by
  have hend := h []
  rw [List.append_nil, @readCommands_of_none [] rfl,
    List.append_nil] at hend
  exact hend

theorem readCommand_noise {noise : List UInt8} (h : STX ∉ noise)
    (rest : List UInt8) : readCommand (noise ++ rest) = readCommand rest := by
  induction noise with
  | nil =>
      rfl
  | cons b tail ih =>
      have hb : b ≠ STX := fun heq => h (heq ▸ List.mem_cons_self ..)
      have htail : STX ∉ tail := fun hmem => h (List.mem_cons_of_mem b hmem)
      rw [List.cons_append, readCommand_skip hb]
      exact ih htail

theorem aligned_noise {noise : List UInt8} (h : STX ∉ noise) :
    Aligned noise [] := by
  intro rest
  exact readCommands_congr (readCommand_noise h rest)

theorem hexStringToInt_map_hexDigit (ds : List Nat)
    (h : forall d, d ∈ ds -> d < 16)
    (hsmall : ds.foldl (fun n d => 16 * n + d) 0 < 2147483648) :
    hexStringToInt (ds.map hexDigit) =
      ((ds.foldl (fun n d => 16 * n + d) 0 : Nat) : Int) := by
  rw [hexStringToInt, strtoul16_map_hexDigit ds h (by rw [wordModulus]; omega),
    toInt32_of_small hsmall]

theorem dataDigits_value {n : Nat} (h : n < 65536) :
    (dataDigits n).foldl (fun n d => 16 * n + d) 0 = n := by
  simp only [dataDigits, List.foldl_cons, List.foldl_nil]
  omega

theorem dataDigits_lt (n : Nat) : forall d, d ∈ dataDigits n -> d < 16 := by
  intro d hd
  simp only [dataDigits, List.mem_cons, List.not_mem_nil, or_false] at hd
  omega

/-- The reader takes a frame as a whole and returns the fields it was made of,
with the data as the unsigned number that was printed. -/
theorem readCommand_frame {c i d : Int} (h : Writable c i d)
    (rest : List UInt8) :
    readCommand (frame c i d ++ rest) =
      some ({ commandNumber := c, objectID := i, data := toULong d }, rest) := by
  simp only [Writable, PING, STREAM, NOBJECTS] at h
  rcases h with ⟨hc0, hc9, hi0, hi11, hd⟩
  have hdata := hexStringToInt_map_hexDigit (dataDigits (toULong d))
    (dataDigits_lt _) (by rw [dataDigits_value hd]; omega)
  rw [dataDigits_value hd] at hdata
  have hcmd := hexStringToInt_map_hexDigit [c.toNat]
    (by intro x hx; simp at hx; omega) (by simp; omega)
  have hid := hexStringToInt_map_hexDigit [i.toNat]
    (by intro x hx; simp at hx; omega) (by simp; omega)
  have hcval : (([c.toNat].foldl (fun n d => 16 * n + d) 0 : Nat) : Int) = c := by
    simp only [List.foldl_cons, List.foldl_nil]
    omega
  have hival : (([i.toNat].foldl (fun n d => 16 * n + d) 0 : Nat) : Int) = i := by
    simp only [List.foldl_cons, List.foldl_nil]
    omega
  rw [hcval] at hcmd
  rw [hival] at hid
  simp only [List.map_cons, List.map_nil, dataDigits] at hdata hcmd hid
  simp [frame, dataDigits, readCommand, hdata, hcmd, hid]

theorem aligned_frame {c i d : Int} (h : Writable c i d) :
    Aligned (frame c i d)
      [{ commandNumber := c, objectID := i, data := toULong d }] := by
  intro rest
  rw [readCommands_of_some (readCommand_frame h rest)]
  rfl

/-!
# Streams of packets
-/

structure Request where
  cmd : Int32
  id : Int32
  data : Int32

def Request.packet (r : Request) : Packet where
  commandNumber := r.cmd.toInt
  objectID := r.id.toInt
  data := r.data.toInt

def Request.write (r : Request) (out : List UInt8) : Bool × List UInt8 :=
  writePacket r.cmd.toInt r.id.toInt r.data.toInt out

def Request.InRange (r : Request) : Prop :=
  (0 ≤ r.cmd.toInt ∧ r.cmd.toInt ≤ 9) ∧ (0 ≤ r.id.toInt ∧ r.id.toInt ≤ 11) ∧
    (0 ≤ r.data.toInt ∧ r.data.toInt ≤ 65535)

instance (r : Request) : Decidable r.InRange :=
  inferInstanceAs (Decidable (_ ∧ _ ∧ _))

/-- Bytes that reach the reader besides the packets, without an STX. -/
def Noise : Type :=
  { bytes : List UInt8 // STX ∉ bytes }

/-- The line after a list of calls in turn, with noise behind each. -/
def transmit : List UInt8 -> List (Request × Noise) -> List UInt8
  | line, [] => line
  | line, (r, noise) :: rest => transmit ((r.write line).2 ++ noise.val) rest

theorem Request.writable_iff (r : Request) :
    Writable r.cmd.toInt r.id.toInt r.data.toInt <-> r.InRange := by
  have hlo := r.data.le_toInt
  have hhi := r.data.toInt_lt
  have hdata : toULong r.data.toInt < 65536 <->
      0 ≤ r.data.toInt ∧ r.data.toInt ≤ 65535 := by
    unfold toULong wordModulus
    omega
  simp only [Writable, Request.InRange, PING, STREAM, NOBJECTS, hdata]
  constructor
  · intro hwritable
    rcases hwritable with ⟨h1, h2, h3, h4, h5⟩
    exact ⟨⟨h1, h2⟩, ⟨h3, h4⟩, h5⟩
  · intro hrange
    rcases hrange with ⟨⟨h1, h2⟩, ⟨h3, h4⟩, h5⟩
    exact ⟨h1, h2, h3, h4, h5⟩

theorem Request.write_of_inRange {r : Request} (h : r.InRange)
    (line : List UInt8) :
    r.write line = (true, line ++ frame r.cmd.toInt r.id.toInt r.data.toInt) :=
  writePacket_of_writable (r.writable_iff.mpr h) line

theorem Request.write_of_not_inRange {r : Request} (h : ¬ r.InRange)
    (line : List UInt8) : r.write line = (false, line) :=
  writePacket_of_not_writable (fun hw => h (r.writable_iff.mp hw)) line

theorem aligned_write {line : List UInt8} {packets : List Packet}
    (h : Aligned line packets) (r : Request) :
    Aligned (r.write line).2
      (packets ++ if r.InRange then [r.packet] else []) := by
  by_cases hr : r.InRange
  · have hdata : (toULong r.data.toInt : Int) = r.data.toInt := by
      have hpos := hr.right.right
      exact toULong_cast hpos.left (by rw [wordModulus]; omega)
    have hframe := aligned_frame (r.writable_iff.mpr hr)
    rw [hdata] at hframe
    rw [Request.write_of_inRange hr, if_pos hr]
    exact aligned_append h hframe
  · rw [Request.write_of_not_inRange hr, if_neg hr, List.append_nil]
    exact h

theorem aligned_transmit {line : List UInt8} {packets : List Packet}
    (h : Aligned line packets) (requests : List (Request × Noise)) :
    Aligned (transmit line requests)
      (packets ++ ((requests.map Prod.fst).filter
        (fun r => r.InRange)).map Request.packet) := by
  induction requests generalizing line packets with
  | nil =>
      simpa [transmit] using h
  | cons entry rest ih =>
      rcases entry with ⟨r, noise⟩
      have hnext := aligned_append (aligned_write h r) (aligned_noise noise.property)
      have hall := ih hnext
      rw [transmit]
      by_cases hr : r.InRange
      · simpa [hr, List.append_assoc] using hall
      · simpa [hr] using hall

/-- Every call of `WritePacket` either writes eight bytes or refuses and writes
nothing, and the reader gets exactly the packets that were written, in order. -/
theorem readCommands_transmit :
    (forall (r : Request) (line : List UInt8),
      (r.InRange -> exists bytes : List UInt8,
        r.write line = (true, line ++ bytes) ∧ bytes.length = 8) ∧
      (¬ r.InRange -> r.write line = (false, line))) ∧
    (forall (before : Noise) (requests : List (Request × Noise)),
      readCommands (transmit before.val requests) =
        ((requests.map Prod.fst).filter (fun r => r.InRange)).map
          Request.packet) := by
  constructor
  · intro r line
    constructor
    · intro hr
      exact ⟨_, Request.write_of_inRange hr line, frame_length _ _ _⟩
    · intro hr
      exact Request.write_of_not_inRange hr line
  · intro before requests
    have hline := aligned_transmit (aligned_noise before.property) requests
    rw [List.nil_append] at hline
    exact readCommands_of_aligned hline

end Receiver
end BoxTrials
