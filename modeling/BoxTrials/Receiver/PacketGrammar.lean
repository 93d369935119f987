import BoxTrials.Receiver.PacketRoundTrip

/-!
# The reader on arbitrary bytes

`ReadCommand` takes whatever stands between an STX and the seventh byte after
it, if that is an ETX, and otherwise goes on behind the seven bytes.  This
module says which bytes the returned packets come from, and what the reader
loses on a line with garbage or with a packet that was cut.
-/

namespace BoxTrials
namespace Receiver

open Foundation

/-!
# Windows
-/

structure Payload where
  b1 : UInt8
  b2 : UInt8
  b3 : UInt8
  b4 : UInt8
  b5 : UInt8
  b6 : UInt8
  deriving DecidableEq, Repr

def Payload.bytes (q : Payload) : List UInt8 :=
  [q.b1, q.b2, q.b3, q.b4, q.b5, q.b6]

def Payload.window (q : Payload) : List UInt8 :=
  STX :: q.bytes ++ [ETX]

def Payload.packet (q : Payload) : Packet where
  commandNumber := hexStringToInt [q.b1]
  objectID := hexStringToInt [q.b2]
  data := hexStringToInt [q.b3, q.b4, q.b5, q.b6]

def Payload.AllHex (q : Payload) : Prop :=
  forall c, c ∈ q.bytes -> IsHexDigit c

instance (q : Payload) : Decidable q.AllHex :=
  List.decidableBAll IsHexDigit q.bytes

def Payload.positional (q : Payload) : Packet where
  commandNumber := hexNumber [q.b1]
  objectID := hexNumber [q.b2]
  data := hexNumber [q.b3, q.b4, q.b5, q.b6]

structure Intact extends Payload where
  allHex : toPayload.AllHex

def Intact.text (f : Intact) : List UInt8 :=
  f.toPayload.window

def Intact.packet (f : Intact) : Packet :=
  f.toPayload.positional

def line (frames : List Intact) : List UInt8 :=
  frames.flatMap Intact.text

theorem hexStringToInt_of_digits {str : List UInt8}
    (h : forall c, c ∈ str -> IsHexDigit c) (hlength : str.length ≤ 4) :
    hexStringToInt str = hexNumber str := by
  have hlt := hexNumber_lt h
  have hpow : 16 ^ str.length ≤ 16 ^ 4 := Nat.pow_le_pow_right (by decide) hlength
  have hsmall : hexNumber str < 65536 := by omega
  rw [hexStringToInt, strtoul16_of_digits h (by rw [wordModulus]; omega),
    toInt32_of_small (by omega)]

theorem Payload.packet_of_allHex {q : Payload} (h : q.AllHex) :
    q.packet = q.positional := by
  have hcmd := @hexStringToInt_of_digits [q.b1]
    (fun c hc => h c (by simp [Payload.bytes] at hc ⊢; simp [hc])) (by simp)
  have hid := @hexStringToInt_of_digits [q.b2]
    (fun c hc => h c (by simp [Payload.bytes] at hc ⊢; simp [hc])) (by simp)
  have hdata := @hexStringToInt_of_digits [q.b3, q.b4, q.b5, q.b6]
    (fun c hc => h c (by simp [Payload.bytes] at hc ⊢; tauto)) (by simp)
  rw [Payload.packet, hcmd, hid, hdata, Payload.positional]

theorem readCommand_window (q : Payload) (rest : List UInt8) :
    readCommand (q.window ++ rest) = some (q.packet, rest) := by
  simp [Payload.window, Payload.bytes, readCommand, Payload.packet]

theorem readCommand_bad (q : Payload) {last : UInt8} (h : last ≠ ETX)
    (rest : List UInt8) :
    readCommand (STX :: q.bytes ++ last :: rest) = readCommand rest := by
  rw [readCommand.eq_def]
  simp [Payload.bytes, h]

theorem readCommand_from_window {bytes rest : List UInt8} {p : Packet}
    (h : readCommand bytes = some (p, rest)) :
    exists (before : List UInt8) (q : Payload),
      bytes = before ++ q.window ++ rest ∧ p = q.packet := by
  fun_induction readCommand bytes with
  | case1 =>
      cases h
  | case2 b1 b2 b3 b4 b5 b6 b7 tail hb7 ih =>
      rcases ih h with ⟨before, q, rfl, hp⟩
      exact ⟨STX :: b1 :: b2 :: b3 :: b4 :: b5 :: b6 :: b7 :: before, q,
        by simp, hp⟩
  | case3 b1 b2 b3 b4 b5 b6 b7 tail hb7 =>
      cases h
      have hend : b7 = ETX := by simpa using hb7
      exact ⟨[], ⟨b1, b2, b3, b4, b5, b6⟩,
        by simp [Payload.window, Payload.bytes, hend], rfl⟩
  | case4 =>
      cases h
  | case5 b0 tail hb0 ih =>
      rcases ih h with ⟨before, q, rfl, hp⟩
      exact ⟨b0 :: before, q, by simp, hp⟩

/-- Every packet comes from eight bytes between an STX and an ETX, whatever
stands between them. Hexadecimal digits there are read by their positions, other
bytes leave the fields in range, and only a missing ETX makes the reader discard
the eight bytes. -/
theorem readCommand_windows :
    (forall (bytes rest : List UInt8) (p : Packet),
      readCommand bytes = some (p, rest) ->
        exists (before : List UInt8) (q : Payload),
          bytes = before ++ q.window ++ rest ∧ p = q.packet ∧ p.Decoded ∧
            (q.AllHex -> p = q.positional ∧ 0 ≤ p.data)) ∧
    (forall (q : Payload) (rest : List UInt8),
      readCommand (q.window ++ rest) = some (q.packet, rest)) ∧
    (forall (q : Payload) (last : UInt8) (rest : List UInt8), last ≠ ETX ->
      readCommand (STX :: q.bytes ++ last :: rest) = readCommand rest) := by
  refine ⟨?_, readCommand_window, fun q last rest h => readCommand_bad q h rest⟩
  intro bytes rest p h
  rcases readCommand_from_window h with ⟨before, q, hbytes, hp⟩
  refine ⟨before, q, hbytes, hp, readCommand_decoded h, ?_⟩
  intro hall
  have hpositional : p = q.positional := hp.trans (Payload.packet_of_allHex hall)
  refine ⟨hpositional, ?_⟩
  rw [hpositional]
  exact Int.natCast_nonneg _

/-- The letter G is no hexadecimal digit, and a packet with it as its command is
returned as a PING. -/
theorem not_readCommand_allHex :
    ¬ forall (bytes rest : List UInt8) (p : Packet),
      readCommand bytes = some (p, rest) ->
        exists (before : List UInt8) (q : Payload),
          q.AllHex ∧ bytes = before ++ q.window ++ rest ∧ p = q.positional := by
  intro h
  rcases h [STX, 0x47, 0x30, 0x30, 0x30, 0x30, 0x30, ETX] [] ⟨PING, 0, 0⟩
    (by decide +kernel) with ⟨before, q, hall, hbytes, _⟩
  have hlength := congrArg List.length hbytes
  simp only [Payload.window, Payload.bytes, List.length_append, List.length_cons,
    List.length_nil] at hlength
  have hbefore : before = [] := List.length_eq_zero_iff.mp (by omega)
  rw [hbefore] at hbytes
  simp only [Payload.window, Payload.bytes, List.nil_append, List.cons_append,
    List.append_nil, List.cons.injEq] at hbytes
  have hdigit := hall q.b1 (by simp [Payload.bytes])
  rw [← hbytes.right.left] at hdigit
  revert hdigit
  decide

/-!
# Well-formed packets behind other bytes

A window that begins in other bytes and ends in a well-formed packet ends on a
digit or on an STX, so the reader discards it, and the rest of that packet has
no STX in it.
-/

theorem readCommand_append_of_some {bytes rest : List UInt8} {p : Packet}
    (h : readCommand bytes = some (p, rest)) (more : List UInt8) :
    readCommand (bytes ++ more) = some (p, rest ++ more) := by
  fun_induction readCommand bytes with
  | case1 =>
      cases h
  | case2 b1 b2 b3 b4 b5 b6 b7 tail hb7 ih =>
      rw [← ih h]
      exact readCommand_bad ⟨b1, b2, b3, b4, b5, b6⟩ hb7 (tail ++ more)
  | case3 b1 b2 b3 b4 b5 b6 b7 tail hb7 =>
      cases h
      have hend : b7 = ETX := by simpa using hb7
      rw [hend]
      exact readCommand_window ⟨b1, b2, b3, b4, b5, b6⟩ (rest ++ more)
  | case4 =>
      cases h
  | case5 b0 tail hb0 ih =>
      rw [List.cons_append, readCommand_skip hb0]
      exact ih h

theorem isHexDigit_ne {c : UInt8} (h : IsHexDigit c) : c ≠ STX ∧ c ≠ ETX := by
  constructor
  all_goals
    intro heq
    rw [heq] at h
    revert h
    decide

theorem readCommand_intact (f : Intact) (rest : List UInt8) :
    readCommand (f.text ++ rest) = some (f.packet, rest) := by
  rw [Intact.packet, ← Payload.packet_of_allHex f.allHex]
  exact readCommand_window f.toPayload rest

theorem readCommands_line (frames : List Intact) :
    readCommands (line frames) = frames.map Intact.packet := by
  induction frames with
  | nil =>
      exact readCommands_of_none rfl
  | cons f rest ih =>
      rw [List.map_cons, ← ih]
      exact readCommands_of_some (readCommand_intact f (line rest))

theorem readCommand_discard {seven : List UInt8} (hlength : seven.length = 7)
    (hend : ETX ∉ seven.getLast?) (rest : List UInt8) :
    readCommand (STX :: seven ++ rest) = readCommand rest := by
  rcases seven with _ | ⟨b1, _ | ⟨b2, _ | ⟨b3, _ | ⟨b4, _ | ⟨b5, _ | ⟨b6, _ |
    ⟨last, tail⟩⟩⟩⟩⟩⟩⟩
  case cons.cons.cons.cons.cons.cons.cons =>
    have htail : tail = [] := by simpa using hlength
    have hlast : last ≠ ETX := by simpa [htail] using hend
    rw [htail]
    exact readCommand_bad ⟨b1, b2, b3, b4, b5, b6⟩ hlast rest
  all_goals
    simp at hlength

theorem readCommand_straddle {short : List UInt8} (h : short.length ≤ 6)
    (f : Intact) (rest : List UInt8) :
    readCommand (STX :: short ++ (f.text ++ rest)) = readCommand rest := by
  obtain ⟨k, hk⟩ : exists k, short.length + (k + 1) = 7 :=
    ⟨6 - short.length, by omega⟩
  -- The window ends inside the packet, before its ETX.
  have hbytes : f.text = STX :: f.toPayload.bytes ++ [ETX] := rfl
  have htake : f.text.take (k + 1) = STX :: f.toPayload.bytes.take k := by
    have hle : k ≤ f.toPayload.bytes.length := by
      simp only [Payload.bytes, List.length_cons, List.length_nil]
      omega
    rw [hbytes, List.cons_append, List.take_succ_cons,
      List.take_append_of_le_length hle]
  have hend : ETX ∉ (short ++ f.text.take (k + 1)).getLast? := by
    rw [htake, List.getLast?_append_of_ne_nil _ (List.cons_ne_nil _ _)]
    intro hmem
    rcases List.mem_cons.mp (List.mem_of_getLast? hmem) with heq | hdigit
    · revert heq
      decide
    · exact (isHexDigit_ne (f.allHex ETX (List.mem_of_mem_take hdigit))).right rfl
  have hnoise : STX ∉ f.text.drop (k + 1) := by
    rw [hbytes, List.cons_append, List.drop_succ_cons]
    intro hmem
    rcases List.mem_append.mp (List.mem_of_mem_drop hmem) with hdigit | hlast
    · exact (isHexDigit_ne (f.allHex STX hdigit)).left rfl
    · revert hlast
      decide
  have hlength : (short ++ f.text.take (k + 1)).length = 7 := by
    rw [htake, List.length_append, List.length_cons, List.length_take]
    simp only [Payload.bytes, List.length_cons, List.length_nil]
    omega
  calc
    readCommand (STX :: short ++ (f.text ++ rest))
        = readCommand (STX :: (short ++ f.text.take (k + 1)) ++
            (f.text.drop (k + 1) ++ rest)) := by
          rw [List.cons_append, List.cons_append, List.append_assoc,
            ← List.append_assoc (f.text.take (k + 1)), List.take_append_drop]
    _ = readCommand (f.text.drop (k + 1) ++ rest) :=
          readCommand_discard hlength hend _
    _ = readCommand rest := readCommand_noise hnoise rest

theorem readCommand_before_line {garbage : List UInt8}
    (h : readCommand garbage = none) (frames : List Intact) :
    readCommand (garbage ++ line frames) = readCommand (line frames) ∨
      readCommand (garbage ++ line frames) = readCommand (line frames.tail) := by
  fun_induction readCommand garbage with
  | case1 =>
      exact Or.inl rfl
  | case2 b1 b2 b3 b4 b5 b6 b7 tail hb7 ih =>
      have hbad := readCommand_bad ⟨b1, b2, b3, b4, b5, b6⟩ hb7
        (tail ++ line frames)
      rcases ih h with hall | htail
      · exact Or.inl (hbad.trans hall)
      · exact Or.inr (hbad.trans htail)
  | case3 =>
      cases h
  | case4 tail htail =>
      cases frames with
      | nil =>
          left
          rw [line, List.flatMap_nil, List.append_nil, readCommand.eq_def]
          dsimp only
          rw [if_pos rfl]
          split
          · exact absurd rfl (htail _ _ _ _ _ _ _ _)
          · rfl
      | cons f rest =>
          right
          have hshort : tail.length ≤ 6 := by
            by_contra hlong
            rcases tail with _ | ⟨c1, _ | ⟨c2, _ | ⟨c3, _ | ⟨c4, _ | ⟨c5, _ |
              ⟨c6, _ | ⟨c7, tail⟩⟩⟩⟩⟩⟩⟩
            case cons.cons.cons.cons.cons.cons.cons =>
              exact htail c1 c2 c3 c4 c5 c6 c7 tail rfl
            all_goals
              simp only [List.length_cons, List.length_nil] at hlong
              omega
          exact readCommand_straddle hshort f (line rest)
  | case5 b0 tail hb0 ih =>
      rw [List.cons_append, readCommand_skip hb0]
      exact ih h

/-!
# Loss on a line
-/

theorem readCommands_from_windows (bytes : List UInt8) :
    exists (pieces : List (List UInt8 × Payload)) (tail : List UInt8),
      bytes = pieces.flatMap (fun piece => piece.1 ++ piece.2.window) ++ tail ∧
        readCommands bytes = pieces.map fun piece => piece.2.packet := by
  fun_induction readCommands bytes with
  | case1 bytes h =>
      exact ⟨[], bytes, rfl, rfl⟩
  | case2 bytes p rest h ih =>
      rcases ih with ⟨pieces, tail, hrest, hpackets⟩
      rcases readCommand_from_window h with ⟨before, q, hbytes, hp⟩
      refine ⟨(before, q) :: pieces, tail, ?_, ?_⟩
      · rw [hbytes, hrest]
        simp
      · rw [hpackets, hp]
        rfl

theorem readCommands_before_line (garbage : List UInt8) (frames : List Intact) :
    readCommands (garbage ++ line frames) =
        readCommands garbage ++ frames.map Intact.packet ∨
      readCommands (garbage ++ line frames) =
        readCommands garbage ++ frames.tail.map Intact.packet := by
  fun_induction readCommands garbage with
  | case1 garbage h =>
      rw [List.nil_append, List.nil_append, ← readCommands_line frames,
        ← readCommands_line frames.tail]
      exact (readCommand_before_line h frames).imp readCommands_congr
        readCommands_congr
  | case2 garbage p rest h ih =>
      rw [readCommands_of_some (readCommand_append_of_some h (line frames)),
        List.cons_append, List.cons_append]
      exact ih.imp (congrArg (p :: ·)) (congrArg (p :: ·))

/-- On any garbage the reader returns the packets of windows that lie in the
garbage, and then those of the well-formed packets behind it, all of them or all
but the first. -/
theorem readCommands_garbage (garbage : List UInt8) (frames : List Intact) :
    exists (pieces : List (List UInt8 × Payload)) (tail : List UInt8),
      garbage = pieces.flatMap (fun piece => piece.1 ++ piece.2.window) ++ tail ∧
        (readCommands (garbage ++ line frames) =
            (pieces.map fun piece => piece.2.packet) ++
              frames.map Intact.packet ∨
          readCommands (garbage ++ line frames) =
            (pieces.map fun piece => piece.2.packet) ++
              frames.tail.map Intact.packet) := by
  rcases readCommands_from_windows garbage with ⟨pieces, tail, hgarbage, hpackets⟩
  refine ⟨pieces, tail, hgarbage, ?_⟩
  rw [← hpackets]
  exact readCommands_before_line garbage frames

/-- A packet that is cut anywhere takes the next one with it, and no other. -/
theorem readCommands_cut (cut : Intact) {k : Nat} (hlo : 1 ≤ k) (hhi : k ≤ 7)
    (next : Intact) (frames : List Intact) :
    readCommands (cut.text.take k ++ line (next :: frames)) =
      frames.map Intact.packet := by
  obtain ⟨j, rfl⟩ : exists j, k = j + 1 := ⟨k - 1, by omega⟩
  have hcut : cut.text.take (j + 1) =
      STX :: (cut.toPayload.bytes ++ [ETX]).take j := rfl
  have hshort : ((cut.toPayload.bytes ++ [ETX]).take j).length ≤ 6 := by
    rw [List.length_take]
    omega
  have hread := readCommand_straddle hshort next (line frames)
  rw [← hcut] at hread
  show readCommands (cut.text.take (j + 1) ++ (next.text ++ line frames)) = _
  rw [← readCommands_line frames]
  exact readCommands_congr hread

def pingText : Intact where
  toPayload := ⟨0x30, 0x30, 0x30, 0x30, 0x30, 0x30⟩
  allHex := by decide

/-- Behind a PING that is cut after its STX, the first of two PINGs is lost. -/
theorem readCommands_cut_ping :
    readCommands (pingText.text.take 1 ++ line [pingText, pingText]) =
      [pingText.packet] :=
  readCommands_cut pingText (by decide) (by decide) pingText [pingText]

/-- The PING behind a PING that is cut after its STX is not returned. -/
theorem not_readCommands_cut_all :
    ¬ forall (cut : Intact) (k : Nat), 1 ≤ k -> k ≤ 7 ->
      forall (next : Intact) (frames : List Intact),
        readCommands (cut.text.take k ++ line (next :: frames)) =
          (next :: frames).map Intact.packet := by
  intro h
  have hall := h pingText 1 (by decide) (by decide) pingText []
  have hnone : readCommand (pingText.text.take 1 ++ line [pingText]) = none := by
    decide +kernel
  rw [readCommands_of_none hnone] at hall
  cases hall

end Receiver
end BoxTrials
