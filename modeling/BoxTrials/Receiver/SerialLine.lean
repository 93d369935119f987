import BoxTrials.Foundation.TapeReader
import BoxTrials.Receiver.PacketGrammar
import BoxTrials.Receiver.Runs

/-!
# The receiver on a serial line

Bytes arrive at any time and wait in the input until `ReadCommand` takes them,
which only `loop()` calls.  This module runs the machine on such a line, byte by
byte, and shows that its runs are those of the machine that is given whole
packets.
-/

namespace BoxTrials
namespace Receiver

open Foundation

/-!
# The line
-/

/-- Where `ReadCommand` is. -/
inductive Reading where
  /-- It is not called. -/
  | idle
  /-- It reads until it finds an STX. -/
  | seeking
  /-- It has an STX and waits for seven bytes. -/
  | collecting
  deriving DecidableEq, Repr

/-- The receiver with its serial input. -/
structure Port where
  device : Device
  reading : Reading
  /-- The bytes that have arrived and are not read. -/
  waiting : List UInt8
  /-- The bytes that were read. -/
  taken : List UInt8

def Port.boot : Port where
  device := Device.boot
  reading := .idle
  waiting := []
  taken := []

def Port.arrive (bytes : List UInt8) (p : Port) : Port :=
  { p with waiting := p.waiting ++ bytes }

def Payload.command (q : Payload) : Command where
  packet := q.packet
  decoded := readCommand_decoded (readCommand_window q [])

/-- A step of `ReadCommand`, or of the rest of the program while it is not
called. The commands of the world are not looked at. -/
def Port.step (w : World) (p : Port) : Port :=
  match p.reading with
  | .idle =>
      if p.device.pc = .loopTop then
        if p.waiting = [] then
          { p with
            device :=
              { p.device with pc := .loopStream, reads := p.device.reads + 1 } }
        else
          { p with reading := .seeking }
      else
        { p with device := Receiver.step w p.device }
  | .seeking =>
      match p.waiting with
      | [] => p
      | b0 :: rest =>
          { p with
            reading := if b0 = STX then .collecting else .seeking
            waiting := rest
            taken := p.taken ++ [b0] }
  | .collecting =>
      match p.waiting with
      | b1 :: b2 :: b3 :: b4 :: b5 :: b6 :: b7 :: rest =>
          let p :=
            { p with
              waiting := rest
              taken := p.taken ++ [b1, b2, b3, b4, b5, b6, b7] }
          if b7 ≠ ETX then
            { p with reading := .seeking }
          else
            { p with
              device := receive w
                (Payload.command ⟨b1, b2, b3, b4, b5, b6⟩) p.device
              reading := .idle }
      | _ => p

/-- The receiver after `n` steps from boot, when `arrivals n` is what arrives
before step `n`. -/
def portRun (w : World) (arrivals : Nat -> List UInt8) : Nat -> Port
  | 0 => Port.boot
  | n + 1 => ((portRun w arrivals n).arrive (arrivals n)).step w

/-!
# The kinds of steps
-/

inductive PortMove (w : World) (p : Port) : Port -> Prop where
  | nothing (hreading : p.reading = .idle) (hpc : p.device.pc = .loopTop)
      (hwaiting : p.waiting = []) :
      PortMove w p
        { p with
          device :=
            { p.device with pc := .loopStream, reads := p.device.reads + 1 } }
  | calls (hreading : p.reading = .idle) (hpc : p.device.pc = .loopTop)
      (hwaiting : p.waiting ≠ []) :
      PortMove w p { p with reading := .seeking }
  | goesOn (hreading : p.reading = .idle) (hpc : p.device.pc ≠ .loopTop) :
      PortMove w p { p with device := step w p.device }
  | waits (hreading : p.reading ≠ .idle) : PortMove w p p
  | skips {b0 : UInt8} {rest : List UInt8} (hreading : p.reading = .seeking)
      (hwaiting : p.waiting = b0 :: rest) (hb0 : b0 ≠ STX) :
      PortMove w p { p with waiting := rest, taken := p.taken ++ [b0] }
  | finds {rest : List UInt8} (hreading : p.reading = .seeking)
      (hwaiting : p.waiting = STX :: rest) :
      PortMove w p
        { p with
          reading := .collecting
          waiting := rest
          taken := p.taken ++ [STX] }
  | drops {q : Payload} {last : UInt8} {rest : List UInt8}
      (hreading : p.reading = .collecting)
      (hwaiting : p.waiting = q.bytes ++ last :: rest) (hlast : last ≠ ETX) :
      PortMove w p
        { p with
          reading := .seeking
          waiting := rest
          taken := p.taken ++ (q.bytes ++ [last]) }
  | takes {q : Payload} {rest : List UInt8} (hreading : p.reading = .collecting)
      (hwaiting : p.waiting = q.bytes ++ ETX :: rest) :
      PortMove w p
        { device := receive w q.command p.device
          reading := .idle
          waiting := rest
          taken := p.taken ++ (q.bytes ++ [ETX]) }

theorem portStep_move (w : World) (p : Port) : PortMove w p (p.step w) := by
  rcases p with ⟨device, reading, waiting, taken⟩
  cases reading with
  | idle =>
      simp only [Port.step]
      split
      · rename_i hpc
        split
        · rename_i hwaiting
          exact PortMove.nothing rfl hpc hwaiting
        · rename_i hwaiting
          exact PortMove.calls rfl hpc hwaiting
      · rename_i hpc
        exact PortMove.goesOn rfl hpc
  | seeking =>
      simp only [Port.step]
      split
      · exact PortMove.waits Reading.noConfusion
      · split
        · rename_i hb0
          subst hb0
          exact PortMove.finds rfl rfl
        · rename_i hb0
          exact PortMove.skips rfl rfl hb0
  | collecting =>
      simp only [Port.step]
      split
      · rename_i b1 b2 b3 b4 b5 b6 b7 rest
        split
        · rename_i hb7
          exact @PortMove.drops w _ ⟨b1, b2, b3, b4, b5, b6⟩ b7 rest rfl rfl hb7
        · rename_i hb7
          have hend : b7 = ETX := Decidable.not_not.mp hb7
          subst hend
          exact @PortMove.takes w _ ⟨b1, b2, b3, b4, b5, b6⟩ rest rfl rfl
      · exact PortMove.waits Reading.noConfusion

theorem portRun_move (w : World) (arrivals : Nat -> List UInt8) (n : Nat) :
    PortMove w ((portRun w arrivals n).arrive (arrivals n))
      (portRun w arrivals (n + 1)) :=
  portStep_move w _

/-!
# Runs with whole packets
-/

def World.receives (w : World) (cmds : Nat -> Option Command) : World :=
  { w with command := cmds }

theorem step_receives (w : World) {cmds cmds' : Nat -> Option Command}
    {d : Device} (h : d.pc = .loopTop -> cmds d.reads = cmds' d.reads) :
    step (w.receives cmds) d = step (w.receives cmds') d := by
  cases hpc : d.pc with
  | loopTop =>
      simp only [step, hpc, World.receives, h hpc]
      rfl
  | _ =>
      simp only [step, hpc] <;> rfl

def packetReader (w : World) : TapeReader (Option Command) Device where
  step := fun cmds d => step (w.receives cmds) d
  position := Device.reads
  position_le := fun cmds d => move_reads (step_move (w.receives cmds) d)
  step_congr := by
    intro cmds cmds' d h
    apply (step_receives w _).symm
    intro hpc
    apply h d.reads (Nat.le_refl _)
    rw [step_reads_loopTop _ hpc]
    exact Nat.lt_succ_self _

theorem run_extends (w : World) (cmds : Nat -> Option Command) (m : Nat)
    (c : Option Command) :
    exists cmds', run (w.receives cmds') (m + 1) =
      step (w.receives fun _ => c) (run (w.receives cmds) m) :=
  (packetReader w).run_extends cmds (fun _ => c) m Device.boot

/-!
# The refinement
-/

theorem aligned_window (q : Payload) : Aligned q.window [q.packet] := by
  intro rest
  rw [readCommands_of_some (readCommand_window q rest)]
  rfl

theorem aligned_bad (q : Payload) {last : UInt8} (h : last ≠ ETX) :
    Aligned (STX :: q.bytes ++ [last]) [] := by
  intro rest
  rw [List.append_assoc]
  exact readCommands_congr (readCommand_bad q h rest)

theorem portMove_device {w : World} {p p' : Port} (hmove : PortMove w p p')
    (hreading : p.reading ≠ .idle -> p.device.pc = .loopTop) :
    p'.device = p.device ∨
      exists c, p'.device = step (w.receives fun _ => c) p.device := by
  cases hmove with
  | nothing _ hpc =>
      exact Or.inr ⟨none, by simp only [step, hpc, World.receives]⟩
  | goesOn _ hpc =>
      exact Or.inr ⟨none, @step_receives w w.command _ _ fun htop =>
        absurd htop hpc⟩
  | @takes q rest hcollecting =>
      have hpc := hreading (by rw [hcollecting]; decide)
      have hcommand : (w.receives fun _ => some q.command).command
          p.device.reads = some q.command := rfl
      exact Or.inr ⟨some q.command, (step_receive hpc hcommand).symm⟩
  | calls | waits | skips | finds | drops => exact Or.inl rfl

/-- The receiver on a line is the receiver with the packets that `ReadCommand`
finds in the bytes that were taken. -/
structure PortRefines (w : World) (arrived : List UInt8) (p : Port) : Prop where
  runs : exists cmds m, p.device = run (w.receives cmds) m
  reading : p.reading ≠ .idle -> p.device.pc = .loopTop
  bytes : p.taken ++ p.waiting = arrived
  aligned : p.reading ≠ .collecting -> Aligned p.taken p.device.history
  collecting : p.reading = .collecting ->
    exists head, p.taken = head ++ [STX] ∧ Aligned head p.device.history

theorem portRefines_arrive {w : World} {arrived : List UInt8} {p : Port}
    (h : PortRefines w arrived p) (bytes : List UInt8) :
    PortRefines w (arrived ++ bytes) (p.arrive bytes) where
  runs := h.runs
  reading := h.reading
  bytes := by
    rw [← h.bytes, List.append_assoc]
    rfl
  aligned := h.aligned
  collecting := h.collecting

theorem portRefines_move {w : World} {arrived : List UInt8} {p p' : Port}
    (h : PortRefines w arrived p) (hmove : PortMove w p p') :
    PortRefines w arrived p' := by
  have hruns : exists cmds m, p'.device = run (w.receives cmds) m := by
    rcases h.runs with ⟨cmds, m, hrun⟩
    rcases portMove_device hmove h.reading with hsame | ⟨c, hstep⟩
    · exact ⟨cmds, m, hsame.trans hrun⟩
    · rcases run_extends w cmds m c with ⟨cmds', hnext⟩
      exact ⟨cmds', m + 1, by rw [hstep, hnext, hrun]⟩
  cases hmove with
  | nothing hreading =>
      constructor
      case runs => exact hruns
      case reading => exact fun hne => absurd hreading hne
      case bytes => exact h.bytes
      case aligned => exact h.aligned
      case collecting => exact fun heq => by rw [hreading] at heq; cases heq
  | calls hreading hpc =>
      constructor
      case runs => exact hruns
      case reading => exact fun _ => hpc
      case bytes => exact h.bytes
      case aligned => exact fun _ => h.aligned (by rw [hreading]; decide)
      case collecting => exact fun heq => by cases heq
  | goesOn hreading hpc =>
      constructor
      case runs => exact hruns
      case reading => exact fun hne => absurd hreading hne
      case bytes => exact h.bytes
      case aligned =>
        rw [move_history (step_move w p.device) hpc]
        exact h.aligned
      case collecting => exact fun heq => by rw [hreading] at heq; cases heq
  | waits => exact h
  | @skips b0 rest hreading hwaiting hb0 =>
      have hnoise : Aligned [b0] [] := aligned_noise fun hmem =>
        hb0 (List.mem_singleton.mp hmem).symm
      have haligned := aligned_append (h.aligned (by rw [hreading]; decide)) hnoise
      rw [List.append_nil] at haligned
      constructor
      case runs => exact hruns
      case reading => exact h.reading
      case bytes =>
        rw [← h.bytes, hwaiting, List.append_assoc]
        rfl
      case aligned => exact fun _ => haligned
      case collecting => exact fun heq => by rw [hreading] at heq; cases heq
  | finds hreading hwaiting =>
      constructor
      case runs => exact hruns
      case reading => exact fun _ => h.reading (by rw [hreading]; decide)
      case bytes =>
        rw [← h.bytes, hwaiting, List.append_assoc]
        rfl
      case aligned => exact fun hne => absurd rfl hne
      case collecting =>
        exact fun _ => ⟨p.taken, rfl, h.aligned (by rw [hreading]; decide)⟩
  | @drops q last rest hreading hwaiting hlast =>
      rcases h.collecting hreading with ⟨head, htaken, hhead⟩
      have haligned := aligned_append hhead (aligned_bad q hlast)
      rw [List.append_nil] at haligned
      constructor
      case runs => exact hruns
      case reading => exact fun _ => h.reading (by rw [hreading]; decide)
      case bytes =>
        rw [← h.bytes, hwaiting]
        simp
      case aligned =>
        intro _
        rw [htaken]
        simpa using haligned
      case collecting => exact fun heq => by cases heq
  | @takes q rest hreading hwaiting =>
      rcases h.collecting hreading with ⟨head, htaken, hhead⟩
      have haligned := aligned_append hhead (aligned_window q)
      constructor
      case runs => exact hruns
      case reading => exact fun hne => absurd rfl hne
      case bytes =>
        rw [← h.bytes, hwaiting]
        simp
      case aligned =>
        intro _
        rw [receive_history, htaken]
        simpa [Payload.window, Payload.command] using haligned
      case collecting => exact fun heq => by cases heq

theorem portRun_refines (w : World) (arrivals : Nat -> List UInt8) (n : Nat) :
    PortRefines w ((List.range n).flatMap arrivals) (portRun w arrivals n) := by
  induction n with
  | zero =>
      constructor
      case runs => exact ⟨fun _ => none, 0, rfl⟩
      case reading => exact fun hne => absurd rfl hne
      case bytes => rfl
      case aligned => exact fun _ _ => rfl
      case collecting => exact fun heq => by cases heq
  | succ n ih =>
      rw [List.range_succ, List.flatMap_append, List.flatMap_singleton]
      exact portRefines_move (portRefines_arrive ih (arrivals n))
        (portRun_move w arrivals n)

theorem portRun_device (w : World) (arrivals : Nat -> List UInt8) (n : Nat) :
    (portRun w arrivals (n + 1)).device = (portRun w arrivals n).device ∨
      exists c, (portRun w arrivals (n + 1)).device =
        step (w.receives fun _ => c) (portRun w arrivals n).device := by
  have hdevice := portMove_device (portRun_move w arrivals n)
    (portRun_refines w arrivals n).reading
  exact hdevice

end Receiver
end BoxTrials
