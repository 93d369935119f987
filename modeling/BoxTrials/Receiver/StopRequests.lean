import BoxTrials.Receiver.SerialLine

/-!
# Stops that wait on the line

`TestSequence` runs all its trials without a look at the serial input.  A stop
that arrives meanwhile is found when `loop()` is at its top again, and from
there on nothing begins until the next start.
-/

namespace BoxTrials
namespace Receiver

open Foundation

/-- The packet is the next one that the reader finds. -/
def WaitsNext (p : Port) (f : Intact) : Prop :=
  exists noise rest, p.waiting = noise ++ (f.text ++ rest) ∧ STX ∉ noise

/-!
# Waiting
-/

theorem portRun_busy {w : World} {arrivals : Nat -> List UInt8} {n : Nat}
    (hpc : (portRun w arrivals n).device.pc ≠ .loopTop) :
    (portRun w arrivals (n + 1)).reading = .idle ∧
      (portRun w arrivals (n + 1)).taken = (portRun w arrivals n).taken ∧
      (portRun w arrivals (n + 1)).waiting =
        (portRun w arrivals n).waiting ++ arrivals n := by
  have hidle : (portRun w arrivals n).reading = .idle := by
    by_contra hne
    exact hpc ((portRun_refines w arrivals n).reading hne)
  have hmove := portRun_move w arrivals n
  generalize portRun w arrivals (n + 1) = p' at hmove
  cases hmove with
  | nothing _ htop | calls _ htop => exact absurd htop hpc
  | goesOn => exact ⟨hidle, rfl, rfl⟩
  | waits hreading => exact absurd hidle hreading
  | skips hreading | finds hreading | drops hreading | takes hreading =>
      rw [Port.arrive, hidle] at hreading
      cases hreading

theorem waitsNext_arrives {p p' : Port} {f : Intact} {bytes : List UInt8}
    (h : WaitsNext p f) (hwaiting : p'.waiting = p.waiting ++ bytes) :
    WaitsNext p' f := by
  rcases h with ⟨noise, rest, heq, hnoise⟩
  refine ⟨noise, rest ++ bytes, ?_, hnoise⟩
  rw [hwaiting, heq, List.append_assoc, List.append_assoc]

theorem waitsNext_until {w : World} {arrivals : Nat -> List UInt8} {n m : Nat}
    {f : Intact} (h : WaitsNext (portRun w arrivals n) f)
    (hreading : (portRun w arrivals n).reading ≠ .collecting) (hle : n ≤ m)
    (hbusy : forall j, n ≤ j -> j < m ->
      (portRun w arrivals j).device.pc ≠ .loopTop) :
    WaitsNext (portRun w arrivals m) f ∧
      (portRun w arrivals m).reading ≠ .collecting ∧
      (portRun w arrivals m).taken = (portRun w arrivals n).taken := by
  induction m, hle using Nat.le_induction with
  | base =>
      exact ⟨h, hreading, rfl⟩
  | succ m hle ih =>
      rcases ih fun j hlo hhi => hbusy j hlo (Nat.lt_succ_of_lt hhi) with
        ⟨hwaits, _, htaken⟩
      rcases portRun_busy (hbusy m hle (Nat.lt_succ_self m)) with
        ⟨hidle, hsame, hwaiting⟩
      exact ⟨waitsNext_arrives hwaits hwaiting, by rw [hidle]; decide,
        hsame.trans htaken⟩

/-!
# Reading
-/

def DeviceRests (w : World) (arrivals : Nat -> List UInt8) (n k : Nat) : Prop :=
  forall j, n ≤ j -> j ≤ k ->
    (portRun w arrivals j).device = (portRun w arrivals n).device

theorem deviceRests_refl (w : World) (arrivals : Nat -> List UInt8) (n : Nat) :
    DeviceRests w arrivals n n := by
  intro j hlo hhi
  rw [Nat.le_antisymm hhi hlo]

theorem deviceRests_trans {w : World} {arrivals : Nat -> List UInt8}
    {n m k : Nat} (hle : n ≤ m) (h : DeviceRests w arrivals n m)
    (h' : DeviceRests w arrivals m k) : DeviceRests w arrivals n k := by
  intro j hlo hhi
  rcases Nat.le_total j m with hbefore | hafter
  · exact h j hlo hbefore
  · rw [h' j hafter hhi]
    exact h m hle (Nat.le_refl m)

theorem deviceRests_head {w : World} {arrivals : Nat -> List UInt8} {n k : Nat}
    (hsame : (portRun w arrivals (n + 1)).device =
      (portRun w arrivals n).device)
    (h : DeviceRests w arrivals (n + 1) k) : DeviceRests w arrivals n k := by
  intro j hlo hhi
  rcases Nat.eq_or_lt_of_le hlo with rfl | hlt
  · rfl
  · exact (h j hlt hhi).trans hsame

theorem seeking_finds {w : World} {arrivals : Nat -> List UInt8}
    (noise : List UInt8) {n : Nat} {q : Payload} {rest : List UInt8}
    (hreading : (portRun w arrivals n).reading = .seeking)
    (hwaiting : (portRun w arrivals n).waiting = noise ++ (q.window ++ rest))
    (hnoise : STX ∉ noise) :
    exists k rest', n ≤ k ∧ DeviceRests w arrivals n k ∧
      (portRun w arrivals k).reading = .collecting ∧
      (portRun w arrivals k).waiting = q.bytes ++ ETX :: rest' := by
  induction noise generalizing n rest with
  | nil =>
      have hnext : portRun w arrivals (n + 1) =
          { portRun w arrivals n with
            reading := .collecting
            waiting := q.bytes ++ ETX :: (rest ++ arrivals n)
            taken := (portRun w arrivals n).taken ++ [STX] } := by
        simp only [portRun, Port.step, Port.arrive, hreading, hwaiting]
        simp [Payload.window]
      refine ⟨n + 1, rest ++ arrivals n, Nat.le_succ n, ?_, ?_, ?_⟩
      · exact deviceRests_head (by rw [hnext]) (deviceRests_refl w arrivals _)
      · rw [hnext]
      · rw [hnext]
  | cons b0 tail ih =>
      have hb0 : b0 ≠ STX := fun heq => hnoise (heq ▸ List.mem_cons_self ..)
      have hnext : portRun w arrivals (n + 1) =
          { portRun w arrivals n with
            reading := .seeking
            waiting := tail ++ (q.window ++ (rest ++ arrivals n))
            taken := (portRun w arrivals n).taken ++ [b0] } := by
        simp only [portRun, Port.step, Port.arrive, hreading, hwaiting]
        simp [hb0]
      rcases @ih (n + 1) (rest ++ arrivals n) (by rw [hnext]) (by rw [hnext])
        (fun hmem => hnoise (List.mem_cons_of_mem b0 hmem)) with
        ⟨k, rest', hle, hrests, hcollecting, hbytes⟩
      exact ⟨k, rest', Nat.le_of_succ_le hle,
        deviceRests_head (by rw [hnext]) hrests, hcollecting, hbytes⟩

theorem collecting_takes {w : World} {arrivals : Nat -> List UInt8} {n : Nat}
    {q : Payload} {rest : List UInt8}
    (hreading : (portRun w arrivals n).reading = .collecting)
    (hwaiting : (portRun w arrivals n).waiting = q.bytes ++ ETX :: rest) :
    (portRun w arrivals (n + 1)).device =
      receive w q.command (portRun w arrivals n).device := by
  simp only [portRun, Port.step, Port.arrive, hreading, hwaiting]
  simp [Payload.bytes]

theorem loopTop_takes {w : World} {arrivals : Nat -> List UInt8} {n : Nat}
    {f : Intact} (h : WaitsNext (portRun w arrivals n) f)
    (hreading : (portRun w arrivals n).reading ≠ .collecting)
    (hpc : (portRun w arrivals n).device.pc = .loopTop) :
    exists k, n ≤ k ∧ DeviceRests w arrivals n k ∧
      (portRun w arrivals (k + 1)).device =
        receive w f.toPayload.command (portRun w arrivals n).device := by
  have hseeking : exists k noise rest, n ≤ k ∧ DeviceRests w arrivals n k ∧
      (portRun w arrivals k).reading = .seeking ∧
      (portRun w arrivals k).waiting =
        noise ++ (f.toPayload.window ++ rest) ∧ STX ∉ noise := by
    rcases h with ⟨noise, rest, hwaiting, hnoise⟩
    cases hcase : (portRun w arrivals n).reading with
    | seeking =>
        exact ⟨n, noise, rest, Nat.le_refl n, deviceRests_refl w arrivals n,
          hcase, hwaiting, hnoise⟩
    | collecting => exact absurd hcase hreading
    | idle =>
        have hnext : portRun w arrivals (n + 1) =
            { (portRun w arrivals n).arrive (arrivals n) with
              reading := .seeking } := by
          simp only [portRun, Port.step, Port.arrive, hcase, hpc, hwaiting]
          simp [Intact.text, Payload.window]
        refine ⟨n + 1, noise, rest ++ arrivals n, Nat.le_succ n, ?_, ?_, ?_,
          hnoise⟩
        · exact deviceRests_head (by rw [hnext]; rfl)
            (deviceRests_refl w arrivals _)
        · rw [hnext]
        · rw [hnext]
          simp [Port.arrive, hwaiting, Intact.text]
  rcases hseeking with ⟨k, noise, rest, hle, hrests, hseeks, hwaiting, hnoise⟩
  rcases seeking_finds noise hseeks hwaiting hnoise with
    ⟨k', rest', hle', hrests', hcollecting, hbytes⟩
  refine ⟨k', Nat.le_trans hle hle', deviceRests_trans hle hrests hrests', ?_⟩
  rw [collecting_takes hcollecting hbytes, hrests' k' hle' (Nat.le_refl k'),
    hrests k hle (Nat.le_refl k)]

/-!
# After a stop
-/

structure Halted (d : Device) : Prop where
  state : d.globals.state = MODE_INIT
  outside : d.pc.inTest = false

theorem halted_move {w : World} {d d' : Device} (h : Halted d)
    (hmove : Move w d d') :
    exists later, d'.history = d.history ++ later ∧
      (Halted d' ∨ exists p, p ∈ later ∧ IsStart p) := by
  cases hmove with
  | @receives c =>
      refine ⟨[c.packet], receive_history w c d, ?_⟩
      by_cases hstart : IsStart c.packet
      · exact Or.inr ⟨c.packet, List.mem_singleton_self _, hstart⟩
      · refine Or.inl ⟨?_, receive_outsideTest w c d⟩
        by_cases hstop : IsStop c.packet
        · rcases doCommand_stop hstop (w.time d.reads % wordModulus) d.globals
            with ⟨out, heq⟩
          simp only [receive, heq]
        · have hsame := doCommand_sameRun_of_not hstart hstop
            (w.time d.reads % wordModulus) d.globals
          exact hsame.state.trans h.state
  | streams _ hstate =>
      rw [h.state] at hstate
      cases hstate
  | tests htest =>
      rw [h.outside] at htest
      cases htest
  | nothing | rests | loops =>
      exact ⟨[], (List.append_nil _).symm, Or.inl ⟨h.state, rfl⟩⟩
  | stays => exact ⟨[], (List.append_nil _).symm, Or.inl h⟩

theorem halted_until_start {w : World} {arrivals : Nat -> List UInt8}
    {m k : Nat} (h : Halted (portRun w arrivals m).device) (hle : m ≤ k) :
    exists later, (portRun w arrivals k).device.history =
        (portRun w arrivals m).device.history ++ later ∧
      (Halted (portRun w arrivals k).device ∨
        exists p, p ∈ later ∧ IsStart p) := by
  induction k, hle using Nat.le_induction with
  | base =>
      exact ⟨[], (List.append_nil _).symm, Or.inl h⟩
  | succ k _ ih =>
      rcases ih with ⟨later, hhistory, hcase⟩
      rcases portRun_device w arrivals k with hsame | ⟨c, hstep⟩
      · rw [hsame]
        exact ⟨later, hhistory, hcase⟩
      · have hmove := step_move (w.receives fun _ => c) (portRun w arrivals k).device
        rw [← hstep] at hmove
        rcases hcase with hhalted | ⟨p, hmem, hstart⟩
        · rcases halted_move hhalted hmove with ⟨next, hnext, hrest⟩
          refine ⟨later ++ next, by rw [hnext, hhistory, List.append_assoc], ?_⟩
          rcases hrest with hhalted' | ⟨p, hmem, hstart⟩
          · exact Or.inl hhalted'
          · exact Or.inr ⟨p, List.mem_append_right _ hmem, hstart⟩
        · rcases move_extends hmove with ⟨next, hnext⟩
          exact ⟨later ++ next, by rw [hnext, hhistory, List.append_assoc],
            Or.inr ⟨p, List.mem_append_left _ hmem, hstart⟩⟩

/-!
# Stops
-/

/-- From step `n` on nothing but a waiting stop is done, and no trial begins
after it until a start is received. -/
structure StopDone (w : World) (arrivals : Nat -> List UInt8) (n k : Nat)
    (f : Intact) : Prop where
  later : n ≤ k
  rests : DeviceRests w arrivals n k
  history : (portRun w arrivals (k + 1)).device.history =
    (portRun w arrivals n).device.history ++ [f.packet]
  state : (portRun w arrivals (k + 1)).device.globals.state = MODE_INIT
  quiet : forall j, k < j -> Begins (portRun w arrivals j).device ->
    exists later, (portRun w arrivals j).device.history =
        (portRun w arrivals (k + 1)).device.history ++ later ∧
      exists p, p ∈ later ∧ IsStart p

/-- A stop that waits is not looked at until `loop()` is at its top. There it is
done before anything else, and it keeps the next trial from beginning. -/
theorem stop_between_tests {w : World} {arrivals : Nat -> List UInt8}
    {n m : Nat} {f : Intact} (hwaits : WaitsNext (portRun w arrivals n) f)
    (hstop : IsStop f.packet)
    (hreading : (portRun w arrivals n).reading ≠ .collecting) (hle : n ≤ m)
    (hbusy : forall j, n ≤ j -> j < m ->
      (portRun w arrivals j).device.pc ≠ .loopTop) :
    (portRun w arrivals m).taken = (portRun w arrivals n).taken ∧
      WaitsNext (portRun w arrivals m) f ∧
      ((portRun w arrivals m).device.pc = .loopTop ->
        exists k, StopDone w arrivals m k f) := by
  rcases waitsNext_until hwaits hreading hle hbusy with
    ⟨hwaits', hreading', htaken⟩
  refine ⟨htaken, hwaits', ?_⟩
  intro hpc
  rcases loopTop_takes hwaits' hreading' hpc with ⟨k, hlater, hrests, hnext⟩
  have hpacket : f.toPayload.command.packet = f.packet :=
    Payload.packet_of_allHex f.allHex
  have hstate : (portRun w arrivals (k + 1)).device.globals.state =
      MODE_INIT := by
    rw [hnext]
    rcases doCommand_stop hstop
      (w.time (portRun w arrivals m).device.reads % wordModulus)
      (portRun w arrivals m).device.globals with ⟨out, heq⟩
    simp only [receive, hpacket, heq]
  have hhalted : Halted (portRun w arrivals (k + 1)).device :=
    ⟨hstate, by rw [hnext]; exact receive_outsideTest _ _ _⟩
  exists k
  constructor
  case later => exact hlater
  case rests => exact hrests
  case history => rw [hnext, receive_history, hpacket]
  case state => exact hstate
  case quiet =>
    intro j hlt hbegins
    rcases halted_until_start hhalted hlt with ⟨later, hhistory, hcase⟩
    rcases hcase with hrest | hstart
    · have hout := hrest.outside
      rw [hbegins.left] at hout
      cases hout
    · exact ⟨later, hhistory, hstart⟩

def stopText : Intact where
  toPayload := ⟨0x39, 0x30, 0x30, 0x30, 0x30, 0x30⟩
  allHex := by decide

/-- Two trials, for the objects 1 and 2, and a stop that arrives in the first
one. -/
def stopInTrial : Nat -> List UInt8 := fun n =>
  if n = 0 then
    frame NTRIALS 0 2 ++ frame TRIAL 1 1 ++ frame TRIAL 2 2 ++ frame STREAM 0 1
  else if n = 20 then
    stopText.text
  else
    []

def movingWorld : World :=
  World.scripted [] (fun n => n) monotone_id (fun _ b => b == 1)

theorem stopInTrial_waits {n : Nat} (h : n = 21 ∨ n = 23) :
    WaitsNext (portRun movingWorld stopInTrial n) stopText := by
  refine ⟨[], [], ?_, List.not_mem_nil⟩
  rcases h with rfl | rfl <;> decide +kernel

theorem stop_between_tests_stopInTrial :
    exists k, StopDone movingWorld stopInTrial 44 k stopText := by
  have hbusy : forall j, j < 44 -> 21 ≤ j ->
      (portRun movingWorld stopInTrial j).device.pc ≠ .loopTop := by
    decide +kernel
  exact (stop_between_tests (stopInTrial_waits (Or.inl rfl))
    ⟨by decide +kernel, by decide +kernel⟩ (by decide +kernel) (by decide)
    (fun j hlo hhi => hbusy j hhi hlo)).right.right (by decide +kernel)

/-- The stop is there before the second trial, and the trial begins. -/
theorem not_stop_before_trial :
    ¬ forall (w : World) (arrivals : Nat -> List UInt8) (n : Nat) (f : Intact),
      WaitsNext (portRun w arrivals n) f -> IsStop f.packet ->
        ¬ Begins (portRun w arrivals n).device := by
  intro h
  apply h movingWorld stopInTrial 23 stopText (stopInTrial_waits (Or.inr rfl))
    ⟨by decide +kernel, by decide +kernel⟩
  exact ⟨by decide +kernel, by decide +kernel⟩

end Receiver
end BoxTrials
