import BoxTrials.Receiver.Display

/-!
# The display protocol

A trial lights its box in blue, answers in green or red, and leaves all pins
low.  The answer is the one for what the wait loop has seen.
-/

namespace BoxTrials
namespace Receiver

/-!
# What a trial has seen

The objects that its wait loop has found moving decide its outcome.
-/

def Event.object? : Event -> Option Int
  | .observed object _ => some object
  | _ => none

def Device.seen (d : Device) : List Int :=
  d.trace.filterMap Event.object?

def outcomeOf (b : Int) : List Int -> Outcome
  | [] => .timeout
  | object :: _ => if object = b then .correct else .wrongBox

def Pc.outcome : Pc -> Outcome
  | .respond outcome | .trialEnd outcome => outcome
  | .flash _ | .gap _ => .wrongBox
  | _ => .timeout

theorem seen_append {d d' : Device} {events : List Event}
    (htrace : d'.trace = d.trace ++ events) :
    d'.seen = d.seen ++ events.filterMap Event.object? := by
  rw [Device.seen, htrace, List.filterMap_append]
  rfl

theorem tick_seen (w : World) (d : Device) : (tick w d).seen = d.seen := by
  rcases (tick_ticked w d).trace with ⟨samples, htrace, hsamples⟩
  have hnone : samples.filterMap Event.object? = [] := by
    rw [List.filterMap_eq_nil_iff]
    intro e he
    rw [hsamples e he]
    rfl
  rw [seen_append htrace, hnone, List.append_nil]

theorem control_outcome {pc pc' : Pc} (h : Control pc pc') :
    pc'.outcome = pc.outcome := by
  cases h <;> rfl

theorem eq_nil_of_timeout {b : Int} {seen : List Int}
    (h : outcomeOf b seen = .timeout) : seen = [] := by
  cases seen with
  | nil => rfl
  | cons object rest =>
      simp only [outcomeOf] at h
      split at h <;> cases h

theorem testMove_seen {w : World} {d d' : Device} {b : Int} {before seen : List Int}
    (h : TestMove w d d') (hpc : d'.pc.inTrial = true)
    (htarget : d.globals.target = some b) (hseen : d.seen = before ++ seen)
    (houtcome : outcomeOf b seen = d.pc.outcome) :
    exists seen', d'.seen = before ++ seen' ∧
      outcomeOf b seen' = d'.pc.outcome := by
  cases h with
  | begins hhead _ =>
      rw [hhead] at houtcome
      exact ⟨seen, (seen_append rfl).trans (by simp [hseen, Event.object?]), houtcome⟩
  | returns _ _ => cases hpc
  | openingTick htick =>
      rw [htick] at houtcome
      exact ⟨seen, (tick_seen w d).trans hseen, houtcome⟩
  | passTick htick =>
      rw [htick] at houtcome
      exact ⟨seen, (tick_seen w d).trans hseen, houtcome⟩
  | control hcontrol _ _ =>
      exact ⟨seen, hseen, houtcome.trans (control_outcome hcontrol).symm⟩
  | @observesTarget s b' hread htarget' _ =>
      rw [htarget, Option.some.injEq] at htarget'
      rw [hread] at houtcome
      have hnil := eq_nil_of_timeout houtcome
      refine ⟨[b'], (seen_append rfl).trans ?_, ?_⟩
      · simp [hseen, hnil, Event.object?]
      · exact if_pos htarget'.symm
  | @observesOther s b' j hscan _ htarget' hne _ =>
      rw [htarget, Option.some.injEq] at htarget'
      rw [hscan] at houtcome
      have hnil := eq_nil_of_timeout houtcome
      refine ⟨[j], (seen_append rfl).trans ?_, ?_⟩
      · simp [hseen, hnil, Event.object?]
      · exact if_neg (htarget' ▸ hne)
  | clears hscan _ _ =>
      rw [hscan] at houtcome
      exact ⟨seen, (seen_append rfl).trans (by simp [hseen, Event.object?]), houtcome⟩
  | finishes _ => cases hpc
  | fault _ _ => cases hpc

/-!
# Runs

While a trial is on, `OnScript` keeps its target, the LED calls that it has made and
what it has seen.
-/

def Device.after (w : World) (d : Device) (n : Nat) : Device :=
  (step w)^[n] d

theorem after_succ (w : World) (d : Device) (n : Nat) :
    d.after w (n + 1) = step w (d.after w n) :=
  Function.iterate_succ_apply' (step w) n d

theorem after_add (w : World) (d : Device) (m n : Nat) :
    (d.after w n).after w m = d.after w (n + m) := by
  rw [Device.after, Device.after, Device.after, Nat.add_comm,
    Function.iterate_add_apply]

def ledCalls (w : World) (d : Device) : Nat -> List Pins
  | 0 => []
  | n + 1 =>
      ledCalls w d n ++
        if (d.after w n).pc.callsLeds then [(d.after w (n + 1)).pins] else []

def Lasts (w : World) (d : Device) (m : Nat) : Prop :=
  forall i, 0 < i -> i ≤ m -> (d.after w i).pc.inTrial = true

theorem after_displays (w : World) {d : Device} (h : Displays d) (n : Nat) :
    Displays (d.after w n) := by
  induction n with
  | zero =>
      exact h
  | succ n ih =>
      rw [after_succ]
      exact step_displays w ih

theorem color_of_not_inTrial {pc : Pc} (h : pc.inTrial = false) :
    pc.color = Color.dark := by
  cases pc <;> first | rfl | cases h

theorem lasts_inTest {w : World} {d : Device} (hbegins : Begins d) {m i : Nat}
    (h : Lasts w d m) (hi : i ≤ m) : (d.after w i).pc.inTest = true := by
  rcases Nat.eq_zero_or_pos i with rfl | hpos
  · show d.pc.inTest = true
    rw [hbegins.left]
    rfl
  · exact inTest_of_inTrial (h i hpos hi)

structure OnScript (w : World) (d : Device) (b : Int) (m : Nat) : Prop where
  target : (d.after w m).globals.target = some b
  calls : ledCalls w d m = (d.after w m).pc.script.map (lit b)
  seen : exists seen, (d.after w m).seen = d.seen ++ seen ∧
    outcomeOf b seen = (d.after w m).pc.outcome

theorem onScript_of_lasts {w : World} {d : Device} {b : Int} {m : Nat}
    (hd : Displays d) (hbegins : Begins d) (htarget : d.globals.target = some b)
    (h : Lasts w d m) : OnScript w d b m := by
  induction m with
  | zero =>
      constructor
      case target => exact htarget
      case calls =>
        show [] = d.pc.script.map (lit b)
        rw [hbegins.left]
        rfl
      case seen =>
        refine ⟨[], (List.append_nil _).symm, ?_⟩
        show Outcome.timeout = d.pc.outcome
        rw [hbegins.left]
        rfl
  | succ m ih =>
      have hshort := ih fun i hpos hi => h i hpos (Nat.le_succ_of_le hi)
      have htest := lasts_inTest hbegins h (Nat.le_succ m)
      have htrial := h (m + 1) (Nat.succ_pos m) (Nat.le_refl _)
      have hshows := after_displays w hd (m + 1)
      have hcounted := (after_displays w hd m).counted
      have hstep : d.after w (m + 1) = testStep w (d.after w m) := by
        rw [after_succ, step_of_inTest w htest]
      have hmove := testStep_testMove w htest
      have hscript := testStep_script w hcounted (hstep ▸ htrial)
      rw [← hstep] at hmove hscript
      have htarget' := (testMove_target hmove htrial).trans hshort.target
      rcases hshort.seen with ⟨seen, hseen, houtcome⟩
      constructor
      case target => exact htarget'
      case calls =>
        have hpins := hshows.pins
        rw [htarget'] at hpins
        rw [ledCalls, hshort.calls, hscript, hpins]
        split
        · rw [List.map_append]
          rfl
        · rw [List.append_nil, List.append_nil]
      case seen => exact testMove_seen hmove htrial hshort.target hseen houtcome

/-!
# The protocol
-/

def Pc.waits : Pc -> Bool
  | .waitHead _ | .readTarget _ | .scan _ _ | .passTick _ => true
  | _ => false

/-- The colors of the commanded board in a whole trial. -/
def protocol : Outcome -> List Color
  | .correct => [.pureBlue, .pureGreen, .dark]
  | .wrongBox =>
      .pureBlue :: (List.replicate 5 [Color.pureRed, Color.dark]).flatten ++ [.dark]
  | .timeout => [.pureBlue, .pureRed, .dark]

theorem script_trialEnd (outcome : Outcome) :
    (Pc.trialEnd outcome).script ++ [Color.dark] = protocol outcome := by
  cases outcome <;> rfl

/-- What the boards show in the run from `d` on. -/
structure DisplayProtocol (w : World) (d : Device) : Prop where
  /-- Outside of a trial all pins are low. -/
  resting : forall n, (d.after w n).pc.inTrial = false ->
    (d.after w n).pins = Pins.dark
  /-- No board but the commanded one is lit. -/
  others : forall n b board, (d.after w n).globals.target = some b ->
    board ≠ b -> 1 ≤ board ∧ board ≤ 12 ->
      shown board (d.after w n).pins = some Color.dark
  waiting : forall n b, (d.after w n).pc.waits = true ->
    (d.after w n).globals.target = some b -> 1 ≤ b ∧ b ≤ 12 ->
      shown b (d.after w n).pins = some Color.pureBlue
  /-- The LED calls of a trial are those of its outcome, which is the one for
  what its wait loop has seen. -/
  trial : forall n m b outcome, Begins (d.after w n) ->
    (d.after w n).globals.target = some b -> Lasts w (d.after w n) m ->
      (d.after w (n + m)).pc = .trialEnd outcome ->
        ledCalls w (d.after w n) (m + 1) = (protocol outcome).map (lit b) ∧
          exists seen, (d.after w (n + m)).seen = (d.after w n).seen ++ seen ∧
            outcomeOf b seen = outcome

/-- With any sequence, any clock and any table, a receiver whose pins are low
before its trials keeps to the protocol. -/
theorem displayProtocol (w : World) (d : Device) (hpc : d.pc.inTrial = false)
    (hpins : d.pins = Pins.dark) : DisplayProtocol w d := by
  have hd : Displays d := by
    apply displays_of_dark hpins (color_of_not_inTrial hpc)
    cases h : d.pc with
    | flash j | gap j =>
        rw [h] at hpc
        cases hpc
    | _ => trivial
  constructor
  case resting =>
    intro n hrest
    rw [(after_displays w hd n).pins, color_of_not_inTrial hrest, display_dark]
  case others =>
    intro n b board htarget hne hboard
    rw [(after_displays w hd n).pins, htarget]
    exact shown_lit_ne hboard hne _
  case waiting =>
    intro n b hwaits htarget hb
    have hblue : (d.after w n).pc.color = Color.pureBlue := by
      cases h : (d.after w n).pc <;> first | rfl | (rw [h] at hwaits; cases hwaits)
    rw [(after_displays w hd n).pins, htarget, hblue]
    exact shown_lit hb Color.pureBlue
  case trial =>
    intro n m b outcome hbegins htarget hlasts hend
    have hdn := after_displays w hd n
    have hscript := onScript_of_lasts hdn hbegins htarget hlasts
    rw [← after_add] at hend ⊢
    constructor
    · have hhead : ((d.after w n).after w (m + 1)).pc.inTrial = false := by
        rw [after_succ]
        simp only [step, testStep, hend]
        rfl
      have hdark : ((d.after w n).after w (m + 1)).pins = Pins.dark := by
        rw [(after_displays w hdn (m + 1)).pins, color_of_not_inTrial hhead,
          display_dark]
      rw [ledCalls, hscript.calls, hend, hdark, ← script_trialEnd, List.map_append,
        List.map_singleton, lit_dark]
      rfl
    · rcases hscript.seen with ⟨seen, hseen, houtcome⟩
      rw [hend] at houtcome
      exact ⟨seen, hseen, houtcome⟩

def otherBoxMoves : World :=
  World.scripted
    [Command.ofFields NTRIALS 0 1, Command.ofFields TRIAL 3 1,
      Command.ofFields TIMEOUT 0 1000, Command.ofFields SAMPLERATE 0 20,
      Command.ofFields STREAM 0 1]
    (fun n => n) monotone_id (fun _ i => decide (i = 5))

/-- The trial that begins with step 10 lights box 3 in blue, flashes it in red,
and leaves the pins low. -/
theorem displayProtocol_otherBoxMoves :
    (Device.boot.after otherBoxMoves 32).pc = .trialEnd .wrongBox ∧
      DisplayProtocol otherBoxMoves Device.boot :=
  ⟨by decide +kernel, displayProtocol otherBoxMoves Device.boot rfl rfl⟩

end Receiver
end BoxTrials
