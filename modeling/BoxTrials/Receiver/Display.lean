import BoxTrials.Receiver.PinMap
import BoxTrials.Receiver.Steps

/-!
# What the boards show

During a trial only the commanded board is lit.  Its color depends on the place
in the code only, so the colors that it has had since the trial began can be
read off that place.
-/

namespace BoxTrials
namespace Receiver

/-!
# The script of a trial
-/

def flashes (j : Nat) : List Color :=
  .pureBlue :: (List.replicate j [Color.pureRed, Color.dark]).flatten

/-- The colors that the LED calls of the trial have given to the commanded board
so far. -/
def Pc.script : Pc -> List Color
  | .loopTop | .loopStream | .trialHead | .trialTick _ | .moveMe _ | .returned
  | .undefined => []
  | .waitHead _ | .readTarget _ | .scan _ _ | .passTick _ | .respond _ =>
      [.pureBlue]
  | .flash j => flashes j
  | .gap j => flashes j ++ [.pureRed]
  | .trialEnd .correct => [.pureBlue, .pureGreen]
  | .trialEnd .wrongBox => flashes 5
  | .trialEnd .timeout => [.pureBlue, .pureRed]

def Pc.color (pc : Pc) : Color :=
  pc.script.getLastD Color.dark

def Pc.callsLeds : Pc -> Bool
  | .moveMe _ | .respond .correct | .respond .timeout | .gap _ | .trialEnd _ =>
      true
  | .flash j => decide (j < 5)
  | _ => false

def Pc.Counted : Pc -> Prop
  | .flash j => j ≤ 5
  | .gap j => j < 5
  | _ => True

/-- The pins when the commanded board, if there is one, shows a color. -/
def display (target : Option Int) (c : Color) : Pins :=
  match target with
  | none => Pins.dark
  | some board => lit board c

theorem display_dark (target : Option Int) :
    display target Color.dark = Pins.dark := by
  cases target with
  | none => rfl
  | some board => exact lit_dark board

theorem rgbReset_display (target : Option Int) (c : Color) :
    rgbReset (display target c) = Pins.dark := by
  cases target with
  | none => exact rgbReset_lit 0 Color.dark
  | some board => exact rgbReset_lit board c

theorem flashes_succ (j : Nat) :
    flashes (j + 1) = flashes j ++ [Color.pureRed, Color.dark] := by
  simp [flashes, List.replicate_succ']

/-!
# One step
-/

structure Displays (d : Device) : Prop where
  pins : d.pins = display d.globals.target d.pc.color
  counted : d.pc.Counted

theorem colorTarget_eq (red blue green : Bool) (target : Int) (pins : Pins) :
    colorTarget red blue green target pins =
      setBoardColor target red blue green pins := by
  unfold colorTarget
  split
  · rfl
  · rename_i hout
    exact (setBoardColor_outside hout red blue green pins).symm

theorem light_pins {d : Device} {c : Color} (hpins : d.pins = display d.globals.target c)
    (c' : Color) (next : Pc) :
    (d.light (colorTarget c'.red c'.blue c'.green) next).pins =
      display d.globals.target c' := by
  cases htarget : d.globals.target with
  | none =>
      rw [htarget] at hpins
      simp only [Device.light, Device.withTarget, htarget]
      split <;> exact hpins
  | some board =>
      rw [htarget] at hpins
      have hsequence : d.globals.trialSequence ≠ none := by
        intro hnone
        rw [Globals.target, hnone] at htarget
        cases htarget
      simp only [Device.light, Device.withTarget, htarget]
      rw [if_neg hsequence]
      show colorTarget c'.red c'.blue c'.green board d.pins = lit board c'
      rw [colorTarget_eq, hpins]
      exact setBoardColor_lit board c' c

theorem displays_of_dark {d : Device} (hpins : d.pins = Pins.dark)
    (hcolor : d.pc.color = Color.dark) (hcounted : d.pc.Counted) : Displays d :=
  ⟨by rw [hcolor, display_dark, hpins], hcounted⟩

theorem displays_of_none {d : Device} (hpins : d.pins = Pins.dark)
    (htarget : d.globals.target = none) (hcounted : d.pc.Counted) : Displays d :=
  ⟨by rw [htarget, hpins]; rfl, hcounted⟩

theorem displays_of_light {d : Device} (h : Displays d) {c : Color} {next : Pc}
    (hcolor : next.color = c) (hcounted : next.Counted) :
    Displays (d.light (colorTarget c.red c.blue c.green) next) := by
  have hpins := light_pins h.pins c next
  cases htarget : d.globals.target with
  | none =>
      rw [htarget] at hpins
      apply displays_of_none hpins <;>
        simp only [Device.light, Device.withTarget, htarget] <;> split <;>
        first | exact htarget | exact hcounted | exact trivial
  | some board =>
      rcases light_of_target htarget (colorTarget c.red c.blue c.green) next with
        ⟨hpc, hglobals, _⟩
      constructor
      · rw [hpc, hglobals, hcolor]
        exact hpins
      · rw [hpc]
        exact hcounted

inductive LedMove (d : Device) : Device -> Prop where
  | keeps {pc : Pc} {d' : Device} (hpc : d.pc = pc) (hpins : d'.pins = d.pins)
      (htarget : d'.globals.target = d.globals.target)
      (hcalls : pc.callsLeds = false) (hscript : d'.pc.script = pc.script)
      (hcounted : d'.pc.Counted) : LedMove d d'
  | lights {pc : Pc} (hpc : d.pc = pc) (c : Color) {next : Pc}
      (hcalls : pc.callsLeds = true) (hscript : next.script = pc.script ++ [c])
      (hcounted : next.Counted) :
      LedMove d (d.light (colorTarget c.red c.blue c.green) next)
  | resets {pc : Pc} {d' : Device} (hpc : d.pc = pc)
      (hpins : d'.pins = rgbReset d.pins) (hcalls : pc.callsLeds = true)
      (hcolor : d'.pc.color = Color.dark)
      (hscript : d'.pc.inTrial = true ->
        d'.pc.script = pc.script ++ [Color.dark])
      (hcounted : d'.pc.Counted) : LedMove d d'
  | faults (htarget : d.globals.target = none) :
      LedMove d { d with pc := .undefined }

theorem scanStep_ledMove (w : World) {d : Device} {s : Nat} {j : Int}
    (hpc : d.pc = .scan s j) : LedMove d (scanStep w s j d) := by
  unfold scanStep Device.withTarget
  split
  · split
    · rename_i hnone
      exact .faults hnone
    · beta_reduce
      split_ifs <;> exact .keeps hpc rfl rfl rfl rfl trivial
  · exact .keeps hpc rfl rfl rfl rfl trivial

theorem testStep_ledMove (w : World) {d : Device} (hcounted : d.pc.Counted) :
    LedMove d (testStep w d) := by
  cases hpc : d.pc with
  | trialHead =>
      simp only [testStep, hpc]
      split <;> exact .keeps hpc rfl rfl rfl rfl trivial
  | trialTick s | passTick s =>
      simp only [testStep, hpc]
      exact .keeps hpc (tick_ticked w d).pins (tick_target w d) rfl rfl trivial
  | moveMe s =>
      simp only [testStep, hpc]
      exact .lights hpc .pureBlue rfl rfl trivial
  | waitHead s =>
      simp only [testStep, hpc, millis]
      split <;> exact .keeps hpc rfl rfl rfl rfl trivial
  | readTarget s =>
      simp only [testStep, hpc, Device.withTarget]
      split
      · rename_i hnone
        exact .faults hnone
      · split <;> exact .keeps hpc rfl rfl rfl rfl trivial
  | scan s j =>
      simp only [testStep, hpc]
      exact scanStep_ledMove w hpc
  | respond outcome =>
      cases outcome with
      | correct =>
          simp only [testStep, hpc]
          exact .lights hpc .pureGreen rfl rfl trivial
      | wrongBox =>
          simp only [testStep, hpc]
          exact .keeps hpc rfl rfl rfl rfl (Nat.zero_le 5)
      | timeout =>
          simp only [testStep, hpc]
          exact .lights hpc .pureRed rfl rfl trivial
  | flash j =>
      rw [hpc] at hcounted
      simp only [testStep, hpc]
      split
      · rename_i hj
        exact .lights hpc .pureRed (decide_eq_true hj) rfl hj
      · -- The flash after the last one ends the trial.
        rename_i hj
        have hlast : j = 5 := Nat.le_antisymm hcounted (Nat.le_of_not_lt hj)
        subst hlast
        exact .keeps hpc rfl rfl rfl rfl trivial
  | gap j =>
      rw [hpc] at hcounted
      simp only [testStep, hpc]
      refine .resets hpc rfl rfl ?_ ?_ hcounted
      · simp [Pc.color, Pc.script, flashes_succ]
      · simp [Pc.script, flashes_succ]
  | trialEnd outcome =>
      simp only [testStep, hpc]
      refine .resets hpc rfl rfl rfl ?_ trivial
      intro htrial
      cases htrial
  | loopTop | loopStream | returned | undefined =>
      simp only [testStep, hpc]
      exact .keeps hpc rfl rfl rfl (by rw [hpc]) hcounted

theorem testStep_displays (w : World) {d : Device} (h : Displays d) :
    Displays (testStep w d) := by
  have hmove := testStep_ledMove w h.counted
  have hpins := h.pins
  generalize testStep w d = d' at hmove ⊢
  cases hmove with
  | keeps hpc hkept htarget hcalls hscript hcounted =>
      subst hpc
      constructor
      case pins => rw [hkept, hpins, htarget, Pc.color, Pc.color, hscript]
      case counted => exact hcounted
  | lights hpc c hcalls hscript hcounted =>
      rename_i next
      have hcolor : next.color = c := by
        rw [Pc.color, hscript, List.getLastD_concat]
      exact displays_of_light h hcolor hcounted
  | resets hpc hreset hcalls hcolor hscript hcounted =>
      have hdark : d'.pins = Pins.dark := by
        rw [hreset, hpins, rgbReset_display]
      exact displays_of_dark hdark hcolor hcounted
  | faults htarget =>
      have hdark : d.pins = Pins.dark := by
        rw [hpins, htarget]
        rfl
      exact displays_of_none hdark htarget trivial

theorem step_displays (w : World) {d : Device} (h : Displays d) :
    Displays (step w d) := by
  by_cases htest : d.pc.inTest = true
  · rw [step_of_inTest w htest]
    exact testStep_displays w h
  · -- Outside of `TestSequence` the pins are low, and no step writes them.
    have hpins : d.pc.color = Color.dark -> d.pins = Pins.dark := by
      intro hcolor
      rw [h.pins, hcolor, display_dark]
    cases hpc : d.pc with
    | loopTop =>
        have hdark := hpins (by rw [hpc]; rfl)
        simp only [step, hpc]
        split
        · rename_i c _
          have hnext : (receive w c d).pc = .loopStream ∨
              (receive w c d).pc = .undefined := by
            simp only [receive]
            split
            · exact Or.inl rfl
            · exact Or.inr rfl
          rcases hnext with hnext | hnext <;>
            exact displays_of_dark hdark (by rw [hnext]; rfl) (by rw [hnext]; trivial)
        · exact displays_of_dark hdark rfl trivial
    | loopStream =>
        have hdark := hpins (by rw [hpc]; rfl)
        simp only [step, hpc]
        split
        · exact displays_of_dark ((tick_ticked w d).pins.trans hdark) rfl trivial
        · exact displays_of_dark hdark rfl trivial
    | returned =>
        have hdark := hpins (by rw [hpc]; rfl)
        simp only [step, hpc]
        exact displays_of_dark hdark rfl trivial
    | undefined =>
        simp only [step, hpc]
        exact h
    | _ => simp [hpc, Pc.inTest, Pc.inTrial] at htest

theorem testStep_script (w : World) {d : Device} (h : d.pc.Counted)
    (htrial : (testStep w d).pc.inTrial = true) :
    (testStep w d).pc.script =
      d.pc.script ++
        if d.pc.callsLeds then [(testStep w d).pc.color] else [] := by
  have hmove := testStep_ledMove w h
  generalize testStep w d = d' at hmove htrial ⊢
  cases hmove with
  | keeps hpc hkept htarget hcalls hscript hcounted =>
      rw [hpc, hcalls, hscript]
      exact (List.append_nil _).symm
  | lights hpc c hcalls hscript hcounted =>
      rename_i next
      have hnext : (d.light (colorTarget c.red c.blue c.green) next).pc = next := by
        rcases light_cases d (colorTarget c.red c.blue c.green) next with
          hnext | ⟨hfault, _⟩
        · exact hnext
        · rw [hfault] at htrial
          cases htrial
      rw [hnext, hpc, hcalls, Pc.color, hscript, List.getLastD_concat]
      rfl
  | resets hpc hreset hcalls hcolor hscript hcounted =>
      rw [hpc, hcalls, hcolor, hscript htrial]
      rfl
  | faults htarget => cases htrial

end Receiver
end BoxTrials
