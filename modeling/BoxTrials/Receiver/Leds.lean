import BoxTrials.Receiver.Globals

/-!
# LEDs

Twelve boards with a red, a green and a blue LED each hang on the output pins of
three port expanders.
-/

namespace BoxTrials
namespace Receiver

inductive Expander where
  | aw1
  | aw2
  | aw3
  deriving DecidableEq, Repr

abbrev Pins := Expander -> Nat -> Bool

abbrev HIGH : Bool := true
abbrev LOW : Bool := false

def Pins.dark : Pins := fun _ _ => LOW

def digitalWrite (aw : Expander) (pin : Nat) (level : Bool) (pins : Pins) :
    Pins :=
  fun aw' pin' =>
    if aw' = aw ∧ pin' = pin then
      level
    else
      pins aw' pin'

structure BoardPins where
  aw : Expander
  red : Nat
  green : Nat
  blue : Nat
  deriving DecidableEq, Repr

/-- The pin constants of the boards, `B1PR` to `B12PB`. -/
def boardPins (board : Int) : Option BoardPins :=
  if board = 1 then some ⟨.aw1, 1, 2, 3⟩
  else if board = 2 then some ⟨.aw1, 4, 5, 6⟩
  else if board = 3 then some ⟨.aw1, 7, 8, 9⟩
  else if board = 4 then some ⟨.aw1, 10, 11, 12⟩
  else if board = 5 then some ⟨.aw2, 0, 1, 2⟩
  else if board = 6 then some ⟨.aw2, 3, 4, 5⟩
  else if board = 7 then some ⟨.aw2, 6, 7, 8⟩
  else if board = 8 then some ⟨.aw2, 14, 15, 13⟩
  else if board = 9 then some ⟨.aw3, 0, 1, 9⟩
  else if board = 10 then some ⟨.aw3, 3, 4, 5⟩
  else if board = 11 then some ⟨.aw3, 6, 7, 8⟩
  else if board = 12 then some ⟨.aw3, 15, 13, 14⟩
  else none

/-- `setBoardColor`. The levels come in the order red, blue, green. -/
def setBoardColor (board : Int) (red blue green : Bool) (pins : Pins) : Pins :=
  match boardPins board with
  | none => pins
  | some b =>
      digitalWrite b.aw b.blue blue
        (digitalWrite b.aw b.green green
          (digitalWrite b.aw b.red red pins))

/-- `RGB_reset`. -/
def rgbReset (pins : Pins) : Pins :=
  (List.range 16).foldl
    (fun pins i =>
      digitalWrite .aw3 i LOW
        (digitalWrite .aw2 i LOW (digitalWrite .aw1 i LOW pins)))
    pins

/-!
# Responses to the commanded board

`MoveMe`, `MoveMe_Correct` and `MoveMe_WRONG` compare the commanded object with
the boards 1 to 12 and give the one it names a color.
-/

/-- The comparison that the three functions share. -/
def colorTarget (red blue green : Bool) (target : Int) (pins : Pins) : Pins :=
  if 1 ≤ target ∧ target ≤ 12 then
    setBoardColor target red blue green pins
  else
    pins

def moveMe (target : Int) (pins : Pins) : Pins :=
  colorTarget LOW HIGH LOW target pins

def moveMeCorrect (target : Int) (pins : Pins) : Pins :=
  colorTarget LOW LOW HIGH target pins

def moveMeWrong (target : Int) (pins : Pins) : Pins :=
  colorTarget HIGH LOW LOW target pins

end Receiver
end BoxTrials
