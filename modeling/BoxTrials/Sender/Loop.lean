/-!
# The sensor board

The sketch of a board.  `loop()` samples the accelerometer and sends a report
when the movement flag has changed; `OnDataSent` is told how the sending of a
report went.  What the floating-point operations compute is left open.
-/

namespace BoxTrials
namespace Sender

/-- `struct_message`, which both sketches declare. -/
structure StructMessage (real : Type) where
  id : Int
  x : real
  y : real
  z : real
  m : real
  isMoving : Bool
  deriving DecidableEq, Repr

structure FloatOps (real : Type) where
  sub : real -> real -> real
  /-- `sqrt(pow(x,2) + pow(y,2) + pow(z,2))`. -/
  magnitude : real -> real -> real -> real
  gt : real -> real -> Bool

structure Acceleration (real : Type) where
  x : real
  y : real
  z : real

variable {real : Type}

/-- The globals of a board. Its number is one of those that `setup()` gives, or
0 for an unknown address. -/
structure Board (real : Type) where
  lastTime : Nat
  theshold : real
  previousMovingState : Int
  calX : real
  calY : real
  calZ : real
  myData : StructMessage real
  /-- What was printed. -/
  serialOut : List String
  id_nonneg : 0 ≤ myData.id
  id_le : myData.id ≤ 14

theorem Board.id_range (b : Board real) :
    0 ≤ b.myData.id ∧ b.myData.id < 15 :=
  ⟨b.id_nonneg, Int.lt_add_one_of_le b.id_le⟩

def onDataSent (sendStatus : UInt8) (b : Board real) : Board real :=
  { b with
    serialOut := b.serialOut ++
      ["\r\nLast Packet Send Status: ",
        if sendStatus = 0 then "Delivery success\r\n" else "Delivery fail\r\n"] }

/-- A pass of `loop()`: the message given to `esp_now_send`, if any, and the
globals after it. -/
def loop (ops : FloatOps real) (a : Acceleration real) (now : Nat)
    (b : Board real) : Option (StructMessage real) × Board real :=
  let x := ops.sub a.x b.calX
  let y := ops.sub a.y b.calY
  let z := ops.sub a.z b.calZ
  let m := ops.magnitude x y z
  let myData : StructMessage real :=
    { b.myData with x := x, y := y, z := z, m := m, isMoving := ops.gt m b.theshold }
  let b := { b with myData := myData }
  let printed := b.serialOut ++ [toString now ++ "\r\n"]
  if myData.isMoving.toInt ≠ b.previousMovingState then
    (some myData,
      { b with
        previousMovingState := myData.isMoving.toInt
        lastTime := now
        serialOut := printed })
  else
    (none, { b with lastTime := now, serialOut := printed })

theorem loop_spec (ops : FloatOps real) (a : Acceleration real) (now : Nat)
    (b : Board real) :
    (loop ops a now b).2.myData.id = b.myData.id ∧
      (loop ops a now b).2.previousMovingState =
        (loop ops a now b).2.myData.isMoving.toInt ∧
      (loop ops a now b).1 =
        if (loop ops a now b).2.myData.isMoving.toInt ≠ b.previousMovingState then
          some (loop ops a now b).2.myData
        else
          none := by
  simp only [loop]
  split
  · exact ⟨rfl, rfl, rfl⟩
  · rename_i hsame
    exact ⟨rfl, (Decidable.not_not.mp hsame).symm, rfl⟩

theorem toInt_injective {b c : Bool} (h : b.toInt = c.toInt) : b = c := by
  revert h
  cases b <;> cases c <;> decide

theorem toInt_ne_neg (b : Bool) : b.toInt ≠ -1 := by
  cases b <;> decide

theorem remembered_flag {b : Board real} {passes : Nat} {flag : Bool}
    (hidle : passes = 0 -> b.previousMovingState = -1)
    (hremembered : 1 ≤ passes ->
      b.previousMovingState = b.myData.isMoving.toInt)
    (hsame : flag.toInt = b.previousMovingState) :
    1 ≤ passes ∧ flag = b.myData.isMoving := by
  have hpasses : 1 ≤ passes := by
    rcases Nat.eq_zero_or_pos passes with hzero | hpos
    · rw [hidle hzero] at hsame
      exact absurd hsame (toInt_ne_neg flag)
    · exact hpos
  exact ⟨hpasses, toInt_injective (hsame.trans (hremembered hpasses))⟩

end Sender
end BoxTrials
