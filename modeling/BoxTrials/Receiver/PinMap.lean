import Mathlib.Tactic.IntervalCases
import BoxTrials.Foundation.LastMatch
import BoxTrials.Receiver.Leds

/-!
# The pin map

No two boards share a pin, and neither do the three LEDs of a board.  A board
therefore shows the color of its last `setBoardColor` since the last `RGB_reset`,
whatever is called for the others.
-/

namespace BoxTrials
namespace Receiver

open Foundation

/-!
# Writing pins
-/

@[simp] theorem digitalWrite_self (aw : Expander) (pin : Nat) (level : Bool)
    (pins : Pins) : digitalWrite aw pin level pins aw pin = level :=
  if_pos ⟨rfl, rfl⟩

theorem digitalWrite_ne {aw aw' : Expander} {pin pin' : Nat}
    (h : ¬ (aw' = aw ∧ pin' = pin)) (level : Bool) (pins : Pins) :
    digitalWrite aw pin level pins aw' pin' = pins aw' pin' :=
  if_neg h

def BoardPins.Has (b : BoardPins) (aw : Expander) (pin : Nat) : Prop :=
  aw = b.aw ∧ (pin = b.red ∨ pin = b.green ∨ pin = b.blue)

instance (b : BoardPins) (aw : Expander) (pin : Nat) : Decidable (b.Has aw pin) :=
  inferInstanceAs (Decidable (_ ∧ _))

structure BoardPins.Wired (b : BoardPins) : Prop where
  red_green : b.red ≠ b.green
  red_blue : b.red ≠ b.blue
  green_blue : b.green ≠ b.blue
  lt : forall aw pin, b.Has aw pin -> pin < 16

theorem boardPins_eq_none_iff (board : Int) :
    boardPins board = none <-> ¬ (1 ≤ board ∧ board ≤ 12) := by
  constructor
  · intro h hboard
    rcases hboard with ⟨hlo, hhi⟩
    interval_cases board <;> cases h
  · intro h
    rw [boardPins]
    repeat rw [if_neg (by omega)]

theorem boardPins_range {board : Int} {b : BoardPins}
    (h : boardPins board = some b) : 1 ≤ board ∧ board ≤ 12 := by
  by_contra hout
  rw [(boardPins_eq_none_iff board).mpr hout] at h
  cases h

theorem exists_boardPins {board : Int} (h : 1 ≤ board ∧ board ≤ 12) :
    exists b, boardPins board = some b := by
  cases hb : boardPins board with
  | none => exact absurd h ((boardPins_eq_none_iff board).mp hb)
  | some b => exact ⟨b, rfl⟩

theorem boardPins_wired {board : Int} {b : BoardPins}
    (h : boardPins board = some b) : b.Wired := by
  rcases boardPins_range h with ⟨hlo, hhi⟩
  have hpins : b.red ≠ b.green ∧ b.red ≠ b.blue ∧ b.green ≠ b.blue ∧
      b.red < 16 ∧ b.green < 16 ∧ b.blue < 16 := by
    interval_cases board <;> cases h <;> decide
  rcases hpins with ⟨hrg, hrb, hgb, hred, hgreen, hblue⟩
  refine ⟨hrg, hrb, hgb, ?_⟩
  intro aw pin hpin
  rcases hpin.right with rfl | rfl | rfl
  · exact hred
  · exact hgreen
  · exact hblue

def pinBoard (aw : Expander) (pin : Nat) : Option Nat :=
  (List.range' 1 12).find? fun board =>
    (boardPins board).any fun b => b.Has aw pin

theorem pinBoard_of_has {board : Int} {b : BoardPins}
    (h : boardPins board = some b) {aw : Expander} {pin : Nat}
    (hpin : b.Has aw pin) : (pinBoard aw pin).map Int.ofNat = some board := by
  rcases boardPins_range h with ⟨hlo, hhi⟩
  rcases hpin with ⟨rfl, rfl | rfl | rfl⟩ <;>
    interval_cases board <;> cases h <;> decide +kernel

theorem boardPins_disjoint {board board' : Int} {b b' : BoardPins}
    (h : boardPins board = some b) (h' : boardPins board' = some b')
    (hne : board ≠ board') {aw : Expander} {pin : Nat} (hpin : b.Has aw pin) :
    ¬ b'.Has aw pin := by
  intro hpin'
  have hsame := pinBoard_of_has h hpin
  rw [pinBoard_of_has h' hpin', Option.some.injEq] at hsame
  exact hne hsame.symm

/-!
# Colors
-/

structure Color where
  red : Bool
  green : Bool
  blue : Bool
  deriving DecidableEq, Repr

def Color.dark : Color := ⟨LOW, LOW, LOW⟩
def Color.pureRed : Color := ⟨HIGH, LOW, LOW⟩
def Color.pureGreen : Color := ⟨LOW, HIGH, LOW⟩
def Color.pureBlue : Color := ⟨LOW, LOW, HIGH⟩

def shown (board : Int) (pins : Pins) : Option Color :=
  (boardPins board).map fun b =>
    ⟨pins b.aw b.red, pins b.aw b.green, pins b.aw b.blue⟩

theorem setBoardColor_pin {board : Int} {b : BoardPins}
    (hb : boardPins board = some b) (red blue green : Bool) (pins : Pins)
    {aw : Expander} {pin : Nat} (hpin : ¬ b.Has aw pin) :
    setBoardColor board red blue green pins aw pin = pins aw pin := by
  simp only [setBoardColor, hb]
  rw [digitalWrite_ne, digitalWrite_ne, digitalWrite_ne]
  · exact fun h => hpin ⟨h.left, Or.inl h.right⟩
  · exact fun h => hpin ⟨h.left, Or.inr (Or.inl h.right)⟩
  · exact fun h => hpin ⟨h.left, Or.inr (Or.inr h.right)⟩

theorem setBoardColor_outside {board : Int} (h : ¬ (1 ≤ board ∧ board ≤ 12))
    (red blue green : Bool) (pins : Pins) :
    setBoardColor board red blue green pins = pins := by
  simp only [setBoardColor, (boardPins_eq_none_iff board).mpr h]

theorem setBoardColor_levels {board : Int} {b : BoardPins}
    (hb : boardPins board = some b) (red blue green : Bool) (pins : Pins) :
    setBoardColor board red blue green pins b.aw b.red = red ∧
      setBoardColor board red blue green pins b.aw b.green = green ∧
      setBoardColor board red blue green pins b.aw b.blue = blue := by
  have hwired := boardPins_wired hb
  simp only [setBoardColor, hb]
  refine ⟨?_, ?_, digitalWrite_self ..⟩
  · rw [digitalWrite_ne fun h => hwired.red_blue h.right,
      digitalWrite_ne fun h => hwired.red_green h.right, digitalWrite_self]
  · rw [digitalWrite_ne fun h => hwired.green_blue h.right, digitalWrite_self]

theorem shown_setBoardColor {board : Int} (h : 1 ≤ board ∧ board ≤ 12)
    (red blue green : Bool) (pins : Pins) :
    shown board (setBoardColor board red blue green pins) =
      some ⟨red, green, blue⟩ := by
  rcases exists_boardPins h with ⟨b, hb⟩
  rcases setBoardColor_levels hb red blue green pins with ⟨hr, hg, hbl⟩
  rw [shown, hb, Option.map_some, hr, hg, hbl]

theorem shown_setBoardColor_ne {board board' : Int} (hne : board' ≠ board)
    (red blue green : Bool) (pins : Pins) :
    shown board' (setBoardColor board red blue green pins) =
      shown board' pins := by
  cases hb : boardPins board with
  | none => rw [setBoardColor_outside ((boardPins_eq_none_iff board).mp hb)]
  | some b =>
      cases hb' : boardPins board' with
      | none => rw [shown, shown, hb', Option.map_none, Option.map_none]
      | some b' =>
          have hother : forall {pin}, b'.Has b'.aw pin ->
              setBoardColor board red blue green pins b'.aw pin =
                pins b'.aw pin :=
            fun hpin => setBoardColor_pin hb red blue green pins
              (boardPins_disjoint hb' hb hne hpin)
          rw [shown, shown, hb', Option.map_some, Option.map_some,
            hother ⟨rfl, Or.inl rfl⟩, hother ⟨rfl, Or.inr (Or.inl rfl)⟩,
            hother ⟨rfl, Or.inr (Or.inr rfl)⟩]

/-!
# Reset
-/

theorem rgbReset_pin (pins : Pins) (aw : Expander) (pin : Nat) :
    rgbReset pins aw pin = if pin < 16 then LOW else pins aw pin := by
  have hfold : forall is : List Nat,
      is.foldl (fun pins i =>
        digitalWrite .aw3 i LOW (digitalWrite .aw2 i LOW
          (digitalWrite .aw1 i LOW pins))) pins aw pin =
        if pin ∈ is then LOW else pins aw pin := by
    intro is
    induction is using List.reverseRecOn with
    | nil =>
        simp
    | append_singleton is i ih =>
        rw [List.foldl_append, List.foldl_cons, List.foldl_nil]
        by_cases hpin : pin = i
        · subst hpin
          cases aw <;> simp [digitalWrite]
        · simp [digitalWrite, hpin, ih]
  rw [rgbReset, hfold]
  simp only [List.mem_range]

theorem shown_rgbReset {board : Int} (h : 1 ≤ board ∧ board ≤ 12) (pins : Pins) :
    shown board (rgbReset pins) = some Color.dark := by
  rcases exists_boardPins h with ⟨b, hb⟩
  have hlow : forall {pin}, b.Has b.aw pin -> rgbReset pins b.aw pin = LOW := by
    intro pin hpin
    rw [rgbReset_pin, if_pos ((boardPins_wired hb).lt b.aw pin hpin)]
  rw [shown, hb, Option.map_some, hlow ⟨rfl, Or.inl rfl⟩,
    hlow ⟨rfl, Or.inr (Or.inl rfl)⟩, hlow ⟨rfl, Or.inr (Or.inr rfl)⟩]
  rfl

/-!
# One board lit

`lit` is one board with a color, and all other pins are low.
-/

def lit (board : Int) (c : Color) : Pins :=
  setBoardColor board c.red c.blue c.green Pins.dark

theorem shown_dark {board : Int} (h : 1 ≤ board ∧ board ≤ 12) :
    shown board Pins.dark = some Color.dark := by
  rcases exists_boardPins h with ⟨b, hb⟩
  rw [shown, hb]
  rfl

theorem shown_lit {board : Int} (h : 1 ≤ board ∧ board ≤ 12) (c : Color) :
    shown board (lit board c) = some c :=
  shown_setBoardColor h c.red c.blue c.green Pins.dark

theorem shown_lit_ne {board board' : Int} (h : 1 ≤ board' ∧ board' ≤ 12)
    (hne : board' ≠ board) (c : Color) :
    shown board' (lit board c) = some Color.dark := by
  rw [lit, shown_setBoardColor_ne hne, shown_dark h]

theorem pins_ext {b : BoardPins} {p q : Pins}
    (hred : p b.aw b.red = q b.aw b.red)
    (hgreen : p b.aw b.green = q b.aw b.green)
    (hblue : p b.aw b.blue = q b.aw b.blue)
    (hother : forall aw pin, ¬ b.Has aw pin -> p aw pin = q aw pin) : p = q := by
  funext aw pin
  by_cases hpin : b.Has aw pin
  · rcases hpin with ⟨rfl, rfl | rfl | rfl⟩
    · exact hred
    · exact hgreen
    · exact hblue
  · exact hother aw pin hpin

theorem setBoardColor_lit (board : Int) (c c' : Color) :
    setBoardColor board c.red c.blue c.green (lit board c') = lit board c := by
  cases hb : boardPins board with
  | none =>
      have hout := (boardPins_eq_none_iff board).mp hb
      rw [lit, lit, setBoardColor_outside hout, setBoardColor_outside hout,
        setBoardColor_outside hout]
  | some b =>
      rcases setBoardColor_levels hb c.red c.blue c.green (lit board c') with
        ⟨hr, hg, hbl⟩
      rcases setBoardColor_levels hb c.red c.blue c.green Pins.dark with
        ⟨hr', hg', hbl'⟩
      apply pins_ext (hr.trans hr'.symm) (hg.trans hg'.symm) (hbl.trans hbl'.symm)
      intro aw pin hpin
      simp only [lit, setBoardColor_pin hb _ _ _ _ hpin]

theorem lit_dark (board : Int) : lit board Color.dark = Pins.dark := by
  cases hb : boardPins board with
  | none => exact setBoardColor_outside ((boardPins_eq_none_iff board).mp hb) ..
  | some b =>
      rcases setBoardColor_levels hb LOW LOW LOW Pins.dark with ⟨hr, hg, hbl⟩
      apply pins_ext hr hg hbl
      intro aw pin hpin
      exact setBoardColor_pin hb LOW LOW LOW Pins.dark hpin

theorem rgbReset_lit (board : Int) (c : Color) :
    rgbReset (lit board c) = Pins.dark := by
  funext aw pin
  rw [rgbReset_pin]
  by_cases hlt : pin < 16
  · exact if_pos hlt
  · rw [if_neg hlt]
    cases hb : boardPins board with
    | none =>
        rw [lit, setBoardColor_outside ((boardPins_eq_none_iff board).mp hb)]
    | some b =>
        exact setBoardColor_pin hb _ _ _ _ fun hpin =>
          hlt ((boardPins_wired hb).lt aw pin hpin)

/-!
# Sequences of calls
-/

def level (value : Int) : Bool :=
  decide (value ≠ 0)

inductive LedCall where
  | setBoardColor (board red blue green : Int)
  | rgbReset
  deriving DecidableEq, Repr

def LedCall.write : LedCall -> Pins -> Pins
  | .setBoardColor board red blue green, pins =>
      Receiver.setBoardColor board (level red) (level blue) (level green) pins
  | .rgbReset, pins => Receiver.rgbReset pins

def LedCall.colorOf (board : Int) : LedCall -> Option Color
  | .setBoardColor board' red blue green =>
      if board' = board then
        some ⟨level red, level green, level blue⟩
      else
        none
  | .rgbReset => some Color.dark

/-- After the calls, each board shows the color of its last one. -/
structure PinMapFaithful (calls : List LedCall) : Prop where
  shows : forall board, 1 ≤ board -> board ≤ 12 ->
    shown board (calls.foldl (fun pins c => c.write pins) Pins.dark) =
      some ((lastValue (LedCall.colorOf board) calls).getD Color.dark)
  outside : forall board red blue green, ¬ (1 ≤ board ∧ board ≤ 12) ->
    forall pins, (LedCall.setBoardColor board red blue green).write pins = pins

theorem shown_write {board : Int} (h : 1 ≤ board ∧ board ≤ 12) (c : LedCall)
    (pins : Pins) :
    shown board (c.write pins) = (c.colorOf board).or (shown board pins) := by
  cases c with
  | setBoardColor board' red blue green =>
      rw [LedCall.write, LedCall.colorOf]
      by_cases hboard : board' = board
      · subst hboard
        rw [if_pos rfl, shown_setBoardColor h]
        rfl
      · rw [if_neg hboard, shown_setBoardColor_ne (Ne.symm hboard)]
        rfl
  | rgbReset =>
      rw [LedCall.write, LedCall.colorOf, shown_rgbReset h]
      rfl

theorem pinMapFaithful (calls : List LedCall) : PinMapFaithful calls where
  shows board hlo hhi := by
    induction calls using List.reverseRecOn with
    | nil =>
        exact shown_dark ⟨hlo, hhi⟩
    | append_singleton calls c ih =>
        rw [List.foldl_append, List.foldl_cons, List.foldl_nil,
          shown_write ⟨hlo, hhi⟩, ih, lastValue_snoc]
        cases c.colorOf board <;> rfl
  outside board red blue green hout pins :=
    setBoardColor_outside hout (level red) (level blue) (level green) pins

end Receiver
end BoxTrials
