import BoxTrials.Receiver.ExpanderPins

/-!
# Setting up the receiver

`SystemSetup` starts the radio and the expanders, shows all colors, and then has
each board moved in turn.  It waits for a board as long as it takes, and it does
not come back from an expander that does not answer.
-/

namespace BoxTrials
namespace Receiver

open Foundation
open Libraries
open Libraries.BusIO

/-!
# Starting the expanders
-/

def setPinModes (wiring : Wiring) (aws : Expanders) (bus : Bus) : Bus :=
  (List.range 16).foldl
    (fun bus i =>
      let bus := (aws .aw1).pinMode wiring i AW9523.OUTPUT bus
      let bus := (aws .aw2).pinMode wiring i AW9523.OUTPUT bus
      (aws .aw3).pinMode wiring i AW9523.OUTPUT bus)
    bus

/-- The part of `SystemSetup` with the expanders: whether it comes to its end, and
does not wait forever behind a `begin` that fails. -/
def startExpanders (wiring : Wiring) (aws : Expanders) (bus : Bus) :
    Bool × Expanders × Bus :=
  let (started, aw, bus) := AW9523.begin wiring 0x58#8 bus
  let aws := Function.update aws .aw1 aw
  if !started then
    (false, aws, bus)
  else
    let (started, aw, bus) := AW9523.begin wiring 0x59#8 bus
    let aws := Function.update aws .aw2 aw
    if !started then
      (false, aws, bus)
    else
      let (started, aw, bus) := AW9523.begin wiring 0x5A#8 bus
      let aws := Function.update aws .aw3 aw
      if !started then
        (false, aws, bus)
      else
        (true, aws, setPinModes wiring aws bus)

/-!
# RGB_test
-/

/-- `if(j=value){...}`: the condition assigns, and is the value assigned. -/
def assigned (value : Int) (calls : List LedCall) : Int × List LedCall :=
  (value, if value ≠ 0 then calls else [])

/-- The body of the inner loop of `RGB_test`, which leaves `j` changed. -/
def rgbTestBody (i _j : Int) : Int × List LedCall :=
  let (_j, red) := assigned 1 [.setBoardColor i 1 0 0, .rgbReset]
  let (_j, green) := assigned 2 [.setBoardColor i 0 0 1, .rgbReset]
  let (j, blue) := assigned 3 [.setBoardColor i 0 1 0, .rgbReset]
  (j, red ++ green ++ blue)

/-- The same body if its conditions compared. -/
def rgbTestCompared (i j : Int) : Int × List LedCall :=
  (j, (if j = 1 then [.setBoardColor i 1 0 0, .rgbReset] else []) ++
    (if j = 2 then [.setBoardColor i 0 0 1, .rgbReset] else []) ++
    (if j = 3 then [.setBoardColor i 0 1 0, .rgbReset] else []))

/-- The inner loop, for at most so many passes. -/
def rgbTestLoop (body : Int -> Int × List LedCall) :
    Nat -> Int -> Option (List LedCall)
  | 0, _ => none
  | passes + 1, j =>
      if j ≤ 3 then
        let (j, calls) := body j
        (rgbTestLoop body passes (j + 1)).map (calls ++ ·)
      else
        some []

def rgbTestBoards (body : Int -> Int -> Int × List LedCall) (passes : Nat) :
    List Int -> Option (List LedCall)
  | [] => some []
  | i :: rest =>
      match rgbTestLoop (body i) passes 1, rgbTestBoards body passes rest with
      | some calls, some later => some (calls ++ later)
      | _, _ => none

/-- `RGB_test`: its LED calls, if no inner loop takes more than so many passes. -/
def rgbTest (body : Int -> Int -> Int × List LedCall) (passes : Nat) :
    Option (List LedCall) :=
  (rgbTestBoards body passes [1, 2, 3, 4, 5, 6, 7, 8, 9, 10, 11, 12]).map
    (LedCall.rgbReset :: ·)

/-!
# The steps of setup
-/

structure SetupWorld where
  world : World
  wiring : Wiring
  espNowInit : Int

inductive SetupPc where
  /-- Before the result of `esp_now_init` is looked at. -/
  | radio
  | expanders
  /-- In `while (1) delay(10)`. -/
  | hung
  | colors
  /-- At the start of `sensor_test`. -/
  | sensors
  /-- Before the loop condition of `sensor_test`. -/
  | board (i : Int)
  /-- Before a look at the table for the board. -/
  | wait (i : Int)
  | moved (i : Int)
  /-- Before the `RGB_reset` for the board. -/
  | reset (i : Int)
  | done
  deriving DecidableEq, Repr

structure Setup where
  pc : SetupPc
  aws : Expanders
  bus : Bus
  reads : Nat

def Setup.light (x : SetupWorld) (calls : List LedCall) (pc : SetupPc)
    (s : Setup) : Setup :=
  { s with pc := pc, bus := performLedCalls x.wiring s.aws calls s.bus }

/-- The steps of `setup()`. A pass of the inner loop of `RGB_test` is its last
one, so two are enough. -/
def setupStep (x : SetupWorld) (s : Setup) : Setup :=
  match s.pc with
  | .radio =>
      if x.espNowInit ≠ 0 then
        { s with pc := .done }
      else
        { s with pc := .expanders }
  | .expanders =>
      let (started, aws, bus) := startExpanders x.wiring s.aws s.bus
      { s with pc := if started then .colors else .hung, aws := aws, bus := bus }
  | .colors =>
      match rgbTest rgbTestBody 2 with
      | some calls => s.light x calls .sensors
      | none => { s with pc := .hung }
  | .sensors => s.light x [.rgbReset] (.board 1)
  | .board i =>
      if i ≤ 12 then
        s.light x [.setBoardColor i 0 1 0] (.wait i)
      else
        { s with pc := .done }
  | .wait i =>
      if x.world.isMoving s.reads i then
        { s with pc := .moved i, reads := s.reads + 1 }
      else
        { s with reads := s.reads + 1 }
  | .moved i => s.light x [.setBoardColor i 0 0 1] (.reset i)
  | .reset i => s.light x [.rgbReset] (.board (i + 1))
  | .hung | .done => s

def Setup.start (bus : Bus) : Setup where
  pc := .radio
  aws := Expanders.unset
  bus := bus
  reads := 0

def setupRun (x : SetupWorld) (bus : Bus) (n : Nat) : Setup :=
  (setupStep x)^[n] (Setup.start bus)

theorem setupRun_succ (x : SetupWorld) (bus : Bus) (n : Nat) :
    setupRun x bus (n + 1) = setupStep x (setupRun x bus n) :=
  Function.iterate_succ_apply' (setupStep x) n (Setup.start bus)

theorem setupRun_invariant {x : SetupWorld} {bus : Bus} (inv : Setup -> Prop)
    (hstart : inv (Setup.start bus))
    (hstep : forall s, inv s -> inv (setupStep x s)) (n : Nat) :
    inv (setupRun x bus n) :=
  Function.Iterate.rec inv hstart hstep n

/-!
# RGB_test

The conditions of its inner loop assign, so the first pass makes all the calls
and is the only one.
-/

theorem rgbTestLoop_assigned (i : Int) (passes : Nat) :
    rgbTestLoop (rgbTestBody i) (passes + 2) 1 =
      some [.setBoardColor i 1 0 0, .rgbReset, .setBoardColor i 0 0 1, .rgbReset,
        .setBoardColor i 0 1 0, .rgbReset] :=
  rfl

theorem rgbTestLoop_compared (i : Int) (passes : Nat) :
    rgbTestLoop (rgbTestCompared i) (passes + 4) 1 =
      some [.setBoardColor i 1 0 0, .rgbReset, .setBoardColor i 0 0 1, .rgbReset,
        .setBoardColor i 0 1 0, .rgbReset] :=
  rfl

/-- The loop that assigns makes the calls of the one that compares. -/
theorem rgbTestBoards_assigned (passes : Nat) (boards : List Int) :
    rgbTestBoards rgbTestBody (passes + 2) boards =
      rgbTestBoards rgbTestCompared (passes + 4) boards := by
  induction boards with
  | nil => rfl
  | cons i rest ih =>
      rw [rgbTestBoards, rgbTestBoards, ih, rgbTestLoop_assigned, rgbTestLoop_compared]

inductive LightsAndResets : List LedCall -> Prop where
  | nil : LightsAndResets []
  | cons {calls : List LedCall} (board red blue green : Int)
      (h : LightsAndResets calls) :
      LightsAndResets (.setBoardColor board red blue green :: .rgbReset :: calls)

theorem lightsAndResets_append {calls later : List LedCall}
    (h : LightsAndResets calls) (h' : LightsAndResets later) :
    LightsAndResets (calls ++ later) := by
  induction h with
  | nil => exact h'
  | cons board red blue green _ ih => exact .cons board red blue green ih

/-- RGB_test does not hang; after its first reset it lights one board at a time. -/
theorem rgbTest_calls (passes : Nat) :
    exists calls, rgbTest rgbTestBody (passes + 2) = some (.rgbReset :: calls) ∧
      LightsAndResets calls := by
  have hboards : forall boards, exists calls,
      rgbTestBoards rgbTestBody (passes + 2) boards = some calls ∧
        LightsAndResets calls := by
    intro boards
    induction boards with
    | nil => exact ⟨[], rfl, .nil⟩
    | cons i rest ih =>
        rcases ih with ⟨later, hlater, hshape⟩
        rw [rgbTestBoards, rgbTestLoop_assigned, hlater]
        exact ⟨_, rfl, lightsAndResets_append
          (.cons i 1 0 0 (.cons i 0 0 1 (.cons i 0 1 0 .nil))) hshape⟩
  rcases hboards [1, 2, 3, 4, 5, 6, 7, 8, 9, 10, 11, 12] with ⟨calls, hcalls, hshape⟩
  exact ⟨calls, by rw [rgbTest, hcalls]; rfl, hshape⟩

theorem setBoardColor_dark (board red blue green : Int) :
    (LedCall.setBoardColor board red blue green).write Pins.dark =
      lit board ⟨level red, level green, level blue⟩ :=
  rfl

theorem lightsAndResets_dark {calls : List LedCall} (h : LightsAndResets calls) :
    calls.foldl (fun pins c => c.write pins) Pins.dark = Pins.dark := by
  induction h with
  | nil => rfl
  | cons board red blue green _ ih =>
      rw [List.foldl_cons, List.foldl_cons, setBoardColor_dark, LedCall.write,
        rgbReset_lit]
      exact ih

/-!
# Starting the expanders
-/

theorem startExpanders_started {wiring : Wiring} {defaults : Expander -> Nat -> Byte}
    (hchips : forall aw : Expander,
      wiring.store aw.address = AW9523.chipStore (defaults aw))
    {aws : Expanders} {bus : Bus} (h : (startExpanders wiring aws bus).1 = true) :
    (startExpanders wiring aws bus).2.1 = Expanders.begun ∧
      forall aw : Expander,
        exists n, AW9523.Starts wiring aw.address (defaults aw) n := by
  rcases AW9523.begin_cases (hchips .aw1) bus with
    ⟨hstarts₁, _, hbegin₁, _⟩ | ⟨_, bus₁, hbegin₁⟩
  case inr =>
    simp only [Expander.address] at hbegin₁
    simp [startExpanders, hbegin₁] at h
  simp only [Expander.address] at hbegin₁
  simp only [startExpanders, hbegin₁, Bool.not_true, Bool.false_eq_true, if_false]
    at h ⊢
  generalize (AW9523.interruptEnableGpio wiring _ _ _).2 = bus₁ at h ⊢
  rcases AW9523.begin_cases (hchips .aw2) bus₁ with
    ⟨hstarts₂, _, hbegin₂, _⟩ | ⟨_, bus₂, hbegin₂⟩
  case inr =>
    simp only [Expander.address] at hbegin₂
    simp [hbegin₂] at h
  simp only [Expander.address] at hbegin₂
  simp only [hbegin₂, Bool.not_true, Bool.false_eq_true, if_false] at h ⊢
  generalize (AW9523.interruptEnableGpio wiring _ _ _).2 = bus₂ at h ⊢
  rcases AW9523.begin_cases (hchips .aw3) bus₂ with
    ⟨hstarts₃, _, hbegin₃, _⟩ | ⟨_, bus₃, hbegin₃⟩
  case inr =>
    simp only [Expander.address] at hbegin₃
    simp [hbegin₃] at h
  simp only [Expander.address] at hbegin₃
  simp only [hbegin₃, Bool.not_true, Bool.false_eq_true, if_false]
  constructor
  · funext aw
    cases aw <;> rfl
  · intro aw
    cases aw with
    | aw1 => exact ⟨_, hstarts₁⟩
    | aw2 => exact ⟨_, hstarts₂⟩
    | aw3 => exact ⟨_, hstarts₃⟩

/-- The expanders are on the bus, and every transaction with them gets through. -/
structure Genuine (wiring : Wiring) : Prop where
  chips : forall aw : Expander, exists defaults,
    wiring.store aw.address = AW9523.chipStore defaults ∧
      defaults AW9523.AW9523_REG_CHIPID = 0x23#8
  acks : Faultless wiring

theorem Genuine.hasExpanders {wiring : Wiring} (h : Genuine wiring) :
    HasExpanders wiring := by
  intro aw
  rcases h.chips aw with ⟨defaults, hstore, _⟩
  exact ⟨defaults, hstore⟩

theorem genuine_workbench : Genuine (workbench fun _ _ => true) where
  chips _ := ⟨_, rfl, rfl⟩
  acks _ _ := rfl

/-- A pin drives its level, as `pinMode` makes it an output, and does not
interrupt. -/
structure IsOutput (regs : Nat -> Byte) (pin : Nat) : Prop where
  config : AW9523.pinBit AW9523.AW9523_REG_CONFIG0 pin regs = false
  mode : AW9523.pinBit AW9523.AW9523_REG_LEDMODE pin regs = true
  interrupt : AW9523.pinBit AW9523.AW9523_REG_INTENABLE0 pin regs = true

def Configured (bus : Bus) : Prop :=
  forall (aw : Expander) pin, pin < 16 -> IsOutput (bus.regs aw.address) pin

def Quiet (bus : Bus) (aw : Expander) : Prop :=
  forall pin, pin < 16 ->
    AW9523.pinBit AW9523.AW9523_REG_INTENABLE0 pin (bus.regs aw.address) = true

theorem isPinPair_interrupt : AW9523.IsPinPair AW9523.AW9523_REG_INTENABLE0 :=
  Or.inr (Or.inr (Or.inl rfl))

theorem isPinPair_config : AW9523.IsPinPair AW9523.AW9523_REG_CONFIG0 :=
  Or.inr (Or.inl rfl)

theorem isPinPair_mode : AW9523.IsPinPair AW9523.AW9523_REG_LEDMODE :=
  Or.inr (Or.inr (Or.inr rfl))

theorem begin_quiet {wiring : Wiring} (h : Genuine wiring) (aw : Expander)
    (bus : Bus) :
    exists bus', AW9523.begin wiring aw.address bus =
        (true, { i2cDev := some aw.address }, bus') ∧
      Quiet bus' aw ∧ forall other, other ≠ aw -> Quiet bus other ->
        Quiet bus' other := by
  rcases h.chips aw with ⟨defaults, hstore, hid⟩
  rcases AW9523.begin_pinBit hstore (h.acks aw) hid bus with
    ⟨bus', hbegin, hquiet, hother⟩
  refine ⟨bus', hbegin, hquiet, ?_⟩
  intro other hne hbefore pin hpin
  have haddress : other.address ≠ aw.address :=
    fun heq => hne (Expander.address_injective heq)
  rw [hother other.address haddress _ pin isPinPair_interrupt hpin]
  exact hbefore pin hpin

def Outputs (bus : Bus) (made : Expander -> Nat -> Prop) : Prop :=
  forall aw : Expander, Quiet bus aw ∧
    forall pin, pin < 16 -> made aw pin -> IsOutput (bus.regs aw.address) pin

theorem pinMode_outputs {wiring : Wiring} (h : Genuine wiring) (aw : Expander)
    {i : Nat} (hi : i < 16) {bus : Bus} {made : Expander -> Nat -> Prop}
    (hmade : Outputs bus made) :
    Outputs ((Expanders.begun aw).pinMode wiring i AW9523.OUTPUT bus)
      (fun other pin => (other = aw ∧ pin = i) ∨ made other pin) := by
  rcases h.chips aw with ⟨defaults, hstore, _⟩
  intro other
  have hbit := fun {base pin} (hbase : AW9523.IsPinPair base) (hpin : pin < 16) =>
    AW9523.pinMode_output hstore (h.acks aw) hi bus other.address hbase hpin
  have hquiet : Quiet ((Expanders.begun aw).pinMode wiring i AW9523.OUTPUT bus)
      other := by
    intro pin hpin
    rw [Expanders.begun, hbit isPinPair_interrupt hpin,
      if_neg fun hall => absurd hall.right.left (by decide),
      if_neg fun hall => absurd hall.right.left (by decide)]
    exact (hmade other).left pin hpin
  refine ⟨hquiet, ?_⟩
  intro pin hpin hnow
  constructor
  case config =>
    rw [Expanders.begun, hbit isPinPair_config hpin,
      if_neg fun hall => absurd hall.right.left (by decide)]
    rcases hnow with ⟨rfl, rfl⟩ | hbefore
    · exact if_pos ⟨rfl, rfl, rfl⟩
    · rw [((hmade other).right pin hpin hbefore).config, ite_self]
  case mode =>
    rw [Expanders.begun, hbit isPinPair_mode hpin]
    rcases hnow with ⟨rfl, rfl⟩ | hbefore
    · exact if_pos ⟨rfl, rfl, rfl⟩
    · rw [((hmade other).right pin hpin hbefore).mode]
      simp [AW9523.AW9523_REG_LEDMODE, AW9523.AW9523_REG_CONFIG0]
  case interrupt => exact hquiet pin hpin

theorem setPinModes_configured {wiring : Wiring} (h : Genuine wiring) {bus : Bus}
    (hquiet : forall aw, Quiet bus aw) :
    Configured (setPinModes wiring Expanders.begun bus) := by
  have hfold : forall is : List Nat, (forall i, i ∈ is -> i < 16) ->
      Outputs
        (is.foldl (fun bus i =>
          (Expanders.begun .aw3).pinMode wiring i AW9523.OUTPUT
            ((Expanders.begun .aw2).pinMode wiring i AW9523.OUTPUT
              ((Expanders.begun .aw1).pinMode wiring i AW9523.OUTPUT bus))) bus)
        (fun _ pin => pin ∈ is) := by
    intro is
    induction is using List.reverseRecOn with
    | nil =>
        intro _ aw
        exact ⟨hquiet aw, fun pin _ hpin => absurd hpin List.not_mem_nil⟩
    | append_singleton is i ih =>
        intro hlt
        have hi : i < 16 := hlt i (by simp)
        have hbefore := ih fun j hj => hlt j (List.mem_append_left _ hj)
        have hafter := pinMode_outputs h .aw3 hi
          (pinMode_outputs h .aw2 hi (pinMode_outputs h .aw1 hi hbefore))
        rw [List.foldl_append, List.foldl_cons, List.foldl_nil]
        intro aw
        refine ⟨(hafter aw).left, fun pin hpin hmem => (hafter aw).right pin hpin ?_⟩
        rcases List.mem_append.mp hmem with hold | hnew
        · exact Or.inr (Or.inr (Or.inr hold))
        · rw [List.mem_singleton] at hnew
          cases aw <;> simp [hnew]
  intro aw pin hpin
  exact (hfold (List.range 16) (fun i => List.mem_range.mp) aw).right pin hpin
    (List.mem_range.mpr hpin)

theorem startExpanders_genuine {wiring : Wiring} (h : Genuine wiring)
    (aws : Expanders) (bus : Bus) :
    exists bus', startExpanders wiring aws bus = (true, Expanders.begun, bus') ∧
      Configured bus' := by
  rcases begin_quiet h .aw1 bus with ⟨bus₁, hbegin₁, hquiet₁, _⟩
  rcases begin_quiet h .aw2 bus₁ with ⟨bus₂, hbegin₂, hquiet₂, hother₂⟩
  rcases begin_quiet h .aw3 bus₂ with ⟨bus₃, hbegin₃, hquiet₃, hother₃⟩
  have hbegun : Function.update (Function.update (Function.update aws .aw1
      { i2cDev := some 0x58#8 }) .aw2 { i2cDev := some 0x59#8 }) .aw3
      { i2cDev := some 0x5A#8 } = Expanders.begun := by
    funext aw
    cases aw <;> rfl
  have hquiet : forall aw, Quiet bus₃ aw := by
    intro aw
    cases aw with
    | aw1 =>
        exact hother₃ .aw1 (by decide) (hother₂ .aw1 (by decide) hquiet₁)
    | aw2 => exact hother₃ .aw2 (by decide) hquiet₂
    | aw3 => exact hquiet₃
  refine ⟨setPinModes wiring Expanders.begun bus₃, ?_,
    setPinModes_configured h hquiet⟩
  simp only [Expander.address] at hbegin₁ hbegin₂ hbegin₃
  simp only [startExpanders, hbegin₁, hbegin₂, hbegin₃, Bool.not_true,
    Bool.false_eq_true, if_false, hbegun]

theorem perform_configured {wiring : Wiring} (hwiring : HasExpanders wiring)
    {p : PinWrite} (hp : p.pin < 16) {bus : Bus} (h : Configured bus) :
    Configured (p.perform wiring Expanders.begun bus) := by
  intro aw pin hpin
  rcases hwiring p.aw with ⟨defaults, hstore⟩
  rcases AW9523.pinBits_write hstore (Or.inl rfl) hp
    ((BitVec.ofBool p.level).setWidth 32) bus with ⟨bus', hwrite, _, hbits⟩
  have hperform : p.perform wiring Expanders.begun bus = bus' := by
    simp only [PinWrite.perform, Expanders.begun, AW9523.digitalWrite, hwrite]
  have hkept : forall {base}, AW9523.IsPinPair base ->
      base ≠ AW9523.AW9523_REG_OUTPUT0 ->
        AW9523.pinBit base pin (bus'.regs aw.address) =
          AW9523.pinBit base pin (bus.regs aw.address) := by
    intro base hbase hne
    rw [hbits aw.address base pin hbase hpin,
      if_neg fun hall => hne hall.left.right.left]
  have hpins := h aw pin hpin
  rw [hperform]
  constructor
  case config => exact (hkept isPinPair_config (by decide)).trans hpins.config
  case mode => exact (hkept isPinPair_mode (by decide)).trans hpins.mode
  case interrupt =>
    exact (hkept isPinPair_interrupt (by decide)).trans hpins.interrupt

theorem ledCalls_configured {wiring : Wiring} (hwiring : HasExpanders wiring)
    (calls : List LedCall) {bus : Bus} (h : Configured bus) :
    Configured (performLedCalls wiring Expanders.begun calls bus) := by
  have hwrites : forall p, p ∈ calls.flatMap LedCall.pinWrites -> p.pin < 16 := by
    intro p hp
    rcases List.mem_flatMap.mp hp with ⟨c, _, hp⟩
    exact pinWrites_lt hp
  rw [performLedCalls]
  generalize calls.flatMap LedCall.pinWrites = writes at hwrites ⊢
  induction writes generalizing bus with
  | nil => exact h
  | cons p rest ih =>
      exact ih (perform_configured hwiring (hwrites p (List.mem_cons_self ..)) h)
        fun q hq => hwrites q (List.mem_cons_of_mem p hq)

end Receiver
end BoxTrials
