import BoxTrials.Apparatus.Movements

/-!
# Boards with their sensors

The apparatus down to the chips.  Each board reads its own sensor, over a bus that
may lose transactions, and still the boards run as if they were given samples.
-/

namespace BoxTrials
namespace Apparatus

open Foundation
open Libraries
open Libraries.BusIO
open Libraries.MPU6050
open Receiver
open Sender

variable {sender real : Type} {ops : SketchOps real}

/-- Boards that have come through their `setup()`, and the receiver as it is
switched on. -/
structure Assembly (ops : SketchOps real) (sender : Type)
    extends Crew ops sender where
  table : Boards real
  still : forall id report, table.entry id = some report ->
    report.isMoving = false
  expanders : Bus

def Assembly.parts (c : Assembly ops sender) : Parts sender real where
  board := fun i => (c.sketch i).board
  table := c.table
  still := c.still
  bus := c.expanders

structure Sensed (sender real : Type) extends Station sender real where
  sketch : sender -> Sketch real

inductive SensedEvent (sender : Type) where
  | pass (i : sender) (now : Nat)
  | reports (i : sender) (sendStatus : UInt8)
  | arrives (k : Nat)
  | receiver

def Sensed.start (c : Assembly ops sender) : Sensed sender real where
  toStation := Station.start c.parts
  sketch := c.sketch

def Sensed.system (s : Sensed sender real) : System sender real where
  toStation := s.toStation
  board := fun i => (s.sketch i).board

def Sensed.sampled (ops : SketchOps real) (world : sender -> SketchWorld)
    (s : Sensed sender real) : SensedEvent sender -> SystemEvent sender real
  | .pass i now => .pass i ((s.sketch i).reading ops (world i)) now
  | .reports i sendStatus => .reports i sendStatus
  | .arrives k => .arrives k
  | .receiver => .receiver

variable [DecidableEq sender]

def Sensed.step (ops : SketchOps real) (world : sender -> SketchWorld)
    (x : SetupWorld) (s : Sensed sender real) :
    SensedEvent sender -> Sensed sender real
  | .pass i now =>
      { toStation := s.toStation.sends i ((s.sketch i).pass ops (world i) now).1
        sketch :=
          Function.update s.sketch i ((s.sketch i).pass ops (world i) now).2 }
  | .reports i sendStatus =>
      { s with
        sketch := Function.update s.sketch i
          { s.sketch i with board := onDataSent sendStatus (s.sketch i).board } }
  | .arrives k => { s with toStation := s.toStation.arrives x k }
  | .receiver => { s with toStation := s.toStation.step x }

def Sensed.run (ops : SketchOps real) (world : sender -> SketchWorld)
    (x : SetupWorld) (s : Sensed sender real) (events : List (SensedEvent sender)) :
    Sensed sender real :=
  events.foldl (Sensed.step ops world x) s

def Sensed.samples (ops : SketchOps real) (world : sender -> SketchWorld)
    (x : SetupWorld) : Sensed sender real -> List (SensedEvent sender) ->
      List (SystemEvent sender real)
  | _, [] => []
  | s, e :: rest =>
      s.sampled ops world e :: Sensed.samples ops world x (s.step ops world x e) rest

/-!
# The refinement
-/

def AllKeep (sketch : sender -> Sketch real) (s : Sensed sender real) : Prop :=
  forall i, Keeps (sketch i) (s.sketch i)

theorem allKeep_update {sketch : sender -> Sketch real} {s : Sensed sender real}
    (h : AllKeep sketch s) {i : sender} {t : Sketch real}
    (ht : Keeps (sketch i) t) (j : sender) :
    Keeps (sketch j) (Function.update s.sketch i t j) :=
  (Function.forall_update_iff s.sketch fun k u => Keeps (sketch k) u).mpr
    ⟨ht, fun k _ => h k⟩ j

theorem allKeep_step {world : sender -> SketchWorld} (x : SetupWorld)
    {sketch : sender -> Sketch real} {s : Sensed sender real}
    (h : AllKeep sketch s) (e : SensedEvent sender) :
    AllKeep sketch (s.step ops world x e) := by
  cases e with
  | pass i now => exact allKeep_update h (pass_keeps ops (world i) (h i) now)
  | reports i sendStatus =>
      have hi := h i
      exact allKeep_update h ⟨⟨hi.ranged.mpu, hi.ranged.range⟩, hi.calX, hi.calY,
        hi.calZ, hi.theshold, hi.events, hi.transactions⟩
  | arrives | receiver => exact h

theorem system_step {world : sender -> SketchWorld} (x : SetupWorld)
    {sketch : sender -> Sketch real} {s : Sensed sender real}
    (h : AllKeep sketch s) (e : SensedEvent sender) :
    (s.step ops world x e).system =
      s.system.step ops.toFloatOps x (s.sampled ops world e) := by
  have hboard (i : sender) (t : Sketch real) :
      (fun j => (Function.update s.sketch i t j).board) =
        Function.update (fun j => (s.sketch j).board) i t.board :=
    Function.comp_update Sketch.board s.sketch i t
  cases e with
  | pass i now =>
      rcases Sketch.pass_spec ops (world i) now (h i).ranged with ⟨bus', hpass, _⟩
      simp only [Sensed.step, Sensed.system, Sensed.sampled, System.step, hboard,
        hpass]
  | reports i sendStatus =>
      simp only [Sensed.step, Sensed.system, Sensed.sampled, System.step, hboard]
  | arrives | receiver => rfl

theorem system_run {world : sender -> SketchWorld} (x : SetupWorld)
    {sketch : sender -> Sketch real} (events : List (SensedEvent sender))
    {s : Sensed sender real} (h : AllKeep sketch s) :
    (s.run ops world x events).system =
      s.system.run ops.toFloatOps x (s.samples ops world x events) := by
  induction events generalizing s with
  | nil => rfl
  | cons e rest ih =>
      have hrest := ih (@allKeep_step _ _ ops _ world x sketch s h e)
      rw [system_step x h e] at hrest
      exact hrest

omit [DecidableEq sender] in
theorem allKeep_start (c : Assembly ops sender) :
    AllKeep c.sketch (Sensed.start c) := by
  intro i
  exact ⟨(setup_calibrated (c.poweredOn i) (c.radio i) (c.returned i)).ranged,
    rfl, rfl, rfl, rfl, Nat.le_refl _, Nat.le_refl _⟩

/-- From the chips of the sensors to those of the expanders, the apparatus runs like
the one whose boards are given the samples that are read. -/
theorem sensed_run (c : Assembly ops sender) (x : SetupWorld)
    (events : List (SensedEvent sender)) :
    ((Sensed.start c).run ops c.world x events).system =
      (System.start c.parts).run ops.toFloatOps x
        ((Sensed.start c).samples ops c.world x events) :=
  system_run x events (allKeep_start c)

/-!
# Where samples come from
-/

theorem samples_at {world : sender -> SketchWorld} {x : SetupWorld}
    {events : List (SensedEvent sender)} {s : Sensed sender real}
    {l r : List (SystemEvent sender real)} {e : SystemEvent sender real}
    (h : s.samples ops world x events = l ++ e :: r) :
    exists before e' after, events = before ++ e' :: after ∧
      s.samples ops world x before = l ∧
      (s.run ops world x before).sampled ops world e' = e := by
  induction events generalizing s l with
  | nil =>
      have hne := List.append_ne_nil_of_right_ne_nil l (List.cons_ne_nil e r)
      exact absurd h.symm hne
  | cons e' rest ih =>
      cases l with
      | nil => exact ⟨[], e', rest, rfl, rfl, (List.cons.inj h).left⟩
      | cons first l =>
          rcases List.cons.inj h with ⟨hfirst, hrest⟩
          rcases ih hrest with ⟨before, e'', after, hsplit, hl, he⟩
          refine ⟨e' :: before, e'', after, ?_, ?_, he⟩
          · rw [hsplit]
            rfl
          · rw [Sensed.samples, hfirst, hl]

theorem allKeep_run {world : sender -> SketchWorld} (x : SetupWorld)
    {sketch : sender -> Sketch real} (events : List (SensedEvent sender))
    {s : Sensed sender real} (h : AllKeep sketch s) :
    AllKeep sketch (s.run ops world x events) := by
  induction events generalizing s with
  | nil => exact h
  | cons e rest ih => exact ih (allKeep_step x h e)

theorem station_run (c : Assembly ops sender) (x : SetupWorld)
    (events : List (SensedEvent sender)) :
    ((Sensed.start c).run ops c.world x events).toStation =
      ((System.start c.parts).run ops.toFloatOps x
        ((Sensed.start c).samples ops c.world x events)).toStation :=
  congrArg System.toStation (system_run x events (allKeep_start c))

/-!
# Disturbances
-/

/-- A pass of a board with the number `b` has not found its sensor as it was when
its `setup()` took the threshold, or a transaction of `setup()` or of the pass was
lost. -/
def Disturbed (c : Assembly ops sender) (x : SetupWorld)
    (events : List (SensedEvent sender)) (b : Int) : Prop :=
  exists i before now after, events = before ++ .pass i now :: after ∧
    c.number i = b ∧ ¬ Still (c.world i) (c.sketch i)
      (((Sensed.start c).run ops c.world x before).sketch i)

theorem Moved.disturbed {c : Assembly ops sender} {x : SetupWorld}
    (hgt : forall m, ops.gt m (ops.add m (ops.ofInt 3)) = false)
    {events : List (SensedEvent sender)} {log : List (sender × StructMessage real)}
    {b : Int} (h : Moved ops.toFloatOps c.parts
      ((Sensed.start c).samples ops c.world x events) log b) :
    Disturbed c x events b := by
  rcases h with ⟨i, report, a, now, _, _, hmoving, hid, hpass, hof⟩
  rcases List.append_of_mem hpass with ⟨l, r, hsamples⟩
  rcases samples_at hsamples with ⟨before, e, after, hsplit, _, hsampled⟩
  cases e with
  | pass i' now' =>
      cases hsampled
      refine ⟨i, before, now, after, hsplit, (c.id i).symm.trans hid, ?_⟩
      intro hstill
      have hreading := still_reading
        (setup_calibrated (c.poweredOn i) (c.radio i) (c.returned i)) hstill hgt
      rw [hof.isMoving, hof.m, hof.x, hof.y, hof.z] at hmoving
      exact Bool.false_ne_true (hreading.symm.trans hmoving)
  | reports | arrives | receiver => cases hsampled

theorem setup_disturbed {c : Assembly ops sender} {x : SetupWorld}
    (hradio : x.espNowInit = 0)
    (hgt : forall m, ops.gt m (ops.add m (ops.ofInt 3)) = false)
    {events : List (SensedEvent sender)}
    (hdone : ((Sensed.start c).run ops c.world x
      events).receiver.setup.pc = .done) (b : Nat) (hb : 1 ≤ b ∧ b ≤ 12) :
    Disturbed c x events b := by
  rw [station_run] at hdone
  have hreported := reported_run ops.toFloatOps x c.parts
    ((Sensed.start c).samples ops c.world x events)
  rw [hdone] at hreported
  rcases hreported hradio with ⟨before, hturn⟩
  have hmoved := (hturn.found b hb.left (by omega)).reported
  have hprefix := hturn.within b hb.left (by omega)
  have hevents := ((List.prefix_append (before b) _).trans hprefix).subset
  exact (hmoved.mono hevents).disturbed hgt

/-- The receiver does not get past `sensor_test` as long as one of the boxes lies
still since it was calibrated. -/
theorem still_sensorTest {c : Assembly ops sender} {x : SetupWorld}
    (hradio : x.espNowInit = 0) {j : sender} (hj : c.number j ≤ 12)
    (hrest : AtRest (c.world j) (c.sketch j))
    (hacks : forall n, (c.world j).wiring.acks MPU6050_I2CADDR_DEFAULT n = true)
    (hgt : forall m, ops.gt m (ops.add m (ops.ofInt 3)) = false)
    (events : List (SensedEvent sender)) :
    ((Sensed.start c).run ops c.world x events).receiver.setup.pc ≠ .done := by
  intro hdone
  have hlo := (boardNumbers_range _ (mem_of_lookup (c.known j))).left
  have hnumber : ((c.number j).toNat : Int) = c.number j :=
    Int.toNat_of_nonneg (Int.le_trans Int.one_nonneg hlo)
  rcases setup_disturbed hradio hgt hdone (c.number j).toNat (by omega) with
    ⟨i, before, now, after, _, hid, hdisturbed⟩
  -- The board that was disturbed is the one that lies still.
  have hi : i = j := by
    have hsameNumber : c.number i = c.number j := hid.trans hnumber
    exact c.distinct (lookup_injective (c.known i) (hsameNumber ▸ c.known j))
  subst hi
  exact hdisturbed (hrest.still
    (setup_calibrated (c.poweredOn i) (c.radio i) (c.returned i))
    (allKeep_run x before (allKeep_start c) i) (reads_clear hacks _)
    (reads_clear hacks _))

/-- Two boards that lie still, in front of a receiver with a working radio. -/
theorem still_sensorTest_bench : exists c : Assembly benchOps Bool, forall events,
    ((Sensed.start c).run benchOps c.world lossyTable
      events).receiver.setup.pc ≠ .done := by
  rcases crew_bench with ⟨c, hworld, hnumber, _⟩
  refine ⟨{ c with
    table := benchTable
    still := benchParts.still
    expanders := poweredBus }, fun events => ?_⟩
  have hacks : forall n,
      (c.world true).wiring.acks MPU6050_I2CADDR_DEFAULT n = true := by
    rw [hworld]
    exact fun _ => rfl
  have hmeasured : forall k, (c.world true).measured k =
      (c.world true).measured numSamples := by
    rw [hworld]
    exact fun _ => rfl
  have hj : c.number true ≤ 12 := by
    rw [hnumber]
    decide
  exact still_sensorTest rfl hj ⟨fun k _ => hmeasured k, fun n _ => hacks n⟩ hacks
    benchOps_gt events

/-!
# Clear buses

With no transaction lost, the samples are what the sensors measure, each in its
turn.
-/

def measuredSamples (ops : SketchOps real) (world : sender -> SketchWorld) :
    (sender -> Nat) -> List (SensedEvent sender) -> List (SystemEvent sender real)
  | _, [] => []
  | count, .pass i now :: rest =>
      .pass i (accelerationIn ops ((world i).measured (count i))) now ::
        measuredSamples ops world (Function.update count i (count i + 1)) rest
  | count, .reports i sendStatus :: rest =>
      .reports i sendStatus :: measuredSamples ops world count rest
  | count, .arrives k :: rest => .arrives k :: measuredSamples ops world count rest
  | count, .receiver :: rest => .receiver :: measuredSamples ops world count rest

theorem samples_clear {world : sender -> SketchWorld} (x : SetupWorld)
    (hacks : forall i n,
      (world i).wiring.acks MPU6050_I2CADDR_DEFAULT n = true)
    {sketch : sender -> Sketch real} (events : List (SensedEvent sender))
    {s : Sensed sender real} (h : AllKeep sketch s) :
    s.samples ops world x events =
      measuredSamples ops world (fun i => (s.sketch i).events) events := by
  induction events generalizing s with
  | nil => rfl
  | cons e rest ih =>
      rw [Sensed.samples, ih (allKeep_step x h e)]
      have hevents (i : sender) (t : Sketch real) :
          (fun j => (Function.update s.sketch i t j).events) =
            Function.update (fun j => (s.sketch j).events) i t.events :=
        Function.comp_update Sketch.events s.sketch i t
      cases e with
      | pass i now =>
          rcases Sketch.pass_spec ops (world i) now (h i).ranged with
            ⟨bus', hpass, _⟩
          simp only [Sensed.sampled, Sensed.step, measuredSamples, hevents, hpass,
            reading_clear (hacks i)]
      | reports i sendStatus =>
          simp only [Sensed.sampled, Sensed.step, measuredSamples, hevents,
            Function.update_eq_self]
      | arrives | receiver => rfl

/-!
# Boards that behave alike

What a board has printed and when it was last awake does not reach the receiver.
-/

structure Alike (b b' : Board real) : Prop extends SameBoard b b' where
  previous : b.previousMovingState = b'.previousMovingState

theorem loop_alike (ops : FloatOps real) (a : Acceleration real) (now : Nat)
    {b b' : Board real} (h : Alike b b') :
    (loop ops a now b).1 = (loop ops a now b').1 ∧
      Alike (loop ops a now b).2 (loop ops a now b').2 := by
  simp only [loop, h.id, h.calX, h.calY, h.calZ, h.theshold, h.previous]
  split <;> exact ⟨rfl, ⟨rfl, rfl, rfl, rfl, rfl⟩, rfl⟩

structure AlikeSystem (s s' : System sender real) : Prop where
  station : s.toStation = s'.toStation
  board : forall i, Alike (s.board i) (s'.board i)

theorem update_alike {board board' : sender -> Board real} {i : sender}
    {b b' : Board real} (h : forall j, Alike (board j) (board' j))
    (hb : Alike b b') (j : sender) :
    Alike (Function.update board i b j) (Function.update board' i b' j) := by
  by_cases hj : j = i
  · rw [hj, Function.update_self, Function.update_self]
    exact hb
  · rw [Function.update_of_ne hj, Function.update_of_ne hj]
    exact h j

theorem alike_step (ops : FloatOps real) (x : SetupWorld)
    {s s' : System sender real} (h : AlikeSystem s s')
    (e : SystemEvent sender real) :
    AlikeSystem (s.step ops x e) (s'.step ops x e) := by
  cases e with
  | pass i a now =>
      rcases loop_alike ops a now (h.board i) with ⟨hreport, hboard⟩
      constructor
      case station => simp only [System.step, hreport, h.station]
      case board => exact update_alike h.board hboard
  | reports i sendStatus =>
      have hi := h.board i
      exact ⟨h.station, update_alike h.board
        ⟨⟨hi.id, hi.calX, hi.calY, hi.calZ, hi.theshold⟩, hi.previous⟩⟩
  | arrives | receiver =>
      constructor
      case station => simp only [System.step, h.station]
      case board => exact h.board

theorem alike_run (ops : FloatOps real) (x : SetupWorld)
    (events : List (SystemEvent sender real)) {s s' : System sender real}
    (h : AlikeSystem s s') :
    AlikeSystem (s.run ops x events) (s'.run ops x events) := by
  induction events generalizing s s' with
  | nil => exact h
  | cons e rest ih => exact ih (alike_step ops x h e)

/-!
# Twelve boxes with their sensors
-/

def benchBuffer (turned : Bool) : Buffer :=
  fun i => if i.val = 4 then (if turned then 0x80#8 else 0x40#8) else 0#8

/-- A box that stands on its head in every second pass after `setup()`. -/
def turningWorld (i : Fin 12) : SketchWorld :=
  { benchWorld (boardAddresses.get (i.castLE (by decide))).1 with
    measured := fun k =>
      benchBuffer (decide (numSamples < k) && decide (k % 2 = 1)) }

theorem sums_constant (n : Nat) {value : Int} {f : Nat -> Int}
    (h : forall k, k < n -> f k = value) : sums benchOps n f = n * value := by
  induction n with
  | zero => exact (Int.zero_mul value).symm
  | succ n ih =>
      have hadd : forall a b, benchOps.add a b = a + b := fun _ _ => rfl
      rw [sums_succ, ih fun k hk => h k (Nat.lt_succ_of_lt hk),
        h n (Nat.lt_succ_self n), hadd, Nat.cast_succ, Int.add_mul, Int.one_mul]

theorem mean_constant {value : Int} {f : Nat -> Int}
    (h : forall k, k < numSamples -> f k = value) :
    benchOps.div (sums benchOps numSamples f) (benchOps.ofInt numSamples) =
      value := by
  have hpositive : (numSamples : Int) ≠ 0 := by
    rw [numSamples]
    decide
  rw [sums_constant numSamples h]
  exact Int.mul_ediv_cancel_left value hpositive

def turningBoard (i : Fin 12) : Board Int :=
  { benchBoard i with calZ := 10 }

theorem turning_alike {i : Fin 12} {s : Sketch Int}
    (h : Calibrated benchOps (turningWorld i) s) : Alike s.board (turningBoard i) := by
  rcases h.sampled with ⟨u, hu⟩
  have hreading : forall k, k ≤ numSamples ->
      (u k).reading benchOps (turningWorld i) = { x := 0, y := 0, z := 10 } := by
    intro k hk
    have hlies : (turningWorld i).measured k = benchBuffer false := by
      simp only [turningWorld, decide_eq_false (Nat.not_lt.mpr hk), Bool.false_and]
    rw [reading_clear (fun _ => rfl), hu.events, hlies]
    rfl
  have hx : s.board.calX = 0 := hu.calX.trans
    (mean_constant fun k hk => by rw [hreading k (Nat.le_of_lt hk)])
  have hy : s.board.calY = 0 := hu.calY.trans
    (mean_constant fun k hk => by rw [hreading k (Nat.le_of_lt hk)])
  have hz : s.board.calZ = 10 := hu.calZ.trans
    (mean_constant fun k hk => by rw [hreading k (Nat.le_of_lt hk)])
  have hids : forall i : Fin 12, (boardAddresses.lookup
      (turningWorld i).macAddress).getD 0 = (turningBoard i).myData.id := by decide
  refine ⟨⟨h.id.trans (hids i), hx, hy, hz, ?_⟩, h.previous⟩
  rw [hu.theshold, hreading numSamples (Nat.le_refl _), hx, hy, hz]
  rfl

/-- All boxes are turned and set down again in setup, and then box 5 is turned. -/
def turningEvents : List (SensedEvent (Fin 12)) :=
  List.replicate 5 .receiver ++
    (List.finRange 12).flatMap (fun i =>
      [.pass i 100, .arrives (2 * i.val), .receiver, .receiver, .receiver,
        .pass i 200, .arrives (2 * i.val + 1), .receiver]) ++
    List.replicate 16 .receiver ++
    [.pass ⟨4, Nat.le_add_left 5 7⟩ 300, .arrives 24] ++ List.replicate 9 .receiver

def turningParts : Parts (Fin 12) Int :=
  { benchParts with board := turningBoard }

theorem turning_answer : Pc.answer
    ((System.start turningParts).run benchOps.toFloatOps lossyTable
      (measuredSamples benchOps turningWorld (fun _ => numSamples + 1)
        turningEvents)).receiver.device.pc = some .wrongBox := by
  decide +kernel

def turningAssembly (sketch : Fin 12 -> Sketch Int)
    (returned : forall i,
      setup benchOps (turningWorld i) 1 benchBus = .returned (sketch i)) :
    Assembly benchOps (Fin 12) where
  world := turningWorld
  bus := fun _ => benchBus
  polls := fun _ => 1
  sketch := sketch
  number := fun i => i.val + 1
  poweredOn := fun i => benchPoweredOn (turningWorld i).macAddress
  radio := fun _ => rfl
  returned := returned
  known := by decide
  distinct := by decide
  table := benchTable
  still := benchParts.still
  expanders := poweredBus

theorem turningAssembly_station (sketch : Fin 12 -> Sketch Int)
    (returned : forall i,
      setup benchOps (turningWorld i) 1 benchBus = .returned (sketch i)) :
    ((Sensed.start (turningAssembly sketch returned)).run benchOps
        (turningAssembly sketch returned).world lossyTable
        turningEvents).toStation =
      ((System.start turningParts).run benchOps.toFloatOps lossyTable
        (measuredSamples benchOps turningWorld (fun _ => numSamples + 1)
          turningEvents)).toStation := by
  have hkeep := allKeep_start (turningAssembly sketch returned)
  have hcalibrated : forall i, Calibrated benchOps (turningWorld i) (sketch i) :=
    fun i => setup_calibrated (benchPoweredOn (turningWorld i).macAddress) rfl
      (returned i)
  have hcount : (fun i => (sketch i).events) = fun _ => numSamples + 1 := by
    funext i
    rcases (hcalibrated i).sampled with ⟨u, hu⟩
    exact hu.eventsAfter
  have hsamples : (Sensed.start (turningAssembly sketch returned)).samples benchOps
      (turningAssembly sketch returned).world lossyTable turningEvents =
        measuredSamples benchOps turningWorld (fun _ => numSamples + 1)
          turningEvents := by
    rw [samples_clear lossyTable (fun _ _ => rfl) turningEvents hkeep, ← hcount]
    rfl
  have hsystem : ((Sensed.start (turningAssembly sketch returned)).run benchOps
      (turningAssembly sketch returned).world lossyTable turningEvents).system = _ :=
    system_run lossyTable turningEvents hkeep
  have hparts : AlikeSystem (Sensed.start (turningAssembly sketch returned)).system
      (System.start turningParts) :=
    ⟨rfl, fun i => turning_alike (hcalibrated i)⟩
  rw [hsamples] at hsystem
  exact (congrArg System.toStation hsystem).trans
    (alike_run benchOps.toFloatOps lossyTable _ hparts).station

/-!
# From the sensors to the answers
-/

/-- The receiver has found a movement at an earlier moment, after which nothing has
happened in the trial, and before that moment the box was disturbed. -/
def Answered (c : Assembly ops sender) (x : SetupWorld)
    (events : List (SensedEvent sender)) (d : Device) (outcome : Outcome) : Prop :=
  exists before after b object, events = before ++ .receiver :: after ∧
    Gives outcome b object ∧ d.globals.target = some b ∧
    d.trace = ((Sensed.start c).run ops c.world x before).receiver.device.trace ++
      [.observed object d.globals.currentTrial] ∧
    (0 ≤ object ∧ object < 15 -> Disturbed c x before object)

/-- When a trial is answered as correct or as a wrong box, the sensor of the box
in question had measured something else than at the end of its calibration, or
some transaction of it was lost. -/
theorem answered_run {c : Assembly ops sender} {x : SetupWorld}
    (hgt : forall m, ops.gt m (ops.add m (ops.ofInt 3)) = false)
    {events : List (SensedEvent sender)} {outcome : Outcome}
    (hanswer : Pc.answer
      ((Sensed.start c).run ops c.world x events).receiver.device.pc = some outcome)
    (hmoved : outcome ≠ .timeout) :
    Answered c x events
      ((Sensed.start c).run ops c.world x events).receiver.device outcome := by
  rw [station_run] at hanswer ⊢
  rcases (answering_run ops.toFloatOps x c.parts _).answer outcome hanswer hmoved
    with ⟨l, r, b, object, hsplit, hgives, htarget, htrace, hreported⟩
  rcases samples_at hsplit with ⟨before, e, after, hevents, hl, he⟩
  cases e with
  | receiver =>
      refine ⟨before, after, b, object, hevents, hgives, htarget, ?_, ?_⟩
      · rw [station_run, hl]
        exact htrace
      · intro hrange
        have hmoved := hreported hrange
        rw [← hl] at hmoved
        exact hmoved.disturbed hgt
  | pass | reports | arrives => cases he

/-- Box 5 was turned while box 3 is commanded. -/
theorem answered_run_bench : exists c : Assembly benchOps (Fin 12),
    Answered c lossyTable turningEvents
      ((Sensed.start c).run benchOps c.world lossyTable
        turningEvents).receiver.device .wrongBox := by
  have hreturned : forall i, exists s,
      setup benchOps (turningWorld i) 1 benchBus = .returned s :=
    fun i => benchReturned (turningWorld i).macAddress (turningWorld i).measured
  choose sketch returned using hreturned
  have hanswer := turning_answer
  rw [← turningAssembly_station sketch returned] at hanswer
  exact ⟨turningAssembly sketch returned,
    answered_run benchOps_gt hanswer (by decide)⟩

end Apparatus
end BoxTrials
