import BoxTrials.Sender.Network
import BoxTrials.Sender.Setup

/-!
# Boards from power-on

What a board senses after its `setup()`, pass after pass, and what boards with the
numbers of their addresses do to the table of the receiver.
-/

namespace BoxTrials
namespace Sender

open Foundation
open Receiver
open Libraries
open Libraries.BusIO
open Libraries.MPU6050

variable {real : Type}

/-!
# Passes
-/

/-- A pass of `loop()`, which reads the sensor itself. -/
def Sketch.pass (ops : SketchOps real) (x : SketchWorld) (now : Nat)
    (s : Sketch real) : Option (StructMessage real) × Sketch real :=
  let (a, s) := s.getEvent ops x
  let (report, board) := loop ops.toFloatOps a now s.board
  (report, { s with board := board })

inductive SketchEvent where
  | pass (now : Nat)
  | reports (sendStatus : UInt8)

structure Running (real : Type) where
  sketch : Sketch real
  sent : List (StructMessage real)

def Running.step (ops : SketchOps real) (x : SketchWorld) (r : Running real) :
    SketchEvent -> Running real
  | .pass now =>
      let (report, s) := r.sketch.pass ops x now
      { sketch := s, sent := r.sent ++ report.toList }
  | .reports sendStatus =>
      { r with
        sketch := { r.sketch with board := onDataSent sendStatus r.sketch.board } }

def Running.run (ops : SketchOps real) (x : SketchWorld) (s : Sketch real)
    (events : List SketchEvent) : Running real :=
  events.foldl (Running.step ops x) { sketch := s, sent := [] }

theorem Running.run_snoc (ops : SketchOps real) (x : SketchWorld) (s : Sketch real)
    (events : List SketchEvent) (e : SketchEvent) :
    Running.run ops x s (events ++ [e]) = (Running.run ops x s events).step ops x e :=
  List.foldl_append ..

theorem loop_calibration (ops : FloatOps real) (a : Acceleration real) (now : Nat)
    (b : Board real) :
    (loop ops a now b).2.calX = b.calX ∧ (loop ops a now b).2.calY = b.calY ∧
      (loop ops a now b).2.calZ = b.calZ ∧
      (loop ops a now b).2.theshold = b.theshold ∧
      (loop ops a now b).2.myData.x = ops.sub a.x b.calX ∧
      (loop ops a now b).2.myData.y = ops.sub a.y b.calY ∧
      (loop ops a now b).2.myData.z = ops.sub a.z b.calZ ∧
      (loop ops a now b).2.myData.isMoving =
        ops.gt (ops.magnitude (ops.sub a.x b.calX) (ops.sub a.y b.calY)
          (ops.sub a.z b.calZ)) b.theshold := by
  simp only [loop]
  split <;> exact ⟨rfl, rfl, rfl, rfl, rfl, rfl, rfl, rfl⟩

theorem Sketch.pass_spec (ops : SketchOps real) (x : SketchWorld) (now : Nat)
    {s : Sketch real} (h : Ranged s) :
    exists bus', s.pass ops x now =
        ((loop ops.toFloatOps (s.reading ops x) now s.board).1,
          { board := (loop ops.toFloatOps (s.reading ops x) now s.board).2
            calM := s.calM, mpu := s.mpu, bus := bus', events := s.events + 1 }) ∧
      bus'.transactions =
        pollAt x.wiring MPU6050_I2CADDR_DEFAULT s.bus.transactions 3 ∧
      accelRange.value (bus'.regs MPU6050_I2CADDR_DEFAULT) = 0#8 := by
  rcases Sketch.getEvent_spec ops x h with ⟨bus', hevent, hrest⟩
  refine ⟨bus', ?_, hrest⟩
  rw [Sketch.pass, hevent]

structure Keeps (s t : Sketch real) : Prop where
  ranged : Ranged t
  calX : t.board.calX = s.board.calX
  calY : t.board.calY = s.board.calY
  calZ : t.board.calZ = s.board.calZ
  theshold : t.board.theshold = s.board.theshold
  events : s.events ≤ t.events
  transactions : s.bus.transactions ≤ t.bus.transactions

theorem pass_keeps (ops : SketchOps real) (x : SketchWorld) {s t : Sketch real}
    (h : Keeps s t) (now : Nat) : Keeps s (t.pass ops x now).2 := by
  rcases Sketch.pass_spec ops x now h.ranged with ⟨bus', hpass, hcount, hrange⟩
  rcases loop_calibration ops.toFloatOps (t.reading ops x) now t.board with
    ⟨hx, hy, hz, htheshold, _⟩
  rw [hpass]
  constructor
  case ranged => exact ⟨h.ranged.mpu, hrange⟩
  case calX => exact hx.trans h.calX
  case calY => exact hy.trans h.calY
  case calZ => exact hz.trans h.calZ
  case theshold => exact htheshold.trans h.theshold
  case events => exact Nat.le_succ_of_le h.events
  case transactions =>
    have hlater := le_pollAt x.wiring MPU6050_I2CADDR_DEFAULT t.bus.transactions 3
    rw [← hcount] at hlater
    exact Nat.le_trans h.transactions (Nat.le_trans (Nat.le_add_right _ 3) hlater)

theorem run_keeps (ops : SketchOps real) (x : SketchWorld) {s : Sketch real}
    (h : Ranged s) (events : List SketchEvent) :
    Keeps s (Running.run ops x s events).sketch := by
  induction events using List.reverseRecOn with
  | nil => exact ⟨h, rfl, rfl, rfl, rfl, Nat.le_refl _, Nat.le_refl _⟩
  | append_singleton events e ih =>
      rw [Running.run_snoc]
      cases e with
      | pass now => exact pass_keeps ops x ih now
      | reports sendStatus =>
          exact ⟨⟨ih.ranged.mpu, ih.ranged.range⟩, ih.calX, ih.calY, ih.calZ,
            ih.theshold, ih.events, ih.transactions⟩

/-- In every pass the acceleration is scaled by 2 G, or by 16 G if the range could
not be read, and the offsets are those of the calibration. -/
theorem readings_run {ops : SketchOps real} {x : SketchWorld} {polls : Nat}
    {bus : Bus} {s : Sketch real}
    (h : PoweredOn x.wiring MPU6050_I2CADDR_DEFAULT bus) (hradio : x.espNowInit = 0)
    (hreturned : setup ops x polls bus = .returned s) (events : List SketchEvent)
    (now : Nat) :
    (((Running.run ops x s events).sketch.pass ops x now).2.board.myData.x =
        ops.sub ((Running.run ops x s events).sketch.reading ops x).x s.board.calX) ∧
      (((Running.run ops x s events).sketch.pass ops x now).2.board.myData.y =
        ops.sub ((Running.run ops x s events).sketch.reading ops x).y s.board.calY) ∧
      (((Running.run ops x s events).sketch.pass ops x now).2.board.myData.z =
        ops.sub ((Running.run ops x s events).sketch.reading ops x).z
          s.board.calZ) := by
  have hkeeps := run_keeps ops x (setup_calibrated h hradio hreturned).ranged events
  generalize (Running.run ops x s events).sketch = t at hkeeps
  rcases Sketch.pass_spec ops x now hkeeps.ranged with ⟨bus', hpass, _⟩
  rcases loop_calibration ops.toFloatOps (t.reading ops x) now t.board with
    ⟨_, _, _, _, hx, hy, hz, _⟩
  rw [hpass]
  exact ⟨by rw [hx, hkeeps.calX], by rw [hy, hkeeps.calY], by rw [hz, hkeeps.calZ]⟩

theorem readings_run_bench : exists s,
    setup benchOps (benchWorld "24:D7:EB:C6:E5:7A") 1 benchBus = .returned s ∧
      ((Running.run benchOps (benchWorld "24:D7:EB:C6:E5:7A") s
          [.pass 5]).sketch.pass benchOps (benchWorld "24:D7:EB:C6:E5:7A")
          6).2.board.myData.x =
        benchOps.sub ((Running.run benchOps (benchWorld "24:D7:EB:C6:E5:7A") s
          [.pass 5]).sketch.reading benchOps (benchWorld "24:D7:EB:C6:E5:7A")).x
          s.board.calX := by
  rcases benchReturned "24:D7:EB:C6:E5:7A" _ with ⟨s, hreturned⟩
  exact ⟨s, hreturned,
    (readings_run (benchPoweredOn _) rfl hreturned [.pass 5] 6).left⟩

/-!
# The calibration
-/

theorem reads_of_acks {wiring : Wiring} {addr : Byte} {n m : Nat}
    (h : forall n, n < m -> wiring.acks addr n = true) (hlt : n + 1 < m) :
    wiring.reads addr n = true := by
  rw [Wiring.reads, h n (Nat.lt_of_succ_lt hlt), h (n + 1) hlt]
  rfl

def accelerationIn (ops : SketchOps real) (buffer : Buffer) : Acceleration real :=
  let a := sample ops.toFloats buffer AccelRange.MPU6050_RANGE_2_G.value
  { x := a.x, y := a.y, z := a.z }

theorem reading_through {ops : SketchOps real} {x : SketchWorld} {s : Sketch real}
    (hdata : s.dataRead x = true) (hrange : s.rangeRead x = true) :
    s.reading ops x = accelerationIn ops (x.measured s.events) := by
  rw [Sketch.reading, hdata, hrange]
  rfl

theorem reads_clear {wiring : Wiring} {addr : Byte}
    (hacks : forall n, wiring.acks addr n = true) (n : Nat) :
    wiring.reads addr n = true :=
  reads_of_acks (fun k _ => hacks k) (Nat.lt_succ_self (n + 1))

theorem reading_clear {ops : SketchOps real} {x : SketchWorld}
    (hacks : forall n, x.wiring.acks MPU6050_I2CADDR_DEFAULT n = true)
    (s : Sketch real) :
    s.reading ops x = accelerationIn ops (x.measured s.events) :=
  reading_through (reads_clear hacks _) (reads_clear hacks _)

/-- The offsets are the means of the events of the loop, and the threshold is by
three more than what the next event differs from them. With nothing lost, the
events are what the sensor has measured. -/
theorem offsets_setup {ops : SketchOps real} {x : SketchWorld} {polls : Nat}
    {bus : Bus} {s : Sketch real}
    (h : PoweredOn x.wiring MPU6050_I2CADDR_DEFAULT bus) (hradio : x.espNowInit = 0)
    (hreturned : setup ops x polls bus = .returned s) :
    exists u, SampledBy ops x s u ∧
      ((forall n, x.wiring.acks MPU6050_I2CADDR_DEFAULT n = true) -> forall k,
        (u k).reading ops x = accelerationIn ops (x.measured k)) := by
  rcases (setup_calibrated h hradio hreturned).sampled with ⟨u, hu⟩
  refine ⟨u, hu, fun hacks k => ?_⟩
  rw [reading_clear hacks, hu.events]

theorem offsets_setup_bench : exists s u,
    setup benchOps (benchWorld "24:D7:EB:C6:E5:7A") 1 benchBus = .returned s ∧
      SampledBy benchOps (benchWorld "24:D7:EB:C6:E5:7A") s u := by
  rcases benchReturned "24:D7:EB:C6:E5:7A" _ with ⟨s, hreturned⟩
  rcases offsets_setup (benchPoweredOn _) rfl hreturned with ⟨u, hu, _⟩
  exact ⟨s, u, hreturned, hu⟩

/-!
# A board at rest

The sensor measures what it measured at the end of the calibration.
-/

/-- The sensor stays as it was at the last event of `setup()`, of which no
transaction was lost. -/
structure AtRest (x : SketchWorld) (s : Sketch real) : Prop where
  measured : forall k, numSamples ≤ k -> x.measured k = x.measured numSamples
  acks : forall n, n < s.bus.transactions ->
    x.wiring.acks MPU6050_I2CADDR_DEFAULT n = true

theorem event_through {x : SketchWorld} {t : Sketch real} {m : Nat}
    (hacks : forall n, n < m -> x.wiring.acks MPU6050_I2CADDR_DEFAULT n = true)
    (hcount : m =
      pollAt x.wiring MPU6050_I2CADDR_DEFAULT t.bus.transactions 3) :
    t.dataRead x = true ∧ t.rangeRead x = true := by
  have hdata := le_pollAt x.wiring MPU6050_I2CADDR_DEFAULT t.bus.transactions 3
  have hrange := le_pollAt x.wiring MPU6050_I2CADDR_DEFAULT
    (pollAt x.wiring MPU6050_I2CADDR_DEFAULT t.bus.transactions 1) 2
  have hsplit : pollAt x.wiring MPU6050_I2CADDR_DEFAULT
      (pollAt x.wiring MPU6050_I2CADDR_DEFAULT t.bus.transactions 1) 2 = m :=
    hcount.symm
  rw [hsplit] at hrange
  rw [← hcount] at hdata
  exact ⟨reads_of_acks hacks (by omega), reads_of_acks hacks (by omega)⟩

/-- A pass from `t`, whose reads get through, finds the sensor as it was when
`setup()` took the threshold and left the board as `s`. -/
structure Still (x : SketchWorld) (s t : Sketch real) : Prop where
  measured : x.measured t.events = x.measured numSamples
  acks : forall n, n < s.bus.transactions ->
    x.wiring.acks MPU6050_I2CADDR_DEFAULT n = true
  dataRead : t.dataRead x = true
  rangeRead : t.rangeRead x = true

theorem still_reading {ops : SketchOps real} {x : SketchWorld} {s t : Sketch real}
    (hcalibrated : Calibrated ops x s) (hstill : Still x s t)
    (hgt : forall m, ops.gt m (ops.add m (ops.ofInt 3)) = false) :
    ops.gt (ops.magnitude (ops.sub (t.reading ops x).x s.board.calX)
      (ops.sub (t.reading ops x).y s.board.calY)
      (ops.sub (t.reading ops x).z s.board.calZ)) s.board.theshold = false := by
  rcases hcalibrated.sampled with ⟨u, hu⟩
  rcases event_through hstill.acks hu.transactionsAfter with ⟨hdata, hrange⟩
  have hsame : t.reading ops x = (u numSamples).reading ops x := by
    rw [reading_through hstill.dataRead hstill.rangeRead,
      reading_through hdata hrange, hu.events, hstill.measured]
  rw [hsame, hu.theshold]
  exact hgt _

theorem AtRest.still {ops : SketchOps real} {x : SketchWorld} {s t : Sketch real}
    (hrest : AtRest x s) (hcalibrated : Calibrated ops x s) (hkeeps : Keeps s t)
    (hdata : t.dataRead x = true) (hrange : t.rangeRead x = true) :
    Still x s t := by
  rcases hcalibrated.sampled with ⟨u, hu⟩
  have hevents := hkeeps.events
  rw [hu.eventsAfter] at hevents
  exact ⟨hrest.measured t.events (Nat.le_of_succ_le hevents), hrest.acks, hdata,
    hrange⟩

theorem rest_pass {ops : SketchOps real} {x : SketchWorld} {s t : Sketch real}
    (hcalibrated : Calibrated ops x s) (hrest : AtRest x s)
    (hgt : forall m, ops.gt m (ops.add m (ops.ofInt 3)) = false)
    (hkeeps : Keeps s t) (hdata : t.dataRead x = true)
    (hrange : t.rangeRead x = true) (now : Nat) :
    (t.pass ops x now).2.board.myData.isMoving = false := by
  have hreading := still_reading hcalibrated
    (hrest.still hcalibrated hkeeps hdata hrange) hgt
  rcases Sketch.pass_spec ops x now hkeeps.ranged with ⟨bus', hpass, _⟩
  rcases loop_calibration ops.toFloatOps (t.reading ops x) now t.board with
    ⟨_, _, _, _, _, _, _, hflag⟩
  rw [hpass]
  apply hflag.trans
  rw [hkeeps.calX, hkeeps.calY, hkeeps.calZ, hkeeps.theshold]
  exact hreading

def SentRest (r : Running real) : Prop :=
  (r.sent = [] ∧ r.sketch.board.previousMovingState = -1) ∨
    exists report, r.sent = [report] ∧ report.isMoving = false ∧
      r.sketch.board.previousMovingState = 0

theorem sentRest_pass (ops : SketchOps real) (x : SketchWorld) {r : Running real}
    (h : SentRest r) (hranged : Ranged r.sketch) (now : Nat)
    (hflag : (r.sketch.pass ops x now).2.board.myData.isMoving = false) :
    SentRest (r.step ops x (.pass now)) := by
  rcases Sketch.pass_spec ops x now hranged with ⟨bus', hpass, _⟩
  rcases loop_spec ops.toFloatOps (r.sketch.reading ops x) now r.sketch.board with
    ⟨_, hprevious, hreport⟩
  rw [hpass] at hflag
  simp only at hflag
  rw [hflag] at hprevious hreport
  simp only [Running.step, hpass]
  rcases h with ⟨hsent, hfirst⟩ | ⟨report, hsent, hrest, hlater⟩
  · rw [hfirst] at hreport
    refine Or.inr ⟨_, ?_, hflag, hprevious⟩
    rw [hsent, hreport]
    rfl
  · rw [hlater] at hreport
    refine Or.inr ⟨report, ?_, hrest, hprevious⟩
    rw [hsent, hreport]
    rfl

theorem transactions_step (ops : SketchOps real) (x : SketchWorld)
    {r : Running real} (h : Ranged r.sketch) (e : SketchEvent) :
    r.sketch.bus.transactions ≤ (r.step ops x e).sketch.bus.transactions := by
  cases e with
  | pass now =>
      rcases Sketch.pass_spec ops x now h with ⟨bus', hpass, hcount, _⟩
      have hlater := le_pollAt x.wiring MPU6050_I2CADDR_DEFAULT
        r.sketch.bus.transactions 3
      simp only [Running.step, hpass]
      omega
  | reports sendStatus => exact Nat.le_refl _

/-- A board at rest senses movement only in passes with a lost read, and as long
as nothing is lost it reports once, that it does not move. -/
theorem rest_run {ops : SketchOps real} {x : SketchWorld} {polls : Nat} {bus : Bus}
    {s : Sketch real} (h : PoweredOn x.wiring MPU6050_I2CADDR_DEFAULT bus)
    (hradio : x.espNowInit = 0) (hreturned : setup ops x polls bus = .returned s)
    (hrest : AtRest x s)
    (hgt : forall m, ops.gt m (ops.add m (ops.ofInt 3)) = false)
    (events : List SketchEvent) :
    (forall now, (Running.run ops x s events).sketch.dataRead x = true ->
        (Running.run ops x s events).sketch.rangeRead x = true ->
          ((Running.run ops x s events).sketch.pass ops x
            now).2.board.myData.isMoving = false) ∧
      ((forall n, n < (Running.run ops x s events).sketch.bus.transactions ->
          x.wiring.acks MPU6050_I2CADDR_DEFAULT n = true) ->
        SentRest (Running.run ops x s events)) := by
  have hcalibrated := setup_calibrated h hradio hreturned
  have hkeeps := run_keeps ops x hcalibrated.ranged
  constructor
  · intro now hdata hrange
    exact rest_pass hcalibrated hrest hgt (hkeeps events) hdata hrange now
  · induction events using List.reverseRecOn with
    | nil => exact fun _ => Or.inl ⟨rfl, hcalibrated.previous⟩
    | append_singleton events e ih =>
        intro hacks
        have hranged := (hkeeps events).ranged
        rw [Running.run_snoc] at hacks ⊢
        have hbefore := ih fun n hn =>
          hacks n (Nat.lt_of_lt_of_le hn (transactions_step ops x hranged e))
        cases e with
        | pass now =>
            -- No transaction was lost, so those of this pass were not either.
            rcases Sketch.pass_spec ops x now hranged with ⟨bus', hpass, hcount, _⟩
            have hafter : ((Running.run ops x s events).step ops x
                (.pass now)).sketch.bus.transactions = bus'.transactions := by
              simp only [Running.step, hpass]
            rw [hafter] at hacks
            rcases event_through hacks hcount with ⟨hdata, hrange⟩
            exact sentRest_pass ops x hbefore hranged now
              (rest_pass hcalibrated hrest hgt (hkeeps events) hdata hrange now)
        | reports sendStatus => exact hbefore

theorem benchOps_gt (m : Int) :
    benchOps.gt m (benchOps.add m (benchOps.ofInt 3)) = false := by
  apply decide_eq_false
  show ¬ m > m + 3
  omega

theorem rest_run_bench : exists s,
    setup benchOps (benchWorld "24:D7:EB:C6:E5:7A") 1 benchBus = .returned s ∧
      SentRest (Running.run benchOps (benchWorld "24:D7:EB:C6:E5:7A") s
        [.pass 5, .reports 0, .pass 9, .pass 12]) := by
  rcases benchReturned "24:D7:EB:C6:E5:7A" _ with ⟨s, hreturned⟩
  exact ⟨s, hreturned,
    (rest_run (benchPoweredOn _) rfl hreturned ⟨fun _ _ => rfl, fun _ _ => rfl⟩
      benchOps_gt
      [.pass 5, .reports 0, .pass 9, .pass 12]).right fun _ _ => rfl⟩

/-!
# Boards with the numbers of their addresses
-/

/-- Boards with different addresses of the table that have come through their
`setup()`. -/
structure Crew (ops : SketchOps real) (sender : Type) where
  world : sender -> SketchWorld
  bus : sender -> Bus
  polls : sender -> Nat
  sketch : sender -> Sketch real
  number : sender -> Int
  poweredOn : forall i,
    PoweredOn (world i).wiring MPU6050_I2CADDR_DEFAULT (bus i)
  radio : forall i, (world i).espNowInit = 0
  returned : forall i, setup ops (world i) (polls i) (bus i) = .returned (sketch i)
  known : forall i, boardAddresses.lookup (world i).macAddress = some (number i)
  distinct : Function.Injective fun i => (world i).macAddress

variable {sender : Type} {ops : SketchOps real}

theorem Crew.id (c : Crew ops sender) (i : sender) :
    (c.sketch i).board.myData.id = c.number i := by
  rw [(setup_calibrated (c.poweredOn i) (c.radio i) (c.returned i)).id, c.known i]
  rfl

def Crew.fleet (c : Crew ops sender) : Fleet sender real where
  board := fun i => (c.sketch i).board
  distinct := by
    intro i j hid
    simp only [c.id] at hid
    apply c.distinct
    exact lookup_injective (c.known i) (hid ▸ c.known j)

variable [DecidableEq sender]

structure NumberedTable (c : Crew ops sender) (boards : Boards real)
    (s : Network sender real) : Prop where
  range : forall i, 1 ≤ c.number i ∧ c.number i ≤ 14
  /-- The other sketch tells the number of a board by its address. -/
  told : forall i, getMacSetup (c.world i).macAddress =
    ["\r\n", "ESP Board MAC Address:  ", (c.world i).macAddress ++ "\r\n",
      "Hello, I am ESP32 No" ++ toString (c.number i) ++ "\r\n"]
  /-- The entry under the number of a board is its last report that arrived. -/
  entry : forall i, s.boards.entry (c.number i) =
    (lastValue (messageOf i) s.delivered).or (boards.entry (c.number i))
  others : forall id, (forall i, c.number i ≠ id) ->
    s.boards.entry id = boards.entry id
  /-- When all its reports have arrived the entry has the flag of the board. -/
  agreement : forall i, 1 ≤ s.passes i -> s.queue i = [] ->
    (s.boards.entry (c.number i)).map StructMessage.isMoving =
      some (s.fleet.board i).myData.isMoving

theorem boardNumbers_range : forall entry, entry ∈ boardAddresses ->
    1 ≤ entry.2 ∧ entry.2 ≤ 14 := by
  decide

theorem numberedTable_run (c : Crew ops sender)
    (boards : Boards real) (events : List (NetworkEvent sender real)) :
    NumberedTable c boards
      ((Network.start c.fleet boards).run ops.toFloatOps events) := by
  have h := network_run ops.toFloatOps (networkInvariant_start c.fleet boards) events
  generalize (Network.start c.fleet boards).run ops.toFloatOps events = s at h
  have hid : forall i, c.fleet.id i = c.number i := c.id
  constructor
  case range => exact fun i => boardNumbers_range _ (mem_of_lookup (c.known i))
  case told =>
    intro i
    change ["\r\n", "ESP Board MAC Address:  ", (c.world i).macAddress ++ "\r\n"] ++
      boardLines (c.world i).macAddress "Hello, I am ESP32 No" boardAddresses = _
    rw [boardLines_lookup _ _ boardAddresses_nodup, c.known i]
    rfl
  case entry =>
    intro i
    rw [← hid, h.entry i]
  case others =>
    intro id hother
    apply h.others
    intro i
    rw [hid]
    exact hother i
  case agreement =>
    intro i hpasses hqueue
    have hlatest := h.latest i hpasses
    rw [Network.sentBy, hqueue, List.append_nil, getLast?_filterMap] at hlatest
    rcases Option.map_eq_some_iff.mp hlatest with ⟨report, hreport, hflag⟩
    rw [← hid, h.entry i, hreport, Option.some_or, Option.map_some, hflag]

theorem crew_bench : exists c : Crew benchOps Bool,
    (forall i, c.world i =
      benchWorld (if i then "24:D7:EB:C6:E5:7A" else "98:F4:AB:BE:A0:AB")) ∧
      c.number true = 2 ∧ c.number false = 14 := by
  rcases benchReturned "24:D7:EB:C6:E5:7A" _ with ⟨s, hs⟩
  rcases benchReturned "98:F4:AB:BE:A0:AB" _ with ⟨t, ht⟩
  refine ⟨{
    world := fun i =>
      benchWorld (if i then "24:D7:EB:C6:E5:7A" else "98:F4:AB:BE:A0:AB")
    bus := fun _ => benchBus
    polls := fun _ => 1
    sketch := fun i => if i then s else t
    number := fun i => if i then 2 else 14
    poweredOn := fun _ => benchPoweredOn _
    radio := fun _ => rfl
    returned := fun i => by cases i <;> assumption
    known := by decide
    distinct := by decide }, fun _ => rfl, rfl, rfl⟩

theorem numberedTable_run_bench : exists c : Crew benchOps Bool,
    c.number true = 2 ∧ c.number false = 14 ∧
      forall (boards : Boards Int) events, NumberedTable c boards
        ((Network.start c.fleet boards).run benchOps.toFloatOps events) := by
  rcases crew_bench with ⟨c, _, htrue, hfalse⟩
  exact ⟨c, htrue, hfalse, fun boards events => numberedTable_run c boards events⟩

end Sender
end BoxTrials
