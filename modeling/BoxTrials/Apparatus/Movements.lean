import BoxTrials.Apparatus.TableReads
import BoxTrials.Receiver.Attribution
import BoxTrials.Sender.Sensing

/-!
# Movements

The boards and the receiver run side by side.  The radio may lose reports, repeat
them and let them overtake each other, and a report may arrive between any two
steps of the receiver.  What the receiver takes for a movement is nevertheless one
that a board has reported.
-/

namespace BoxTrials
namespace Apparatus

open Foundation
open Libraries.BusIO
open Receiver
open Sender

variable {sender real : Type}

/-!
# The whole apparatus
-/

/-- The boards after their `setup()` and the receiver as it is switched on. -/
structure Parts (sender real : Type) where
  board : sender -> Board real
  table : Boards real
  still : forall id report, table.entry id = some report ->
    report.isMoving = false
  bus : Bus

structure Station (sender real : Type) where
  /-- The reports given to the radio, with the board that sent them. -/
  sent : List (sender × StructMessage real)
  /-- The reports that arrived, once for each arrival. -/
  delivered : List (sender × StructMessage real)
  table : Boards real
  receiver : Machine

structure System (sender real : Type) extends Station sender real where
  board : sender -> Board real

inductive SystemEvent (sender real : Type) where
  | pass (i : sender) (a : Acceleration real) (now : Nat)
  /-- A board is told how a sending went. -/
  | reports (i : sender) (sendStatus : UInt8)
  /-- The report that was sent as the `k`-th arrives. -/
  | arrives (k : Nat)
  | receiver

def SystemEvent.isReceiver : SystemEvent sender real -> Bool
  | .receiver => true
  | _ => false

def Station.start (parts : Parts sender real) : Station sender real where
  sent := []
  delivered := []
  table := parts.table
  receiver := { setup := Setup.start parts.bus, device := Device.boot }

def System.start (parts : Parts sender real) : System sender real where
  toStation := Station.start parts
  board := parts.board

/-- `OnDataRecv` is registered, once `esp_now_init` has succeeded. -/
def listens (x : SetupWorld) (m : Machine) : Bool :=
  m.setup.pc != .radio && x.espNowInit == 0

/-- The flag of an entry, and next to the table what is there. -/
def tableFlag (x : SetupWorld) (t : Boards real) (k : Nat) (i : Int) : Bool :=
  match t.entry i with
  | some report => report.isMoving
  | none => x.world.isMoving k i

def looksAt (x : SetupWorld) (t : Nat -> Boards real) : SetupWorld :=
  x.sees fun k => tableFlag x (t k) k

def Station.sends (i : sender) (report : Option (StructMessage real))
    (s : Station sender real) : Station sender real :=
  { s with sent := s.sent ++ report.toList.map fun report => (i, report) }

def Station.arrives (x : SetupWorld) (k : Nat) (s : Station sender real) :
    Station sender real :=
  match s.sent[k]? with
  | none => s
  | some (i, report) =>
      if listens x s.receiver then
        { s with
          delivered := s.delivered ++ [(i, report)]
          table := s.table.onDataRecv report }
      else
        s

def Station.step (x : SetupWorld) (s : Station sender real) : Station sender real :=
  { s with receiver := machineStep (looksAt x fun _ => s.table) s.receiver }

def System.step [DecidableEq sender] (ops : FloatOps real) (x : SetupWorld)
    (s : System sender real) : SystemEvent sender real -> System sender real
  | .pass i a now =>
      { toStation := s.toStation.sends i (loop ops a now (s.board i)).1
        board := Function.update s.board i (loop ops a now (s.board i)).2 }
  | .reports i sendStatus =>
      { s with
        board := Function.update s.board i (onDataSent sendStatus (s.board i)) }
  | .arrives k => { s with toStation := s.toStation.arrives x k }
  | .receiver => { s with toStation := s.toStation.step x }

def System.run [DecidableEq sender] (ops : FloatOps real) (x : SetupWorld)
    (s : System sender real) (events : List (SystemEvent sender real)) :
    System sender real :=
  events.foldl (System.step ops x) s

theorem System.run_snoc [DecidableEq sender] (ops : FloatOps real) (x : SetupWorld)
    (s : System sender real) (events : List (SystemEvent sender real))
    (e : SystemEvent sender real) :
    s.run ops x (events ++ [e]) = (s.run ops x events).step ops x e := by
  rw [System.run, List.foldl_append]
  rfl

theorem System.step_other [DecidableEq sender] (ops : FloatOps real)
    (x : SetupWorld) (s : System sender real) {e : SystemEvent sender real}
    (h : e ≠ .receiver) :
    (s.step ops x e).receiver = s.receiver ∧
      exists later, (s.step ops x e).delivered = s.delivered ++ later := by
  cases e with
  | pass | reports => exact ⟨rfl, [], (List.append_nil _).symm⟩
  | arrives k =>
      simp only [System.step, Station.arrives]
      split
      · exact ⟨rfl, [], (List.append_nil _).symm⟩
      · split
        · exact ⟨rfl, _, rfl⟩
        · exact ⟨rfl, [], (List.append_nil _).symm⟩
  | receiver => exact absurd rfl h

/-!
# Reports
-/

structure ReportOf (ops : FloatOps real) (b : Board real) (a : Acceleration real)
    (report : StructMessage real) : Prop where
  id : report.id = b.myData.id
  x : report.x = ops.sub a.x b.calX
  y : report.y = ops.sub a.y b.calY
  z : report.z = ops.sub a.z b.calZ
  m : report.m = ops.magnitude report.x report.y report.z
  isMoving : report.isMoving = ops.gt report.m b.theshold

structure SameBoard (b b' : Board real) : Prop where
  id : b.myData.id = b'.myData.id
  calX : b.calX = b'.calX
  calY : b.calY = b'.calY
  calZ : b.calZ = b'.calZ
  theshold : b.theshold = b'.theshold

theorem loop_same (ops : FloatOps real) (a : Acceleration real) (now : Nat)
    {b b' : Board real} (h : SameBoard b b') :
    SameBoard (loop ops a now b).2 b' := by
  rcases loop_calibration ops a now b with ⟨hx, hy, hz, htheshold, _⟩
  constructor
  case id => exact (loop_spec ops a now b).left.trans h.id
  case calX => exact hx.trans h.calX
  case calY => exact hy.trans h.calY
  case calZ => exact hz.trans h.calZ
  case theshold => exact htheshold.trans h.theshold

theorem loop_reports (ops : FloatOps real) (a : Acceleration real) (now : Nat)
    {b b' : Board real} (h : SameBoard b b') {report : StructMessage real}
    (hreport : report ∈ (loop ops a now b).1) : ReportOf ops b' a report := by
  simp only [loop] at hreport
  split at hreport
  · cases hreport
    constructor
    case id => exact h.id
    case x => rw [← h.calX]
    case y => rw [← h.calY]
    case z => rw [← h.calZ]
    case m => rfl
    case isMoving => rw [← h.theshold]
  · cases hreport

def received (t : Boards real) (log : List (sender × StructMessage real)) :
    Boards real :=
  (log.map Prod.snd).foldl (fun t report => t.onDataRecv report) t

theorem received_snoc (t : Boards real) (log : List (sender × StructMessage real))
    (i : sender) (report : StructMessage real) :
    received t (log ++ [(i, report)]) = (received t log).onDataRecv report := by
  rw [received, List.map_append, List.foldl_append]
  rfl

def FromPasses (ops : FloatOps real) (parts : Parts sender real)
    (events : List (SystemEvent sender real))
    (log : List (sender × StructMessage real)) : Prop :=
  forall i report, (i, report) ∈ log -> exists a now,
    .pass i a now ∈ events ∧ ReportOf ops (parts.board i) a report

/-- The last report of a log with the given number says that it moves, and was sent
in a pass of a board that has this number. -/
def Moved (ops : FloatOps real) (parts : Parts sender real)
    (events : List (SystemEvent sender real))
    (log : List (sender × StructMessage real)) (b : Int) : Prop :=
  exists i report a now, (i, report) ∈ log ∧
    lastValue (messageFrom b) (log.map Prod.snd) = some report ∧
    report.isMoving = true ∧ (parts.board i).myData.id = b ∧
    .pass i a now ∈ events ∧ ReportOf ops (parts.board i) a report

theorem FromPasses.mono {ops : FloatOps real} {parts : Parts sender real}
    {events events' : List (SystemEvent sender real)}
    {log log' : List (sender × StructMessage real)}
    (h : FromPasses ops parts events log) (hevents : events ⊆ events')
    (hlog : log' ⊆ log) : FromPasses ops parts events' log' := by
  intro i report hmem
  rcases h i report (hlog hmem) with ⟨a, now, hpass, hof⟩
  exact ⟨a, now, hevents hpass, hof⟩

theorem Moved.mono {ops : FloatOps real} {parts : Parts sender real}
    {events events' : List (SystemEvent sender real)}
    {log : List (sender × StructMessage real)} {b : Int}
    (h : Moved ops parts events log b) (hevents : events ⊆ events') :
    Moved ops parts events' log b := by
  rcases h with ⟨i, report, a, now, hmem, hlast, hmoving, hid, hpass, hof⟩
  exact ⟨i, report, a, now, hmem, hlast, hmoving, hid, hevents hpass, hof⟩

theorem moved_of_flag {ops : FloatOps real} {x : SetupWorld}
    {parts : Parts sender real} {events : List (SystemEvent sender real)}
    {log : List (sender × StructMessage real)}
    (hlog : FromPasses ops parts events log) {k : Nat} {b : Int}
    (hb : 0 ≤ b ∧ b < 15)
    (hflag : tableFlag x (received parts.table log) k b = true) :
    Moved ops parts events log b := by
  have hrange : forall m, m ∈ log.map Prod.snd -> 0 ≤ m.id ∧ m.id < 15 := by
    intro m hm
    rcases List.mem_map.mp hm with ⟨⟨i, report⟩, hmem, rfl⟩
    rcases hlog i report hmem with ⟨_, _, _, hof⟩
    rw [hof.id]
    exact (parts.board i).id_range
  rw [tableFlag, received, Boards.foldl_entry hrange] at hflag
  cases hlast : lastValue (messageFrom b) (log.map Prod.snd) with
  | none =>
      -- Nothing has arrived, and the table starts still.
      rw [hlast, Option.none_or] at hflag
      cases hentry : parts.table.entry b with
      | none =>
          have hlength := parts.table.boardsStruct_length
          rw [Boards.entry, if_pos hb.left, List.getElem?_eq_none_iff] at hentry
          omega
      | some report =>
          simp only [hentry, parts.still b report hentry] at hflag
          cases hflag
  | some report =>
      rw [hlast, Option.some_or] at hflag
      rcases lastValue_eq_some hlast with ⟨m, hm, hnumber⟩
      rw [messageFrom] at hnumber
      split at hnumber
      · rename_i hid
        cases hnumber
        rcases List.mem_map.mp hm with ⟨⟨i, report⟩, hmem, rfl⟩
        rcases hlog i report hmem with ⟨a, now, hpass, hof⟩
        exact ⟨i, report, a, now, hmem, hlast, hflag, hof.id.symm.trans hid,
          hpass, hof⟩
      · cases hnumber

/-!
# Runs
-/

/-- The boards stay the same, the radio makes up no reports, and the table is that
of the reports that arrived. -/
structure Honest (ops : FloatOps real) (x : SetupWorld)
    (parts : Parts sender real) (events : List (SystemEvent sender real))
    (s : System sender real) : Prop where
  board : forall i, SameBoard (s.board i) (parts.board i)
  sent : FromPasses ops parts events s.sent
  delivered : s.delivered ⊆ s.sent
  table : s.table = received parts.table s.delivered
  deaf : x.espNowInit ≠ 0 -> s.delivered = []

theorem honest_start (ops : FloatOps real) (x : SetupWorld)
    (parts : Parts sender real) :
    Honest ops x parts [] (System.start parts) where
  board := fun _ => ⟨rfl, rfl, rfl, rfl, rfl⟩
  sent := fun _ _ h => by cases h
  delivered := fun _ h => by cases h
  table := rfl
  deaf := fun _ => rfl

theorem Honest.reports {ops : FloatOps real} {x : SetupWorld}
    {parts : Parts sender real} {events : List (SystemEvent sender real)}
    {s : System sender real} (h : Honest ops x parts events s) :
    FromPasses ops parts events s.delivered :=
  h.sent.mono (List.Subset.refl events) h.delivered

variable [DecidableEq sender]

theorem update_same {board start : sender -> Board real} {i : sender}
    {b : Board real} (h : forall j, SameBoard (board j) (start j))
    (hb : SameBoard b (start i)) (j : sender) :
    SameBoard (Function.update board i b j) (start j) :=
  (Function.forall_update_iff board fun k b => SameBoard b (start k)).mpr
    ⟨hb, fun k _ => h k⟩ j

theorem honest_step (ops : FloatOps real) {x : SetupWorld}
    {parts : Parts sender real} {events : List (SystemEvent sender real)}
    {s : System sender real} (h : Honest ops x parts events s)
    (e : SystemEvent sender real) :
    Honest ops x parts (events ++ [e]) (s.step ops x e) := by
  have hlater : FromPasses ops parts (events ++ [e]) s.sent :=
    h.sent.mono (List.subset_append_left events [e]) (List.Subset.refl _)
  cases e with
  | pass i a now =>
      constructor
      case board => exact update_same h.board (loop_same ops a now (h.board i))
      case sent =>
        intro j report hmem
        rcases List.mem_append.mp hmem with hold | hnew
        · exact hlater j report hold
        · rcases List.mem_map.mp hnew with ⟨report', hreport, hpair⟩
          cases hpair
          exact ⟨a, now, List.mem_append_right _ (List.mem_singleton_self _),
            loop_reports ops a now (h.board i) (Option.mem_toList.mp hreport)⟩
      case delivered => exact fun p hp => List.mem_append_left _ (h.delivered hp)
      case table => exact h.table
      case deaf => exact h.deaf
  | reports i sendStatus =>
      have hsame := h.board i
      constructor
      case board =>
        exact update_same h.board
          ⟨hsame.id, hsame.calX, hsame.calY, hsame.calZ, hsame.theshold⟩
      case sent => exact hlater
      case delivered => exact h.delivered
      case table => exact h.table
      case deaf => exact h.deaf
  | arrives k =>
      have hunheard : Honest ops x parts (events ++ [.arrives k]) s :=
        ⟨h.board, hlater, h.delivered, h.table, h.deaf⟩
      simp only [System.step, Station.arrives]
      split
      · exact hunheard
      · rename_i i report hsent
        split
        · rename_i hlistens
          have hradio : x.espNowInit = 0 := by
            simp only [listens, Bool.and_eq_true, beq_iff_eq] at hlistens
            exact hlistens.right
          constructor
          case board => exact h.board
          case sent => exact hlater
          case delivered =>
            intro p hp
            rcases List.mem_append.mp hp with hold | hnew
            · exact h.delivered hold
            · rw [List.mem_singleton.mp hnew]
              exact List.mem_of_getElem? hsent
          case table => rw [received_snoc, ← h.table]
          case deaf => exact fun hfailed => absurd hradio hfailed
        · exact hunheard
  | receiver => exact ⟨h.board, hlater, h.delivered, h.table, h.deaf⟩

theorem honest_run (ops : FloatOps real) (x : SetupWorld)
    (parts : Parts sender real) (events : List (SystemEvent sender real)) :
    Honest ops x parts events ((System.start parts).run ops x events) := by
  induction events using List.reverseRecOn with
  | nil => exact honest_start ops x parts
  | append_singleton events e ih =>
      rw [System.run_snoc]
      exact honest_step ops ih e

/-!
# The receiver among the boards
-/

/-- The receiver is where it is after `n` steps in a world in which its `k`-th look
finds the table after the first `l k` of the reports that arrived. -/
structure LooksBehind (x : SetupWorld) (parts : Parts sender real)
    (s : Station sender real) (l : Nat -> Nat) (n : Nat) : Prop where
  mono : Monotone l
  le : forall k, l k ≤ s.delivered.length
  receiver : s.receiver =
    machineRun (looksAt x fun k => received parts.table (s.delivered.take (l k)))
      parts.bus n

omit [DecidableEq sender] in
theorem machineRun_reader (x : SetupWorld) (t : Nat -> Boards real) (bus : Bus)
    (n : Nat) :
    machineRun (looksAt x t) bus n =
      (tableReader x).run (fun k => tableFlag x (t k) k) n
        { setup := Setup.start bus, device := Device.boot } :=
  rfl

def constantFrom (l : Nat -> Nat) (n c k : Nat) : Nat :=
  if k < n then l k else c

theorem constantFrom_mono {l : Nat -> Nat} {c : Nat} (hl : Monotone l)
    (hle : forall k, l k ≤ c) (n : Nat) : Monotone (constantFrom l n c) := by
  intro j k hjk
  simp only [constantFrom]
  split
  · split
    · exact hl hjk
    · exact hle j
  · rename_i hj
    rw [if_neg fun hk => hj (Nat.lt_of_le_of_lt hjk hk)]

omit [DecidableEq sender] in
theorem machineStep_looks {x : SetupWorld} {parts : Parts sender real}
    {s : Station sender real} {l : Nat -> Nat} {n : Nat}
    (htable : s.table = received parts.table s.delivered)
    (h : LooksBehind x parts s l n) :
    LooksBehind x parts (s.step x)
      (constantFrom l s.receiver.reads s.delivered.length) (n + 1) where
  mono := constantFrom_mono h.mono h.le _
  le := by
    intro k
    rw [constantFrom]
    split
    · exact h.le k
    · exact Nat.le_refl _
  receiver := by
    have hsplice := (tableReader x).run_splice
      (fun k => tableFlag x (received parts.table (s.delivered.take (l k))) k)
      (fun k => tableFlag x s.table k) n
      { setup := Setup.start parts.bus, device := Device.boot }
    rw [← machineRun_reader, ← h.receiver] at hsplice
    rw [machineRun_reader]
    apply hsplice.symm.trans
    -- Looks that are still to come find the table as it is now.
    congr 1
    funext k
    rw [constantFrom]
    show (if k < s.receiver.reads then _ else _) = _
    split
    · rfl
    · have htake : (s.step x).delivered.take s.delivered.length = s.delivered :=
        List.take_length
      rw [htake, htable]

omit [DecidableEq sender] in
theorem arrives_looks {x : SetupWorld} {parts : Parts sender real}
    {s s' : Station sender real} {l : Nat -> Nat} {n : Nat}
    {later : List (sender × StructMessage real)} (h : LooksBehind x parts s l n)
    (hreceiver : s'.receiver = s.receiver)
    (hdelivered : s'.delivered = s.delivered ++ later) :
    LooksBehind x parts s' l n where
  mono := h.mono
  le := by
    intro k
    rw [hdelivered, List.length_append]
    exact Nat.le_trans (h.le k) (Nat.le_add_right _ _)
  receiver := by
    rw [hreceiver, h.receiver, hdelivered]
    congr 2
    funext k
    rw [List.take_append_of_le_length (h.le k)]

theorem System.step_reads_le (ops : FloatOps real) (x : SetupWorld)
    (s : System sender real) (e : SystemEvent sender real) :
    s.receiver.reads ≤ (s.step ops x e).receiver.reads := by
  have hother (h : e ≠ .receiver) :
      s.receiver.reads ≤ (s.step ops x e).receiver.reads := by
    rw [(s.step_other ops x h).left]
  cases e with
  | pass | reports | arrives => exact hother nofun
  | receiver => exact machineStep_reads_le _ s.receiver

theorem System.run_reads_le (ops : FloatOps real) (x : SetupWorld)
    (s : System sender real) (events : List (SystemEvent sender real)) :
    s.receiver.reads ≤ (s.run ops x events).receiver.reads := by
  induction events generalizing s with
  | nil => exact Nat.le_refl _
  | cons e rest ih => exact Nat.le_trans (s.step_reads_le ops x e) (ih _)

/-- What a look of the receiver finds are the reports that had arrived before that
step. -/
def LooksInTime (ops : FloatOps real) (x : SetupWorld) (parts : Parts sender real)
    (events : List (SystemEvent sender real)) (l : Nat -> Nat) : Prop :=
  forall before after, events = before ++ .receiver :: after ->
    ((System.start parts).run ops x before).receiver.reads <
        ((System.start parts).run ops x (before ++ [.receiver])).receiver.reads ->
      ((System.start parts).run ops x events).delivered.take
          (l ((System.start parts).run ops x before).receiver.reads) =
        ((System.start parts).run ops x before).delivered

theorem LooksInTime.later {ops : FloatOps real} {x : SetupWorld}
    {parts : Parts sender real} {events : List (SystemEvent sender real)}
    {l : Nat -> Nat} (h : LooksInTime ops x parts events l)
    (hle : forall k, l k ≤ ((System.start parts).run ops x events).delivered.length)
    {e : SystemEvent sender real} (hother : e ≠ .receiver) :
    LooksInTime ops x parts (events ++ [e]) l := by
  intro before after hsplit hlook
  rcases snoc_eq_append_cons hsplit with ⟨_, _, hlast⟩ | ⟨after', _, hsplit'⟩
  · exact absurd hlast hother
  · rcases (((System.start parts).run ops x events).step_other ops x hother).right with
      ⟨later, hdelivered⟩
    rw [System.run_snoc, hdelivered, List.take_append_of_le_length (hle _)]
    exact h before after' hsplit' hlook

theorem LooksInTime.look {ops : FloatOps real} {x : SetupWorld}
    {parts : Parts sender real} {events : List (SystemEvent sender real)}
    {l : Nat -> Nat} (h : LooksInTime ops x parts events l) :
    LooksInTime ops x parts (events ++ [.receiver])
      (constantFrom l ((System.start parts).run ops x events).receiver.reads
        ((System.start parts).run ops x events).delivered.length) := by
  intro before after hsplit hlook
  rw [System.run_snoc]
  show ((System.start parts).run ops x events).delivered.take _ = _
  rcases snoc_eq_append_cons hsplit with ⟨_, rfl, _⟩ | ⟨after', _, hsplit'⟩
  · -- The look of this step finds all that has arrived.
    rw [constantFrom, if_neg (Nat.lt_irrefl _), List.take_length]
  · have hearlier : ((System.start parts).run ops x before).receiver.reads <
        ((System.start parts).run ops x events).receiver.reads := by
      have hrest := ((System.start parts).run ops x
        (before ++ [.receiver])).run_reads_le ops x after'
      rw [System.run, System.run, ← List.foldl_append, List.append_assoc] at hrest
      rw [hsplit']
      exact Nat.lt_of_lt_of_le hlook hrest
    rw [constantFrom, if_pos hearlier]
    exact h before after' hsplit' hlook

theorem looksBehind_run (ops : FloatOps real) (x : SetupWorld)
    (parts : Parts sender real) (events : List (SystemEvent sender real)) :
    exists l, LooksBehind x parts ((System.start parts).run ops x events).toStation l
        (events.countP SystemEvent.isReceiver) ∧
      LooksInTime ops x parts events l := by
  induction events using List.reverseRecOn with
  | nil =>
      refine ⟨fun _ => 0, ⟨fun _ _ _ => Nat.le_refl 0, fun _ => Nat.le_refl 0, rfl⟩, ?_⟩
      intro before after hsplit
      exact absurd hsplit.symm
        (List.append_ne_nil_of_right_ne_nil before (List.cons_ne_nil _ after))
  | append_singleton events e ih =>
      rcases ih with ⟨l, hl, hlooks⟩
      have htable := (honest_run ops x parts events).table
      have hother (hreceiver : e ≠ .receiver) :
          exists l, LooksBehind x parts
              (((System.start parts).run ops x events).step ops x e).toStation l
              (events.countP SystemEvent.isReceiver) ∧
            LooksInTime ops x parts (events ++ [e]) l := by
        rcases ((System.start parts).run ops x events).step_other ops x hreceiver with
          ⟨hsame, later, hdelivered⟩
        exact ⟨l, arrives_looks hl hsame hdelivered, hlooks.later hl.le hreceiver⟩
      rw [System.run_snoc, List.countP_append, List.countP_singleton]
      cases e with
      | pass | reports | arrives => exact hother nofun
      | receiver => exact ⟨_, machineStep_looks htable hl, hlooks.look⟩

structure ApparatusRuns (ops : FloatOps real) (x : SetupWorld)
    (parts : Parts sender real) (events : List (SystemEvent sender real))
    (s : System sender real) : Prop extends Honest ops x parts events s where
  receiver : exists l, LooksBehind x parts s.toStation l
      (events.countP SystemEvent.isReceiver) ∧
    LooksInTime ops x parts events l

/-- In every run of the apparatus the receiver runs as it does alone, in a world
where the table changes with the reports that arrive, in their order. -/
theorem apparatus_run (ops : FloatOps real) (x : SetupWorld)
    (parts : Parts sender real) (events : List (SystemEvent sender real)) :
    ApparatusRuns ops x parts events ((System.start parts).run ops x events) where
  toHonest := honest_run ops x parts events
  receiver := looksBehind_run ops x parts events

/-!
# Twelve boxes
-/

def benchBoard (i : Fin 12) : Board Int where
  lastTime := 0
  theshold := 3
  previousMovingState := -1
  calX := 0
  calY := 0
  calZ := 0
  myData := { id := i.val + 1, x := 0, y := 0, z := 0, m := 0, isMoving := false }
  serialOut := []
  id_nonneg := Int.natCast_nonneg (i.val + 1)
  id_le := by
    show (i.val : Int) + 1 ≤ 14
    omega

def benchTable : Boards Int where
  boardsStruct :=
    List.replicate 15 { id := 0, x := 0, y := 0, z := 0, m := 0, isMoving := false }
  boardsStruct_length := rfl
  outside := []

def benchParts : Parts (Fin 12) Int where
  board := benchBoard
  table := benchTable
  still := by
    intro id report h
    rw [Boards.entry] at h
    split at h
    · have hmem := List.mem_of_getElem? h
      rw [benchTable, List.mem_replicate] at hmem
      rw [hmem.right]
    · cases h
  bus := poweredBus

/-- All boxes are moved and laid down again in setup, and then box 5 is moved. -/
def benchEvents : List (SystemEvent (Fin 12) Int) :=
  List.replicate 5 .receiver ++
    (List.finRange 12).flatMap (fun i =>
      [.pass i ⟨9, 0, 0⟩ 100, .arrives (2 * i.val), .receiver, .receiver, .receiver,
        .pass i ⟨1, 0, 0⟩ 200, .arrives (2 * i.val + 1), .receiver]) ++
    List.replicate 16 .receiver ++
    [.pass 4 ⟨9, 0, 0⟩ 300, .arrives 24] ++ List.replicate 9 .receiver

/-!
# Setup
-/

/-- `sensor_test` looks for board `b` and finds it moving, since the last report with
this number that has arrived says so. -/
structure FoundMoving (ops : FloatOps real) (x : SetupWorld)
    (parts : Parts sender real) (before : List (SystemEvent sender real)) (b : Int) :
    Prop where
  waits : ((System.start parts).run ops x before).receiver.setup.pc = .wait b
  reported : Moved ops parts before ((System.start parts).run ops x before).delivered b
  found : ((System.start parts).run ops x
    (before ++ [.receiver])).receiver.setup.pc = .moved b

/-- The moments at which the boards before `i` are found moving, in their order. -/
structure InTurn (ops : FloatOps real) (x : SetupWorld)
    (parts : Parts sender real) (events : List (SystemEvent sender real)) (i : Int)
    (before : Nat -> List (SystemEvent sender real)) : Prop where
  found : forall b : Nat, 1 ≤ b -> (b : Int) < i ->
    FoundMoving ops x parts (before b) b
  within : forall b : Nat, 1 ≤ b -> (b : Int) < i ->
    before b ++ [.receiver] <+: events
  order : forall b c : Nat, 1 ≤ b -> b < c -> (c : Int) < i ->
    before b ++ [.receiver] <+: before c

theorem InTurn.later {ops : FloatOps real} {x : SetupWorld}
    {parts : Parts sender real} {events : List (SystemEvent sender real)} {i : Int}
    {before : Nat -> List (SystemEvent sender real)}
    (h : InTurn ops x parts events i before) (e : SystemEvent sender real) :
    InTurn ops x parts (events ++ [e]) i before where
  found := h.found
  within b hlo hhi := (h.within b hlo hhi).trans (List.prefix_append events [e])
  order := h.order

theorem InTurn.next {ops : FloatOps real} {x : SetupWorld}
    {parts : Parts sender real} {events : List (SystemEvent sender real)} {n : Nat}
    {before : Nat -> List (SystemEvent sender real)}
    (h : InTurn ops x parts events n before)
    (hfound : FoundMoving ops x parts events n) :
    InTurn ops x parts (events ++ [.receiver]) (n + 1)
      (Function.update before n events) := by
  have hearlier {b : Nat} (hlt : b < n) :
      Function.update before n events b = before b :=
    Function.update_of_ne (Nat.ne_of_lt hlt) _ _
  constructor
  case found =>
    intro b hlo hhi
    rcases Nat.lt_or_eq_of_le (show b ≤ n by omega) with hlt | rfl
    · rw [hearlier hlt]
      exact h.found b hlo (by omega)
    · rw [Function.update_self]
      exact hfound
  case within =>
    intro b hlo hhi
    rcases Nat.lt_or_eq_of_le (show b ≤ n by omega) with hlt | rfl
    · rw [hearlier hlt]
      exact (h.later .receiver).within b hlo (by omega)
    · rw [Function.update_self]
  case order =>
    intro b c hlo hbc hhi
    rw [hearlier (show b < n by omega)]
    rcases Nat.lt_or_eq_of_le (show c ≤ n by omega) with hlt | rfl
    · rw [hearlier hlt]
      exact h.order b c hlo hbc (by omega)
    · rw [Function.update_self]
      exact h.within b hlo (by omega)

def Reported (ops : FloatOps real) (x : SetupWorld) (parts : Parts sender real)
    (events : List (SystemEvent sender real)) : SetupPc -> Prop
  | .radio | .expanders | .hung | .colors | .sensors => True
  | .board i => 1 ≤ i ∧ i ≤ 13 ∧ exists before, InTurn ops x parts events i before
  | .wait i => 1 ≤ i ∧ i ≤ 12 ∧ exists before, InTurn ops x parts events i before
  | .moved i | .reset i =>
      1 ≤ i ∧ i ≤ 12 ∧ exists before, InTurn ops x parts events (i + 1) before
  | .done =>
      x.espNowInit = 0 -> exists before, InTurn ops x parts events 13 before

theorem Reported.later {ops : FloatOps real} {x : SetupWorld}
    {parts : Parts sender real} {events : List (SystemEvent sender real)}
    {pc : SetupPc} (h : Reported ops x parts events pc)
    (e : SystemEvent sender real) : Reported ops x parts (events ++ [e]) pc := by
  cases pc with
  | radio | expanders | hung | colors | sensors => trivial
  | board i | wait i | moved i | reset i =>
      rcases h with ⟨hlo, hhi, before, hbefore⟩
      exact ⟨hlo, hhi, before, hbefore.later e⟩
  | done =>
      intro hradio
      rcases h hradio with ⟨before, hbefore⟩
      exact ⟨before, hbefore.later e⟩

theorem setupStep_reported (ops : FloatOps real) (x : SetupWorld)
    (parts : Parts sender real) (events : List (SystemEvent sender real))
    {m : Machine} {t : Boards real}
    (hm : ((System.start parts).run ops x events).receiver = m)
    (ht : ((System.start parts).run ops x events).table = t)
    (hstep : ((System.start parts).run ops x (events ++ [.receiver])).receiver.setup =
      setupStep (looksAt x fun _ => t) m.setup)
    (h : Reported ops x parts events m.setup.pc) :
    Reported ops x parts (events ++ [.receiver])
      (setupStep (looksAt x fun _ => t) m.setup).pc := by
  have hlater := h.later .receiver
  cases hpc : m.setup.pc with
  | radio =>
      simp only [setupStep, hpc]
      split
      · rename_i hfailed
        exact fun hradio => absurd hradio hfailed
      · trivial
  | expanders =>
      simp only [setupStep, hpc]
      split <;> trivial
  | colors =>
      simp only [setupStep, hpc]
      split <;> trivial
  | sensors =>
      simp only [setupStep, hpc, Setup.light]
      refine ⟨by decide, by decide, fun _ => [], ?_, ?_, ?_⟩
      all_goals intros; omega
  | board i =>
      rw [hpc] at hlater
      rcases hlater with ⟨hlo, hhi, before, hbefore⟩
      simp only [setupStep, hpc]
      split
      · rename_i hle
        exact ⟨hlo, hle, before, hbefore⟩
      · rename_i hgt
        have hlast : i = 13 := by omega
        exact fun _ => ⟨before, hlast ▸ hbefore⟩
  | wait i =>
      rw [hpc] at h hlater
      rcases h with ⟨hlo, hhi, before, hbefore⟩
      simp only [setupStep, hpc] at hstep ⊢
      split
      · -- This look finds the board moving.
        rename_i hmoving
        rw [if_pos hmoving] at hstep
        have honest := honest_run ops x parts events
        have hfound : FoundMoving ops x parts events i := by
          constructor
          case waits => rw [hm, hpc]
          case reported =>
            rw [← ht, honest.table] at hmoving
            exact moved_of_flag honest.reports ⟨by omega, by omega⟩ hmoving
          case found => rw [hstep]
        have hnumber : (i.toNat : Int) = i := Int.toNat_of_nonneg (by omega)
        rw [← hnumber] at hbefore hfound
        have hnext := hbefore.next hfound
        rw [hnumber] at hnext
        exact ⟨hlo, hhi, _, hnext⟩
      · exact hlater
  | moved i =>
      rw [hpc] at hlater
      simp only [setupStep, hpc]
      exact hlater
  | reset i =>
      rw [hpc] at hlater
      rcases hlater with ⟨hlo, hhi, hbefore⟩
      simp only [setupStep, hpc, Setup.light]
      exact ⟨by omega, by omega, hbefore⟩
  | hung | done =>
      rw [hpc] at hlater
      simp only [setupStep, hpc]
      exact hlater

theorem reported_run (ops : FloatOps real) (x : SetupWorld)
    (parts : Parts sender real) (events : List (SystemEvent sender real)) :
    Reported ops x parts events
      ((System.start parts).run ops x events).receiver.setup.pc := by
  induction events using List.reverseRecOn with
  | nil => trivial
  | append_singleton events e ih =>
      have hlater := ih.later e
      have hother (h : e ≠ .receiver) : Reported ops x parts (events ++ [e])
          ((System.start parts).run ops x (events ++ [e])).receiver.setup.pc := by
        rw [System.run_snoc, (System.step_other ops x _ h).left]
        exact hlater
      cases e with
      | pass | reports | arrives => exact hother nofun
      | receiver =>
          have hstep : ((System.start parts).run ops x
                (events ++ [.receiver])).receiver =
              machineStep (looksAt x fun _ =>
                  ((System.start parts).run ops x events).table)
                ((System.start parts).run ops x events).receiver := by
            rw [System.run_snoc]
            rfl
          rw [machineStep] at hstep
          split at hstep
          · rw [hstep]
            exact hlater
          · have hsetup := congrArg Machine.setup hstep
            rw [hsetup]
            exact setupStep_reported ops x parts events rfl rfl hsetup ih

/-- When setup is over, `sensor_test` has found the boards moving one after the
other, each through its last report. -/
theorem setup_reported {ops : FloatOps real} {x : SetupWorld}
    (hradio : x.espNowInit = 0) (parts : Parts sender real)
    {events : List (SystemEvent sender real)}
    (hdone : ((System.start parts).run ops x events).receiver.setup.pc = .done) :
    exists before, InTurn ops x parts events 13 before := by
  have hreported := reported_run ops x parts events
  rw [hdone] at hreported
  exact hreported hradio

theorem setup_reported_bench : exists before,
    InTurn benchOps.toFloatOps lossyTable benchParts benchEvents 13 before :=
  setup_reported rfl benchParts (by decide +kernel)

/-!
# Answers
-/

def Pc.answer : Pc -> Option Outcome
  | .respond outcome | .trialEnd outcome => some outcome
  | .flash _ | .gap _ => some .wrongBox
  | _ => none

def Gives (outcome : Outcome) (b object : Int) : Prop :=
  match outcome with
  | .correct => object = b
  | .wrongBox => object ≠ b ∧ 1 ≤ object ∧ object ≤ NOBJECTS
  | .timeout => False

structure Finds (w : World) (d d' : Device) (outcome : Outcome) (b object : Int) :
    Prop where
  gives : Gives outcome b object
  moving : w.isMoving d.reads object = true
  target : d'.globals.target = some b
  trace : d'.trace = d.trace ++ [.observed object d'.globals.currentTrial]

def Scanning (d : Device) : Prop :=
  forall s j, d.pc = .scan s j -> 1 ≤ j

theorem move_scanning {w : World} {d d' : Device} (h : Move w d d')
    (hscan : Scanning d) : Scanning d' := by
  intro s j hpc
  cases h with
  | receives =>
      simp only [receive] at hpc
      split at hpc <;> cases hpc
  | tests _ htest =>
      cases htest with
      | control hcontrol =>
          cases hpc
          exact control_scanning hcontrol hscan
      | clears =>
          cases hpc
          decide
      | _ => cases hpc
  | stays => exact hscan s j hpc
  | _ => cases hpc

theorem control_answer {pc pc' : Pc} (h : Control pc pc') {outcome : Outcome}
    (hanswer : Pc.answer pc' = some outcome) (hmoved : outcome ≠ .timeout) :
    Pc.answer pc = some outcome := by
  cases h with
  | late => exact absurd (Option.some.inj hanswer).symm hmoved
  | lit | inTime | targetStill | nextObject | scanned => cases hanswer
  | _ => exact hanswer

theorem move_answer {w : World} {d d' : Device} (h : Move w d d')
    (hscan : Scanning d) {outcome : Outcome}
    (hanswer : Pc.answer d'.pc = some outcome) (hmoved : outcome ≠ .timeout) :
    (Pc.answer d.pc = some outcome ∧ d'.globals = d.globals ∧ d'.trace = d.trace) ∨
      exists b object, Finds w d d' outcome b object := by
  cases h with
  | receives =>
      simp only [receive] at hanswer
      split at hanswer <;> cases hanswer
  | tests _ htest =>
      cases htest with
      | control hcontrol =>
          exact Or.inl ⟨control_answer hcontrol hanswer hmoved, rfl, rfl⟩
      | observesTarget hpc htarget hmoving =>
          cases hanswer
          exact Or.inr ⟨_, _, rfl, hmoving, htarget, rfl⟩
      | observesOther hpc hj htarget hne hmoving =>
          cases hanswer
          exact Or.inr ⟨_, _, ⟨hne, hscan _ _ hpc, hj⟩, hmoving, htarget, rfl⟩
      | _ => cases hanswer
  | stays hpc =>
      rw [hpc] at hanswer
      cases hanswer
  | _ => cases hanswer

/-- The receiver has found the movement at an earlier moment, after which nothing
has happened in the trial, and at that moment the board has reported it. -/
def Decided (ops : FloatOps real) (x : SetupWorld) (parts : Parts sender real)
    (events : List (SystemEvent sender real)) (d : Device) (outcome : Outcome) :
    Prop :=
  exists before after b object, events = before ++ .receiver :: after ∧
    Gives outcome b object ∧ d.globals.target = some b ∧
    d.trace = ((System.start parts).run ops x before).receiver.device.trace ++
      [.observed object d.globals.currentTrial] ∧
    (0 ≤ object ∧ object < 15 ->
      Moved ops parts before ((System.start parts).run ops x before).delivered
        object)

theorem Decided.later {ops : FloatOps real} {x : SetupWorld}
    {parts : Parts sender real} {events : List (SystemEvent sender real)}
    {d d' : Device} {outcome : Outcome} (h : Decided ops x parts events d outcome)
    (hglobals : d'.globals = d.globals) (htrace : d'.trace = d.trace)
    (e : SystemEvent sender real) :
    Decided ops x parts (events ++ [e]) d' outcome := by
  rcases h with ⟨before, after, b, object, hsplit, hrest⟩
  refine ⟨before, after ++ [e], b, object, ?_, ?_⟩
  · rw [hsplit, List.append_assoc]
    rfl
  · rw [hglobals, htrace]
    exact hrest

structure Answering (ops : FloatOps real) (x : SetupWorld)
    (parts : Parts sender real) (events : List (SystemEvent sender real))
    (d : Device) : Prop where
  scanning : Scanning d
  answer : forall outcome, Pc.answer d.pc = some outcome -> outcome ≠ .timeout ->
    Decided ops x parts events d outcome

theorem receiver_answering (ops : FloatOps real) {x : SetupWorld}
    {parts : Parts sender real} {events : List (SystemEvent sender real)}
    (h : Answering ops x parts events
      ((System.start parts).run ops x events).receiver.device) :
    Answering ops x parts (events ++ [.receiver])
      (((System.start parts).run ops x events).step ops x
        .receiver).receiver.device := by
  have honest := honest_run ops x parts events
  simp only [System.step, Station.step, machineStep]
  split
  · have hmove := step_move
      (looksAt x fun _ => ((System.start parts).run ops x events).table).world
      ((System.start parts).run ops x events).receiver.device
    constructor
    case scanning => exact move_scanning hmove h.scanning
    case answer =>
      intro outcome hanswer hmoved
      rcases move_answer hmove h.scanning hanswer hmoved with
        ⟨hbefore, hglobals, htrace⟩ | ⟨b, object, hfinds⟩
      · exact (h.answer outcome hbefore hmoved).later hglobals htrace _
      · -- The movement is found in this step.
        refine ⟨events, [], b, object, rfl, hfinds.gives, hfinds.target,
          hfinds.trace, fun hrange => ?_⟩
        have hmoving := hfinds.moving
        rw [honest.table] at hmoving
        exact moved_of_flag honest.reports hrange hmoving
  · -- Setup answers nothing, and leaves the device at the top of its loop.
    constructor
    case scanning => exact fun _ _ hpc => by cases hpc
    case answer => exact fun _ hanswer => by cases hanswer

theorem answering_run (ops : FloatOps real) (x : SetupWorld)
    (parts : Parts sender real) (events : List (SystemEvent sender real)) :
    Answering ops x parts events
      ((System.start parts).run ops x events).receiver.device := by
  induction events using List.reverseRecOn with
  | nil =>
      constructor
      case scanning => exact fun _ _ hpc => by cases hpc
      case answer => exact fun _ hanswer => by cases hanswer
  | append_singleton events e ih =>
      rw [System.run_snoc]
      have hother (h : e ≠ .receiver) : Answering ops x parts (events ++ [e])
          (((System.start parts).run ops x events).step ops x e).receiver.device := by
        rw [(System.step_other ops x _ h).left]
        exact ⟨ih.scanning, fun outcome hanswer hmoved =>
          (ih.answer outcome hanswer hmoved).later rfl rfl e⟩
      cases e with
      | pass | reports | arrives => exact hother nofun
      | receiver => exact receiver_answering ops ih

/-- When a trial is answered as correct or as a wrong box, a board with the number
in question had reported a movement, and this was its last report that had arrived
when the receiver looked. -/
theorem decided_run {ops : FloatOps real} {x : SetupWorld}
    {parts : Parts sender real} {events : List (SystemEvent sender real)}
    {outcome : Outcome}
    (hanswer : Pc.answer
      ((System.start parts).run ops x events).receiver.device.pc = some outcome)
    (hmoved : outcome ≠ .timeout) :
    Decided ops x parts events
      ((System.start parts).run ops x events).receiver.device outcome :=
  (answering_run ops x parts events).answer outcome hanswer hmoved

/-- Box 3 is commanded, and the receiver flashes for the wrong box. -/
theorem decided_run_bench :
    Pc.answer ((System.start benchParts).run benchOps.toFloatOps lossyTable
        benchEvents).receiver.device.pc = some .wrongBox ∧
      Decided benchOps.toFloatOps lossyTable benchParts benchEvents
        ((System.start benchParts).run benchOps.toFloatOps lossyTable
          benchEvents).receiver.device .wrongBox :=
  ⟨by decide +kernel, decided_run (by decide +kernel) (by decide)⟩

end Apparatus
end BoxTrials
