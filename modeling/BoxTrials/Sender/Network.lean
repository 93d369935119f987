import Mathlib.Logic.Function.Basic
import BoxTrials.Foundation.LastMatch
import BoxTrials.Receiver.Boards

/-!
# Many boards and one table

Several boards with different numbers report to one receiver.  The link loses
nothing and keeps the reports of a board in order, and those of different boards
may overtake each other.  A board transmits changes only, so the table agrees
with it because of all that is still in flight, and not because of the last
sample.
-/

namespace BoxTrials
namespace Sender

open Foundation
open Receiver

variable {sender real : Type}

/-!
# The boards
-/

structure Fleet (sender real : Type) where
  board : sender -> Board real
  distinct : Function.Injective fun i => (board i).myData.id

def Fleet.id (f : Fleet sender real) (i : sender) : Int :=
  (f.board i).myData.id

def Fleet.setup (f : Fleet sender real) : Fleet sender real where
  board := fun i => { f.board i with previousMovingState := -1 }
  distinct := f.distinct

theorem Fleet.id_range (f : Fleet sender real) (i : sender) :
    0 ≤ f.id i ∧ f.id i < 15 :=
  (f.board i).id_range

theorem Fleet.id_ne (f : Fleet sender real) {i j : sender} (h : j ≠ i) :
    f.id j ≠ f.id i :=
  fun hid => h (f.distinct hid)

variable [DecidableEq sender]

theorem update_id (f : Fleet sender real) {i : sender} {b : Board real}
    (hid : b.myData.id = f.id i) (j : sender) :
    (Function.update f.board i b j).myData.id = f.id j := by
  by_cases h : j = i
  · rw [h, Function.update_self, hid]
  · rw [Function.update_of_ne h]
    rfl

def Fleet.put (f : Fleet sender real) (i : sender) (b : Board real)
    (hid : b.myData.id = f.id i) : Fleet sender real where
  board := Function.update f.board i b
  distinct := by
    intro j k h
    simp only [update_id f hid] at h
    exact f.distinct h

theorem Fleet.put_id (f : Fleet sender real) {i : sender} {b : Board real}
    (hid : b.myData.id = f.id i) (j : sender) :
    (f.put i b hid).id j = f.id j :=
  update_id f hid j

/-!
# The link
-/

structure Network (sender real : Type) where
  fleet : Fleet sender real
  /-- The completed passes of `loop()` of each board. -/
  passes : sender -> Nat
  /-- The reports of each board that were sent and did not arrive yet. -/
  queue : sender -> List (StructMessage real)
  /-- The reports that arrived, with the board that sent them. -/
  delivered : List (sender × StructMessage real)
  boards : Boards real

inductive NetworkEvent (sender real : Type) where
  /-- A pass of the `loop()` of a board. -/
  | pass (i : sender) (a : Acceleration real) (now : Nat)
  /-- The oldest report in flight of a board arrives. -/
  | delivers (i : sender)
  /-- A board is told how a sending went. -/
  | reports (i : sender) (sendStatus : UInt8)

def Network.start (fleet : Fleet sender real) (boards : Boards real) :
    Network sender real where
  fleet := fleet.setup
  passes := fun _ => 0
  queue := fun _ => []
  delivered := []
  boards := boards

def Network.step (ops : FloatOps real) (s : Network sender real) :
    NetworkEvent sender real -> Network sender real
  | .pass i a now =>
      { s with
        fleet := s.fleet.put i (loop ops a now (s.fleet.board i)).2
          (loop_spec ops a now (s.fleet.board i)).left
        passes := Function.update s.passes i (s.passes i + 1)
        queue := Function.update s.queue i
          (s.queue i ++ (loop ops a now (s.fleet.board i)).1.toList) }
  | .delivers i =>
      match s.queue i with
      | [] => s
      | report :: rest =>
          { s with
            queue := Function.update s.queue i rest
            delivered := s.delivered ++ [(i, report)]
            boards := s.boards.onDataRecv report }
  | .reports i sendStatus =>
      { s with
        fleet := s.fleet.put i (onDataSent sendStatus (s.fleet.board i)) rfl }

def Network.run (ops : FloatOps real) (s : Network sender real)
    (events : List (NetworkEvent sender real)) : Network sender real :=
  events.foldl (Network.step ops) s

def messageOf (i : sender) : sender × StructMessage real ->
    Option (StructMessage real)
  | (j, report) => if j = i then some report else none

def Network.sentBy (s : Network sender real) (i : sender) :
    List (StructMessage real) :=
  s.delivered.filterMap (messageOf i) ++ s.queue i

/-!
# The invariant
-/

structure NetworkInvariant (fleet : Fleet sender real) (boards : Boards real)
    (s : Network sender real) : Prop where
  number : forall i, s.fleet.id i = fleet.id i
  idle : forall i, s.passes i = 0 -> (s.fleet.board i).previousMovingState = -1
  remembered : forall i, 1 ≤ s.passes i ->
    (s.fleet.board i).previousMovingState =
      (s.fleet.board i).myData.isMoving.toInt
  latest : forall i, 1 ≤ s.passes i ->
    (s.sentBy i).getLast?.map StructMessage.isMoving =
      some (s.fleet.board i).myData.isMoving
  numbered : forall i report, report ∈ s.queue i -> report.id = fleet.id i
  entry : forall i, s.boards.entry (fleet.id i) =
    (lastValue (messageOf i) s.delivered).or (boards.entry (fleet.id i))
  others : forall id, (forall i, fleet.id i ≠ id) ->
    s.boards.entry id = boards.entry id

theorem networkInvariant_start (fleet : Fleet sender real)
    (boards : Boards real) :
    NetworkInvariant fleet boards (Network.start fleet boards) where
  number := fun _ => rfl
  idle := fun _ _ => rfl
  remembered := fun _ h => absurd h (Nat.not_succ_le_zero 0)
  latest := fun _ h => absurd h (Nat.not_succ_le_zero 0)
  numbered := fun _ _ h => by cases h
  entry := fun _ => rfl
  others := fun _ _ => rfl

theorem pass_latest (ops : FloatOps real) (a : Acceleration real) (now : Nat)
    {b : Board real} {sent : List (StructMessage real)} {passes : Nat}
    (hidle : passes = 0 -> b.previousMovingState = -1)
    (hremembered : 1 ≤ passes ->
      b.previousMovingState = b.myData.isMoving.toInt)
    (hlatest : 1 ≤ passes ->
      sent.getLast?.map StructMessage.isMoving = some b.myData.isMoving) :
    (sent ++ (loop ops a now b).1.toList).getLast?.map StructMessage.isMoving =
      some (loop ops a now b).2.myData.isMoving := by
  rcases loop_spec ops a now b with ⟨_, _, hsend⟩
  rw [hsend]
  split
  · rw [Option.toList_some, List.getLast?_append, List.getLast?_singleton]
    rfl
  · rename_i hchanged
    rcases remembered_flag hidle hremembered (not_not.mp hchanged) with
      ⟨hpasses, hflag⟩
    rw [Option.toList_none, List.append_nil, hflag]
    exact hlatest hpasses

theorem network_pass (ops : FloatOps real) {fleet : Fleet sender real}
    {boards : Boards real} {s : Network sender real}
    (h : NetworkInvariant fleet boards s) (i : sender) (a : Acceleration real)
    (now : Nat) :
    NetworkInvariant fleet boards (s.step ops (.pass i a now)) := by
  rcases loop_spec ops a now (s.fleet.board i) with ⟨hid, hprevious, hsend⟩
  constructor
  case number =>
    intro j
    exact (Fleet.put_id s.fleet hid j).trans (h.number j)
  case idle =>
    intro j
    simp only [Network.step, Fleet.put]
    by_cases hj : j = i
    · subst hj
      rw [Function.update_self]
      intro hzero
      cases hzero
    · rw [Function.update_of_ne hj, Function.update_of_ne hj]
      exact h.idle j
  case remembered =>
    intro j
    simp only [Network.step, Fleet.put]
    by_cases hj : j = i
    · subst hj
      rw [Function.update_self, Function.update_self]
      exact fun _ => hprevious
    · rw [Function.update_of_ne hj, Function.update_of_ne hj]
      exact h.remembered j
  case latest =>
    intro j
    simp only [Network.step, Fleet.put, Network.sentBy]
    by_cases hj : j = i
    · subst hj
      rw [Function.update_self, Function.update_self, Function.update_self,
        ← List.append_assoc]
      exact fun _ => pass_latest ops a now (h.idle j) (h.remembered j) (h.latest j)
    · rw [Function.update_of_ne hj, Function.update_of_ne hj,
        Function.update_of_ne hj]
      exact h.latest j
  case numbered =>
    intro j report
    simp only [Network.step]
    by_cases hj : j = i
    · subst hj
      rw [Function.update_self, List.mem_append, hsend]
      intro hmem
      rcases hmem with hold | hnew
      · exact h.numbered j report hold
      · split at hnew
        · rw [List.mem_singleton.mp hnew, hid]
          exact h.number j
        · cases hnew
    · rw [Function.update_of_ne hj]
      exact h.numbered j report
  case entry => exact h.entry
  case others => exact h.others

theorem network_delivers (ops : FloatOps real) {fleet : Fleet sender real}
    {boards : Boards real} {s : Network sender real}
    (h : NetworkInvariant fleet boards s) (i : sender) :
    NetworkInvariant fleet boards (s.step ops (.delivers i)) := by
  cases hqueue : s.queue i with
  | nil =>
      simp only [Network.step, hqueue]
      exact h
  | cons report rest =>
      have hnumber : report.id = fleet.id i :=
        h.numbered i report (by rw [hqueue]; exact List.mem_cons_self ..)
      have hrange : 0 ≤ report.id ∧ report.id < 15 := by
        rw [hnumber]
        exact fleet.id_range i
      simp only [Network.step, hqueue]
      constructor
      case number => exact h.number
      case idle => exact h.idle
      case remembered => exact h.remembered
      case latest =>
        intro j hpasses
        have hlatest := h.latest j hpasses
        simp only [Network.sentBy, List.filterMap_append] at hlatest ⊢
        by_cases hj : j = i
        · subst hj
          rw [Function.update_self, List.append_assoc]
          rw [hqueue] at hlatest
          simpa [messageOf] using hlatest
        · rw [Function.update_of_ne hj]
          simpa [messageOf, Ne.symm hj] using hlatest
      case numbered =>
        intro j report'
        simp only
        by_cases hj : j = i
        · subst hj
          rw [Function.update_self]
          intro hmem
          exact h.numbered j report'
            (by rw [hqueue]; exact List.mem_cons_of_mem report hmem)
        · rw [Function.update_of_ne hj]
          exact h.numbered j report'
      case entry =>
        intro j
        rw [lastValue_snoc]
        by_cases hj : j = i
        · subst hj
          have hentry := Boards.onDataRecv_entry hrange s.boards
          rw [hnumber] at hentry
          rw [hentry, messageOf, if_pos rfl]
          rfl
        · have hne : fleet.id j ≠ report.id := by
            rw [hnumber]
            exact fleet.id_ne hj
          rw [Boards.onDataRecv_entry_ne hrange s.boards hne, h.entry j,
            messageOf, if_neg (Ne.symm hj)]
          rfl
      case others =>
        intro id hid
        have hne : id ≠ report.id := by
          rw [hnumber]
          exact Ne.symm (hid i)
        rw [Boards.onDataRecv_entry_ne hrange s.boards hne]
        exact h.others id hid

theorem network_reports (ops : FloatOps real) {fleet : Fleet sender real}
    {boards : Boards real} {s : Network sender real}
    (h : NetworkInvariant fleet boards s) (i : sender) (sendStatus : UInt8) :
    NetworkInvariant fleet boards (s.step ops (.reports i sendStatus)) := by
  have hkept : forall j,
      (Function.update s.fleet.board i (onDataSent sendStatus (s.fleet.board i))
          j).previousMovingState = (s.fleet.board j).previousMovingState ∧
        (Function.update s.fleet.board i
          (onDataSent sendStatus (s.fleet.board i)) j).myData =
            (s.fleet.board j).myData := by
    intro j
    by_cases hj : j = i
    · subst hj
      rw [Function.update_self]
      exact ⟨rfl, rfl⟩
    · rw [Function.update_of_ne hj]
      exact ⟨rfl, rfl⟩
  constructor
  case number =>
    intro j
    have hid : (onDataSent sendStatus (s.fleet.board i)).myData.id =
        s.fleet.id i := rfl
    exact (Fleet.put_id s.fleet hid j).trans (h.number j)
  case idle =>
    intro j
    simp only [Network.step, Fleet.put, (hkept j).left]
    exact h.idle j
  case remembered =>
    intro j
    simp only [Network.step, Fleet.put, (hkept j).left, (hkept j).right]
    exact h.remembered j
  case latest =>
    intro j
    simp only [Network.step, Fleet.put, (hkept j).right]
    exact h.latest j
  case numbered => exact h.numbered
  case entry => exact h.entry
  case others => exact h.others

theorem network_run (ops : FloatOps real) {fleet : Fleet sender real}
    {boards : Boards real} {s : Network sender real}
    (h : NetworkInvariant fleet boards s)
    (events : List (NetworkEvent sender real)) :
    NetworkInvariant fleet boards (s.run ops events) := by
  induction events generalizing s with
  | nil =>
      exact h
  | cons event rest ih =>
      apply ih
      cases event with
      | pass i a now => exact network_pass ops h i a now
      | delivers i => exact network_delivers ops h i
      | reports i sendStatus => exact network_reports ops h i sendStatus

/-!
# The table
-/

/-- What the table says about the boards. -/
structure TableAgrees (ops : FloatOps real) (fleet : Fleet sender real)
    (boards : Boards real) (s : Network sender real) : Prop where
  number : forall i, s.fleet.id i = fleet.id i
  /-- The entry of a board is the last of its reports that arrived. -/
  entry : forall i, s.boards.entry (fleet.id i) =
    (lastValue (messageOf i) s.delivered).or (boards.entry (fleet.id i))
  /-- An entry without a board is as it was. -/
  others : forall id, (forall i, fleet.id i ≠ id) ->
    s.boards.entry id = boards.entry id
  /-- A delivery changes at most the entry of its board. -/
  frame : forall i id, id ≠ fleet.id i ->
    (s.step ops (.delivers i)).boards.entry id = s.boards.entry id
  /-- With nothing in flight the table has the flag of the board. -/
  agreement : forall i, 1 ≤ s.passes i -> s.queue i = [] ->
    (s.boards.entry (fleet.id i)).map StructMessage.isMoving =
      some (s.fleet.board i).myData.isMoving

theorem tableAgrees_run (ops : FloatOps real) (fleet : Fleet sender real)
    (boards : Boards real) (events : List (NetworkEvent sender real)) :
    TableAgrees ops fleet boards
      ((Network.start fleet boards).run ops events) := by
  have h := network_run ops (networkInvariant_start fleet boards) events
  generalize (Network.start fleet boards).run ops events = s at h
  constructor
  case number => exact h.number
  case entry => exact h.entry
  case others => exact h.others
  case frame =>
    intro i id hid
    cases hqueue : s.queue i with
    | nil =>
        simp only [Network.step, hqueue]
    | cons report rest =>
        have hnumber : report.id = fleet.id i :=
          h.numbered i report (by rw [hqueue]; exact List.mem_cons_self ..)
        simp only [Network.step, hqueue]
        rw [← hnumber] at hid
        apply Boards.onDataRecv_entry_ne _ s.boards hid
        rw [hnumber]
        exact fleet.id_range i
  case agreement =>
    intro i hpasses hqueue
    have hlatest := h.latest i hpasses
    rw [Network.sentBy, hqueue, List.append_nil, getLast?_filterMap] at hlatest
    rcases Option.map_eq_some_iff.mp hlatest with ⟨report, hreport, hflag⟩
    rw [h.entry i, hreport, Option.some_or, Option.map_some, hflag]

end Sender
end BoxTrials
