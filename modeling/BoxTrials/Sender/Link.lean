import Mathlib.Data.List.Basic
import BoxTrials.Receiver.Boards

/-!
# A board and its entry at the receiver

Reports travel on a link that may lose any of them and may deliver them in any
order.  A board sends only when its flag changes, and what `OnDataSent` is told
about a report is printed and not used.
-/

namespace BoxTrials
namespace Sender

open Receiver

variable {real : Type}

/-!
# The link
-/

/-- A board, the receiver, and the reports in flight with their numbers. -/
structure Link (real : Type) where
  board : Board real
  passes : Nat
  /-- The number of reports sent so far, which is the number of the latest. -/
  sent : Nat
  inFlight : List (Nat × StructMessage real)
  /-- The numbers of the reports that were delivered, in that order. -/
  delivered : List Nat
  /-- The numbers of the reports that were lost. -/
  lost : List Nat
  boards : Boards real

inductive LinkEvent (real : Type) where
  /-- A pass of the board's `loop()`. -/
  | pass (a : Acceleration real) (now : Nat)
  /-- A report in flight arrives. -/
  | delivers (i : Nat)
  /-- A report in flight is lost. -/
  | loses (i : Nat) (sendStatus : UInt8) (hstatus : sendStatus ≠ 0)

def Link.start (board : Board real) (boards : Boards real) : Link real where
  board := { board with previousMovingState := -1 }
  passes := 0
  sent := 0
  inFlight := []
  delivered := []
  lost := []
  boards := boards

def Link.step (ops : FloatOps real) (s : Link real) : LinkEvent real -> Link real
  | .pass a now =>
      match loop ops a now s.board with
      | (some report, board) =>
          { s with
            board := board
            passes := s.passes + 1
            sent := s.sent + 1
            inFlight := s.inFlight ++ [(s.sent + 1, report)] }
      | (none, board) =>
          { s with board := board, passes := s.passes + 1 }
  | .delivers i =>
      match s.inFlight[i]? with
      | some (number, report) =>
          { s with
            board := onDataSent 0 s.board
            inFlight := s.inFlight.eraseIdx i
            delivered := s.delivered ++ [number]
            boards := s.boards.onDataRecv report }
      | none => s
  | .loses i sendStatus _ =>
      match s.inFlight[i]? with
      | some (number, _) =>
          { s with
            board := onDataSent sendStatus s.board
            inFlight := s.inFlight.eraseIdx i
            lost := s.lost ++ [number] }
      | none => s

def Link.run (ops : FloatOps real) (s : Link real)
    (events : List (LinkEvent real)) : Link real :=
  events.foldl (Link.step ops) s

def Link.Reachable (ops : FloatOps real) (s : Link real) : Prop :=
  exists board boards events, s = (Link.start board boards).run ops events

def Link.receiverFlag (s : Link real) : Option Bool :=
  (s.boards.entry s.board.myData.id).map StructMessage.isMoving

/-- The receiver has the flag of the board, or the next pass with an unchanged
flag sends a report. -/
def Link.Repairing (ops : FloatOps real) (s : Link real) : Prop :=
  s.receiverFlag = some s.board.myData.isMoving ∨
    forall a now,
      (loop ops a now s.board).2.myData.isMoving = s.board.myData.isMoving ->
        (loop ops a now s.board).1 ≠ none

/-!
# The invariant
-/

structure LinkInvariant (s : Link real) : Prop where
  idle : s.passes = 0 -> s.board.previousMovingState = -1
  remembered : 1 ≤ s.passes ->
    s.board.previousMovingState = s.board.myData.isMoving.toInt ∧ 1 ≤ s.sent
  flight : forall number report, (number, report) ∈ s.inFlight ->
    1 ≤ number ∧ number ≤ s.sent ∧ report.id = s.board.myData.id ∧
      (number = s.sent -> report.isMoving = s.board.myData.isMoving)
  arrived : forall number, s.delivered.getLast? = some number ->
    1 ≤ number ∧ number ≤ s.sent ∧
      (number = s.sent -> s.receiverFlag = some s.board.myData.isMoving)
  fate : 1 ≤ s.sent -> (exists report, (s.sent, report) ∈ s.inFlight) ∨
    s.sent ∈ s.delivered ∨ s.sent ∈ s.lost

theorem linkInvariant_start (board : Board real) (boards : Boards real) :
    LinkInvariant (Link.start board boards) where
  idle := fun _ => rfl
  remembered := fun h => absurd h (Nat.not_succ_le_zero 0)
  flight := fun _ _ h => by cases h
  arrived := fun _ h => by cases h
  fate := fun h => absurd h (Nat.not_succ_le_zero 0)

theorem pass_invariant (ops : FloatOps real) {s : Link real}
    (h : LinkInvariant s) (a : Acceleration real) (now : Nat) :
    LinkInvariant (s.step ops (.pass a now)) := by
  rcases loop_spec ops a now s.board with ⟨hid, hprevious, hsend⟩
  generalize hpass : loop ops a now s.board = result at hid hprevious hsend
  rcases result with ⟨report, board⟩
  simp only at hid hprevious hsend
  by_cases hchanged : board.myData.isMoving.toInt ≠ s.board.previousMovingState
  · rw [if_pos hchanged] at hsend
    subst hsend
    simp only [Link.step, hpass]
    constructor
    case idle => exact fun hzero => absurd hzero (Nat.succ_ne_zero s.passes)
    case remembered => exact fun _ => ⟨hprevious, Nat.succ_pos s.sent⟩
    case flight =>
      intro number report hmem
      rcases List.mem_append.mp hmem with hold | hnew
      · rcases h.flight number report hold with ⟨hpos, hle, hreport, _⟩
        exact ⟨hpos, Nat.le_succ_of_le hle, hreport.trans hid.symm,
          fun heq => absurd heq (by simp only; omega)⟩
      · cases List.mem_singleton.mp hnew
        exact ⟨Nat.succ_pos s.sent, Nat.le_refl _, rfl, fun _ => rfl⟩
    case arrived =>
      intro number hlast
      rcases h.arrived number hlast with ⟨hpos, hle, _⟩
      exact ⟨hpos, Nat.le_succ_of_le hle,
        fun heq => absurd heq (by simp only; omega)⟩
    case fate => exact fun _ => Or.inl ⟨board.myData, by simp⟩
  · rw [if_neg hchanged] at hsend
    subst hsend
    rcases remembered_flag h.idle (fun hpos => (h.remembered hpos).left)
      (not_not.mp hchanged) with ⟨hpasses, hflag⟩
    simp only [Link.step, hpass]
    constructor
    case idle => exact fun hzero => absurd hzero (Nat.succ_ne_zero s.passes)
    case remembered => exact fun _ => ⟨hprevious, (h.remembered hpasses).right⟩
    case flight =>
      intro number report hmem
      rcases h.flight number report hmem with ⟨hpos, hle, hreport, hlatest⟩
      exact ⟨hpos, hle, hreport.trans hid.symm,
        fun heq => (hlatest heq).trans hflag.symm⟩
    case arrived =>
      intro number hlast
      rcases h.arrived number hlast with ⟨hpos, hle, hlatest⟩
      refine ⟨hpos, hle, ?_⟩
      intro heq
      have hreceived := hlatest heq
      simp only [Link.receiverFlag] at hreceived ⊢
      rw [hid, hflag]
      exact hreceived
    case fate => exact h.fate

theorem mem_eraseIdx_or {alpha : Type} {l : List alpha} {x y : alpha} {i : Nat}
    (hx : x ∈ l) (hy : l[i]? = some y) : x ∈ l.eraseIdx i ∨ x = y := by
  rcases List.mem_iff_getElem?.mp hx with ⟨j, hj⟩
  by_cases hij : j = i
  · right
    rw [hij, hy, Option.some.injEq] at hj
    exact hj.symm
  · exact Or.inl (List.mem_eraseIdx_iff_getElem?.mpr ⟨j, hij, hj⟩)

theorem delivers_invariant (ops : FloatOps real) {s : Link real}
    (h : LinkInvariant s) (i : Nat) :
    LinkInvariant (s.step ops (.delivers i)) := by
  simp only [Link.step]
  split
  · rename_i number report hat
    rcases h.flight number report (List.mem_of_getElem? hat) with
      ⟨hpos, hle, hreport, hlatest⟩
    constructor
    case idle => exact h.idle
    case remembered => exact h.remembered
    case flight =>
      intro number' report' hmem
      exact h.flight number' report' ((List.eraseIdx_sublist _ _).subset hmem)
    case arrived =>
      intro number' hlast
      simp only [List.getLast?_append, List.getLast?_singleton,
        Option.some_or, Option.some.injEq] at hlast
      subst hlast
      refine ⟨hpos, hle, ?_⟩
      intro heq
      have hnumber : 0 ≤ report.id ∧ report.id < 15 := by
        rw [hreport]
        exact s.board.id_range
      have hentry := Boards.onDataRecv_entry hnumber s.boards
      rw [hreport] at hentry
      show ((s.boards.onDataRecv report).entry s.board.myData.id).map
        StructMessage.isMoving = some s.board.myData.isMoving
      rw [hentry, Option.map_some, hlatest heq]
    case fate =>
      intro hsent
      rcases h.fate hsent with ⟨report', hmem⟩ | hdelivered | hlost
      · rcases mem_eraseIdx_or hmem hat with hstays | heq
        · exact Or.inl ⟨report', hstays⟩
        · cases heq
          exact Or.inr (Or.inl (by simp))
      · exact Or.inr (Or.inl (List.mem_append_left _ hdelivered))
      · exact Or.inr (Or.inr hlost)
  · exact h

theorem loses_invariant (ops : FloatOps real) {s : Link real}
    (h : LinkInvariant s) (i : Nat) (sendStatus : UInt8)
    (hstatus : sendStatus ≠ 0) :
    LinkInvariant (s.step ops (.loses i sendStatus hstatus)) := by
  simp only [Link.step]
  split
  · rename_i hat
    constructor
    case idle => exact h.idle
    case remembered => exact h.remembered
    case flight =>
      intro number' report' hmem
      exact h.flight number' report' ((List.eraseIdx_sublist _ _).subset hmem)
    case arrived => exact h.arrived
    case fate =>
      intro hsent
      rcases h.fate hsent with ⟨report', hmem⟩ | hdelivered | hlost
      · rcases mem_eraseIdx_or hmem hat with hstays | heq
        · exact Or.inl ⟨report', hstays⟩
        · cases heq
          exact Or.inr (Or.inr (by simp))
      · exact Or.inr (Or.inl hdelivered)
      · exact Or.inr (Or.inr (List.mem_append_left _ hlost))
  · exact h

theorem run_invariant (ops : FloatOps real) {s : Link real}
    (h : LinkInvariant s) (events : List (LinkEvent real)) :
    LinkInvariant (s.run ops events) := by
  induction events generalizing s with
  | nil =>
      exact h
  | cons event rest ih =>
      apply ih
      cases event with
      | pass a now => exact pass_invariant ops h a now
      | delivers i => exact delivers_invariant ops h i
      | loses i sendStatus hstatus =>
          exact loses_invariant ops h i sendStatus hstatus

/-!
# Agreement
-/

/-- With nothing in flight the receiver agrees with the board, unless the latest
report was lost or an earlier one was delivered after it; and nothing is sent
until the flag changes. -/
theorem agrees_unless_lost {ops : FloatOps real} {s : Link real}
    (hs : s.Reachable ops) (hpasses : 1 ≤ s.passes) (hflight : s.inFlight = []) :
    (s.receiverFlag = some s.board.myData.isMoving ∨ s.sent ∈ s.lost ∨
      (s.sent ∈ s.delivered ∧ s.delivered.getLast? ≠ some s.sent)) ∧
    forall a now,
      (loop ops a now s.board).2.myData.isMoving = s.board.myData.isMoving ->
        (loop ops a now s.board).1 = none := by
  rcases hs with ⟨board, boards, events, hrun⟩
  have h := run_invariant ops (linkInvariant_start board boards) events
  rw [← hrun] at h
  rcases h.remembered hpasses with ⟨hremembered, hsent⟩
  constructor
  · rcases h.fate hsent with ⟨report, hmem⟩ | hdelivered | hlost
    · rw [hflight] at hmem
      cases hmem
    · by_cases hlast : s.delivered.getLast? = some s.sent
      · exact Or.inl ((h.arrived s.sent hlast).right.right rfl)
      · exact Or.inr (Or.inr ⟨hdelivered, hlast⟩)
    · exact Or.inr (Or.inl hlost)
  · intro a now hsame
    rw [(loop_spec ops a now s.board).right.right, hsame, ← hremembered]
    exact if_neg (not_not.mpr rfl)

/-!
# A lost report
-/

def axisOps : FloatOps Int where
  sub := fun x y => x - y
  magnitude := fun x y z => max (max x.natAbs y.natAbs) z.natAbs
  gt := fun m theshold => m > theshold

def restingBoard : Board Int where
  lastTime := 0
  theshold := 3
  previousMovingState := -1
  calX := 0
  calY := 0
  calZ := 0
  myData := { id := 3, x := 0, y := 0, z := 0, m := 0, isMoving := false }
  serialOut := []
  id_nonneg := by decide
  id_le := by decide

def emptyBoards : Boards Int where
  boardsStruct := List.replicate 15
    { id := 0, x := 0, y := 0, z := 0, m := 0, isMoving := false }
  boardsStruct_length := List.length_replicate
  outside := []

/-- A first report is delivered and the board goes on resting. -/
theorem agrees_unless_lost_restingBoard :
    (loop axisOps ⟨1, 0, 0⟩ 20
      ((Link.start restingBoard emptyBoards).run axisOps
        [.pass ⟨0, 0, 0⟩ 10, .delivers 0]).board).1 = none :=
  (@agrees_unless_lost Int axisOps
    ((Link.start restingBoard emptyBoards).run axisOps
      [.pass ⟨0, 0, 0⟩ 10, .delivers 0])
    ⟨restingBoard, emptyBoards, _, rfl⟩ (by decide) (by decide)).right
      ⟨1, 0, 0⟩ 20 (by decide)

/-- The board rests and reports it, then it moves and the report is lost: the
receiver keeps the old flag, and nothing is sent while the board goes on
moving. -/
theorem not_repairing_lost_report :
    ¬ forall s : Link Int, s.Reachable axisOps -> 1 ≤ s.passes ->
      s.inFlight = [] -> s.Repairing axisOps := by
  intro h
  have hrepairing := h
    ((Link.start restingBoard emptyBoards).run axisOps
      [.pass ⟨0, 0, 0⟩ 10, .delivers 0, .pass ⟨5, 0, 0⟩ 20,
        .loses 0 1 (by decide)])
    ⟨restingBoard, emptyBoards, _, rfl⟩ (by decide) (by decide)
  rcases hrepairing with hagrees | hsends
  · revert hagrees
    decide
  · exact hsends ⟨5, 0, 0⟩ 30 (by decide) (by decide)

end Sender
end BoxTrials
