import BoxTrials.Foundation.Eventually
import BoxTrials.Receiver.Steps
import BoxTrials.Receiver.WaitOutcomes

/-!
# The machine in the wait loop

The steps of the machine between two polls are a pass of the wait loop, on the
table as the reads of the pass find it.  What is shown about the loop therefore
holds of the machine, also when messages arrive between the reads of a pass.
-/

namespace BoxTrials
namespace Receiver

open Foundation

/-!
# The wait that the machine is in

Read off the machine at its first poll.  `Device.atPoll` is the machine at a later
poll, if the loop goes on until then, and `passTable` is the table as the pass finds
it whose poll is the given read; the target is read first.
-/

def passSteps : Nat := 15

def Device.atPoll (w : World) (d : Device) (k : Nat) : Device :=
  (testStep w)^[passSteps * k] d

def scanReads (poll : Nat) (b j : Int) : Nat :=
  poll + 1 + (j - (if 1 ≤ b ∧ b < j then 1 else 0)).toNat

def passTable (w : World) (poll : Nat) (b i : Int) : Bool :=
  if i = b then
    w.isMoving (poll + 1) b
  else
    w.isMoving (scanReads poll b i) i

def Device.wait (w : World) (startTime : Nat) (b : Int) (d : Device) : Wait where
  target := b
  timeoutMs := d.globals.timeoutMs
  currentObject := d.globals.currentObject
  startTime := startTime
  now k := w.time (d.atPoll w k).reads
  isMoving k := passTable w (d.atPoll w k).reads b

/-!
# The scan
-/

theorem scanReads_target {poll : Nat} {b : Int} (hb : 1 ≤ b) :
    scanReads poll b (b + 1) = scanReads poll b b := by
  rw [scanReads, scanReads, if_pos (by omega), if_neg (by omega)]
  omega

theorem scanReads_other {poll : Nat} {b j : Int} (hj : 1 ≤ j) (hne : j ≠ b) :
    scanReads poll b (j + 1) = scanReads poll b j + 1 := by
  rw [scanReads, scanReads]
  split_ifs <;> omega

structure Scanned (s : Nat) (g : Globals) (v : WaitVars) (d : Device) : Prop where
  globals : d.globals = { g with currentObject := v.currentObject }
  pc : d.pc =
    if v.otherBoxMoving then .respond .wrongBox else .scan s (NOBJECTS + 1)

theorem scan_follows (w : World) {s poll left : Nat} {b j : Int} {d : Device}
    {v : WaitVars} (hleft : (left : Int) + j = NOBJECTS + 1) (hj : 1 ≤ j)
    (hpc : d.pc = .scan s j) (htarget : d.globals.target = some b)
    (hreads : d.reads = scanReads poll b j)
    (hobject : v.currentObject = d.globals.currentObject)
    (hflag : v.otherBoxMoving = false) :
    exists m,
      ((scanOthers (passTable w poll b) b left j v).otherBoxMoving = false ->
        m = left) ∧
      Scanned s d.globals (scanOthers (passTable w poll b) b left j v)
        ((testStep w)^[m] d) := by
  induction left generalizing j d v with
  | zero =>
      refine ⟨0, fun _ => rfl, ?_, ?_⟩
      · show d.globals = { d.globals with currentObject := v.currentObject }
        rw [hobject]
      · simp only [scanOthers, hflag]
        have hlast : j = NOBJECTS + 1 := by
          simp only [NOBJECTS] at hleft ⊢
          omega
        rw [Function.iterate_zero_apply, hpc, hlast]
        rfl
  | succ left ih =>
      have hle : j ≤ NOBJECTS := by
        simp only [NOBJECTS] at hleft ⊢
        omega
      have hnext : (left : Int) + (j + 1) = NOBJECTS + 1 := by
        push_cast at hleft
        omega
      have hstep : testStep w d = scanStep w s j d := by
        simp only [testStep, hpc]
      -- What a step to the next object leaves to the rest of the scan.
      have hgo : forall (e : Device) (u : WaitVars), scanStep w s j d = e ->
          e.pc = .scan s (j + 1) ->
          e.globals = { d.globals with currentObject := u.currentObject } ->
          e.reads = scanReads poll b (j + 1) -> u.otherBoxMoving = false ->
            exists m,
              ((scanOthers (passTable w poll b) b left (j + 1) u).otherBoxMoving =
                false -> m = left + 1) ∧
              Scanned s d.globals
                (scanOthers (passTable w poll b) b left (j + 1) u)
                ((testStep w)^[m] d) := by
        intro e u he hpc' hglobals hreads' hflag'
        have htarget' : e.globals.target = some b := by
          rw [hglobals]
          exact htarget
        rcases ih hnext (by omega) hpc' htarget' hreads' (by rw [hglobals]) hflag'
          with ⟨m, hm, hscanned⟩
        refine ⟨m + 1, fun hother => congrArg Nat.succ (hm hother), ?_⟩
        rw [Function.iterate_succ_apply, hstep, he]
        exact ⟨hscanned.globals.trans (by rw [hglobals]), hscanned.pc⟩
      have hsame : d.globals =
          { d.globals with currentObject := v.currentObject } := by
        rw [hobject]
      rw [scanOthers]
      by_cases htargetj : j = b
      · rw [if_pos htargetj]
        apply hgo { d with pc := .scan s (j + 1) } v _ rfl hsame _ hflag
        · simp only [scanStep, Device.withTarget, htarget]
          rw [if_pos hle, if_pos htargetj]
        · subst htargetj
          rw [scanReads_target hj]
          exact hreads
      · have htable : passTable w poll b j = w.isMoving d.reads j := by
          rw [passTable, if_neg htargetj, hreads]
        have hreads' : d.reads + 1 = scanReads poll b (j + 1) := by
          rw [scanReads_other hj htargetj, hreads]
        rw [if_neg htargetj, htable]
        by_cases hmoving : w.isMoving d.reads j = true
        · rw [if_pos hmoving]
          refine ⟨1, fun h => (by cases h), ?_⟩
          rw [Function.iterate_one, hstep]
          simp only [scanStep, Device.withTarget, htarget]
          rw [if_pos hle, if_neg htargetj, if_pos hmoving]
          exact ⟨rfl, rfl⟩
        · rw [if_neg hmoving]
          by_cases hlast : j = NOBJECTS
          · rw [if_pos hlast]
            apply hgo _ { v with currentObject := 0 } rfl _ _ _ hflag <;>
              simp only [scanStep, Device.withTarget, htarget] <;>
              rw [if_pos hle, if_neg htargetj, if_neg hmoving, if_pos hlast]
            exact hreads'
          · rw [if_neg hlast]
            apply hgo { d with pc := .scan s (j + 1), reads := d.reads + 1 } v _ rfl
              hsame hreads' hflag
            simp only [scanStep, Device.withTarget, htarget]
            rw [if_pos hle, if_neg htargetj, if_neg hmoving, if_neg hlast]

/-!
# A pass
-/

structure AtPoll (x : Wait) (v : WaitVars) (d : Device) : Prop where
  pc : d.pc = .waitHead (x.startTime % wordModulus)
  target : d.globals.target = some x.target
  timeoutMs : d.globals.timeoutMs = x.timeoutMs
  currentObject : d.globals.currentObject = v.currentObject
  isMoving : v.isMoving = false
  otherBoxMoving : v.otherBoxMoving = false

structure Responds (v : WaitVars) (d : Device) : Prop where
  pc : d.pc = .respond v.outcome
  currentObject : d.globals.currentObject = v.currentObject

structure AtTick (x : Wait) (v : WaitVars) (d : Device) : Prop where
  pc : d.pc = .passTick (x.startTime % wordModulus)
  target : d.globals.target = some x.target
  timeoutMs : d.globals.timeoutMs = x.timeoutMs
  currentObject : d.globals.currentObject = v.currentObject

section Pass

variable {w : World} {x : Wait} {v : WaitVars} {d : Device}

theorem AtPoll.late (h : AtPoll x v d)
    (hlate : toULong x.timeoutMs ≤
      ulongSub (w.time d.reads % wordModulus) (x.startTime % wordModulus)) :
    Responds v (testStep w d) := by
  have houtcome : v.outcome = .timeout := by
    simp [WaitVars.outcome, h.isMoving, h.otherBoxMoving]
  simp only [testStep, h.pc, millis]
  rw [h.timeoutMs, if_neg (Nat.not_lt.mpr hlate)]
  exact ⟨congrArg Pc.respond houtcome.symm, h.currentObject⟩

theorem AtPoll.inTime (h : AtPoll x v d)
    (htime : ulongSub (w.time d.reads % wordModulus)
      (x.startTime % wordModulus) < toULong x.timeoutMs) :
    testStep w d =
      { d with
        pc := .readTarget (x.startTime % wordModulus)
        reads := d.reads + 1 } := by
  simp only [testStep, h.pc, millis]
  rw [h.timeoutMs, if_pos htime]

theorem AtPoll.targetMoves (h : AtPoll x v d)
    (htime : ulongSub (w.time d.reads % wordModulus)
      (x.startTime % wordModulus) < toULong x.timeoutMs)
    (hmoving : w.isMoving (d.reads + 1) x.target = true) :
    (waitPass (passTable w d.reads x.target) x.target v).isMoving = true ∧
      Responds (waitPass (passTable w d.reads x.target) x.target v)
        (testStep w (testStep w d)) := by
  have htable : passTable w d.reads x.target x.target = true :=
    (if_pos rfl).trans hmoving
  rw [waitPass_target v htable, h.inTime htime]
  constructor
  · rfl
  · simp only [testStep, Device.withTarget, h.target]
    rw [if_pos hmoving]
    exact ⟨rfl, rfl⟩

theorem AtPoll.targetStill (h : AtPoll x v d)
    (htime : ulongSub (w.time d.reads % wordModulus)
      (x.startTime % wordModulus) < toULong x.timeoutMs)
    (hstill : ¬ w.isMoving (d.reads + 1) x.target = true) :
    (waitPass (passTable w d.reads x.target) x.target v).isMoving = false ∧
      exists m,
        ((waitPass (passTable w d.reads x.target) x.target v).otherBoxMoving =
          false -> m = 13) ∧
        Scanned (x.startTime % wordModulus) d.globals
          (waitPass (passTable w d.reads x.target) x.target v)
          ((testStep w)^[m] d) := by
  have hscan : testStep w (testStep w d) =
      { d with
        pc := .scan (x.startTime % wordModulus) 1
        reads := d.reads + 2 } := by
    rw [h.inTime htime]
    simp only [testStep, Device.withTarget, h.target]
    rw [if_neg hstill]
  have hreads : d.reads + 2 = scanReads d.reads x.target 1 := by
    rw [scanReads, if_neg (by omega)]
    omega
  have hpass : waitPass (passTable w d.reads x.target) x.target v =
      scanOthers (passTable w d.reads x.target) x.target NOBJECTS.toNat 1 v := by
    have htable : passTable w d.reads x.target x.target =
        w.isMoving (d.reads + 1) x.target :=
      if_pos rfl
    exact if_neg (htable ▸ hstill)
  rw [hpass]
  constructor
  · exact (scanOthers_isMoving _ _ v).trans h.isMoving
  · rcases @scan_follows w (x.startTime % wordModulus) d.reads NOBJECTS.toNat
      x.target 1 { d with pc := .scan (x.startTime % wordModulus) 1,
                          reads := d.reads + 2 } v rfl (le_refl 1) rfl h.target
      hreads h.currentObject.symm h.otherBoxMoving with ⟨m, hm, hscanned⟩
    refine ⟨m + 2, fun hother => congrArg (· + 2) (hm hother), ?_⟩
    show Scanned _ _ _ ((testStep w)^[m] (testStep w (testStep w d)))
    rw [hscan]
    exact hscanned

theorem Scanned.responds {s : Nat} {g : Globals} (h : Scanned s g v d)
    (hflag : v.isMoving = false) (hother : v.otherBoxMoving = true) :
    Responds v d := by
  constructor
  case pc =>
    rw [h.pc, if_pos hother]
    simp [WaitVars.outcome, hflag, hother]
  case currentObject => rw [h.globals]

theorem AtPoll.atTick (h : AtPoll x v d) {u : WaitVars} {e : Device}
    (hscanned : Scanned (x.startTime % wordModulus) d.globals u e)
    (hother : u.otherBoxMoving = false) : AtTick x u (testStep w e) := by
  have hpc := hscanned.pc
  rw [hother, if_neg Bool.false_ne_true] at hpc
  have hstep : testStep w e =
      { e with pc := .passTick (x.startTime % wordModulus) } := by
    simp only [testStep, hpc, scanStep]
    exact if_neg (by decide)
  rw [hstep]
  constructor
  case pc => rfl
  case target =>
    show e.globals.target = some x.target
    rw [hscanned.globals]
    exact h.target
  case timeoutMs =>
    show e.globals.timeoutMs = x.timeoutMs
    rw [hscanned.globals]
    exact h.timeoutMs
  case currentObject =>
    show e.globals.currentObject = u.currentObject
    rw [hscanned.globals]

theorem AtPoll.pass (h : AtPoll x v d)
    (htime : ulongSub (w.time d.reads % wordModulus)
      (x.startTime % wordModulus) < toULong x.timeoutMs) :
    (x.loop.done (waitPass (passTable w d.reads x.target) x.target v) = true ->
      Eventually (testStep w)
        (Responds (waitPass (passTable w d.reads x.target) x.target v)) d) ∧
    (x.loop.done (waitPass (passTable w d.reads x.target) x.target v) = false ->
      AtTick x (waitPass (passTable w d.reads x.target) x.target v)
        ((testStep w)^[14] d)) := by
  by_cases hmoving : w.isMoving (d.reads + 1) x.target = true
  · rcases h.targetMoves htime hmoving with ⟨hflag, hresponds⟩
    constructor
    · intro _
      exact eventually_next (eventually_next (eventually_now hresponds))
    · intro hdone
      rw [(Bool.or_eq_false_iff.mp hdone).left] at hflag
      cases hflag
  · rcases h.targetStill htime hmoving with ⟨hflag, m, hm, hscanned⟩
    generalize waitPass (passTable w d.reads x.target) x.target v = u
      at hflag hm hscanned ⊢
    have hdone : x.loop.done u = u.otherBoxMoving := by
      simp only [Wait.loop, hflag, Bool.false_or]
    rw [hdone]
    constructor
    · intro hother
      exact ⟨m, hscanned.responds hflag hother⟩
    · intro hother
      rw [hm hother] at hscanned
      rw [Function.iterate_succ_apply' (testStep w) 13 d]
      exact h.atTick hscanned hother

theorem AtTick.next (h : AtTick x v d) (hdone : x.loop.done v = false) :
    AtPoll x v (testStep w d) := by
  rcases Bool.or_eq_false_iff.mp hdone with ⟨hmoving, hother⟩
  have hglobals := (tick_ticked w d).globals
  simp only [testStep, h.pc]
  constructor
  case pc => rfl
  case target =>
    show (tick w d).globals.target = some x.target
    rw [tick_target]
    exact h.target
  case timeoutMs =>
    show (tick w d).globals.timeoutMs = x.timeoutMs
    rw [hglobals]
    exact h.timeoutMs
  case currentObject =>
    show (tick w d).globals.currentObject = v.currentObject
    rw [hglobals]
    exact h.currentObject
  case isMoving => exact hmoving
  case otherBoxMoving => exact hother

end Pass

/-!
# The whole wait
-/

section Wait

variable {w : World} {startTime n : Nat} {b : Int} {d : Device}

theorem wait_goesOn (hpc : d.pc = .waitHead (startTime % wordModulus))
    (htarget : d.globals.target = some b)
    (h : (d.wait w startTime b).loop.GoesOn (d.wait w startTime b).start n) :
    AtPoll (d.wait w startTime b)
      ((d.wait w startTime b).loop.passes (d.wait w startTime b).start n)
      (d.atPoll w n) := by
  induction n with
  | zero =>
      exact ⟨hpc, htarget, rfl, rfl, rfl, rfl⟩
  | succ n ih =>
      rcases PollLoop.goesOn_succ.mp h with ⟨hbefore, htime, hdone⟩
      have hpass := (ih hbefore).pass (of_decide_eq_true htime)
      have hnext := (hpass.right hdone).next (w := w) hdone
      rw [← Function.iterate_succ_apply' (testStep w) 14, Device.atPoll,
        ← Function.iterate_add_apply] at hnext
      rw [Device.atPoll, Nat.mul_succ, Nat.add_comm (passSteps * n) passSteps]
      exact hnext

/-- When the wait loop is left the machine gives the response that belongs to
its flags, with the object that the loop has set. -/
theorem wait_responds (hpc : d.pc = .waitHead (startTime % wordModulus))
    (htarget : d.globals.target = some b) {v : WaitVars}
    (h : (d.wait w startTime b).loop.Leaves (d.wait w startTime b).start n v) :
    Eventually (testStep w) (Responds v) d := by
  have hlater : Eventually (testStep w) (Responds v) (d.atPoll w n) := by
    rcases PollLoop.leaves_iff.mp h with ⟨hgoes, hend⟩
    have hpoll := wait_goesOn hpc htarget hgoes
    rcases hend with ⟨hlate, rfl⟩ | ⟨htime, hdone, rfl⟩
    · apply eventually_next
      apply eventually_now
      exact hpoll.late (Nat.le_of_not_lt (of_decide_eq_false hlate))
    · exact (hpoll.pass (of_decide_eq_true htime)).left hdone
  exact eventually_trans ⟨passSteps * n, rfl⟩ fun e (he : d.atPoll w n = e) =>
    he ▸ hlater

/-- The tick at the end of a pass finds the object that the loop has set. -/
theorem wait_tick (hpc : d.pc = .waitHead (startTime % wordModulus))
    (htarget : d.globals.target = some b) {object : Int}
    (h : (d.wait w startTime b).tickObject n = some object) :
    ((testStep w)^[passSteps * n + 14] d).pc =
        .passTick (startTime % wordModulus) ∧
      ((testStep w)^[passSteps * n + 14] d).globals.currentObject = object := by
  rcases Wait.tickObject_eq_some_iff.mp h with ⟨hgoes, hobject⟩
  rcases PollLoop.goesOn_succ.mp hgoes with ⟨hbefore, htime, hdone⟩
  have hpass := (wait_goesOn hpc htarget hbefore).pass (of_decide_eq_true htime)
  have htick := hpass.right hdone
  rw [Device.atPoll, ← Function.iterate_add_apply, Nat.add_comm] at htick
  exact ⟨htick.pc, htick.currentObject.trans hobject⟩

/-- A pass during which no message arrives finds the table as it is. -/
theorem passTable_of_snapshot {table : Int -> Bool} {poll : Nat}
    (h : forall k, poll < k -> k ≤ poll + 12 -> w.isMoving k = table) {i : Int}
    (hlo : 1 ≤ i) (hhi : i ≤ NOBJECTS) : passTable w poll b i = table i := by
  rw [passTable]
  split
  · rename_i hi
    rw [h _ (by omega) (by omega), hi]
  · have hbounds : poll < scanReads poll b i ∧ scanReads poll b i ≤ poll + 12 := by
      simp only [NOBJECTS] at hhi
      rw [scanReads]
      split <;> omega
    rw [h _ hbounds.left hbounds.right]

end Wait

end Receiver
end BoxTrials
