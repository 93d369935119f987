import BoxTrials.Receiver.WaitLoop

/-!
# How a wait ends

The first pass that finds an object moving decides the trial, if it comes before
the deadline.  Which object the ticks report until then depends on the place of
the target among the objects.
-/

namespace BoxTrials
namespace Receiver
namespace Wait

open Foundation

/-!
# Classification
-/

/-- The pass after poll `p` is the first in which an object moves, and the polls
up to it are before the deadline. -/
structure FirstMoving (x : Wait) (p : Nat) : Prop where
  inTime : forall k, k ≤ p -> (x.elapsed k : Int) < x.timeoutMs
  moves : exists b, x.Moves p b
  first : x.Quiet p

/-- The trial is decided by the first pass in which an object moves. -/
structure Classified (x : Wait) : Prop where
  correct : forall p, x.FirstMoving p -> x.isMoving p x.target = true ->
    x.Leaves p .correct x.target
  wrongBox : forall p, x.FirstMoving p -> x.isMoving p x.target = false ->
    exists b, IsLeast {b | x.Moves p b} b ∧ x.Leaves p .wrongBox b
  timeout : (¬ exists p, x.FirstMoving p) ->
    forall k, x.timeoutMs ≤ x.elapsed k ->
      exists j object, j ≤ k ∧ x.Leaves j .timeout object
  onlyThen : forall k object, x.Leaves k .timeout object ->
    ¬ exists p, x.FirstMoving p
  /-- What is in the table besides the objects has no influence. -/
  others : forall table,
    (forall k b, 1 ≤ b -> b ≤ NOBJECTS -> table k b = x.isMoving k b) ->
      forall n, { x with isMoving := table }.loop.after x.start n =
        x.loop.after x.start n

variable {x : Wait} {n k p : Nat}

theorem FirstMoving.ends (hx : x.HasObject) (ht : x.HasTimeout)
    (h : x.FirstMoving p) :
    x.loop.GoesOn x.start p ∧ x.loop.inTime p = true ∧
      x.loop.done (x.loop.passes x.start (p + 1)) = true :=
  ⟨(goesOn_iff hx).mpr
      ⟨fun k hk => (inTime_iff ht).mpr (h.inTime k (Nat.le_of_lt hk)), h.first⟩,
    (inTime_iff ht).mpr (h.inTime p (Nat.le_refl p)),
    (done_iff hx h.first).mpr h.moves⟩

theorem FirstMoving.leaves (hx : x.HasObject) (ht : x.HasTimeout)
    (h : x.FirstMoving p) {v : WaitVars}
    (hv : x.loop.passes x.start (p + 1) = v) :
    x.Leaves p v.outcome v.currentObject := by
  rcases h.ends hx ht with ⟨hgoes, htime, hdone⟩
  have hleaves := PollLoop.leaves_of_done hgoes htime hdone
  rw [hv] at hleaves
  exact ⟨v, hleaves, rfl, rfl⟩

theorem leaves_cases (hx : x.HasObject) (ht : x.HasTimeout)
    {outcome : Outcome} {object : Int} (h : x.Leaves k outcome object) :
    (outcome = .timeout ∧ x.timeoutMs ≤ x.elapsed k ∧ x.Quiet k) ∨
      (outcome ≠ .timeout ∧ x.FirstMoving k) := by
  rcases h with ⟨v, hleaves, houtcome, _⟩
  rcases PollLoop.leaves_iff.mp hleaves with
    ⟨hgoes, ⟨hlate, hv⟩ | ⟨htime, hdone, hv⟩⟩
  · left
    have hquiet := ((goesOn_iff hx).mp hgoes).right
    rw [passes_of_quiet hx hquiet] at hv
    refine ⟨?_, ?_, hquiet⟩
    · rw [← houtcome, hv]
      rfl
    · have hnot := mt (inTime_iff ht).mpr (ne_true_of_eq_false hlate)
      omega
  · right
    rcases (goesOn_iff hx).mp hgoes with ⟨hbefore, hquiet⟩
    constructor
    · rw [← houtcome, hv]
      exact (done_iff_outcome x _).mp hdone
    · constructor
      case inTime =>
        intro j hj
        rcases Nat.lt_or_eq_of_le hj with hlt | rfl
        · exact (inTime_iff ht).mp (hbefore j hlt)
        · exact (inTime_iff ht).mp htime
      case moves => exact (done_iff hx hquiet).mp hdone
      case first => exact hquiet

theorem FirstMoving.before_late (h : x.FirstMoving p)
    (hquiet : x.Quiet k) (hlate : x.timeoutMs ≤ x.elapsed k) : False := by
  rcases Nat.lt_or_ge p k with hlt | hge
  · rcases h.moves with ⟨b, hb⟩
    exact hquiet p hlt b hb
  · have := h.inTime k hge
    omega

/-- For every object as the target, every timeout, all times of the polls and
all tables that the passes find, the first pass with a movement decides the
trial. -/
theorem classified (x : Wait) (hx : x.HasObject) (ht : x.HasTimeout) :
    x.Classified where
  correct p hp htarget :=
    hp.leaves hx ht (passes_of_target hx hp.first htarget)
  wrongBox p hp htarget := by
    rcases exists_isLeast hp.moves with ⟨b, hleast⟩
    exact ⟨b, hleast, hp.leaves hx ht (passes_of_other hx hp.first htarget hleast)⟩
  timeout hnone k hlate := by
    have hout : x.loop.inTime k = false := by
      apply eq_false_of_ne_true
      intro htime
      have := (inTime_iff ht).mp htime
      omega
    rcases PollLoop.leaves_of_deadline hout with ⟨j, v, hj, hleaves⟩
    have hx' : x.Leaves j v.outcome v.currentObject := ⟨v, hleaves, rfl, rfl⟩
    rcases leaves_cases hx ht hx' with ⟨houtcome, _, _⟩ | ⟨_, hfirst⟩
    · rw [houtcome] at hx'
      exact ⟨j, v.currentObject, hj, hx'⟩
    · exact absurd ⟨j, hfirst⟩ hnone
  onlyThen k object h := by
    intro hfirst
    rcases hfirst with ⟨p, hp⟩
    rcases leaves_cases hx ht h with ⟨_, hlate, hquiet⟩ | ⟨hne, _⟩
    · exact hp.before_late hquiet hlate
    · exact hne rfl
  others table htable n := by
    apply PollLoop.after_congr
    · funext k
      exact waitPass_congr hx.left hx.right (htable k)
    · rfl
    · exact fun _ _ => rfl

/-- The target and another object move in the third pass, and the clock of the
program wraps before it. -/
def bothMove : Wait where
  target := 3
  timeoutMs := 1000
  currentObject := 0
  startTime := 4294967000
  now k := 4294967000 + 200 * k
  isMoving k i := decide (k = 2) && (decide (i = 2) || decide (i = 3))

theorem classified_bothMove :
    bothMove.FirstMoving 2 ∧ bothMove.Leaves 2 .correct 3 := by
  have hfirst : bothMove.FirstMoving 2 := by
    constructor
    case inTime =>
      intro k hk
      have hcases : k = 0 ∨ k = 1 ∨ k = 2 := by omega
      rcases hcases with rfl | rfl | rfl <;> decide +kernel
    case moves => exact ⟨2, by decide, by decide, by decide⟩
    case first =>
      intro k hk b hb
      have hmoving := hb.right.right
      simp only [bothMove, Bool.and_eq_true, decide_eq_true_eq] at hmoving
      omega
  exact ⟨hfirst, (classified bothMove ⟨by decide, by decide⟩
    ⟨by decide, by decide⟩).correct 2 hfirst (by decide)⟩

/-!
# What the ticks report
-/

/-- `_currentObject` at the `timer.tick()` that ends pass `n`, if the pass gets
to it. -/
def tickObject (x : Wait) (n : Nat) : Option Int :=
  match x.loop.after x.start (n + 1) with
  | .polling v => some v.currentObject
  | .left _ _ => none

def TicksIdle (x : Wait) : Prop :=
  forall n object, x.tickObject n = some object -> object = 0

theorem tickObject_eq_some_iff {object : Int} :
    x.tickObject n = some object <->
      x.loop.GoesOn x.start (n + 1) ∧
        (x.loop.passes x.start (n + 1)).currentObject = object := by
  cases hafter : x.loop.after x.start (n + 1) with
  | polling v =>
      rcases PollLoop.after_eq_polling_iff.mp hafter with ⟨hgoes, rfl⟩
      simp [tickObject, hafter, hgoes]
  | left j v =>
      have hnot : ¬ x.loop.GoesOn x.start (n + 1) := by
        intro hgoes
        rw [PollLoop.after_of_goesOn hgoes] at hafter
        cases hafter
      simp [tickObject, hafter, hnot]

/-- The scan resets the object only when it passes the last object, which it
skips if that is the target. The ticks of such a wait report the object of an
earlier trial, if there is one and the first pass gets to its tick. -/
theorem ticksIdle_iff (x : Wait) (hx : x.HasObject) :
    x.TicksIdle <->
      x.target ≠ NOBJECTS ∨ x.currentObject = 0 ∨
        toULong x.timeoutMs ≤ x.elapsed 0 ∨ exists b, x.Moves 0 b := by
  constructor
  · intro hidle
    by_contra hnot
    rcases not_or.mp hnot with ⟨hlast, hnot⟩
    rcases not_or.mp hnot with ⟨hstale, hnot⟩
    rcases not_or.mp hnot with ⟨htime, hmoves⟩
    have hquiet : x.Quiet 1 := by
      intro k hk b hb
      rw [Nat.lt_one_iff.mp hk] at hb
      exact hmoves ⟨b, hb⟩
    have hgoes : x.loop.GoesOn x.start 1 := by
      apply (goesOn_iff hx).mpr ⟨_, hquiet⟩
      intro k hk
      rw [Nat.lt_one_iff.mp hk]
      exact decide_eq_true (Nat.lt_of_not_le htime)
    apply hstale
    apply hidle 0
    rw [tickObject_eq_some_iff, passes_of_quiet hx hquiet]
    exact ⟨hgoes, if_pos (Or.inr (not_not.mp hlast))⟩
  · intro h n object htick
    rcases tickObject_eq_some_iff.mp htick with ⟨hgoes, hobject⟩
    rcases (goesOn_iff hx).mp hgoes with ⟨hbefore, hquiet⟩
    have htime := of_decide_eq_true (hbefore 0 (Nat.succ_pos n))
    rw [passes_of_quiet hx hquiet] at hobject
    simp only [Nat.succ_ne_zero, false_or] at hobject
    rcases h with hother | hzero | hlate | ⟨b, hb⟩
    · rw [if_neg hother] at hobject
      exact hobject.symm
    · rw [hzero, ite_self] at hobject
      exact hobject.symm
    · exact absurd htime (Nat.not_lt.mpr hlate)
    · exact absurd hb (hquiet 0 (Nat.succ_pos n) b)

theorem ticksIdle_bothMove : bothMove.TicksIdle :=
  (ticksIdle_iff bothMove ⟨by decide, by decide⟩).mpr (Or.inl (by decide))

/-- Object 3 was moved in an earlier trial, and now the last object is waited
for. -/
def staleObject : Wait where
  target := NOBJECTS
  timeoutMs := 1000
  currentObject := 3
  startTime := 0
  now k := 10 * k
  isMoving _ _ := false

theorem not_ticksIdle_staleObject : ¬ staleObject.TicksIdle := by
  intro h
  have hthree := h 0 3 (by decide +kernel)
  revert hthree
  decide

end Wait
end Receiver
end BoxTrials
