import BoxTrials.Receiver.Boards
import BoxTrials.Receiver.Steps

/-!
# Deliveries and polls

The wait loop looks at the entries of the table, one read at a time, and
`OnDataRecv` may run between any two of these reads.  A poll of the target
therefore sees the last message of its board, and not the ones before it.
-/

namespace BoxTrials
namespace Receiver

open Foundation
open Sender

variable {real : Type}

/-!
# The table as the program finds it
-/

/-- The messages of the boards, in the order of their arrival. -/
structure Radio (real : Type) where
  /-- The table before the first read. -/
  initial : Boards real
  /-- The messages that arrive since the read before the `n`-th one. -/
  deliveries : Nat -> List (StructMessage real)
  numbered : forall n m, m ∈ deliveries n -> 0 ≤ m.id ∧ m.id < 15
  /-- What is read for an index outside of the table. -/
  memory : Nat -> Int -> Bool

def Radio.log (r : Radio real) (n : Nat) : List (StructMessage real) :=
  (List.range (n + 1)).flatMap r.deliveries

def Radio.boards (r : Radio real) (n : Nat) : Boards real :=
  (r.log n).foldl (fun t m => t.onDataRecv m) r.initial

def Radio.isMoving (r : Radio real) (n : Nat) (i : Int) : Bool :=
  match (r.boards n).entry i with
  | some m => m.isMoving
  | none => r.memory n i

def World.hears (w : World) (r : Radio real) : World :=
  { w with isMoving := r.isMoving }

theorem Radio.log_numbered (r : Radio real) {n : Nat} {m : StructMessage real}
    (h : m ∈ r.log n) : 0 ≤ m.id ∧ m.id < 15 := by
  rcases List.mem_flatMap.mp h with ⟨k, _, hm⟩
  exact r.numbered k m hm

theorem Radio.isMoving_of_kept {r : Radio real} {n : Nat} {b : Int}
    {before after : List (StructMessage real)} {m : StructMessage real}
    (hlog : r.log n = before ++ m :: after) (hid : m.id = b)
    (hmoving : m.isMoving = true)
    (hkept : forall x, x ∈ after -> x.id = b -> x.isMoving = true) :
    r.isMoving n b = true := by
  have hm : messageFrom b m = some m := if_pos hid
  rcases lastValue_split before after hm with ⟨x, y, hmem, hx, hlast⟩
  have hentry := @Boards.foldl_entry real (r.log n)
    (fun z hz => r.log_numbered hz) r.initial b
  rw [hlog, hlast, Option.some_or, ← hlog] at hentry
  have hy : y.isMoving = true := by
    unfold messageFrom at hx
    split at hx
    · rename_i hxid
      cases hx
      rcases List.mem_cons.mp hmem with rfl | hafter
      · exact hmoving
      · exact hkept x hafter hxid
    · cases hx
  rw [Radio.isMoving, Radio.boards, hentry]
  exact hy

/-!
# The trial that begins at a step

It lasts until it is classified.
-/

def TrialLasts (w : World) (n k : Nat) : Prop :=
  forall j, n < j -> j ≤ k -> (run w j).pc.inTrial = true

def TrialEnds (w : World) (n : Nat) (outcome : Outcome) : Prop :=
  exists e, n < e ∧ TrialLasts w n e ∧ (run w e).pc = .trialEnd outcome

theorem trialLasts_next {w : World} {n k : Nat} (h : TrialLasts w n k)
    (hnext : (run w (k + 1)).pc.inTrial = true) : TrialLasts w n (k + 1) := by
  intro j hlo hhi
  rcases Nat.le_or_eq_of_le_succ hhi with hle | heq
  · exact h j hlo hle
  · rw [heq]
    exact hnext

theorem trialEnds_unique {w : World} {n : Nat} {o o' : Outcome}
    (h : TrialEnds w n o) (h' : TrialEnds w n o') : o = o' := by
  have hlater : forall {e e' : Nat} {outcome : Outcome}, n < e ->
      (run w e).pc = .trialEnd outcome -> TrialLasts w n e' -> e' ≤ e := by
    intro e e' outcome hlt hpc hlasts
    by_contra hgt
    have hin := hlasts (e + 1) (Nat.lt_succ_of_lt hlt) (by omega)
    have hhead : (run w (e + 1)).pc = .trialHead := by
      rw [run_succ]
      simp only [step, testStep, hpc]
    rw [hhead] at hin
    cases hin
  rcases h with ⟨e, hlt, hlasts, hpc⟩
  rcases h' with ⟨e', hlt', hlasts', hpc'⟩
  have heq : e = e' :=
    Nat.le_antisymm (hlater hlt' hpc' hlasts) (hlater hlt hpc hlasts')
  subst heq
  rw [hpc] at hpc'
  cases hpc'
  rfl

theorem trialLasts_target {w : World} {n k : Nat} (hbegins : Begins (run w n))
    (hle : n ≤ k) (h : TrialLasts w n k) :
    (run w k).globals.target = (run w n).globals.target := by
  induction k, hle using Nat.le_induction with
  | base =>
      rfl
  | succ k hle ih =>
      rw [← ih fun j hlo hhi => h j hlo (Nat.le_succ_of_le hhi)]
      have htest : (run w k).pc.inTest = true := by
        rcases Nat.eq_or_lt_of_le hle with rfl | hlt
        · rw [hbegins.left]
          rfl
        · exact inTest_of_inTrial (h k hlt (Nat.le_succ k))
      have hnext := h (k + 1) (Nat.lt_succ_of_le hle) (Nat.le_refl _)
      have hmove := testStep_testMove w htest
      rw [← step_of_inTest w htest, ← run_succ] at hmove
      exact testMove_target hmove hnext

/-!
# Movements in the window of a trial
-/

/-- In the trial that begins with step `n` the object `b` is commanded, a message
of its board reports movement after `startTime` was taken, and step `k` is a
later poll of the target. -/
structure MovesInWindow (w : World) (r : Radio real) (n k : Nat) (b : Int)
    (before : List (StructMessage real)) (m : StructMessage real)
    (after : List (StructMessage real)) : Prop where
  begins : Begins (run w n)
  target : (run w n).globals.target = some b
  later : n < k
  lasts : TrialLasts w n k
  polls : exists startTime, (run w k).pc = .readTarget startTime
  /-- The messages up to the poll. -/
  log : r.log (run w k).reads = before ++ m :: after
  /-- Those up to `startTime` are all before the message. -/
  window : r.log (run w n).reads <+: before
  id : m.id = b
  moving : m.isMoving = true

structure OthersStill (r : Radio real) (b : Int) : Prop where
  initial : forall i m, 1 ≤ i -> i ≤ NOBJECTS -> i ≠ b ->
    r.initial.entry i = some m -> m.isMoving = false
  messages : forall n m, m ∈ r.deliveries n -> 1 ≤ m.id -> m.id ≤ NOBJECTS ->
    m.id ≠ b -> m.isMoving = false

theorem poll_ends {w : World} {n k : Nat} {b : Int} {startTime : Nat}
    (hlater : n < k) (hlasts : TrialLasts w n k)
    (hpc : (run w k).pc = .readTarget startTime)
    (htarget : (run w k).globals.target = some b)
    (hmoving : w.isMoving (run w k).reads b = true) :
    TrialEnds w n .correct := by
  have hfound : (run w (k + 1)).pc = .respond .correct ∧
      (run w (k + 1)).globals.target = some b := by
    rw [run_succ]
    simp only [step, testStep, hpc, Device.withTarget, htarget, hmoving]
    exact ⟨rfl, htarget⟩
  have hend : (run w (k + 2)).pc = .trialEnd .correct := by
    rw [run_succ]
    simp only [step, testStep, hfound.left]
    exact (light_of_target hfound.right moveMeCorrect (.trialEnd .correct)).left
  have hlasts' := trialLasts_next hlasts (by rw [hfound.left]; rfl)
  exact ⟨k + 2, Nat.lt_add_right 2 hlater,
    trialLasts_next hlasts' (by rw [hend]; rfl), hend⟩

/-- A movement in the window that is not taken back before the next poll ends
the trial as correct. -/
theorem movement_counts {w : World} {r : Radio real} {n k : Nat} {b : Int}
    {before after : List (StructMessage real)} {m : StructMessage real}
    (h : MovesInWindow (w.hears r) r n k b before m after)
    (hkept : forall x, x ∈ after -> x.id = b -> x.isMoving = true) :
    TrialEnds (w.hears r) n .correct ∧ ¬ TrialEnds (w.hears r) n .timeout := by
  rcases h.polls with ⟨startTime, hpc⟩
  have htarget := trialLasts_target h.begins (Nat.le_of_lt h.later) h.lasts
  rw [h.target] at htarget
  have hcorrect := poll_ends h.later h.lasts hpc htarget
    (Radio.isMoving_of_kept h.log h.id h.moving hkept)
  refine ⟨hcorrect, ?_⟩
  intro htimeout
  cases trialEnds_unique hcorrect htimeout

/-!
# A movement between two polls
-/

def shortTrial : World :=
  World.scripted
    [Command.ofFields NTRIALS 0 1, Command.ofFields TRIAL 1 1,
      Command.ofFields TIMEOUT 0 20, Command.ofFields STREAM 0 1]
    (fun n => n) monotone_id (fun _ _ => false)

/-- Messages of board 1 with the given flags, between the first poll of the
target of `shortTrial` and the second one. -/
def betweenPolls (flags : List Bool) : Radio Unit where
  initial :=
    { boardsStruct := List.replicate 15 ⟨0, (), (), (), (), false⟩
      boardsStruct_length := List.length_replicate
      outside := [] }
  deliveries := fun n =>
    if n = 15 then flags.map fun flag => ⟨1, (), (), (), (), flag⟩ else []
  numbered := by
    intro n m h
    split at h
    · rcases List.mem_map.mp h with ⟨flag, _, rfl⟩
      show (0 : Int) ≤ 1 ∧ (1 : Int) < 15
      decide
    · cases h
  memory := fun _ _ => false

theorem betweenPolls_inWindow {flags : List Bool}
    (hflags : flags = [] ∨ flags = [false]) :
    MovesInWindow (shortTrial.hears (betweenPolls (true :: flags)))
      (betweenPolls (true :: flags)) 8 27 1 [] ⟨1, (), (), (), (), true⟩
      (flags.map fun flag => ⟨1, (), (), (), (), flag⟩) := by
  have hlasts : forall j, j < 28 -> 8 < j ->
      (run (shortTrial.hears (betweenPolls (true :: flags))) j).pc.inTrial =
        true := by
    rcases hflags with rfl | rfl <;> decide +kernel
  constructor
  case begins =>
    rcases hflags with rfl | rfl <;>
      exact ⟨by decide +kernel, by decide +kernel⟩
  case target => rcases hflags with rfl | rfl <;> decide +kernel
  case later => decide
  case lasts => exact fun j hlo hhi => hlasts j (Nat.lt_succ_of_le hhi) hlo
  case polls => exact ⟨5, by rcases hflags with rfl | rfl <;> decide +kernel⟩
  case log => rcases hflags with rfl | rfl <;> decide +kernel
  case window => rcases hflags with rfl | rfl <;> decide +kernel
  case id => rfl
  case moving => rfl

theorem movement_counts_shortTrial :
    TrialEnds (shortTrial.hears (betweenPolls [true])) 8 .correct ∧
      ¬ TrialEnds (shortTrial.hears (betweenPolls [true])) 8 .timeout :=
  movement_counts (betweenPolls_inWindow (Or.inl rfl)) (by simp)

/-- The board moves and rests again between two polls of it. Neither poll sees
the movement, and the trial times out. -/
theorem not_movement_counts_takenBack :
    ¬ forall (w : World) (r : Radio Unit) (n k : Nat) (b : Int)
      (before : List (StructMessage Unit)) (m : StructMessage Unit)
      (after : List (StructMessage Unit)),
      MovesInWindow (w.hears r) r n k b before m after -> OthersStill r b ->
        ¬ TrialEnds (w.hears r) n .timeout := by
  intro h
  apply h _ _ _ _ _ _ _ _ (betweenPolls_inWindow (Or.inr rfl))
  · constructor
    case initial =>
      intro i m hlo _ _ hentry
      rw [Boards.entry, if_pos (Int.le_trans Int.one_nonneg hlo)] at hentry
      cases List.eq_of_mem_replicate (List.mem_of_getElem? hentry)
      rfl
    case messages =>
      intro n m hmem _ _ hid
      simp only [betweenPolls] at hmem
      split at hmem
      · rcases List.mem_map.mp hmem with ⟨flag, _, rfl⟩
        exact absurd rfl hid
      · cases hmem
  · have hlasts : forall j, j < 44 -> 8 < j ->
        (run (shortTrial.hears (betweenPolls [true, false])) j).pc.inTrial =
          true := by
      decide +kernel
    exact ⟨43, by decide, fun j hlo hhi => hlasts j (Nat.lt_succ_of_le hhi) hlo,
      by decide +kernel⟩

end Receiver
end BoxTrials
