import BoxTrials.Receiver.Runs

/-!
# Commands during an experiment

The experiment stays on after its last trial, and `loop()` reads commands in
between.  A number of trials that is larger than the one at the start makes
`TestSequence` go on.
-/

namespace BoxTrials
namespace Receiver

open Foundation

/-!
# Experiments of a run
-/

def Event.began? : Event -> Option Int
  | .began trial => some trial
  | _ => none

def Device.begun (d : Device) : List Int :=
  d.trace.filterMap Event.began?

def firstTrials (count : Nat) : List Int :=
  (List.range count).map fun i : Nat => (i : Int) + 1

/-- The run after `n` steps is in the experiment that the step after `m` steps
started: no start and no stop has come since. -/
structure InExperiment (w : World) (m n : Nat) : Prop where
  starts : Starts w (run w m)
  before : m < n
  quiet : forall k, m < k -> k < n ->
    ¬ Starts w (run w k) ∧ ¬ Stops w (run w k)

/-- The trials since the start are the first ones of those that the globals held
at the start, and a trial has the target and the timeout of that moment. -/
structure Isolated (w : World) (m n : Nat) : Prop where
  numbers : exists count,
    count ≤ (run w m).globals.numberOfTrials.toNat ∧
    (run w n).begun = (run w m).begun ++ firstTrials count
  target : (run w n).pc.inTrial = true ->
    exists sequence b, (run w m).globals.trialSequence = some sequence ∧
      1 ≤ (run w n).globals.currentTrial ∧
      (run w n).globals.currentTrial ≤ (run w m).globals.numberOfTrials ∧
      sequence[((run w n).globals.currentTrial - 1).toNat]? = some b ∧
      (run w n).globals.target = some b
  timeout : (run w n).pc.inTrial = true ->
    (run w n).globals.timeoutMs = (run w m).globals.timeoutMs

/-- The next command announces as many trials as the trial counter stands at, or
more. -/
def Extends (w : World) (d : Device) : Prop :=
  d.pc = .loopTop ∧ exists c n, w.command d.reads = some c ∧
    accepted NTRIALS c.packet = some n ∧ d.globals.currentTrial ≤ n

/-!
# The trials that were entered
-/

theorem firstTrials_succ (count : Nat) :
    firstTrials (count + 1) = firstTrials count ++ [(count : Int) + 1] := by
  simp [firstTrials, List.range_succ]

theorem tick_begun (w : World) (d : Device) : (tick w d).begun = d.begun := by
  rcases (tick_ticked w d).trace with ⟨samples, htrace, hsamples⟩
  have hnone : samples.filterMap Event.began? = [] := by
    rw [List.filterMap_eq_nil_iff]
    intro e he
    rw [hsamples e he]
    rfl
  rw [Device.begun, htrace, List.filterMap_append, hnone, List.append_nil]
  rfl

theorem not_begins {d : Device} (h : d.pc ≠ .trialHead) : ¬ Begins d :=
  fun hbegins => h hbegins.left

theorem move_begun {w : World} {d d' : Device} (h : Move w d d') :
    (Begins d ∧ d'.begun = d.begun ++ [d.globals.currentTrial]) ∨
    (¬ Begins d ∧ d'.begun = d.begun) := by
  cases h with
  | receives hpc _ =>
      exact Or.inr ⟨not_begins (by simp [hpc]),
        by simp [receive, Device.begun, Event.began?]⟩
  | streams hpc _ =>
      exact Or.inr ⟨not_begins (by simp [hpc]),
        tick_begun w d⟩
  | nothing hpc _ | rests hpc _ | loops hpc | stays hpc =>
      exact Or.inr ⟨not_begins (by simp [hpc]), rfl⟩
  | tests _ hmove =>
      cases hmove with
      | begins hpc hle =>
          exact Or.inl ⟨⟨hpc, hle⟩, by simp [Device.begun, Event.began?]⟩
      | returns hpc hgt =>
          refine Or.inr ⟨?_, rfl⟩
          intro hbegins
          rcases hbegins with ⟨_, hle⟩
          omega
      | openingTick hpc | passTick hpc =>
          exact Or.inr ⟨not_begins (by simp [hpc]),
            tick_begun w d⟩
      | control hcontrol =>
          refine Or.inr ⟨not_begins ?_, rfl⟩
          intro hpc
          rw [hpc] at hcontrol
          cases hcontrol
      | fault hpc _ =>
          refine Or.inr ⟨not_begins ?_, rfl⟩
          intro hhead
          rw [hhead] at hpc
          cases hpc
      | observesTarget hpc _ _ | observesOther hpc _ _ _ _ | clears hpc _ _
      | finishes hpc =>
          exact Or.inr ⟨not_begins (by simp [hpc]),
            by simp [Device.begun, Event.began?]⟩

/-!
# The invariant of an experiment

An experiment has two phases.  First `TestSequence` runs with the globals of the
start.  When it is done the trial counter is above the number of trials, and
stays there.
-/

structure FirstPass (start d : Device) : Prop where
  place : d.pc = .loopStream ∨ d.pc.inTest = true
  numberOfTrials : d.globals.numberOfTrials = start.globals.numberOfTrials
  trialSequence : d.globals.trialSequence = start.globals.trialSequence
  timeoutMs : d.globals.timeoutMs = start.globals.timeoutMs

structure Exhausted (start d : Device) : Prop where
  place : d.pc.inTrial = false
  atStart : start.globals.numberOfTrials < d.globals.currentTrial
  since : d.globals.numberOfTrials < d.globals.currentTrial

structure Running (start d : Device) (count : Nat) : Prop where
  state : d.globals.state = MODE_STREAM
  phase : FirstPass start d ∨ Exhausted start d
  begun : d.begun = start.begun ++ firstTrials count
  count_le : count ≤ start.globals.numberOfTrials.toNat
  count_eq : (count : Int) + (if d.pc.inTrial then 0 else 1) =
    d.globals.currentTrial

theorem running_start {w : World} {d : Device} (hstart : Starts w d)
    (hdefined : (step w d).pc ≠ .undefined) :
    Running d (step w d) 0 := by
  rcases starts_globals hstart with ⟨now, out, hglobals⟩
  have hpc : (step w d).pc = .loopStream := by
    rcases hstart with ⟨hpc, c, hcommand, _⟩
    rw [step_receive hpc hcommand] at hdefined ⊢
    exact receive_pc hdefined
  constructor
  case state => rw [hglobals]
  case phase =>
    exact Or.inl ⟨Or.inl hpc, by rw [hglobals], by rw [hglobals],
      by rw [hglobals]⟩
  case begun =>
    rcases move_begun (step_move w d) with ⟨hbegins, _⟩ | ⟨_, hbegun⟩
    · cases hstart.left.symm.trans hbegins.left
    · rw [hbegun]
      simp [firstTrials]
  case count_le => exact Nat.zero_le _
  case count_eq =>
    rw [hpc, hglobals]
    rfl

theorem firstPass_of_same {start d d' : Device} (h : FirstPass start d)
    (hsame : d'.globals.configuration = d.globals.configuration)
    (hplace : d'.pc = .loopStream ∨ d'.pc.inTest = true) :
    FirstPass start d' where
  place := hplace
  numberOfTrials :=
    (congrArg Configuration.numberOfTrials hsame).trans h.numberOfTrials
  trialSequence :=
    (congrArg Configuration.trialSequence hsame).trans h.trialSequence
  timeoutMs := (congrArg Configuration.timeoutMs hsame).trans h.timeoutMs

theorem Running.firstPass {start d : Device} {count : Nat}
    (h : Running start d count) (hpc : d.pc.inTrial = true) :
    FirstPass start d := by
  rcases h.phase with hfirst | hexhausted
  · exact hfirst
  · rw [hexhausted.place] at hpc
    cases hpc

theorem Running.exhausted {start d : Device} {count : Nat}
    (h : Running start d count) (hstream : d.pc ≠ .loopStream)
    (htest : d.pc.inTest = false) : Exhausted start d := by
  rcases h.phase with hfirst | hexhausted
  · rcases hfirst.place with hpc | hpc
    · exact absurd hpc hstream
    · rw [htest] at hpc
      cases hpc
  · exact hexhausted

theorem running_testMove {w : World} {start d d' : Device} {count : Nat}
    (h : Running start d count) (htest : d.pc.inTest = true)
    (hmove : TestMove w d d') (hdefined : d'.pc ≠ .undefined) :
    exists count', Running start d' count' := by
  have hstate : d'.globals.state = MODE_STREAM :=
    (congrArg Configuration.state (testMove_frame hmove).left).trans h.state
  have hbegun := move_begun (Move.tests htest hmove)
  have hkept : FirstPass start d -> d'.pc.inTest = true ->
      FirstPass start d' :=
    fun hfirst hin => firstPass_of_same hfirst (testMove_frame hmove).left
      (Or.inr hin)
  have hcount := h.count_eq
  -- Inside a trial nothing but the place changes that the invariant looks at.
  have hinside : d.pc.inTrial = true -> d'.pc.inTrial = true ->
      d'.globals.currentTrial = d.globals.currentTrial ->
      exists count', Running start d' count' := by
    intro hin hin' hsame
    have hnot : ¬ Begins d := by
      apply not_begins
      intro hhead
      rw [hhead] at hin
      cases hin
    have hbegun' : d'.begun = d.begun := by
      rcases hbegun with ⟨hbegins, _⟩ | ⟨_, hbegun⟩
      · exact absurd hbegins hnot
      · exact hbegun
    refine ⟨count, hstate,
      Or.inl (hkept (h.firstPass hin) (inTest_of_inTrial hin')),
      hbegun'.trans h.begun, h.count_le, ?_⟩
    rw [hsame, ← hcount, hin, hin']
  have hticked := tick_currentTrial w d
  cases hmove with
  | begins hpc hle =>
      rw [hpc] at hcount
      have hcount' : (count : Int) + 1 = d.globals.currentTrial := hcount
      have hfirst : FirstPass start d := by
        rcases h.phase with hfirst | hexhausted
        · exact hfirst
        · have := hexhausted.since
          omega
      have hnumber := hfirst.numberOfTrials
      rcases hbegun with ⟨_, hbegun⟩ | ⟨hnot, _⟩
      · refine ⟨count + 1, hstate, Or.inl (hkept hfirst rfl), ?_, by omega, ?_⟩
        · rw [hbegun, h.begun, firstTrials_succ, hcount', List.append_assoc]
        · show ((count + 1 : Nat) : Int) + 0 = d.globals.currentTrial
          omega
      · exact absurd ⟨hpc, hle⟩ hnot
  | returns hpc hgt =>
      rw [hpc] at hcount
      have hbegun' : d.begun = start.begun ++ firstTrials count := h.begun
      refine ⟨count, hstate, Or.inr ⟨rfl, ?_, hgt⟩, hbegun', h.count_le, hcount⟩
      rcases h.phase with hfirst | hexhausted
      · rw [← hfirst.numberOfTrials]
        exact hgt
      · exact hexhausted.atStart
  | openingTick hpc => exact hinside (by rw [hpc]; rfl) rfl hticked
  | passTick hpc => exact hinside (by rw [hpc]; rfl) rfl hticked
  | control hcontrol =>
      exact hinside (control_inTrial hcontrol).left
        (control_inTrial hcontrol).right rfl
  | observesTarget hpc _ _ => exact hinside (by rw [hpc]; rfl) rfl rfl
  | observesOther hpc _ _ _ _ => exact hinside (by rw [hpc]; rfl) rfl rfl
  | clears hpc _ _ => exact hinside (by rw [hpc]; rfl) rfl rfl
  | finishes hpc =>
      have hin : d.pc.inTrial = true := by rw [hpc]; rfl
      rw [hin] at hcount
      rcases hbegun with ⟨hbegins, _⟩ | ⟨_, hbegun⟩
      · cases hpc.symm.trans hbegins.left
      · refine ⟨count, hstate, Or.inl (hkept (h.firstPass hin) rfl),
          hbegun.trans h.begun, h.count_le, ?_⟩
        show (count : Int) + 1 = d.globals.currentTrial + 1
        rw [← hcount]
        simp
  | fault _ _ => exact absurd rfl hdefined

theorem running_receive {w : World} {start d : Device} {c : Command}
    {count : Nat} (h : Running start d count) (hd : Sound d)
    (hnext : Sound (receive w c d)) (hdefined : (receive w c d).pc ≠ .undefined)
    (hpc : d.pc = .loopTop) (hstart : ¬ IsStart c.packet)
    (hstop : ¬ IsStop c.packet)
    (hextends : forall n, accepted NTRIALS c.packet = some n ->
      n < d.globals.currentTrial) :
    Running start (receive w c d) count := by
  have hexhausted := h.exhausted (by simp [hpc]) (by rw [hpc]; rfl)
  have hsame := doCommand_sameRun_of_not hstart hstop
    (w.time d.reads % wordModulus) d.globals
  have hstate : (receive w c d).globals.state = d.globals.state := hsame.state
  have htrial : (receive w c d).globals.currentTrial =
      d.globals.currentTrial := hsame.currentTrial
  have hplace := receive_pc hdefined
  have hcount := h.count_eq
  rw [hpc] at hcount
  constructor
  case state => exact hstate.trans h.state
  case phase =>
    refine Or.inr ⟨by rw [hplace]; rfl, by rw [htrial]; exact hexhausted.atStart,
      ?_⟩
    rw [receive_numberOfTrials hd hnext, htrial]
    cases haccepted : accepted NTRIALS c.packet with
    | none => exact hexhausted.since
    | some n => exact hextends n haccepted
  case begun =>
    rw [← h.begun]
    simp [receive, Device.begun, Event.began?]
  case count_le => exact h.count_le
  case count_eq =>
    rw [hplace, htrial]
    exact hcount

theorem running_step {w : World} {start d : Device} {count : Nat}
    (h : Running start d count) (hd : Sound d) (hnext : Sound (step w d))
    (hdefined : (step w d).pc ≠ .undefined) (hstart : ¬ Starts w d)
    (hstop : ¬ Stops w d) (hextends : ¬ Extends w d) :
    exists count', Running start (step w d) count' := by
  have hcount := h.count_eq
  have hmove := step_move w d
  generalize step w d = d' at hmove hnext hdefined
  cases hmove with
  | @receives c hpc hcommand =>
      refine ⟨count, running_receive h hd hnext hdefined hpc ?_ ?_ ?_⟩
      · exact fun hc => hstart ⟨hpc, c, hcommand, hc⟩
      · exact fun hc => hstop ⟨hpc, c, hcommand, hc⟩
      · intro n hn
        by_contra hle
        exact hextends ⟨hpc, c, n, hcommand, hn, by omega⟩
  | nothing hpc _ =>
      have hexhausted := h.exhausted (by simp [hpc]) (by rw [hpc]; rfl)
      rw [hpc] at hcount
      exact ⟨count, h.state, Or.inr ⟨rfl, hexhausted.atStart, hexhausted.since⟩,
        h.begun, h.count_le, hcount⟩
  | streams hpc hstate =>
      rw [hpc] at hcount
      refine ⟨count, (tick_state w d).trans hstate, ?_,
        (tick_begun w d).trans h.begun, h.count_le, ?_⟩
      · rcases h.phase with hfirst | hexhausted
        · exact Or.inl (firstPass_of_same hfirst (tick_configuration w d)
            (Or.inr rfl))
        · refine Or.inr ⟨rfl, ?_, ?_⟩
          · show _ < (tick w d).globals.currentTrial
            rw [tick_currentTrial]
            exact hexhausted.atStart
          · show (tick w d).globals.numberOfTrials <
              (tick w d).globals.currentTrial
            rw [tick_currentTrial, tick_numberOfTrials]
            exact hexhausted.since
      · show (count : Int) + 1 = (tick w d).globals.currentTrial
        rw [tick_currentTrial]
        exact hcount
  | rests _ hstate => exact absurd h.state hstate
  | tests htest hmove => exact running_testMove h htest hmove hdefined
  | loops hpc =>
      have hexhausted := h.exhausted (by simp [hpc]) (by rw [hpc]; rfl)
      rw [hpc] at hcount
      exact ⟨count, h.state, Or.inr ⟨rfl, hexhausted.atStart, hexhausted.since⟩,
        h.begun, h.count_le, hcount⟩
  | stays hpc => exact absurd hpc hdefined

/-!
# Runs
-/

theorem inExperiment_of_succ {w : World} {m n : Nat}
    (h : InExperiment w m (n + 1)) (hmn : m < n) : InExperiment w m n where
  starts := h.starts
  before := hmn
  quiet := fun k hlo hhi => h.quiet k hlo (Nat.lt_succ_of_lt hhi)

theorem run_running {w : World}
    (hdefined : forall n, (run w n).pc ≠ .undefined) {m n : Nat}
    (h : InExperiment w m n)
    (hextends : forall k, m < k -> k < n -> ¬ Extends w (run w k)) :
    exists count, Running (run w m) (run w n) count := by
  induction n with
  | zero =>
      exact absurd h.before (Nat.not_lt_zero m)
  | succ n ih =>
      have hd := run_sound (hdefined n)
      have hnext := run_sound (hdefined (n + 1))
      have hdef := hdefined (n + 1)
      rw [run_succ] at hnext hdef ⊢
      rcases Nat.lt_succ_iff_lt_or_eq.mp h.before with hmn | rfl
      · have hn := Nat.lt_succ_self n
        rcases ih (inExperiment_of_succ h hmn)
          (fun k hlo hhi => hextends k hlo (Nat.lt_succ_of_lt hhi)) with
          ⟨count, hrunning⟩
        exact running_step hrunning hd hnext hdef (h.quiet n hmn hn).left
          (h.quiet n hmn hn).right (hextends n hmn hn)
      · exact ⟨0, running_start h.starts hdef⟩

theorem isolated_of_running {w : World} {m n count : Nat}
    (h : Running (run w m) (run w n) count) (hd : Sound (run w n)) :
    Isolated w m n where
  numbers := ⟨count, h.count_le, h.begun⟩
  target := by
    intro hpc
    have hfirst := h.firstPass hpc
    rcases sound_target hd hpc with ⟨_, later, _, _, hlo, _, htarget⟩
    have hhi := hd.bounded hpc
    rw [hfirst.numberOfTrials] at hhi
    cases hsequence : (run w n).globals.trialSequence with
    | none =>
        simp [Globals.target, hsequence] at htarget
    | some sequence =>
        have hentry := htarget
        simp only [Globals.target, hsequence] at hentry
        rw [if_pos hlo] at hentry
        exact ⟨sequence, _, by rw [← hfirst.trialSequence, hsequence], hlo, hhi,
          hentry, htarget⟩
  timeout := fun hpc => (h.firstPass hpc).timeoutMs

theorem extends_begins {w : World} {d : Device} (hd : Sound d)
    (hnext : Sound (step w d)) (hdefined : (step w d).pc ≠ .undefined)
    (hstate : d.globals.state = MODE_STREAM) (h : Extends w d) :
    (¬ Starts w d ∧ ¬ Stops w d) ∧ (step w d).pc = .loopStream ∧
      Begins (step w (step w d)) ∧
      (step w (step w d)).globals.currentTrial = d.globals.currentTrial := by
  rcases h with ⟨hpc, c, n, hcommand, haccepted, hle⟩
  have hkind : c.packet.commandNumber ≠ STREAM := by
    intro hstream
    rw [accepted_of_ne (by rw [hstream]; decide)] at haccepted
    cases haccepted
  have hquiet : ¬ Starts w d ∧ ¬ Stops w d := by
    constructor
    all_goals
      intro hstep
      rcases hstep with ⟨_, c', hc', hstream, _⟩
      rw [hcommand, Option.some.injEq] at hc'
      rw [← hc'] at hstream
      exact hkind hstream
  rw [step_receive hpc hcommand] at hnext hdefined ⊢
  have hplace := receive_pc hdefined
  have hsame := doCommand_sameRun hkind (w.time d.reads % wordModulus) d.globals
  have hstate' : (receive w c d).globals.state = MODE_STREAM :=
    hsame.state.trans hstate
  have htrial' : (receive w c d).globals.currentTrial =
      d.globals.currentTrial := hsame.currentTrial
  have hnumber' : (receive w c d).globals.numberOfTrials = n := by
    rw [receive_numberOfTrials hd hnext, haccepted]
    rfl
  rcases begins_of_loopStream (w := w) hplace hstate'
    (by rw [htrial', hnumber']; exact hle) with ⟨hbegins, htrial⟩
  exact ⟨hquiet, hplace, hbegins, htrial.trans htrial'⟩

theorem inExperiment_add {w : World} {m n : Nat} (h : InExperiment w m n)
    {count : Nat} (hquiet : forall k, n ≤ k -> k < n + count ->
      ¬ Starts w (run w k) ∧ ¬ Stops w (run w k)) :
    InExperiment w m (n + count) where
  starts := h.starts
  before := Nat.lt_add_right count h.before
  quiet := by
    intro k hlo hhi
    rcases Nat.lt_or_ge k n with hk | hk
    · exact h.quiet k hlo hk
    · exact hquiet k hk hhi

theorem not_extends_of_isolated {w : World} {m n count : Nat}
    (hdefined : forall k, (run w k).pc ≠ .undefined)
    (hisolated : InExperiment w m (n + 3) -> Isolated w m (n + 3))
    (hin : InExperiment w m n)
    (h : Running (run w m) (run w n) count) : ¬ Extends w (run w n) := by
  intro hextends
  have hpc := hextends.left
  have hexhausted := h.exhausted (by simp [hpc]) (by rw [hpc]; rfl)
  have hnext := run_sound (hdefined (n + 1))
  have hdef := hdefined (n + 1)
  rw [run_succ] at hnext hdef
  rcases extends_begins (run_sound (hdefined n)) hnext hdef h.state hextends with
    ⟨hquiet, hplace, hbegins, htrial⟩
  rw [← run_succ] at hplace hbegins htrial
  rw [← run_succ] at hbegins htrial
  rcases begins_step (w := w) hbegins with ⟨hpc3, _, hglobals3⟩
  rw [← run_succ] at hpc3 hglobals3
  have hin3 : InExperiment w m (n + 3) := by
    apply inExperiment_add hin
    intro k hlo hhi
    have hcases : k = n ∨ k = n + 1 ∨ k = n + 2 := by omega
    rcases hcases with rfl | rfl | rfl
    · exact hquiet
    · exact quiet_of_pc (by simp [hplace])
    · exact quiet_of_pc (by simp [hbegins.left])
  rcases (hisolated hin3).target hpc3 with ⟨_, _, _, _, hbound, _, _⟩
  rw [hglobals3, htrial] at hbound
  have := hexhausted.atStart
  omega

/-- The experiments of a run are isolated exactly when no command announces as
many trials as the counter stands at while an experiment is on, and every TRIAL
is numbered within the sequence. -/
theorem isolated_iff (w : World) :
    (forall n, (run w n).pc ≠ .undefined ∧
        forall m, InExperiment w m n -> Isolated w m n) <->
      (forall n, TrialsInRange (run w n).history ∧
        forall m, InExperiment w m n -> ¬ Extends w (run w n)) := by
  constructor
  · intro h
    have hdefined := fun n => (h n).left
    have hextends : forall n m, InExperiment w m n -> ¬ Extends w (run w n) := by
      intro n
      induction n using Nat.strong_induction_on with
      | _ n ih =>
          intro m hin
          rcases run_running hdefined hin (fun k hlo hhi =>
            ih k hhi m ⟨hin.starts, hlo,
              fun j hj hjk => hin.quiet j hj (Nat.lt_trans hjk hhi)⟩) with
            ⟨count, hrunning⟩
          exact not_extends_of_isolated hdefined ((h (n + 3)).right m) hin
            hrunning
    exact fun n => ⟨(run_defined_iff w n).mp (hdefined n), hextends n⟩
  · intro h n
    have hdefined := fun n => (run_defined_iff w n).mpr (h n).left
    refine ⟨hdefined n, ?_⟩
    intro m hin
    rcases run_running hdefined hin (fun k hlo hhi =>
      (h k).right m ⟨hin.starts, hlo,
        fun j hj hjk => hin.quiet j hj (Nat.lt_trans hjk hhi)⟩) with
      ⟨count, hrunning⟩
    exact isolated_of_running hrunning (run_sound (hdefined n))

/-- An experiment without trials is started, then a trial is announced. The
second entry of the script is passed over, since the timer makes that read. -/
def lateAnnouncement : World :=
  World.scripted
    [⟨⟨STREAM, 0, 1⟩, by constructor <;> decide⟩,
      ⟨⟨PING, 0, 0⟩, by constructor <;> decide⟩,
      ⟨⟨NTRIALS, 0, 1⟩, by constructor <;> decide⟩]
    (fun n => n) monotone_id (fun _ _ => false)

/-- The announced trial is run, although there was no sequence at the start. -/
theorem not_isolated_lateAnnouncement :
    ¬ forall m n, InExperiment lateAnnouncement m n ->
      Isolated lateAnnouncement m n := by
  intro h
  have hin : InExperiment lateAnnouncement 0 7 := by
    refine ⟨⟨rfl, _, rfl, rfl, rfl⟩, by decide, ?_⟩
    intro k hlo hhi
    have hannounced : (run lateAnnouncement 4).reads = 2 := by
      decide +kernel
    interval_cases k
    case «4» =>
      constructor
      all_goals
        intro hstep
        rcases hstep with ⟨_, c, hc, hstream, _⟩
        rw [hannounced] at hc
        cases hc
        cases hstream
    all_goals
      exact quiet_of_pc (by decide +kernel)
  rcases (h 0 7 hin).target (by decide +kernel) with ⟨_, _, hsequence, _⟩
  cases hsequence

end Receiver
end BoxTrials
