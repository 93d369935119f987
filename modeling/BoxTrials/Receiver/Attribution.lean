import BoxTrials.Foundation.LastMatch
import BoxTrials.Foundation.Since
import BoxTrials.Receiver.Experiments
import BoxTrials.Receiver.PacketRoundTrip

/-!
# Which trial a sample belongs to

An observation ends its trial, and no tick comes between the two.  The object
stays in `_currentObject` while the counter goes on, so the samples that carry
an object carry the number of a later trial.
-/

namespace BoxTrials
namespace Receiver

open Foundation
open Libraries.ArduinoTimer

/-!
# Samples and observations
-/

/-- An experiment that `loop()` has entered after a start. -/
structure StreamedExperiment extends Experiment where
  streaming : globals.state = MODE_STREAM
  noObject : globals.currentObject = 0

/-- Every sample of an object comes after an observation of that object in the
same trial. -/
def Attributed (trace : List Event) : Prop :=
  forall before b t after, trace = before ++ .sampled b t :: after ->
    b ≠ 0 -> .observed b t ∈ before

def Event.noted? : Event -> Option Int
  | .observed object _ => some object
  | .cleared _ => some 0
  | _ => none

def Device.noted (d : Device) : Int :=
  (lastValue Event.noted? d.trace).getD 0

/-- The next step is a tick of `TestSequence` that finds a task due, in a trial
whose number fits into a packet. -/
def Samples (w : World) (d : Device) : Prop :=
  (exists s, d.pc = .trialTick s ∨ d.pc = .passTick s) ∧
    anyDue (millis w) d.globals.timer.slots d ∧
    toULong d.globals.currentTrial < 65536

theorem attributed_append {trace events : List Event} (h : Attributed trace)
    (hevents : forall b t, .sampled b t ∈ events -> b = 0) :
    Attributed (trace ++ events) := by
  intro before b t after hsplit hb
  have hnot : Event.sampled b t ∉ events := fun hmem => hb (hevents b t hmem)
  rcases List.append_eq_append_iff.mp hsplit with
    ⟨middle, hbefore, hrest⟩ | ⟨middle, htrace, hrest⟩
  · rw [hrest] at hnot
    simp at hnot
  · cases middle with
    | nil =>
        rw [List.nil_append] at hrest
        rw [← hrest] at hnot
        simp at hnot
    | cons first middle =>
        rw [List.cons_append, List.cons.injEq] at hrest
        rw [← hrest.left] at htrace
        exact h before b t middle htrace hb

theorem noted_of_trace {d d' : Device} {events : List Event}
    (htrace : d'.trace = d.trace ++ events)
    (hnone : forall e, e ∈ events -> e.noted? = none) : d'.noted = d.noted := by
  rw [Device.noted, htrace, lastValue_append_of_none d.trace hnone]
  rfl

theorem noted_snoc {d d' : Device} {e : Event} {object : Int}
    (htrace : d'.trace = d.trace ++ [e]) (he : e.noted? = some object) :
    d'.noted = object := by
  rw [Device.noted, htrace, lastValue_snoc, he]
  rfl

/-!
# Ticks that write
-/

theorem millis_iterate (w : World) (k : Nat) (d : Device) :
    (fun d => (millis w d).2)^[k] d = { d with reads := d.reads + k } := by
  induction k with
  | zero =>
      rfl
  | succ k ih =>
      rw [Function.iterate_succ_apply', ih]
      rfl

structure Sampling (g : Globals) : Prop where
  state : g.state = MODE_STREAM
  counting : 1 ≤ g.currentTrial
  object_nonneg : 0 ≤ g.currentObject
  object_le : g.currentObject ≤ NOBJECTS

theorem timerEventWriteSTREAM_trace {d : Device} (h : Sampling d.globals) :
    (timerEventWriteSTREAM d).2.trace = d.trace ++
      (if toULong d.globals.currentTrial < 65536 then
        [.sampled d.globals.currentObject d.globals.currentTrial]
      else
        []) := by
  have hnot : ¬ (d.globals.currentTrial < 1 ∨ d.globals.state ≠ MODE_STREAM) := by
    intro hbad
    rcases hbad with hlt | hne
    · have := h.counting
      omega
    · exact hne h.state
  simp only [timerEventWriteSTREAM]
  rw [if_neg hnot]
  by_cases hfits : toULong d.globals.currentTrial < 65536
  · have hwrite : (d.globals.writePacket STREAM d.globals.currentObject
        d.globals.currentTrial).1 = true := by
      simp only [Globals.writePacket]
      rw [writePacket_of_writable ⟨by decide, by decide, h.object_nonneg,
        h.object_le, hfits⟩]
    simp [hwrite, hfits, Device.emit]
  · have hwrite : (d.globals.writePacket STREAM d.globals.currentObject
        d.globals.currentTrial).1 = false := by
      simp only [Globals.writePacket]
      rw [writePacket_of_not_writable fun h => hfits h.right.right.right.right]
    simp [hwrite, hfits]

theorem tick_trace_of_due (w : World) {d : Device} (h : Sampling d.globals)
    (hdue : anyDue (millis w) d.globals.timer.slots d)
    (hfits : toULong d.globals.currentTrial < 65536) :
    exists more, (tick w d).trace = d.trace ++
      .sampled d.globals.currentObject d.globals.currentTrial :: more := by
  rcases tickSlots_of_anyDue (millis w) callHandler Ticked ticked_refl
    ticked_trans (millis_ticked w) callHandler_ticked d.globals.timer.slots d
    hdue with ⟨k, handler, hticked⟩
  rw [millis_iterate] at hticked
  rcases hticked.trace with ⟨samples, hsamples, _⟩
  refine ⟨samples, ?_⟩
  show (tickSlots (millis w) callHandler d.globals.timer.slots d).2.trace = _
  rw [hsamples]
  cases handler
  simp only [callHandler]
  rw [timerEventWriteSTREAM_trace (d := { d with reads := d.reads + k }) h]
  simp [hfits]

theorem tick_trace_of_not_due (w : World) {d : Device} (h : Sampling d.globals)
    (hnot : ¬ (anyDue (millis w) d.globals.timer.slots d ∧
      toULong d.globals.currentTrial < 65536)) :
    (tick w d).trace = d.trace := by
  show (tickSlots (millis w) callHandler d.globals.timer.slots d).2.trace = _
  by_cases hdue : anyDue (millis w) d.globals.timer.slots d
  · have hwide : ¬ toULong d.globals.currentTrial < 65536 :=
      fun hfits => hnot ⟨hdue, hfits⟩
    have hquiet := tickSlots_rel (millis w) callHandler
      (fun a b => Ticked a b ∧
        (Sampling a.globals -> ¬ toULong a.globals.currentTrial < 65536 ->
          b.trace = a.trace))
      (fun a => ⟨ticked_refl a, fun _ _ => rfl⟩)
      (by
        intro a b c hfirst hsecond
        rcases hfirst with ⟨hab, hquietAb⟩
        rcases hsecond with ⟨hbc, hquietBc⟩
        refine ⟨ticked_trans hab hbc, ?_⟩
        intro ha hwideA
        have hb : Sampling b.globals := by
          rw [hab.globals]
          exact ⟨ha.state, ha.counting, ha.object_nonneg, ha.object_le⟩
        have hwideB : ¬ toULong b.globals.currentTrial < 65536 := by
          rw [hab.globals]
          exact hwideA
        rw [hquietBc hb hwideB, hquietAb ha hwideA])
      (fun a => ⟨millis_ticked w a, fun _ _ => rfl⟩)
      (by
        intro handler a
        refine ⟨callHandler_ticked handler a, ?_⟩
        intro ha hwideA
        cases handler
        simp only [callHandler]
        rw [timerEventWriteSTREAM_trace ha, if_neg hwideA, List.append_nil])
      d.globals.timer.slots d
    exact hquiet.right h hwide
  · rcases tickSlots_of_not_anyDue (millis w) callHandler d.globals.timer.slots d
      hdue with ⟨_, k, hreads⟩
    rw [hreads, millis_iterate]

/-!
# The invariant
-/

def Pc.responding : Pc -> Bool
  | .respond _ | .flash _ | .gap _ | .trialEnd _ => true
  | _ => false

structure Noting (d : Device) : Prop where
  sampling : Sampling d.globals
  object : d.globals.currentObject = d.noted
  scanning : forall s j, d.pc = .scan s j -> 1 ≤ j
  earlier : forall b t, .observed b t ∈ d.trace ->
    t < d.globals.currentTrial ∨
      (d.pc.responding = true ∧ t ≤ d.globals.currentTrial)

theorem control_responding {pc pc' : Pc} (h : Control pc pc')
    (hpc : pc.responding = true) : pc'.responding = true := by
  cases h <;> first | rfl | cases hpc

theorem control_scanning {pc : Pc} {s : Nat} {j : Int}
    (h : Control pc (.scan s j)) (hpc : forall s j, pc = .scan s j -> 1 ≤ j) :
    1 ≤ j := by
  cases h with
  | targetStill => exact le_refl (1 : Int)
  | nextObject _ j =>
      have := hpc s j rfl
      omega

theorem StreamedExperiment.noting_entry (e : StreamedExperiment) :
    Noting e.toExperiment.entry where
  sampling :=
    { state := e.streaming
      counting := le_of_eq e.first.symm
      object_nonneg := le_of_eq e.noObject.symm
      object_le := by
        show e.globals.currentObject ≤ NOBJECTS
        rw [e.noObject]
        decide }
  object := e.noObject
  scanning := fun _ _ h => by cases h
  earlier := fun _ _ h => by cases h

theorem Noting.before {d : Device} (h : Noting d)
    (hpc : d.pc.responding = false) {b t : Int}
    (hmem : .observed b t ∈ d.trace) : t < d.globals.currentTrial := by
  rcases h.earlier b t hmem with hlt | ⟨hresponding, _⟩
  · exact hlt
  · rw [hpc] at hresponding
    cases hresponding

theorem tick_noting {w : World} {d : Device} (h : Noting d)
    (hpc : d.pc.responding = false) {pc : Pc}
    (hscan : forall s j, pc = .scan s j -> 1 ≤ j) :
    Noting { tick w d with pc := pc } := by
  have htick := tick_ticked w d
  rcases htick.trace with ⟨samples, htrace, hsamples⟩
  have hnoted : ({ tick w d with pc := pc } : Device).noted = d.noted := by
    refine @noted_of_trace d { tick w d with pc := pc } samples htrace ?_
    intro e he
    rw [hsamples e he]
    rfl
  constructor
  case sampling =>
    show Sampling (tick w d).globals
    rw [htick.globals]
    exact ⟨h.sampling.state, h.sampling.counting, h.sampling.object_nonneg,
      h.sampling.object_le⟩
  case object =>
    rw [hnoted, ← h.object]
    show (tick w d).globals.currentObject = _
    rw [htick.globals]
  case scanning => exact hscan
  case earlier =>
    intro b t hmem
    have hmem : Event.observed b t ∈ (tick w d).trace := hmem
    rw [htrace] at hmem
    rcases List.mem_append.mp hmem with hold | hnew
    · left
      show t < (tick w d).globals.currentTrial
      rw [htick.globals]
      exact h.before hpc hold
    · cases hsamples _ hnew

theorem observes_noting {d : Device} {object : Int} {outcome : Outcome}
    {reads : Nat} (h : Noting d) (hpc : d.pc.responding = false)
    (hlo : 1 ≤ object) (hhi : object ≤ NOBJECTS) :
    Noting
      { d with
        globals := { d.globals with currentObject := object }
        pc := .respond outcome
        reads := reads
        trace := d.trace ++ [.observed object d.globals.currentTrial] } where
  sampling :=
    { state := h.sampling.state
      counting := h.sampling.counting
      object_nonneg := Int.le_trans Int.one_nonneg hlo
      object_le := hhi }
  object := (noted_snoc rfl rfl).symm
  scanning := fun _ _ hscan => by cases hscan
  earlier := by
    intro b t hmem
    rcases List.mem_append.mp hmem with hold | hnew
    · exact Or.inl (h.before hpc hold)
    · cases List.mem_singleton.mp hnew
      exact Or.inr ⟨rfl, le_refl _⟩

theorem testMove_noting {w : World} {d d' : Device} (h : Noting d)
    (htarget : d.pc.inTrial = true ->
      exists b, d.globals.target = some b ∧ 1 ≤ b ∧ b ≤ NOBJECTS)
    (hmove : TestMove w d d') : Noting d' := by
  have hsampling := h.sampling
  cases hmove with
  | begins hpc _ =>
      refine ⟨hsampling, h.object.trans (Eq.symm ?_),
        fun _ _ => Pc.noConfusion, ?_⟩
      · exact noted_of_trace rfl (by simp [Event.noted?])
      · intro b t hmem
        exact Or.inl (h.before (by rw [hpc]; rfl) (by simpa using hmem))
  | returns hpc _ =>
      exact ⟨hsampling, h.object, fun _ _ => Pc.noConfusion,
        fun b t hmem => Or.inl (h.before (by rw [hpc]; rfl) hmem)⟩
  | openingTick hpc =>
      exact tick_noting h (by rw [hpc]; rfl) fun _ _ hscan => by cases hscan
  | passTick hpc =>
      exact tick_noting h (by rw [hpc]; rfl) fun _ _ hscan => by cases hscan
  | control hcontrol =>
      refine ⟨hsampling, h.object, ?_, ?_⟩
      · intro s j hscan
        simp only at hscan
        rw [hscan] at hcontrol
        exact control_scanning hcontrol h.scanning
      · intro b t hmem
        exact (h.earlier b t hmem).imp_right fun ⟨hpc, hle⟩ =>
          ⟨control_responding hcontrol hpc, hle⟩
  | observesTarget hpc hsome _ =>
      rcases htarget (by rw [hpc]; rfl) with ⟨b', hb', hlo, hhi⟩
      rw [hsome, Option.some.injEq] at hb'
      rw [← hb'] at hlo hhi
      exact observes_noting h (by rw [hpc]; rfl) hlo hhi
  | @observesOther s _ j hpc hj _ _ _ =>
      exact observes_noting h (by rw [hpc]; rfl) (h.scanning s j hpc) hj
  | clears hpc _ _ =>
      refine ⟨⟨hsampling.state, hsampling.counting, le_refl (0 : Int),
          show (0 : Int) ≤ NOBJECTS by decide⟩,
        ?_, ?_, ?_⟩
      · exact (noted_snoc rfl rfl).symm
      · intro s j hscan
        simp only [Pc.scan.injEq] at hscan
        rw [← hscan.right]
        decide
      · intro b t hmem
        exact Or.inl (h.before (by rw [hpc]; rfl) (by simpa using hmem))
  | finishes hpc =>
      have hcounting := hsampling.counting
      refine ⟨⟨hsampling.state, by simp only; omega, hsampling.object_nonneg,
          hsampling.object_le⟩, h.object.trans (Eq.symm ?_),
        fun _ _ => Pc.noConfusion, ?_⟩
      · exact noted_of_trace rfl (by simp [Event.noted?])
      · intro b t hmem
        left
        show t < d.globals.currentTrial + 1
        rcases h.earlier b t (by simpa using hmem) with hlt | ⟨_, hle⟩ <;> omega
  | fault hpc hnone =>
      rcases htarget hpc with ⟨b, hsome, _⟩
      rw [hnone] at hsome
      cases hsome

theorem StreamedExperiment.noting_after (e : StreamedExperiment) (w : World)
    (n : Nat) : Noting (e.after w n) := by
  induction n with
  | zero =>
      exact e.noting_entry
  | succ n ih =>
      rw [e.after_succ]
      cases htest : (e.after w n).pc.inTest with
      | false =>
          rw [testStep_of_not_inTest w htest]
          exact ih
      | true =>
          rcases e.within_after w n with ⟨outcomes, hwithin⟩
          exact testMove_noting ih (Experiment.within_target hwithin)
            (testStep_testMove w htest)

/-!
# Causes

What is left over in `_currentObject` comes from the entries of the table that
the wait loops have looked at.
-/

/-- The box whose entry a wait loop looks at in the next step. -/
def Device.looksAt (d : Device) : Option Int :=
  match d.pc with
  | .readTarget _ => d.globals.target
  | .scan _ j => if j ≤ NOBJECTS ∧ d.globals.target ≠ some j then some j else none
  | _ => none

/-- The wait loop finds a box moving, which ends the trial. -/
def EndsByMovement (w : World) (d : Device) : Prop :=
  exists b, d.looksAt = some b ∧ w.isMoving d.reads b = true

/-- The loop over the other boxes finds the last one still as well. In a trial for
the last box it does not look at it. -/
def EndsEmptyPass (w : World) (d : Device) : Prop :=
  (exists s, d.pc = .scan s NOBJECTS) ∧ d.looksAt = some NOBJECTS ∧
    w.isMoving d.reads NOBJECTS = false

/-- A trial has ended by a movement, and no pass without one has come to its end
since. -/
def LeftOver (e : Experiment) (w : World) (n : Nat) : Prop :=
  Since (fun m => EndsByMovement w (e.after w m))
    (fun m => EndsEmptyPass w (e.after w m)) n

theorem looksAt_scan {d : Device} {s : Nat} {b j : Int} (hpc : d.pc = .scan s j)
    (htarget : d.globals.target = some b) :
    d.looksAt = if j ≤ NOBJECTS ∧ j ≠ b then some j else none := by
  simp only [Device.looksAt, hpc, htarget, ne_eq, Option.some.injEq, eq_comm]

theorem noted_of_not_looking {w : World} {d : Device} (h : d.looksAt = none) :
    (testStep w d).noted = d.noted := by
  cases htest : d.pc.inTest with
  | false => rw [testStep_of_not_inTest w htest]
  | true =>
      have hmove := testStep_testMove w htest
      generalize testStep w d = d' at hmove
      cases hmove with
      | begins | finishes => exact noted_of_trace rfl (by simp [Event.noted?])
      | returns | control | fault => rfl
      | openingTick | passTick =>
          rcases (tick_ticked w d).trace with ⟨samples, htrace, hsamples⟩
          apply noted_of_trace htrace
          intro e he
          rw [hsamples e he]
          rfl
      | observesTarget hpc htarget =>
          simp only [Device.looksAt, hpc, htarget] at h
          cases h
      | observesOther hpc hj htarget hne =>
          rw [looksAt_scan hpc htarget, if_pos ⟨hj, hne⟩] at h
          cases h
      | clears hpc htarget hne =>
          rw [looksAt_scan hpc htarget, if_pos ⟨le_refl _, hne⟩] at h
          cases h

theorem endsByMovement_iff {w : World} {d : Device} {j : Int}
    (h : d.looksAt = some j) :
    EndsByMovement w d <-> w.isMoving d.reads j = true := by
  constructor
  · rintro ⟨b, hb, hmoving⟩
    rw [h, Option.some.injEq] at hb
    rw [hb]
    exact hmoving
  · exact fun hmoving => ⟨j, h, hmoving⟩

structure NotedStep (w : World) (d : Device) : Prop where
  moved : EndsByMovement w d -> (testStep w d).noted ≠ 0
  empty : ¬ EndsByMovement w d -> EndsEmptyPass w d -> (testStep w d).noted = 0
  same : ¬ EndsByMovement w d -> ¬ EndsEmptyPass w d ->
    (testStep w d).noted = d.noted

theorem readTarget_notedStep {w : World} {d : Device} {s : Nat} {b : Int}
    (hpc : d.pc = .readTarget s) (htarget : d.globals.target = some b)
    (hb : 1 ≤ b) : NotedStep w d := by
  have hlooks : d.looksAt = some b := by
    simp only [Device.looksAt, hpc, htarget]
  have hnot : ¬ EndsEmptyPass w d := by
    rintro ⟨⟨s', hscan⟩, _⟩
    rw [hpc] at hscan
    cases hscan
  have hstep := @endsByMovement_iff w d b hlooks
  constructor
  case moved =>
    intro hmoved
    simp only [testStep, hpc, Device.withTarget, htarget]
    rw [if_pos (hstep.mp hmoved), noted_snoc rfl rfl]
    omega
  case empty => exact fun _ h => absurd h hnot
  case same =>
    intro hstill _
    simp only [testStep, hpc, Device.withTarget, htarget]
    rw [if_neg (mt hstep.mpr hstill)]
    rfl

theorem scan_notedStep {w : World} {d : Device} {s : Nat} {b j : Int}
    (hpc : d.pc = .scan s j) (htarget : d.globals.target = some b) (hj : 1 ≤ j)
    (hle : j ≤ NOBJECTS) (hne : j ≠ b) : NotedStep w d := by
  have hlooks : d.looksAt = some j := by
    rw [looksAt_scan hpc htarget, if_pos ⟨hle, hne⟩]
  have hstep := @endsByMovement_iff w d j hlooks
  have hscan : testStep w d = scanStep w s j d := by
    simp only [testStep, hpc]
  simp only [scanStep, Device.withTarget, htarget] at hscan
  rw [if_pos hle, if_neg hne] at hscan
  constructor
  case moved =>
    intro hmoved
    rw [hscan, if_pos (hstep.mp hmoved), noted_snoc rfl rfl]
    omega
  case empty =>
    intro hstill hempty
    have hlast : j = NOBJECTS := by
      rw [EndsEmptyPass, hlooks] at hempty
      exact Option.some.inj hempty.right.left
    rw [hscan, if_neg (mt hstep.mpr hstill), if_pos hlast, noted_snoc rfl rfl]
  case same =>
    intro hstill hnot
    have hearlier : j ≠ NOBJECTS := by
      rintro rfl
      exact hnot ⟨⟨s, hpc⟩, hlooks, eq_false_of_ne_true (mt hstep.mpr hstill)⟩
    rw [hscan, if_neg (mt hstep.mpr hstill), if_neg hearlier]
    rfl

theorem noted_step {w : World} {d : Device} (h : Noting d)
    (htarget : d.pc.inTrial = true ->
      exists b, d.globals.target = some b ∧ 1 ≤ b ∧ b ≤ NOBJECTS) :
    NotedStep w d := by
  have hnone : d.looksAt = none -> NotedStep w d := by
    intro hlooks
    refine ⟨?_, ?_, fun _ _ => noted_of_not_looking hlooks⟩
    · rintro ⟨b, hb, _⟩
      rw [hlooks] at hb
      cases hb
    · rintro _ ⟨_, hlast, _⟩
      rw [hlooks] at hlast
      cases hlast
  cases hpc : d.pc with
  | readTarget s =>
      rcases htarget (by rw [hpc]; rfl) with ⟨b, hb, hlo, _⟩
      exact readTarget_notedStep hpc hb hlo
  | scan s j =>
      rcases htarget (by rw [hpc]; rfl) with ⟨b, hb, _⟩
      by_cases hlooks : j ≤ NOBJECTS ∧ j ≠ b
      · exact scan_notedStep hpc hb (h.scanning s j hpc) hlooks.left hlooks.right
      · exact hnone (by rw [looksAt_scan hpc hb, if_neg hlooks])
  | _ => exact hnone (by simp only [Device.looksAt, hpc])

theorem noted_ne_zero_iff (e : StreamedExperiment) (w : World) (n : Nat) :
    (e.after w n).noted ≠ 0 <-> LeftOver e.toExperiment w n := by
  have hstep : forall n, NotedStep w (e.after w n) := by
    intro n
    rcases e.within_after w n with ⟨outcomes, hwithin⟩
    exact noted_step (e.noting_after w n) (Experiment.within_target hwithin)
  apply since_of_changes (r := fun n => (e.after w n).noted ≠ 0)
  case hzero => exact fun h => h rfl
  case hbegins =>
    intro n hmoved
    rw [e.after_succ]
    exact (hstep n).moved hmoved
  case hends =>
    intro n hstill hempty hne
    rw [e.after_succ] at hne
    exact hne ((hstep n).empty hstill hempty)
  case hkeeps =>
    intro n hstill hnot
    rw [e.after_succ, (hstep n).same hstill hnot]

theorem testStep_trace {w : World} {d : Device} (h : Noting d)
    (hobject : Samples w d -> d.noted = 0) :
    exists events, (testStep w d).trace = d.trace ++ events ∧
      forall b t, .sampled b t ∈ events -> b = 0 := by
  have hticks : forall {s : Nat}, d.pc = .trialTick s ∨ d.pc = .passTick s ->
      exists events, (tick w d).trace = d.trace ++ events ∧
        forall b t, .sampled b t ∈ events -> b = 0 := by
    intro s hpc
    by_cases hdue : anyDue (millis w) d.globals.timer.slots d ∧
        toULong d.globals.currentTrial < 65536
    · rcases (tick_ticked w d).trace with ⟨samples, htrace, hsamples⟩
      refine ⟨samples, htrace, ?_⟩
      intro b t hmem
      cases hsamples _ hmem
      rw [h.object]
      exact hobject ⟨⟨s, hpc⟩, hdue⟩
    · exact ⟨[], by rw [tick_trace_of_not_due w h.sampling hdue,
        List.append_nil], by simp⟩
  cases htest : d.pc.inTest with
  | false =>
      rw [testStep_of_not_inTest w htest]
      exact ⟨[], by simp, by simp⟩
  | true =>
      have hmove := testStep_testMove w htest
      generalize testStep w d = d' at hmove
      cases hmove with
      | openingTick hpc => exact hticks (Or.inl hpc)
      | passTick hpc => exact hticks (Or.inr hpc)
      | begins | observesTarget | observesOther | clears | finishes =>
          exact ⟨_, rfl, by simp⟩
      | returns | control | fault =>
          exact ⟨[], by simp, by simp⟩

theorem attributed_iff_not_leftOver (e : StreamedExperiment) (w : World) :
    (forall n, Attributed (e.after w n).trace) <->
      forall n, Samples w (e.after w n) -> ¬ LeftOver e.toExperiment w n := by
  constructor
  · intro h n hsamples hleft
    have hnoted := (noted_ne_zero_iff e w n).mpr hleft
    have hnoting := e.noting_after w n
    rcases hsamples with ⟨⟨s, hpc⟩, hdue, hfits⟩
    rcases tick_trace_of_due w hnoting.sampling hdue hfits with ⟨more, htrace⟩
    have hnext : (e.after w (n + 1)).trace = (tick w (e.after w n)).trace := by
      rw [e.after_succ]
      rcases hpc with hpc | hpc <;> simp only [testStep, hpc]
    have hattributed := h (n + 1)
    rw [hnext, htrace] at hattributed
    have hmem := hattributed _ _ _ more rfl (by rw [hnoting.object]; exact hnoted)
    have hlt := hnoting.before (by rcases hpc with hpc | hpc <;> rw [hpc] <;> rfl)
      hmem
    omega
  · intro h n
    induction n with
    | zero =>
        intro before b t after hsplit
        simp [Experiment.after, Experiment.entry] at hsplit
    | succ n ih =>
        have hobject : Samples w (e.after w n) -> (e.after w n).noted = 0 := by
          intro hsamples
          by_contra hnoted
          exact h n hsamples ((noted_ne_zero_iff e w n).mp hnoted)
        rw [e.after_succ]
        rcases testStep_trace (e.noting_after w n) hobject with
          ⟨events, htrace, hevents⟩
        rw [htrace]
        exact attributed_append ih hevents

/-!
# Inputs that do no harm
-/

/-- A single trial, boxes that are never moved, or tasks that never become due. -/
def Harmless (e : Experiment) (w : World) : Prop :=
  e.globals.numberOfTrials = 1 ∨
    (forall k b, 1 ≤ b -> b ≤ NOBJECTS -> w.isMoving k b = false) ∨
    (forall d, ¬ anyDue (millis w) e.globals.timer.slots d)

theorem testStep_extends (w : World) (d : Device) :
    d.trace <+: (testStep w d).trace := by
  cases htest : d.pc.inTest with
  | false => rw [testStep_of_not_inTest w htest]
  | true =>
      have hmove := testStep_testMove w htest
      generalize testStep w d = d' at hmove
      cases hmove with
      | begins | observesTarget | observesOther | clears | finishes =>
          exact List.prefix_append _ _
      | returns | control | fault => exact List.prefix_rfl
      | openingTick | passTick =>
          rcases (tick_ticked w d).trace with ⟨samples, htrace, _⟩
          exact ⟨samples, htrace.symm⟩

theorem Experiment.trace_extends (e : Experiment) (w : World) {m n : Nat}
    (h : m ≤ n) : (e.after w m).trace <+: (e.after w n).trace := by
  induction n, h using Nat.le_induction with
  | base => exact List.prefix_rfl
  | succ n _ ih =>
      rw [e.after_succ]
      exact ih.trans (testStep_extends w _)

theorem observed_of_endsByMovement {w : World} {d : Device} {target : Int}
    (htarget : d.globals.target = some target) (h : EndsByMovement w d) :
    exists b, .observed b d.globals.currentTrial ∈ (testStep w d).trace := by
  rcases h with ⟨b, hlooks, hmoving⟩
  refine ⟨b, ?_⟩
  cases hpc : d.pc with
  | readTarget s =>
      simp only [Device.looksAt, hpc] at hlooks
      simp only [testStep, hpc, Device.withTarget, hlooks]
      rw [if_pos hmoving]
      exact List.mem_append_right _ (List.mem_singleton_self _)
  | scan s j =>
      rw [looksAt_scan hpc htarget] at hlooks
      split at hlooks
      · rename_i hj
        cases hlooks
        simp only [testStep, hpc, scanStep, Device.withTarget, htarget]
        rw [if_pos hj.left, if_neg hj.right, if_pos hmoving]
        exact List.mem_append_right _ (List.mem_singleton_self _)
      · cases hlooks
  | _ =>
      simp only [Device.looksAt, hpc] at hlooks
      cases hlooks

theorem looksAt_object {d : Device} {b : Int} (h : Noting d)
    (htarget : d.pc.inTrial = true ->
      exists b, d.globals.target = some b ∧ 1 ≤ b ∧ b ≤ NOBJECTS)
    (hlooks : d.looksAt = some b) :
    d.pc.inTrial = true ∧ 1 ≤ b ∧ b ≤ NOBJECTS := by
  cases hpc : d.pc with
  | readTarget s =>
      rcases htarget (by rw [hpc]; rfl) with ⟨target, hsome, hrange⟩
      simp only [Device.looksAt, hpc, hsome, Option.some.injEq] at hlooks
      exact ⟨rfl, hlooks ▸ hrange⟩
  | scan s j =>
      rcases htarget (by rw [hpc]; rfl) with ⟨target, hsome, _⟩
      rw [looksAt_scan hpc hsome] at hlooks
      split at hlooks
      · rename_i hj
        cases hlooks
        exact ⟨rfl, h.scanning s b hpc, hj.left⟩
      · cases hlooks
  | _ =>
      simp only [Device.looksAt, hpc] at hlooks
      cases hlooks

theorem not_leftOver_of_last (e : StreamedExperiment) (w : World)
    (hlast : forall n, EndsByMovement w (e.after w n) ->
      (e.after w n).globals.currentTrial = e.globals.numberOfTrials)
    {n : Nat} (hsamples : Samples w (e.after w n)) :
    ¬ LeftOver e.toExperiment w n := by
  rintro ⟨m, hmn, hmoved, _⟩
  rcases e.within_after w m with ⟨_, hwithin⟩
  rcases hmoved with ⟨b, hlooks, hmoving⟩
  have hlooking := looksAt_object (e.noting_after w m)
    (Experiment.within_target hwithin) hlooks
  rcases Experiment.within_target hwithin hlooking.left with ⟨target, htarget, _⟩
  rcases observed_of_endsByMovement htarget ⟨b, hlooks, hmoving⟩ with ⟨b', hmem⟩
  rw [← e.after_succ, hlast m ⟨b, hlooks, hmoving⟩] at hmem
  have hlater := (e.trace_extends w (Nat.succ_le_of_lt hmn)).subset hmem
  rcases hsamples with ⟨⟨s, hpc⟩, _⟩
  have hbefore := (e.noting_after w n).before
    (by rcases hpc with hpc | hpc <;> rw [hpc] <;> rfl) hlater
  rcases e.within_after w n with ⟨_, hwithin'⟩
  have hbounded := hwithin'.bounded
    (by rcases hpc with hpc | hpc <;> rw [hpc] <;> rfl)
  omega

theorem testStep_slots {w : World} {d : Device}
    (h : ¬ anyDue (millis w) d.globals.timer.slots d) :
    (testStep w d).globals.timer.slots = d.globals.timer.slots := by
  have htick := (tickSlots_of_not_anyDue (millis w) callHandler
    d.globals.timer.slots d h).left
  cases htest : d.pc.inTest with
  | false => rw [testStep_of_not_inTest w htest]
  | true =>
      have hmove := testStep_testMove w htest
      generalize testStep w d = d' at hmove
      cases hmove with
      | openingTick | passTick => exact htick
      | _ => rfl

theorem not_samples_of_not_due (e : StreamedExperiment) (w : World)
    (h : forall d, ¬ anyDue (millis w) e.globals.timer.slots d) (n : Nat) :
    ¬ Samples w (e.after w n) := by
  have hslots : (e.after w n).globals.timer.slots = e.globals.timer.slots := by
    induction n with
    | zero => rfl
    | succ n ih =>
        rw [e.after_succ, testStep_slots, ih]
        rw [ih]
        exact h _
  rintro ⟨_, hdue, _⟩
  rw [hslots] at hdue
  exact h _ hdue

theorem attributed_of_harmless (e : StreamedExperiment) (w : World)
    (h : Harmless e.toExperiment w) (n : Nat) : Attributed (e.after w n).trace := by
  apply (attributed_iff_not_leftOver e w).mpr
  intro n hsamples
  have hmoving : forall n, EndsByMovement w (e.after w n) ->
      exists b, (e.after w n).pc.inTrial = true ∧ 1 ≤ b ∧ b ≤ NOBJECTS ∧
        w.isMoving (e.after w n).reads b = true := by
    rintro n ⟨b, hlooks, hmoving⟩
    rcases e.within_after w n with ⟨_, hwithin⟩
    rcases looksAt_object (e.noting_after w n) (Experiment.within_target hwithin)
      hlooks with ⟨htrial, hlo, hhi⟩
    exact ⟨b, htrial, hlo, hhi, hmoving⟩
  rcases h with hone | hstill | hdue
  · apply not_leftOver_of_last e w _ hsamples
    intro n hmoved
    rcases hmoving n hmoved with ⟨_, htrial, _⟩
    rcases e.within_after w n with ⟨_, hwithin⟩
    have hcounting := (e.noting_after w n).sampling.counting
    have hbounded := hwithin.bounded htrial
    omega
  · apply not_leftOver_of_last e w _ hsamples
    intro n hmoved
    rcases hmoving n hmoved with ⟨b, _, hlo, hhi, htrue⟩
    rw [hstill _ b hlo hhi] at htrue
    cases htrue
  · exact absurd hsamples (not_samples_of_not_due e w hdue n)

/-- The samples of an experiment are attributed exactly when no tick of
`TestSequence` finds a task due after a trial that ended by a movement and before
the next pass without one.  So they are with a single trial, without movements and
without due tasks. -/
theorem attributed_iff (e : StreamedExperiment) (w : World) :
    ((forall n, Attributed (e.after w n).trace) <->
      forall n, Samples w (e.after w n) -> ¬ LeftOver e.toExperiment w n) ∧
    (Harmless e.toExperiment w -> forall n, Attributed (e.after w n).trace) :=
  ⟨attributed_iff_not_leftOver e w, attributed_of_harmless e w⟩

/-- Board 1 moves all the time.  The first trial observes it, and the tick that
opens the second trial reports it for that one. -/
theorem not_attributed_twoTrials :
    ¬ forall (e : StreamedExperiment) (w : World) (n : Nat),
      Attributed (e.after w n).trace := by
  intro h
  have htrace : (twoTrials.after
      (World.scripted [] (fun n => 20 * n) (fun _ _ => Nat.mul_le_mul_left 20)
        (fun _ object => object = 1)) 9).trace =
      [.began 1, .sampled 0 1, .observed 1 1, .finished 1 .correct, .began 2] ++
        .sampled 1 2 :: [] := by
    decide +kernel
  have hmem := h { twoTrials with streaming := rfl, noObject := rfl }
    (World.scripted [] (fun n => 20 * n) (fun _ _ => Nat.mul_le_mul_left 20)
      (fun _ object => object = 1)) 9 _ 1 2 [] htrace (by decide)
  revert hmem
  decide

end Receiver
end BoxTrials
