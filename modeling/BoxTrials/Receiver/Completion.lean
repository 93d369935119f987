import BoxTrials.Foundation.Eventually
import BoxTrials.Receiver.Experiments

/-!
# Experiments run to their end

`TestSequence` waits for a board or for the clock.  The clock is read once in
every pass of the wait loop, so a trial ends when the clock shows its deadline
as passed for as long as a pass takes.
-/

namespace BoxTrials
namespace Receiver

open Foundation
open Libraries.ArduinoTimer

def passReads : Nat :=
  1 + 11 + maxTasks

def elapsed (w : World) (n k : Nat) : Nat :=
  (w.time k - w.time n) % wordModulus

/-- For every trial that begins there is a time after which the clock shows, for
as long as a pass takes, that the timeout has passed. -/
def Experiment.PassesDeadlines (e : Experiment) (w : World) : Prop :=
  forall i, Begins (e.after w i) ->
    exists m, (e.after w i).reads ≤ m ∧
      forall k, m ≤ k -> k < m + passReads ->
        e.globals.timeoutMs ≤ elapsed w (e.after w i).reads k

/-!
# Clocks that pass deadlines
-/

theorem elapsed_of_small {w : World} (hsmall : forall k, w.time k < wordModulus)
    (n k : Nat) : elapsed w n k = w.time k - w.time n := by
  have := hsmall k
  exact Nat.mod_eq_of_lt (by omega)

theorem passesDeadlines_of_small {e : Experiment} {w : World}
    (hsmall : forall k, w.time k < wordModulus)
    (hpasses : forall i, Begins (e.after w i) ->
      exists m, (e.after w i).reads ≤ m ∧
        (w.time (e.after w i).reads : Int) + e.globals.timeoutMs ≤ w.time m) :
    e.PassesDeadlines w := by
  intro i hbegins
  rcases hpasses i hbegins with ⟨m, hm, hdeadline⟩
  refine ⟨m, hm, ?_⟩
  intro k hk _
  have hmono := w.time_mono hk
  have htimeout := e.timeout_pos
  rw [elapsed_of_small hsmall]
  omega

/-- A clock that runs on and on, and that no pass of the wait loop takes too far,
passes every deadline in spite of wrapping. -/
theorem passesDeadlines_of_unbounded {e : Experiment} {w : World}
    (hunbounded : forall t, exists k, t ≤ w.time k)
    (hgap : forall k, (w.time (k + passReads) : Int) + e.globals.timeoutMs ≤
      w.time k + wordModulus) : e.PassesDeadlines w := by
  intro i _
  have htimeout := e.timeout_pos
  generalize hn : (e.after w i).reads = n
  have hpassed : exists k,
      (w.time n : Int) + e.globals.timeoutMs ≤ w.time k := by
    rcases hunbounded (w.time n + e.globals.timeoutMs.toNat) with ⟨k, hk⟩
    exact ⟨k, by omega⟩
  -- The first read that shows the deadline as passed.
  obtain ⟨m, hm, hbefore⟩ : exists m,
      ((w.time n : Int) + e.globals.timeoutMs ≤ w.time m) ∧
      forall k, k < m ->
        ¬ ((w.time n : Int) + e.globals.timeoutMs ≤ w.time k) :=
    ⟨Nat.find hpassed, Nat.find_spec hpassed, fun k => Nat.find_min hpassed⟩
  have hnm : n < m := by
    by_contra hle
    have := w.time_mono (Nat.le_of_not_lt hle)
    omega
  refine ⟨m, Nat.le_of_lt hnm, ?_⟩
  intro k hmk hk
  have hlast := hbefore (m - 1) (by omega)
  have hclose := hgap (m - 1)
  have hlow := w.time_mono hmk
  have hhigh : w.time k ≤ w.time (m - 1 + passReads) :=
    w.time_mono (by omega)
  have hsmall : w.time k - w.time n < wordModulus := by omega
  rw [elapsed, Nat.mod_eq_of_lt hsmall]
  omega

/-!
# One trial
-/

def Experiment.Reached (e : Experiment) (w : World) (d : Device) : Prop :=
  exists i, d = e.after w i

theorem Experiment.reached_step {e : Experiment} {w : World} (d : Device)
    (h : e.Reached w d) : e.Reached w (testStep w d) := by
  rcases h with ⟨i, rfl⟩
  exact ⟨i + 1, (e.after_succ w i).symm⟩

theorem Experiment.reached_within {e : Experiment} {w : World} {d : Device}
    (h : e.Reached w d) : exists outcomes, e.Within d outcomes := by
  rcases h with ⟨i, rfl⟩
  exact e.within_after w i

structure Waiting (w : World) (n : Nat) (t : Int) (d : Device) : Prop where
  pc : d.pc = .waitHead (w.time n % wordModulus)
  trial : d.globals.currentTrial = t
  reads : n ≤ d.reads

def Responding (t : Int) (d : Device) : Prop :=
  (exists outcome, d.pc = .respond outcome) ∧ d.globals.currentTrial = t

theorem scanStep_next (w : World) {s : Nat} {b j : Int} {d : Device}
    (hj : j ≤ NOBJECTS) (htarget : d.globals.target = some b) :
    (scanStep w s j d).globals.currentTrial = d.globals.currentTrial ∧
      ((scanStep w s j d).pc = .respond .wrongBox ∨
        ((scanStep w s j d).pc = .scan s (j + 1) ∧
          (scanStep w s j d).globals.target = some b ∧
          (scanStep w s j d).reads = d.reads + (if j = b then 0 else 1))) := by
  simp only [scanStep, Device.withTarget, htarget]
  rw [if_pos hj]
  split
  · exact ⟨rfl, Or.inr ⟨rfl, htarget, rfl⟩⟩
  split
  · exact ⟨rfl, Or.inl rfl⟩
  split
  · exact ⟨rfl, Or.inr ⟨rfl, htarget, rfl⟩⟩
  · exact ⟨rfl, Or.inr ⟨rfl, htarget, rfl⟩⟩

theorem scan_ends (w : World) {s : Nat} {b : Int} (hb : b ≤ NOBJECTS)
    (left : Nat) {d : Device} {j : Int} (hleft : (left : Int) + j = NOBJECTS + 1)
    (hpc : d.pc = .scan s j) (htarget : d.globals.target = some b) :
    Eventually (testStep w)
      (fun d' => d'.globals.currentTrial = d.globals.currentTrial ∧
        ((exists outcome, d'.pc = .respond outcome) ∨
          (d'.pc = .passTick s ∧ d.reads ≤ d'.reads ∧
            d'.reads ≤ d.reads + (left - if j ≤ b then 1 else 0)))) d := by
  simp only [NOBJECTS] at hb hleft
  induction left generalizing d j with
  | zero =>
      apply eventually_next
      apply eventually_now
      simp only [testStep, hpc, scanStep]
      rw [if_neg (by simp only [NOBJECTS]; omega)]
      exact ⟨rfl, Or.inr ⟨rfl, Nat.le_refl _, Nat.le_add_right _ _⟩⟩
  | succ left ih =>
      apply eventually_next
      have hstep : testStep w d = scanStep w s j d := by
        simp only [testStep, hpc]
      rw [hstep]
      rcases scanStep_next w (s := s) (j := j)
        (by simp only [NOBJECTS]; omega) htarget with ⟨htrial, hnext⟩
      rcases hnext with hrespond | ⟨hpc', htarget', hreads⟩
      · exact eventually_now ⟨htrial, Or.inl ⟨.wrongBox, hrespond⟩⟩
      · refine eventually_mono (ih (by push_cast at hleft; omega) hpc' htarget') ?_
        intro d' hdone
        rcases hdone with ⟨htrial', hend⟩
        refine ⟨htrial'.trans htrial, hend.imp_right ?_⟩
        intro hpassed
        rcases hpassed with ⟨hpass, hlow, hhigh⟩
        rw [hreads] at hlow hhigh
        refine ⟨hpass, by omega, ?_⟩
        split_ifs at hhigh ⊢ <;> omega

theorem pass_ends {w : World} {n : Nat} {t b : Int} {d : Device}
    (h : Waiting w n t d) (htarget : d.globals.target = some b)
    (hb : 1 ≤ b ∧ b ≤ NOBJECTS) :
    Eventually (testStep w)
      (fun d' => Responding t d' ∨
        (Waiting w n t d' ∧ d.reads < d'.reads ∧
          d'.reads ≤ d.reads + passReads)) d := by
  have hpc := h.pc
  apply eventually_next
  simp only [testStep, hpc, millis]
  split
  · -- The deadline is not passed; the target is looked at.
    apply eventually_next
    simp only [testStep, Device.withTarget, htarget]
    split
    · exact eventually_now (Or.inl ⟨⟨.correct, rfl⟩, h.trial⟩)
    · have hscan := scan_ends w hb.right 11
        (d := { d with pc := .scan (w.time n % wordModulus) 1,
                       reads := d.reads + 1 + 1 })
        (j := 1) (by decide) rfl htarget
      apply eventually_trans hscan
      intro d' hdone
      rcases hdone with ⟨htrial, hrespond | ⟨hpass, hlow, hhigh⟩⟩
      · exact eventually_now (Or.inl ⟨hrespond, htrial.trans h.trial⟩)
      · apply eventually_next
        apply eventually_now
        have hreads := tick_reads_le w d'
        have hmono := (tick_ticked w d').reads
        have hn := h.reads
        rw [if_pos hb.left] at hhigh
        simp only at hlow hhigh
        simp only [testStep, hpass]
        right
        refine ⟨⟨rfl, ?_, ?_⟩, ?_, ?_⟩
        · show (tick w d').globals.currentTrial = t
          rw [tick_currentTrial]
          exact htrial.trans h.trial
        · show n ≤ (tick w d').reads
          omega
        · show d.reads < (tick w d').reads
          omega
        · show (tick w d').reads ≤ d.reads + (1 + 11 + maxTasks)
          omega
  · exact eventually_now (Or.inl ⟨⟨.timeout, rfl⟩, h.trial⟩)

theorem deadline_ends {w : World} {n : Nat} {t : Int} {d : Device}
    (h : Waiting w n t d) (hpos : 0 < d.globals.timeoutMs)
    (hint : d.globals.timeoutMs < 2147483648)
    (hpassed : d.globals.timeoutMs ≤ elapsed w n d.reads) :
    Responding t (testStep w d) := by
  have hshown : ulongSub (w.time d.reads % wordModulus)
      (w.time n % wordModulus) = elapsed w n d.reads :=
    ulongSub_mod (w.time_mono h.reads)
  have hlimit : (toULong d.globals.timeoutMs : Int) = d.globals.timeoutMs :=
    toULong_cast (le_of_lt hpos) (by rw [wordModulus]; omega)
  simp only [testStep, h.pc, millis]
  rw [hshown, if_neg (by omega)]
  exact ⟨⟨.timeout, rfl⟩, h.trial⟩

theorem Experiment.reached_target {e : Experiment} {w : World} {d : Device}
    (h : e.Reached w d) (hpc : d.pc.inTrial = true) :
    exists b, d.globals.target = some b ∧ 1 ≤ b ∧ b ≤ NOBJECTS := by
  rcases Experiment.reached_within h with ⟨outcomes, hwithin⟩
  exact Experiment.within_target hwithin hpc

theorem wait_ends {e : Experiment} {w : World} {n m : Nat} {t : Int}
    (hpassed : forall k, m ≤ k -> k < m + passReads ->
      e.globals.timeoutMs ≤ elapsed w n k) {d : Device} (hd : e.Reached w d)
    (h : Waiting w n t d) (hreads : d.reads < m + passReads) :
    Eventually (testStep w) (Responding t) d := by
  refine eventually_of_variant
    (fun d => (e.Reached w d ∧ Waiting w n t d) ∧ d.reads < m + passReads)
    (fun d => m + passReads - d.reads) ?_ ⟨⟨hd, h⟩, hreads⟩
  intro d hstate
  rcases hstate with ⟨⟨hd, h⟩, hreads⟩
  have hin : d.pc.inTrial = true := by rw [h.pc]; rfl
  rcases Experiment.reached_target hd hin with ⟨b, htarget, hb⟩
  rcases Nat.lt_or_ge d.reads m with hbefore | hafter
  · refine eventually_mono (eventually_with_invariant
      Experiment.reached_step hd (pass_ends h htarget hb)) ?_
    intro d' hdone
    rcases hdone with ⟨hrespond | ⟨hwait, hlow, hhigh⟩, hd'⟩
    · exact Or.inl hrespond
    · exact Or.inr ⟨⟨⟨hd', hwait⟩, by omega⟩, by omega⟩
  · have htimeout : d.globals.timeoutMs = e.globals.timeoutMs := by
      rcases Experiment.reached_within hd with ⟨_, hwithin⟩
      exact congrArg Configuration.timeoutMs hwithin.configuration
    apply eventually_next
    apply eventually_now
    refine Or.inl (deadline_ends h ?_ ?_ ?_)
    · rw [htimeout]
      exact e.timeout_pos
    · rw [htimeout]
      exact e.timeout_int
    · rw [htimeout]
      exact hpassed d.reads hafter hreads

theorem flashes_end (w : World) {b : Int} (left : Nat) {d : Device} {j : Nat}
    (hleft : left + j = 5) (hpc : d.pc = .flash j)
    (htarget : d.globals.target = some b) :
    Eventually (testStep w)
      (fun d' => d'.pc = .trialEnd .wrongBox ∧ d'.globals = d.globals) d := by
  induction left generalizing d j with
  | zero =>
      apply eventually_next
      apply eventually_now
      simp only [testStep, hpc]
      rw [if_neg (by omega)]
      exact ⟨rfl, rfl⟩
  | succ left ih =>
      rcases light_of_target htarget moveMeWrong (.gap j) with
        ⟨hgap, hglobals, _⟩
      have hlit : testStep w d = d.light moveMeWrong (.gap j) := by
        simp only [testStep, hpc]
        rw [if_pos (by omega)]
      apply eventually_next
      rw [hlit]
      apply eventually_next
      have hdark : testStep w (d.light moveMeWrong (.gap j)) =
          { d.light moveMeWrong (.gap j) with
            pins := rgbReset (d.light moveMeWrong (.gap j)).pins
            pc := .flash (j + 1) } := by
        simp only [testStep, hgap]
      rw [hdark]
      refine eventually_mono (ih (by omega) rfl ?_) ?_
      · show (d.light moveMeWrong (.gap j)).globals.target = some b
        rw [hglobals, htarget]
      · intro d' hdone
        rcases hdone with ⟨hend, hsame⟩
        exact ⟨hend, hsame.trans hglobals⟩

theorem response_ends {w : World} {t b : Int} {d : Device}
    (h : Responding t d) (htarget : d.globals.target = some b) :
    Eventually (testStep w)
      (fun d' => d'.pc = .trialHead ∧ d'.globals.currentTrial = t + 1) d := by
  have hend : Eventually (testStep w)
      (fun d' => (exists outcome, d'.pc = .trialEnd outcome) ∧
        d'.globals = d.globals) d := by
    rcases h.left with ⟨outcome, hpc⟩
    apply eventually_next
    cases outcome with
    | correct =>
        rcases light_of_target htarget moveMeCorrect (.trialEnd .correct) with
          ⟨hpc', hglobals, _⟩
        apply eventually_now
        simp only [testStep, hpc]
        exact ⟨⟨.correct, hpc'⟩, hglobals⟩
    | timeout =>
        rcases light_of_target htarget moveMeWrong (.trialEnd .timeout) with
          ⟨hpc', hglobals, _⟩
        apply eventually_now
        simp only [testStep, hpc]
        exact ⟨⟨.timeout, hpc'⟩, hglobals⟩
    | wrongBox =>
        have hstep : testStep w d = { d with pc := .flash 0 } := by
          simp only [testStep, hpc]
        rw [hstep]
        refine eventually_mono
          (flashes_end w 5 (d := { d with pc := .flash 0 }) rfl rfl htarget) ?_
        intro d' hdone
        rcases hdone with ⟨hpc', hglobals⟩
        exact ⟨⟨.wrongBox, hpc'⟩, hglobals⟩
  apply eventually_trans hend
  intro d' hdone
  rcases hdone with ⟨⟨outcome, hpc⟩, hglobals⟩
  apply eventually_next
  apply eventually_now
  simp only [testStep, hpc]
  refine ⟨trivial, ?_⟩
  rw [hglobals, h.right]

theorem opening_ends {e : Experiment} {w : World} {d : Device}
    (hd : e.Reached w d) (hbegins : Begins d) :
    Eventually (testStep w)
      (fun d' => Waiting w d.reads d.globals.currentTrial d' ∧
        d'.reads ≤ d.reads + 1 + maxTasks) d := by
  have hbegin : testStep w d =
      { d with
        pc := .trialTick (w.time d.reads % wordModulus)
        reads := d.reads + 1
        trace := d.trace ++ [.began d.globals.currentTrial] } := by
    simp only [testStep, hbegins.left, millis]
    rw [if_pos hbegins.right]
    rfl
  have hd1 := Experiment.reached_step d hd
  apply eventually_next
  generalize hd' : testStep w d = d1 at hd1 hbegin ⊢
  have hpc1 : d1.pc = .trialTick (w.time d.reads % wordModulus) := by
    rw [hbegin]
  have htrial1 : d1.globals.currentTrial = d.globals.currentTrial := by
    rw [hbegin]
  have hreads1 : d1.reads = d.reads + 1 := by
    rw [hbegin]
  have hmono := (tick_ticked w d1).reads
  have hreads := tick_reads_le w d1
  have htrial2 := (tick_currentTrial w d1).trans htrial1
  have hopen : testStep w d1 =
      { tick w d1 with pc := .moveMe (w.time d.reads % wordModulus) } := by
    simp only [testStep, hpc1]
  have hd2 := Experiment.reached_step d1 hd1
  apply eventually_next
  rw [hopen] at hd2 ⊢
  rcases Experiment.reached_target hd2 rfl with ⟨b, htarget, _⟩
  rcases light_of_target htarget moveMe
    (.waitHead (w.time d.reads % wordModulus)) with ⟨hpc3, hglobals3, hreads3⟩
  apply eventually_next
  apply eventually_now
  simp only [testStep]
  refine ⟨⟨hpc3, ?_, ?_⟩, ?_⟩
  · rw [hglobals3]
    exact htrial2
  · rw [hreads3]
    show d.reads ≤ (tick w d1).reads
    omega
  · rw [hreads3]
    show (tick w d1).reads ≤ d.reads + 1 + maxTasks
    omega

/-!
# The whole experiment
-/

theorem trial_ends {e : Experiment} {w : World} (hclock : e.PassesDeadlines w)
    {d : Device} (hd : e.Reached w d) (hbegins : Begins d) :
    Eventually (testStep w)
      (fun d' => d'.pc = .trialHead ∧
        d'.globals.currentTrial = d.globals.currentTrial + 1) d := by
  rcases hd with ⟨i, rfl⟩
  rcases hclock i hbegins with ⟨m, hm, hpassed⟩
  have hd : e.Reached w (e.after w i) := ⟨i, rfl⟩
  have hwait := eventually_with_invariant Experiment.reached_step hd
    (opening_ends hd hbegins)
  apply eventually_trans hwait
  intro d1 hdone
  rcases hdone with ⟨⟨hwaiting, hreads⟩, hd1⟩
  -- The clock is read before a pass from `m` on is over.
  have hearly : d1.reads < m + passReads := by
    rw [passReads]
    omega
  have hrespond := eventually_with_invariant Experiment.reached_step hd1
    (wait_ends hpassed hd1 hwaiting hearly)
  apply eventually_trans hrespond
  intro d2 hdone
  rcases hdone with ⟨hresponding, hd2⟩
  have hin : d2.pc.inTrial = true := by
    rcases hresponding.left with ⟨outcome, hpc⟩
    rw [hpc]
    rfl
  rcases Experiment.reached_target hd2 hin with ⟨b, htarget, _⟩
  exact response_ends hresponding htarget

theorem experiment_returns {e : Experiment} {w : World}
    (hclock : e.PassesDeadlines w) :
    Eventually (testStep w) (fun d => d.pc = .returned) e.entry := by
  refine eventually_of_variant
    (fun d => e.Reached w d ∧ d.pc = .trialHead)
    (fun d => (e.globals.numberOfTrials + 1 - d.globals.currentTrial).toNat) ?_
    ⟨⟨0, rfl⟩, rfl⟩
  intro d hstate
  rcases hstate with ⟨hd, hpc⟩
  rcases Experiment.reached_within hd with ⟨outcomes, hwithin⟩
  have hnumber : d.globals.numberOfTrials = e.globals.numberOfTrials :=
    congrArg Configuration.numberOfTrials hwithin.configuration
  by_cases hle : d.globals.currentTrial ≤ d.globals.numberOfTrials
  · refine eventually_mono (eventually_with_invariant Experiment.reached_step hd
      (trial_ends hclock hd ⟨hpc, hle⟩)) ?_
    intro d' hdone
    rcases hdone with ⟨⟨hpc', htrial⟩, hd'⟩
    refine Or.inr ⟨⟨hd', hpc'⟩, ?_⟩
    omega
  · apply eventually_next
    apply eventually_now
    left
    simp only [testStep, hpc]
    rw [if_neg hle]

/-- An experiment comes to its end having run each of its trials once, in order
and with one outcome, and leaves the configuration; entering it again runs no
trial. -/
theorem experiment_completes (e : Experiment) (w : World)
    (hclock : e.PassesDeadlines w) :
    exists n outcomes,
      (e.after w n).pc = .returned ∧
      (outcomes.length : Int) = e.globals.numberOfTrials ∧
      (e.after w n).progress = rounds 1 outcomes ∧
      (e.after w n).globals.currentTrial = e.globals.numberOfTrials + 1 ∧
      (e.after w n).globals.configuration = e.globals.configuration ∧
      testStep w { e.after w n with pc := .trialHead } = e.after w n := by
  rcases experiment_returns hclock with ⟨n, hreturned⟩
  rcases e.within_after w n with ⟨outcomes, h⟩
  have hreturned : (e.after w n).pc = .returned := hreturned
  have hcomplete := h.complete hreturned
  have hcounter : (e.after w n).globals.currentTrial =
      e.globals.numberOfTrials + 1 := by
    rw [h.counter, hcomplete]
  have hnumber : (e.after w n).globals.numberOfTrials =
      e.globals.numberOfTrials :=
    congrArg Configuration.numberOfTrials h.configuration
  have hprogress := h.progress
  rw [hreturned] at hprogress
  refine ⟨n, outcomes, hreturned, hcomplete, ?_, hcounter, h.configuration, ?_⟩
  · rw [hprogress]
    exact List.append_nil _
  · simp only [testStep]
    rw [if_neg (by omega), ← hreturned]

/-- Two trials with boards that never move, on a clock that gains a millisecond
with every read. -/
theorem experiment_completes_twoTrials :
    exists (n : Nat) (outcomes : List Outcome),
      (twoTrials.after (World.scripted [] (fun n => n) monotone_id
        (fun _ _ => false)) n).pc = .returned ∧
      (outcomes.length : Int) = 2 ∧
      (twoTrials.after (World.scripted [] (fun n => n) monotone_id
        (fun _ _ => false)) n).progress = rounds 1 outcomes := by
  rcases experiment_completes twoTrials
    (World.scripted [] (fun n => n) monotone_id (fun _ _ => false))
    (passesDeadlines_of_unbounded (fun t => ⟨t, Nat.le_refl t⟩) (by
      intro k
      simp only [World.scripted, twoTrials, passReads, maxTasks, wordModulus]
      omega)) with ⟨n, outcomes, hreturned, hlength, hprogress, _⟩
  exact ⟨n, outcomes, hreturned, hlength, hprogress⟩

end Receiver
end BoxTrials
