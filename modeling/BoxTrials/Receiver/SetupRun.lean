import BoxTrials.Foundation.Eventually
import BoxTrials.Receiver.SystemSetup

/-!
# Runs of setup

`sensor_test` goes from board to board as they are moved, and shows on each
where it is.  Setup is over when the last board has moved, and not before.
-/

namespace BoxTrials
namespace Receiver

open Foundation
open Libraries
open Libraries.BusIO

/-!
# The order of the boards
-/

/-- The boards before `i` have moved in turn, the last one when the table was
looked at for the `r`-th time. -/
inductive Tested (w : World) : Int -> Nat -> Prop where
  | start : Tested w 1 0
  | moved {i : Int} {r m : Nat} (h : Tested w i r) (hle : r ≤ m)
      (hstill : forall k, r ≤ k -> k < m -> w.isMoving k i = false)
      (hmoving : w.isMoving m i = true) : Tested w (i + 1) (m + 1)

def Looked (x : SetupWorld) (s : Setup) : Prop :=
  match s.pc with
  | .radio | .expanders | .hung | .colors | .sensors => s.reads = 0
  | .board i => i ≤ 13 ∧ Tested x.world i s.reads
  | .wait i =>
      i ≤ 12 ∧ exists r, Tested x.world i r ∧ r ≤ s.reads ∧
        forall k, r ≤ k -> k < s.reads -> x.world.isMoving k i = false
  | .moved i | .reset i => i ≤ 12 ∧ Tested x.world (i + 1) s.reads
  | .done => (x.espNowInit ≠ 0 ∧ s.reads = 0) ∨ Tested x.world 13 s.reads

theorem setupStep_looked {x : SetupWorld} {s : Setup} (h : Looked x s) :
    Looked x (setupStep x s) := by
  unfold Looked at h
  cases hpc : s.pc with
  | radio =>
      simp only [hpc] at h
      simp only [setupStep, hpc]
      split
      · rename_i hinit
        exact Or.inl ⟨hinit, h⟩
      · exact h
  | expanders =>
      simp only [hpc] at h
      simp only [setupStep, hpc]
      cases (startExpanders x.wiring s.aws s.bus).1 <;> exact h
  | colors =>
      simp only [hpc] at h
      simp only [setupStep, hpc]
      split <;> exact h
  | sensors =>
      simp only [hpc] at h
      simp only [setupStep, hpc, Setup.light, Looked, h]
      exact ⟨by decide, .start⟩
  | board i =>
      simp only [hpc] at h
      simp only [setupStep, hpc]
      split
      · rename_i hle
        exact ⟨hle, s.reads, h.right, Nat.le_refl _,
          fun k hlo hhi => absurd hhi (Nat.not_lt.mpr hlo)⟩
      · rename_i hgt
        have hlast : i = 13 := by omega
        exact Or.inr (hlast ▸ h.right)
  | wait i =>
      simp only [hpc] at h
      rcases h with ⟨hle, r, htested, hr, hstill⟩
      simp only [setupStep, hpc]
      split
      · rename_i hmoving
        exact ⟨hle, .moved htested hr hstill hmoving⟩
      · rename_i hmoving
        -- The board has not moved yet, and this look is one more.
        refine ⟨hle, r, htested, Nat.le_succ_of_le hr, ?_⟩
        intro k hlo hhi
        rcases Nat.lt_succ_iff_lt_or_eq.mp hhi with hlt | heq
        · exact hstill k hlo hlt
        · rw [heq]
          exact eq_false_of_ne_true hmoving
  | moved i =>
      simp only [hpc] at h
      simp only [setupStep, hpc]
      exact h
  | reset i =>
      simp only [hpc] at h
      simp only [setupStep, hpc]
      exact ⟨by omega, h.right⟩
  | hung | done =>
      simp only [hpc] at h
      simp only [setupStep, hpc, Looked]
      exact h

theorem setupRun_looked (x : SetupWorld) (bus : Bus) (n : Nat) :
    Looked x (setupRun x bus n) :=
  setupRun_invariant (Looked x) rfl (fun _ => setupStep_looked) n

/-!
# The expanders during setup
-/

structure Failed (x : SetupWorld) (bus : Bus) (s : Setup) : Prop where
  radio : x.espNowInit ≠ 0
  aws : s.aws = Expanders.unset
  bus : s.bus = bus
  reads : s.reads = 0

structure Started (x : SetupWorld) (bus : Bus) (s : Setup) : Prop where
  radio : x.espNowInit = 0
  started : (startExpanders x.wiring Expanders.unset bus).1 = true
  aws : s.aws = (startExpanders x.wiring Expanders.unset bus).2.1

def Begun (x : SetupWorld) (bus : Bus) (s : Setup) : Prop :=
  match s.pc with
  | .radio => s.aws = Expanders.unset ∧ s.bus = bus ∧ s.reads = 0
  | .expanders => x.espNowInit = 0 ∧ s.aws = Expanders.unset ∧ s.bus = bus
  | .hung => x.espNowInit = 0
  | .done => Failed x bus s ∨ Started x bus s
  | _ => Started x bus s

theorem setupStep_begun {x : SetupWorld} {bus : Bus} {s : Setup}
    (h : Begun x bus s) : Begun x bus (setupStep x s) := by
  unfold Begun at h
  cases hpc : s.pc with
  | radio =>
      simp only [hpc] at h
      rcases h with ⟨haws, hbus, hreads⟩
      simp only [setupStep, hpc]
      split
      · rename_i hfailed
        exact Or.inl ⟨hfailed, haws, hbus, hreads⟩
      · rename_i hinit
        exact ⟨not_not.mp hinit, haws, hbus⟩
  | expanders =>
      simp only [hpc] at h
      rcases h with ⟨hinit, haws, hbus⟩
      simp only [setupStep, hpc, haws, hbus]
      cases hstarted : (startExpanders x.wiring Expanders.unset bus).1 with
      | false => exact hinit
      | true => exact ⟨hinit, hstarted, rfl⟩
  | colors =>
      simp only [hpc] at h
      simp only [setupStep, hpc]
      split
      · exact ⟨h.radio, h.started, h.aws⟩
      · exact h.radio
  | board i =>
      simp only [hpc] at h
      simp only [setupStep, hpc]
      split
      · exact ⟨h.radio, h.started, h.aws⟩
      · exact Or.inr ⟨h.radio, h.started, h.aws⟩
  | wait i =>
      simp only [hpc] at h
      simp only [setupStep, hpc]
      split <;> simp only [Begun] <;> exact ⟨h.radio, h.started, h.aws⟩
  | sensors | moved i | reset i =>
      simp only [hpc] at h
      simp only [setupStep, hpc]
      exact ⟨h.radio, h.started, h.aws⟩
  | hung | done =>
      simp only [hpc] at h
      simp only [setupStep, hpc, Begun]
      exact h

theorem setupRun_begun (x : SetupWorld) (bus : Bus) (n : Nat) :
    Begun x bus (setupRun x bus n) :=
  setupRun_invariant (Begun x bus) ⟨rfl, rfl, rfl⟩ (fun _ => setupStep_begun) n

/-!
# When setup is over
-/

theorem wait_still {x : SetupWorld} {i : Int} {r m : Nat} (hle : r ≤ m)
    (hstill : forall k, r ≤ k -> k < m -> x.world.isMoving k i = false)
    {s : Setup} (hpc : s.pc = .wait i) (hreads : s.reads = r) :
    Eventually (setupStep x) (fun t => t.pc = .wait i ∧ t.reads = m) s := by
  induction m, hle using Nat.le_induction with
  | base => exact eventually_now ⟨hpc, hreads⟩
  | succ m hle ih =>
      apply eventually_trans (ih fun k hlo hhi => hstill k hlo (Nat.lt_succ_of_lt hhi))
      intro t ht
      apply eventually_next
      apply eventually_now
      simp only [setupStep, ht.left, ht.right, hstill m hle (Nat.lt_succ_self m)]
      rw [if_neg Bool.false_ne_true]
      exact ⟨rfl, rfl⟩

theorem eventually_board {x : SetupWorld} {s : Setup} (hpc : s.pc = .sensors)
    (hreads : s.reads = 0) {i : Int} {r : Nat} (h : Tested x.world i r)
    (hi : i ≤ 13) :
    Eventually (setupStep x) (fun t => t.pc = .board i ∧ t.reads = r) s := by
  induction h with
  | start =>
      apply eventually_next
      apply eventually_now
      rw [setupStep, hpc]
      exact ⟨rfl, hreads⟩
  | @moved i r m _ hle hstill hmoving ih =>
      apply eventually_trans (ih (by omega))
      intro t ht
      have hboard : i ≤ 12 := by omega
      have hwait : (setupStep x t).pc = .wait i ∧ (setupStep x t).reads = r := by
        simp only [setupStep, ht.left, if_pos hboard]
        exact ⟨rfl, ht.right⟩
      apply eventually_next
      apply eventually_trans (wait_still hle hstill hwait.left hwait.right)
      intro u hu
      have hmoved : (setupStep x u).pc = .moved i ∧
          (setupStep x u).reads = m + 1 := by
        simp only [setupStep, hu.left, hu.right, hmoving]
        exact ⟨rfl, rfl⟩
      have hreset : (setupStep x (setupStep x u)).pc = .reset i ∧
          (setupStep x (setupStep x u)).reads = m + 1 := by
        rw [setupStep, hmoved.left]
        exact ⟨rfl, hmoved.right⟩
      have hnext : (setupStep x (setupStep x (setupStep x u))).pc = .board (i + 1) ∧
          (setupStep x (setupStep x (setupStep x u))).reads = m + 1 := by
        rw [setupStep, hreset.left]
        exact ⟨rfl, hreset.right⟩
      exact ⟨3, hnext⟩

theorem setupRun_sensors {x : SetupWorld} {bus : Bus} (hinit : x.espNowInit = 0)
    (hstarted : (startExpanders x.wiring Expanders.unset bus).1 = true) :
    (setupRun x bus 3).pc = .sensors ∧ (setupRun x bus 3).reads = 0 := by
  have hradio : setupRun x bus 1 =
      { Setup.start bus with pc := .expanders } := by
    rw [setupRun, Function.iterate_one, setupStep]
    simp only [Setup.start]
    rw [if_neg (not_not.mpr hinit)]
  have hexpanders : (setupRun x bus 2).pc = .colors ∧ (setupRun x bus 2).reads = 0 := by
    rw [setupRun_succ, hradio, setupStep]
    simp [Setup.start, hstarted]
  rcases rgbTest_calls 0 with ⟨calls, hcalls, _⟩
  rw [setupRun_succ, setupStep, hexpanders.left]
  simp only [hcalls]
  exact ⟨rfl, hexpanders.right⟩

/-- Setup is over, with so many looks at the table, exactly when the radio
failed, or the expanders were started and the boards have moved in turn. -/
theorem setup_returns_iff (x : SetupWorld) (bus : Bus) (r : Nat) :
    (exists n, (setupRun x bus n).pc = .done ∧ (setupRun x bus n).reads = r) <->
      if x.espNowInit = 0 then
        (startExpanders x.wiring Expanders.unset bus).1 = true ∧
          Tested x.world 13 r
      else
        r = 0 := by
  constructor
  · intro h
    rcases h with ⟨n, hdone, hreads⟩
    have hlooked := setupRun_looked x bus n
    have hbegun := setupRun_begun x bus n
    simp only [Looked, Begun, hdone] at hlooked hbegun
    rw [hreads] at hlooked
    rcases hbegun with hfailed | hstarted
    · rw [if_neg hfailed.radio, ← hreads, hfailed.reads]
    · rw [if_pos hstarted.radio]
      rcases hlooked with ⟨hfailed, _⟩ | htested
      · exact absurd hstarted.radio hfailed
      · exact ⟨hstarted.started, htested⟩
  · intro h
    split at h
    · rename_i hinit
      rcases h with ⟨hstarted, htested⟩
      have hsensors := setupRun_sensors hinit hstarted
      rcases eventually_board hsensors.left hsensors.right htested (by decide) with
        ⟨n, hboard, hreads⟩
      refine ⟨n + 3 + 1, ?_⟩
      rw [setupRun_succ, setupRun, Function.iterate_add_apply]
      rw [setupRun] at hboard hreads
      rw [setupStep, hboard]
      exact ⟨rfl, hreads⟩
    · rename_i hfailed
      refine ⟨1, ?_⟩
      rw [setupRun, Function.iterate_one, setupStep]
      simp only [Setup.start]
      rw [if_pos hfailed]
      exact ⟨rfl, h.symm⟩

/-!
# What setup shows
-/

/-- The levels of the pins at a place from `sensor_test` on: the board that is
waited for is blue, and green once it has moved. -/
def SetupPc.display : SetupPc -> Pins
  | .wait i | .moved i => lit i Color.pureBlue
  | .reset i => lit i Color.pureGreen
  | _ => Pins.dark

structure Showing (s : Setup) : Prop where
  aws : s.aws = Expanders.begun
  configured : Configured s.bus
  levels : Represents s.bus s.pc.display

def SetupShows (s : Setup) : Prop :=
  match s.pc with
  | .radio | .expanders => True
  | .hung => False
  | .colors => s.aws = Expanders.begun ∧ Configured s.bus
  | _ => Showing s

theorem light_showing {x : SetupWorld} (hgenuine : Genuine x.wiring) {s : Setup}
    {pins : Pins} (haws : s.aws = Expanders.begun) (hconfigured : Configured s.bus)
    (hlevels : Represents s.bus pins) (calls : List LedCall) {next : SetupPc}
    (hnext : calls.foldl (fun pins c => c.write pins) pins = next.display) :
    Showing (s.light x calls next) := by
  constructor
  case aws => exact haws
  case configured =>
    rw [Setup.light, haws]
    exact ledCalls_configured hgenuine.hasExpanders calls hconfigured
  case levels =>
    have h := represents_ledCalls hgenuine.hasExpanders hgenuine.acks calls hlevels
    rw [hnext] at h
    rw [Setup.light, haws]
    exact h

theorem write_lit (board red blue green : Int) (c : Color) :
    (LedCall.setBoardColor board red blue green).write (lit board c) =
      lit board ⟨level red, level green, level blue⟩ :=
  setBoardColor_lit board ⟨level red, level green, level blue⟩ c

theorem setupStep_shows {x : SetupWorld} (hinit : x.espNowInit = 0)
    (hgenuine : Genuine x.wiring) {s : Setup} (h : SetupShows s) :
    SetupShows (setupStep x s) := by
  unfold SetupShows at h
  cases hpc : s.pc with
  | radio =>
      simp only [setupStep, hpc]
      rw [if_neg (not_not.mpr hinit)]
      trivial
  | expanders =>
      rcases startExpanders_genuine hgenuine s.aws s.bus with ⟨bus', hstart, hconfigured⟩
      simp only [setupStep, hpc, hstart]
      exact ⟨rfl, hconfigured⟩
  | hung => simp only [hpc] at h
  | colors =>
      simp only [hpc] at h
      rcases rgbTest_calls 0 with ⟨calls, hcalls, hshape⟩
      -- Before the first reset the levels are those that the chips start with.
      have hlevels : Represents s.bus
          (fun aw pin => if pin < 16 then pinLevel s.bus aw pin else LOW) := by
        intro aw pin hpin
        exact (if_pos hpin).symm
      have hreset : forall pins : Pins,
          rgbReset (fun aw pin => if pin < 16 then pins aw pin else LOW) =
            Pins.dark := by
        intro pins
        funext aw pin
        rw [rgbReset_pin]
        by_cases hpin : pin < 16
        · exact if_pos hpin
        · rw [if_neg hpin, if_neg hpin]
          rfl
      simp only [setupStep, hpc, hcalls]
      apply light_showing hgenuine h.left h.right hlevels
      rw [List.foldl_cons, LedCall.write, hreset (pinLevel s.bus)]
      exact lightsAndResets_dark hshape
  | sensors =>
      simp only [hpc] at h
      simp only [setupStep, hpc]
      apply light_showing hgenuine h.aws h.configured h.levels
      rw [hpc]
      exact rgbReset_lit 0 Color.dark
  | board i =>
      simp only [hpc] at h
      have hdark := h.levels
      rw [hpc] at hdark
      simp only [setupStep, hpc]
      split
      · exact light_showing hgenuine h.aws h.configured hdark _ rfl
      · exact ⟨h.aws, h.configured, hdark⟩
  | wait i =>
      simp only [hpc] at h
      have hblue := h.levels
      rw [hpc] at hblue
      simp only [setupStep, hpc]
      split <;> exact ⟨h.aws, h.configured, hblue⟩
  | moved i =>
      simp only [hpc] at h
      have hblue := h.levels
      rw [hpc] at hblue
      simp only [setupStep, hpc]
      exact light_showing hgenuine h.aws h.configured hblue _
        (write_lit i 0 0 1 Color.pureBlue)
  | reset i =>
      simp only [hpc] at h
      have hgreen := h.levels
      rw [hpc] at hgreen
      simp only [setupStep, hpc]
      exact light_showing hgenuine h.aws h.configured hgreen _
        (rgbReset_lit i Color.pureGreen)
  | done =>
      simp only [hpc] at h
      simp only [setupStep, hpc, SetupShows]
      exact h

/-- With a radio and without failures on the bus, setup is never stuck at the
expanders. All pins are outputs, and from `sensor_test` on nothing is lit but the
board that it is at. -/
theorem setup_shows {x : SetupWorld} (hinit : x.espNowInit = 0)
    (hgenuine : Genuine x.wiring) (bus : Bus) (n : Nat) :
    SetupShows (setupRun x bus n) :=
  setupRun_invariant SetupShows trivial
    (fun _ => setupStep_shows hinit hgenuine) n

def busyTable (espNowInit : Int) : SetupWorld where
  world := World.scripted [] (fun n => n) monotone_id (fun _ _ => true)
  wiring := workbench fun _ _ => true
  espNowInit := espNowInit

theorem setup_shows_busyTable :
    (setupRun (busyTable 0) poweredBus 5).pc = .wait 1 ∧
      SetupShows (setupRun (busyTable 0) poweredBus 5) :=
  ⟨by decide +kernel, setup_shows rfl genuine_workbench poweredBus 5⟩

end Receiver
end BoxTrials
