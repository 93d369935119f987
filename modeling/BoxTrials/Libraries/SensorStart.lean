import Mathlib.Logic.Function.Iterate
import BoxTrials.Libraries.SensorSettings

/-!
# Starting and reading the sensor

`begin` looks for the chip five times and then polls it until the reset is over,
however long that takes.  The range that it sets is the one that a sample is
scaled by, unless the read of the range is lost.
-/

namespace BoxTrials
namespace Libraries
namespace MPU6050

open Foundation
open BusIO

variable {real : Type} {wiring : Wiring} {addr : Byte} {defaults : Nat -> Byte}

/-!
# The loops
-/

theorem findChip_cases (wiring : Wiring) (addr : Byte) (tries : Nat) (bus : Bus) :
    (exists t bus', t < tries ∧
        (forall j, j < t -> wiring.acks addr (bus.transactions + j) = false) ∧
        wiring.acks addr (bus.transactions + t) = true ∧
        findChip wiring addr tries bus = (true, bus') ∧
        bus'.transactions = bus.transactions + t + 1 ∧
        bus'.regs addr = bus.regs addr) ∨
      ((forall j, j < tries -> wiring.acks addr (bus.transactions + j) = false) ∧
        (findChip wiring addr tries bus).1 = false) := by
  induction tries generalizing bus with
  | zero =>
      exact Or.inr ⟨fun j hj => absurd hj (Nat.not_lt_zero j), rfl⟩
  | succ tries ih =>
      rcases begin_spec wiring addr bus with ⟨bus₁, hbegin, hcount₁, hregs₁⟩
      rw [findChip, hbegin]
      cases hack : wiring.acks addr bus.transactions with
      | true =>
          refine Or.inl ⟨0, bus₁, Nat.succ_pos tries, ?_, hack, rfl, hcount₁,
            hregs₁ addr⟩
          exact fun j hj => absurd hj (Nat.not_lt_zero j)
      | false =>
          have hshift : forall j, bus.transactions + 1 + j =
              bus.transactions + (j + 1) := fun j => by omega
          have hbefore : forall n,
              (forall j, j < n -> wiring.acks addr (bus₁.transactions + j) = false) ->
              forall j, j < n + 1 ->
                wiring.acks addr (bus.transactions + j) = false := by
            intro n h j hj
            cases j with
            | zero => exact hack
            | succ j =>
                rw [← hshift, ← hcount₁]
                exact h j (Nat.lt_of_succ_lt_succ hj)
          rcases ih bus₁ with
            ⟨t, bus', hlt, hlost, hfound, hresult, hcount, hregs⟩ | ⟨hlost, hresult⟩
          · refine Or.inl ⟨t + 1, bus', Nat.succ_lt_succ hlt, hbefore t hlost, ?_,
              hresult, ?_, hregs.trans (hregs₁ addr)⟩
            · rw [← hshift, ← hcount₁]
              exact hfound
            · rw [hcount, hcount₁, hshift]
          · exact Or.inr ⟨hbefore tries hlost, hresult⟩

theorem idle_value {regs : Nat -> Byte} (h : Idle regs) :
    deviceReset.value regs = 0#8 := by
  apply BitVec.eq_of_getLsbD_eq
  intro i hi
  rw [Field.value, getLsbD_readField, BitVec.getLsbD_zero]
  by_cases hzero : i = 0
  · subst hzero
    exact h
  · have hbit : ¬ i < deviceReset.bits := by
      simp only [deviceReset]
      omega
    rw [decide_eq_false hbit, Bool.false_and]

def pollAt (wiring : Wiring) (addr : Byte) (n k : Nat) : Nat :=
  (wiring.afterRead addr)^[k] n

theorem le_pollAt (wiring : Wiring) (addr : Byte) (n k : Nat) :
    n + k ≤ pollAt wiring addr n k := by
  induction k with
  | zero => exact Nat.le_refl n
  | succ k ih =>
      have hnext : pollAt wiring addr n (k + 1) =
          wiring.afterRead addr (pollAt wiring addr n k) :=
        Function.iterate_succ_apply' (wiring.afterRead addr) k n
      rw [hnext, Wiring.afterRead]
      split <;> omega

theorem resetPolls_cases (wiring : Wiring) (polls : Nat) {bus : Bus}
    (hidle : Idle (bus.regs addr)) :
    (exists k bus', k < polls ∧
        wiring.reads addr (pollAt wiring addr bus.transactions k) = true ∧
        resetPolls wiring { i2cDev := some addr } polls bus = some bus' ∧
        bus'.regs addr = bus.regs addr) ∨
      ((forall k, k < polls ->
          wiring.reads addr (pollAt wiring addr bus.transactions k) = false) ∧
        resetPolls wiring { i2cDev := some addr } polls bus = none) := by
  induction polls generalizing bus with
  | zero =>
      exact Or.inr ⟨fun k hk => absurd hk (Nat.not_lt_zero k), rfl⟩
  | succ polls ih =>
      rcases read_field wiring addr deviceReset bus with
        ⟨bus₁, hread, hcount₁, hregs₁⟩
      have hget : getField deviceReset wiring { i2cDev := some addr } bus = _ := hread
      rw [resetPolls, hget]
      cases hthrough : wiring.reads addr bus.transactions with
      | true =>
          refine Or.inl ⟨0, bus₁, Nat.succ_pos polls, hthrough, ?_, hregs₁ addr⟩
          rw [if_pos rfl, idle_value hidle]
          exact if_neg (by decide)
      | false =>
          have hagain : (deviceReset.ones.setWidth 32 : BitVec 32) = 1#32 := by decide
          have hnext : forall k, pollAt wiring addr bus.transactions (k + 1) =
              pollAt wiring addr bus₁.transactions k := by
            intro k
            rw [hcount₁]
            exact Function.iterate_succ_apply (wiring.afterRead addr) k _
          rw [if_neg Bool.false_ne_true]
          simp only [if_pos hagain]
          rw [← hregs₁ addr] at hidle ⊢
          rcases ih hidle with ⟨k, bus', hlt, hreads, hresult⟩ | ⟨hlost, hresult⟩
          · exact Or.inl ⟨k + 1, bus', Nat.succ_lt_succ hlt,
              (congrArg (wiring.reads addr) (hnext k)).trans hreads, hresult⟩
          · refine Or.inr ⟨?_, hresult⟩
            intro k hk
            cases k with
            | zero => exact hthrough
            | succ k =>
                rw [hnext]
                exact hlost k (Nat.lt_of_succ_lt_succ hk)

/-!
# Powered on

The registers have their defaults, so a reset changes nothing.
-/

/-- A sensor at the given address whose registers have their defaults. -/
structure PoweredOn (wiring : Wiring) (addr : Byte) (bus : Bus) : Prop where
  store : wiring.store addr = (chip (bus.regs addr)).store
  id : bus.regs addr MPU6050_WHO_AM_I.toNat = 0x68#8
  idle : Idle (bus.regs addr)
  range : accelRange.value (bus.regs addr) = 0#8

theorem resetWrite_regs {bus : Bus}
    (hstore : wiring.store addr = (chip (bus.regs addr)).store) :
    ((resetWrite.perform wiring (some addr) bus).2.regs addr) = bus.regs addr := by
  rcases perform_spec wiring addr resetWrite bus with ⟨bus', hperform, _, hregs⟩
  have hregs := hregs addr
  rw [hperform]
  cases hstored : (resetWrite.entry wiring addr bus).stored with
  | none =>
      rw [hstored] at hregs
      exact hregs
  | some byte =>
      have hbit : byte.getLsbD 7 = true := by
        rw [getLsbD_stored hstored (by decide)]
        rfl
      have hreset : (chip (bus.regs addr)).resets resetWrite.field.reg.toNat byte =
          true := by
        simp only [chip, hbit, Bool.and_true]
        rfl
      rw [hstored] at hregs
      simp only [if_true, hstore, Memory.store, hreset] at hregs
      exact hregs

def KeepsRange (w : FieldWrite) : Prop :=
  (w.field = accelRange ∧ w.data = AccelRange.MPU6050_RANGE_2_G.value) ∨
    (w.field.reg ≠ accelRange.reg)

theorem perform_range (hstore : wiring.store addr = (chip defaults).store)
    (hdefaults : accelRange.value defaults = 0#8) {w : FieldWrite}
    (hw : KeepsRange w) {bus : Bus} (h : accelRange.value (bus.regs addr) = 0#8) :
    accelRange.value ((w.perform wiring (some addr) bus).2.regs addr) = 0#8 := by
  have haligned : w.field.Covers accelRange ∨ w.field.Apart accelRange := by
    rcases hw with ⟨hfield, _⟩ | hreg
    · exact Or.inl (hfield ▸ ⟨rfl, Nat.le_refl _, Nat.le_refl _⟩)
    · exact Or.inr (Or.inl hreg)
  have hwrite : (w.entry wiring addr bus).write = w := rfl
  rw [value_perform hstore haligned, h, Field.effect, hwrite]
  cases (w.entry wiring addr bus).stored with
  | none => rfl
  | some byte =>
      simp only
      split
      · exact hdefaults
      split
      · rfl
      rcases hw with ⟨hfield, hdata⟩ | hreg
      · rw [hfield, hdata, if_pos ⟨rfl, Nat.le_refl _, Nat.le_refl _⟩]
        decide
      · rw [if_neg fun hcovers => hreg hcovers.left,
          if_neg fun hblind => hreg hblind.left]
        rfl

theorem performList_range (hstore : wiring.store addr = (chip defaults).store)
    (hdefaults : accelRange.value defaults = 0#8) {writes : List FieldWrite}
    (hwrites : forall w, w ∈ writes -> KeepsRange w) {bus : Bus}
    (h : accelRange.value (bus.regs addr) = 0#8) :
    accelRange.value
      ((performList wiring { i2cDev := some addr } writes bus).regs addr) = 0#8 := by
  induction writes generalizing bus with
  | nil => exact h
  | cons w rest ih =>
      exact ih (fun w' hw' => hwrites w' (List.mem_cons_of_mem w hw'))
        (perform_range hstore hdefaults (hwrites w (List.mem_cons_self ..)) h)

/-!
# begin
-/

/-- From the `n`-th transaction on, the chip answers the look number `t`, it is
identified, and the poll number `k` of the reset gets through. -/
structure StartsAt (wiring : Wiring) (addr : Byte) (n t k : Nat) : Prop where
  tries : t < 5
  silent : forall j, j < t -> wiring.acks addr (n + j) = false
  answers : wiring.acks addr (n + t) = true
  identified : wiring.reads addr (n + t + 1) = true
  polled : wiring.reads addr
    (pollAt wiring addr (wiring.afterRead addr (n + t + 3) + 1) k) = true

theorem first_answer {n t t' k : Nat} (h : StartsAt wiring addr n t' k)
    (hsilent : forall j, j < t -> wiring.acks addr (n + j) = false)
    (hanswers : wiring.acks addr (n + t) = true) : t' = t := by
  rcases Nat.lt_trichotomy t' t with hlt | heq | hgt
  · exact absurd ((hsilent t' hlt).symm.trans h.answers) Bool.false_ne_true
  · exact heq
  · exact absurd ((h.silent t hgt).symm.trans hanswers) Bool.false_ne_true

theorem afterRead_of_reads {n : Nat} (h : wiring.reads addr n = true) :
    wiring.afterRead addr n = n + 2 := by
  rw [Wiring.reads, Bool.and_eq_true] at h
  rw [Wiring.afterRead, if_pos h.left]

theorem init_keepsRange :
    forall w, w ∈ sigPathReset :: initWrites -> KeepsRange w := by
  have hall : (sigPathReset :: initWrites).Forall KeepsRange :=
    ⟨Or.inr (by decide), Or.inr (by decide), Or.inr (by decide), Or.inr (by decide),
      Or.inl ⟨rfl, rfl⟩, Or.inr (by decide)⟩
  exact List.forall_iff_forall_mem.mp hall

theorem init_cases {bus : Bus} (h : PoweredOn wiring addr bus) {bus₁ : Bus}
    (hregs : bus₁.regs addr = bus.regs addr) (polls : Nat) :
    (exists k bus', wiring.reads addr (pollAt wiring addr
            (wiring.afterRead addr bus₁.transactions + 1) k) = true ∧
        init wiring { i2cDev := some addr } polls bus₁ = some bus' ∧
        accelRange.value (bus'.regs addr) = 0#8) ∨
      ((forall k, k < polls -> wiring.reads addr (pollAt wiring addr
            (wiring.afterRead addr bus₁.transactions + 1) k) = false) ∧
        init wiring { i2cDev := some addr } polls bus₁ = none) := by
  have hstore : wiring.store addr = (chip (bus₁.regs addr)).store := by
    rw [hregs]
    exact h.store
  rcases perform_spec wiring addr resetWrite bus₁ with ⟨bus₂, hperform, hcount, _⟩
  have hregs₂ := resetWrite_regs hstore
  rw [hperform] at hregs₂
  simp only at hregs₂
  have hidle : Idle (bus₂.regs addr) := by
    rw [hregs₂, hregs]
    exact h.idle
  have hinit : init wiring { i2cDev := some addr } polls bus₁ =
      (resetPolls wiring { i2cDev := some addr } polls bus₂).map
        (performList wiring { i2cDev := some addr } (sigPathReset :: initWrites)) := by
    rw [init, reset, Option.map_map]
    have hfirst : performList wiring { i2cDev := some addr } [resetWrite] bus₁ =
        bus₂ := congrArg Prod.snd hperform
    rw [← hfirst]
    rfl
  have hcount₂ : bus₂.transactions =
      wiring.afterRead addr bus₁.transactions + 1 := hcount
  rw [hinit, ← hcount₂]
  rcases resetPolls_cases wiring polls hidle with
    ⟨k, bus₃, _, hreads, hpolls, hregs₃⟩ | ⟨hlost, hpolls⟩
  · refine Or.inl ⟨k, _, hreads, by rw [hpolls]; rfl, ?_⟩
    apply performList_range h.store h.range init_keepsRange
    rw [hregs₃, hregs₂, hregs]
    exact h.range
  · exact Or.inr ⟨hlost, by rw [hpolls]; rfl⟩

/-- What `begin` comes to. -/
theorem begin_cases {bus : Bus} (h : PoweredOn wiring addr bus) (polls : Nat) :
    (exists t k bus', StartsAt wiring addr bus.transactions t k ∧
        begin wiring addr polls bus =
          some (true, { i2cDev := some addr }, bus') ∧
        accelRange.value (bus'.regs addr) = 0#8) ∨
      ((begin wiring addr polls bus).map Prod.fst = some false ∧
        forall t k, ¬ StartsAt wiring addr bus.transactions t k) ∨
      (begin wiring addr polls bus = none ∧
        forall t k, StartsAt wiring addr bus.transactions t k -> polls ≤ k) := by
  rw [begin]
  rcases findChip_cases wiring addr 5 bus with
    ⟨t, bus₁, hlt, hsilent, hanswers, hfind, hcount₁, hregs₁⟩ | ⟨hsilent, hfind⟩
  · rcases read_byteRegister wiring addr MPU6050_WHO_AM_I bus₁ with
      ⟨bus₂, hread, hcount₂, hregs₂⟩
    have hread' : Register.read wiring
        { i2cdevice := some addr, address := MPU6050_WHO_AM_I.setWidth 16 } bus₁ =
          _ := hread
    simp only [hfind, Bool.not_true, Bool.false_eq_true, if_false, hread', hcount₁]
    cases hidentified : wiring.reads addr (bus.transactions + t + 1) with
    | false =>
        -- All ones are not the number of the chip.
        refine Or.inr (Or.inl ⟨rfl, ?_⟩)
        intro t' k hstarts
        rw [first_answer hstarts hsilent hanswers] at hstarts
        rw [hstarts.identified] at hidentified
        cases hidentified
    | true =>
        have hid : bus₁.regs addr MPU6050_WHO_AM_I.toNat = 0x68#8 := by
          rw [hregs₁]
          exact h.id
        have hknown : ¬ (BitVec.setWidth 32 0x68#8 ≠ MPU6050_DEVICE_ID) := by decide
        simp only [if_true, hid, if_neg hknown]
        have hcount : bus₂.transactions = bus.transactions + t + 3 := by
          rw [hcount₂, hcount₁, afterRead_of_reads hidentified]
        have hregs : bus₂.regs addr = bus.regs addr := (hregs₂ addr).trans hregs₁
        rcases init_cases h hregs polls with
          ⟨k, bus₃, hpolled, hinit, hrange⟩ | ⟨hlost, hinit⟩
        · rw [hcount] at hpolled
          exact Or.inl ⟨t, k, bus₃, ⟨hlt, hsilent, hanswers, hidentified, hpolled⟩,
            by rw [hinit]; rfl, hrange⟩
        · -- The polls have run out before one was answered.
          refine Or.inr (Or.inr ⟨by rw [hinit]; rfl, ?_⟩)
          intro t' k hstarts
          rw [first_answer hstarts hsilent hanswers] at hstarts
          apply Nat.le_of_not_lt
          intro hk
          have hpolled := hstarts.polled
          rw [← hcount, hlost k hk] at hpolled
          cases hpolled
  · refine Or.inr (Or.inl ⟨by simp only [hfind, Bool.not_false, if_true]; rfl, ?_⟩)
    intro t k hstarts
    have hanswers := hstarts.answers
    rw [hsilent t hstarts.tries] at hanswers
    cases hanswers

/-!
# getEvent
-/

/-- An event is a sample of what was read, and a read that is lost does not
show. -/
theorem getEvent_spec (floats : Floats real) (wiring : Wiring) (addr : Byte)
    (buffer : Buffer) (bus : Bus) :
    exists bus', getEvent floats wiring { i2cDev := some addr } buffer bus =
        (sample floats
          (if wiring.reads addr bus.transactions then
            dataRegs (bus.regs addr)
          else
            buffer)
          ((if wiring.reads addr (pollAt wiring addr bus.transactions 1) then
            accelRange.value (bus.regs addr)
          else
            accelRange.ones).setWidth 32), bus') ∧
      bus'.transactions = pollAt wiring addr bus.transactions 3 ∧
      forall addr', bus'.regs addr' = bus.regs addr' := by
  rcases @writeThenRead_select wiring addr MPU6050_ACCEL_OUT 14 (by decide)
    (by decide) bus with ⟨bus₁, hdata, hcount₁, hregs₁⟩
  rcases read_field wiring addr accelRange bus₁ with ⟨bus₂, hrange, hcount₂, hregs₂⟩
  rcases read_field wiring addr gyroRange bus₂ with ⟨bus₃, hgyro, hcount₃, hregs₃⟩
  refine ⟨bus₃, ?_, ?_, ?_⟩
  · have hbuffer : Register.readBuffer wiring
        { i2cdevice := some addr, address := MPU6050_ACCEL_OUT.setWidth 16,
          width := 14 } 14 bus = _ := hdata
    have hrange' : getAccelerometerRange wiring { i2cDev := some addr } bus₁ = _ :=
      hrange
    have hgyro' : getGyroRange wiring { i2cDev := some addr } bus₂ = _ := hgyro
    simp only [getEvent, hbuffer, hrange', hgyro', hregs₁, hcount₁]
    cases wiring.reads addr bus.transactions with
    | false => rfl
    | true =>
        have hbytes : (fun i : Fin 14 =>
            ((List.range 14).map fun j =>
              bus.regs addr (MPU6050_ACCEL_OUT.toNat + j)).getD i (buffer i)) =
            dataRegs (bus.regs addr) := by
          funext i
          simp [dataRegs, List.getD_eq_getElem?_getD]
        simp only [if_true, hbytes]
        rfl
  · rw [hcount₃, hcount₂, hcount₁]
    rfl
  · intro addr'
    rw [hregs₃, hregs₂, hregs₁]

end MPU6050
end Libraries
end BoxTrials
