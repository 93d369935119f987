import Mathlib.Tactic.IntervalCases
import BoxTrials.Foundation.MachineWords
import BoxTrials.Receiver.Boards

/-!
# Radio payloads

What the radio hands to `OnDataRecv` is a number of bytes, from any sender.  The
callback copies the size of a message out of them, whatever their number is, and
uses the first word of the copy as an index.
-/

namespace BoxTrials
namespace Receiver

open Foundation
open Sender

variable {real : Type}

/-!
# The callback
-/

/-- `sizeof(struct_message)`: an `int`, four `float`s, a `bool`, and three bytes
of padding. -/
def sizeofStructMessage : Nat := 24

structure FloatFormat (real : Type) where
  ofBits : Nat -> real
  toBits : real -> Nat
  toBits_lt : forall x, toBits x < wordModulus
  ofBits_toBits : forall x, ofBits (toBits x) = x

/-- The arguments of `OnDataRecv`. -/
structure RadioPayload where
  incomingData : List UInt8
  len_lt : incomingData.length < 256
  /-- What is in the memory at and behind `incomingData`, past the payload. -/
  memory : Nat -> UInt8

def RadioPayload.len (p : RadioPayload) : Nat :=
  p.incomingData.length

/-- The byte that `memcpy` finds at an offset. -/
def RadioPayload.byte (p : RadioPayload) (i : Nat) : UInt8 :=
  p.incomingData.getD i (p.memory i)

def RadioPayload.myData (f : FloatFormat real) (p : RadioPayload) : StructMessage real where
  id := toInt32 (readWord p.byte 0)
  x := f.ofBits (readWord p.byte 4)
  y := f.ofBits (readWord p.byte 8)
  z := f.ofBits (readWord p.byte 12)
  m := f.ofBits (readWord p.byte 16)
  isMoving := decide (p.byte 20 ≠ 0)

inductive StrayAccess where
  /-- A byte behind the payload is read. -/
  | payload (i : Nat)
  /-- An entry outside of the table is written. -/
  | boardsStruct (i : Int)
  deriving DecidableEq, Repr

/-- `OnDataRecv`: the accesses outside of an object, and the table. -/
def RadioPayload.onDataRecv (f : FloatFormat real) (p : RadioPayload) (t : Boards real) :
    List StrayAccess × Boards real :=
  let myData := p.myData f
  (((List.range sizeofStructMessage).filter fun i => p.len ≤ i).map
      StrayAccess.payload ++
    (if 0 ≤ myData.id ∧ myData.id < 15 then [] else [.boardsStruct myData.id]),
    t.onDataRecv myData)

/-!
# The bytes of a message

The boards send `myData` as it lies in their memory.
-/

def structBytes (f : FloatFormat real) (m : StructMessage real) : List UInt8 :=
  wordBytes (toULong m.id) ++ wordBytes (f.toBits m.x) ++
    wordBytes (f.toBits m.y) ++ wordBytes (f.toBits m.z) ++
    wordBytes (f.toBits m.m) ++ [if m.isMoving then 1 else 0]

theorem RadioPayload.myData_structBytes {f : FloatFormat real}
    {p : RadioPayload} {m : StructMessage real} {padding : List UInt8}
    (hid : -2147483648 ≤ m.id ∧ m.id < 2147483648)
    (h : p.incomingData = structBytes f m ++ padding) : p.myData f = m := by
  have hbyte : forall i, i < 21 -> (structBytes f m)[i]? = some (p.byte i) := by
    intro i hi
    have hlt : i < (structBytes f m).length := hi
    rw [RadioPayload.byte, h, List.getD_eq_getElem?_getD,
      List.getElem?_append_left hlt, List.getElem?_eq_getElem hlt]
    rfl
  have hulong : toULong m.id < wordModulus := by
    rw [toULong, wordModulus]
    omega
  have hword : forall {k n : Nat}, k < 5 -> n < wordModulus ->
      (forall i, i < 4 -> (wordBytes n)[i]? = (structBytes f m)[4 * k + i]?) ->
        readWord p.byte (4 * k) = n := by
    intro k n hk hn hslice
    apply readWord_wordBytes hn
    intro i hi
    rw [hslice i hi, hbyte _ (by omega)]
  have hid' : readWord p.byte 0 = toULong m.id :=
    @hword 0 _ (by decide) hulong fun i hi => by interval_cases i <;> rfl
  have hx : readWord p.byte 4 = f.toBits m.x :=
    @hword 1 _ (by decide) (f.toBits_lt m.x) fun i hi => by
      interval_cases i <;> rfl
  have hy : readWord p.byte 8 = f.toBits m.y :=
    @hword 2 _ (by decide) (f.toBits_lt m.y) fun i hi => by
      interval_cases i <;> rfl
  have hz : readWord p.byte 12 = f.toBits m.z :=
    @hword 3 _ (by decide) (f.toBits_lt m.z) fun i hi => by
      interval_cases i <;> rfl
  have hm : readWord p.byte 16 = f.toBits m.m :=
    @hword 4 _ (by decide) (f.toBits_lt m.m) fun i hi => by
      interval_cases i <;> rfl
  have hmoving : (if m.isMoving then 1 else 0 : UInt8) = p.byte 20 :=
    Option.some.inj (hbyte 20 (by decide))
  rw [RadioPayload.myData, hid', hx, hy, hz, hm, ← hmoving,
    toInt32_toULong hid.left hid.right, f.ofBits_toBits, f.ofBits_toBits,
    f.ofBits_toBits, f.ofBits_toBits]
  cases m with
  | mk id x y z mag isMoving =>
      cases isMoving <;> rfl

/-!
# What a payload does to the table
-/

def RadioPayload.IsMessage (f : FloatFormat real) (p : RadioPayload) : Prop :=
  sizeofStructMessage ≤ p.len ∧ 0 ≤ (p.myData f).id ∧ (p.myData f).id ≤ 14

/-- A message of a board replaces the entry of the board, and anything else
leaves the table and does not reach outside of it. -/
def RadioPayload.Uncorrupted (f : FloatFormat real) (p : RadioPayload) (t : Boards real) :
    Prop :=
  (p.IsMessage f ∧
    (p.onDataRecv f t).2.entry (p.myData f).id = some (p.myData f) ∧
    forall id, id ≠ (p.myData f).id ->
      (p.onDataRecv f t).2.entry id = t.entry id) ∨
  ((p.onDataRecv f t).2.boardsStruct = t.boardsStruct ∧
    (p.onDataRecv f t).1 = [])

theorem RadioPayload.stray_eq_nil_iff (f : FloatFormat real) (p : RadioPayload)
    (t : Boards real) : (p.onDataRecv f t).1 = [] <-> p.IsMessage f := by
  simp only [RadioPayload.onDataRecv, RadioPayload.IsMessage, List.append_eq_nil_iff,
    List.map_eq_nil_iff, List.filter_eq_nil_iff, List.mem_range, decide_eq_true_eq]
  have hcopied : (forall i, i < sizeofStructMessage -> ¬ p.len ≤ i) <->
      sizeofStructMessage ≤ p.len := by
    constructor
    · intro h
      have := h (sizeofStructMessage - 1) (by decide)
      rw [sizeofStructMessage] at *
      omega
    · intro h i hi
      omega
  rw [hcopied]
  apply and_congr_right
  intro _
  split
  · rename_i hid
    simp only [true_iff]
    omega
  · rename_i hid
    simp only [List.cons_ne_nil, false_iff]
    omega

theorem RadioPayload.uncorrupted_of_isMessage {f : FloatFormat real}
    {p : RadioPayload} (h : p.IsMessage f) (t : Boards real) :
    p.Uncorrupted f t := by
  have hid : 0 ≤ (p.myData f).id ∧ (p.myData f).id < 15 :=
    ⟨h.right.left, Int.lt_add_one_of_le h.right.right⟩
  exact Or.inl ⟨h, Boards.onDataRecv_entry hid t,
    fun _ hne => Boards.onDataRecv_entry_ne hid t hne⟩

/-- The report of a board, sent with its padding, is taken over. -/
theorem RadioPayload.uncorrupted_of_report {f : FloatFormat real}
    {p : RadioPayload} {b : Board real} {padding : List UInt8}
    (hpadding : padding.length = 3)
    (h : p.incomingData = structBytes f b.myData ++ padding) (t : Boards real) :
    p.myData f = b.myData ∧ p.Uncorrupted f t := by
  have hrange := b.id_range
  have hmyData := RadioPayload.myData_structBytes ⟨by omega, by omega⟩ h
  refine ⟨hmyData, RadioPayload.uncorrupted_of_isMessage ⟨?_, ?_, ?_⟩ t⟩
  · rw [RadioPayload.len, h, List.length_append, hpadding]
    exact Nat.le_refl 24
  · rw [hmyData]
    exact b.id_nonneg
  · rw [hmyData]
    exact b.id_le

/-- The table is safe exactly from whole messages of the boards: a payload that
is too short makes the callback read behind it, and a number that is no index of
the table makes it write outside of it. -/
theorem RadioPayload.uncorrupted_iff (f : FloatFormat real) (p : RadioPayload)
    (t : Boards real) : p.Uncorrupted f t <->
      sizeofStructMessage ≤ p.len ∧ 0 ≤ (p.myData f).id ∧ (p.myData f).id ≤ 14 := by
  constructor
  · intro h
    rcases h with ⟨hmessage, _⟩ | ⟨_, hstray⟩
    · exact hmessage
    · exact (p.stray_eq_nil_iff f t).mp hstray
  · intro h
    exact RadioPayload.uncorrupted_of_isMessage h t

def boardFifteen : RadioPayload where
  incomingData := 15 :: List.replicate 23 0
  len_lt := by decide
  memory _ := 0

def wordFormat : FloatFormat (Fin wordModulus) where
  ofBits n := ⟨n % wordModulus, Nat.mod_lt n (by decide)⟩
  toBits := Fin.val
  toBits_lt x := x.isLt
  ofBits_toBits x := Fin.ext (Nat.mod_eq_of_lt x.isLt)

theorem RadioPayload.not_uncorrupted_boardFifteen :
    ¬ boardFifteen.Uncorrupted wordFormat
      { boardsStruct := List.replicate 15 (boardFifteen.myData wordFormat)
        boardsStruct_length := List.length_replicate
        outside := [] } := by
  intro h
  rcases h with ⟨hmessage, _⟩ | ⟨_, hstray⟩
  · have hle := hmessage.right.right
    revert hle
    decide +kernel
  · revert hstray
    decide +kernel

end Receiver
end BoxTrials
