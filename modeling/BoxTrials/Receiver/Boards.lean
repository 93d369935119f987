import BoxTrials.Foundation.LastMatch
import BoxTrials.Sender.Loop

/-!
# The board table

`OnDataRecv` copies a message into the entry of its board.  It runs between any
two reads of the table by the rest of the program.
-/

namespace BoxTrials
namespace Receiver

open Foundation
open Sender

variable {real : Type}

/-- `boardsStruct`. -/
structure Boards (real : Type) where
  boardsStruct : List (StructMessage real)
  boardsStruct_length : boardsStruct.length = 15
  /-- The messages whose number missed the table. What they overwrite is not
  known. -/
  outside : List (StructMessage real)

/-- `OnDataRecv`, for a message of full size. -/
def Boards.onDataRecv (myData : StructMessage real) (t : Boards real) :
    Boards real :=
  if 0 ≤ myData.id ∧ myData.id < 15 then
    { t with
      boardsStruct := t.boardsStruct.set myData.id.toNat myData
      boardsStruct_length := by rw [List.length_set, t.boardsStruct_length] }
  else
    { t with outside := t.outside ++ [myData] }

def Boards.entry (t : Boards real) (id : Int) : Option (StructMessage real) :=
  if 0 ≤ id then
    t.boardsStruct[id.toNat]?
  else
    none

theorem Boards.onDataRecv_entry {myData : StructMessage real}
    (h : 0 ≤ myData.id ∧ myData.id < 15) (t : Boards real) :
    (t.onDataRecv myData).entry myData.id = some myData := by
  have hlength := t.boardsStruct_length
  simp only [Boards.onDataRecv, Boards.entry]
  rw [if_pos h, if_pos h.left, List.getElem?_set_self (by omega)]

theorem Boards.onDataRecv_entry_ne {myData : StructMessage real}
    (h : 0 ≤ myData.id ∧ myData.id < 15) (t : Boards real) {id : Int}
    (hid : id ≠ myData.id) :
    (t.onDataRecv myData).entry id = t.entry id := by
  simp only [Boards.onDataRecv, Boards.entry]
  rw [if_pos h]
  split
  · rename_i hnonneg
    rw [List.getElem?_set_ne (by omega)]
  · rfl

def messageFrom (id : Int) (m : StructMessage real) :
    Option (StructMessage real) :=
  if m.id = id then some m else none

theorem Boards.foldl_entry {log : List (StructMessage real)}
    (hlog : forall m, m ∈ log -> 0 ≤ m.id ∧ m.id < 15) (t : Boards real)
    (id : Int) :
    (log.foldl (fun t m => t.onDataRecv m) t).entry id =
      (lastValue (messageFrom id) log).or (t.entry id) := by
  induction log using List.reverseRecOn with
  | nil =>
      rfl
  | append_singleton log m ih =>
      have hm := hlog m (by simp)
      have hold := ih fun x hx => hlog x (List.mem_append_left _ hx)
      rw [List.foldl_append, List.foldl_cons, List.foldl_nil, lastValue_snoc]
      by_cases hid : m.id = id
      · subst hid
        rw [Boards.onDataRecv_entry hm, messageFrom, if_pos rfl]
        rfl
      · rw [Boards.onDataRecv_entry_ne hm _ (Ne.symm hid), hold, messageFrom,
          if_neg hid]
        rfl

end Receiver
end BoxTrials
