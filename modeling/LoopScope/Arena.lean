/-!
# Numbered cells

Cells are numbered in the order in which they are made. A cell that is taken away leaves its
number unused, so a number never comes to mean another cell.
-/
namespace LoopScope

structure Arena (α : Type) where
  cells : List (Option α)
deriving Repr

namespace Arena

variable {α : Type}

def empty : Arena α := ⟨[]⟩

/-- The number of the next cell. -/
def next (a : Arena α) : Nat := a.cells.length

def get? (a : Arena α) (i : Nat) : Option α := a.cells[i]?.join

def push (a : Arena α) (cell : α) : Arena α := ⟨a.cells ++ [some cell]⟩

/-- Replaces the content of a cell; a number without a cell stays without one. -/
def set (a : Arena α) (i : Nat) (cell : α) : Arena α :=
  if (a.get? i).isSome then ⟨a.cells.set i (some cell)⟩ else a

def erase (a : Arena α) (i : Nat) : Arena α := ⟨a.cells.set i none⟩

/-- The cells that are there, in order. -/
def toList (a : Arena α) : List α := a.cells.filterMap id

/-- How many cells are there. -/
def size (a : Arena α) : Nat := a.toList.length

theorem lt_next_of_get? {a : Arena α} {i : Nat} {cell : α} (h : a.get? i = some cell) :
    i < a.next := by
  unfold get? at h
  by_cases hi : i < a.cells.length
  · exact hi
  · rw [List.getElem?_eq_none (by omega)] at h
    simp at h

@[simp] theorem get?_next (a : Arena α) : a.get? a.next = none := by
  simp [get?, next]

@[simp] theorem get?_push_next (a : Arena α) (cell : α) : (a.push cell).get? a.next = some cell := by
  simp [get?, push, next]

theorem get?_push_of_ne {a : Arena α} {i : Nat} (cell : α) (h : i ≠ a.next) :
    (a.push cell).get? i = a.get? i := by
  unfold get? push
  by_cases hi : i < a.cells.length
  · simp [List.getElem?_append_left hi]
  · have hlt : a.cells.length < i := Nat.lt_of_le_of_ne (Nat.le_of_not_lt hi) (Ne.symm h)
    rw [List.getElem?_eq_none (by simp; omega), List.getElem?_eq_none (by omega)]

theorem get?_set_self {a : Arena α} {i : Nat} {old : α} (cell : α) (h : a.get? i = some old) :
    (a.set i cell).get? i = some cell := by
  have hi : i < a.cells.length := lt_next_of_get? h
  rw [set, if_pos (by simp [h])]
  simp [get?, hi]

theorem get?_set_of_ne {a : Arena α} {i j : Nat} (cell : α) (h : i ≠ j) :
    (a.set i cell).get? j = a.get? j := by
  unfold set
  split
  · simp [get?, List.getElem?_set_ne h]
  · rfl

@[simp] theorem get?_erase_self (a : Arena α) (i : Nat) : (a.erase i).get? i = none := by
  by_cases hi : i < a.cells.length
  · simp [get?, erase, hi]
  · rw [get?, List.getElem?_eq_none (by simpa [erase] using hi)]
    rfl

theorem get?_erase_of_ne {a : Arena α} {i j : Nat} (h : i ≠ j) : (a.erase i).get? j = a.get? j := by
  simp [get?, erase, List.getElem?_set_ne h]

@[simp] theorem next_push (a : Arena α) (cell : α) : (a.push cell).next = a.next + 1 := by
  simp [next, push]

@[simp] theorem next_set (a : Arena α) (i : Nat) (cell : α) : (a.set i cell).next = a.next := by
  unfold set next
  split <;> simp

@[simp] theorem next_erase (a : Arena α) (i : Nat) : (a.erase i).next = a.next := by
  simp [next, erase]

/-- A cell that is there splits the list of cells: what stands before and after it does not depend
on its content, and is all that is left without it. -/
theorem toList_split {a : Arena α} {i : Nat} {old : α} (h : a.get? i = some old) :
    ∃ before after, a.toList = before ++ old :: after ∧
      (∀ cell, (a.set i cell).toList = before ++ cell :: after) ∧
      (a.erase i).toList = before ++ after := by
  have hi : i < a.cells.length := lt_next_of_get? h
  have hat : a.cells[i] = some old := by
    simpa [get?, List.getElem?_eq_getElem hi] using h
  have hset (new : Option α) :
      a.cells.set i new = a.cells.take i ++ new :: a.cells.drop (i + 1) :=
    List.set_eq_take_append_cons_drop.trans (if_pos hi)
  have hsplit : a.cells = a.cells.take i ++ some old :: a.cells.drop (i + 1) := by
    rw [← hset, ← hat, List.set_getElem_self]
  refine ⟨(a.cells.take i).filterMap id, (a.cells.drop (i + 1)).filterMap id, ?_, ?_, ?_⟩
  · calc a.toList
        = (a.cells.take i ++ some old :: a.cells.drop (i + 1)).filterMap id :=
          congrArg (List.filterMap id) hsplit
      _ = _ := by simp
  · intro cell
    rw [set, if_pos (by simp [h]), toList, hset]
    simp
  · rw [erase, toList, hset]
    simp

theorem size_set (a : Arena α) (i : Nat) (cell : α) : (a.set i cell).size = a.size := by
  cases h : a.get? i with
  | none => simp [set, h]
  | some old =>
    obtain ⟨before, after, hlist, hset, -⟩ := toList_split h
    simp [size, hlist, hset]

theorem size_erase {a : Arena α} {i : Nat} {old : α} (h : a.get? i = some old) :
    (a.erase i).size + 1 = a.size := by
  obtain ⟨before, after, hlist, -, herase⟩ := toList_split h
  simp only [size, hlist, herase, List.length_append, List.length_cons]
  omega

@[simp] theorem toList_push (a : Arena α) (cell : α) : (a.push cell).toList = a.toList ++ [cell] := by
  simp [toList, push]

end Arena

end LoopScope
