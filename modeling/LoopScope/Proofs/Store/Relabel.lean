import LoopScope.Store.Basic
/-!
# Stores whose cells are relabelled

Counting holders looks at nothing of a record but its slots and its argument list. So a change of
all record cells that leaves those alone, and the number of holders too, commutes with everything
that a store does with its cells.
-/
namespace LoopScope

/-! ## Cells changed all at once -/

namespace Arena

variable {α β : Type}

def map (f : α → β) (a : Arena α) : Arena β := ⟨a.cells.map (Option.map f)⟩

@[simp] theorem get?_map (f : α → β) (a : Arena α) (i : Nat) :
    (a.map f).get? i = (a.get? i).map f := by
  simp only [get?, map, List.getElem?_map]
  cases a.cells[i]? <;> rfl

@[simp] theorem next_map (f : α → β) (a : Arena α) : (a.map f).next = a.next :=
  List.length_map _

theorem map_set (f : α → β) (a : Arena α) (i : Nat) (cell : α) :
    (a.set i cell).map f = (a.map f).set i (f cell) := by
  simp only [set, get?_map, Option.isSome_map]
  split
  · simp only [map, List.map_set, Option.map_some]
  · rfl

theorem map_erase (f : α → β) (a : Arena α) (i : Nat) :
    (a.erase i).map f = (a.map f).erase i := by
  simp only [erase, map, List.map_set, Option.map_none]

theorem map_push (f : α → β) (a : Arena α) (cell : α) :
    (a.push cell).map f = (a.map f).push (f cell) := by
  simp only [push, map, List.map_append, List.map_cons, List.map_nil, Option.map_some]

end Arena

/-! ## Relabelling -/

/-- A change of record cells that has nothing to do with what they hold and who holds them. -/
structure RecordCell.Relabels (f : RecordCell → RecordCell) : Prop where
  arguments : ∀ cell, (f cell).record.arguments = cell.record.arguments
  withHolders : ∀ (cell : RecordCell) (holders : Nat),
    f { cell with holders := holders } = { f cell with holders := holders }
  withSlots : ∀ (cell : RecordCell) (slots : List Value),
    f { cell with record := { cell.record with slots := slots } } =
      { f cell with record := { (f cell).record with slots := slots } }

namespace RecordCell.Relabels

variable {f : RecordCell → RecordCell}

theorem holders (h : Relabels f) (cell : RecordCell) : (f cell).holders = cell.holders :=
  (congrArg RecordCell.holders (h.withHolders cell cell.holders) :)

theorem slots (h : Relabels f) (cell : RecordCell) : (f cell).record.slots = cell.record.slots :=
  (congrArg (fun cell => cell.record.slots) (h.withSlots cell cell.record.slots) :)

theorem refs (h : Relabels f) (cell : RecordCell) : (f cell).record.refs = cell.record.refs := by
  rw [Record.refs, Record.refs, h.slots, h.arguments]

end RecordCell.Relabels

namespace Store

variable {f : RecordCell → RecordCell}

def relabel (f : RecordCell → RecordCell) (s : Store) : Store :=
  { s with records := s.records.map f }

theorem recordCell?_relabel (s : Store) (r : RecordId) :
    (s.relabel f).recordCell? r = (s.recordCell? r).map f :=
  Arena.get?_map _ _ _

theorem relabel_modifyRecord (s : Store) (r : RecordId) {g k : RecordCell → RecordCell}
    (hg : ∀ cell, f (g cell) = k (f cell)) :
    (s.modifyRecord r g).relabel f = (s.relabel f).modifyRecord r k := by
  simp only [modifyRecord, recordCell?_relabel]
  cases s.recordCell? r with
  | none => rfl
  | some cell => simp only [relabel, Option.map_some, Arena.map_set, hg]

theorem relabel_modifyArguments (s : Store) (a : ArgumentsId)
    (g : ArgumentsCell → ArgumentsCell) :
    (s.modifyArguments a g).relabel f = (s.relabel f).modifyArguments a g := by
  have hcell : (s.relabel f).argumentsCell? a = s.argumentsCell? a := rfl
  simp only [modifyArguments, hcell]
  cases s.argumentsCell? a <;> rfl

theorem relabel_retain (hf : RecordCell.Relabels f) (s : Store) (ref : Ref) :
    (s.retain ref).relabel f = (s.relabel f).retain ref := by
  cases ref with
  | record r =>
    refine relabel_modifyRecord s r fun cell => ?_
    rw [hf.withHolders, hf.holders]
  | arguments a => exact relabel_modifyArguments s a _

theorem relabel_retainAll (hf : RecordCell.Relabels f) (s : Store) (refs : List Ref) :
    (s.retainAll refs).relabel f = (s.relabel f).retainAll refs := by
  induction refs generalizing s with
  | nil => rfl
  | cons ref refs ih =>
    rw [retainAll, List.foldl_cons, ← retainAll, ih, relabel_retain hf]
    rfl

theorem letGo_relabel (hf : RecordCell.Relabels f) (s : Store) (ref : Ref) :
    (s.relabel f).letGo ref = ((s.letGo ref).1.relabel f, (s.letGo ref).2) := by
  cases ref with
  | record r =>
    simp only [letGo, recordCell?_relabel]
    cases s.recordCell? r with
    | none => rfl
    | some cell =>
      simp only [Option.map_some, hf.holders, hf.refs]
      split
      · simp only [relabel, Arena.map_erase]
      · have hless := hf.withHolders cell (cell.holders - 1)
        simp only [relabel, Arena.map_set, hless]
  | arguments a =>
    have hcell : (s.relabel f).argumentsCell? a = s.argumentsCell? a := rfl
    simp only [letGo, hcell]
    cases s.argumentsCell? a with
    | none => rfl
    | some cell =>
      simp only
      split <;> rfl

theorem relabel_release (hf : RecordCell.Relabels f) (s : Store) (refs : List Ref) :
    (s.release refs).relabel f = (s.relabel f).release refs := by
  fun_induction release s refs with
  | case1 s => rw [release_nil]
  | case2 s ref rest ih => rw [ih, release_cons (s.relabel f), letGo_relabel hf]

/-- A record of its own becomes one of its own. -/
theorem create_relabel (hf : RecordCell.Relabels f) (s : Store) {record record' : Record}
    (h : f ⟨record, 1, .free⟩ = ⟨record', 1, .free⟩) :
    (s.relabel f).create record' = ((s.create record).1, (s.create record).2.relabel f) := by
  have hrefs : record'.refs = record.refs := by
    have hcell := hf.refs ⟨record, 1, .free⟩
    rwa [h] at hcell
  simp only [create, hrefs, ← relabel_retainAll hf]
  simp only [relabel, Arena.map_push, Arena.next_map, h]

theorem relabel_putSlots (hf : RecordCell.Relabels f) (s : Store) (r : RecordId)
    (slots : List Value) :
    (s.putSlots r slots).relabel f = (s.relabel f).putSlots r slots := by
  simp only [putSlots, recordCell?_relabel]
  cases s.recordCell? r with
  | none => rfl
  | some cell =>
    have hchanged := relabel_modifyRecord (s.retainAll (valueRefs slots)) r
      (g := fun held => { held with record := { held.record with slots := slots } })
      (k := fun held => { held with record := { held.record with slots := slots } })
      fun held => hf.withSlots held slots
    simp only [Option.map_some, hf.slots, relabel_release hf, ← relabel_retainAll hf, hchanged]

end Store

end LoopScope
