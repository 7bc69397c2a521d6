import LoopScope.Arena
import LoopScope.Record
/-!
# The store

The store keeps every record and argument list while somebody holds it, with the number of its
holders. Whoever lets go of the last hold takes the cell away, and with it all holds that the cell
had on others: `Store.release` follows such a cascade to its end. A record also has a guard, which
says who may look into it.
-/
namespace LoopScope

/-- Who has borrowed a record. -/
inductive Guard
  | free
  /-- One reader and `more` besides. -/
  | shared (more : Nat)
  | exclusive
deriving DecidableEq, Repr

/-- The two ways to borrow a record. -/
inductive LoanMode
  | shared
  | exclusive
deriving DecidableEq, Repr

namespace Guard

/-- The guard with one more borrower, if it can have one. -/
def lend? : Guard → LoanMode → Option Guard
  | free, .shared => some (shared 0)
  | shared more, .shared => some (shared (more + 1))
  | free, .exclusive => some exclusive
  | exclusive, _ | shared _, .exclusive => none

/-- The guard after one borrower has gone. -/
def giveBack : Guard → Guard
  | shared (more + 1) => shared more
  | free | shared 0 | exclusive => free

/-- Whether a reader may look. -/
def admitsReader (g : Guard) : Bool := (g.lend? .shared).isSome

/-- Whether a writer may write. -/
def admitsWriter (g : Guard) : Bool := (g.lend? .exclusive).isSome

end Guard

/-- Something with holders. -/
inductive Ref
  | record (r : RecordId)
  | arguments (a : ArgumentsId)
deriving DecidableEq, Repr

/-- The holds that a value has. -/
def Value.refs : Value → List Ref
  | .scope r => [.record r]
  | _ => []

def valueRefs (values : List Value) : List Ref := values.flatMap Value.refs

/-- The holds that a record has: those of its slots, and one on its argument list. -/
def Record.refs (r : Record) : List Ref := valueRefs r.slots ++ [.arguments r.arguments]

structure RecordCell where
  record : Record
  holders : Nat
  guard : Guard
deriving DecidableEq, Repr

structure ArgumentsCell where
  values : List Value
  holders : Nat
deriving DecidableEq, Repr

structure Store where
  records : Arena RecordCell
  arguments : Arena ArgumentsCell
deriving Repr

namespace Store

def empty : Store := ⟨.empty, .empty⟩

def recordCell? (s : Store) (r : RecordId) : Option RecordCell := s.records.get? r.number

def argumentsCell? (s : Store) (a : ArgumentsId) : Option ArgumentsCell := s.arguments.get? a.number

/-- The number of cells that are there. -/
def size (s : Store) : Nat := s.records.size + s.arguments.size

/-- How many hold a record. -/
def holders (s : Store) (r : RecordId) : Nat :=
  ((s.recordCell? r).map RecordCell.holders).getD 0

/-- The values of an argument list. -/
def argumentValues (s : Store) (a : ArgumentsId) : List Value :=
  ((s.argumentsCell? a).map ArgumentsCell.values).getD []

/-- Changes the cell of a record, if it is there. -/
def modifyRecord (s : Store) (r : RecordId) (f : RecordCell → RecordCell) : Store :=
  match s.recordCell? r with
  | some cell => { s with records := s.records.set r.number (f cell) }
  | none => s

/-- Changes the cell of an argument list, if it is there. -/
def modifyArguments (s : Store) (a : ArgumentsId) (f : ArgumentsCell → ArgumentsCell) : Store :=
  match s.argumentsCell? a with
  | some cell => { s with arguments := s.arguments.set a.number (f cell) }
  | none => s

/-! ## Holds -/

/-- One more hold on something. -/
def retain (s : Store) : Ref → Store
  | .record r => s.modifyRecord r fun cell => { cell with holders := cell.holders + 1 }
  | .arguments a => s.modifyArguments a fun cell => { cell with holders := cell.holders + 1 }

def retainAll (s : Store) (refs : List Ref) : Store := refs.foldl retain s

/-- One hold less on something. With the last one the cell goes, and the holds that it had are
given out to be released too. -/
def letGo (s : Store) : Ref → Store × List Ref
  | .record r =>
    match s.recordCell? r with
    | some cell =>
      if cell.holders ≤ 1 then ({ s with records := s.records.erase r.number }, cell.record.refs)
      else
        ({ s with records := s.records.set r.number { cell with holders := cell.holders - 1 } }, [])
    | none => (s, [])
  | .arguments a =>
    match s.argumentsCell? a with
    | some cell =>
      if cell.holders ≤ 1 then
        ({ s with arguments := s.arguments.erase a.number }, valueRefs cell.values)
      else
        ({ s with arguments := s.arguments.set a.number { cell with holders := cell.holders - 1 } },
          [])
    | none => (s, [])

/-- Letting go either takes a cell away or gives out nothing. -/
theorem size_letGo (s : Store) (ref : Ref) :
    (s.letGo ref).1.size < s.size ∨
      (s.letGo ref).1.size = s.size ∧ (s.letGo ref).2 = [] := by
  cases ref with
  | record r =>
    cases h : s.recordCell? r with
    | none => simp [letGo, h]
    | some cell =>
      by_cases hc : cell.holders ≤ 1
      · have := Arena.size_erase h
        simp only [letGo, h, hc, if_true, size]
        omega
      · simp [letGo, h, hc, size, Arena.size_set]
  | arguments a =>
    cases h : s.argumentsCell? a with
    | none => simp [letGo, h]
    | some cell =>
      by_cases hc : cell.holders ≤ 1
      · have := Arena.size_erase h
        simp only [letGo, h, hc, if_true, size]
        omega
      · simp [letGo, h, hc, size, Arena.size_set]

/-- Lets go of everything listed, and of everything that those holds kept in being. -/
def release (s : Store) : List Ref → Store
  | [] => s
  | ref :: rest => (s.letGo ref).1.release ((s.letGo ref).2 ++ rest)
termination_by refs => (s.size, refs.length)
decreasing_by
  rcases size_letGo s ref with h | ⟨h, hnil⟩
  · exact Prod.Lex.left _ _ h
  · rw [h, hnil]
    exact Prod.Lex.right _ (by simp)

@[simp] theorem release_nil (s : Store) : s.release [] = s := by
  rw [release]

theorem release_cons (s : Store) (ref : Ref) (rest : List Ref) :
    s.release (ref :: rest) = (s.letGo ref).1.release ((s.letGo ref).2 ++ rest) := by
  rw [release]

/-! ## Making and changing cells -/

/-- A new record, held by whoever made it. -/
def create (s : Store) (record : Record) : RecordId × Store :=
  let s := s.retainAll record.refs
  (⟨s.records.next⟩, { s with records := s.records.push ⟨record, 1, .free⟩ })

/-- A new argument list, held by whoever made it. -/
def createArguments (s : Store) (values : List Value) : ArgumentsId × Store :=
  let s := s.retainAll (valueRefs values)
  (⟨s.arguments.next⟩, { s with arguments := s.arguments.push ⟨values, 1⟩ })

/-- Puts other values into the slots of a record. The new ones are held before the old ones are
let go, so nothing that both hold is lost in between. -/
def putSlots (s : Store) (r : RecordId) (slots : List Value) : Store :=
  match s.recordCell? r with
  | none => s
  | some cell =>
    let changed := (s.retainAll (valueRefs slots)).modifyRecord r fun held =>
      { held with record := { held.record with slots := slots } }
    changed.release (valueRefs cell.record.slots)

/-! ## Borrowing -/

/-- A record that a reader may look into. One that is not in the store counts as busy. -/
def toRead (s : Store) (r : RecordId) : Except ScopeError Record :=
  match s.recordCell? r with
  | some cell => if cell.guard.admitsReader then .ok cell.record else .error .recordBusy
  | none => .error .recordBusy

/-- A record that a writer may change. One that is not in the store counts as busy. -/
def toWrite (s : Store) (r : RecordId) : Except ScopeError Record :=
  match s.recordCell? r with
  | some cell => if cell.guard.admitsWriter then .ok cell.record else .error .recordBusy
  | none => .error .recordBusy

/-- Borrows a record until `giveBack`. The borrower holds it as well. -/
def lend (s : Store) (r : RecordId) (mode : LoanMode) : Except ScopeError Store :=
  match s.recordCell? r with
  | none => .error .recordBusy
  | some cell =>
    match cell.guard.lend? mode with
    | none => .error .recordBusy
    | some guard =>
      .ok (s.modifyRecord r fun cell => { cell with guard := guard, holders := cell.holders + 1 })

/-- Ends one loan of a record. -/
def giveBack (s : Store) (r : RecordId) : Store :=
  (s.modifyRecord r fun cell => { cell with guard := cell.guard.giveBack }).release [.record r]

end Store

end LoopScope
