import LoopScope.Proofs.Copies
import LoopScope.Proofs.Store.Relabel
/-!
# Stores without instance numbers

`Store.unnumbered` is a store whose records have forgotten which instance of their schema they were
made with; what the schema says stays. Reading and writing records looks at nothing else of it.
-/
namespace LoopScope

def SharedSchema.renumber (shared : SharedSchema) (number : Nat) : SharedSchema :=
  { shared with number := number }

def SharedSchema.unnumbered (shared : SharedSchema) : SharedSchema := shared.renumber 0

def Record.renumber (record : Record) (number : Nat) : Record :=
  { record with schema := record.schema.renumber number }

def Record.unnumbered (record : Record) : Record := record.renumber 0

/-- Records that differ in the number of their schema instance at most. -/
theorem Record.eq_renumber {a b : Record} (h : a.unnumbered = b.unnumbered) :
    b = a.renumber b.schema.number := by
  obtain ⟨⟨number, schema⟩, slots, arguments⟩ := a
  obtain ⟨⟨number', schema'⟩, slots', arguments'⟩ := b
  cases h
  rfl

theorem Record.assign?_unnumbered (record : Record) (index : Nat) (value : Value) :
    record.unnumbered.assign? index value =
      (record.assign? index value).map Record.unnumbered := by
  rw [assign?, assign?, apply_ite (Option.map Record.unnumbered)]
  rfl

def RecordCell.unnumbered (cell : RecordCell) : RecordCell :=
  { cell with record := cell.record.unnumbered }

theorem RecordCell.relabels_unnumbered : Relabels unnumbered :=
  ⟨fun _ => rfl, fun _ _ => rfl, fun _ _ => rfl⟩

namespace Store

/-- The store whose records have forgotten the numbers of their schema instances. -/
def unnumbered (s : Store) : Store := s.relabel RecordCell.unnumbered

variable {s t : Store}

theorem recordCell?_unnumbered (s : Store) (r : RecordId) :
    s.unnumbered.recordCell? r = (s.recordCell? r).map RecordCell.unnumbered :=
  recordCell?_relabel s r

@[simp] theorem nextRecord_unnumbered (s : Store) :
    s.unnumbered.records.next = s.records.next :=
  Arena.next_map _ _

theorem content?_unnumbered (s : Store) (r : RecordId) :
    s.unnumbered.content? r =
      (s.content? r).map fun content => (content.1.unnumbered, content.2) := by
  rw [content?, content?, recordCell?_unnumbered]
  cases s.recordCell? r <;> rfl

/-- In stores that differ in instance numbers at most, the same records are there, guarded alike. -/
theorem exists_content_of_unnumbered (hst : s.unnumbered = t.unnumbered) {r : RecordId}
    {record : Record} {guard : Guard} (hc : s.content? r = some (record, guard)) :
    ∃ number, t.content? r = some (record.renumber number, guard) := by
  have hcontent : (t.content? r).map (fun content => (content.1.unnumbered, content.2)) =
      some (record.unnumbered, guard) := by
    rw [← content?_unnumbered, ← hst, content?_unnumbered, hc]
    rfl
  obtain ⟨⟨record', guard'⟩, hc', heq⟩ := Option.map_eq_some_iff.mp hcontent
  obtain ⟨hrecord, hguard⟩ := Prod.mk.inj heq
  have hsame : record' = record.renumber record'.schema.number :=
    Record.eq_renumber hrecord.symm
  refine ⟨record'.schema.number, ?_⟩
  rw [← hsame, ← hguard]
  exact hc'

/-! ## Holding -/

theorem unnumbered_retain (s : Store) (ref : Ref) :
    (s.retain ref).unnumbered = s.unnumbered.retain ref :=
  relabel_retain RecordCell.relabels_unnumbered s ref

theorem unnumbered_retainAll (s : Store) (refs : List Ref) :
    (s.retainAll refs).unnumbered = s.unnumbered.retainAll refs :=
  relabel_retainAll RecordCell.relabels_unnumbered s refs

theorem unnumbered_release (s : Store) (refs : List Ref) :
    (s.release refs).unnumbered = s.unnumbered.release refs :=
  relabel_release RecordCell.relabels_unnumbered s refs

theorem create_unnumbered (s : Store) (record : Record) :
    s.unnumbered.create record.unnumbered =
      ((s.create record).1, (s.create record).2.unnumbered) :=
  create_relabel RecordCell.relabels_unnumbered s rfl

theorem createArguments_unnumbered (s : Store) (values : List Value) :
    s.unnumbered.createArguments values =
      ((s.createArguments values).1, (s.createArguments values).2.unnumbered) := by
  simp only [createArguments, ← unnumbered_retainAll]
  rfl

theorem unnumbered_putSlots (s : Store) (r : RecordId) (slots : List Value) :
    (s.putSlots r slots).unnumbered = s.unnumbered.putSlots r slots :=
  relabel_putSlots RecordCell.relabels_unnumbered s r slots

theorem unnumbered_giveBack (s : Store) (r : RecordId) :
    (s.giveBack r).unnumbered = s.unnumbered.giveBack r := by
  rw [giveBack, unnumbered_release]
  exact congrArg (release · [.record r]) (relabel_modifyRecord s r fun _ => rfl)

/-! ## Reading and writing -/

theorem toRead_unnumbered (s : Store) (r : RecordId) :
    s.unnumbered.toRead r = (s.toRead r).map Record.unnumbered := by
  simp only [toRead, recordCell?_unnumbered]
  cases s.recordCell? r with
  | none => rfl
  | some cell =>
    simp only [Option.map_some, RecordCell.unnumbered]
    split <;> rfl

theorem toWrite_unnumbered (s : Store) (r : RecordId) :
    s.unnumbered.toWrite r = (s.toWrite r).map Record.unnumbered := by
  simp only [toWrite, recordCell?_unnumbered]
  cases s.recordCell? r with
  | none => rfl
  | some cell =>
    simp only [Option.map_some, RecordCell.unnumbered]
    split <;> rfl

theorem holders_unnumbered (s : Store) (r : RecordId) : s.unnumbered.holders r = s.holders r := by
  rw [holders, holders, recordCell?_unnumbered]
  cases s.recordCell? r <;> rfl

theorem get_unnumbered (s : Store) (r : RecordId) (name : String) :
    s.unnumbered.get r name = s.get r name := by
  rw [get, get, toRead_unnumbered]
  cases s.toRead r <;> rfl

theorem parent_unnumbered (s : Store) (r : RecordId) : s.unnumbered.parent r = s.parent r := by
  rw [parent, parent, toRead_unnumbered]
  cases s.toRead r <;> rfl

theorem snapshot_unnumbered (s : Store) (r : RecordId) :
    s.unnumbered.snapshot r = s.snapshot r := by
  rw [snapshot, snapshot, toRead_unnumbered]
  cases s.toRead r <;> rfl

theorem readThrough_unnumbered (s : Store) (r : RecordId) (a : Accessor) :
    s.unnumbered.readThrough r a = s.readThrough r a := by
  rw [readThrough, readThrough, toRead_unnumbered]
  cases s.toRead r <;> rfl

theorem set_unnumbered (s : Store) (r : RecordId) (name : String) (value : Value) :
    s.unnumbered.set r name value = (s.set r name value).map unnumbered := by
  rw [set, set, toWrite_unnumbered]
  cases s.toWrite r with
  | error e => rfl
  | ok record =>
    have hindex : record.unnumbered.schema.schema.indexOf? name =
      record.schema.schema.indexOf? name := rfl
    simp only [Except.map, hindex, ← unnumbered_putSlots]
    cases record.schema.schema.indexOf? name <;> rfl

theorem assign_unnumbered (s : Store) (r : RecordId) (index : Nat) (value : Value) :
    s.unnumbered.assign r index value =
      (s.assign r index value).map fun done => (done.1, done.2.unnumbered) := by
  rw [assign, assign, toWrite_unnumbered]
  cases s.toWrite r with
  | error e => rfl
  | ok record =>
    simp only [Except.map, Record.assign?_unnumbered]
    cases record.assign? index value with
    | none => rfl
    | some changed =>
      simp only [Option.map_some, unnumbered_putSlots]
      rfl

theorem writeThrough_unnumbered (s : Store) (r : RecordId) (a : Accessor) (value : Value) :
    s.unnumbered.writeThrough r a value =
      (s.writeThrough r a value).map fun done => (done.1, done.2.1, done.2.2.unnumbered) := by
  rw [writeThrough, writeThrough, toWrite_unnumbered]
  cases s.toWrite r with
  | error e => rfl
  | ok record =>
    simp only [Except.map, Accessor.write, Record.assign?_unnumbered]
    cases record.assign? a.index value with
    | none => rfl
    | some changed =>
      simp only [Option.map_some, unnumbered_putSlots]
      rfl

theorem clone_unnumbered (s : Store) (r : RecordId) :
    s.unnumbered.clone r = (s.clone r).map fun made => (made.1, made.2.unnumbered) := by
  rw [clone, clone, toRead_unnumbered]
  cases s.toRead r with
  | error e => rfl
  | ok record => exact congrArg Except.ok (create_unnumbered s record)

theorem createAlone_unnumbered (s : Store) (schema : SharedSchema) (parent : Value) :
    s.unnumbered.createAlone schema.unnumbered parent =
      ((s.createAlone schema parent).1, (s.createAlone schema parent).2.unnumbered) := by
  have hnew (a : ArgumentsId) : Record.new schema.unnumbered parent a =
      (Record.new schema parent a).unnumbered := rfl
  simp only [createAlone, createArguments_unnumbered, hnew, create_unnumbered, unnumbered_release]

theorem lend_unnumbered (s : Store) (r : RecordId) (mode : LoanMode) :
    s.unnumbered.lend r mode = (s.lend r mode).map unnumbered := by
  simp only [lend, recordCell?_unnumbered]
  cases s.recordCell? r with
  | none => rfl
  | some cell =>
    simp only [Option.map_some, RecordCell.unnumbered]
    cases cell.guard.lend? mode with
    | none => rfl
    | some guard =>
      have hlent : (s.modifyRecord r fun cell =>
          { cell with guard := guard, holders := cell.holders + 1 }).unnumbered =
          s.unnumbered.modifyRecord r fun cell =>
            { cell with guard := guard, holders := cell.holders + 1 } :=
        relabel_modifyRecord s r fun _ => rfl
      simp only [Except.map, hlent]

end Store

end LoopScope
