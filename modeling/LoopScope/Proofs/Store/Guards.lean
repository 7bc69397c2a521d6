import LoopScope.Proofs.Copies
import LoopScope.Proofs.Store.Relabel
/-!
# Guards

A guard can keep an operation from starting, and has no other influence on it. `Store.unguarded` is
a store with all guards free: what a guard does not keep from starting goes there as it goes here.
-/
namespace LoopScope

/-! ## Loans of one record -/

namespace Guard

/-- The guard of a record that has been lent in these modes, the latest loan first. Some loans are
not possible together. -/
def lentAs? : List LoanMode → Option Guard
  | [] => some free
  | mode :: older => (lentAs? older).bind fun guard => guard.lend? mode

theorem giveBack_of_lend? {before after : Guard} {mode : LoanMode}
    (h : before.lend? mode = some after) : after.giveBack = before := by
  cases before <;> cases mode <;> cases h <;> rfl

theorem eq_exclusive_iff {modes : List LoanMode} {guard : Guard}
    (h : lentAs? modes = some guard) : guard = exclusive ↔ LoanMode.exclusive ∈ modes := by
  induction modes generalizing guard with
  | nil =>
    cases h
    simp
  | cons mode older ih =>
    obtain ⟨before, hbefore, hlend⟩ := Option.bind_eq_some_iff.mp h
    have holder := ih hbefore
    cases before <;> cases mode <;> cases hlend <;> simp_all

theorem eq_free_iff {modes : List LoanMode} {guard : Guard} (h : lentAs? modes = some guard) :
    guard = free ↔ modes = [] := by
  cases modes with
  | nil =>
    cases h
    simp
  | cons mode older =>
    obtain ⟨before, -, hlend⟩ := Option.bind_eq_some_iff.mp h
    cases before <;> cases mode <;> cases hlend <;> simp

end Guard

/-! ## A store without guards -/

def RecordCell.unguarded (cell : RecordCell) : RecordCell := { cell with guard := .free }

theorem RecordCell.relabels_unguarded : Relabels unguarded :=
  ⟨fun _ => rfl, fun _ _ => rfl, fun _ _ => rfl⟩

namespace Store

variable {s : Store} {r d : RecordId} {record into : Record} {guard intoGuard : Guard}

def unguarded (s : Store) : Store := { s with records := s.records.map RecordCell.unguarded }

theorem recordCell?_unguarded (s : Store) (r : RecordId) :
    s.unguarded.recordCell? r = (s.recordCell? r).map RecordCell.unguarded :=
  Arena.get?_map _ _ _

@[simp] theorem nextRecord_unguarded (s : Store) : s.unguarded.records.next = s.records.next :=
  Arena.next_map _ _

theorem content?_unguarded (h : s.content? r = some (record, guard)) :
    s.unguarded.content? r = some (record, .free) := by
  obtain ⟨holders, hcell⟩ := exists_cell_of_content? h
  rw [content?, recordCell?_unguarded, hcell]
  rfl

@[simp] theorem unguarded_unguarded (s : Store) : s.unguarded.unguarded = s.unguarded := by
  simp only [unguarded, Arena.map, List.map_map]
  congr 3
  funext cell
  cases cell <;> rfl

theorem unguarded_modifyRecord (s : Store) (r : RecordId) {f g : RecordCell → RecordCell}
    (hf : ∀ cell, (f cell).unguarded = g cell.unguarded) :
    (s.modifyRecord r f).unguarded = s.unguarded.modifyRecord r g :=
  relabel_modifyRecord s r hf

theorem create_unguarded (s : Store) (record : Record) :
    s.unguarded.create record = ((s.create record).1, (s.create record).2.unguarded) :=
  create_relabel RecordCell.relabels_unguarded s rfl

theorem unguarded_putSlots (s : Store) (r : RecordId) (slots : List Value) :
    (s.putSlots r slots).unguarded = s.unguarded.putSlots r slots :=
  relabel_putSlots RecordCell.relabels_unguarded s r slots

/-! ## Loans in the store -/

/-- A loan lends the guard of its record and leaves all else. -/
theorem content?_of_lend {t : Store} {mode : LoanMode} (hlend : s.lend r mode = .ok t)
    (hc : t.content? d = some (record, guard)) :
    (d = r ∧ ∃ before, s.content? r = some (record, before) ∧ before.lend? mode = some guard) ∨
      d ≠ r ∧ s.content? d = some (record, guard) := by
  unfold lend at hlend
  split at hlend
  · cases hlend
  · rename_i cell hcell
    split at hlend
    · cases hlend
    · rename_i after hafter
      cases hlend
      by_cases he : d = r
      · subst he
        rw [content?_modifyRecord_self, hcell] at hc
        cases hc
        exact .inl ⟨rfl, cell.guard, content?_of_cell hcell, hafter⟩
      · rw [content?_modifyRecord_of_ne s _ he] at hc
        exact .inr ⟨he, hc⟩

theorem content?_of_giveBack (hc : (s.giveBack r).content? d = some (record, guard)) :
    (d = r ∧ ∃ before, s.content? r = some (record, before) ∧ guard = before.giveBack) ∨
      d ≠ r ∧ s.content? d = some (record, guard) := by
  have hfreed := (within_release _ _).content hc
  by_cases he : d = r
  · subst he
    rw [content?_modifyRecord_self] at hfreed
    obtain ⟨cell, hcell, hcontent⟩ := Option.map_eq_some_iff.mp hfreed
    cases hcontent
    exact .inl ⟨rfl, cell.guard, content?_of_cell hcell, rfl⟩
  · rw [content?_modifyRecord_of_ne s _ he] at hfreed
    exact .inr ⟨he, hfreed⟩

/-! ## What a guard keeps from starting -/

/-- An operation is refused as busy just when `blocked`. Else its outcome is the one that it has
without guards. -/
def RefusedWhen {α : Type} (blocked : Prop) (outcome free : Except ScopeError α) : Prop :=
  (outcome = .error .recordBusy ↔ blocked) ∧ (¬ blocked → outcome = free)

/-- All that looks into a record is refused just when `blocked`. -/
structure ReadersRefused (s : Store) (r : RecordId) (blocked : Prop) : Prop where
  get : ∀ binding, RefusedWhen blocked (s.get r binding) (s.unguarded.get r binding)
  parent : RefusedWhen blocked (s.parent r) (s.unguarded.parent r)
  snapshot : RefusedWhen blocked (s.snapshot r) (s.unguarded.snapshot r)
  readThrough : ∀ a, RefusedWhen blocked (s.readThrough r a) (s.unguarded.readThrough r a)
  clone : RefusedWhen blocked ((s.clone r).map fun made => (made.1, made.2.unguarded))
    (s.unguarded.clone r)
  lend : RefusedWhen blocked ((s.lend r .shared).map unguarded)
    ((s.unguarded.lend r .shared).map unguarded)

/-- All that changes a record is refused just when `blocked`. -/
structure WritersRefused (s : Store) (r : RecordId) (blocked : Prop) : Prop where
  set : ∀ binding value, RefusedWhen blocked ((s.set r binding value).map unguarded)
    (s.unguarded.set r binding value)
  assign : ∀ index value,
    RefusedWhen blocked ((s.assign r index value).map fun done => (done.1, done.2.unguarded))
      (s.unguarded.assign r index value)
  writeThrough : ∀ a value,
    RefusedWhen blocked
      ((s.writeThrough r a value).map fun done => (done.1, done.2.1, done.2.2.unguarded))
      (s.unguarded.writeThrough r a value)
  lend : RefusedWhen blocked ((s.lend r .exclusive).map unguarded)
    ((s.unguarded.lend r .exclusive).map unguarded)

/-- What is answered has not been refused. -/
theorem ok_ne_busy {α : Type} (value : α) :
    (.ok value : Except ScopeError α) ≠ .error .recordBusy :=
  nofun

theorem refusedWhen_toRead {α : Type} {outcome free : Except ScopeError α}
    (hc : s.content? r = some (record, guard))
    (hrefused : s.toRead r = .error .recordBusy → outcome = .error .recordBusy)
    (hadmitted : s.toRead r = .ok record → s.unguarded.toRead r = .ok record →
      outcome = free ∧ outcome ≠ .error .recordBusy) :
    RefusedWhen (guard = .exclusive) outcome free := by
  have hread := toRead_of_content? hc
  have hfree := toRead_of_content? (content?_unguarded hc)
  rw [if_neg nofun] at hfree
  by_cases hg : guard = .exclusive
  · rw [if_pos hg] at hread
    exact ⟨iff_of_true (hrefused hread) hg, fun h => (h hg).elim⟩
  · rw [if_neg hg] at hread
    obtain ⟨hsame, hok⟩ := hadmitted hread hfree
    exact ⟨iff_of_false hok hg, fun _ => hsame⟩

theorem refusedWhen_toWrite {α : Type} {outcome free : Except ScopeError α}
    (hc : s.content? r = some (record, guard))
    (hrefused : s.toWrite r = .error .recordBusy → outcome = .error .recordBusy)
    (hadmitted : s.toWrite r = .ok record → s.unguarded.toWrite r = .ok record →
      outcome = free ∧ outcome ≠ .error .recordBusy) :
    RefusedWhen (guard ≠ .free) outcome free := by
  have hwrite := toWrite_of_content? hc
  have hfree := toWrite_of_content? (content?_unguarded hc)
  rw [if_pos rfl] at hfree
  by_cases hg : guard = .free
  · rw [if_pos hg] at hwrite
    obtain ⟨hsame, hok⟩ := hadmitted hwrite hfree
    exact ⟨iff_of_false hok (not_not_intro hg), fun _ => hsame⟩
  · rw [if_neg hg] at hwrite
    exact ⟨iff_of_true (hrefused hwrite) hg, fun h => (h hg).elim⟩

/-- A loan is refused when the guard cannot be lent once more. -/
theorem refusedWhen_lend (hc : s.content? r = some (record, guard)) (mode : LoanMode) :
    RefusedWhen (guard.lend? mode = none) ((s.lend r mode).map unguarded)
      ((s.unguarded.lend r mode).map unguarded) := by
  obtain ⟨holders, hcell⟩ := exists_cell_of_content? hc
  cases hlent : guard.lend? mode with
  | none =>
    have hbusy : s.lend r mode = .error .recordBusy := by simp only [lend, hcell, hlent]
    rw [hbusy]
    exact ⟨iff_of_true rfl rfl, fun h => (h rfl).elim⟩
  | some after =>
    obtain ⟨afterFree, hfree⟩ : ∃ after, Guard.free.lend? mode = some after := by
      cases mode <;> exact ⟨_, rfl⟩
    have hlend : s.lend r mode = .ok (s.modifyRecord r fun cell =>
        { cell with guard := after, holders := cell.holders + 1 }) := by
      simp only [lend, hcell, hlent]
    have hlendFree : s.unguarded.lend r mode = .ok (s.unguarded.modifyRecord r fun cell =>
        { cell with guard := afterFree, holders := cell.holders + 1 }) := by
      simp only [lend, recordCell?_unguarded, hcell, Option.map_some, RecordCell.unguarded, hfree]
    refine ⟨iff_of_false ?_ nofun, fun _ => ?_⟩
    · rw [hlend]
      exact nofun
    · have hheld (store : Store) (guard : Guard) : (store.modifyRecord r fun cell =>
          { cell with guard := guard, holders := cell.holders + 1 }).unguarded =
          store.unguarded.modifyRecord r fun cell => { cell with holders := cell.holders + 1 } :=
        unguarded_modifyRecord store r fun _ => rfl
      rw [hlend, hlendFree, Except.map, Except.map, hheld, hheld, unguarded_unguarded]

/-- Readers are refused while a record is exclusively borrowed. -/
theorem readersRefused (hc : s.content? r = some (record, guard)) :
    s.ReadersRefused r (guard = .exclusive) where
  get binding := by
    refine refusedWhen_toRead hc (fun h => by simp only [get, h]) fun h h' => ?_
    simp only [get, h, h']
    split <;> exact ⟨trivial, nofun⟩
  parent := by
    refine refusedWhen_toRead hc (fun h => by simp only [parent, h]) fun h h' => ?_
    simp only [parent, h, h']
    split <;> exact ⟨trivial, nofun⟩
  snapshot := by
    refine refusedWhen_toRead hc (fun h => by simp only [snapshot, h]) fun h h' => ?_
    simp only [snapshot, h, h']
    exact ⟨rfl, ok_ne_busy _⟩
  readThrough a := by
    refine refusedWhen_toRead hc (fun h => by simp only [readThrough, h]) fun h h' => ?_
    simp only [readThrough, h, h']
    split <;> exact ⟨trivial, ok_ne_busy _⟩
  clone := by
    refine refusedWhen_toRead hc (fun h => by simp only [clone, h]; rfl) fun h h' => ?_
    simp only [clone, h, h', create_unguarded]
    exact ⟨rfl, ok_ne_busy _⟩
  lend := by
    have hlend : guard = .exclusive ↔ guard.lend? .shared = none := by
      cases guard <;> simp [Guard.lend?]
    rw [hlend]
    exact refusedWhen_lend hc .shared

/-- Writers are refused while a record is borrowed at all. -/
theorem writersRefused (hc : s.content? r = some (record, guard)) :
    s.WritersRefused r (guard ≠ .free) where
  set binding value := by
    refine refusedWhen_toWrite hc (fun h => by simp only [set, h]; rfl) fun h h' => ?_
    simp only [set, h, h']
    split
    · simp only [Except.map, unguarded_putSlots]
      exact ⟨trivial, ok_ne_busy _⟩
    · exact ⟨rfl, nofun⟩
  assign index value := by
    refine refusedWhen_toWrite hc (fun h => by simp only [assign, h]; rfl) fun h h' => ?_
    simp only [assign, h, h']
    split
    · simp only [Except.map, unguarded_putSlots]
      exact ⟨trivial, ok_ne_busy _⟩
    · exact ⟨rfl, nofun⟩
  writeThrough a value := by
    refine refusedWhen_toWrite hc (fun h => by simp only [writeThrough, h]; rfl) fun h h' => ?_
    simp only [writeThrough, h, h']
    split
    · simp only [Except.map, unguarded_putSlots]
      exact ⟨trivial, ok_ne_busy _⟩
    · exact ⟨rfl, nofun⟩
  lend := by
    have hlend : guard ≠ .free ↔ guard.lend? .exclusive = none := by
      cases guard <;> simp [Guard.lend?]
    rw [hlend]
    exact refusedWhen_lend hc .exclusive

end Store

/-! ## Copies -/

namespace Operator

variable {digest : Layout.DigestFunction} {op : Operator} {s : Store}
  {source destination : RecordId} {record into : Record} {guard intoGuard : Guard}

/-- Materializing is refused as busy just when `blocked`. Else it comes out as it does without
guards. -/
structure MaterializeRefused (op : Operator) (s : Store) (source : RecordId) (blocked : Prop) :
    Prop where
  busy : (op.materialize s source).1 = .error .recordBusy ↔ blocked
  admitted : ¬ blocked → op.materialize s.unguarded source =
    ((op.materialize s source).1, (op.materialize s source).2.1,
      (op.materialize s source).2.2.unguarded)

/-- A refresh is refused as busy just when `blocked`. Else it comes out as it does without
guards. -/
structure CopyRefused (op : Operator) (debugChecks : Bool) (s : Store)
    (destination source : RecordId) (blocked : Prop) : Prop where
  busy : (op.copyInto debugChecks s destination source).1 = .error .recordBusy ↔ blocked
  admitted : ¬ blocked → op.copyInto debugChecks s.unguarded destination source =
    ((op.copyInto debugChecks s destination source).1,
      (op.copyInto debugChecks s destination source).2.1,
      (op.copyInto debugChecks s destination source).2.2.unguarded)

theorem WellFormed.materializeRefused (h : op.WellFormed digest)
    (hc : s.content? source = some (record, guard)) :
    op.MaterializeRefused s source (guard = .exclusive) := by
  have hrun := materialize_eq h hc
  have hfree := materialize_eq h (Store.content?_unguarded hc)
  rw [if_neg nofun] at hfree
  by_cases hg : guard = .exclusive
  · rw [if_pos hg] at hrun
    exact ⟨iff_of_true (congrArg Prod.fst hrun) hg, fun hne => (hne hg).elim⟩
  rw [if_neg hg] at hrun
  by_cases hconforms : record.conformsTo op.schema
  · rw [if_pos hconforms] at hrun hfree
    rw [Store.create_unguarded, Store.nextRecord_unguarded] at hfree
    exact ⟨iff_of_false (by rw [hrun]; exact nofun) hg, fun _ => by rw [hrun, hfree]⟩
  · rw [if_neg hconforms] at hrun hfree
    exact ⟨iff_of_false (by rw [hrun]; exact nofun) hg, fun _ => by rw [hrun, hfree]; rfl⟩

theorem copyRefused_self (op : Operator) (debugChecks : Bool)
    (hc : s.content? source = some (record, guard)) :
    op.CopyRefused debugChecks s source source (guard = .exclusive) := by
  have hrun := copyInto_self_eq op debugChecks hc
  have hfree := copyInto_self_eq op debugChecks (Store.content?_unguarded hc)
  rw [if_neg nofun] at hfree
  by_cases hg : guard = .exclusive
  · rw [if_pos hg] at hrun
    exact ⟨iff_of_true (congrArg Prod.fst hrun) hg, fun hne => (hne hg).elim⟩
  rw [if_neg hg] at hrun
  by_cases hconforms : record.conformsTo op.schema
  · rw [if_pos hconforms] at hrun hfree
    exact ⟨iff_of_false (by rw [hrun]; exact nofun) hg, fun _ => by rw [hrun, hfree]⟩
  · rw [if_neg hconforms] at hrun hfree
    exact ⟨iff_of_false (by rw [hrun]; exact nofun) hg, fun _ => by rw [hrun, hfree]; rfl⟩

theorem checkRefresh_ne_busy (op : Operator) (debugChecks : Bool) (source into : Record) :
    op.checkRefresh debugChecks source into ≠ .error .recordBusy := by
  rw [checkRefresh_eq]
  split
  · exact nofun
  · split
    · exact nofun
    · split <;> exact nofun

theorem WellFormed.copyRefused (h : op.WellFormed digest) (debugChecks : Bool)
    (hne : destination ≠ source)
    (hd : s.content? destination = some (into, intoGuard))
    (hc : s.content? source = some (record, guard)) :
    op.CopyRefused debugChecks s destination source (guard = .exclusive ∨ intoGuard ≠ .free) := by
  have hrun := copyInto_eq h debugChecks hne hd hc
  have hfree :=
    copyInto_eq h debugChecks hne (Store.content?_unguarded hd) (Store.content?_unguarded hc)
  rw [if_neg (by simp)] at hfree
  by_cases hg : guard = .exclusive ∨ intoGuard ≠ .free
  · rw [if_pos hg] at hrun
    exact ⟨iff_of_true (congrArg Prod.fst hrun) hg, fun hne => (hne hg).elim⟩
  rw [if_neg hg] at hrun
  cases hcheck : op.checkRefresh debugChecks record into with
  | error e =>
    have hbusy : e ≠ .recordBusy := by
      rintro rfl
      exact op.checkRefresh_ne_busy debugChecks record into hcheck
    rw [hcheck] at hrun hfree
    refine ⟨iff_of_false ?_ hg, fun _ => by rw [hrun, hfree]; rfl⟩
    rw [hrun]
    exact fun h => hbusy (Except.error.inj h)
  | ok checked =>
    rw [hcheck] at hrun hfree
    refine ⟨iff_of_false (by rw [hrun]; exact nofun) hg, fun _ => ?_⟩
    rw [hrun, hfree, ← Store.unguarded_putSlots]

end Operator

end LoopScope
