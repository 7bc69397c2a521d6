import LoopScope.Proofs.Store.Contents
/-!
# Holds and holders

Every cell carries the number of its holders. `Store.Balanced` says that this number is right: it
is the number of holds that the cells of the store have on it, plus the number of those held from
outside, and a cell is there as long as somebody holds it. Every operation keeps the balance, so
whatever is held from outside stays in the store.
-/
namespace LoopScope.Store

/-- All holds that cells of the store have. -/
def refs (s : Store) : List Ref :=
  s.records.toList.flatMap (fun cell => cell.record.refs) ++
    s.arguments.toList.flatMap fun cell => valueRefs cell.values

/-- The number of holders that a cell carries, zero if there is no cell. -/
def holdersOf (s : Store) : Ref → Nat
  | .record r => s.holders r
  | .arguments a => ((s.argumentsCell? a).map ArgumentsCell.holders).getD 0

/-- There is a cell of this number. -/
def Live (s : Store) : Ref → Prop
  | .record r => (s.recordCell? r).isSome
  | .arguments a => (s.argumentsCell? a).isSome

/-- The numbers of holders are right, `held` being what is held from outside the store. -/
structure Balanced (s : Store) (held : List Ref) : Prop where
  counts : ∀ ref, s.holdersOf ref = s.refs.count ref + held.count ref
  positive : ∀ ref, s.Live ref → 0 < s.holdersOf ref

/-! ## Numbers of holders and what is there -/

theorem holdersOf_record {s : Store} {r : RecordId} {cell : RecordCell}
    (h : s.recordCell? r = some cell) : s.holdersOf (.record r) = cell.holders := by
  simp [holdersOf, holders, h]

theorem holdersOf_arguments {s : Store} {a : ArgumentsId} {cell : ArgumentsCell}
    (h : s.argumentsCell? a = some cell) : s.holdersOf (.arguments a) = cell.holders := by
  simp [holdersOf, h]

theorem live_of_holders_pos {s : Store} {ref : Ref} (h : 0 < s.holdersOf ref) : s.Live ref := by
  cases ref with
  | record r =>
    cases hr : s.recordCell? r with
    | none => simp [holdersOf, holders, hr] at h
    | some cell => simp [Live, hr]
  | arguments a =>
    cases ha : s.argumentsCell? a with
    | none => simp [holdersOf, ha] at h
    | some cell => simp [Live, ha]

theorem Balanced.live_of_mem_held {s : Store} {held : List Ref} (h : s.Balanced held) {ref : Ref}
    (hm : ref ∈ held) : s.Live ref := by
  have hpos := List.count_pos_iff.mpr hm
  have hc := h.counts ref
  exact live_of_holders_pos (by omega)

theorem Balanced.live_of_mem_refs {s : Store} {held : List Ref} (h : s.Balanced held) {ref : Ref}
    (hm : ref ∈ s.refs) : s.Live ref := by
  have hpos := List.count_pos_iff.mpr hm
  have hc := h.counts ref
  exact live_of_holders_pos (by omega)

theorem Balanced.perm {s : Store} {held held' : List Ref} (h : s.Balanced held)
    (hp : held.Perm held') : s.Balanced held' where
  counts ref := by rw [← hp.count_eq]; exact h.counts ref
  positive := h.positive

/-- A record that is held from outside has a cell. -/
theorem Balanced.exists_content {s : Store} {held : List Ref} (h : s.Balanced held) {r : RecordId}
    (hm : Ref.record r ∈ held) : ∃ record guard, s.content? r = some (record, guard) := by
  obtain ⟨cell, hcell⟩ := Option.isSome_iff_exists.mp (h.live_of_mem_held hm)
  exact ⟨cell.record, cell.guard, content?_of_cell hcell⟩

/-! ## The holds of the cells -/

theorem count_refs_setRecord {s : Store} {r : RecordId} {old : RecordCell}
    (h : s.recordCell? r = some old) (new : RecordCell) (ref : Ref) :
    ({ s with records := s.records.set r.number new } : Store).refs.count ref +
        old.record.refs.count ref =
      s.refs.count ref + new.record.refs.count ref := by
  obtain ⟨before, after, hlist, hset, -⟩ := Arena.toList_split h
  simp only [refs, hlist, hset, List.flatMap_append, List.flatMap_cons, List.count_append]
  omega

theorem count_refs_eraseRecord {s : Store} {r : RecordId} {old : RecordCell}
    (h : s.recordCell? r = some old) (ref : Ref) :
    ({ s with records := s.records.erase r.number } : Store).refs.count ref +
        old.record.refs.count ref =
      s.refs.count ref := by
  obtain ⟨before, after, hlist, -, herase⟩ := Arena.toList_split h
  simp only [refs, hlist, herase, List.flatMap_append, List.flatMap_cons, List.count_append]
  omega

theorem count_refs_setArguments {s : Store} {a : ArgumentsId} {old : ArgumentsCell}
    (h : s.argumentsCell? a = some old) (new : ArgumentsCell) (ref : Ref) :
    ({ s with arguments := s.arguments.set a.number new } : Store).refs.count ref +
        (valueRefs old.values).count ref =
      s.refs.count ref + (valueRefs new.values).count ref := by
  obtain ⟨before, after, hlist, hset, -⟩ := Arena.toList_split h
  simp only [refs, hlist, hset, List.flatMap_append, List.flatMap_cons, List.count_append]
  omega

theorem count_refs_eraseArguments {s : Store} {a : ArgumentsId} {old : ArgumentsCell}
    (h : s.argumentsCell? a = some old) (ref : Ref) :
    ({ s with arguments := s.arguments.erase a.number } : Store).refs.count ref +
        (valueRefs old.values).count ref =
      s.refs.count ref := by
  obtain ⟨before, after, hlist, -, herase⟩ := Arena.toList_split h
  simp only [refs, hlist, herase, List.flatMap_append, List.flatMap_cons, List.count_append]
  omega

/-- A record in the store holds what is in its slots, and its argument list. -/
theorem mem_refs_of_content? {s : Store} {r : RecordId} {record : Record} {guard : Guard}
    (h : s.content? r = some (record, guard)) {ref : Ref} (hm : ref ∈ record.refs) :
    ref ∈ s.refs := by
  obtain ⟨holders, hcell⟩ := exists_cell_of_content? h
  have hc := count_refs_eraseRecord hcell ref
  have hpos : 0 < record.refs.count ref := List.count_pos_iff.mpr hm
  apply List.count_pos_iff.mp
  rw [← hc]
  exact Nat.add_pos_right _ hpos

/-- An argument list in the store holds what is in it. -/
theorem mem_refs_of_values? {s : Store} {a : ArgumentsId} {values : List Value}
    (h : s.values? a = some values) {ref : Ref} (hm : ref ∈ valueRefs values) : ref ∈ s.refs := by
  obtain ⟨cell, hcell, rfl⟩ := Option.map_eq_some_iff.mp h
  have hc := count_refs_eraseArguments hcell ref
  have hpos : 0 < (valueRefs cell.values).count ref := List.count_pos_iff.mpr hm
  apply List.count_pos_iff.mp
  rw [← hc]
  exact Nat.add_pos_right _ hpos

theorem Balanced.live_of_content? {s : Store} {held : List Ref} (h : s.Balanced held)
    {r : RecordId} {record : Record} {guard : Guard}
    (hr : s.content? r = some (record, guard)) {ref : Ref} (hm : ref ∈ record.refs) :
    s.Live ref :=
  h.live_of_mem_refs (mem_refs_of_content? hr hm)

/-! ## Changes of one cell -/

@[simp] theorem live_modifyRecord (s : Store) (r : RecordId) (f : RecordCell → RecordCell)
    (ref : Ref) : (s.modifyRecord r f).Live ref ↔ s.Live ref := by
  cases ref with
  | record other =>
    by_cases he : other = r
    · subst he
      simp [Live, recordCell?_modifyRecord_self]
    · simp [Live, recordCell?_modifyRecord_of_ne s f he]
  | arguments a => simp [Live]

@[simp] theorem live_modifyArguments (s : Store) (a : ArgumentsId)
    (f : ArgumentsCell → ArgumentsCell) (ref : Ref) :
    (s.modifyArguments a f).Live ref ↔ s.Live ref := by
  cases ref with
  | record r => simp [Live, recordCell?]
  | arguments other =>
    by_cases he : other = a
    · subst he
      simp [Live, argumentsCell?_modifyArguments_self]
    · simp [Live, argumentsCell?_modifyArguments_of_ne s f he]

private theorem holdersOf_modifyRecord {s : Store} {r : RecordId} {cell : RecordCell}
    (h : s.recordCell? r = some cell) (f : RecordCell → RecordCell) (ref : Ref) :
    (s.modifyRecord r f).holdersOf ref =
      if ref = .record r then (f cell).holders else s.holdersOf ref := by
  by_cases he : ref = .record r
  · have hself : (s.modifyRecord r f).recordCell? r = some (f cell) := by
      rw [recordCell?_modifyRecord_self, h]
      rfl
    rw [if_pos he, he, holdersOf_record hself]
  · rw [if_neg he]
    cases ref with
    | record other =>
      have hne : other ≠ r := fun h => he (congrArg Ref.record h)
      simp only [holdersOf, holders, recordCell?_modifyRecord_of_ne s f hne]
    | arguments a => simp only [holdersOf, argumentsCell?_modifyRecord]

private theorem holdersOf_modifyArguments {s : Store} {a : ArgumentsId} {cell : ArgumentsCell}
    (h : s.argumentsCell? a = some cell) (f : ArgumentsCell → ArgumentsCell) (ref : Ref) :
    (s.modifyArguments a f).holdersOf ref =
      if ref = .arguments a then (f cell).holders else s.holdersOf ref := by
  by_cases he : ref = .arguments a
  · have hself : (s.modifyArguments a f).argumentsCell? a = some (f cell) := by
      rw [argumentsCell?_modifyArguments_self, h]
      rfl
    rw [if_pos he, he, holdersOf_arguments hself]
  · rw [if_neg he]
    cases ref with
    | record r => simp only [holdersOf, holders, recordCell?, records_modifyArguments]
    | arguments other =>
      have hne : other ≠ a := fun h => he (congrArg Ref.arguments h)
      simp only [holdersOf, argumentsCell?_modifyArguments_of_ne s f hne]

/-- The balance after a change of one record: what the cell holds and the number of its holders may
change as long as the holds from outside make up for it. -/
theorem Balanced.modifyRecord {s : Store} {held held' : List Ref} (h : s.Balanced held)
    {r : RecordId} {cell : RecordCell} (hcell : s.recordCell? r = some cell)
    (f : RecordCell → RecordCell) (hpos : 0 < (f cell).holders)
    (hcount : ∀ ref, (f cell).record.refs.count ref + held'.count ref +
        (if ref = .record r then cell.holders else 0) =
      cell.record.refs.count ref + held.count ref +
        if ref = .record r then (f cell).holders else 0) :
    (s.modifyRecord r f).Balanced held' := by
  have hrefs (ref : Ref) : (s.modifyRecord r f).refs.count ref + cell.record.refs.count ref =
      s.refs.count ref + (f cell).record.refs.count ref := by
    simpa only [Store.modifyRecord, hcell] using count_refs_setRecord hcell (f cell) ref
  constructor
  · intro ref
    have hc := h.counts ref
    have hr := hrefs ref
    have hd := hcount ref
    rw [holdersOf_modifyRecord hcell]
    by_cases he : ref = .record r
    · rw [he, holdersOf_record hcell] at hc
      rw [if_pos he, if_pos he] at hd
      rw [if_pos he]
      rw [he] at hd hr ⊢
      omega
    · rw [if_neg he, if_neg he] at hd
      rw [if_neg he]
      omega
  · intro ref hl
    rw [holdersOf_modifyRecord hcell]
    by_cases he : ref = .record r
    · rw [if_pos he]
      exact hpos
    · rw [if_neg he]
      exact h.positive ref ((live_modifyRecord s r f ref).mp hl)

/-- The balance after a change of the number of holders of an argument list. -/
theorem Balanced.modifyArguments {s : Store} {held held' : List Ref} (h : s.Balanced held)
    {a : ArgumentsId} {cell : ArgumentsCell} (hcell : s.argumentsCell? a = some cell)
    (f : ArgumentsCell → ArgumentsCell) (hvalues : (f cell).values = cell.values)
    (hpos : 0 < (f cell).holders)
    (hcount : ∀ ref, held'.count ref + (if ref = .arguments a then cell.holders else 0) =
      held.count ref + if ref = .arguments a then (f cell).holders else 0) :
    (s.modifyArguments a f).Balanced held' := by
  have hrefs (ref : Ref) : (s.modifyArguments a f).refs.count ref = s.refs.count ref := by
    have hc := count_refs_setArguments hcell (f cell) ref
    rw [hvalues] at hc
    simpa only [Store.modifyArguments, hcell] using Nat.add_right_cancel hc
  constructor
  · intro ref
    have hc := h.counts ref
    have hd := hcount ref
    rw [holdersOf_modifyArguments hcell, hrefs]
    by_cases he : ref = .arguments a
    · rw [he, holdersOf_arguments hcell] at hc
      rw [if_pos he, if_pos he] at hd
      rw [if_pos he]
      rw [he] at hd ⊢
      omega
    · rw [if_neg he, if_neg he] at hd
      rw [if_neg he]
      omega
  · intro ref hl
    rw [holdersOf_modifyArguments hcell]
    by_cases he : ref = .arguments a
    · rw [if_pos he]
      exact hpos
    · rw [if_neg he]
      exact h.positive ref ((live_modifyArguments s a f ref).mp hl)

/-! ## Taking and releasing holds -/

theorem live_retain (s : Store) (ref other : Ref) : (s.retain ref).Live other ↔ s.Live other := by
  cases ref <;> simp [retain]

/-- A hold more or less on something, as it shows in a list of holds. -/
private theorem count_cons_add (ref other : Ref) (held : List Ref) (n : Nat) :
    (ref :: held).count other + (if other = ref then n else 0) =
      held.count other + if other = ref then n + 1 else 0 := by
  by_cases he : other = ref
  · subst he
    simp only [List.count_cons_self, if_true]
    omega
  · simp only [List.count_cons_of_ne (Ne.symm he), he, if_false]

theorem Balanced.retain {s : Store} {held : List Ref} (h : s.Balanced held) {ref : Ref}
    (hl : s.Live ref) : (s.retain ref).Balanced (ref :: held) := by
  cases ref with
  | record r =>
    obtain ⟨cell, hcell⟩ := Option.isSome_iff_exists.mp hl
    refine h.modifyRecord hcell _ (Nat.succ_pos _) fun other => ?_
    simp only [Nat.add_assoc, count_cons_add]
  | arguments a =>
    obtain ⟨cell, hcell⟩ := Option.isSome_iff_exists.mp hl
    exact h.modifyArguments hcell _ rfl (Nat.succ_pos _) fun other => count_cons_add _ other held _

theorem Balanced.retainAll {s : Store} {held : List Ref} (h : s.Balanced held) {refs : List Ref}
    (hl : ∀ ref ∈ refs, s.Live ref) : (s.retainAll refs).Balanced (refs ++ held) := by
  induction refs generalizing s held with
  | nil => exact h
  | cons ref refs ih =>
    have hstep := ih (h.retain (hl ref List.mem_cons_self)) fun other hm =>
      (live_retain s ref other).mpr (hl other (List.mem_cons_of_mem _ hm))
    exact hstep.perm List.perm_middle

private theorem holdersOf_eraseRecord (s : Store) (r : RecordId) (ref : Ref) :
    ({ s with records := s.records.erase r.number } : Store).holdersOf ref =
      if ref = .record r then 0 else s.holdersOf ref := by
  by_cases he : ref = .record r
  · subst he
    simp [holdersOf, holders, recordCell?]
  · rw [if_neg he]
    cases ref with
    | record q =>
      have hne : r.number ≠ q.number := fun h => he (congrArg (Ref.record ⟨·⟩) h.symm)
      simp only [holdersOf, holders, recordCell?, Arena.get?_erase_of_ne hne]
    | arguments a => rfl

private theorem holdersOf_eraseArguments (s : Store) (a : ArgumentsId) (ref : Ref) :
    ({ s with arguments := s.arguments.erase a.number } : Store).holdersOf ref =
      if ref = .arguments a then 0 else s.holdersOf ref := by
  by_cases he : ref = .arguments a
  · subst he
    simp [holdersOf, argumentsCell?]
  · rw [if_neg he]
    cases ref with
    | record r => rfl
    | arguments b =>
      have hne : a.number ≠ b.number := fun h => he (congrArg (Ref.arguments ⟨·⟩) h.symm)
      simp only [holdersOf, argumentsCell?, Arena.get?_erase_of_ne hne]

private theorem live_eraseRecord {s : Store} {r : RecordId} {ref : Ref} :
    ({ s with records := s.records.erase r.number } : Store).Live ref ↔
      ref ≠ .record r ∧ s.Live ref := by
  cases ref with
  | record q =>
    by_cases he : q = r
    · subst he
      simp [Live, recordCell?]
    · have hne : r.number ≠ q.number := fun h => he (congrArg RecordId.mk h.symm)
      simp [Live, recordCell?, Arena.get?_erase_of_ne hne, he]
  | arguments a => exact (and_iff_right Ref.noConfusion).symm

private theorem live_eraseArguments {s : Store} {a : ArgumentsId} {ref : Ref} :
    ({ s with arguments := s.arguments.erase a.number } : Store).Live ref ↔
      ref ≠ .arguments a ∧ s.Live ref := by
  cases ref with
  | record r => exact (and_iff_right Ref.noConfusion).symm
  | arguments b =>
    by_cases he : b = a
    · subst he
      simp [Live, argumentsCell?]
    · have hne : a.number ≠ b.number := fun h => he (congrArg ArgumentsId.mk h.symm)
      simp [Live, argumentsCell?, Arena.get?_erase_of_ne hne, he]

/-- A cell is taken away together with the only hold on it: what it held is then held from
outside. -/
private theorem Balanced.take {s t : Store} {ref : Ref} {held freed : List Ref}
    (h : s.Balanced (ref :: held)) (hone : s.holdersOf ref ≤ 1)
    (hholders : ∀ other, t.holdersOf other = if other = ref then 0 else s.holdersOf other)
    (hrefs : ∀ other, t.refs.count other + freed.count other = s.refs.count other)
    (hlive : ∀ other, t.Live other → other ≠ ref ∧ s.Live other) : t.Balanced (freed ++ held) where
  counts other := by
    have hc := h.counts other
    have hr := hrefs other
    rw [hholders, List.count_append]
    by_cases he : other = ref
    · subst he
      rw [List.count_cons_self] at hc
      rw [if_pos rfl]
      omega
    · rw [List.count_cons_of_ne (Ne.symm he)] at hc
      rw [if_neg he]
      omega
  positive other hl := by
    obtain ⟨he, hs⟩ := hlive other hl
    rw [hholders, if_neg he]
    exact h.positive other hs

theorem letGo_record_of_one_lt {s : Store} {r : RecordId} {cell : RecordCell}
    (hcell : s.recordCell? r = some cell) (hc : ¬ cell.holders ≤ 1) :
    s.letGo (.record r) =
      (s.modifyRecord r fun cell => { cell with holders := cell.holders - 1 }, []) := by
  simp only [letGo, modifyRecord, hcell, hc, if_false]

theorem letGo_arguments_of_one_lt {s : Store} {a : ArgumentsId} {cell : ArgumentsCell}
    (hcell : s.argumentsCell? a = some cell) (hc : ¬ cell.holders ≤ 1) :
    s.letGo (.arguments a) =
      (s.modifyArguments a fun cell => { cell with holders := cell.holders - 1 }, []) := by
  simp only [letGo, modifyArguments, hcell, hc, if_false]

/-- Letting go takes no cell away but the one let go, and that one only if it has no other
holder. -/
theorem live_letGo {s : Store} {ref other : Ref} (hl : s.Live other)
    (hmore : other = ref → 1 < s.holdersOf ref) : (s.letGo ref).1.Live other := by
  cases ref with
  | record r =>
    cases hcell : s.recordCell? r with
    | none => simpa only [letGo, hcell] using hl
    | some cell =>
      rw [holdersOf_record hcell] at hmore
      by_cases hc : cell.holders ≤ 1
      · simp only [letGo, hcell, hc, if_true]
        exact live_eraseRecord.mpr ⟨fun he => Nat.not_lt_of_le hc (hmore he), hl⟩
      · rw [letGo_record_of_one_lt hcell hc]
        exact (live_modifyRecord s r _ other).mpr hl
  | arguments a =>
    cases hcell : s.argumentsCell? a with
    | none => simpa only [letGo, hcell] using hl
    | some cell =>
      rw [holdersOf_arguments hcell] at hmore
      by_cases hc : cell.holders ≤ 1
      · simp only [letGo, hcell, hc, if_true]
        exact live_eraseArguments.mpr ⟨fun he => Nat.not_lt_of_le hc (hmore he), hl⟩
      · rw [letGo_arguments_of_one_lt hcell hc]
        exact (live_modifyArguments s a _ other).mpr hl

theorem holdersOf_letGo_le (s : Store) (ref other : Ref) :
    (s.letGo ref).1.holdersOf other ≤ s.holdersOf other := by
  cases ref with
  | record r =>
    cases hcell : s.recordCell? r with
    | none => simp only [letGo, hcell, Nat.le_refl]
    | some cell =>
      by_cases hc : cell.holders ≤ 1
      · simp only [letGo, hcell, hc, if_true, holdersOf_eraseRecord]
        split <;> simp
      · rw [letGo_record_of_one_lt hcell hc, holdersOf_modifyRecord hcell]
        split
        · rename_i he
          rw [he, holdersOf_record hcell]
          exact Nat.sub_le _ _
        · exact Nat.le_refl _
  | arguments a =>
    cases hcell : s.argumentsCell? a with
    | none => simp only [letGo, hcell, Nat.le_refl]
    | some cell =>
      by_cases hc : cell.holders ≤ 1
      · simp only [letGo, hcell, hc, if_true, holdersOf_eraseArguments]
        split <;> simp
      · rw [letGo_arguments_of_one_lt hcell hc, holdersOf_modifyArguments hcell]
        split
        · rename_i he
          rw [he, holdersOf_arguments hcell]
          exact Nat.sub_le _ _
        · exact Nat.le_refl _

/-- Nothing gains a holder when others let go. -/
theorem holdersOf_release_le (s : Store) (refs : List Ref) (other : Ref) :
    (s.release refs).holdersOf other ≤ s.holdersOf other := by
  fun_induction release s refs with
  | case1 s => exact Nat.le_refl _
  | case2 s ref rest ih => exact Nat.le_trans ih (holdersOf_letGo_le s ref other)

/-- One hold given back: the holds that come free with it take its place. -/
theorem Balanced.letGo {s : Store} {ref : Ref} {held : List Ref} (h : s.Balanced (ref :: held)) :
    (s.letGo ref).1.Balanced ((s.letGo ref).2 ++ held) := by
  have hl := h.live_of_mem_held List.mem_cons_self
  cases ref with
  | record r =>
    obtain ⟨cell, hcell⟩ := Option.isSome_iff_exists.mp hl
    by_cases hc : cell.holders ≤ 1
    · simp only [Store.letGo, hcell, hc, if_true]
      refine h.take ?_ (holdersOf_eraseRecord s r) (count_refs_eraseRecord hcell) fun other =>
        live_eraseRecord.mp
      rw [holdersOf_record hcell]
      exact hc
    · have hsucc : cell.holders = cell.holders - 1 + 1 := by omega
      rw [letGo_record_of_one_lt hcell hc]
      refine h.modifyRecord hcell _ (by simp only; omega) fun other => ?_
      have hcount := count_cons_add (.record r) other held (cell.holders - 1)
      rw [← hsucc] at hcount
      simp only [List.nil_append, Nat.add_assoc, hcount]
  | arguments a =>
    obtain ⟨cell, hcell⟩ := Option.isSome_iff_exists.mp hl
    by_cases hc : cell.holders ≤ 1
    · simp only [Store.letGo, hcell, hc, if_true]
      refine h.take ?_ (holdersOf_eraseArguments s a) (count_refs_eraseArguments hcell) fun other =>
        live_eraseArguments.mp
      rw [holdersOf_arguments hcell]
      exact hc
    · have hsucc : cell.holders = cell.holders - 1 + 1 := by omega
      rw [letGo_arguments_of_one_lt hcell hc]
      refine h.modifyArguments hcell _ rfl (by simp only; omega) fun other => ?_
      have hcount := count_cons_add (.arguments a) other held (cell.holders - 1)
      rw [← hsucc] at hcount
      exact hcount.symm

/-- Releasing holds, to the end of the cascade that it starts, keeps the balance. -/
theorem Balanced.release {s : Store} (refs : List Ref) {held : List Ref}
    (h : s.Balanced (refs ++ held)) : (s.release refs).Balanced held := by
  fun_induction Store.release s refs with
  | case1 s => exact h
  | case2 s ref rest ih =>
    apply ih
    rw [List.append_assoc]
    exact Balanced.letGo h

/-! ## Making and changing cells -/

/-- A new cell with one holder, which has taken the holds that it has. -/
private theorem Balanced.put {s t : Store} {ref : Ref} {taken held : List Ref}
    (h : s.Balanced (taken ++ held)) (hfresh : ¬ s.Live ref)
    (hholders : ∀ other, t.holdersOf other = if other = ref then 1 else s.holdersOf other)
    (hrefs : ∀ other, t.refs.count other = s.refs.count other + taken.count other)
    (hlive : ∀ other, t.Live other → other = ref ∨ s.Live other) : t.Balanced (ref :: held) where
  counts other := by
    have hc := h.counts other
    have hr := hrefs other
    rw [List.count_append] at hc
    rw [hholders]
    by_cases he : other = ref
    · subst he
      have hzero : s.holdersOf other = 0 := Nat.eq_zero_of_not_pos (mt live_of_holders_pos hfresh)
      rw [if_pos rfl, List.count_cons_self]
      omega
    · rw [if_neg he, List.count_cons_of_ne (Ne.symm he)]
      omega
  positive other hl := by
    rw [hholders]
    by_cases he : other = ref
    · rw [if_pos he]
      exact Nat.one_pos
    · rw [if_neg he]
      exact h.positive other ((hlive other hl).resolve_left he)

theorem Balanced.create {s : Store} {held : List Ref} (h : s.Balanced held) {record : Record}
    (hl : ∀ ref ∈ record.refs, s.Live ref) :
    (s.create record).2.Balanced (.record (s.create record).1 :: held) := by
  refine (h.retainAll hl).put ?_ ?_ ?_ ?_
  · simp [Live, Store.create, recordCell?]
  · intro other
    by_cases he : other = .record (s.create record).1
    · subst he
      simp [Store.create, holdersOf, holders, recordCell?]
    · rw [if_neg he]
      cases other with
      | record q =>
        have hne : q.number ≠ (s.retainAll record.refs).records.next :=
          fun h => he (congrArg (Ref.record ⟨·⟩) h)
        simp only [Store.create, holdersOf, holders, recordCell?, Arena.get?_push_of_ne _ hne]
      | arguments a => rfl
  · intro other
    simp only [Store.create, refs, Arena.toList_push, List.flatMap_append, List.flatMap_cons,
      List.flatMap_nil, List.append_nil, List.count_append]
    omega
  · intro other hlive
    cases other with
    | record q =>
      by_cases he : q.number = (s.retainAll record.refs).records.next
      · exact .inl (congrArg (Ref.record ⟨·⟩) he)
      · refine .inr ?_
        simpa only [Live, Store.create, recordCell?, Arena.get?_push_of_ne _ he] using hlive
    | arguments a => exact .inr hlive

theorem Balanced.createArguments {s : Store} {held : List Ref} (h : s.Balanced held)
    (values : List Value) (hl : ∀ ref ∈ valueRefs values, s.Live ref) :
    (s.createArguments values).2.Balanced (.arguments (s.createArguments values).1 :: held) := by
  refine (h.retainAll hl).put ?_ ?_ ?_ ?_
  · simp [Live, Store.createArguments, argumentsCell?]
  · intro other
    by_cases he : other = .arguments (s.createArguments values).1
    · subst he
      simp [Store.createArguments, holdersOf, argumentsCell?]
    · rw [if_neg he]
      cases other with
      | record r => rfl
      | arguments b =>
        have hne : b.number ≠ (s.retainAll (valueRefs values)).arguments.next :=
          fun h => he (congrArg (Ref.arguments ⟨·⟩) h)
        simp only [Store.createArguments, holdersOf, argumentsCell?, Arena.get?_push_of_ne _ hne]
  · intro other
    simp only [Store.createArguments, refs, Arena.toList_push, List.flatMap_append,
      List.flatMap_cons, List.flatMap_nil, List.append_nil, List.count_append]
    omega
  · intro other hlive
    cases other with
    | record r => exact .inr hlive
    | arguments b =>
      by_cases he : b.number = (s.retainAll (valueRefs values)).arguments.next
      · exact .inl (congrArg (Ref.arguments ⟨·⟩) he)
      · refine .inr ?_
        simpa only [Live, Store.createArguments, argumentsCell?, Arena.get?_push_of_ne _ he]
          using hlive

theorem live_createArguments {s : Store} (values : List Value) {ref : Ref} (h : s.Live ref) :
    (s.createArguments values).2.Live ref := by
  have hretained : (s.retainAll (valueRefs values)).Live ref := by
    unfold retainAll
    induction valueRefs values generalizing s with
    | nil => exact h
    | cons other others ih => exact ih ((live_retain s other ref).mpr h)
  cases ref with
  | record r => exact hretained
  | arguments a =>
    obtain ⟨cell, hcell⟩ := Option.isSome_iff_exists.mp hretained
    have hne : a.number ≠ (s.retainAll (valueRefs values)).arguments.next :=
      Nat.ne_of_lt (Arena.lt_next_of_get? hcell)
    simpa only [Live, Store.createArguments, argumentsCell?, Arena.get?_push_of_ne _ hne]
      using hretained

/-- A new record holds its parent and its argument list. -/
theorem refs_new (schema : SharedSchema) (parent : Value) (arguments : ArgumentsId) :
    (Record.new schema parent arguments).refs = parent.refs ++ [.arguments arguments] := by
  have htdz : (List.replicate (schema.schema.length - 1) Value.tdz).flatMap Value.refs = [] := by
    rw [List.flatMap_eq_nil_iff]
    intro value hm
    rw [List.eq_of_mem_replicate hm]
    rfl
  rw [Record.refs, Record.new, valueRefs, List.flatMap_cons, htdz, List.append_nil]

theorem Balanced.createAlone {s : Store} {held : List Ref} (h : s.Balanced held)
    (schema : SharedSchema) {parent : Value} (hl : ∀ ref ∈ parent.refs, s.Live ref) :
    (s.createAlone schema parent).2.Balanced (.record (s.createAlone schema parent).1 :: held) := by
  have hempty := h.createArguments [] (by simp [valueRefs])
  have hrefs : ∀ ref ∈ (Record.new schema parent (s.createArguments []).1).refs,
      (s.createArguments []).2.Live ref := by
    intro ref hm
    rw [refs_new] at hm
    rcases List.mem_append.mp hm with hm | hm
    · exact live_createArguments [] (hl ref hm)
    · rw [List.mem_singleton.mp hm]
      exact hempty.live_of_mem_held List.mem_cons_self
  exact ((hempty.create hrefs).perm (List.Perm.swap _ _ held)).release [_]

/-- Between taking the new holds of a record and releasing the old ones, the old ones are held from
outside. -/
theorem Balanced.overwrite {s : Store} {held : List Ref} (h : s.Balanced held) {r : RecordId}
    {cell : RecordCell} (hcell : s.recordCell? r = some cell) {slots : List Value}
    (hl : ∀ ref ∈ valueRefs slots, s.Live ref) :
    ((s.retainAll (valueRefs slots)).overwrite r slots).Balanced
      (valueRefs cell.record.slots ++ held) := by
  have hcontent := (sameContents_retainAll s (valueRefs slots)).content r
  rw [content?_of_cell hcell] at hcontent
  obtain ⟨holders, hretained⟩ := exists_cell_of_content? hcontent
  have hheld := h.retainAll hl
  have hpos := hheld.positive (.record r) (by simp [Live, hretained])
  rw [holdersOf_record hretained] at hpos
  refine hheld.modifyRecord hretained _ hpos fun ref => ?_
  simp only [Record.refs, List.count_append]
  omega

theorem Balanced.putSlots {s : Store} {held : List Ref} (h : s.Balanced held) (r : RecordId)
    {slots : List Value} (hl : ∀ ref ∈ valueRefs slots, s.Live ref) :
    (s.putSlots r slots).Balanced held := by
  cases hcell : s.recordCell? r with
  | none => simpa only [Store.putSlots, hcell] using h
  | some cell =>
    rw [putSlots_of_cell hcell]
    exact (h.overwrite hcell hl).release _

/-! ## Loans -/

/-- A borrower holds what it borrows. -/
theorem Balanced.lend {s t : Store} {held : List Ref} (h : s.Balanced held) {r : RecordId}
    {mode : LoanMode} (hlend : s.lend r mode = .ok t) : t.Balanced (.record r :: held) := by
  unfold Store.lend at hlend
  split at hlend
  · cases hlend
  · rename_i cell hcell
    split at hlend
    · cases hlend
    · cases hlend
      refine h.modifyRecord hcell _ (Nat.succ_pos _) fun ref => ?_
      simp only [Nat.add_assoc, count_cons_add]

theorem Balanced.giveBack {s : Store} {held : List Ref} {r : RecordId}
    (h : s.Balanced (.record r :: held)) : (s.giveBack r).Balanced held := by
  obtain ⟨cell, hcell⟩ := Option.isSome_iff_exists.mp (h.live_of_mem_held List.mem_cons_self)
  have hpos := h.positive (.record r) (by simp [Live, hcell])
  rw [holdersOf_record hcell] at hpos
  have hfreed : (s.modifyRecord r fun cell =>
      { cell with guard := cell.guard.giveBack }).Balanced (.record r :: held) :=
    h.modifyRecord hcell _ hpos fun ref => rfl
  exact hfreed.release [_]

end LoopScope.Store
