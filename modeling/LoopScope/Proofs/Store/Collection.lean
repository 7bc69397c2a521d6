import LoopScope.Proofs.Store.Graph
import LoopScope.Proofs.Store.Relabel
/-!
# What is left when holds are let go

Letting go takes away the cells that nobody holds any more. What is left depends on what the cells
refer to and on what is held from outside, and not on the way there: two stores of the same contents
and the same holds from outside are equal. So it does not matter in which order records were
written, nor what stood in a record before it was last written.
-/
namespace LoopScope

namespace Arena

variable {α β : Type} {a b : Arena α}

theorem ext_get? (hnext : a.next = b.next) (h : ∀ i, a.get? i = b.get? i) : a = b := by
  obtain ⟨cells⟩ := a
  obtain ⟨others⟩ := b
  congr 1
  refine List.ext_getElem hnext ?_
  intro i hi hi'
  have hget := h i
  simpa only [get?, List.getElem?_eq_getElem hi, List.getElem?_eq_getElem hi', Option.join_some]
    using hget

theorem toList_map (f : α → β) (a : Arena α) : (a.map f).toList = a.toList.map f := by
  simp only [toList, map, List.filterMap_map, List.map_filterMap]
  rfl

end Arena

namespace Store

variable {s t u w : Store} {held : List Ref} {kept : Ref → Prop} {x y : Ref} {d : RecordId}
  {slots : List Value}

/-! ## Stores that their contents determine -/

theorem SameContents.refs_eq (h : s.SameContents t) : s.refs = t.refs := by
  have hrefs (s : Store) : s.refs =
      (s.records.map RecordCell.record).toList.flatMap Record.refs ++
        (s.arguments.map ArgumentsCell.values).toList.flatMap valueRefs := by
    rw [refs, Arena.toList_map, Arena.toList_map, List.flatMap_map, List.flatMap_map]
  have hrecords : s.records.map RecordCell.record = t.records.map RecordCell.record := by
    refine Arena.ext_get? (by simpa using h.nextRecord) fun i => ?_
    have hcontent := congrArg (Option.map Prod.fst) (h.content ⟨i⟩)
    rw [content?, content?, Option.map_map, Option.map_map] at hcontent
    rw [Arena.get?_map, Arena.get?_map]
    exact hcontent
  have harguments :
      s.arguments.map ArgumentsCell.values = t.arguments.map ArgumentsCell.values := by
    refine Arena.ext_get? (by simpa using h.nextArguments) fun i => ?_
    rw [Arena.get?_map, Arena.get?_map]
    exact h.values ⟨i⟩
  rw [hrefs s, hrefs t, hrecords, harguments]

/-- The numbers of holders follow from the contents and the holds from outside. -/
theorem Balanced.eq_of_sameContents (hs : s.Balanced held) (ht : t.Balanced held)
    (h : s.SameContents t) : s = t := by
  have hholders (ref : Ref) : s.holdersOf ref = t.holdersOf ref := by
    rw [hs.counts, ht.counts, h.refs_eq]
  have hrecord (r : RecordId) : s.recordCell? r = t.recordCell? r := by
    have hcontent := h.content r
    have hcount := hholders (.record r)
    cases hcell : s.recordCell? r with
    | none =>
      rw [content?, hcell, Option.map_none] at hcontent
      exact (Option.map_eq_none_iff.mp hcontent.symm).symm
    | some cell =>
      rw [content?_of_cell hcell] at hcontent
      obtain ⟨holders, hother⟩ := exists_cell_of_content? hcontent.symm
      rw [holdersOf_record hcell, holdersOf_record hother] at hcount
      rw [hother]
      exact congrArg (fun n => some (RecordCell.mk cell.record n cell.guard)) hcount
  have hlist (a : ArgumentsId) : s.argumentsCell? a = t.argumentsCell? a := by
    have hvalues := h.values a
    have hcount := hholders (.arguments a)
    cases hcell : s.argumentsCell? a with
    | none =>
      rw [values?, hcell, Option.map_none] at hvalues
      exact (Option.map_eq_none_iff.mp hvalues.symm).symm
    | some cell =>
      rw [values?, hcell, Option.map_some] at hvalues
      obtain ⟨other, hother, hsame⟩ := Option.map_eq_some_iff.mp hvalues.symm
      rw [holdersOf_arguments hcell, holdersOf_arguments hother] at hcount
      rw [hother]
      exact congrArg some (congrArg₂ ArgumentsCell.mk hsame.symm hcount)
  have hrecords : s.records = t.records :=
    Arena.ext_get? h.nextRecord fun i => hrecord ⟨i⟩
  have harguments : s.arguments = t.arguments :=
    Arena.ext_get? h.nextArguments fun i => hlist ⟨i⟩
  exact congr (congrArg Store.mk hrecords) harguments

/-! ## What outlasts a release -/

theorem Within.live (h : t.Within s) (hl : t.Live y) : s.Live y := by
  cases y with
  | record r =>
    obtain ⟨cell, hcell⟩ := Option.isSome_iff_exists.mp hl
    exact live_of_content? (h.content (content?_of_cell hcell))
  | arguments a =>
    obtain ⟨cell, hcell⟩ := Option.isSome_iff_exists.mp hl
    exact live_of_values? (h.values (congrArg (Option.map ArgumentsCell.values) hcell))

theorem Within.content?_of_live (h : t.Within s) {r : RecordId} (hl : t.Live (.record r)) :
    t.content? r = s.content? r := by
  obtain ⟨cell, hcell⟩ := Option.isSome_iff_exists.mp hl
  rw [content?_of_cell hcell, h.content (content?_of_cell hcell)]

theorem Within.values?_of_live (h : t.Within s) {a : ArgumentsId} (hl : t.Live (.arguments a)) :
    t.values? a = s.values? a := by
  obtain ⟨cell, hcell⟩ := Option.isSome_iff_exists.mp hl
  have hvalues : t.values? a = some cell.values := congrArg (Option.map ArgumentsCell.values) hcell
  rw [hvalues, h.values hvalues]

/-- A cell that is left refers to what it did. -/
theorem Within.refers_of_live (h : t.Within s) (hl : t.Live x) (hxy : s.Refers x y) :
    t.Refers x y := by
  cases hxy with
  | slot content slot => exact .slot ((h.content?_of_live hl).trans content) slot
  | arguments content => exact .arguments ((h.content?_of_live hl).trans content)
  | element list element => exact .element ((h.values?_of_live hl).trans list) element

/-- Cells each of which is held from outside, or referred to by one of them. -/
structure Supported (s : Store) (held : List Ref) (kept : Ref → Prop) : Prop where
  live : ∀ {y}, kept y → s.Live y
  support : ∀ {y}, kept y → y ∈ held ∨ ∃ x, kept x ∧ s.Refers x y

/-- All cells of a balanced store support each other. -/
theorem Balanced.supported (h : s.Balanced held) : s.Supported held s.Live where
  live hl := hl
  support {y} hl := by
    by_cases hm : y ∈ held
    · exact .inl hm
    · obtain ⟨x, hx⟩ := h.exists_refers hl hm
      exact .inr ⟨x, hx.live, hx⟩

theorem Supported.mono (hk : t.Supported held kept) (h : t.Within s) : s.Supported held kept where
  live hy := h.live (hk.live hy)
  support hy := by
    rcases hk.support hy with hm | ⟨x, hx, hxy⟩
    · exact .inl hm
    · exact .inr ⟨x, hx, h.refers_le x _ hxy⟩

/-- Cells that support each other do so as long as they are all there. -/
theorem Supported.of_live (hk : s.Supported held kept) (h : t.Within s)
    (hlive : ∀ {y}, kept y → t.Live y) : t.Supported held kept where
  live := hlive
  support hy := by
    rcases hk.support hy with hm | ⟨x, hx, hxy⟩
    · exact .inl hm
    · exact .inr ⟨x, hx, h.refers_of_live (hlive hx) hxy⟩

/-- Cells that support each other are still there when other holds have been released. -/
theorem Supported.live_release {refs : List Ref} (hk : s.Supported held kept)
    (h : s.Balanced (refs ++ held)) (hy : kept y) : (s.release refs).Live y := by
  fun_induction release s refs with
  | case1 s => exact hk.live hy
  | case2 s ref rest ih =>
    -- If one of them is let go, its support is a second hold on it.
    have hlive {other : Ref} (hother : kept other) : (s.letGo ref).1.Live other := by
      refine live_letGo (hk.live hother) ?_
      rintro rfl
      have hcount := h.counts other
      rw [List.cons_append, List.count_cons_self, List.count_append] at hcount
      rcases hk.support hother with hm | ⟨x, -, hx⟩
      · have hpos := List.count_pos_iff.mpr hm
        omega
      · have hpos := List.count_pos_iff.mpr (mem_refs_iff.mpr ⟨x, hx⟩)
        omega
    apply ih (hk.of_live (within_letGo s ref) hlive)
    rw [List.append_assoc]
    exact Balanced.letGo h

/-! ## What is left of a store -/

/-- A balanced store with just those cells of another one that support each other. -/
structure Collects (t w : Store) (held : List Ref) : Prop where
  balanced : t.Balanced held
  within : t.Within w
  keeps : ∀ {kept : Ref → Prop}, w.Supported held kept → ∀ {y}, kept y → t.Live y

theorem Balanced.collects (h : s.Balanced held) : s.Collects s held where
  balanced := h
  within := .refl s
  keeps hk _ hy := hk.live hy

theorem Collects.congr (h : t.Collects w held) (hw : w.SameContents u) : t.Collects u held where
  balanced := h.balanced
  within := h.within.trans hw.within
  keeps hk _ hy := h.keeps (hk.mono hw.symm.within) hy

private theorem Collects.within_other (ht : t.Collects w held) (hu : u.Collects w held) :
    t.Within u := by
  have hlive {y : Ref} (hl : t.Live y) : u.Live y :=
    hu.keeps (ht.balanced.supported.mono ht.within) hl
  refine ⟨?_, ?_, ?_, ?_⟩
  · intro r content hr
    rw [hu.within.content?_of_live (hlive (live_of_content? hr)), ht.within.content hr]
  · intro a values ha
    rw [hu.within.values?_of_live (hlive (live_of_values? ha)), ht.within.values ha]
  · rw [ht.within.nextRecord, hu.within.nextRecord]
  · rw [ht.within.nextArguments, hu.within.nextArguments]

/-- What is left of a store is determined. -/
theorem Collects.unique (ht : t.Collects w held) (hu : u.Collects w held) : t = u :=
  ht.balanced.eq_of_sameContents hu.balanced
    ((ht.within_other hu).sameContents (hu.within_other ht))

/-! ## Writes -/

theorem live_of_putSlots (h : (s.putSlots d slots).Live y) : s.Live y :=
  (live_modifyRecord s d _ y).mp ((within_putSlots s d slots).live h)

/-- What a record is after a write to it, if it is left. -/
theorem content?_putSlots_of_live (hl : (s.putSlots d slots).Live (.record d)) {record : Record}
    {guard : Guard} (hc : s.content? d = some (record, guard)) :
    (s.putSlots d slots).content? d = some ({ record with slots := slots }, guard) := by
  rw [(within_putSlots s d slots).content?_of_live hl]
  exact content?_overwrite_self slots hc

/-- What is held is left alone by a write to another record. -/
theorem Balanced.content?_putSlots_of_ne (h : (s.putSlots d slots).Balanced held) {r : RecordId}
    (hr : .record r ∈ held) (hne : r ≠ d) : (s.putSlots d slots).content? r = s.content? r := by
  rw [(within_putSlots s d slots).content?_of_live (h.live_of_mem_held hr)]
  exact content?_overwrite_of_ne s slots hne

theorem refers_of_overwrite (h : (s.overwrite d slots).Refers x y) :
    s.Refers x y ∨ y ∈ valueRefs slots := by
  have hbefore {q : RecordId} {record : Record} {guard : Guard}
      (hc : (s.overwrite d slots).content? q = some (record, guard)) :
      (∃ old, s.content? q = some (old, guard) ∧ record = { old with slots := slots }) ∨
        s.content? q = some (record, guard) := by
    by_cases he : q = d
    · subst he
      rw [content?_overwrite] at hc
      obtain ⟨⟨old, before⟩, hold, heq⟩ := Option.map_eq_some_iff.mp hc
      cases heq
      exact .inl ⟨old, hold, rfl⟩
    · rw [content?_overwrite_of_ne s slots he] at hc
      exact .inr hc
  cases h with
  | slot content slot =>
    rcases hbefore content with ⟨old, hold, rfl⟩ | hsame
    · exact .inr (mem_valueRefs.mpr ⟨_, rfl, slot⟩)
    · exact .inl (.slot hsame slot)
  | arguments content =>
    rcases hbefore content with ⟨old, hold, rfl⟩ | hsame
    · have hrefers := Refers.arguments hold
      exact .inl hrefers
    · exact .inl (.arguments hsame)
  | element list element =>
    rw [values?_overwrite] at list
    exact .inl (.element list element)

/-- Cells that support each other after a write do so before it, too, together with the cells that
are left: what the new values support is among these. -/
private theorem Collects.supported_before (h : t.Collects w held)
    (hk : (w.overwrite d slots).Supported held kept) (hnew : ∀ ref ∈ valueRefs slots, t.Live ref) :
    w.Supported held fun y => kept y ∨ t.Live y := by
  have hleft := h.balanced.supported.mono h.within
  have hsupport {y : Ref} (hy : t.Live y) :
      y ∈ held ∨ ∃ x, (kept x ∨ t.Live x) ∧ w.Refers x y := by
    rcases hleft.support hy with hm | ⟨x, hx, hrefers⟩
    · exact .inl hm
    · exact .inr ⟨x, .inr hx, hrefers⟩
  constructor
  · rintro y (hy | hy)
    · exact (live_modifyRecord w d _ y).mp (hk.live hy)
    · exact hleft.live hy
  · rintro y (hy | hy)
    · rcases hk.support hy with hm | ⟨x, hx, hrefers⟩
      · exact .inl hm
      · rcases refers_of_overwrite hrefers with hrefers | hm
        · exact .inr ⟨x, .inl hx, hrefers⟩
        · exact hsupport (hnew y hm)
    · exact hsupport hy

/-- Writing and then letting go leaves what is left of the store with the new values. -/
theorem Collects.putSlots (h : t.Collects w held) (hd : t.Live (.record d))
    (hnew : ∀ ref ∈ valueRefs slots, t.Live ref) :
    (t.putSlots d slots).Collects (w.overwrite d slots) held := by
  refine ⟨h.balanced.putSlots d hnew,
    (within_putSlots t d slots).trans (h.within.overwrite d slots), ?_⟩
  intro kept hk y hy
  obtain ⟨cell, hcell⟩ := Option.isSome_iff_exists.mp hd
  have hsame := sameContents_retainAll t (valueRefs slots)
  have hwithin : ((t.retainAll (valueRefs slots)).overwrite d slots).Within (w.overwrite d slots) :=
    (hsame.within.trans h.within).overwrite d slots
  have hlive {z : Ref} (hz : kept z) :
      ((t.retainAll (valueRefs slots)).overwrite d slots).Live z := by
    have hleft : t.Live z := h.keeps (h.supported_before hk hnew) (.inl hz)
    exact (live_modifyRecord _ d _ z).mpr (hsame.symm.within.live hleft)
  rw [putSlots_of_cell hcell]
  exact (hk.of_live hwithin hlive).live_release (h.balanced.overwrite hcell hnew) hy

/-- Writing into a record what it holds changes nothing. -/
theorem Balanced.putSlots_self (h : s.Balanced held) {record : Record} {guard : Guard}
    (hc : s.content? d = some (record, guard)) : s.putSlots d record.slots = s := by
  have hslots : ∀ ref ∈ valueRefs record.slots, s.Live ref := fun ref hm =>
    h.live_of_content? hc (List.mem_append_left _ hm)
  exact ((h.collects.putSlots (Store.live_of_content? hc) hslots).congr
    (sameContents_overwrite_self hc)).unique h.collects

/-- The last of several writes to one record counts. -/
theorem Balanced.putSlots_putSlots (h : s.Balanced held) (hd : .record d ∈ held)
    {later : List Value} (hslots : ∀ ref ∈ valueRefs slots, s.Live ref)
    (hlater : ∀ ref ∈ valueRefs later, (s.putSlots d slots).Live ref) :
    (s.putSlots d slots).putSlots d later = s.putSlots d later := by
  have hfirst := h.collects.putSlots (h.live_of_mem_held hd) hslots
  have hboth := hfirst.putSlots (hfirst.balanced.live_of_mem_held hd) hlater
  have halone := h.collects.putSlots (h.live_of_mem_held hd) fun ref hm =>
    live_of_putSlots (hlater ref hm)
  exact (hboth.congr (sameContents_overwrite_overwrite s d slots later)).unique halone

/-- Writes to two records commute. -/
theorem Balanced.putSlots_comm (h : s.Balanced held) {e : RecordId} {others : List Value}
    (hne : d ≠ e) (hd : .record d ∈ held) (he : .record e ∈ held)
    (hslots : ∀ ref ∈ valueRefs slots, (s.putSlots e others).Live ref)
    (hothers : ∀ ref ∈ valueRefs others, (s.putSlots d slots).Live ref) :
    (s.putSlots d slots).putSlots e others = (s.putSlots e others).putSlots d slots := by
  have hfirst := h.collects.putSlots (h.live_of_mem_held hd) fun ref hm =>
    live_of_putSlots (hslots ref hm)
  have hsecond := h.collects.putSlots (h.live_of_mem_held he) fun ref hm =>
    live_of_putSlots (hothers ref hm)
  have hthen := hfirst.putSlots (hfirst.balanced.live_of_mem_held he) hothers
  have hthen' := hsecond.putSlots (hsecond.balanced.live_of_mem_held hd) hslots
  exact (hthen.congr (sameContents_overwrite_comm s hne slots others)).unique hthen'

theorem live_create {record : Record} (h : s.Live y) : (s.create record).2.Live y := by
  cases y with
  | record r =>
    obtain ⟨cell, hcell⟩ := Option.isSome_iff_exists.mp h
    have hcontent := content?_of_cell hcell
    have hne : r ≠ ⟨s.records.next⟩ := fun he =>
      Nat.ne_of_lt (lt_next_of_content? hcontent) (congrArg RecordId.number he)
    exact live_of_content? ((content?_create_of_ne s record hne).trans hcontent)
  | arguments a =>
    obtain ⟨cell, hcell⟩ := Option.isSome_iff_exists.mp h
    have hvalues : s.values? a = some cell.values :=
      congrArg (Option.map ArgumentsCell.values) hcell
    exact live_of_values? ((values?_create s record a).trans hvalues)

/-- Writing the slots of a record that was just made is making it with these slots. -/
theorem Balanced.putSlots_create (h : s.Balanced held) {record : Record}
    (hrecord : ∀ ref ∈ record.refs, s.Live ref) (hslots : ∀ ref ∈ valueRefs slots, s.Live ref) :
    (s.create record).2.putSlots (s.create record).1 slots =
      (s.create { record with slots := slots }).2 := by
  have hnew : ∀ ref ∈ ({ record with slots := slots } : Record).refs, s.Live ref := by
    intro ref hm
    rcases List.mem_append.mp hm with hm | hm
    · exact hslots ref hm
    · exact hrecord ref (List.mem_append_right _ hm)
  have hcreated := h.create hrecord
  have hwritten := hcreated.collects.putSlots (hcreated.live_of_mem_held List.mem_cons_self)
    fun ref hm => live_create (hslots ref hm)
  have hmade := h.create hnew
  rw [create_fst] at hwritten hmade ⊢
  exact (hwritten.congr (sameContents_overwrite_create s record slots)).unique hmade.collects

end Store

end LoopScope
