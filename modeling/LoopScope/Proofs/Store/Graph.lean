import LoopScope.Proofs.Store.Holds
import Mathlib.Data.Fintype.Card
import Mathlib.Data.Set.Finite.Lattice
import Mathlib.Logic.Relation
/-!
# What refers to what

Records refer to the records in their slots and to their argument lists, and these to the records
among their values. In a balanced store a cell is there just while it is held from outside or
something refers to it. So whatever is held, however far away, is there, and a cell that nothing
outside holds, not even from far away, owes its being there to a cycle.
-/
namespace LoopScope

theorem Arena.mem_toList {α : Type} {a : Arena α} {cell : α} :
    cell ∈ a.toList ↔ ∃ i, a.get? i = some cell := by
  simp only [toList, List.mem_filterMap, id_eq, exists_eq_right, get?, Option.join_eq_some_iff]
  exact List.mem_iff_getElem?

theorem mem_valueRefs {values : List Value} {ref : Ref} :
    ref ∈ valueRefs values ↔ ∃ r, ref = .record r ∧ .scope r ∈ values := by
  simp only [valueRefs, List.mem_flatMap]
  constructor
  · rintro ⟨value, hm, href⟩
    cases value with
    | scope r => exact ⟨r, List.mem_singleton.mp href, hm⟩
    | _ => cases href
  · rintro ⟨r, rfl, hm⟩
    exact ⟨.scope r, hm, List.mem_singleton_self _⟩

namespace Store

open Relation (ReflTransGen TransGen)

variable {s t : Store} {held : List Ref} {x y : Ref}

/-- A cell that is there has a hold on another. -/
inductive Refers (s : Store) : Ref → Ref → Prop
  | slot {q r : RecordId} {record : Record} {guard : Guard}
      (content : s.content? q = some (record, guard)) (slot : .scope r ∈ record.slots) :
      Refers s (.record q) (.record r)
  | arguments {q : RecordId} {record : Record} {guard : Guard}
      (content : s.content? q = some (record, guard)) :
      Refers s (.record q) (.arguments record.arguments)
  | element {a : ArgumentsId} {values : List Value} {r : RecordId}
      (list : s.values? a = some values) (element : .scope r ∈ values) :
      Refers s (.arguments a) (.record r)

theorem live_of_content? {r : RecordId} {content : Record × Guard}
    (h : s.content? r = some content) : s.Live (.record r) := by
  obtain ⟨holders, hcell⟩ := exists_cell_of_content? h
  simp [Live, hcell]

theorem live_of_values? {a : ArgumentsId} {values : List Value} (h : s.values? a = some values) :
    s.Live (.arguments a) := by
  obtain ⟨cell, hcell, -⟩ := Option.map_eq_some_iff.mp h
  simp [Live, hcell]

theorem Refers.live (h : s.Refers x y) : s.Live x := by
  cases h with
  | slot content slot => exact live_of_content? content
  | arguments content => exact live_of_content? content
  | element list element => exact live_of_values? list

/-- The holds of the cells are what the cells refer to. -/
theorem mem_refs_iff : y ∈ s.refs ↔ ∃ x, s.Refers x y := by
  simp only [refs, List.mem_append, List.mem_flatMap, Arena.mem_toList, Record.refs, mem_valueRefs,
    List.mem_singleton]
  constructor
  · rintro (⟨cell, ⟨i, hcell⟩, ⟨r, rfl, hslot⟩ | rfl⟩ | ⟨cell, ⟨i, hcell⟩, r, rfl, helement⟩)
    · exact ⟨.record ⟨i⟩, .slot (content?_of_cell hcell) hslot⟩
    · exact ⟨.record ⟨i⟩, .arguments (content?_of_cell hcell)⟩
    · exact ⟨.arguments ⟨i⟩, .element (congrArg (Option.map ArgumentsCell.values) hcell) helement⟩
  · rintro ⟨x, h⟩
    cases h with
    | @slot q r record guard content slot =>
      obtain ⟨holders, hcell⟩ := exists_cell_of_content? content
      exact .inl ⟨_, ⟨q.number, hcell⟩, .inl ⟨r, rfl, slot⟩⟩
    | @arguments q record guard content =>
      obtain ⟨holders, hcell⟩ := exists_cell_of_content? content
      exact .inl ⟨_, ⟨q.number, hcell⟩, .inr rfl⟩
    | @element a values r list element =>
      obtain ⟨cell, hcell, rfl⟩ := Option.map_eq_some_iff.mp list
      exact .inr ⟨cell, ⟨a.number, hcell⟩, r, rfl, element⟩

/-- Cells that have gone refer to nothing, and those that are left refer to what they did. -/
theorem Within.refers_le (hw : t.Within s) : t.Refers ≤ s.Refers := by
  intro x y h
  cases h with
  | slot content slot => exact .slot (hw.content content) slot
  | arguments content => exact .arguments (hw.content content)
  | element list element => exact .element (hw.values list) element

theorem refers_giveBack_le (s : Store) (r : RecordId) : (s.giveBack r).Refers ≤ s.Refers := by
  intro x y h
  cases h with
  | slot content slot =>
    obtain ⟨guard, hbefore⟩ := exists_content_of_giveBack content
    exact .slot hbefore slot
  | arguments content =>
    obtain ⟨guard, hbefore⟩ := exists_content_of_giveBack content
    exact .arguments hbefore
  | element list element =>
    have hbefore := (within_release _ _).values list
    rw [values?_modifyRecord] at hbefore
    exact .element hbefore element

/-- Nothing refers to a cell that is not there. -/
theorem Balanced.live_of_refers (h : s.Balanced held) (hxy : s.Refers x y) : s.Live y :=
  h.live_of_mem_refs (mem_refs_iff.mpr ⟨x, hxy⟩)

/-- A cell is there because it is held from outside or because something refers to it. -/
theorem Balanced.exists_refers (h : s.Balanced held) (hl : s.Live y) (hy : y ∉ held) :
    ∃ x, s.Refers x y := by
  have hpos := h.positive y hl
  rw [h.counts, List.count_eq_zero_of_not_mem hy] at hpos
  exact mem_refs_iff.mp (List.count_pos_iff.mp hpos)

/-! ## What can be reached -/

/-- What is held, and what references lead to from there. -/
def Reached (s : Store) (held : List Ref) (y : Ref) : Prop :=
  ∃ x ∈ held, ReflTransGen s.Refers x y

/-- References lead from a record back to it. -/
def OnCycle (s : Store) (r : RecordId) : Prop := TransGen s.Refers (.record r) (.record r)

theorem Balanced.live_of_reached (h : s.Balanced held) (hy : s.Reached held y) : s.Live y := by
  obtain ⟨x, hx, hpath⟩ := hy
  induction hpath with
  | refl => exact h.live_of_mem_held hx
  | tail _ hlast ih => exact h.live_of_refers hlast

/-- There, out of reach, and at the start of a way to `y`. -/
structure Stray (s : Store) (held : List Ref) (y x : Ref) : Prop where
  live : s.Live x
  unreached : ¬ s.Reached held x
  leads : ReflTransGen s.Refers x y

/-- What is out of reach is referred to by something that is out of reach, too. -/
theorem Balanced.exists_stray_before (h : s.Balanced held) (hx : s.Stray held y x) :
    ∃ z, s.Refers z x ∧ s.Stray held y z := by
  obtain ⟨z, hz⟩ := h.exists_refers hx.live fun hm => hx.unreached ⟨x, hm, .refl⟩
  refine ⟨z, hz, hz.live, ?_, hx.leads.head hz⟩
  rintro ⟨root, hroot, hpath⟩
  exact hx.unreached ⟨root, hroot, hpath.tail hz⟩

theorem finite_live (s : Store) : {ref | s.Live ref}.Finite := by
  refine (((Set.finite_lt_nat s.records.next).image fun i => Ref.record ⟨i⟩).union
    ((Set.finite_lt_nat s.arguments.next).image fun i => Ref.arguments ⟨i⟩)).subset ?_
  intro ref hl
  cases ref with
  | record r =>
    obtain ⟨cell, hcell⟩ := Option.isSome_iff_exists.mp hl
    exact .inl ⟨r.number, Arena.lt_next_of_get? hcell, rfl⟩
  | arguments a =>
    obtain ⟨cell, hcell⟩ := Option.isSome_iff_exists.mp hl
    exact .inr ⟨a.number, Arena.lt_next_of_get? hcell, rfl⟩

/-- An argument list refers to records only, so every cycle goes through a record. -/
theorem exists_onCycle (hcycle : TransGen s.Refers x x) (hpath : ReflTransGen s.Refers x y) :
    ∃ q, s.OnCycle q ∧ ReflTransGen s.Refers (.record q) y := by
  cases x with
  | record q => exact ⟨q, hcycle, hpath⟩
  | arguments a =>
    obtain ⟨z, hz, hback⟩ := TransGen.head'_iff.mp hcycle
    cases hz with
    | @element a values q list element =>
      exact ⟨q, .tail' hback (.element list element), hback.trans hpath⟩

/-- What is there although it cannot be reached is reached from a cycle: going back along the
references to it never ends, and there are but finitely many cells. -/
theorem Balanced.exists_onCycle (h : s.Balanced held) (hl : s.Live y)
    (hy : ¬ s.Reached held y) :
    ∃ q, s.OnCycle q ∧ ReflTransGen s.Refers (.record q) y := by
  by_contra hnone
  have hfinite : Finite {x // s.Stray held y x} :=
    (s.finite_live.subset fun x hx => Stray.live hx).to_subtype
  have htrans : IsTrans {x // s.Stray held y x} fun a b => TransGen s.Refers a b :=
    ⟨fun a b c hab hbc => hab.trans hbc⟩
  have hirrefl : Std.Irrefl fun a b : {x // s.Stray held y x} => TransGen s.Refers a b :=
    ⟨fun a hcycle => hnone (Store.exists_onCycle hcycle a.2.leads)⟩
  obtain ⟨first, -, hfirst⟩ := (Finite.wellFounded_of_trans_of_irrefl
    fun a b : {x // s.Stray held y x} => TransGen s.Refers a b).has_min Set.univ
      ⟨⟨y, hl, hy, .refl⟩, trivial⟩
  obtain ⟨x, hx, hstray⟩ := h.exists_stray_before first.2
  exact hfirst ⟨x, hstray⟩ trivial (.single hx)

/-- Without cycles nothing is left but what can be reached. -/
theorem Balanced.reached_of_live (h : s.Balanced held) (hacyclic : ∀ q, ¬ s.OnCycle q)
    (hl : s.Live y) : s.Reached held y := by
  by_contra hy
  obtain ⟨q, hq, -⟩ := h.exists_onCycle hl hy
  exact hacyclic q hq

theorem OnCycle.mono {q : RecordId} (h : t.OnCycle q) (hsub : t.Refers ≤ s.Refers) :
    s.OnCycle q :=
  TransGen.mono hsub _ _ h

end Store

end LoopScope
