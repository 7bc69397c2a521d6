import LoopScope.Proofs.WellFormed
import Mathlib.Data.List.Nodup
/-!
# The first defect of a layout

A list of slots is searched once, with the names of the bindings that came before in hand. The
search finds nothing just in the valid layouts, and else the defect at the least index that has one.
-/
namespace LoopScope.Layout

variable {slots : List Slot} {first slot : Slot} {i j index : Nat} {e : SchemaError}

/-- A binding in front of the slot at `index` has this name. The name of slot 0 does not count. -/
def NamedBefore (slots : List Slot) (index : Nat) (name : String) : Prop :=
  ∃ j other, 1 ≤ j ∧ j < index ∧ slots[j]? = some other ∧ other.name = name

/-- A slot after slot 0 that is a parent link, or has the name of a binding in front of it. -/
structure DefectAt (slots : List Slot) (index : Nat) (slot : Slot) : Prop where
  pos : 1 ≤ index
  found : slots[index]? = some slot
  defect : slot.kind = .parentLink ∨ NamedBefore slots index slot.name

/-- The defect with the least index. -/
structure LeastDefect (slots : List Slot) (index : Nat) (slot : Slot) : Prop where
  defect : DefectAt slots index slot
  least : ∀ j < index, ∀ other, ¬ DefectAt slots j other

/-- How the first defect of a layout is reported. Of two defects of one slot, being a parent link
comes first. -/
inductive Reported : List Slot → SchemaError → Prop
  | empty : Reported [] .empty
  | missingParentLink {first : Slot} {rest : List Slot} (kind : first.kind ≠ .parentLink) :
      Reported (first :: rest) (.missingParentLink first.name first.kind)
  | misplacedParentLink {first slot : Slot} {rest : List Slot} {i : Nat}
      (link : first.kind = .parentLink) (least : LeastDefect (first :: rest) i slot)
      (kind : slot.kind = .parentLink) : Reported (first :: rest) (.misplacedParentLink i)
  | duplicateBinding {first slot : Slot} {rest : List Slot} {i : Nat}
      (link : first.kind = .parentLink) (least : LeastDefect (first :: rest) i slot)
      (kind : slot.kind ≠ .parentLink) : Reported (first :: rest) (.duplicateBinding slot.name)

theorem LeastDefect.index_eq {other : Slot} (h : LeastDefect slots i slot)
    (h' : LeastDefect slots j other) : i = j := by
  rcases Nat.lt_trichotomy i j with hlt | he | hgt
  · exact (h'.least i hlt slot h.defect).elim
  · exact he
  · exact (h.least j hgt other h'.defect).elim

theorem LeastDefect.slot_eq {other : Slot} (h : LeastDefect slots i slot)
    (h' : LeastDefect slots j other) : slot = other := by
  have hfound := h.defect.found
  rw [h.index_eq h', h'.defect.found] at hfound
  exact (Option.some.inj hfound).symm

/-- A layout has one first defect. -/
theorem Reported.unique {e' : SchemaError} (h : Reported slots e) (h' : Reported slots e') :
    e = e' := by
  cases h with
  | empty =>
    cases h'
    rfl
  | missingParentLink kind =>
    cases h' with
    | missingParentLink kind' => rfl
    | misplacedParentLink link least kind' => exact (kind link).elim
    | duplicateBinding link least kind' => exact (kind link).elim
  | misplacedParentLink link least kind =>
    cases h' with
    | missingParentLink kind' => exact (kind' link).elim
    | misplacedParentLink link' least' kind' => rw [least.index_eq least']
    | duplicateBinding link' least' kind' =>
      rw [least.slot_eq least'] at kind
      exact (kind' kind).elim
  | duplicateBinding link least kind =>
    cases h' with
    | missingParentLink kind' => exact (kind' link).elim
    | misplacedParentLink link' least' kind' =>
      rw [least.slot_eq least'] at kind
      exact (kind kind').elim
    | duplicateBinding link' least' kind' => rw [least.slot_eq least']

/-! ## The search -/

theorem namedBefore_succ (hslot : slots[index]? = some slot) (hpos : 1 ≤ index) (name : String) :
    NamedBefore slots (index + 1) name ↔ slot.name = name ∨ NamedBefore slots index name := by
  constructor
  · rintro ⟨j, other, hj, hlt, hother, hname⟩
    rcases Nat.lt_or_eq_of_le (Nat.le_of_lt_succ hlt) with hlt | rfl
    · exact .inr ⟨j, other, hj, hlt, hother, hname⟩
    · rw [hslot] at hother
      cases hother
      exact .inl hname
  · rintro (hname | ⟨j, other, hj, hlt, hother, hname⟩)
    · exact ⟨index, slot, hpos, Nat.lt_succ_self _, hslot, hname⟩
    · exact ⟨j, other, hj, Nat.lt_succ_of_lt hlt, hother, hname⟩

/-- What the search finds from `index` on, when the slots in front have no defect and `seen` are the
names of their bindings. -/
theorem reported_of_firstBindingDefect? {rest tail : List Slot} {seen : List String}
    (link : first.kind = .parentLink) (hpos : 1 ≤ index)
    (htail : (first :: rest).drop index = tail)
    (hseen : ∀ name, name ∈ seen ↔ NamedBefore (first :: rest) index name)
    (hbefore : ∀ j < index, ∀ other, ¬ DefectAt (first :: rest) j other)
    (h : firstBindingDefect? seen index tail = some e) : Reported (first :: rest) e := by
  induction tail generalizing seen index with
  | nil => cases h
  | cons slot tail ih =>
    have hslot : (first :: rest)[index]? = some slot := by
      rw [← List.head?_drop, htail, List.head?_cons]
    have hnext : (first :: rest).drop (index + 1) = tail := by
      rw [← List.tail_drop, htail, List.tail_cons]
    rw [firstBindingDefect?] at h
    by_cases hkind : slot.kind = .parentLink
    · rw [if_pos hkind] at h
      cases h
      exact .misplacedParentLink link ⟨⟨hpos, hslot, .inl hkind⟩, hbefore⟩ hkind
    · rw [if_neg hkind] at h
      by_cases hname : slot.name ∈ seen
      · rw [if_pos hname] at h
        cases h
        exact .duplicateBinding link ⟨⟨hpos, hslot, .inr ((hseen _).mp hname)⟩, hbefore⟩ hkind
      · rw [if_neg hname] at h
        refine ih (Nat.le_succ_of_le hpos) hnext ?_ ?_ h
        · intro name
          rw [List.mem_cons, hseen, namedBefore_succ hslot hpos, eq_comm]
        · -- The slot just passed has no defect either.
          intro j hj other hother
          rcases Nat.lt_or_eq_of_le (Nat.le_of_lt_succ hj) with hlt | rfl
          · exact hbefore j hlt other hother
          · have hfound := hother.found
            rw [hslot] at hfound
            cases hfound
            exact hother.defect.elim hkind fun hnamed => hname ((hseen _).mpr hnamed)

theorem reported_of_firstDefect? (h : firstDefect? slots = some e) : Reported slots e := by
  cases slots with
  | nil =>
    cases h
    exact .empty
  | cons first rest =>
    rw [firstDefect?] at h
    by_cases link : first.kind = .parentLink
    · rw [if_pos link] at h
      refine reported_of_firstBindingDefect? link (Nat.le_refl 1) rfl ?_ ?_ h
      · intro name
        refine iff_of_false List.not_mem_nil ?_
        rintro ⟨j, other, hj, hlt, -⟩
        omega
      · intro j hj other hother
        have hpos := hother.pos
        omega
    · rw [if_neg link] at h
      cases h
      exact .missingParentLink link

theorem DefectAt.not_valid (h : DefectAt slots i slot) : ¬ Valid slots := by
  intro hvalid
  cases slots with
  | nil => exact hvalid
  | cons first rest =>
    obtain ⟨-, hkinds, hnames⟩ := hvalid
    obtain ⟨i, rfl⟩ := Nat.exists_eq_add_of_le' h.pos
    have hslot : rest[i]? = some slot := h.found
    rcases h.defect with hkind | ⟨j, other, hj, hlt, hother, hname⟩
    · exact hkinds slot (List.mem_of_getElem? hslot) hkind
    · obtain ⟨j, rfl⟩ := Nat.exists_eq_add_of_le' hj
      replace hother : rest[j]? = some other := hother
      have hi : i < (rest.map Slot.name).length := by
        rw [List.length_map]
        exact (List.getElem?_eq_some_iff.mp hslot).1
      have hsame : (rest.map Slot.name)[j]? = (rest.map Slot.name)[i]? := by
        rw [List.getElem?_map, List.getElem?_map, hslot, hother, Option.map_some, Option.map_some,
          hname]
      exact List.nodup_iff_getElem?_ne_getElem?.mp hnames j i (Nat.lt_of_succ_lt_succ hlt) hi hsame

theorem Reported.not_valid (h : Reported slots e) : ¬ Valid slots := by
  cases h with
  | empty => exact id
  | missingParentLink kind => exact fun hvalid => kind hvalid.1
  | misplacedParentLink link least kind => exact least.defect.not_valid
  | duplicateBinding link least kind => exact least.defect.not_valid

theorem firstDefect?_eq_some_iff : firstDefect? slots = some e ↔ Reported slots e := by
  constructor
  · exact reported_of_firstDefect?
  · intro h
    cases hfound : firstDefect? slots with
    | none => exact (h.not_valid ((firstDefect?_eq_none_iff slots).mp hfound)).elim
    | some found => rw [(reported_of_firstDefect? hfound).unique h]

end LoopScope.Layout

namespace LoopScope.Schema

/-- A list of slots makes a schema just when it is a valid layout, and the schema has these slots.
Any other list is refused with its first defect: that it is empty, that slot 0 is no parent link, or
what is wrong at the least index where a later slot is a parent link or repeats the name of a
binding. -/
theorem valid_or_first_defect (digest : Layout.DigestFunction) (slots : List Slot) :
    (∀ schema, ofSlotsBy digest slots = .ok schema ↔
      Layout.Valid slots ∧ schema = ⟨slots, Layout.fingerprint digest slots⟩) ∧
    ∀ e, ofSlotsBy digest slots = .error e ↔ Layout.Reported slots e := by
  rw [ofSlotsBy]
  cases hfound : Layout.firstDefect? slots with
  | none =>
    have hvalid := (Layout.firstDefect?_eq_none_iff slots).mp hfound
    constructor
    · intro schema
      rw [Except.ok.injEq, eq_comm]
      exact (and_iff_right hvalid).symm
    · intro e
      refine iff_of_false ?_ fun h => h.not_valid hvalid
      intro hmade
      cases hmade
  | some found =>
    have hreported := Layout.firstDefect?_eq_some_iff.mp hfound
    constructor
    · intro schema
      refine iff_of_false ?_ fun h => hreported.not_valid h.1
      intro hmade
      cases hmade
    · intro e
      rw [Except.error.injEq]
      exact ⟨fun he => he ▸ hreported, fun h => hreported.unique h⟩

/-- A parent link that repeats the name of a binding, in a list whose slot 0 is named like that
binding. -/
theorem valid_or_first_defect_sample :
    Layout.Reported
      [⟨"i", none, .parentLink⟩, .binding "i" 1 .letBinding, ⟨"i", none, .parentLink⟩,
        .binding "i" 2 .constBinding] (.misplacedParentLink 2) := by
  have hrefused : ofSlotsBy (fun _ => [])
      [⟨"i", none, .parentLink⟩, .binding "i" 1 .letBinding, ⟨"i", none, .parentLink⟩,
        .binding "i" 2 .constBinding] = .error (.misplacedParentLink 2) := rfl
  exact ((valid_or_first_defect _ _).2 _).mp hrefused

end LoopScope.Schema
