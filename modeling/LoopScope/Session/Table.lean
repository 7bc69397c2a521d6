/-!
# Names

A table of named things. A name stands for one thing at a time; binding it again forgets the older
one.
-/
namespace LoopScope

structure Table (α : Type) where
  entries : List (String × α)
deriving Repr

namespace Table

variable {α : Type}

def empty : Table α := ⟨[]⟩

def get? (t : Table α) (name : String) : Option α := t.entries.lookup name

def erase (t : Table α) (name : String) : Table α := ⟨t.entries.filter fun e => e.1 != name⟩

def insert (t : Table α) (name : String) (a : α) : Table α :=
  ⟨(name, a) :: (t.erase name).entries⟩

def toList (t : Table α) : List α := t.entries.map Prod.snd

@[simp] theorem get?_insert_self (t : Table α) (name : String) (a : α) :
    (t.insert name a).get? name = some a := by
  simp [get?, insert]

private theorem lookup_filter_of_ne {name other : String} (h : other ≠ name)
    (entries : List (String × α)) :
    (entries.filter fun e => e.1 != name).lookup other = entries.lookup other := by
  induction entries with
  | nil => rfl
  | cons e entries ih =>
    obtain ⟨key, a⟩ := e
    by_cases hk : key = name
    · subst hk
      have hne : (other == key) = false := by simpa using h
      rw [List.filter_cons_of_neg (by simp), ih, List.lookup_cons, hne]
    · rw [List.filter_cons_of_pos (by simpa using hk), List.lookup_cons, List.lookup_cons, ih]

theorem get?_erase_of_ne (t : Table α) {name other : String} (h : other ≠ name) :
    (t.erase name).get? other = t.get? other :=
  lookup_filter_of_ne h t.entries

theorem get?_insert_of_ne (t : Table α) {name other : String} (a : α) (h : other ≠ name) :
    (t.insert name a).get? other = t.get? other := by
  have hne : (other == name) = false := by simpa using h
  rw [← get?_erase_of_ne t h]
  simp only [get?, insert, List.lookup_cons, hne]

theorem get?_insert_comm (t : Table α) {a b : String} (hne : a ≠ b) (x y : α)
    (name : String) :
    ((t.insert a x).insert b y).get? name = ((t.insert b y).insert a x).get? name := by
  by_cases ha : name = a
  · subst ha
    rw [get?_insert_of_ne _ _ hne, get?_insert_self, get?_insert_self]
  · rw [get?_insert_of_ne _ x ha]
    by_cases hb : name = b
    · subst hb
      rw [get?_insert_self, get?_insert_self]
    · rw [get?_insert_of_ne _ _ hb, get?_insert_of_ne _ _ ha, get?_insert_of_ne _ _ hb]

/-! ## Names that stand for one thing -/

/-- No name is listed twice. -/
def Distinct (t : Table α) : Prop := (t.entries.map Prod.fst).Nodup

theorem distinct_empty : (empty : Table α).Distinct := List.nodup_nil

theorem Distinct.erase {t : Table α} (h : t.Distinct) (name : String) : (t.erase name).Distinct :=
  h.sublist (List.filter_sublist.map Prod.fst)

theorem Distinct.insert {t : Table α} (h : t.Distinct) (name : String) (a : α) :
    (t.insert name a).Distinct := by
  refine List.nodup_cons.mpr ⟨?_, h.erase name⟩
  intro hm
  obtain ⟨entry, hentry, hname⟩ := List.mem_map.mp hm
  have hne := (List.mem_filter.mp hentry).2
  simp only [bne_iff_ne, ne_eq] at hne
  exact hne hname

private theorem filter_eq_of_not_mem {name : String} {entries : List (String × α)}
    (h : name ∉ entries.map Prod.fst) : (entries.filter fun e => e.1 != name) = entries := by
  rw [List.filter_eq_self]
  intro entry hm
  have hne : entry.1 ≠ name := fun he => h (he ▸ List.mem_map_of_mem hm)
  simpa using hne

/-- What a table lists is what a name stands for and what it lists without that name. -/
theorem Distinct.perm_toList_erase {t : Table α} (h : t.Distinct) (name : String) :
    t.toList.Perm ((t.get? name).toList ++ (t.erase name).toList) := by
  obtain ⟨entries⟩ := t
  simp only [toList, get?, Table.erase]
  replace h : (entries.map Prod.fst).Nodup := h
  induction entries with
  | nil => exact .refl []
  | cons entry entries ih =>
    obtain ⟨key, a⟩ := entry
    obtain ⟨hkey, hrest⟩ := List.nodup_cons.mp h
    by_cases hk : key = name
    · subst hk
      rw [List.filter_cons_of_neg (by simp), filter_eq_of_not_mem hkey]
      simp
    · have hne : (name == key) = false := by simpa using Ne.symm hk
      rw [List.filter_cons_of_pos (by simpa using hk), List.lookup_cons, hne]
      exact ((ih hrest).cons a).trans List.perm_middle.symm

theorem toList_insert (t : Table α) (name : String) (a : α) :
    (t.insert name a).toList = a :: (t.erase name).toList := rfl

theorem mem_toList_of_get? {t : Table α} {name : String} {a : α} (h : t.get? name = some a) :
    a ∈ t.toList := by
  obtain ⟨before, after, hsplit, -⟩ := List.lookup_eq_some_iff.mp h
  simp [toList, hsplit]

end Table

end LoopScope
