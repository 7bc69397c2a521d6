import LoopScope.Toml.Document
/-!
# What a document has at its top level

A document has each key once at its top level: a line adds an entry under a key that is not there
yet, or changes what stands under a key, and only a header moves an entry. The whole numbers among
the entries have 64 bits.
-/
namespace LoopScope.Toml

/-- A whole number has 64 bits. -/
def Value.Fits : Value → Prop
  | .integer n => leastInteger ≤ n ∧ n ≤ greatestInteger
  | _ => True

/-- Each key stands once, and the values are of their size. -/
structure WellKept (entries : Entries) : Prop where
  keys : (entries.map Prod.fst).Nodup
  fits : ∀ {key value}, (key, Node.leaf value) ∈ entries → value.Fits

theorem wellKept_nil : WellKept [] := ⟨List.nodup_nil, nofun⟩

/-- A change of one table keeps it well. -/
def Keeps (change : Bool → Entries → Option Entries) : Prop :=
  ∀ {dotted entries changed}, WellKept entries → change dotted entries = some changed →
    WellKept changed

/-! ## Changes under a key -/

section Alter

variable {α : Type} {key : String} {f : Option α → Option α} {entries changed : List (String × α)}

theorem keys_alter (h : alter key f entries = some changed) :
    changed.map Prod.fst = entries.map Prod.fst ∨
      key ∉ entries.map Prod.fst ∧ changed.map Prod.fst = entries.map Prod.fst ++ [key] := by
  induction entries generalizing changed with
  | nil =>
    obtain ⟨a, -, rfl⟩ := Option.map_eq_some_iff.mp h
    exact .inr ⟨List.not_mem_nil, rfl⟩
  | cons entry entries ih =>
    obtain ⟨k, old⟩ := entry
    rw [alter] at h
    split at h
    · obtain ⟨a, -, rfl⟩ := Option.map_eq_some_iff.mp h
      exact .inl rfl
    · rename_i hne
      obtain ⟨rest, hrest, rfl⟩ := Option.map_eq_some_iff.mp h
      rcases ih hrest with hsame | ⟨hnew, hsame⟩
      · exact .inl (congrArg (k :: ·) hsame)
      · exact .inr ⟨List.not_mem_cons_of_ne_of_not_mem (Ne.symm hne) hnew,
          congrArg (k :: ·) hsame⟩

theorem mem_alter (h : alter key f entries = some changed) {entry : String × α}
    (hm : entry ∈ changed) :
    entry ∈ entries ∨ entry.1 = key ∧ ∃ old, f old = some entry.2 := by
  induction entries generalizing changed with
  | nil =>
    obtain ⟨a, ha, rfl⟩ := Option.map_eq_some_iff.mp h
    obtain rfl := List.mem_singleton.mp hm
    exact .inr ⟨rfl, none, ha⟩
  | cons other entries ih =>
    obtain ⟨k, old⟩ := other
    rw [alter] at h
    split at h
    · rename_i hkey
      obtain ⟨a, ha, rfl⟩ := Option.map_eq_some_iff.mp h
      rcases List.mem_cons.mp hm with rfl | hm
      · exact .inr ⟨hkey, some old, ha⟩
      · exact .inl (List.mem_cons_of_mem _ hm)
    · obtain ⟨rest, hrest, rfl⟩ := Option.map_eq_some_iff.mp h
      rcases List.mem_cons.mp hm with rfl | hm
      · exact .inl List.mem_cons_self
      · exact (ih hrest hm).imp_left (List.mem_cons_of_mem _)

end Alter

variable {entries changed : Entries} {key : String}

theorem WellKept.alter {f : Option Node → Option Node} (h : WellKept entries)
    (hf : ∀ {old value}, f old = some (.leaf value) → value.Fits)
    (hchanged : Toml.alter key f entries = some changed) : WellKept changed where
  keys := by
    rcases keys_alter hchanged with hsame | ⟨hnew, hsame⟩
    · rw [hsame]
      exact h.keys
    · rw [hsame, (List.perm_append_singleton key _).nodup_iff]
      exact List.nodup_cons.mpr ⟨hnew, h.keys⟩
  fits hm := by
    rcases mem_alter hchanged hm with hold | ⟨-, old, hmade⟩
    · exact h.fits hold
    · exact hf hmade

/-! ## Changes at the end of a path -/

/-- What leads to a table is no value. -/
theorem within_keeps (byDottedKey : Bool) (path : List String)
    {change : Bool → Entries → Option Entries} (h : Keeps change) :
    Keeps (within byDottedKey path change) := by
  intro dotted entries changed hkept hchanged
  cases path with
  | nil => exact h hkept hchanged
  | cons key path =>
    refine hkept.alter ?_ hchanged
    intro old value hmade
    split at hmade
    · obtain ⟨inner, -, hnode⟩ := Option.map_eq_some_iff.mp hmade
      cases hnode
    · cases hmade
    · split at hmade
      · cases hmade
      · obtain ⟨inner, -, hnode⟩ := Option.map_eq_some_iff.mp hmade
        cases hnode
    · split at hmade
      · cases hmade
      · obtain ⟨last, -, hnode⟩ := Option.map_eq_some_iff.mp hmade
        cases hnode

theorem WellKept.addLine {here path : List String} {value : Value} (h : WellKept entries)
    (hvalue : value.Fits) (hchanged : Toml.addLine here path value entries = some changed) :
    WellKept changed := by
  unfold Toml.addLine at hchanged
  split at hchanged
  · cases hchanged
  · refine within_keeps false here ?_ h hchanged
    intro dotted entries changed hkept hchanged
    refine within_keeps true path.dropLast ?_ hkept hchanged
    intro dotted entries changed hkept hchanged
    dsimp only at hchanged
    split at hchanged
    · cases hchanged
    · refine hkept.alter ?_ hchanged
      intro old other hmade
      split at hmade
      · cases hmade
        exact hvalue
      · cases hmade

theorem WellKept.openTable {path : List String} (h : WellKept entries)
    (hchanged : Toml.openTable path entries = some changed) : WellKept changed := by
  unfold Toml.openTable at hchanged
  split at hchanged
  · cases hchanged
  · rename_i key _
    refine within_keeps false path.dropLast ?_ h hchanged
    intro dotted entries changed hkept hchanged
    dsimp only at hchanged
    split at hchanged
    · rename_i hnew
      cases hchanged
      constructor
      · rw [List.map_append, List.map_singleton, (List.perm_append_singleton key _).nodup_iff]
        refine List.nodup_cons.mpr ⟨fun hm => ?_, hkept.keys⟩
        obtain ⟨entry, hentry, hkey⟩ := List.mem_map.mp hm
        have hne := List.lookup_eq_none_iff.mp hnew entry hentry
        simp only [hkey, bne_self_eq_false, Bool.false_eq_true] at hne
      · intro other value hm
        rcases List.mem_append.mp hm with hold | hnode
        · exact hkept.fits hold
        · cases List.mem_singleton.mp hnode
    · -- The table moves behind the other entries.
      cases hchanged
      have hsub := List.filter_sublist (p := fun e : String × Node => e.1 != key) (l := entries)
      constructor
      · rw [List.map_append, List.map_singleton, (List.perm_append_singleton key _).nodup_iff]
        refine List.nodup_cons.mpr ⟨fun hm => ?_, hkept.keys.sublist (hsub.map Prod.fst)⟩
        obtain ⟨entry, hentry, hkey⟩ := List.mem_map.mp hm
        have hne := (List.mem_filter.mp hentry).2
        simp only [hkey, bne_self_eq_false, Bool.false_eq_true] at hne
      · intro other value hm
        rcases List.mem_append.mp hm with hold | hnode
        · exact hkept.fits (hsub.subset hold)
        · cases List.mem_singleton.mp hnode
    · cases hchanged

theorem WellKept.openElement {path : List String} (h : WellKept entries)
    (hchanged : Toml.openElement path entries = some changed) : WellKept changed := by
  unfold Toml.openElement at hchanged
  split at hchanged
  · cases hchanged
  · refine within_keeps false path.dropLast ?_ h hchanged
    intro dotted entries changed hkept hchanged
    refine hkept.alter ?_ hchanged
    intro old value hmade
    split at hmade <;> cases hmade

/-! ## Whole numbers -/

variable {s rest : List Char} {value : Value}

theorem fits_of_integerValue? {n : Int} (h : integerValue? n = some value) : value.Fits := by
  rw [integerValue?] at h
  split at h
  · cases h
    assumption
  · cases h

theorem fits_of_inBase? {base : Nat} {isDigit : Char → Bool}
    (h : inBase? base isDigit s = some (value, rest)) : value.Fits := by
  obtain ⟨digits, -, h⟩ := Option.bind_eq_some_iff.mp h
  obtain ⟨n, -, h⟩ := Option.bind_eq_some_iff.mp h
  obtain ⟨made, hmade, h⟩ := Option.bind_eq_some_iff.mp h
  cases h
  exact fits_of_integerValue? hmade

theorem fits_of_readInteger (h : readInteger s = some (value, rest)) : value.Fits := by
  unfold readInteger at h
  split at h
  · exact fits_of_inBase? h
  · exact fits_of_inBase? h
  · exact fits_of_inBase? h
  · dsimp only at h
    split at h
    · cases h
    · obtain ⟨made, hmade, h⟩ := Option.map_eq_some_iff.mp h
      cases h
      exact fits_of_integerValue? hmade

theorem fits_of_readFloat (h : readFloat s = some (value, rest)) : value.Fits := by
  unfold readFloat at h
  dsimp only at h
  split at h
  · cases h
    trivial
  · cases h
    trivial
  · obtain ⟨whole, -, h⟩ := Option.bind_eq_some_iff.mp h
    split at h
    · cases h
    · obtain ⟨after, -, h⟩ := Option.bind_eq_some_iff.mp h
      obtain ⟨power, -, h⟩ := Option.bind_eq_some_iff.mp h
      split at h
      · cases h
      · cases h
        trivial

theorem fits_of_readDateTime (h : readDateTime s = some (value, rest)) : value.Fits := by
  obtain ⟨rest, -, h⟩ := Option.bind_eq_some_iff.mp h
  cases h
  trivial

theorem fits_of_readNumber (h : readNumber s = some (value, rest)) : value.Fits := by
  rw [readNumber, Option.orElse_eq_orElse, Option.orElse_eq_or, Option.orElse_eq_or,
    Option.or_eq_some_iff, Option.or_eq_some_iff] at h
  rcases h with h | ⟨-, h | ⟨-, h⟩⟩
  · exact fits_of_readDateTime h
  · exact fits_of_readFloat h
  · exact fits_of_readInteger h

theorem fits_of_readValue {fuel room : Nat} (h : readValue fuel room s = some (value, rest)) :
    value.Fits := by
  cases fuel with
  | zero => cases h
  | succ fuel =>
    unfold readValue at h
    split at h
    · obtain ⟨text, -, hvalue⟩ := Option.map_eq_some_iff.mp h
      cases hvalue
      trivial
    · obtain ⟨text, -, hvalue⟩ := Option.map_eq_some_iff.mp h
      cases hvalue
      trivial
    · obtain ⟨after, -, hvalue⟩ := Option.map_eq_some_iff.mp h
      cases hvalue
      trivial
    · obtain ⟨after, -, hvalue⟩ := Option.map_eq_some_iff.mp h
      cases hvalue
      trivial
    · split at h
      · cases h
      · obtain ⟨elements, -, hvalue⟩ := Option.map_eq_some_iff.mp h
        cases hvalue
        trivial
    · split at h
      · cases h
      · split at h
        · cases h
          trivial
        · obtain ⟨entries, -, hvalue⟩ := Option.map_eq_some_iff.mp h
          cases hvalue
          trivial
    · exact fits_of_readNumber h

theorem fits_of_readKeyValue {path : List String}
    (h : readKeyValue s = some ((path, value), rest)) : value.Fits := by
  unfold readKeyValue at h
  split at h
  · split at h
    · cases h
    · rename_i hvalue
      obtain ⟨after, -, hline⟩ := Option.map_eq_some_iff.mp h
      cases hline
      exact fits_of_readValue hvalue
  · cases h

/-! ## Documents -/

/-- Each line keeps the top level well. -/
theorem WellKept.readLines {fuel : Nat} {here : List String} (h : WellKept entries)
    (hread : Toml.readLines fuel here entries s = some changed) : WellKept changed := by
  induction fuel generalizing here entries s with
  | zero => cases hread
  | succ fuel ih =>
    rw [Toml.readLines] at hread
    split at hread
    · cases hread
      exact h
    · obtain ⟨after, -, hread⟩ := Option.bind_eq_some_iff.mp hread
      exact ih h hread
    · obtain ⟨after, -, hread⟩ := Option.bind_eq_some_iff.mp hread
      exact ih h hread
    · obtain ⟨after, -, hread⟩ := Option.bind_eq_some_iff.mp hread
      exact ih h hread
    · split at hread
      · obtain ⟨opened, hopened, hread⟩ := Option.bind_eq_some_iff.mp hread
        obtain ⟨after, -, hread⟩ := Option.bind_eq_some_iff.mp hread
        exact ih (h.openElement hopened) hread
      · cases hread
    · split at hread
      · obtain ⟨opened, hopened, hread⟩ := Option.bind_eq_some_iff.mp hread
        obtain ⟨after, -, hread⟩ := Option.bind_eq_some_iff.mp hread
        exact ih (h.openTable hopened) hread
      · cases hread
    · split at hread
      · rename_i hline
        obtain ⟨added, hadded, hread⟩ := Option.bind_eq_some_iff.mp hread
        exact ih (h.addLine (fits_of_readKeyValue hline) hadded) hread
      · cases hread

theorem nodeValues_eq_map (entries : Entries) :
    nodeValues entries = entries.map fun entry => (entry.1, entry.2.toValue) := by
  induction entries with
  | nil => rfl
  | cons entry entries ih =>
    rw [nodeValues, ih]
    rfl

/-- A document has each key once at its top level, and the whole numbers there have 64 bits. -/
theorem wellKept_of_parse? {text : String} {read : List (String × Value)}
    (h : parse? text = some read) :
    (read.map Prod.fst).Nodup ∧ ∀ entry ∈ read, entry.2.Fits := by
  obtain ⟨root, hroot, rfl⟩ := Option.map_eq_some_iff.mp h
  have hkept := wellKept_nil.readLines hroot
  rw [nodeValues_eq_map]
  constructor
  · rw [List.map_map]
    exact hkept.keys
  · intro entry hm
    obtain ⟨⟨key, node⟩, hnode, rfl⟩ := List.mem_map.mp hm
    cases node with
    | leaf value => exact hkept.fits hnode
    | table isImplicit dotted inner => trivial
    | tables elements => trivial

end LoopScope.Toml
