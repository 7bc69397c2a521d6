import LoopScope.Proofs.Defects
/-!
# Which accessors make an operator

An operator takes two lists of accessors and goes through them pair by pair. Before it looks at a
pair it has made sure that both lists have one accessor for each slot, so no accessor is passed
over: the lists are taken just when they target the slots one by one, and any others are refused.
-/
namespace LoopScope.Operator

variable {schema : SharedSchema} {reads writes : List Accessor} {read write : Accessor}
  {config : Config} {context : Context} {position n : Nat} {e : ScopeError} {op : Operator}

/-- The accessors at one position, when not both of them target the slot of that number. -/
structure MisalignedAt (reads writes : List Accessor) (position : Nat) (read write : Accessor) :
    Prop where
  readAt : reads[position]? = some read
  writeAt : writes[position]? = some write
  misses : read.index ≠ position ∨ write.index ≠ position

/-- The misaligned pair with the least position. -/
structure LeastMisaligned (reads writes : List Accessor) (position : Nat) (read write : Accessor) :
    Prop where
  misaligned : MisalignedAt reads writes position read write
  least : ∀ j < position, ∀ r w, ¬ MisalignedAt reads writes j r w

/-- How lists of accessors are refused for a schema of `n` slots under a limit. Each way is for
lists that none of those above it applies to. -/
inductive BuildRefused (n maxSlots : Nat) (reads writes : List Accessor) : ScopeError → Prop
  | arity (differ : reads.length ≠ writes.length) :
      BuildRefused n maxSlots reads writes (.arityMismatch reads.length writes.length)
  | tooLarge (paired : reads.length = writes.length) (large : maxSlots < n) :
      BuildRefused n maxSlots reads writes (.schemaTooLarge n maxSlots)
  | length (paired : reads.length = writes.length) (fits : n ≤ maxSlots)
      (differ : reads.length ≠ n) :
      BuildRefused n maxSlots reads writes (.schemaLengthMismatch n reads.length)
  | misaligned {position : Nat} {read write : Accessor} (paired : reads.length = writes.length)
      (fits : n ≤ maxSlots) (complete : reads.length = n)
      (least : LeastMisaligned reads writes position read write) :
      BuildRefused n maxSlots reads writes
        (.accessorMisaligned position read.index write.index)

/-! ## The search for a misaligned pair -/

/-- What the search finds when the first pair should target the slot `start`. -/
private theorem exists_of_firstMisaligned? (start : Nat)
    (h : firstMisaligned? start reads writes = some e) :
    ∃ k read write, reads[k]? = some read ∧ writes[k]? = some write ∧
      (read.index ≠ start + k ∨ write.index ≠ start + k) ∧
      e = .accessorMisaligned (start + k) read.index write.index ∧
      ∀ j < k, ∀ r w, reads[j]? = some r → writes[j]? = some w →
        ¬ (r.index ≠ start + j ∨ w.index ≠ start + j) := by
  induction reads generalizing start writes with
  | nil => cases h
  | cons read reads ih =>
    cases writes with
    | nil => cases h
    | cons write writes =>
      rw [firstMisaligned?] at h
      by_cases hmisses : read.index ≠ start ∨ write.index ≠ start
      · rw [if_pos hmisses] at h
        cases h
        exact ⟨0, read, write, rfl, rfl, hmisses, rfl, fun j hj => (Nat.not_lt_zero j hj).elim⟩
      · rw [if_neg hmisses] at h
        obtain ⟨k, r, w, hr, hw, hlater, rfl, hleast⟩ := ih (start + 1) h
        have hshift (i : Nat) : start + 1 + i = start + (i + 1) := by omega
        simp only [hshift] at hlater hleast ⊢
        refine ⟨k + 1, r, w, hr, hw, hlater, rfl, ?_⟩
        intro j hj r' w' hr' hw'
        cases j with
        | zero =>
          cases hr'
          cases hw'
          exact hmisses
        | succ j => exact hleast j (Nat.lt_of_succ_lt_succ hj) r' w' hr' hw'

theorem exists_leastMisaligned (h : firstMisaligned? 0 reads writes = some e) :
    ∃ position read write, LeastMisaligned reads writes position read write ∧
      e = .accessorMisaligned position read.index write.index := by
  obtain ⟨k, read, write, hread, hwrite, hmisses, he, hleast⟩ := exists_of_firstMisaligned? 0 h
  simp only [Nat.zero_add] at hmisses he hleast
  refine ⟨k, read, write, ⟨⟨hread, hwrite, hmisses⟩, ?_⟩, he⟩
  intro j hj r w hmisaligned
  exact hleast j hj r w hmisaligned.readAt hmisaligned.writeAt hmisaligned.misses

theorem LeastMisaligned.unique {read' write' : Accessor} {position' : Nat}
    (h : LeastMisaligned reads writes position read write)
    (h' : LeastMisaligned reads writes position' read' write') :
    position = position' ∧ read = read' ∧ write = write' := by
  have hposition : position = position' := by
    rcases Nat.lt_trichotomy position position' with hlt | he | hgt
    · exact (h'.least position hlt read write h.misaligned).elim
    · exact he
    · exact (h.least position' hgt read' write' h'.misaligned).elim
  subst hposition
  have hread := h.misaligned.readAt
  have hwrite := h.misaligned.writeAt
  rw [h'.misaligned.readAt] at hread
  rw [h'.misaligned.writeAt] at hwrite
  cases hread
  cases hwrite
  exact ⟨rfl, rfl, rfl⟩

/-- Lists that target the slots one by one have no misaligned pair. -/
theorem MisalignedAt.not_aligned (h : MisalignedAt reads writes position read write) :
    ¬ (reads.map Accessor.index = List.range n ∧ writes.map Accessor.index = List.range n) := by
  rintro ⟨hreads, hwrites⟩
  have hindex {accessors : List Accessor} {a : Accessor}
      (haligned : accessors.map Accessor.index = List.range n)
      (ha : accessors[position]? = some a) : a.index = position := by
    have hat : (accessors.map Accessor.index)[position]? = some a.index := by
      rw [List.getElem?_map, ha, Option.map_some]
    rw [haligned] at hat
    obtain ⟨hlt, heq⟩ := List.getElem?_eq_some_iff.mp hat
    rw [← heq, List.getElem_range]
  exact h.misses.elim (fun hne => hne (hindex hreads h.readAt)) fun hne =>
    hne (hindex hwrites h.writeAt)

theorem firstMisaligned?_of_least (h : LeastMisaligned reads writes position read write)
    (hpaired : reads.length = writes.length) :
    firstMisaligned? 0 reads writes =
      some (.accessorMisaligned position read.index write.index) := by
  cases hfound : firstMisaligned? 0 reads writes with
  | none =>
    have haligned := (firstMisaligned?_eq_none_iff 0 reads writes hpaired).mp hfound
    rw [← hpaired, ← List.range_eq_range'] at haligned
    exact (h.misaligned.not_aligned haligned).elim
  | some found =>
    obtain ⟨position', read', write', hleast, rfl⟩ := exists_leastMisaligned hfound
    obtain ⟨rfl, rfl, rfl⟩ := h.unique hleast
    rfl

/-! ## Construction -/

theorem build_eq_error_iff :
    build schema reads writes config context = .error e ↔
      BuildRefused schema.schema.length config.maxSlots reads writes e := by
  constructor
  · intro h
    unfold build at h
    split at h
    · rename_i differ
      cases h
      exact .arity differ
    rename_i paired
    rw [not_not] at paired
    split at h
    · rename_i large
      cases h
      exact .tooLarge paired large
    rename_i fits
    split at h
    · rename_i differ
      cases h
      exact .length paired (Nat.le_of_not_lt fits) differ
    rename_i complete
    split at h
    · rename_i found
      cases h
      obtain ⟨position, read, write, hleast, rfl⟩ := exists_leastMisaligned found
      exact .misaligned paired (Nat.le_of_not_lt fits) (not_not.mp complete) hleast
    · cases h
  · intro h
    cases h with
    | arity differ => rw [build, if_pos differ]
    | tooLarge paired large => rw [build, if_neg (not_not_intro paired), if_pos large]
    | length paired fits differ =>
      rw [build, if_neg (not_not_intro paired), if_neg (Nat.not_lt_of_le fits), if_pos differ]
    | misaligned paired fits complete least =>
      rw [build, if_neg (not_not_intro paired), if_neg (Nat.not_lt_of_le fits),
        if_neg (not_not_intro complete), firstMisaligned?_of_least least paired]

/-- Lists that target the slots one by one make an operator of a schema within the limit. -/
theorem exists_build_of_aligned
    (hreads : reads.map Accessor.index = List.range schema.schema.length)
    (hwrites : writes.map Accessor.index = List.range schema.schema.length)
    (hfits : schema.schema.length ≤ config.maxSlots) :
    ∃ op, build schema reads writes config context = .ok op := by
  have hlength {accessors : List Accessor}
      (haligned : accessors.map Accessor.index = List.range schema.schema.length) :
      accessors.length = schema.schema.length := by
    simpa using congrArg List.length haligned
  cases hbuild : build schema reads writes config context with
  | ok op => exact ⟨op, rfl⟩
  | error e =>
    cases build_eq_error_iff.mp hbuild with
    | arity differ => exact (differ ((hlength hreads).trans (hlength hwrites).symm)).elim
    | tooLarge paired large => exact (Nat.not_lt_of_le hfits large).elim
    | length paired fits differ => exact (differ (hlength hreads)).elim
    | misaligned paired fits complete least =>
      exact (least.misaligned.not_aligned ⟨hreads, hwrites⟩).elim

/-- Accessors make an operator just when their lists target the slots one by one and the schema is
within the limit, and the operator has them all. Any other lists are refused, in the first way that
applies to them. A schema alone stands for the lists of fresh accessors, one for each slot, and a
list of slots for the schema that it makes; a list with a defect is refused for it, whatever its
size. -/
theorem built_of_aligned_accessors (digest : Layout.DigestFunction) (config : Config)
    (context : Context) :
    (∀ (schema : SharedSchema) (reads writes : List Accessor),
      ((∃ op, build schema reads writes config context = .ok op) ↔
        reads.map Accessor.index = List.range schema.schema.length ∧
        writes.map Accessor.index = List.range schema.schema.length ∧
        schema.schema.length ≤ config.maxSlots) ∧
      (∀ op, build schema reads writes config context = .ok op →
        op.schema = schema ∧ op.reads = reads ∧ op.writes = writes ∧ op.config = config ∧
        op.context = context) ∧
      ∀ e, build schema reads writes config context = .error e ↔
        BuildRefused schema.schema.length config.maxSlots reads writes e) ∧
    (∀ schema : SharedSchema,
      forSchema schema config context =
        build schema ((List.range schema.schema.length).map .fresh)
          ((List.range schema.schema.length).map .fresh) config context ∧
      ((∃ op, forSchema schema config context = .ok op) ↔
        schema.schema.length ≤ config.maxSlots) ∧
      ∀ e, forSchema schema config context = .error e →
        e = .schemaTooLarge schema.schema.length config.maxSlots) ∧
    ∀ (number : Nat) (slots : List Slot),
      (¬ Layout.Valid slots → ∃ defect, Layout.Reported slots defect ∧
        ofSlotsBy digest number slots config context = .error (.schema defect)) ∧
      (Layout.Valid slots → ofSlotsBy digest number slots config context =
        forSchema ⟨number, slots, Layout.fingerprint digest slots⟩ config context) := by
  refine ⟨?build, ?forSchema, ?ofSlots⟩
  case build =>
    intro schema reads writes
    refine ⟨⟨?aligned, ?made⟩, ?kept, fun e => build_eq_error_iff⟩
    case aligned =>
      rintro ⟨op, hbuild⟩
      obtain ⟨-, hfits, hreads, hwrites⟩ := build_eq_ok hbuild
      exact ⟨hreads, hwrites, hfits⟩
    case made =>
      rintro ⟨hreads, hwrites, hfits⟩
      exact exists_build_of_aligned hreads hwrites hfits
    case kept =>
      intro op hbuild
      obtain ⟨rfl, -⟩ := build_eq_ok hbuild
      exact ⟨rfl, rfl, rfl, rfl, rfl⟩
  case forSchema =>
    intro schema
    refine ⟨rfl, ?_⟩
    rw [forSchema_eq]
    by_cases hlarge : config.maxSlots < schema.schema.length
    · rw [if_pos hlarge]
      refine ⟨iff_of_false nofun (Nat.not_le_of_lt hlarge), ?_⟩
      intro e he
      exact (Except.error.inj he).symm
    · rw [if_neg hlarge]
      exact ⟨iff_of_true ⟨_, rfl⟩ (Nat.le_of_not_lt hlarge), nofun⟩
  case ofSlots =>
    intro number slots
    rw [ofSlotsBy, Schema.ofSlotsBy]
    cases hfound : Layout.firstDefect? slots with
    | none =>
      have hvalid := (Layout.firstDefect?_eq_none_iff slots).mp hfound
      exact ⟨fun hinvalid => (hinvalid hvalid).elim, fun _ => rfl⟩
    | some defect =>
      have hreported := Layout.firstDefect?_eq_some_iff.mp hfound
      exact ⟨fun _ => ⟨defect, hreported, rfl⟩, fun hvalid => (hreported.not_valid hvalid).elim⟩

/-- Both lists are as long as the schema, and the second pair is the first that misses its place. -/
theorem built_of_aligned_accessors_sample :
    BuildRefused 3 Config.default.maxSlots [.fresh 0, .fresh 2, .fresh 1]
      [.fresh 0, .fresh 1, .fresh 2] (.accessorMisaligned 1 2 1) := by
  have hrefused :
      build ⟨0, [.parent, .binding "i" 1 .letBinding, .binding "j" 2 .letBinding], ""⟩
        [.fresh 0, .fresh 2, .fresh 1] [.fresh 0, .fresh 1, .fresh 2] .default .blank =
          .error (.accessorMisaligned 1 2 1) := rfl
  exact (((built_of_aligned_accessors (fun _ => []) .default .blank).1 _ _ _).2.2 _).mp hrefused

end LoopScope.Operator
