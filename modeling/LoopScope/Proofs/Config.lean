import LoopScope.Config.Entries
import LoopScope.Proofs.Codec
import LoopScope.Proofs.Toml.Lines
import Mathlib
/-!
# Configurations from texts

A document is a configuration just if it has no key but those of the three fields, each with a value
that its field takes. The fields that it names have these values and the others their defaults,
whatever the order; otherwise the first entry that is not taken is the reason. Configurations that
are written line by line come back, and so do the JSON objects with the same entries.
-/
namespace LoopScope

open Toml (Line)

/-- What a configuration is made of. -/
inductive Config.Field
  | parentLinkCheck
  | traceCopies
  | maxSlots
deriving DecidableEq

namespace Config

namespace Field

def key : Field → String
  | parentLinkCheck => "parent_link_check"
  | traceCopies => "trace_copies"
  | maxSlots => "max_slots"

/-- The value of a field, as TOML has it. -/
def value (c : Config) : Field → Toml.Value
  | parentLinkCheck => .string c.parentLinkCheck.name
  | traceCopies => .boolean c.traceCopies
  | maxSlots => .integer c.maxSlots

/-- The value of a field, as it is written in TOML. -/
def written (c : Config) : Field → String
  | parentLinkCheck => "\"" ++ c.parentLinkCheck.name ++ "\""
  | traceCopies => if c.traceCopies then "true" else "false"
  | maxSlots => toString c.maxSlots

/-- The value of a field, as JSON has it. -/
def json (c : Config) : Field → Json
  | parentLinkCheck => .ofString c.parentLinkCheck.name
  | traceCopies => .bool c.traceCopies
  | maxSlots => .natural c.maxSlots

theorem key_inj {f g : Field} (h : f.key = g.key) : f = g := by
  revert h
  cases f <;> cases g <;> decide

theorem key_mem_keys (f : Field) : f.key ∈ keys := by
  cases f <;> decide

end Field

variable {c c' : Config} {key : String} {value : Toml.Value} {reason : String}
  {entries : List (String × Toml.Value)}

theorem name_inj {a b : ParentLinkCheck} (h : a.name = b.name) : a = b := by
  revert h
  cases a <;> cases b <;> decide

theorem eq_of_values (h : ∀ field : Field, field.value c = field.value c') : c = c' := by
  obtain ⟨check, trace, count⟩ := c
  obtain ⟨check', trace', count'⟩ := c'
  have hcheck := h .parentLinkCheck
  have htrace := h .traceCopies
  have hcount := h .maxSlots
  simp only [Field.value, Toml.Value.string.injEq, Toml.Value.boolean.injEq,
    Toml.Value.integer.injEq, Int.natCast_inj] at hcheck htrace hcount
  rw [name_inj hcheck, htrace, hcount]

/-! ## Entries -/

/-- An entry that is taken. -/
inductive Accepted : String → Toml.Value → Prop
  | parentLinkCheck {name : String} (named : name ∈ ["debug_only", "always", "never"]) :
      Accepted "parent_link_check" (.string name)
  | traceCopies (b : Bool) : Accepted "trace_copies" (.boolean b)
  | maxSlots {n : Int} (natural : 0 ≤ n) : Accepted "max_slots" (.integer n)

/-- An entry that is not taken, and the reason that is given. -/
inductive Refused : String → Toml.Value → String → Prop
  | unknownField {key : String} {value : Toml.Value}
      (unknown : key ∉ ["parent_link_check", "trace_copies", "max_slots"]) :
      Refused key value
        s!"unknown field `{key}`, expected one of `parent_link_check`, `trace_copies`, `max_slots`"
  | unknownVariant {name : String} (unknown : name ∉ ["debug_only", "always", "never"]) :
      Refused "parent_link_check" (.string name)
        s!"unknown variant `{name}`, expected one of `debug_only`, `always`, `never`"
  | notAVariant {value : Toml.Value} (other : ∀ name, value ≠ .string name) :
      Refused "parent_link_check" value "wanted string or table"
  | notABoolean {value : Toml.Value} (other : ∀ b, value ≠ .boolean b) :
      Refused "trace_copies" value
        s!"invalid type: {ConfigError.describe value}, expected a boolean"
  | negative {n : Int} (negative : n < 0) :
      Refused "max_slots" (.integer n) s!"invalid value: integer `{n}`, expected usize"
  | notACount {value : Toml.Value} (other : ∀ n, value ≠ .integer n) :
      Refused "max_slots" value s!"invalid type: {ConfigError.describe value}, expected usize"

theorem accepted_or_refused (h : key = "parent_link_check" → ∀ table, value ≠ .table table) :
    Accepted key value ∨ ∃ reason, Refused key value reason := by
  by_cases hkey : key ∈ ["parent_link_check", "trace_copies", "max_slots"]
  · simp only [List.mem_cons, List.not_mem_nil, or_false] at hkey
    rcases hkey with rfl | rfl | rfl
    · cases value with
      | string name =>
        by_cases hname : name ∈ ["debug_only", "always", "never"]
        · exact .inl (.parentLinkCheck hname)
        · exact .inr ⟨_, .unknownVariant hname⟩
      | _ => exact .inr ⟨_, .notAVariant nofun⟩
    · cases value with
      | boolean b => exact .inl (.traceCopies b)
      | _ => exact .inr ⟨_, .notABoolean nofun⟩
    · cases value with
      | integer n =>
        by_cases hn : 0 ≤ n
        · exact .inl (.maxSlots hn)
        · exact .inr ⟨_, .negative (Int.not_le.mp hn)⟩
      | _ => exact .inr ⟨_, .notACount nofun⟩
  · exact .inr ⟨_, .unknownField hkey⟩

theorem exists_check {name : String} (h : name ∈ ["debug_only", "always", "never"]) :
    ∃ check : ParentLinkCheck, check.name = name := by
  simp only [List.mem_cons, List.not_mem_nil, or_false] at h
  rcases h with rfl | rfl | rfl
  · exact ⟨.debugOnly, rfl⟩
  · exact ⟨.always, rfl⟩
  · exact ⟨.never, rfl⟩

theorem ofName_name (check : ParentLinkCheck) : ParentLinkCheck.ofName check.name = .ok check := by
  cases check <;> rfl

theorem ofName_of_not_mem {name : String} (h : name ∉ ["debug_only", "always", "never"]) :
    ParentLinkCheck.ofName name = .error (.unknownVariant name) := by
  have hnone : ParentLinkCheck.all.find? (fun check => check.name == name) = none := by
    rw [List.find?_eq_none]
    intro check hm he
    obtain rfl := eq_of_beq he
    revert h
    cases check <;> decide
  rw [ParentLinkCheck.ofName, hnone]

theorem withEntry_parentLinkCheck (c : Config) (value : Toml.Value) :
    c.withEntry "parent_link_check" value =
      (ParentLinkCheck.ofToml value).map fun check => { c with parentLinkCheck := check } := rfl

theorem withEntry_maxSlots (c : Config) (value : Toml.Value) :
    c.withEntry "max_slots" value =
      (countOfToml value).map fun count => { c with maxSlots := count } := rfl

theorem withEntry_of_not_mem (h : key ∉ ["parent_link_check", "trace_copies", "max_slots"])
    (c : Config) (value : Toml.Value) : c.withEntry key value = .error (.unknownField key) := by
  simp only [List.mem_cons, List.not_mem_nil, or_false, not_or] at h
  obtain ⟨hcheck, htrace, hcount⟩ := h
  exact (if_neg hcheck).trans ((if_neg htrace).trans (if_neg hcount))

/-- An entry that is taken changes its field, and nothing else. -/
theorem withEntry_of_accepted (h : Accepted key value) (c : Config) :
    ∃ c', c.withEntry key value = .ok c' ∧
      ∀ field : Field, field.value c' = if field.key = key then value else field.value c := by
  cases h with
  | parentLinkCheck named =>
    obtain ⟨check, rfl⟩ := exists_check named
    refine ⟨{ c with parentLinkCheck := check }, ?_, fun field => by cases field <;> rfl⟩
    rw [withEntry_parentLinkCheck, ParentLinkCheck.ofToml, ofName_name]
    rfl
  | traceCopies b => exact ⟨{ c with traceCopies := b }, rfl, fun field => by cases field <;> rfl⟩
  | @maxSlots n natural =>
    obtain ⟨count, rfl⟩ := Int.eq_ofNat_of_zero_le natural
    exact ⟨{ c with maxSlots := count }, rfl, fun field => by cases field <;> rfl⟩

/-- An entry that is not taken gives the reason. -/
theorem withEntry_of_refused (h : Refused key value reason)
    (hspelling : key = "parent_link_check" → ∀ table, value ≠ .table table) (c : Config) :
    ∃ e, c.withEntry key value = .error e ∧ e.reason? = some reason := by
  cases h with
  | unknownField unknown =>
    refine ⟨.unknownField key, withEntry_of_not_mem unknown c value, ?_⟩
    simp only [ConfigError.reason?, String.append_assoc]
    rfl
  | @unknownVariant name unknown =>
    refine ⟨.unknownVariant name, ?_, ?_⟩
    · rw [withEntry_parentLinkCheck, ParentLinkCheck.ofToml, ofName_of_not_mem unknown]
      rfl
    · simp only [ConfigError.reason?, String.append_assoc]
      rfl
  | notAVariant other =>
    refine ⟨.notAVariant, ?_, rfl⟩
    cases value with
    | string name => exact (other name rfl).elim
    | table entries => exact (hspelling rfl entries rfl).elim
    | _ => rfl
  | notABoolean other =>
    refine ⟨.wrongType value .boolean, ?_, ?_⟩
    · cases value with
      | boolean b => exact (other b rfl).elim
      | _ => rfl
    · simp only [ConfigError.reason?, String.append_assoc]
      rfl
  | @negative n negative =>
    refine ⟨.negative n, ?_, ?_⟩
    · rw [withEntry_maxSlots, countOfToml, if_pos negative]
      rfl
    · -- The number stands in the text of the value, which stands in the text of the reason.
      have hreason : (ConfigError.negative n).reason? = some ("invalid value: " ++
          ("integer `" ++ toString n ++ "`") ++ ", expected " ++ "usize") := rfl
      rw [hreason]
      simp only [String.append_assoc]
      rfl
  | notACount other =>
    refine ⟨.wrongType value .count, ?_, ?_⟩
    · cases value with
      | integer n => exact (other n rfl).elim
      | _ => rfl
    · simp only [ConfigError.reason?, String.append_assoc]
      rfl

/-! ## Documents -/

/-- The field has the value of its entry, or is as in `c` if it has no entry. -/
def Given (c : Config) (entries : List (String × Toml.Value)) (c' : Config) : Prop :=
  ∀ field : Field, (field.key, field.value c') ∈ entries ∨
    field.key ∉ entries.map Prod.fst ∧ field.value c' = field.value c

/-- No entry spells the parent-link check as a table. -/
def PlainlySpelled (entries : List (String × Toml.Value)) : Prop :=
  ∀ table, ("parent_link_check", .table table) ∉ entries

/-- The first entry that is not taken, and the reason that is given. -/
def FirstRefused (entries : List (String × Toml.Value)) (reason : String) : Prop :=
  ∃ before key value after, entries = before ++ (key, value) :: after ∧
    (∀ entry ∈ before, Accepted entry.1 entry.2) ∧ Refused key value reason

theorem given_cons {c₁ : Config} {entry : String × Toml.Value}
    (h : ∀ field : Field, field.value c₁ = if field.key = entry.1 then entry.2 else field.value c)
    (hrest : Given c₁ entries c') : Given c (entry :: entries) c' := by
  intro field
  rcases hrest field with hm | ⟨hnot, hvalue⟩
  · exact .inl (List.mem_cons_of_mem _ hm)
  · rw [h field] at hvalue
    split at hvalue
    · rename_i hkey
      rw [hkey, hvalue]
      exact .inl List.mem_cons_self
    · rename_i hkey
      exact .inr ⟨List.not_mem_cons_of_ne_of_not_mem hkey hnot, hvalue⟩

theorem withEntries_of_accepted (h : ∀ entry ∈ entries, Accepted entry.1 entry.2) (c : Config) :
    ∃ c', c.withEntries entries = .ok c' ∧ Given c entries c' := by
  induction entries generalizing c with
  | nil => exact ⟨c, rfl, fun field => .inr ⟨List.not_mem_nil, rfl⟩⟩
  | cons entry entries ih =>
    obtain ⟨hfirst, hrest⟩ := List.forall_mem_cons.mp h
    obtain ⟨c₁, hc₁, hvalues⟩ := withEntry_of_accepted hfirst c
    obtain ⟨c', hc', hgiven⟩ := ih hrest c₁
    refine ⟨c', ?_, given_cons hvalues hgiven⟩
    rw [withEntries, hc₁]
    exact hc'

theorem withEntries_of_firstRefused (hspelling : PlainlySpelled entries)
    (h : FirstRefused entries reason) (c : Config) :
    ∃ e, c.withEntries entries = .error e ∧ e.reason? = some reason := by
  obtain ⟨before, key, value, after, hsplit, hbefore, hrefused⟩ := h
  -- The entries before the first one that is not taken only change the configuration on the way.
  induction before generalizing entries c with
  | nil =>
    have hfirst : key = "parent_link_check" → ∀ table, value ≠ .table table := by
      rintro rfl table rfl
      exact hspelling table (hsplit ▸ List.mem_cons_self)
    obtain ⟨e, he, hreason⟩ := withEntry_of_refused hrefused hfirst c
    refine ⟨e, ?_, hreason⟩
    rw [hsplit, List.nil_append, withEntries, he]
  | cons entry before ih =>
    subst hsplit
    obtain ⟨hfirst, hrest⟩ := List.forall_mem_cons.mp hbefore
    obtain ⟨c₁, hc₁, -⟩ := withEntry_of_accepted hfirst c
    obtain ⟨e, he, hreason⟩ :=
      ih (fun table hm => hspelling table (List.mem_cons_of_mem _ hm)) c₁ rfl hrest
    refine ⟨e, ?_, hreason⟩
    rw [List.cons_append, withEntries, hc₁]
    exact he

theorem accepted_or_firstRefused (hspelling : PlainlySpelled entries) :
    (∀ entry ∈ entries, Accepted entry.1 entry.2) ∨ ∃ reason, FirstRefused entries reason := by
  induction entries with
  | nil => exact .inl nofun
  | cons entry entries ih =>
    obtain ⟨key, value⟩ := entry
    have hfirst : key = "parent_link_check" → ∀ table, value ≠ .table table := by
      rintro rfl table rfl
      exact hspelling table List.mem_cons_self
    rcases accepted_or_refused hfirst with haccepted | ⟨reason, hrefused⟩
    · rcases ih fun table hm => hspelling table (List.mem_cons_of_mem _ hm) with
        hrest | ⟨reason, before, k, v, after, rfl, hbefore, hrefused⟩
      · exact .inl (List.forall_mem_cons.mpr ⟨haccepted, hrest⟩)
      · exact .inr ⟨reason, (key, value) :: before, k, v, after, rfl,
          List.forall_mem_cons.mpr ⟨haccepted, hbefore⟩, hrefused⟩
    · exact .inr ⟨reason, [], key, value, entries, rfl, nofun, hrefused⟩

theorem eq_of_mem_of_nodup {v w : Toml.Value} (hkeys : (entries.map Prod.fst).Nodup)
    (hv : (key, v) ∈ entries) (hw : (key, w) ∈ entries) : v = w :=
  congrArg Prod.snd (List.inj_on_of_nodup_map hkeys hv hw rfl)

theorem Given.unique (hkeys : (entries.map Prod.fst).Nodup) {a b : Config}
    (ha : Given c entries a) (hb : Given c entries b) : a = b := by
  refine eq_of_values fun field => ?_
  rcases ha field with hma | ⟨hna, hva⟩
  · rcases hb field with hmb | ⟨hnb, -⟩
    · exact eq_of_mem_of_nodup hkeys hma hmb
    · exact (hnb (List.mem_map_of_mem hma)).elim
  · rcases hb field with hmb | ⟨-, hvb⟩
    · exact (hna (List.mem_map_of_mem hmb)).elim
    · exact hva.trans hvb.symm

theorem withEntries_eq_ok_iff (hkeys : (entries.map Prod.fst).Nodup)
    (hspelling : PlainlySpelled entries) :
    c.withEntries entries = .ok c' ↔
      (∀ entry ∈ entries, Accepted entry.1 entry.2) ∧ Given c entries c' := by
  constructor
  · intro hc'
    rcases accepted_or_firstRefused hspelling with haccepted | ⟨reason, hrefused⟩
    · obtain ⟨made, hmade, hgiven⟩ := withEntries_of_accepted haccepted c
      rw [hmade] at hc'
      cases hc'
      exact ⟨haccepted, hgiven⟩
    · obtain ⟨e, he, -⟩ := withEntries_of_firstRefused hspelling hrefused c
      rw [he] at hc'
      cases hc'
  · rintro ⟨haccepted, hgiven⟩
    obtain ⟨made, hmade, hmadeGiven⟩ := withEntries_of_accepted haccepted c
    rw [hmade, hmadeGiven.unique hkeys hgiven]

theorem withEntries_eq_error {e : ConfigError} (hspelling : PlainlySpelled entries)
    (h : c.withEntries entries = .error e) :
    ∃ reason, e.reason? = some reason ∧ FirstRefused entries reason := by
  rcases accepted_or_firstRefused hspelling with haccepted | ⟨reason, hrefused⟩
  · obtain ⟨made, hmade, -⟩ := withEntries_of_accepted haccepted c
    rw [hmade] at h
    cases h
  · obtain ⟨found, hfound, hreason⟩ := withEntries_of_firstRefused hspelling hrefused c
    rw [hfound] at h
    cases h
    exact ⟨reason, hreason, hrefused⟩

theorem ofToml_of_parse? {text : String} (h : Toml.parse? text = some entries) :
    ofToml text = default.withEntries entries := by
  rw [ofToml, h]

/-- A text brings only counts that fit into 63 bits. -/
theorem maxSlots_lt (hfits : ∀ entry ∈ entries, entry.2.Fits) (hgiven : Given default entries c) :
    c.maxSlots < 2 ^ 63 := by
  rcases hgiven .maxSlots with hm | ⟨-, hvalue⟩
  · have hcount : (c.maxSlots : Int) ≤ Toml.greatestInteger := (hfits _ hm).2
    have hgreatest : Toml.greatestInteger = 2 ^ 63 - 1 := rfl
    omega
  · have hcount : (c.maxSlots : Int) = default.maxSlots := Toml.Value.integer.inj hvalue
    have hdefault : default.maxSlots = 1024 := rfl
    omega

/-! ## Written configurations -/

/-- The configuration with some fields of another one and the defaults of the others. -/
def only (c : Config) (fields : List Field) : Config where
  parentLinkCheck :=
    if .parentLinkCheck ∈ fields then c.parentLinkCheck else default.parentLinkCheck
  traceCopies := if .traceCopies ∈ fields then c.traceCopies else default.traceCopies
  maxSlots := if .maxSlots ∈ fields then c.maxSlots else default.maxSlots

/-- Some fields of a configuration in TOML: a line for each in order, with a line break between two
lines, and with what stands behind the last one. -/
def tomlText (c : Config) (fields : List Field) (ending : String) : String :=
  "\n".intercalate (fields.map fun field => field.key ++ " = " ++ field.written c) ++ ending

/-- Some fields of a configuration as a JSON object in order. -/
def jsonObject (c : Config) (fields : List Field) : Json :=
  .ofFields (fields.map fun field => (field.key, field.json c))

variable {fields : List Field}

theorem value_only (c : Config) (fields : List Field) (field : Field) :
    field.value (c.only fields) = if field ∈ fields then field.value c else field.value default := by
  cases field <;> simp only [Field.value, only] <;> split <;> rfl

theorem Field.accepted (c : Config) (field : Field) : Accepted field.key (field.value c) := by
  cases field with
  | parentLinkCheck => exact .parentLinkCheck (by cases c.parentLinkCheck <;> decide)
  | traceCopies => exact .traceCopies _
  | maxSlots => exact .maxSlots (Int.natCast_nonneg _)

theorem nodup_keys (h : fields.Nodup) : (fields.map Field.key).Nodup :=
  h.map fun _ _ => Field.key_inj

theorem given_only (c : Config) (fields : List Field) :
    Given default (fields.map fun field => (field.key, field.value c)) (c.only fields) := by
  intro field
  rw [value_only]
  by_cases hm : field ∈ fields
  · rw [if_pos hm]
    exact .inl (List.mem_map_of_mem hm)
  · rw [if_neg hm, List.map_map]
    refine .inr ⟨fun hkey => hm ?_, rfl⟩
    obtain ⟨other, hother, hsame⟩ := List.mem_map.mp hkey
    rwa [← Field.key_inj hsame]

theorem withEntries_fields (h : fields.Nodup) (c : Config) :
    default.withEntries (fields.map fun field => (field.key, field.value c)) =
      .ok (c.only fields) := by
  have hkeys : ((fields.map fun field => (field.key, field.value c)).map Prod.fst).Nodup := by
    rw [List.map_map]
    exact nodup_keys h
  have hspelling : PlainlySpelled (fields.map fun field => (field.key, field.value c)) := by
    intro table hm
    obtain ⟨field, -, hentry⟩ := List.mem_map.mp hm
    cases field <;> cases (congrArg Prod.snd hentry)
  refine (withEntries_eq_ok_iff hkeys hspelling).mpr ⟨?_, given_only c fields⟩
  intro entry hm
  obtain ⟨field, -, rfl⟩ := List.mem_map.mp hm
  exact field.accepted c

/-- The line of a field. -/
def Field.line (c : Config) (field : Field) : Line :=
  ⟨field.key, (field.written c).toList, field.value c⟩

theorem Field.isBareKey (field : Field) : Toml.IsBareKey field.key := by
  cases field <;> decide

theorem Field.readable {c : Config} (h : c.maxSlots < 2 ^ 63) (field : Field) :
    (field.line c).Readable := by
  refine ⟨field.isBareKey, ?_⟩
  cases field with
  | parentLinkCheck =>
    have hname : Toml.Verbatim c.parentLinkCheck.name.toList := by
      cases c.parentLinkCheck <;> decide
    have hwritten : (Field.written c parentLinkCheck).toList =
        '"' :: (c.parentLinkCheck.name.toList ++ ['"']) := by
      rw [Field.written, String.toList_append, String.toList_append]
      rfl
    rw [Field.line, hwritten]
    exact Toml.readsBack_string hname
  | traceCopies =>
    have hread := Toml.readsBack_boolean c.traceCopies
    rw [Field.line, Field.written, apply_ite String.toList]
    exact hread
  | maxSlots =>
    have hcount : (c.maxSlots : Int) ≤ Toml.greatestInteger := by
      have hgreatest : Toml.greatestInteger = 2 ^ 63 - 1 := rfl
      omega
    have hwritten : (Field.written c maxSlots).toList = Nat.toDigits 10 c.maxSlots := by
      simp [Field.written, Nat.repr]
    rw [Field.line, hwritten]
    exact Toml.readsBack_natural hcount

/-- The lines of fields are read as their entries. -/
theorem parse?_tomlText (hcount : c.maxSlots < 2 ^ 63) (h : fields.Nodup) {ending : String}
    (hending : ending ∈ ["", "\n"]) :
    Toml.parse? (c.tomlText fields ending) =
      some (fields.map fun field => (field.key, field.value c)) := by
  -- The lines are all read back, and no two of them have one key, so the document keeps them.
  have hlines : ∀ line ∈ fields.map (Field.line c), line.Readable := by
    intro line hm
    obtain ⟨field, -, rfl⟩ := List.mem_map.mp hm
    exact field.readable hcount
  have hend : Toml.IsEnding ending.toList := by
    simp only [List.mem_cons, List.not_mem_nil, or_false] at hending
    rcases hending with rfl | rfl
    · exact .inl rfl
    · exact .inr rfl
  have hkeys : ((fields.map (Field.line c)).map Line.key).Nodup := by
    rw [List.map_map]
    exact nodup_keys h
  have htext : (c.tomlText fields ending).toList =
      Toml.joined (fields.map (Field.line c)) ending.toList := by
    simp only [tomlText, Toml.joined, String.toList_append, String.toList_intercalate, List.map_map]
    congr 2
    refine List.map_congr_left fun field _ => ?_
    simp [Field.line, Line.chars]
  rw [Toml.parse?_joined hlines hend hkeys htext, List.map_map]
  rfl

/-- A field of an object that lists some fields is there if it is listed. -/
theorem field?_jsonObject (h : fields.Nodup) (c : Config) (field : Field) :
    Json.field? (fields.map fun field => (field.key, field.json c)) field.key =
      some (if field ∈ fields then some (field.json c) else none) := by
  have hkeys : ((fields.map fun field => (field.key, field.json c)).map Prod.fst).Nodup := by
    rw [List.map_map]
    exact nodup_keys h
  rw [Json.field?]
  by_cases hm : field ∈ fields
  · have hentry : (field.key, field.json c) ∈ fields.map fun field => (field.key, field.json c) :=
      List.mem_map_of_mem hm
    rw [if_pos hm, Json.valuesOf_of_mem hkeys hentry]
  · have hnot : field.key ∉
        (fields.map fun field => (field.key, field.json c)).map Prod.fst := by
      rw [List.map_map]
      intro hkey
      obtain ⟨other, hother, hsame⟩ := List.mem_map.mp hkey
      exact hm (Field.key_inj hsame ▸ hother)
    rw [if_neg hm, Json.valuesOf_of_not_mem hnot]

theorem fieldsOfJson?_jsonObject (h : fields.Nodup) (c : Config) :
    fieldsOfJson? (c.jsonObject fields) =
      some ([.parentLinkCheck, .traceCopies, .maxSlots].map fun field =>
        if field ∈ fields then some (field.json c) else none) := by
  have hall : ((fields.map fun field => (field.key, field.json c)).all
      fun f => keys.contains f.1) = true := by
    rw [List.all_eq_true]
    intro entry hm
    obtain ⟨field, -, rfl⟩ := List.mem_map.mp hm
    exact List.contains_iff_mem.mpr field.key_mem_keys
  have hkeys : keys = [Field.parentLinkCheck, .traceCopies, .maxSlots].map Field.key := rfl
  simp only [fieldsOfJson?, jsonObject, Json.ofFields, Json.plainFields?_text, Option.bind_eq_bind,
    Option.bind_some]
  rw [if_pos hall, hkeys]
  exact Json.mapM_map fun field _ => field?_jsonObject h c field

theorem withDefault?_ite {α : Type} [JsonCodec α] {Fits : α → Prop} (h : Json.Lossless α Fits)
    (default : α) {a : α} (ha : Fits a) (p : Prop) [Decidable p] :
    Json.withDefault? default (if p then some (JsonCodec.toJson a) else none) =
      some (if p then a else default) := by
  split
  · exact h.withDefault default ha
  · rfl

/-- The object of some fields is read as these fields and the defaults of the others. -/
theorem ofJson?_jsonObject (hcount : c.maxSlots < 2 ^ 63) (h : fields.Nodup) :
    JsonCodec.ofJson? (c.jsonObject fields) = some (c.only fields) := by
  have hfits : c.maxSlots < UInt64.size := Nat.lt_trans hcount (by decide)
  have hcheck : Json.withDefault? default.parentLinkCheck
      (if .parentLinkCheck ∈ fields then some (Field.json c .parentLinkCheck) else none) =
      some (c.only fields).parentLinkCheck :=
    withDefault?_ite lossless_parentLinkCheck _ trivial _
  have htrace : Json.withDefault? default.traceCopies
      (if .traceCopies ∈ fields then some (Field.json c .traceCopies) else none) =
      some (c.only fields).traceCopies :=
    withDefault?_ite Json.lossless_bool _ trivial _
  have hmax : Json.withDefault? default.maxSlots
      (if .maxSlots ∈ fields then some (Field.json c .maxSlots) else none) =
      some (c.only fields).maxSlots :=
    withDefault?_ite Json.lossless_nat _ hfits _
  simp only [JsonCodec.ofJson?, fieldsOfJson?_jsonObject h c, Option.bind_eq_bind,
    Option.bind_some, List.map_cons, List.map_nil, hcheck, htrace, hmax]

theorem plain_jsonObject (c : Config) (fields : List Field) : (c.jsonObject fields).Plain := by
  refine Json.plain_ofFields fun f hm => ?_
  obtain ⟨field, -, rfl⟩ := List.mem_map.mp hm
  cases field with
  | parentLinkCheck => exact .string _
  | traceCopies => exact .bool _
  | maxSlots => exact .natural _

/-! ## Texts and configurations -/

/-- A document whose entries are not spelled as tables is judged by its entries. It is a
configuration just if all of them are taken; the configuration has the values that are given, and
the defaults where none is given, in whatever order the entries stand. Otherwise the first entry
that is not taken is the reason. So the fields of a configuration, each on a line of its own or as
one JSON object, are read as what they say, whichever are listed and in whatever order. -/
theorem determined_by_entries :
    (∀ text entries, Toml.parse? text = some entries → PlainlySpelled entries →
      (entries.map Prod.fst).Nodup ∧
      ((∃ c, ofToml text = .ok c) ↔ ∀ entry ∈ entries, Accepted entry.1 entry.2) ∧
      (∀ c, ofToml text = .ok c ↔
        (∀ entry ∈ entries, Accepted entry.1 entry.2) ∧ Given default entries c) ∧
      (∀ c, ofToml text = .ok c → c.maxSlots < 2 ^ 63) ∧
      (∀ other entries', Toml.parse? other = some entries' → entries'.Perm entries →
        ∀ c, ofToml other = .ok c ↔ ofToml text = .ok c) ∧
      (∀ e, ofToml text = .error e → e.code = "FE-ITER-0201" ∧
        ∃ reason, e.reason? = some reason ∧ FirstRefused entries reason) ∧
      ∀ reason, FirstRefused entries reason →
        ∃ e, ofToml text = .error e ∧ e.reason? = some reason) ∧
    ∀ (c : Config) (fields : List Field), c.maxSlots < 2 ^ 63 → fields.Nodup →
      (∀ ending ∈ ["", "\n"], ofToml (c.tomlText fields ending) = .ok (c.only fields)) ∧
      Json.decode? (c.jsonObject fields).render = some (c.only fields) ∧
      ∀ text, Json.parse? text = some (c.jsonObject fields) →
        Json.decode? text = some (c.only fields) := by
  constructor
  · intro text entries hparse hspelling
    obtain ⟨hkeys, hfits⟩ := Toml.wellKept_of_parse? hparse
    have hok (c : Config) : ofToml text = .ok c ↔
        (∀ entry ∈ entries, Accepted entry.1 entry.2) ∧ Given default entries c := by
      rw [ofToml_of_parse? hparse]
      exact withEntries_eq_ok_iff hkeys hspelling
    refine ⟨hkeys, ?_, hok, ?_, ?_, ?_, ?_⟩
    · constructor
      · rintro ⟨c, hc⟩
        exact ((hok c).mp hc).1
      · intro haccepted
        obtain ⟨c, -, hgiven⟩ := withEntries_of_accepted haccepted default
        exact ⟨c, (hok c).mpr ⟨haccepted, hgiven⟩⟩
    · intro c hc
      exact maxSlots_lt hfits ((hok c).mp hc).2
    · intro other entries' hother hperm c
      have hotherKeys : (entries'.map Prod.fst).Nodup := (hperm.map Prod.fst).nodup_iff.mpr hkeys
      have hotherSpelling : PlainlySpelled entries' := fun table hm =>
        hspelling table (hperm.mem_iff.mp hm)
      rw [hok, ofToml_of_parse? hother, withEntries_eq_ok_iff hotherKeys hotherSpelling]
      simp only [Given, hperm.mem_iff, (hperm.map Prod.fst).mem_iff]
    · intro e he
      rw [ofToml_of_parse? hparse] at he
      exact ⟨rfl, withEntries_eq_error hspelling he⟩
    · intro reason hrefused
      rw [ofToml_of_parse? hparse]
      exact withEntries_of_firstRefused hspelling hrefused default
  · intro c fields hcount hfields
    have hobject := ofJson?_jsonObject hcount hfields
    have hjson (text : String) (htext : Json.parse? text = some (c.jsonObject fields)) :
        Json.decode? text = some (c.only fields) := by
      rw [Json.decode?, htext, Option.bind_some, hobject]
    refine ⟨?_, hjson _ (plain_jsonObject c fields).parse?_render, hjson⟩
    intro ending hending
    rw [ofToml_of_parse? (parse?_tomlText hcount hfields hending), withEntries_fields hfields]

/-- Two of the three fields, in another order and spelling than they are written in; a field with a
value of another type before a field that does not exist; and two fields of a configuration, on
lines and as an object. -/
theorem determined_by_entries_sample :
    ofToml "max_slots = +9_223_372_036_854_775_807\n\nparent_link_check = 'always' # again\n" =
      .ok ⟨.always, false, 9223372036854775807⟩ ∧
    (∃ e, ofToml "trace_copies = 1\nunroll = true\n" = .error e ∧
      e.reason? = some "invalid type: integer `1`, expected a boolean") ∧
    ofToml "max_slots = 0\nparent_link_check = \"never\"" = .ok ⟨.never, false, 0⟩ ∧
    Json.decode? "\x7b \"max_slots\": 0, \"parent_link_check\": \"never\" \x7d" =
      some (⟨.never, false, 0⟩ : Config) := by
  obtain ⟨hdocuments, hwritten⟩ := determined_by_entries
  obtain ⟨hlines, -, hobject⟩ :=
    hwritten ⟨.never, true, 0⟩ [.maxSlots, .parentLinkCheck] (by decide) (by decide)
  refine ⟨?_, ?_, ?_, hobject _ (by cbv)⟩
  · have hparse : Toml.parse?
        "max_slots = +9_223_372_036_854_775_807\n\nparent_link_check = 'always' # again\n" =
        some [("max_slots", .integer 9223372036854775807),
          ("parent_link_check", .string "always")] := by cbv
    obtain ⟨-, -, hok, -⟩ := hdocuments _ _ hparse fun table hm => by simp at hm
    refine (hok _).mpr ⟨?_, ?_⟩
    · intro entry hm
      simp only [List.mem_cons, List.not_mem_nil, or_false] at hm
      rcases hm with rfl | rfl
      · exact .maxSlots (by decide)
      · exact .parentLinkCheck (by decide)
    · intro field
      cases field with
      | parentLinkCheck => exact .inl (.tail _ (.head _))
      | traceCopies => exact .inr ⟨by decide, rfl⟩
      | maxSlots => exact .inl (.head _)
  · have hparse : Toml.parse? "trace_copies = 1\nunroll = true\n" =
        some [("trace_copies", .integer 1), ("unroll", .boolean true)] := by cbv
    obtain ⟨-, -, -, -, -, -, hrefused⟩ := hdocuments _ _ hparse fun table hm => by simp at hm
    have hrefuses : Refused "trace_copies" (.integer 1) _ := .notABoolean fun b h => by cases h
    exact hrefused _ ⟨[], _, _, _, rfl, List.forall_mem_nil _, hrefuses⟩
  · have htext : tomlText ⟨.never, true, 0⟩ [.maxSlots, .parentLinkCheck] "" =
        "max_slots = 0\nparent_link_check = \"never\"" := by decide
    rw [← htext]
    exact hlines "" (by decide)

end Config

end LoopScope
