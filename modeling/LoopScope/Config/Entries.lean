import LoopScope.Codec.Config
import LoopScope.Decimal.Shortest
import LoopScope.Text.Basic
import LoopScope.Toml.Document
/-!
# Configurations as TOML

A configuration is read from the entries at the top level of a document, one after the other: each
entry sets its field, and the first one that cannot is the reason for refusing the whole. A field
without an entry has its default.
-/
namespace LoopScope

/-- What a field of a configuration takes. -/
inductive Config.Expected
  | boolean
  | count
deriving DecidableEq, Repr

def Config.Expected.label : Config.Expected → String
  | boolean => "a boolean"
  | count => "usize"

/-- Why a text is no configuration. -/
inductive ConfigError
  /-- The text is not TOML. -/
  | malformed
  | unknownField (name : String)
  | unknownVariant (name : String)
  | wrongType (found : Toml.Value) (expected : Config.Expected)
  | negative (n : Int)
  /-- A parent-link check that is neither a name nor a table with one. -/
  | notAVariant
  /-- A table that should name one variant and has another number of entries. -/
  | variantCount (entries : Nat)
  /-- A variant with content. -/
  | variantContent (content : Toml.Value)
deriving Repr

namespace ConfigError

/-- All failures of configurations have one code. -/
def code (_ : ConfigError) : String := "FE-ITER-0201"

/-- What a value is, in a diagnostic. -/
def describe : Toml.Value → String
  | .string s => "string " ++ Text.quoted s
  | .integer n => s!"integer `{n}`"
  | .float x => s!"floating point `{x.render}`"
  | .boolean b => s!"boolean `{b}`"
  | .array _ | .tables _ => "sequence"
  | .dateTime _ | .table _ => "map"

/-- A list of names in a diagnostic. -/
def oneOf (names : List String) : String :=
  "expected one of " ++ ", ".intercalate (names.map fun name => s!"`{name}`")

/-- Why the first offending entry was refused; a text that is not TOML has no such entry. -/
def reason? : ConfigError → Option String
  | malformed => none
  | unknownField name => some (s!"unknown field `{name}`, " ++ oneOf Config.keys)
  | unknownVariant name =>
    some (s!"unknown variant `{name}`, " ++ oneOf (ParentLinkCheck.all.map ParentLinkCheck.name))
  | wrongType found expected =>
    some s!"invalid type: {describe found}, expected {expected.label}"
  | negative n =>
    some s!"invalid value: {describe (.integer n)}, expected {Config.Expected.count.label}"
  | notAVariant => some "wanted string or table"
  | variantCount entries =>
    some ("wanted exactly 1 element, " ++
      (if entries = 0 then "found 0 elements" else "more than 1 element"))
  | variantContent content => some <|
    match content with
    | .table _ | .array _ => "expected empty table"
    | .tables _ => "expected empty array"
    | _ => s!"expected table, found {content.typeName}"

end ConfigError

namespace ParentLinkCheck

/-- The check of this name. -/
def ofName (name : String) : Except ConfigError ParentLinkCheck :=
  match all.find? fun check => check.name == name with
  | some check => .ok check
  | none => .error (.unknownVariant name)

/-- Whether a value may stand as the content of a variant that has none. -/
def isNoContent : Toml.Value → Bool
  | .table [] | .array [] | .tables [] => true
  | _ => false

/-- A name, or a table with the name over no content. -/
def ofToml : Toml.Value → Except ConfigError ParentLinkCheck
  | .string name => ofName name
  | .table [(name, content)] =>
    match ofName name with
    | .error e => .error e
    | .ok check => if isNoContent content then .ok check else .error (.variantContent content)
  | .table entries => .error (.variantCount entries.length)
  | _ => .error .notAVariant

end ParentLinkCheck

namespace Config

def flagOfToml : Toml.Value → Except ConfigError Bool
  | .boolean b => .ok b
  | value => .error (.wrongType value .boolean)

def countOfToml : Toml.Value → Except ConfigError Nat
  | .integer n => if n < 0 then .error (.negative n) else .ok n.toNat
  | value => .error (.wrongType value .count)

/-- The configuration after one entry. -/
def withEntry (c : Config) (key : String) (value : Toml.Value) : Except ConfigError Config :=
  if key = parentLinkCheckKey then
    (ParentLinkCheck.ofToml value).map fun check => { c with parentLinkCheck := check }
  else if key = traceCopiesKey then
    (flagOfToml value).map fun trace => { c with traceCopies := trace }
  else if key = maxSlotsKey then
    (countOfToml value).map fun count => { c with maxSlots := count }
  else .error (.unknownField key)

/-- The configuration after entries in order. -/
def withEntries (c : Config) : List (String × Toml.Value) → Except ConfigError Config
  | [] => .ok c
  | (key, value) :: rest =>
    match c.withEntry key value with
    | .error e => .error e
    | .ok c => c.withEntries rest

/-- The configuration that a text holds. -/
def ofToml (text : String) : Except ConfigError Config :=
  match Toml.parse? text with
  | none => .error .malformed
  | some entries => default.withEntries entries

end Config

end LoopScope
