import LoopScope.Decimal.Binary64
/-!
# TOML values
-/
namespace LoopScope

inductive Toml.Value
  | string (s : String)
  /-- A whole number of 64 bits. -/
  | integer (n : Int)
  | float (x : Binary64)
  | boolean (b : Bool)
  /-- A date, a time or both, as written. -/
  | dateTime (written : String)
  | array (elements : List Toml.Value)
  | table (entries : List (String × Toml.Value))
  /-- The tables of one `[[name]]`. -/
  | tables (elements : List (List (String × Toml.Value)))
deriving Repr

namespace Toml

/-- The name of a type in diagnostics. -/
def Value.typeName : Value → String
  | .string _ => "string"
  | .integer _ => "integer"
  | .float _ => "float"
  | .boolean _ => "boolean"
  | .dateTime _ => "datetime"
  | .array _ => "array"
  | .table _ => "table"
  | .tables _ => "array of tables"

end Toml

end LoopScope
