import LoopScope.Json.Scan
import LoopScope.Text.Basic
/-!
# Reading JSON

`Json.readValue` takes one value from the front of a text and returns what follows it, so that a
caller can judge the value before it looks at the rest. Nesting is not limited.
-/
namespace LoopScope.Json

/-- A literal and the colon after it. -/
def readKey (s : List Char) : Option (Literal × List Char) :=
  match skipBlanks s with
  | '"' :: s =>
    match readLiteral s with
    | none => none
    | some (key, s) =>
      match skipBlanks s with
      | ':' :: s => some (key, s)
      | _ => none
  | _ => none

mutual

/-- One value, and what follows. Each step into or along a value takes one of `fuel`. -/
def readWith (fuel : Nat) (s : List Char) : Option (Json × List Char) :=
  match fuel with
  | 0 => none
  | fuel + 1 =>
    match skipBlanks s with
    | 'n' :: s => (Text.expect ['u', 'l', 'l'] s).map (Json.null, ·)
    | 't' :: s => (Text.expect ['r', 'u', 'e'] s).map (Json.bool true, ·)
    | 'f' :: s => (Text.expect ['a', 'l', 's', 'e'] s).map (Json.bool false, ·)
    | '"' :: s => (readLiteral s).map fun p => (Json.string p.1, p.2)
    | '[' :: s =>
      match skipBlanks s with
      | ']' :: s => some (.array [], s)
      | s =>
        match readWith fuel s with
        | none => none
        | some (j, s) => (readElements fuel s).map fun p => (.array (j :: p.1), p.2)
    | '\x7b' :: s =>
      match skipBlanks s with
      | '\x7d' :: s => some (.object [], s)
      | s => (readField fuel s).map fun p => (.object p.1, p.2)
    | s => readNumber s

/-- The elements after the first, up to the closing bracket. -/
def readElements (fuel : Nat) (s : List Char) : Option (List Json × List Char) :=
  match fuel with
  | 0 => none
  | fuel + 1 =>
    match skipBlanks s with
    | ']' :: s => some ([], s)
    | ',' :: s =>
      match readWith fuel s with
      | none => none
      | some (j, s) => (readElements fuel s).map fun p => (j :: p.1, p.2)
    | _ => none

/-- A field and those after it, up to the closing brace. -/
def readField (fuel : Nat) (s : List Char) : Option (List (Literal × Json) × List Char) :=
  match fuel with
  | 0 => none
  | fuel + 1 =>
    match readKey s with
    | none => none
    | some (key, s) =>
      match readWith fuel s with
      | none => none
      | some (j, s) =>
        match skipBlanks s with
        | '\x7d' :: s => some ([(key, j)], s)
        | ',' :: s => (readField fuel s).map fun p => ((key, j) :: p.1, p.2)
        | _ => none

end

/-- One value from the front of a text, and what follows. -/
def readValue (s : List Char) : Option (Json × List Char) :=
  readWith (s.length + 1) s

/-- A text that is one value between blanks. -/
def parse? (text : String) : Option Json :=
  match readValue text.toList with
  | some (j, rest) => if (skipBlanks rest).isEmpty then some j else none
  | none => none

end LoopScope.Json
