import LoopScope.Text.Basic
import LoopScope.Toml.Number
import LoopScope.Toml.Text
/-!
# Keys and values in TOML

Values may nest, and the parts of a dotted key may follow each other, up to a limit. The keys of an
inline table may be dotted; they may add to a table that other dotted keys of the same inline table
have opened, and to no other.
-/
namespace LoopScope.Toml

/-- How deep values may nest, and how many parts a dotted key may have. -/
def nestingLimit : Nat := 79

/-! ## Keys -/

def isBare (c : Char) : Bool := c.isAlphanum || c == '_' || c == '-'

/-- One part of a key: bare, or a string of one line. -/
def readSimpleKey : List Char → Option (String × List Char)
  | '"' :: s => (readBasic s).map fun p => (String.ofList p.1, p.2)
  | '\x27' :: s => (readLiteral s).map fun p => (String.ofList p.1, p.2)
  | s =>
    let bare := s.takeWhile isBare
    if bare.isEmpty then none else some (String.ofList bare, s.drop bare.length)

/-- Parts of a key with points between them and blanks around, at most `room` of them. -/
def readKey (room : Nat) (s : List Char) : Option (List String × List Char) :=
  match room with
  | 0 => none
  | room + 1 =>
    match readSimpleKey (skipBlanks s) with
    | none => none
    | some (part, s) =>
      match skipBlanks s with
      | '.' :: s => (readKey room s).map fun p => (part :: p.1, p.2)
      | s => some ([part], s)

/-! ## Inline tables -/

/-- A table while its entries are collected. -/
inductive Entry
  | leaf (value : Value)
  /-- A table that dotted keys have opened. -/
  | opened (entries : List (String × Entry))

/-- Changes what stands under a key, or adds it at the end. -/
def alter {α : Type} (key : String) (f : Option α → Option α) :
    List (String × α) → Option (List (String × α))
  | [] => (f none).map fun a => [(key, a)]
  | (k, a) :: rest =>
    if k = key then (f (some a)).map fun a => (k, a) :: rest
    else (alter key f rest).map fun rest => (k, a) :: rest

/-- Adds a value under a dotted key. -/
def addEntry : (path : List String) → (value : Value) → List (String × Entry) →
    Option (List (String × Entry))
  | [], _, _ => none
  | [key], value, entries => alter key (fun
      | none => some (.leaf value)
      | some _ => none) entries
  | key :: path, value, entries => alter key (fun
      | none => (addEntry path value []).map .opened
      | some (.opened inner) => (addEntry path value inner).map .opened
      | some (.leaf _) => none) entries

mutual

def Entry.toValue : Entry → Value
  | .leaf value => value
  | .opened entries => .table (entryValues entries)

def entryValues : List (String × Entry) → List (String × Value)
  | [] => []
  | (key, entry) :: rest => (key, entry.toValue) :: entryValues rest

end

/-! ## Values -/

mutual

/-- One value, and what follows. Each step into or along a value takes one of `fuel`, each step
into one also takes one of `room`. -/
def readValue (fuel room : Nat) (s : List Char) : Option (Value × List Char) :=
  match fuel with
  | 0 => none
  | fuel + 1 =>
    match s with
    | '"' :: _ | '\x27' :: _ => (readString s).map fun p => (.string (String.ofList p.1), p.2)
    | 't' :: s => (Text.expect ['r', 'u', 'e'] s).map (.boolean true, ·)
    | 'f' :: s => (Text.expect ['a', 'l', 's', 'e'] s).map (.boolean false, ·)
    | '[' :: s =>
      match room with
      | 0 => none
      | room + 1 => (readElements fuel room s).map fun p => (.array p.1, p.2)
    | '\x7b' :: s =>
      match room with
      | 0 => none
      | room + 1 =>
        match skipBlanks s with
        | '\x7d' :: s => some (.table [], s)
        | s => (readEntries fuel room [] s).map fun p => (.table (entryValues p.1), p.2)
    | s => readNumber s

/-- The elements of an array, up to the closing bracket. Lines may break between them, and a comma
may follow the last one. -/
def readElements (fuel room : Nat) (s : List Char) : Option (List Value × List Char) :=
  match fuel with
  | 0 => none
  | fuel + 1 =>
    match skipLines? false s with
    | none => none
    | some (']' :: s) => some ([], s)
    | some s =>
      match readValue fuel room s with
      | none => none
      | some (value, s) =>
        match skipLines? false s with
        | some (']' :: s) => some ([value], s)
        | some (',' :: s) => (readElements fuel room s).map fun p => (value :: p.1, p.2)
        | _ => none

/-- The entries of an inline table after those already collected, up to the closing brace. No
comma may follow the last one. -/
def readEntries (fuel room : Nat) (entries : List (String × Entry)) (s : List Char) :
    Option (List (String × Entry) × List Char) :=
  match fuel with
  | 0 => none
  | fuel + 1 =>
    match readKey nestingLimit s with
    | some (path, '=' :: s) =>
      match readValue fuel room (skipBlanks s) with
      | none => none
      | some (value, s) =>
        match addEntry path value entries with
        | none => none
        | some entries =>
          match skipBlanks s with
          | '\x7d' :: s => some (entries, s)
          | ',' :: s => readEntries fuel room entries s
          | _ => none
    | _ => none

end

/-- A key, an equals sign, a value, and the end of the line. -/
def readKeyValue (s : List Char) : Option ((List String × Value) × List Char) :=
  match readKey nestingLimit s with
  | some (path, '=' :: s) =>
    match readValue (s.length + 1) nestingLimit (skipBlanks s) with
    | none => none
    | some (value, s) => (restOfLine? s).map ((path, value), ·)
  | _ => none

end LoopScope.Toml
