import LoopScope.Toml.Parser
/-!
# TOML documents

A document is read line by line into a tree of tables. A table that only stands on the way to
another one may be opened by a header later, once, and then moves behind the entries before it;
dotted keys add only to tables that dotted keys have opened. A path through an array of tables
leads into its last table.
-/
namespace LoopScope.Toml

/-- What stands under a key while a document is read. -/
inductive Node
  | leaf (value : Value)
  /-- A table; `implicit` if no header of its own has opened it, `dotted` if dotted keys have. -/
  | table (implicit dotted : Bool) (entries : List (String × Node))
  | tables (elements : List (List (String × Node)))

/-- The entries of a table that is not yet read to its end. -/
abbrev Entries := List (String × Node)

/-- Changes the table at the end of a path, opening what is missing on the way. The change is told
whether dotted keys have opened that table. -/
def within (byDottedKey : Bool) :
    (path : List String) → (change : Bool → Entries → Option Entries) → (dotted : Bool) →
      Entries → Option Entries
  | [], change, dotted, entries => change dotted entries
  | key :: path, change, _, entries => alter key (fun
      | none => (within byDottedKey path change byDottedKey []).map (.table true byDottedKey)
      | some (.leaf _) => none
      | some (.table implicit dotted inner) =>
        if byDottedKey && !implicit then none
        else (within byDottedKey path change dotted inner).map (.table implicit dotted)
      | some (.tables elements) =>
        match elements.getLast? with
        | none => none
        | some last => (within byDottedKey path change false last).map fun last =>
          .tables (elements.dropLast ++ [last])) entries

/-- Adds a value under a dotted key to the table at `here`. -/
def addLine (here path : List String) (value : Value) (root : Entries) : Option Entries :=
  match path.getLast? with
  | none => none
  | some key =>
    let way := path.dropLast
    within false here (fun dotted entries =>
      within true way (fun dotted entries =>
        if dotted = way.isEmpty then none
        else alter key (fun
          | none => some (.leaf value)
          | some _ => none) entries) dotted entries) false root

/-- Opens the table of a header. -/
def openTable (path : List String) (root : Entries) : Option Entries :=
  match path.getLast? with
  | none => none
  | some key =>
    within false path.dropLast (fun _ entries =>
      match entries.lookup key with
      | none => some (entries ++ [(key, .table false false [])])
      | some (.table true false inner) =>
        some (entries.filter (fun e => e.1 != key) ++ [(key, .table false false inner)])
      | some _ => none) false root

/-- Opens one more table of an array of tables. -/
def openElement (path : List String) (root : Entries) : Option Entries :=
  match path.getLast? with
  | none => none
  | some key =>
    within false path.dropLast (fun _ entries =>
      alter key (fun
        | none => some (.tables [[]])
        | some (.tables elements) => some (.tables (elements ++ [[]]))
        | some _ => none) entries) false root

mutual

def Node.toValue : Node → Value
  | .leaf value => value
  | .table _ _ entries => .table (nodeValues entries)
  | .tables elements => .tables (elementValues elements)

def nodeValues : List (String × Node) → List (String × Value)
  | [] => []
  | (key, node) :: rest => (key, node.toValue) :: nodeValues rest

def elementValues : List (List (String × Node)) → List (List (String × Value))
  | [] => []
  | entries :: rest => nodeValues entries :: elementValues rest

end

/-- Reads lines into a tree; `here` is the table that the last header has opened. Each line takes
one of `fuel`. -/
def readLines (fuel : Nat) (here : List String) (root : Entries) (s : List Char) :
    Option Entries :=
  match fuel with
  | 0 => none
  | fuel + 1 =>
    match skipBlanks s with
    | [] => some root
    | '#' :: _ | '\n' :: _ | '\r' :: _ => do readLines fuel here root (← restOfLine? s)
    | '[' :: '[' :: s =>
      match readKey nestingLimit s with
      | some (path, ']' :: ']' :: s) => do
        readLines fuel path (← openElement path root) (← restOfLine? s)
      | _ => none
    | '[' :: s =>
      match readKey nestingLimit s with
      | some (path, ']' :: s) => do
        readLines fuel path (← openTable path root) (← restOfLine? s)
      | _ => none
    | s =>
      match readKeyValue s with
      | some ((path, value), s) => do readLines fuel here (← addLine here path value root) s
      | none => none

/-- A byte order mark does not count. -/
def skipMark : List Char → List Char
  | '\ufeff' :: s => s
  | s => s

/-- The entries of a whole document at its top level, in order. -/
def parse? (text : String) : Option (List (String × Value)) :=
  let s := skipMark text.toList
  (readLines (s.length + 1) [] [] s).map nodeValues

end LoopScope.Toml
