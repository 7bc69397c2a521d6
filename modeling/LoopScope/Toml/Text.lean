import LoopScope.Text.Basic
/-!
# Text in TOML

Blanks, comments, line ends, and the four kinds of strings.
-/
namespace LoopScope.Toml

/-- A blank inside a line. -/
def isBlank (c : Char) : Bool := c == ' ' || c == '\t'

/-- A character that may stand in a comment or, quotes and backslashes apart, in a string. -/
def isPlain (c : Char) : Bool := c == '\t' || (' ' ≤ c && c != '\x7f')

def skipBlanks (s : List Char) : List Char := s.dropWhile isBlank

/-- What follows a line end at the front of a text. -/
def lineEnd? : List Char → Option (List Char)
  | '\n' :: s => some s
  | '\r' :: '\n' :: s => some s
  | _ => none

/-- What follows blanks, a comment if there is one, and the end of the line or of the text. -/
def restOfLine? (s : List Char) : Option (List Char) :=
  let s :=
    match skipBlanks s with
    | '#' :: s => s.dropWhile isPlain
    | s => s
  if s.isEmpty then some [] else lineEnd? s

/-- What follows blanks, comments and line ends; a comment has to end with its line. -/
def skipLines? (inComment : Bool) : List Char → Option (List Char)
  | [] => if inComment then none else some []
  | '\n' :: s => skipLines? false s
  | '\r' :: '\n' :: s => skipLines? false s
  | c :: s =>
    if inComment then (if isPlain c then skipLines? true s else none)
    else if isBlank c then skipLines? false s
    else if c = '#' then skipLines? true s
    else some (c :: s)

/-! ## Strings -/

/-- The character that a backslash and this letter stand for. -/
def shortEscape? (c : Char) : Option Char :=
  if c = '"' ∨ c = '\\' then some c
  else if c = 'b' then some '\x08'
  else if c = 'f' then some '\x0c'
  else if c = 'n' then some '\n'
  else if c = 'r' then some '\r'
  else if c = 't' then some '\t'
  else none

/-- The character of a code point, if it is one. -/
def char? (n : Nat) : Option Char :=
  if n.isValidChar then some (Char.ofNat n) else none

/-- Puts a character in front of a string that has been read. -/
def cons? (c : Option Char) (r : Option (List Char × List Char)) :
    Option (List Char × List Char) := do
  let c ← c
  let (cs, rest) ← r
  some (c :: cs, rest)

/-- A string between quotes, the first of which is already taken. -/
def readBasic : List Char → Option (List Char × List Char)
  | [] => none
  | '"' :: s => some ([], s)
  | '\\' :: 'u' :: a :: b :: c :: d :: s => cons? ((Hex.number? [a, b, c, d]).bind char?) (readBasic s)
  | '\\' :: 'U' :: a :: b :: c :: d :: e :: f :: g :: h :: s =>
    cons? ((Hex.number? [a, b, c, d, e, f, g, h]).bind char?) (readBasic s)
  | '\\' :: c :: s => cons? (shortEscape? c) (readBasic s)
  | c :: s => if isPlain c && c != '\\' then cons? (some c) (readBasic s) else none

/-- A string between apostrophes, the first of which is already taken. -/
def readLiteral (s : List Char) : Option (List Char × List Char) :=
  let inner := s.takeWhile fun c => isPlain c && c != '\x27'
  match s.drop inner.length with
  | '\x27' :: rest => some (inner, rest)
  | _ => none

/-- Whether a backslash has joined lines: not at all, it has and the end of its line is due, or it
has and all blanks and line ends are passed over. -/
inductive Joining
  | off
  | due
  | on
deriving DecidableEq

/-- The inside of a string of several lines. Up to two quotes stand for themselves, and up to two
may stand before the three that close it. -/
def readBasicLines (joining : Joining) : List Char → Option (List Char × List Char)
  | [] => none
  | '\n' :: s =>
    if joining = .off then cons? (some '\n') (readBasicLines .off s) else readBasicLines .on s
  | '\r' :: '\n' :: s =>
    if joining = .off then cons? (some '\n') (readBasicLines .off s) else readBasicLines .on s
  | ' ' :: s =>
    if joining = .off then cons? (some ' ') (readBasicLines .off s) else readBasicLines joining s
  | '\t' :: s =>
    if joining = .off then cons? (some '\t') (readBasicLines .off s) else readBasicLines joining s
  | '"' :: '"' :: '"' :: '"' :: '"' :: s => if joining = .due then none else some (['"', '"'], s)
  | '"' :: '"' :: '"' :: '"' :: s => if joining = .due then none else some (['"'], s)
  | '"' :: '"' :: '"' :: s => if joining = .due then none else some ([], s)
  | '\\' :: ' ' :: s => if joining = .due then none else readBasicLines .due s
  | '\\' :: '\t' :: s => if joining = .due then none else readBasicLines .due s
  | '\\' :: '\n' :: s => if joining = .due then none else readBasicLines .on s
  | '\\' :: '\r' :: '\n' :: s => if joining = .due then none else readBasicLines .on s
  | '\\' :: 'u' :: a :: b :: c :: d :: s =>
    if joining = .due then none
    else cons? ((Hex.number? [a, b, c, d]).bind char?) (readBasicLines .off s)
  | '\\' :: 'U' :: a :: b :: c :: d :: e :: f :: g :: h :: s =>
    if joining = .due then none
    else cons? ((Hex.number? [a, b, c, d, e, f, g, h]).bind char?) (readBasicLines .off s)
  | '\\' :: c :: s =>
    if joining = .due then none else cons? (shortEscape? c) (readBasicLines .off s)
  | c :: s =>
    if joining ≠ .due && isPlain c && c != '\\' then cons? (some c) (readBasicLines .off s) else none

/-- The inside of a literal string of several lines. -/
def readLiteralLines : List Char → Option (List Char × List Char)
  | [] => none
  | '\x27' :: '\x27' :: '\x27' :: '\x27' :: '\x27' :: s => some (['\x27', '\x27'], s)
  | '\x27' :: '\x27' :: '\x27' :: '\x27' :: s => some (['\x27'], s)
  | '\x27' :: '\x27' :: '\x27' :: s => some ([], s)
  | '\r' :: '\n' :: s => cons? (some '\n') (readLiteralLines s)
  | c :: s => if isPlain c || c == '\n' then cons? (some c) (readLiteralLines s) else none

/-- A line end right after the opening quotes does not count. -/
def skipFirstLineEnd (s : List Char) : List Char := (lineEnd? s).getD s

/-- A string of any kind. -/
def readString : List Char → Option (List Char × List Char)
  | '"' :: '"' :: '"' :: s => readBasicLines .off (skipFirstLineEnd s)
  | '"' :: s => readBasic s
  | '\x27' :: '\x27' :: '\x27' :: s => readLiteralLines (skipFirstLineEnd s)
  | '\x27' :: s => readLiteral s
  | _ => none

end LoopScope.Toml
