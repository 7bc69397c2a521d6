import LoopScope.Json.Basic
/-!
# Words of JSON

Blanks, numbers and string literals at the front of a text. Each reader takes what it reads and
returns what follows. Numbers have no leading zeros, and strings no control characters.
-/
namespace LoopScope.Json

/-- The four characters that may stand between tokens. -/
def isBlank (c : Char) : Bool :=
  c == ' ' || c == '\n' || c == '\t' || c == '\r'

def skipBlanks (s : List Char) : List Char := s.dropWhile isBlank

/-! ## Numbers -/

/-- At least one digit and what follows. -/
def digits1? (s : List Char) : Option (List Char × List Char) :=
  match s.takeWhile Char.isDigit with
  | [] => none
  | ds => some (ds, s.dropWhile Char.isDigit)

/-- A point and digits, if there is a point. -/
def fraction? : List Char → Option (List Char × List Char)
  | '.' :: s => (digits1? s).map fun p => ('.' :: p.1, p.2)
  | s => some ([], s)

def sign : List Char → List Char × List Char
  | '+' :: s => (['+'], s)
  | '-' :: s => (['-'], s)
  | s => ([], s)

/-- A mark, a sign or none, and digits, if there is a mark. -/
def exponent? : List Char → Option (List Char × List Char)
  | c :: s =>
    if c = 'e' ∨ c = 'E' then
      (digits1? (sign s).2).map fun p => (c :: (sign s).1 ++ p.1, p.2)
    else some ([], c :: s)
  | [] => some ([], [])

/-- A number without its sign: its digits, the fraction and exponent as written, what follows. -/
def magnitude? (s : List Char) : Option (List Char × List Char × List Char) := do
  let (whole, s) ← digits1? s
  if whole.head? = some '0' ∧ whole.length ≠ 1 then none
  let (fraction, s) ← fraction? s
  let (exponent, s) ← exponent? s
  some (whole, fraction ++ exponent, s)

def readNumber (s : List Char) : Option (Json × List Char) :=
  match s with
  | '-' :: t => (magnitude? t).map fun (whole, more, rest) => (.number ('-' :: whole ++ more), rest)
  | _ => (magnitude? s).map fun (whole, more, rest) =>
    (if more.isEmpty then .natural (Nat.ofDigitChars 10 whole 0) else .number (whole ++ more), rest)

/-! ## Strings -/

/-- The character that a backslash and this letter stand for. -/
def shortEscape? (c : Char) : Option Char :=
  if c = '"' ∨ c = '\\' ∨ c = '/' then some c
  else if c = 'b' then some '\x08'
  else if c = 'f' then some '\x0c'
  else if c = 'n' then some '\n'
  else if c = 'r' then some '\r'
  else if c = 't' then some '\t'
  else none

/-- Whether the inside of a literal is made of characters and escapes, halves of pairs included. -/
def wellEscaped : List Char → Bool
  | [] => true
  | '\\' :: 'u' :: a :: b :: c :: d :: rest => (Hex.number? [a, b, c, d]).isSome && wellEscaped rest
  | '\\' :: c :: rest => (shortEscape? c).isSome && wellEscaped rest
  | c :: rest => c != '\\' && !(c < ' ') && wellEscaped rest

/-- The text that the inside of a literal stands for, if each escaped half of a pair has its other
half next to it. -/
def unescape : List Char → Option (List Char)
  | [] => some []
  | '\\' :: 'u' :: a :: b :: c :: d :: rest =>
    match Hex.number? [a, b, c, d] with
    | none => none
    | some high =>
      if 0xD800 ≤ high ∧ high < 0xDC00 then
        match rest with
        | '\\' :: 'u' :: a :: b :: c :: d :: rest =>
          match Hex.number? [a, b, c, d] with
          | none => none
          | some low =>
            if 0xDC00 ≤ low ∧ low < 0xE000 then
              (unescape rest).map
                (Char.ofNat (0x10000 + (high - 0xD800) * 0x400 + (low - 0xDC00)) :: ·)
            else none
        | _ => none
      else if 0xDC00 ≤ high ∧ high < 0xE000 then none
      else (unescape rest).map (Char.ofNat high :: ·)
  | '\\' :: c :: rest =>
    match shortEscape? c with
    | none => none
    | some c => (unescape rest).map (c :: ·)
  | c :: rest => if c = '\\' then none else (unescape rest).map (c :: ·)

/-- The inside of a literal and what follows the quote that closes it. -/
def splitLiteral : List Char → Option (List Char × List Char)
  | [] => none
  | '"' :: rest => some ([], rest)
  | '\\' :: c :: rest => (splitLiteral rest).map fun p => ('\\' :: c :: p.1, p.2)
  | c :: rest => (splitLiteral rest).map fun p => (c :: p.1, p.2)

/-- A string literal whose first quote is already taken. -/
def readLiteral (s : List Char) : Option (Literal × List Char) :=
  match splitLiteral s with
  | none => none
  | some (written, rest) =>
    if wellEscaped written then
      match unescape written with
      | some cs => some (.text (String.ofList cs), rest)
      | none => some (.halved written, rest)
    else none

end LoopScope.Json
