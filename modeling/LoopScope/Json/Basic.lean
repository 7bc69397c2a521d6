import LoopScope.Text.Basic
/-!
# JSON values and their compact text

A JSON value keeps everything that its text says: a number that is not a plain natural number, and
a string literal that escapes half of a surrogate pair, are kept as they are written. `Json.print`
writes a value without blanks, with its fields in order.
-/
namespace LoopScope

/-- What stands between the quotes of a string literal. -/
inductive Json.Literal
  | text (s : String)
  /-- A literal that escapes half of a surrogate pair and so is no text, as it is written. -/
  | halved (written : List Char)
deriving DecidableEq, Repr

inductive Json
  | null
  | bool (b : Bool)
  | natural (n : Nat)
  /-- A number with a sign, a fraction or an exponent, as it is written. -/
  | number (written : List Char)
  | string (literal : Json.Literal)
  | array (elements : List Json)
  | object (fields : List (Json.Literal × Json))
deriving Repr

namespace Json

/-- The escape `\u00hh` of a character below 256. -/
def controlEscape (n : Nat) : List Char := ['\\', 'u', '0', '0'] ++ Hex.pair n

/-- One character inside a string literal. Only quotes, backslashes and control characters are
escaped. -/
def escapeChar (c : Char) : List Char :=
  if c = '"' then ['\\', '"']
  else if c = '\\' then ['\\', '\\']
  else if c = '\x08' then ['\\', 'b']
  else if c = '\x0c' then ['\\', 'f']
  else if c = '\n' then ['\\', 'n']
  else if c = '\r' then ['\\', 'r']
  else if c = '\t' then ['\\', 't']
  else if c < ' ' then controlEscape c.toNat
  else [c]

def escape (s : List Char) : List Char :=
  s.flatMap escapeChar

def Literal.print : Literal → List Char
  | text s => '"' :: escape s.toList ++ ['"']
  | halved written => '"' :: written ++ ['"']

mutual

def print : Json → List Char
  | null => ['n', 'u', 'l', 'l']
  | bool true => ['t', 'r', 'u', 'e']
  | bool false => ['f', 'a', 'l', 's', 'e']
  | natural n => Nat.toDigits 10 n
  | number written => written
  | string literal => literal.print
  | array [] => ['[', ']']
  | array (j :: rest) => '[' :: (j.print ++ (printElements rest ++ [']']))
  | object [] => ['\x7b', '\x7d']
  | object ((key, j) :: rest) =>
    '\x7b' :: (key.print ++ ':' :: (j.print ++ (printFields rest ++ ['\x7d'])))

/-- The elements after the first, each after a comma. -/
def printElements : List Json → List Char
  | [] => []
  | j :: rest => ',' :: (j.print ++ printElements rest)

/-- The fields after the first, each after a comma. -/
def printFields : List (Literal × Json) → List Char
  | [] => []
  | (key, j) :: rest => ',' :: (key.print ++ ':' :: (j.print ++ printFields rest))

end

/-- The compact text of a value. -/
def render (j : Json) : String := String.ofList j.print

/-- A string that is text. -/
def ofString (s : String) : Json := .string (.text s)

/-- An object whose keys are text. -/
def ofFields (fields : List (String × Json)) : Json :=
  .object (fields.map fun f => (.text f.1, f.2))

/-- The text of a string, if it is one. -/
def text? : Json → Option String
  | .string (.text s) => some s
  | _ => none

end Json

end LoopScope
