import LoopScope.Text.Printable
/-!
# Words, digits and quotes

The pieces that readers and writers of several formats share: a fixed word at the front of a text,
hexadecimal digits, and text between quotes as diagnostics print it.
-/
namespace LoopScope

namespace Text

/-- What follows `word` at the front of a text. -/
def expect : (word s : List Char) → Option (List Char)
  | [], s => some s
  | w :: word, c :: s => if w = c then expect word s else none
  | _ :: _, [] => none

end Text

namespace Hex

/-- The number that a hexadecimal digit of either case stands for. -/
def value? (c : Char) : Option Nat :=
  if '0' ≤ c ∧ c ≤ '9' then some (c.toNat - 48)
  else if 'a' ≤ c ∧ c ≤ 'f' then some (c.toNat - 87)
  else if 'A' ≤ c ∧ c ≤ 'F' then some (c.toNat - 55)
  else none

/-- The number that digits stand for in a base. -/
def numberIn? (base : Nat) (digits : List Char) : Option Nat :=
  digits.foldl (fun n c => do some ((← n) * base + (← value? c))) (some 0)

def number? (digits : List Char) : Option Nat := numberIn? 16 digits

/-- The two lower-case digits of a number below 256. -/
def pair (n : Nat) : List Char := [Nat.digitChar (n / 16), Nat.digitChar (n % 16)]

end Hex

namespace Text

/-- A character between quotes. Quotes, backslashes and the usual controls have short escapes, and
whatever else does not show is written as its code point. -/
def quotedChar (c : Char) : List Char :=
  if c = '"' then ['\\', '"']
  else if c = '\\' then ['\\', '\\']
  else if c = '\x00' then ['\\', '0']
  else if c = '\t' then ['\\', 't']
  else if c = '\n' then ['\\', 'n']
  else if c = '\r' then ['\\', 'r']
  else if shows c then [c]
  else ['\\', 'u', '\x7b'] ++ Nat.toDigits 16 c.toNat ++ ['\x7d']

def quoted (s : String) : String :=
  String.ofList ('"' :: s.toList.flatMap quotedChar ++ ['"'])

end Text

end LoopScope
