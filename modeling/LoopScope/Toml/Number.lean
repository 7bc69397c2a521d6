import LoopScope.Decimal.Binary64
import LoopScope.Text.Basic
import LoopScope.Toml.Basic
/-!
# Numbers, dates and times in TOML

Single underscores may stand between digits. A whole number has to fit into 64 bits, and a decimal
must not be too large for a floating-point number.
-/
namespace LoopScope.Toml

/-- Digits of one kind with single underscores between them, and what follows. The underscores are
dropped; `digit` says that a digit has to come next. -/
def digits? (isDigit : Char → Bool) (digit : Bool) : List Char → Option (List Char × List Char)
  | [] => if digit then none else some ([], [])
  | c :: s =>
    if isDigit c then (digits? isDigit false s).map fun p => (c :: p.1, p.2)
    else if digit then none
    else if c = '_' then digits? isDigit true s
    else some ([], c :: s)

/-- A sign or none: whether it is a minus, and what follows. -/
def sign : List Char → Bool × List Char
  | '-' :: s => (true, s)
  | '+' :: s => (false, s)
  | s => (false, s)

/-- Decimal digits without leading zeros. -/
def decimal? (s : List Char) : Option (List Char × List Char) :=
  match s with
  | '0' :: rest => some (['0'], rest)
  | _ => digits? Char.isDigit true s

/-! ## Whole numbers -/

def leastInteger : Int := Int64.minValue.toInt

def greatestInteger : Int := Int64.maxValue.toInt

/-- A whole number that fits. -/
def integerValue? (n : Int) : Option Value :=
  if leastInteger ≤ n ∧ n ≤ greatestInteger then some (.integer n) else none

def isOctal (c : Char) : Bool := '0' ≤ c && c ≤ '7'

def isBinary (c : Char) : Bool := c == '0' || c == '1'

/-- Digits in a base, as a number. -/
def inBase? (base : Nat) (isDigit : Char → Bool) (s : List Char) : Option (Value × List Char) := do
  let (ds, rest) ← digits? isDigit true s
  some (← integerValue? (← Hex.numberIn? base ds), rest)

def readInteger (s : List Char) : Option (Value × List Char) :=
  match s with
  | '0' :: 'x' :: s => inBase? 16 (fun c => (Hex.value? c).isSome) s
  | '0' :: 'o' :: s => inBase? 8 isOctal s
  | '0' :: 'b' :: s => inBase? 2 isBinary s
  | _ =>
    let (negative, s) := sign s
    match decimal? s with
    | none => none
    | some (ds, rest) =>
      let n : Int := Nat.ofDigitChars 10 ds 0
      (integerValue? (if negative then -n else n)).map (·, rest)

/-! ## Decimals -/

/-- A point and the digits after it, if there is a point. -/
def fraction? : List Char → Option (List Char × List Char)
  | '.' :: s => digits? Char.isDigit true s
  | s => some ([], s)

/-- The power of ten after a mark, if there is a mark. -/
def exponent? : List Char → Option (Int × List Char)
  | c :: s =>
    if c = 'e' ∨ c = 'E' then
      let (negative, s) := sign s
      (digits? Char.isDigit true s).map fun (ds, rest) =>
        let n : Int := Nat.ofDigitChars 10 ds 0
        (if negative then -n else n, rest)
    else some (0, c :: s)
  | [] => some (0, [])

/-- Whether a point or a mark of an exponent comes next. -/
def startsFloat : List Char → Bool
  | c :: _ => c == '.' || c == 'e' || c == 'E'
  | [] => false

/-- A decimal with a point or an exponent, or one of the names for infinity and for no number. A
positive decimal must not be too large. -/
def readFloat (s : List Char) : Option (Value × List Char) :=
  let (negative, s) := sign s
  match s with
  | 'i' :: 'n' :: 'f' :: rest => some (.float (.infinite negative), rest)
  | 'n' :: 'a' :: 'n' :: rest => some (.float .nan, rest)
  | _ => do
    let (whole, s) ← decimal? s
    if !startsFloat s then none
    let (after, s) ← fraction? s
    let (power, rest) ← exponent? s
    let x := Binary64.ofDecimal negative (Nat.ofDigitChars 10 (whole ++ after) 0)
      (power - after.length)
    if x = .infinite false then none else some (.float x, rest)

/-! ## Dates and times -/

/-- Just `count` decimal digits, as a number, and what follows. -/
def fixed? (count : Nat) (s : List Char) : Option (Nat × List Char) :=
  let ds := s.take count
  if ds.length = count ∧ ds.all Char.isDigit then some (Nat.ofDigitChars 10 ds 0, s.drop count)
  else none

/-- What follows one character. -/
def skip? (c : Char) : List Char → Option (List Char)
  | d :: s => if d = c then some s else none
  | [] => none

def isLeapYear (year : Nat) : Bool := year % 4 == 0 && (year % 100 != 0 || year % 400 == 0)

/-- The days of a month, counted from one. -/
def daysIn (year month : Nat) : Nat :=
  if month = 2 then (if isLeapYear year then 29 else 28)
  else if month = 4 ∨ month = 6 ∨ month = 9 ∨ month = 11 then 30
  else 31

/-- What follows a date. -/
def date? (s : List Char) : Option (List Char) := do
  let (year, s) ← fixed? 4 s
  let (month, s) ← fixed? 2 (← skip? '-' s)
  let (day, s) ← fixed? 2 (← skip? '-' s)
  if 1 ≤ month ∧ month ≤ 12 ∧ 1 ≤ day ∧ day ≤ daysIn year month then some s else none

/-- What follows a time of day. A minute may have a leap second. -/
def time? (s : List Char) : Option (List Char) := do
  let (hour, s) ← fixed? 2 s
  let (minute, s) ← fixed? 2 (← skip? ':' s)
  let (second, s) ← fixed? 2 (← skip? ':' s)
  if 23 < hour ∨ 59 < minute ∨ 60 < second then none
  match s with
  | '.' :: t =>
    let rest := t.dropWhile Char.isDigit
    if rest.length = t.length then none else some rest
  | s => some s

/-- What follows an offset from universal time. -/
def offset? : List Char → Option (List Char)
  | 'Z' :: s => some s
  | 'z' :: s => some s
  | c :: s => do
    if c ≠ '+' ∧ c ≠ '-' then none
    let (hour, s) ← fixed? 2 s
    let (minute, s) ← fixed? 2 (← skip? ':' s)
    if hour ≤ 23 ∧ minute ≤ 59 then some s else none
  | [] => none

/-- What follows the time that belongs to a date, if it has one. -/
def timeOfDate (s : List Char) : List Char :=
  match s with
  | c :: t =>
    if c = 'T' ∨ c = 't' ∨ c = ' ' then
      match time? t with
      | some rest => (offset? rest).getD rest
      | none => s
    else s
  | [] => s

def readDateTime (s : List Char) : Option (Value × List Char) := do
  let rest ← (date? s).map timeOfDate <|> time? s
  some (.dateTime (String.ofList (s.take (s.length - rest.length))), rest)

/-- A date or time, a decimal, or a whole number. -/
def readNumber (s : List Char) : Option (Value × List Char) :=
  readDateTime s <|> readFloat s <|> readInteger s

end LoopScope.Toml
