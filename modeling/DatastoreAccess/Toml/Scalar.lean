import DatastoreAccess.Number.Decimal
import DatastoreAccess.Number.Word
import DatastoreAccess.Settings.Value
import DatastoreAccess.Text.Table
/-!
# Toml.Scalar — single values of a TOML document

Strings come in four forms.  Every other single value is a run of characters without blanks, except that a date and a
time may have a space between them.  Dates and times are kept as text in their standard form.
-/
namespace DatastoreAccess.Toml

open Settings (Value)

def isBlank (c : Char) : Bool := c = ' ' || c = '\t'

def skipBlanks (cs : List Char) : List Char := cs.dropWhile isBlank

/-- What follows a line end, if the text starts with one. -/
def lineEnd? : List Char → Option (List Char)
  | '\n' :: cs => some cs
  | '\r' :: '\n' :: cs => some cs
  | _ => none

/-- Control characters other than the tab. -/
def isControl (c : Char) : Bool := (c.toNat < 0x20 && c ≠ '\t') || c.toNat = 0x7F

/-! ## Strings -/

def letterEscape? : Char → Option Char
  | 'b' => some '\x08'
  | 't' => some '\t'
  | 'n' => some '\n'
  | 'e' => some '\x1b'
  | 'f' => some '\x0c'
  | 'r' => some '\r'
  | '"' => some '"'
  | '\\' => some '\\'
  | _ => none

/-- The character of an escape, from behind its backslash, and what follows. -/
def escape? : List Char → Option (Char × List Char)
  | 'x' :: a :: b :: cs => (Text.charOfHex? [a, b]).map (·, cs)
  | 'u' :: a :: b :: c :: d :: cs => (Text.charOfHex? [a, b, c, d]).map (·, cs)
  | 'U' :: a :: b :: c :: d :: e :: f :: g :: h :: cs => (Text.charOfHex? [a, b, c, d, e, f, g, h]).map (·, cs)
  | c :: cs => (letterEscape? c).map (·, cs)
  | [] => none

/-- The rest of a string on one line. -/
def basic : (fuel : Nat) → List Char → Option (List Char × List Char)
  | _, '"' :: cs => some ([], cs)
  | fuel + 1, '\\' :: cs =>
    match escape? cs with
    | some (c, cs) => (basic fuel cs).map fun (s, r) => (c :: s, r)
    | none => none
  | fuel + 1, c :: cs => if isControl c then none else (basic fuel cs).map fun (s, r) => (c :: s, r)
  | _, _ => none

def literal : List Char → Option (List Char × List Char)
  | '\x27' :: cs => some ([], cs)
  | c :: cs => if isControl c then none else (literal cs).map fun (s, r) => (c :: s, r)
  | [] => none

/-- What follows blanks and line ends, which a backslash at the end of a line drops. -/
def skipLines : List Char → List Char
  | '\r' :: '\n' :: cs => skipLines cs
  | c :: cs => if isBlank c || c = '\n' then skipLines cs else c :: cs
  | [] => []

/-- The rest of a string over several lines, quoted with `q`; up to two quotes may stand before the closing three.  Line
ends stay as they are written. -/
def lines (q : Char) (escapes : Bool) : (fuel : Nat) → List Char → Option (List Char × List Char)
  | 0, _ => none
  | fuel + 1, cs =>
    let quotes := (cs.takeWhile (· = q)).length
    if 3 ≤ quotes then
      let kept := min (quotes - 3) 2
      some (List.replicate kept q, cs.drop (kept + 3))
    else
      match cs with
      | [] => none
      | '\n' :: cs => (lines q escapes fuel cs).map fun (s, r) => ('\n' :: s, r)
      | '\r' :: '\n' :: cs => (lines q escapes fuel cs).map fun (s, r) => ('\r' :: '\n' :: s, r)
      | c :: cs =>
        if c = '\\' && escapes then
          if (lineEnd? (skipBlanks cs)).isSome then lines q escapes fuel (skipLines cs)
          else
            match escape? cs with
            | some (c, cs) => (lines q escapes fuel cs).map fun (s, r) => (c :: s, r)
            | none => none
        else if isControl c then none
        else (lines q escapes fuel cs).map fun (s, r) => (c :: s, r)

/-- A line end right behind the opening quotes does not count. -/
def afterOpening (cs : List Char) : List Char := (lineEnd? cs).getD cs

/-- A string in any of the four forms. -/
def string? : List Char → Option (List Char × List Char)
  | '"' :: '"' :: '"' :: cs => lines '"' true (cs.length + 1) (afterOpening cs)
  | '\x27' :: '\x27' :: '\x27' :: cs => lines '\x27' false (cs.length + 1) (afterOpening cs)
  | '"' :: cs => basic (cs.length + 1) cs
  | '\x27' :: cs => literal cs
  | _ => none

/-! ## Numbers -/

/-- Digits with single underscores between them, underscores dropped. -/
def digits? (isDigit : Char → Bool) (cs : List Char) : Option (List Char) :=
  let rec go : (afterDigit : Bool) → List Char → Option (List Char)
    | afterDigit, [] => if afterDigit then some [] else none
    | afterDigit, c :: cs =>
      if c = '_' then if afterDigit && cs.head?.any isDigit then go false cs else none
      else if isDigit c then (go true cs).map (c :: ·)
      else none
  go false cs

def integerOf (negative : Bool) (n : Nat) : Option Value :=
  let n : Int := if negative then -n else n
  if Number.fitsSigned n then some (.integer n) else none

def inBase? (base : Nat) (cs : List Char) : Option Value := do
  let ds ← digits? (fun c => (Text.hexDigit? c).any (· < base)) cs
  integerOf false (ds.foldl (fun n c => n * base + (Text.hexDigit? c).getD 0) 0)

/-- A sign and what follows it. -/
def sign : List Char → Bool × List Char
  | '-' :: cs => (true, cs)
  | '+' :: cs => (false, cs)
  | cs => (false, cs)

/-- Whole digits: no zero in front of others. -/
def wholeDigits? (cs : List Char) : Option (List Char) :=
  (digits? Char.isDigit cs).filter fun ds => ds.head? ≠ some '0' || ds.length = 1

def isExponentMark (c : Char) : Bool := c = 'e' || c = 'E'

def decimal? (cs : List Char) : Option Value := do
  let (negative, cs) := sign cs
  if cs = "inf".toList then return .float (if negative then -(1.0 / 0.0) else 1.0 / 0.0)
  if cs = "nan".toList then return .float (0.0 / 0.0)
  let mantissa := cs.takeWhile (!isExponentMark ·)
  let whole ← wholeDigits? (mantissa.takeWhile (· ≠ '.'))
  let fraction ← match mantissa.dropWhile (· ≠ '.') with
    | [] => some []
    | _ :: ds => digits? Char.isDigit ds
  let power : Int ← match cs.dropWhile (!isExponentMark ·) with
    | [] => some 0
    | _ :: ds =>
      let (down, ds) := sign ds
      (digits? Char.isDigit ds).map fun ds => if down then -Number.digitsValue ds else Number.digitsValue ds
  if mantissa.length = cs.length ∧ fraction = [] then integerOf negative (Number.digitsValue whole)
  else
    let f := Number.nearestDouble negative whole fraction power
    if f.isInf then none else some (.float f)

/-! ## Dates and times -/

def isLeapYear (y : Nat) : Bool := (y % 4 = 0 && y % 100 ≠ 0) || y % 400 = 0

def daysIn (year month : Nat) : Nat :=
  if month = 2 then if isLeapYear year then 29 else 28
  else if month ∈ [4, 6, 9, 11] then 30
  else 31

/-- A number of exactly `n` digits, and what follows. -/
def fixed? (n : Nat) (cs : List Char) : Option (Nat × List Char) :=
  let ds := cs.take n
  if ds.length = n && ds.all Char.isDigit then some (Number.digitsValue ds, cs.drop n) else none

def after? (c : Char) : List Char → Option (List Char)
  | d :: cs => if d = c then some cs else none
  | [] => none

/-- A date at the front, and what follows. -/
def date? (cs : List Char) : Option (List Char × List Char) := do
  let (y, r) ← fixed? 4 cs
  let (m, r) ← fixed? 2 (← after? '-' r)
  let (d, r) ← fixed? 2 (← after? '-' r)
  if 1 ≤ m ∧ m ≤ 12 ∧ 1 ≤ d ∧ d ≤ daysIn y m then some (cs.take 10, r) else none

/-- A fraction of a second, of which nine places count, without zeros at its end but with one digit at least. -/
def fraction (ds : List Char) : List Char :=
  match ((ds.take 9).reverse.dropWhile (· = '0')).reverse with
  | [] => ['.', '0']
  | ds => '.' :: ds

/-- Seconds at the front, from their colon on, maybe with a fraction, and what follows. -/
def seconds? (cs : List Char) : Option (List Char × List Char) := do
  let (s, r) ← fixed? 2 (← after? ':' cs)
  if 60 < s then none
  else
    match r with
    | '.' :: r =>
      match r.takeWhile Char.isDigit with
      | [] => none
      | ds => some (cs.take 3 ++ fraction ds, r.dropWhile Char.isDigit)
    | r => some (cs.take 3, r)

/-- A time at the front, which may leave out the seconds, and what follows. -/
def time? (cs : List Char) : Option (List Char × List Char) := do
  let (h, r) ← fixed? 2 cs
  let (m, r) ← fixed? 2 (← after? ':' r)
  if 23 < h ∨ 59 < m then none
  else if r.head? = some ':' then (seconds? r).map fun (s, r) => (cs.take 5 ++ s, r)
  else some (cs.take 5, r)

/-- An offset that ends the text. -/
def offset? : List Char → Option (List Char)
  | ['Z'] => some ['Z']
  | ['z'] => some ['Z']
  | c :: cs =>
    if c = '+' ∨ c = '-' then do
      let (h, r) ← fixed? 2 cs
      let (m, r) ← fixed? 2 (← after? ':' r)
      if r = [] ∧ h ≤ 23 ∧ m ≤ 59 then some ((if h = 0 ∧ m = 0 then '+' else c) :: cs) else none
    else none
  | [] => none

/-- A date, a time, or both with or without an offset. -/
def instant? (cs : List Char) : Option (List Char) :=
  match date? cs with
  | some (d, []) => some d
  | some (d, c :: r) =>
    if c = 'T' ∨ c = 't' ∨ c = ' ' then
      match time? r with
      | some (t, []) => some (d ++ 'T' :: t)
      | some (t, r) => (offset? r).map fun o => d ++ 'T' :: t ++ o
      | none => none
    else none
  | none =>
    match time? cs with
    | some (t, []) => some t
    | _ => none

/-! ## Runs -/

def isRunChar (c : Char) : Bool := c.isAlphanum || c = '_' || c = '+' || c = '-' || c = '.' || c = ':'

/-- The run of characters that a value is written with. -/
def run (cs : List Char) : List Char × List Char :=
  let a := cs.takeWhile isRunChar
  match cs.dropWhile isRunChar with
  | ' ' :: r =>
    if a.length = 10 && (date? a).isSome && r.head?.any Char.isDigit then
      (a ++ ' ' :: r.takeWhile isRunChar, r.dropWhile isRunChar)
    else (a, ' ' :: r)
  | r => (a, r)

def runValue? (cs : List Char) : Option Value :=
  if cs = "true".toList then some (.bool true)
  else if cs = "false".toList then some (.bool false)
  else
    match instant? cs with
    | some t => some (.text (String.ofList t))
    | none =>
      match cs with
      | '0' :: 'x' :: ds => inBase? 16 ds
      | '0' :: 'o' :: ds => inBase? 8 ds
      | '0' :: 'b' :: ds => inBase? 2 ds
      | cs => decimal? cs

/-- A single value and what follows it. -/
def scalar? (cs : List Char) : Option (Value × List Char) :=
  match string? cs with
  | some (s, r) => some (.text (String.ofList s), r)
  | none =>
    let (a, r) := run cs
    (runValue? a).map (·, r)

end DatastoreAccess.Toml
