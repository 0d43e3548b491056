import DatastoreAccess.Json.Number
import DatastoreAccess.Text.Utf8
/-!
# Json.Tree — a document as written

The tree keeps what the grammar gives: numerals digit by digit, members in order with repeated names, and texts that
have no reading (a lone surrogate, broken bytes) as `none`.  Readers decide which of it they accept, so a part that no
reader looks at may hold anything the grammar allows.
-/
namespace DatastoreAccess.Json

inductive Tree where
  | null
  | bool (b : Bool)
  | number (n : Numeral)
  | text (s : Option String)
  | list (items : List Tree)
  | object (members : List (Option String × Tree))
  deriving Repr

/-! ## Lexemes -/

def isSpace (b : UInt8) : Bool := b = 0x20 || b = 0x09 || b = 0x0A || b = 0x0D

def skip (l : List UInt8) : List UInt8 := l.dropWhile isSpace

def isDigit (b : UInt8) : Bool := 0x30 ≤ b && b ≤ 0x39

/-- The digits at the front, and what follows them. -/
def digits (l : List UInt8) : List Nat × List UInt8 :=
  ((l.takeWhile isDigit).map fun b => b.toNat - 0x30, l.dropWhile isDigit)

def power (l : List UInt8) : Option (Option (Bool × List Nat) × List UInt8) :=
  let sign : List UInt8 → Bool × List UInt8
    | 0x2B :: r => (false, r)
    | 0x2D :: r => (true, r)
    | r => (false, r)
  match l with
  | 0x65 :: r | 0x45 :: r =>
    let (negative, r) := sign r
    match digits r with
    | ([], _) => none
    | (ds, r) => some (some (negative, ds), r)
  | _ => some (none, l)

def afterWhole (negative : Bool) (whole : List Nat) (l : List UInt8) : Option (Numeral × List UInt8) :=
  match l with
  | 0x2E :: r =>
    match digits r with
    | ([], _) => none
    | (ds, r) => (power r).map fun (p, r) => (⟨negative, whole, ds, p⟩, r)
  | _ => (power l).map fun (p, r) => (⟨negative, whole, [], p⟩, r)

def unsignedNumeral (negative : Bool) : List UInt8 → Option (Numeral × List UInt8)
  | 0x30 :: r => afterWhole negative [0] r
  | l =>
    match digits l with
    | ([], _) => none
    | (ds, r) => afterWhole negative ds r

def numeral : List UInt8 → Option (Numeral × List UInt8)
  | 0x2D :: r => unsignedNumeral true r
  | l => unsignedNumeral false l

/-! ## Texts -/

/-- A byte of a text as it stands, or the 16-bit unit of an escape. -/
inductive Piece where
  | raw (b : UInt8)
  | unit (n : Nat)

def hexDigit? (b : UInt8) : Option Nat :=
  if isDigit b then some (b.toNat - 0x30)
  else if 0x41 ≤ b ∧ b ≤ 0x46 then some (b.toNat - 0x37)
  else if 0x61 ≤ b ∧ b ≤ 0x66 then some (b.toNat - 0x57)
  else none

def hex4? (a b c d : UInt8) : Option Nat := do
  some ((((← hexDigit? a) * 16 + (← hexDigit? b)) * 16 + (← hexDigit? c)) * 16 + (← hexDigit? d))

def shortEscape? (b : UInt8) : Option UInt8 :=
  if b = 0x22 ∨ b = 0x5C ∨ b = 0x2F then some b
  else if b = 0x62 then some 0x08
  else if b = 0x66 then some 0x0C
  else if b = 0x6E then some 0x0A
  else if b = 0x72 then some 0x0D
  else if b = 0x74 then some 0x09
  else none

/-- The pieces up to the closing quote, and what follows it. -/
def pieces : List UInt8 → Option (List Piece × List UInt8)
  | 0x22 :: r => some ([], r)
  | 0x5C :: 0x75 :: a :: b :: c :: d :: r =>
    match hex4? a b c d, pieces r with
    | some n, some (ps, r) => some (.unit n :: ps, r)
    | _, _ => none
  | 0x5C :: b :: r =>
    match shortEscape? b, pieces r with
    | some c, some (ps, r) => some (.raw c :: ps, r)
    | _, _ => none
  | b :: r => if b < 0x20 then none else (pieces r).map fun (ps, r) => (.raw b :: ps, r)
  | [] => none

/-- The bytes that pieces stand for, none when a surrogate stands alone. -/
def joined? : List Piece → Option (List UInt8)
  | [] => some []
  | .raw b :: l => (joined? l).map (b :: ·)
  | .unit n :: l =>
    if 0xD800 ≤ n ∧ n < 0xDC00 then
      match l with
      | .unit m :: l =>
        if 0xDC00 ≤ m ∧ m < 0xE000 then
          (joined? l).map (String.utf8EncodeChar (Char.ofNat (0x10000 + (n - 0xD800) * 1024 + (m - 0xDC00))) ++ ·)
        else none
      | _ => none
    else if 0xDC00 ≤ n ∧ n < 0xE000 then none
    else (joined? l).map (String.utf8EncodeChar (Char.ofNat n) ++ ·)

def text (l : List UInt8) : Option (Option String × List UInt8) :=
  (pieces l).map fun (ps, r) => ((joined? ps).bind Text.decodeString?, r)

/-! ## Documents -/

mutual

/-- A value and what follows it; `fuel` bounds the calls and never runs out below twice the length. -/
def value : (fuel : Nat) → List UInt8 → Option (Tree × List UInt8)
  | 0, _ => none
  | fuel + 1, l =>
    match skip l with
    | 0x6E :: 0x75 :: 0x6C :: 0x6C :: r => some (.null, r)
    | 0x74 :: 0x72 :: 0x75 :: 0x65 :: r => some (.bool true, r)
    | 0x66 :: 0x61 :: 0x6C :: 0x73 :: 0x65 :: r => some (.bool false, r)
    | 0x22 :: r => (text r).map fun (s, r) => (.text s, r)
    | 0x5B :: r =>
      match skip r with
      | 0x5D :: r => some (.list [], r)
      | _ => (items fuel r).map fun (ts, r) => (.list ts, r)
    | 0x7B :: r =>
      match skip r with
      | 0x7D :: r => some (.object [], r)
      | _ => (members fuel r).map fun (ms, r) => (.object ms, r)
    | r => (numeral r).map fun (n, r) => (.number n, r)

/-- One or more values with commas between them, up to the closing bracket. -/
def items : (fuel : Nat) → List UInt8 → Option (List Tree × List UInt8)
  | 0, _ => none
  | fuel + 1, l =>
    match value fuel l with
    | none => none
    | some (t, r) =>
      match skip r with
      | 0x2C :: r => (items fuel r).map fun (ts, r) => (t :: ts, r)
      | 0x5D :: r => some ([t], r)
      | _ => none

/-- One or more named values with commas between them, up to the closing brace. -/
def members : (fuel : Nat) → List UInt8 → Option (List (Option String × Tree) × List UInt8)
  | 0, _ => none
  | fuel + 1, l =>
    match skip l with
    | 0x22 :: r =>
      match text r with
      | none => none
      | some (name, r) =>
        match skip r with
        | 0x3A :: r =>
          match value fuel r with
          | none => none
          | some (t, r) =>
            match skip r with
            | 0x2C :: r => (members fuel r).map fun (ms, r) => ((name, t) :: ms, r)
            | 0x7D :: r => some ([(name, t)], r)
            | _ => none
        | _ => none
    | _ => none

end

/-- The one value that the bytes hold, with nothing but space around it. -/
def Tree.ofBytes? (bs : List UInt8) : Option Tree :=
  match value (2 * bs.length + 2) bs with
  | some (t, r) => if (skip r).isEmpty then some t else none
  | none => none

end DatastoreAccess.Json
