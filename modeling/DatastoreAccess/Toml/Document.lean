import DatastoreAccess.Toml.Scalar
import DatastoreAccess.Toml.Table
/-!
# Toml.Document — TOML documents

A document is lines: headers that open a table, and keys with a value for the table open last.  Lists and tables in
braces may go over several lines, hold comments and end with a comma.
-/
namespace DatastoreAccess.Toml

open Settings (Value)

/-! ## Keys -/

def isBareChar (c : Char) : Bool := c.isAlphanum || c = '_' || c = '-'

def simpleKey? : List Char → Option (String × List Char)
  | '"' :: cs => (basic (cs.length + 1) cs).map fun (s, r) => (String.ofList s, r)
  | '\x27' :: cs => (literal cs).map fun (s, r) => (String.ofList s, r)
  | cs =>
    match cs.takeWhile isBareChar with
    | [] => none
    | s => some (String.ofList s, cs.dropWhile isBareChar)

/-- Keys with points between them, at most `room`: all but the last, the last, and what follows. -/
def keyWithin? : (room : Nat) → List Char → Option (List String × String × List Char)
  | 0, _ => none
  | room + 1, cs =>
    match simpleKey? (skipBlanks cs) with
    | none => none
    | some (k, r) =>
      match skipBlanks r with
      | '.' :: r => (keyWithin? room r).map fun (p, last, r) => (k :: p, last, r)
      | r => some ([], k, r)

/-- How many parts a key may have, and how deep values may stand in one another. -/
def depthLimit : Nat := 80

def key? (cs : List Char) : Option (List String × String × List Char) := keyWithin? depthLimit cs

/-! ## Values -/

/-- What follows a comment, none if it holds a control character. -/
def comment? : List Char → Option (List Char)
  | [] => some []
  | c :: cs =>
    if (lineEnd? (c :: cs)).isSome then some (c :: cs) else if isControl c then none else comment? cs

/-- Passes over blanks, line ends and comments. -/
def gaps? : (fuel : Nat) → List Char → Option (List Char)
  | 0, _ => none
  | fuel + 1, cs =>
    match skipBlanks cs with
    | '#' :: r => (comment? r).bind (gaps? fuel)
    | r =>
      match lineEnd? r with
      | some r => gaps? fuel r
      | none => some r

def skipGaps? (cs : List Char) : Option (List Char) := gaps? (cs.length + 1) cs

mutual

/-- A value and what follows it; `room` is how many brackets and braces may still be opened in one another. -/
def valueWithin? : (fuel room : Nat) → List Char → Option (Value × List Char)
  | 0, _, _ => none
  | fuel + 1, room, '[' :: cs => do
    let (vs, r) ← if room = 0 then none else items? fuel (room - 1) cs
    some (.list vs, r)
  | fuel + 1, room, '\x7b' :: cs => do
    let (fs, r) ← if room = 0 then none else fields? fuel (room - 1) [] cs
    some (.table (fieldValues fs), r)
  | _, _, cs => scalar? cs

/-- The items of a list up to its bracket; a comma may follow the last. -/
def items? : (fuel room : Nat) → List Char → Option (List Value × List Char)
  | 0, _, _ => none
  | fuel + 1, room, cs => do
    match ← skipGaps? cs with
    | ']' :: r => some ([], r)
    | r =>
      let (v, r) ← valueWithin? fuel room r
      match ← skipGaps? r with
      | ',' :: r => (items? fuel room r).map fun (vs, r) => (v :: vs, r)
      | ']' :: r => some ([v], r)
      | _ => none

/-- The fields of a table in braces up to its brace; a comma may follow the last. -/
def fields? : (fuel room : Nat) → Fields → List Char → Option (Fields × List Char)
  | 0, _, _, _ => none
  | fuel + 1, room, fs, cs => do
    match ← skipGaps? cs with
    | '\x7d' :: r => some (fs, r)
    | r =>
      let (path, name, r) ← key? r
      let r ← skipGaps? (← after? '=' (← skipGaps? r))
      let (v, r) ← valueWithin? fuel room r
      let fs ← fs.addDotted path name v
      match ← skipGaps? r with
      | ',' :: r => fields? fuel room fs r
      | '\x7d' :: r => some (fs, r)
      | _ => none

end

def value? (cs : List Char) : Option (Value × List Char) := valueWithin? (cs.length + 1) depthLimit cs

/-! ## Lines -/

/-- What is read so far: all tables, and the path of the one open. -/
structure Progress where
  root : Fields
  place : List String

/-- What follows the line end, after blanks and maybe a comment. -/
def endLine? (cs : List Char) : Option (List Char) :=
  match skipBlanks cs with
  | [] => some []
  | '#' :: r =>
    match comment? r with
    | some [] => some []
    | some r => lineEnd? r
    | none => none
  | r => lineEnd? r

/-- Reads one header or key that starts a line. -/
def line? (p : Progress) : List Char → Option (Progress × List Char)
  | '[' :: '[' :: cs =>
    match key? cs with
    | some (path, name, ']' :: ']' :: r) =>
      (p.root.append path name).map fun root => (⟨root, path ++ [name]⟩, r)
    | _ => none
  | '[' :: cs =>
    match key? cs with
    | some (path, name, ']' :: r) => (p.root.define path name).map fun root => (⟨root, path ++ [name]⟩, r)
    | _ => none
  | cs =>
    match key? cs with
    | some (path, name, '=' :: r) =>
      match value? (skipBlanks r) with
      | some (v, r) =>
        (p.root.within (fun fs => fs.addDotted path name v) p.place).map fun root => ({ p with root := root }, r)
      | none => none
    | _ => none

def document : (fuel : Nat) → Progress → List Char → Option Fields
  | 0, _, _ => none
  | fuel + 1, p, cs =>
    match skipGaps? cs with
    | none => none
    | some [] => some p.root
    | some cs =>
      match line? p cs with
      | none => none
      | some (p, r) => (endLine? r).bind (document fuel p)

def byteOrderMark : Char := '\uFEFF'

/-- The fields of a document; a byte order mark may stand in front. -/
def ofString? (s : String) : Option (List (String × Value)) :=
  let cs := match s.toList with
    | c :: cs => if c = byteOrderMark then cs else c :: cs
    | [] => []
  (document (cs.length + 1) ⟨[], []⟩ cs).map fieldValues

end DatastoreAccess.Toml
