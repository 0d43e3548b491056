import DatastoreAccess.Text.Table
import DatastoreAccess.Yaml.Cursor
import DatastoreAccess.Yaml.Token
/-!
# Yaml.Tag — tags and directives

A tag is a handle and a suffix.  A handle is one exclamation mark, two, or a name between two; a tag in angle brackets
has none.  Directives stand in front of a document and say what handles stand for.
-/
namespace DatastoreAccess.Yaml

def isUriChar (c : Char) : Bool := c.isAlphanum || "-#;/?:@&=+$,_.!~*\x27()[]%".toList.contains c

def isTagChar (c : Char) : Bool := isUriChar c && !isFlowMark c && c ≠ '!'

/-! ## Escapes -/

/-- The number of an octet written with a percent sign, and what follows. -/
def octet? : List Char → Option (Nat × List Char)
  | '%' :: a :: b :: cs => do
    let high ← Text.hexDigit? a
    let low ← Text.hexDigit? b
    some (high * 16 + low, cs)
  | _ => none

def charOf? (n : Nat) : Option Char := if h : n.isValidChar then some (Char.ofNatAux n h) else none

/-- The character of an escape, and what follows.  An octet from C0 to DF makes one number with the next, which has to be
one from 80 to BF; higher octets start numbers that no character has. -/
def uriEscape? (cs : List Char) : Option (Char × List Char) := do
  let (first, cs) ← octet? cs
  if first < 0x80 then (charOf? first).map (·, cs)
  else if first < 0xC0 ∨ 0xE0 ≤ first then none
  else
    let (second, cs) ← octet? cs
    if 0x80 ≤ second ∧ second < 0xC0 then (charOf? (first * 256 + second)).map (·, cs) else none

/-- Characters of a kind with escapes among them, and what follows. -/
def uriText? (isIn : Char → Bool) : (fuel : Nat) → List Char → Option (List Char × List Char)
  | 0, _ => none
  | _, [] => some ([], [])
  | fuel + 1, c :: cs =>
    if !isIn c then some ([], c :: cs)
    else if c = '%' then do
      let (a, cs) ← uriEscape? (c :: cs)
      (uriText? isIn fuel cs).map fun (s, r) => (a :: s, r)
    else (uriText? isIn fuel cs).map fun (s, r) => (c :: s, r)

/-! ## Tags -/

/-- A handle, and what follows; only a closed one ends with an exclamation mark of its own. -/
def handle? : List Char → Option (List Char × List Char)
  | '!' :: cs =>
    let name := cs.takeWhile isNameChar
    match cs.dropWhile isNameChar with
    | '!' :: r => some ('!' :: name ++ ['!'], r)
    | r => some ('!' :: name, r)
  | _ => none

def isClosed (handle : List Char) : Bool := 2 ≤ handle.length && handle.getLast? = some '!'

/-- The handle and the suffix of a tag, and what follows. -/
def tag? (cs : List Char) : Option (Token × List Char) := do
  match cs with
  | '!' :: '<' :: r =>
    let (suffix, r) ← uriText? isUriChar (r.length + 1) r
    match r with
    | '>' :: r => return (.tag [] suffix, r)
    | _ => none
  | _ =>
    let (handle, r) ← handle? cs
    let (suffix, r) ← uriText? isTagChar (r.length + 1) r
    if isClosed handle then
      if suffix.isEmpty then none else return (.tag handle suffix, r)
    else
      match handle.drop 1 ++ suffix with
      | [] => return (.tag [] ['!'], r)
      | suffix => return (.tag ['!'] suffix, r)

/-! ## Directives -/

/-- A number of at most nine digits. -/
def versionNumber? (cs : List Char) : Option (List Char) :=
  let n := (cs.takeWhile Char.isDigit).length
  if 1 ≤ n ∧ n ≤ 9 then some (cs.drop n) else none

/-- What follows a version. -/
def version? (cs : List Char) : Option (List Char) := do
  match ← versionNumber? cs with
  | '.' :: r => versionNumber? r
  | _ => none

/-- What a handle stands for: the start of a tag, local or not. -/
def lead? : List Char → Option (List Char × List Char)
  | '!' :: cs => (uriText? isUriChar (cs.length + 1) cs).map fun (s, r) => ('!' :: s, r)
  | cs => if cs.head?.any isTagChar then uriText? isUriChar (cs.length + 1) cs else none

/-- A directive from behind its percent sign, and what follows.  One of an unknown name says nothing. -/
def directive? (cs : List Char) : Option (Token × List Char) := do
  let name := cs.takeWhile isNameChar
  let r := cs.dropWhile isNameChar
  if name.isEmpty || !endsWord r then none
  if name = "YAML".toList then
    return (.version, ← version? (r.dropWhile isBlank))
  else if name = "TAG".toList then
    let (handle, r) ← handle? (r.dropWhile isBlank)
    if handle ≠ ['!'] && !isClosed handle then none
    let (lead, r) ← lead? (r.dropWhile isBlank)
    if endsWord r then return (.handle handle lead, r) else none
  else return (.handle [] [], r.dropWhile (!isBreak ·))

end DatastoreAccess.Yaml
