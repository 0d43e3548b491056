/-!
# Yaml.Cursor — a place in the text of a YAML document

A cursor knows what is left of the text and where it stands: line, column, index, and whether its line is blank so far.
Blanks are spaces and tabs; a line ends with a line feed, a carriage return, or both.
-/
namespace DatastoreAccess.Yaml

/-! ## Characters -/

def isBlank (c : Char) : Bool := c = ' ' || c = '\t'

def isBreak (c : Char) : Bool := c = '\n' || c = '\r'

/-- The signs of brackets and braces, and the comma. -/
def isFlowMark (c : Char) : Bool := c = ',' || c = '[' || c = ']' || c = '\x7b' || c = '\x7d'

/-- Letters, digits, and the signs that names of directives and tags may hold. -/
def isNameChar (c : Char) : Bool := c.isAlphanum || c = '_' || c = '-'

/-- Whether the line or the text ends here. -/
def endsLine (cs : List Char) : Bool := cs.head?.all isBreak

/-- Whether a blank, a line end or the end of the text comes next. -/
def endsWord (cs : List Char) : Bool := cs.head?.all fun c => isBlank c || isBreak c

/-- Whether a flow mark comes next. -/
def startsFlowMark (cs : List Char) : Bool := cs.head?.any isFlowMark

def startsDocument : List Char → Bool
  | '-' :: '-' :: '-' :: r => endsWord r
  | _ => false

def endsDocument : List Char → Bool
  | '.' :: '.' :: '.' :: r => endsWord r
  | _ => false

/-! ## Cursors -/

structure Cursor where
  rest : List Char
  line : Nat
  column : Nat
  index : Nat
  /-- Whether nothing but blanks stands before it on its line. -/
  fresh : Bool

namespace Cursor

/-- The start of a text.  A null character ends the text. -/
def start (cs : List Char) : Cursor := ⟨cs.takeWhile (· ≠ '\x00'), 0, 0, 0, true⟩

def leftOf (c : Cursor) (indent : Int) : Bool := c.column < indent

/-- Whether a line that separates documents starts here. -/
def atMark (c : Cursor) : Bool := c.column = 0 && (startsDocument c.rest || endsDocument c.rest)

/-- Moves over characters of a line. -/
def pass (c : Cursor) (n : Nat) : Cursor :=
  { c with rest := c.rest.drop n, column := c.column + n, index := c.index + n, fresh := false }

/-- Moves over blanks. -/
def passBlanks (c : Cursor) (n : Nat) : Cursor :=
  { c with rest := c.rest.drop n, column := c.column + n, index := c.index + n }

/-- Moves to where `rest` is left of the line. -/
def passTo (c : Cursor) (rest : List Char) : Cursor := c.pass (c.rest.length - rest.length)

/-- Moves over a line end, if there is one. -/
def passBreak (c : Cursor) : Cursor :=
  match c.rest with
  | '\r' :: '\n' :: r => ⟨r, c.line + 1, 0, c.index + 2, true⟩
  | a :: r => if isBreak a then ⟨r, c.line + 1, 0, c.index + 1, true⟩ else c
  | [] => c

/-- Moves to the end of the line. -/
def passLine (c : Cursor) : Cursor := c.pass (c.rest.takeWhile (!isBreak ·)).length

/-- Passes over blanks and a comment on this line, and gives the blanks.  A comment needs a blank before it. -/
def lineGap? (c : Cursor) : Option (List Char × Cursor) :=
  let blanks := c.rest.takeWhile isBlank
  let next := c.passBlanks blanks.length
  if next.rest.head? = some '#' then if blanks.isEmpty then none else some (blanks, next.passLine)
  else some (blanks, next)

/-- Passes over blanks, line ends and comments, and says whether a line end was among them.  Where `tabs` says so, a tab
may not stand left of `indent` at the start of a line that holds more than a comment. -/
def tokenGap? (indent : Int) (tabs : Bool) : (fuel : Nat) → (broken : Bool) → Cursor → Option (Bool × Cursor)
  | 0, _, _ => none
  | fuel + 1, broken, c =>
    match c.rest with
    | [] => some (broken, c)
    | a :: _ =>
      if a = '\t' && tabs && c.fresh && c.leftOf indent then
        match c.lineGap? with
        | some (_, c) => if endsLine c.rest then tokenGap? indent tabs fuel broken c else none
        | none => none
      else if isBlank a then tokenGap? indent tabs fuel broken (c.passBlanks 1)
      else if isBreak a then tokenGap? indent tabs fuel true c.passBreak
      else if a = '#' then tokenGap? indent tabs fuel broken c.passLine
      else some (broken, c)

/-- Passes over spaces, line ends and comments. -/
def spaceGap : (fuel : Nat) → Cursor → Cursor
  | 0, c => c
  | fuel + 1, c =>
    match c.rest with
    | [] => c
    | a :: _ =>
      if a = ' ' then spaceGap fuel (c.passBlanks 1)
      else if isBreak a then spaceGap fuel c.passBreak
      else if a = '#' then spaceGap fuel c.passLine
      else c

/-- Passes over blanks and line ends inside a text: the blanks if no line end follows them, the number of line ends, and
what comes next.  `leading` says whether the line is blank so far; then a tab may not stand left of `indent`, unless
`lenient` allows it in a line without text. -/
def textGap? (indent : Int) (lenient : Bool) :
    (fuel : Nat) → (leading : Bool) → Cursor → Option (List Char × Nat × Cursor)
  | 0, _, _ => none
  | fuel + 1, leading, c =>
    match c.rest with
    | [] => some ([], 0, c)
    | a :: _ =>
      if isBreak a then (textGap? indent lenient fuel true c.passBreak).map fun (_, n, c) => ([], n + 1, c)
      else if !isBlank a then some ([], 0, c)
      else if !leading then
        (textGap? indent lenient fuel false (c.passBlanks 1)).map fun (blanks, n, c) =>
          (if n = 0 then a :: blanks else [], n, c)
      else if a = '\t' && c.leftOf indent then
        match c.lineGap? with
        | some (_, c) => if lenient && endsLine c.rest then textGap? indent lenient fuel true c else none
        | none => none
      else textGap? indent lenient fuel true (c.passBlanks 1)

end Cursor

/-- What line ends inside a text fold into: one is a space, and of several all but one are kept. -/
def folded (breaks : Nat) : List Char := if breaks = 1 then [' '] else List.replicate (breaks - 1) '\n'

end DatastoreAccess.Yaml
