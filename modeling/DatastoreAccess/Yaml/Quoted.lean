import DatastoreAccess.Text.Table
import DatastoreAccess.Yaml.Cursor
/-!
# Yaml.Quoted — texts in quotes

In single quotes a quote is written twice; in double quotes a backslash starts an escape, and at the end of a line it
takes the line end away.  Quoted texts may go over several lines, which fold into one.
-/
namespace DatastoreAccess.Yaml

inductive Quotes where
  | single
  | double
  deriving DecidableEq, Repr

def Quotes.mark : Quotes → Char
  | .single => '\x27'
  | .double => '"'

/-! ## Escapes -/

def letterEscape? : Char → Option Char
  | '0' => some '\x00' | 'a' => some '\x07' | 'b' => some '\x08' | 't' => some '\t' | '\t' => some '\t'
  | 'n' => some '\n' | 'v' => some '\x0b' | 'f' => some '\x0c' | 'r' => some '\r' | 'e' => some '\x1b'
  | ' ' => some ' ' | '"' => some '"' | '/' => some '/' | '\\' => some '\\'
  | 'N' => some '\u0085' | '_' => some '\u00a0' | 'L' => some '\u2028' | 'P' => some '\u2029'
  | _ => none

/-- The character of an escape, from behind its backslash, and how many characters it takes. -/
def escape? : List Char → Option (Char × Nat)
  | 'x' :: cs => if cs.length < 2 then none else (Text.charOfHex? (cs.take 2)).map (·, 3)
  | 'u' :: cs => if cs.length < 4 then none else (Text.charOfHex? (cs.take 4)).map (·, 5)
  | 'U' :: cs => if cs.length < 8 then none else (Text.charOfHex? (cs.take 8)).map (·, 9)
  | c :: _ => (letterEscape? c).map (·, 1)
  | [] => none

/-! ## Texts -/

/-- What stands up to the next blank, line end or closing quote, and whether it ends with a line end taken away. -/
def quotedWord? (q : Quotes) : (fuel : Nat) → Cursor → Option (List Char × Bool × Cursor)
  | 0, _ => none
  | fuel + 1, c =>
    match c.rest, q with
    | '\x27' :: '\x27' :: _, .single =>
      (quotedWord? q fuel (c.pass 2)).map fun (s, taken, c) => ('\x27' :: s, taken, c)
    | '\\' :: r, .double =>
      if r.head?.any isBreak then some ([], true, (c.pass 1).passBreak)
      else
        match escape? r with
        | some (a, n) => (quotedWord? q fuel (c.pass (n + 1))).map fun (s, taken, c) => (a :: s, taken, c)
        | none => none
    | a :: r, q =>
      if a = q.mark || endsWord (a :: r) then some ([], false, c)
      else (quotedWord? q fuel (c.pass 1)).map fun (s, taken, c) => (a :: s, taken, c)
    | [], _ => some ([], false, c)

/-- The rest of a quoted text, whose lines stand at `indent` or further right. -/
def quotedWords? (q : Quotes) (indent : Int) : (fuel : Nat) → Cursor → Option (List Char × Cursor)
  | 0, _ => none
  | fuel + 1, c => do
    if c.rest.isEmpty || c.atMark || c.leftOf indent then none
    let (word, taken, c) ← quotedWord? q (c.rest.length + 1) c
    if c.rest.head? = some q.mark then return (word, c.pass 1)
    let (blanks, breaks, c) ← Cursor.textGap? indent false (c.rest.length + 1) taken c
    let gap := if taken then List.replicate breaks '\n' else if breaks = 0 then blanks else folded breaks
    let (more, c) ← quotedWords? q indent fuel c
    return (word ++ gap ++ more, c)

/-- What may follow a quoted text: the end of the line, a colon, and inside brackets or braces their signs.  Outside of
them a colon counts only on the line on which the text began. -/
def mayFollowQuoted (flow sameLine : Bool) (cs : List Char) : Bool :=
  match cs with
  | ':' :: _ => flow || sameLine
  | c :: _ => isBreak c || (flow && (c = ',' || c = ']' || c = '\x7d'))
  | [] => true

/-- A quoted text from its opening quote on, with the blanks and the comment behind it. -/
def quoted? (q : Quotes) (flow : Bool) (indent : Int) (c : Cursor) : Option (List Char × Cursor) := do
  let (text, last) ← quotedWords? q indent (c.rest.length + 1) (c.pass 1)
  let (_, last) ← last.lineGap?
  if mayFollowQuoted flow (c.line = last.line) last.rest then some (text, last) else none

end DatastoreAccess.Yaml
