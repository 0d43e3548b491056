import DatastoreAccess.Yaml.Cursor
/-!
# Yaml.Block — texts marked off by their indentation

A block follows a sign on the lines below it.  It keeps its line ends, or folds single ones between lines that are not
indented further.  What becomes of the line ends behind it is said next to the sign.
-/
namespace DatastoreAccess.Yaml

/-- What becomes of the line ends behind a block. -/
inductive Chomp where
  | strip
  | clip
  | keep
  deriving DecidableEq, Repr

/-! ## The line of the sign -/

def chomp? : List Char → Option Chomp × List Char
  | '-' :: cs => (some .strip, cs)
  | '+' :: cs => (some .keep, cs)
  | cs => (none, cs)

/-- The indentation, if given; it may not be zero. -/
def width? : List Char → Option (Option Nat × List Char)
  | [] => some (none, [])
  | c :: cs =>
    if c = '0' then none else if c.isDigit then some (some (c.toNat - 48), cs) else some (none, c :: cs)

/-- Both marks in either order. -/
def blockMarks? (cs : List Char) : Option (Option Nat × Chomp × List Char) := do
  match chomp? cs with
  | (some how, cs) =>
    let (width, cs) ← width? cs
    return (width, how, cs)
  | (none, _) =>
    let (width, cs) ← width? cs
    if width.isNone then return (none, .clip, cs)
    let (how, cs) := chomp? cs
    return (width, how.getD .clip, cs)

/-! ## Lines -/

/-- Passes over an indentation of `width` at most, and over lines that hold no more: how many, and what comes next. -/
def passIndent (width : Nat) : (fuel : Nat) → (breaks : Nat) → Cursor → Nat × Cursor
  | 0, breaks, c => (breaks, c)
  | fuel + 1, breaks, c =>
    let c := c.passBlanks ((c.rest.take width).takeWhile (· = ' ')).length
    if c.rest.head?.any isBreak then passIndent width fuel (breaks + 1) c.passBreak else (breaks, c)

/-- Passes over all spaces and empty lines: the widest indentation seen, how many lines, and what comes next. -/
def firstIndent : (fuel : Nat) → (widest breaks : Nat) → Cursor → Nat × Nat × Cursor
  | 0, widest, breaks, c => (widest, breaks, c)
  | fuel + 1, widest, breaks, c =>
    let c := c.passBlanks (c.rest.takeWhile (· = ' ')).length
    let widest := max widest c.column
    if c.rest.head?.any isBreak then firstIndent fuel widest (breaks + 1) c.passBreak else (widest, breaks, c)

/-- The lines of a block as far as they are read. -/
structure BlockLines where
  text : List Char
  /-- Whether a line end follows the text. -/
  broken : Bool
  /-- How many empty lines follow it. -/
  breaks : Nat
  cursor : Cursor

/-- Reads the lines indented by `width`.  `broken` and `breaks` say what stands before the next line, `further` whether
the line before begins with a blank. -/
def blockLines (folds : Bool) (width : Nat) :
    (fuel : Nat) → (broken : Bool) → (breaks : Nat) → (further : Bool) → Cursor → BlockLines
  | 0, broken, breaks, _, c => ⟨[], broken, breaks, c⟩
  | fuel + 1, broken, breaks, further, c =>
    if c.column ≠ width || c.rest.isEmpty || (width = 0 && endsDocument c.rest) then ⟨[], broken, breaks, c⟩
    else
      let blank := c.rest.head?.any isBlank
      let between :=
        if folds && broken && !further && !blank then folded (breaks + 1)
        else List.replicate ((if broken then 1 else 0) + breaks) '\n'
      let line := c.rest.takeWhile (!isBreak ·)
      let c := c.passLine
      if c.rest.isEmpty then ⟨between ++ line, false, 0, c⟩
      else
        let (breaks, c) := passIndent width (c.rest.length + 1) 0 c.passBreak
        let more := blockLines folds width fuel true breaks blank c
        { more with text := between ++ line ++ more.text }

/-- The text of a block from its lines: a line end is added to a last line that lacks one. -/
def chomped (how : Chomp) (width : Nat) (b : BlockLines) : List Char :=
  let closing := if b.cursor.rest.isEmpty && max width 1 ≤ b.cursor.column then 1 else 0
  let kept := match how with
    | .strip => 0
    | .clip => (if b.broken then 1 else 0) + closing
    | .keep => (if b.broken then 1 else 0) + closing + b.breaks
  b.text ++ List.replicate kept '\n'

/-- The text of a block without lines, at the end of the document. -/
def bareBlock (how : Chomp) (broken : Bool) (breaks : Nat) : List Char :=
  let first := if broken then 1 else 0
  match how with
  | .strip => []
  | .clip => List.replicate first '\n'
  | .keep => List.replicate (if breaks = 0 then first else breaks) '\n'

/-- A block from its sign on, in a node at column `indent`. -/
def block? (folds : Bool) (indent : Int) (c : Cursor) : Option (List Char × Cursor) := do
  let c := c.pass 1
  let (given, how, rest) ← blockMarks? c.rest
  let (_, c) ← (c.passTo rest).lineGap?
  if !endsLine c.rest then none
  let broken := !c.rest.isEmpty
  let c := c.passBreak
  if c.rest.head? = some '\t' then none
  let fuel := c.rest.length + 1
  let (width, breaks, c) := match given with
    | some w =>
      let width := indent.toNat + w
      (width, passIndent width fuel 0 c)
    | none =>
      let (widest, found) := firstIndent fuel 0 0 c
      (max widest (indent + 1).toNat, found)
  if c.rest.isEmpty then return (bareBlock how broken breaks, c)
  if c.column < width && !(c.column ≤ indent) then none
  let b := blockLines folds width fuel false breaks false c
  return (chomped how width b, b.cursor)

end DatastoreAccess.Yaml
