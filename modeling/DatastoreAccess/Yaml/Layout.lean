import DatastoreAccess.Yaml.Block
import DatastoreAccess.Yaml.Plain
import DatastoreAccess.Yaml.Quoted
import DatastoreAccess.Yaml.Tag
/-!
# Yaml.Layout — the tokens of a text

Where a block begins and ends is told by columns, and a key is only known as one when its colon is found.  So what may
be a key keeps its place among the tokens, and the signs of the key and of its mapping are put there later.
-/
namespace DatastoreAccess.Yaml

/-- Where a key may begin. -/
structure KeyStart where
  /-- How many tokens stand before it. -/
  place : Nat
  line : Nat
  column : Nat
  index : Nat
  /-- Whether nothing but a key can stand here. -/
  required : Bool

/-- The column of something open: a block, or else only the least column of what its line goes on with. -/
structure Level where
  column : Nat
  block : Bool

structure Layout where
  cursor : Cursor
  tokens : Array Token
  /-- What is open, innermost first. -/
  levels : List Level
  /-- What may be a key inside the innermost bracket or brace, or outside of all. -/
  key : Option KeyStart
  /-- The same for what surrounds each bracket and brace that is open. -/
  outerKeys : List (Option KeyStart)
  /-- Whether a key or an item may begin here. -/
  keyAllowed : Bool
  /-- The index at which a colon ends a key even with no blank behind it. -/
  adjacent : Nat
  /-- For each open bracket, whether a pair without braces is open in it. -/
  pairs : List Bool
  /-- Whether keys belong to a mapping that is already open. -/
  inMapping : Bool

namespace Layout

def start (cs : List Char) : Layout := ⟨Cursor.start cs, #[], [], none, [], true, 0, [], false⟩

/-- Whether a bracket or brace is open. -/
def inFlow (s : Layout) : Bool := !s.outerKeys.isEmpty

def indent (s : Layout) : Int :=
  match s.levels with
  | l :: _ => l.column
  | [] => -1

def emit (t : Token) (s : Layout) : Layout := { s with tokens := s.tokens.push t }

def insert (place : Nat) (t : Token) (s : Layout) : Layout :=
  { s with tokens := s.tokens.insertIdxIfInBounds place t }

def moveTo (c : Cursor) (s : Layout) : Layout := { s with cursor := c }

/-! ## Keys -/

/-- Keeps the place, if a key may begin here. -/
def saveKey (s : Layout) : Layout :=
  if s.keyAllowed then
    let c := s.cursor
    let required := !s.inFlow && s.indent = c.column && s.levels.head?.any (·.block)
    { s with key := some ⟨s.tokens.size, c.line, c.column, c.index, required⟩ }
  else s

/-- Gives up the place of a key, unless it has to be one. -/
def dropKey? (s : Layout) : Option Layout :=
  if s.key.any (·.required) then none else some { s with key := none }

/-- Outside of brackets and braces a key stands on one line and is not too long. -/
def keyReach : Nat := 1024

def dropStaleKey? (s : Layout) : Option Layout :=
  let isStale (k : KeyStart) := k.line < s.cursor.line || k.index + keyReach < s.cursor.index
  if !s.inFlow && s.key.any isStale then s.dropKey? else some s

/-! ## Levels -/

/-- Closes what stands further right than a column. -/
def closeTo (column : Int) (s : Layout) : Layout :=
  if s.inFlow then s
  else
    let isRight (l : Level) : Bool := column < l.column
    let ends := (s.levels.takeWhile isRight).filter (·.block)
    { s with levels := s.levels.dropWhile isRight, tokens := s.tokens ++ ends.map fun _ => Token.blockEnd }

/-- Closes levels up to the innermost block. -/
def closeLoose (s : Layout) : Layout := { s with levels := s.levels.dropWhile (!·.block) }

/-- Makes what follows stand further right than the innermost block. -/
def openLoose (s : Layout) : Layout :=
  match s.levels with
  | l :: ls => if !s.inFlow && l.block then { s with levels := ⟨l.column + 1, false⟩ :: l :: ls } else s
  | [] => s

/-- Opens a block at a column, if none is open there or further right. -/
def openBlock (column place : Nat) (t : Token) (s : Layout) : Layout :=
  if s.inFlow then s
  else
    let levels := match s.levels with
      | l :: ls => if !l.block && l.column ≤ column then ls else l :: ls
      | [] => []
    let s := { s with levels := levels }
    if s.indent < (column : Int) then { s.insert place t with levels := ⟨column, true⟩ :: s.levels } else s

/-! ## Signs -/

/-- Closes a pair without braces. -/
def closePair (s : Layout) : Layout :=
  match s.pairs with
  | true :: ps => { s with pairs := false :: ps, inMapping := false }.emit .braceClose
  | _ => s

/-- How many brackets and braces may be open at once. -/
def flowLimit : Nat := 255

/-- An opening bracket or brace. -/
def opening? (t : Token) (s : Layout) : Option Layout := do
  let s := s.saveKey.openLoose
  if flowLimit ≤ s.outerKeys.length then none
  let (_, c) ← (s.cursor.pass 1).lineGap?
  let s := if t = .braceOpen then { s with inMapping := true } else { s with pairs := false :: s.pairs }
  return { s with cursor := c, key := none, outerKeys := s.key :: s.outerKeys, keyAllowed := true }.emit t

/-- A closing bracket or brace. -/
def closing? (t : Token) (s : Layout) : Option Layout := do
  let s ← s.dropKey?
  let s := match s.outerKeys with
    | k :: ks => { s with key := k, outerKeys := ks }
    | [] => s
  let s := if t = .bracketClose then { s.closePair with pairs := s.pairs.drop 1 } else s
  let (_, c) ← (s.cursor.pass 1).lineGap?
  return { s with cursor := c, keyAllowed := false, adjacent := if s.inFlow then c.index else s.adjacent }.emit t

def comma? (s : Layout) : Option Layout := do
  let s ← s.dropKey?
  let (_, c) ← (s.cursor.pass 1).lineGap?
  return { s.closePair with cursor := c, keyAllowed := true }.emit .comma

/-- The dash of an item. -/
def item? (s : Layout) : Option Layout := do
  if s.inFlow || !s.keyAllowed then none
  let (blanks, c) ← (s.cursor.pass 1).lineGap?
  let isDash := match c.rest with
    | '-' :: r => endsWord r
    | _ => false
  if blanks.contains '\t' && isDash then none
  let s := (s.openBlock s.cursor.column s.tokens.size .sequenceStart).moveTo c
  let s ← (if c.rest.head?.any isBreak || startsFlowMark c.rest then s.openLoose else s).dropKey?
  return { s with keyAllowed := true }.emit .item

/-- The question mark of a key. -/
def askedKey? (s : Layout) : Option Layout := do
  if !s.inFlow && !s.keyAllowed then none
  let s :=
    if s.inFlow then { s with inMapping := true }
    else s.openBlock s.cursor.column s.tokens.size .mappingStart
  let s ← s.dropKey?
  let c := s.cursor.pass 1
  if !c.rest.head?.any (fun a => a = ' ' || isBreak a) then none
  let c := Cursor.spaceGap (c.rest.length + 1) c
  if c.rest.head? = some '\t' then none
  return { s with cursor := c, keyAllowed := !s.inFlow }.emit .key

/-- What follows a colon.  A tab alone may not stand between it and a name. -/
def pastColon? (c : Cursor) : Option Cursor := do
  let c := c.pass 1
  if c.rest.head? ≠ some '\t' then return c
  let (blanks, c) ← c.lineGap?
  if !blanks.contains ' ' && c.rest.head?.any isNameChar then none else return c

/-- The colon of a value.  The signs of its key are put where the key begins. -/
def value? (s : Layout) : Option Layout := do
  let c := s.cursor
  let next ← pastColon? c
  let paired := !s.pairs.isEmpty && !s.inMapping
  let s := { s with cursor := next, pairs := if paired then true :: s.pairs.drop 1 else s.pairs }
  match s.key with
  | some k =>
    if paired && k.line < c.line then none
    let s := s.insert k.place .key
    let s := if paired then s.insert k.place .braceOpen else s
    let s := (s.openBlock k.column k.place .mappingStart).openLoose
    return { s with key := none, keyAllowed := false }.emit .value
  | none =>
    if !s.inFlow && !s.keyAllowed then none
    let s := if paired then s.emit .braceOpen else s
    let s := (s.openBlock c.column s.tokens.size .mappingStart).openLoose
    return { s with keyAllowed := !s.inFlow }.emit .value

/-! ## Lines of their own -/

/-- Ends all blocks in front of a line that is not part of a document. -/
def endBlocks? (s : Layout) : Option Layout := do
  let s ← (s.closeTo (-1)).dropKey?
  return { s with keyAllowed := false }

def directive? (s : Layout) : Option Layout := do
  let s ← s.endBlocks?
  let (t, r) ← Yaml.directive? (s.cursor.rest.drop 1)
  let (_, c) ← (s.cursor.passTo r).lineGap?
  if endsLine c.rest then return (s.moveTo c.passBreak).emit t else none

def documentStart? (s : Layout) : Option Layout := do
  let s ← s.endBlocks?
  return (s.moveTo (s.cursor.pass 3)).emit .documentStart

def documentEnd? (s : Layout) : Option Layout := do
  let s ← s.endBlocks?
  let (_, c) ← (s.cursor.pass 3).lineGap?
  if endsLine c.rest then return (s.moveTo c).emit .documentEnd else none

/-! ## Names and texts -/

def isAnchorChar (c : Char) : Bool := !isBlank c && !isBreak c && !isFlowMark c && c ≠ '\uFEFF'

/-- An anchor or an alias. -/
def name? (token : List Char → Token) (s : Layout) : Option Layout :=
  let name := (s.cursor.rest.drop 1).takeWhile isAnchorChar
  if name.isEmpty then none
  else some ({ s.saveKey with cursor := s.cursor.pass (name.length + 1), keyAllowed := false }.emit (token name))

def tag? (s : Layout) : Option Layout := do
  let (t, r) ← Yaml.tag? s.cursor.rest
  if !endsWord r && !(s.inFlow && startsFlowMark r) then none
  return { s.saveKey with cursor := s.cursor.passTo r, keyAllowed := false }.emit t

def plain? (s : Layout) : Option Layout := do
  let s := s.saveKey.closeLoose
  let (text, c) ← Yaml.plain? s.inFlow (s.indent + 1) s.cursor
  return { s with cursor := c, keyAllowed := c.fresh }.emit (.text true text)

def block? (folds : Bool) (s : Layout) : Option Layout := do
  let s := s.saveKey.closeLoose
  let (text, c) ← Yaml.block? folds s.indent s.cursor
  return { s with cursor := c, keyAllowed := true }.emit (.text false text)

/-- Passes over everything between two tokens. -/
def gap? (s : Layout) : Option Layout := do
  let (broken, c) ← Cursor.tokenGap? s.indent (!s.levels.isEmpty) (s.cursor.rest.length + 1) false s.cursor
  return { s with cursor := c, keyAllowed := s.keyAllowed || (broken && !s.inFlow) }

def quoted? (q : Quotes) (s : Layout) : Option Layout := do
  let (text, c) ← Yaml.quoted? q s.inFlow s.indent s.cursor
  let s ← { s.saveKey with cursor := c, keyAllowed := false }.gap?
  return { s with adjacent := s.cursor.index }.emit (.text false text)

/-! ## Tokens -/

/-- A colon: the sign of a value, or the start of a text. -/
def colon? (s : Layout) : Option Layout :=
  let r := s.cursor.rest.drop 1
  let isAdjacent := s.cursor.index = s.adjacent
  if endsWord r then s.value?
  else if s.inFlow && (startsFlowMark r || isAdjacent) then
    if !isAdjacent && r.head?.any (fun a => a = '[' || a = '\x7b') then none else s.value?
  else s.plain?

/-- The token that begins with a character. -/
def tokenOf? (a : Char) (s : Layout) : Option Layout :=
  let alone := endsWord (s.cursor.rest.drop 1)
  match a with
  | '[' => s.opening? .bracketOpen
  | '\x7b' => s.opening? .braceOpen
  | ']' => s.closing? .bracketClose
  | '\x7d' => s.closing? .braceClose
  | ',' => s.comma?
  | '-' => if alone then s.item? else s.plain?
  | '?' => if alone then s.askedKey? else s.plain?
  | ':' => s.colon?
  | '*' => s.name? .alias
  | '&' => s.name? .anchor
  | '!' => s.tag?
  | '|' => if s.inFlow then s.plain? else s.block? false
  | '>' => if s.inFlow then s.plain? else s.block? true
  | '\x27' => s.quoted? .single
  | '"' => s.quoted? .double
  | '%' => none
  | '@' => none
  | '\x60' => none
  | _ => s.plain?

/-- The next token. -/
def token? (s : Layout) : Option Layout :=
  let c := s.cursor
  if c.column = 0 && c.rest.head? = some '%' then s.directive?
  else if c.column = 0 && startsDocument c.rest then s.documentStart?
  else if c.column = 0 && endsDocument c.rest then s.documentEnd?
  else if c.leftOf s.indent then none
  else c.rest.head?.bind s.tokenOf?

/-- All tokens up to the end. -/
def tokens? : (fuel : Nat) → Layout → Option (Array Token)
  | 0, _ => none
  | fuel + 1, s => do
    let s ← (← s.gap?).dropStaleKey?
    let s := s.closeTo s.cursor.column
    if s.cursor.rest.isEmpty then return (← s.endBlocks?).tokens
    else tokens? fuel (← s.token?)

end Layout

/-- The tokens of a text. -/
def tokens? (s : String) : Option (List Token) :=
  (Layout.tokens? (s.toList.length + 1) (Layout.start s.toList)).map Array.toList

end DatastoreAccess.Yaml
