import DatastoreAccess.Yaml.Token
/-!
# Yaml.Node — what a YAML document is made of

Nodes are as written: plain texts are not yet told apart as numbers or words, and aliases are not yet replaced by what
they stand for.  Tags are resolved, since only the document's directives know what their handles mean.
-/
namespace DatastoreAccess.Yaml

/-- A tag without its handle: what the handle stands for, and the suffix. -/
structure Tag where
  lead : List Char
  suffix : List Char
  deriving DecidableEq, Repr

inductive Node where
  | text (plain : Bool) (tag : Option Tag) (s : List Char)
  | sequence (items : List Node)
  | mapping (pairs : List (Node × Node))
  | anchored (name : List Char) (n : Node)
  | alias (name : List Char)

/-- What stands where nothing is written. -/
def Node.empty : Node := .text true none ['~']

/-! ## Anchors and tags -/

/-- A handle and what it stands for. -/
abbrev Handle := List Char × List Char

/-- What the tags of the standard types begin with. -/
def standardLead : List Char := "tag:yaml.org,2002:".toList

/-- The tag that a handle and a suffix make.  A named handle has to be declared. -/
def Tag.resolve? (declared : Option Handle) (handle suffix : List Char) : Option Tag :=
  match declared.filter (·.1 = handle) with
  | some (_, lead) => some ⟨lead, suffix⟩
  | none =>
    if handle = ['!', '!'] then some ⟨standardLead, suffix⟩
    else if 2 ≤ handle.length then none
    else some ⟨handle, suffix⟩

/-- What stands in front of a node. -/
structure Marks where
  anchor : Option (List Char)
  tag : Option Tag

/-- At most one anchor and one tag, in either order. -/
def Marks.read? (declared : Option Handle) : List Token → Option (Marks × List Token)
  | .anchor a :: .tag h s :: ts => (Tag.resolve? declared h s).map fun t => (⟨some a, some t⟩, ts)
  | .anchor a :: ts => some (⟨some a, none⟩, ts)
  | .tag h s :: .anchor a :: ts => (Tag.resolve? declared h s).map fun t => (⟨some a, some t⟩, ts)
  | .tag h s :: ts => (Tag.resolve? declared h s).map fun t => (⟨none, some t⟩, ts)
  | ts => some (⟨none, none⟩, ts)

/-- A node with its anchor. -/
def Marks.on (m : Marks) (n : Node) : Node :=
  match m.anchor with
  | some a => .anchored a n
  | none => n

/-! ## Nodes -/

/-- Whether one of some tokens comes next. -/
def startsWith (kinds : List Token) (ts : List Token) : Bool := ts.head?.any kinds.contains

def pastComma? : List Token → Option (List Token)
  | .comma :: ts => some ts
  | _ => none

mutual

/-- A node and what follows it.  `block` says whether it may be a block, `level` whether it may be a sequence whose items
stand no further right than what it belongs to. -/
def node? (declared : Option Handle) : (fuel : Nat) → (block level : Bool) → List Token → Option (Node × List Token)
  | 0, _, _, _ => none
  | _, _, _, .alias name :: ts => some (.alias name, ts)
  | fuel + 1, block, level, ts => do
    let (m, ts) ← Marks.read? declared ts
    match ts with
    | .text plain s :: ts => return (m.on (.text plain m.tag s), ts)
    | .bracketOpen :: ts =>
      let (items, ts) ← flowItems? declared fuel true ts
      return (m.on (.sequence items), ts)
    | .braceOpen :: ts =>
      let (pairs, ts) ← flowPairs? declared fuel true ts
      return (m.on (.mapping pairs), ts)
    | t :: r =>
      if level && t = .item then
        let (items, ts) ← levelItems? declared fuel ts
        return (m.on (.sequence items), ts)
      else if block && t = .sequenceStart then
        let (items, ts) ← blockItems? declared fuel r
        return (m.on (.sequence items), ts)
      else if block && t = .mappingStart then
        let (pairs, ts) ← blockPairs? declared fuel r
        return (m.on (.mapping pairs), ts)
      else if m.anchor.isSome || m.tag.isSome then return (m.on (.text true m.tag []), ts)
      else none
    | [] => if m.anchor.isSome || m.tag.isSome then return (m.on (.text true m.tag []), []) else none

/-- A node, which may be left out in front of some tokens. -/
def nodeBefore? (declared : Option Handle) :
    (fuel : Nat) → (block level : Bool) → (ends : List Token) → List Token → Option (Node × List Token)
  | 0, _, _, _, _ => none
  | fuel + 1, block, level, ends, ts =>
    if startsWith ends ts then some (Node.empty, ts) else node? declared fuel block level ts

/-- A colon and the node behind it, both of which may be left out. -/
def valueBefore? (declared : Option Handle) :
    (fuel : Nat) → (block : Bool) → (ends : List Token) → List Token → Option (Node × List Token)
  | 0, _, _, _ => none
  | fuel + 1, block, ends, .value :: ts => nodeBefore? declared fuel block block ends ts
  | _, _, _, ts => some (Node.empty, ts)

/-- The items of a sequence up to its end. -/
def blockItems? (declared : Option Handle) : (fuel : Nat) → List Token → Option (List Node × List Token)
  | 0, _ => none
  | _, .blockEnd :: ts => some ([], ts)
  | fuel + 1, .item :: ts => do
    let (n, ts) ← nodeBefore? declared fuel true false [.item, .blockEnd] ts
    let (ns, ts) ← blockItems? declared fuel ts
    return (n :: ns, ts)
  | _, _ => none

/-- The items of a sequence that ends where no further item follows. -/
def levelItems? (declared : Option Handle) : (fuel : Nat) → List Token → Option (List Node × List Token)
  | 0, _ => none
  | fuel + 1, .item :: ts => do
    let (n, ts) ← nodeBefore? declared fuel true false [.item, .key, .value, .blockEnd] ts
    let (ns, ts) ← levelItems? declared fuel ts
    return (n :: ns, ts)
  | _, ts => some ([], ts)

/-- The pairs of a mapping up to its end; keys and values may be left out. -/
def blockPairs? (declared : Option Handle) : (fuel : Nat) → List Token → Option (List (Node × Node) × List Token)
  | 0, _ => none
  | _, .blockEnd :: ts => some ([], ts)
  | fuel + 1, ts => do
    let ends := [.key, .value, .blockEnd]
    let (k, ts) ← match ts with
      | .key :: ts => nodeBefore? declared fuel true true ends ts
      | .value :: _ => some (Node.empty, ts)
      | _ => none
    let (v, ts) ← valueBefore? declared fuel true ends ts
    let (ps, ts) ← blockPairs? declared fuel ts
    return ((k, v) :: ps, ts)

/-- The pairs up to a closing brace, with commas between them. -/
def flowPairs? (declared : Option Handle) :
    (fuel : Nat) → (first : Bool) → List Token → Option (List (Node × Node) × List Token)
  | 0, _, _ => none
  | _, _, .braceClose :: ts => some ([], ts)
  | fuel + 1, first, ts => do
    let ts ← if first then some ts else pastComma? ts
    match ts with
    | .braceClose :: ts => return ([], ts)
    | _ =>
      let ends := [.comma, .braceClose]
      let (k, v, ts) ← match ts with
        | .key :: ts => do
          let (k, ts) ← nodeBefore? declared fuel false false (.value :: ends) ts
          let (v, ts) ← valueBefore? declared fuel false ends ts
          some (k, v, ts)
        | .value :: _ => do
          let (v, ts) ← valueBefore? declared fuel false ends ts
          some (Node.empty, v, ts)
        | _ => do
          let (k, ts) ← node? declared fuel false false ts
          some (k, Node.empty, ts)
      let (ps, ts) ← flowPairs? declared fuel false ts
      return ((k, v) :: ps, ts)

/-- The items up to a closing bracket, with commas between them.  A key makes a mapping of one pair; one that is left out
takes up the sign behind it. -/
def flowItems? (declared : Option Handle) :
    (fuel : Nat) → (first : Bool) → List Token → Option (List Node × List Token)
  | 0, _, _ => none
  | _, _, .bracketClose :: ts => some ([], ts)
  | fuel + 1, first, ts => do
    let ts ← if first then some ts else pastComma? ts
    match ts with
    | .bracketClose :: ts => return ([], ts)
    | _ =>
      let ends := [.comma, .bracketClose]
      let (n, ts) ← match ts with
        | .key :: ts => do
          let (k, ts) ←
            if startsWith (.value :: ends) ts then some (Node.empty, ts.drop 1) else node? declared fuel false false ts
          let (v, ts) ← valueBefore? declared fuel false ends ts
          some (Node.mapping [(k, v)], ts)
        | _ => node? declared fuel false false ts
      let (ns, ts) ← flowItems? declared fuel false ts
      return (n :: ns, ts)

end

/-! ## Documents -/

/-- The directives in front of a document: what the last of them declares, and what follows.  A version may stand once
only. -/
def directives? : (versioned : Bool) → (declared : Option Handle) → List Token → Option (Option Handle × List Token)
  | versioned, _, .version :: ts => if versioned then none else directives? true none ts
  | versioned, _, .handle name lead :: ts => directives? versioned (some (name, lead)) ts
  | _, declared, ts => some (declared, ts)

/-- Whether a document ends before it begins. -/
def isBare : List Token → Bool
  | [] => true
  | .handle _ _ :: _ => true
  | ts => startsWith [.version, .documentStart, .documentEnd] ts

/-- A document that begins with directives or its sign. -/
def openedDocument? (ts : List Token) : Option (Node × List Token) := do
  let (declared, ts) ← directives? false none ts
  match ts with
  | .documentStart :: ts =>
    if isBare ts then return (Node.empty, ts) else node? declared (4 * ts.length + 4) true false ts
  | _ => none

/-- The one document of a text: `some none` when there is none at all. -/
def document? (ts : List Token) : Option (Option Node) := do
  match ts.dropWhile (· = .documentEnd) with
  | [] => return none
  | ts =>
    let (n, ts) ← if isBare ts then openedDocument? ts else node? none (4 * ts.length + 4) true false ts
    if (ts.dropWhile (· = .documentEnd)).isEmpty then return some n else none

end DatastoreAccess.Yaml
