import DatastoreAccess.Yaml.Cursor
/-!
# Yaml.Plain — texts without quotes

A plain text ends before a colon with a blank behind it, before a comment, at a line that is not indented enough, and
inside brackets or braces at their signs.  It may go over several lines, which fold into one.
-/
namespace DatastoreAccess.Yaml

/-- Whether the next character may belong to a plain text.  `flow` says whether it stands inside brackets or braces. -/
def isPlainNext (flow : Bool) : List Char → Bool
  | ':' :: r => !endsWord r && !(flow && startsFlowMark r)
  | cs => !endsWord cs && !(flow && startsFlowMark cs)

def plainWord (flow : Bool) : List Char → List Char
  | [] => []
  | c :: cs => if isPlainNext flow (c :: cs) then c :: plainWord flow cs else []

/-- Whether a dash stands right before a flow mark. -/
def isDashAtMark : List Char → Bool
  | '-' :: r => startsFlowMark r
  | _ => false

/-- The words of a plain text indented to `indent` at least, up to its end. -/
def plainWords? (flow : Bool) (indent : Int) : (fuel : Nat) → Cursor → Option (List Char × Cursor)
  | 0, _ => none
  | fuel + 1, c => do
    if c.atMark || c.rest.head? = some '#' then return ([], c)
    if flow && isDashAtMark c.rest then none
    match plainWord flow c.rest with
    | [] => return ([], c)
    | word =>
      let c := c.pass word.length
      if !endsWord c.rest || c.rest.isEmpty then return (word, c)
      let (blanks, breaks, c) ← Cursor.textGap? indent true (c.rest.length + 1) false c
      if !flow && c.leftOf indent then return (word, c)
      let (more, c) ← plainWords? flow indent fuel c
      if more.isEmpty then return (word, c)
      return (word ++ (if breaks = 0 then blanks else folded breaks) ++ more, c)

/-- A plain text, which may not be empty. -/
def plain? (flow : Bool) (indent : Int) (c : Cursor) : Option (List Char × Cursor) :=
  if flow && c.leftOf indent then none
  else (plainWords? flow indent (c.rest.length + 1) c).filter (!·.1.isEmpty)

end DatastoreAccess.Yaml
