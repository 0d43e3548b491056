import DatastoreAccess.Text.Direction
import DatastoreAccess.Text.Joining
import DatastoreAccess.Url.Meaning
import DatastoreAccess.Url.Punycode
/-!
# Url.Domain — names of machines

A domain is labels with points between them.  It is read for what its characters mean; a label that starts with `xn--`
is then replaced by the label that it is written for.  Every label must be one that can be written back, and labels that
run to the left and labels that run to the right only go together under the rules of `runsWell`.
-/
namespace DatastoreAccess.Url.Domain

/-- ASCII characters that no domain may have. -/
def isForbidden (c : Char) : Bool := c.toNat ≤ 0x20 || c.toNat = 0x7F || "%#/:<>?@[\\]^|".toList.contains c

def isAscii (c : Char) : Bool := c.toNat < 0x80

/-! ## Labels -/

/-- Whether the joiners in a label, whose part before is given in reverse, stand where they make a difference: behind a
sign that kills a vowel, or, for the one that separates, between letters that would join. -/
def joinsWell : (before : List Char) → List Char → Bool
  | _, [] => true
  | before, c :: cs =>
    let behindKiller := before.head?.any fun b => Text.combiningClass b = Text.vowelKiller
    let separates := c = '\u200c' && !before.isEmpty &&
      Text.Joining.reaches (fun j => j = .toNext || j = .both) before &&
      Text.Joining.reaches (fun j => j = .toPrevious || j = .both) cs
    ((c ≠ '\u200c' && c ≠ '\u200d') || behindKiller || separates) && joinsWell (c :: before) cs

/-- The longest label that is written in ASCII, and the longest that is read from it. -/
def longestPlain : Nat := 1000
def longestWritten : Nat := 2000

/-- A label starts with no mark and has joiners only where they make a difference. -/
def isSound (label : List Char) : Bool :=
  !(label.head?.any Text.isMark) && joinsWell [] label && (label.all isAscii || label.length ≤ longestPlain)

def writtenSign : List Char := "xn--".toList

/-- The label that one in ASCII is written for: one with other characters, each of which means itself, in composed
form, and not written for another in its turn. -/
def readWritten? (written : List Char) : Option (List Char) := do
  if !written.all isAscii || longestWritten < written.length then none
  let label ← Punycode.decode? written
  let plain := label.all fun c => Meaning.ofChar c = .itself
  if label.all isAscii || !plain || Text.composed label ≠ label || writtenSign.isPrefixOf label then none
  else some label

/-- A label, read if it is a written one. -/
def label? (cs : List Char) : Option (List Char) :=
  let label := match Text.after? writtenSign cs with
    | some written => readWritten? written
    | none => some cs
  label.filter isSound

/-! ## Directions -/

def isLeftward (d : Text.Direction) : Bool := d = .toLeft || d = .arabicDigit

/-- Rules for a label that starts to the right: nothing that runs to the left, and at the end a letter or a digit. -/
def rightwardWell (ds : List Text.Direction) (last : Text.Direction) : Bool :=
  ds.all (fun d => !isLeftward d) && (last = .toRight || last = .europeanDigit)

/-- Rules for a label that starts to the left: nothing that runs to the right, digits of one kind only, and at the end a
letter or a digit. -/
def leftwardWell (ds : List Text.Direction) (last : Text.Direction) : Bool :=
  !ds.contains .toRight && !(ds.contains .europeanDigit && ds.contains .arabicDigit) &&
    (last = .toLeft || last = .europeanDigit || last = .arabicDigit)

/-- Whether a label may stand in a domain that has characters running to the left.  Marks at its end do not count. -/
def runsWell (label : List Char) : Bool :=
  match label.map Text.Direction.ofChar with
  | [] => true
  | first :: rest =>
    match rest.reverse.dropWhile (· = .mark) with
    | [] => first = .toRight || first = .toLeft
    | last :: before =>
      (first = .toRight && rightwardWell (last :: before) last) ||
        (first = .toLeft && leftwardWell (last :: before) last)

/-! ## Domains -/

/-- The domain that a text names. -/
def ofChars? (cs : List Char) : Option (List Char) := do
  let meant ← Meaning.ofChars? cs
  if meant.any isForbidden then none
  let labels ← (Text.splitAll '.' meant).mapM label?
  let leftward := labels.any fun l => !l.all isAscii && l.any fun c => isLeftward (Text.Direction.ofChar c)
  if leftward && !labels.all runsWell then none
  else some meant

end DatastoreAccess.Url.Domain
