import DatastoreAccess.Text.Utf8
/-!
# Request.Header — the header fields of a request

A field's name is a token of letters, digits and some marks, and its case does not count.  A value is bytes without
control characters; it can be read as text when it is all visible ASCII, spaces and tabs.
-/
namespace DatastoreAccess

structure HeaderField where
  /-- In lower case. -/
  name : String
  value : List UInt8
  deriving DecidableEq, Repr

namespace HeaderField

def nameMarks : List Char := ['!', '#', '$', '%', '&', '\'', '*', '+', '-', '.', '^', '_', '\x60', '|', '~']

def isNameChar (c : Char) : Bool := c.isAlphanum || nameMarks.contains c

def longestName : Nat := 65535

def isName (name : String) : Bool :=
  let cs := name.toList
  !cs.isEmpty && cs.length ≤ longestName && cs.all isNameChar

def isValueByte (b : UInt8) : Bool := (0x20 ≤ b && b ≠ 0x7F) || b = 0x09

/-- The field of a name and a value, if both may stand in a header. -/
def make? (name : String) (value : List UInt8) : Option HeaderField :=
  if isName name && value.all isValueByte then some ⟨name.toLower, value⟩ else none

def isReadable (b : UInt8) : Bool := (0x20 ≤ b && b < 0x7F) || b = 0x09

/-- The value as text. -/
def text? (f : HeaderField) : Option (List Char) :=
  if f.value.all isReadable then some (f.value.map fun b => Char.ofNat b.toNat) else none

end HeaderField

/-- The fields of a request in order. -/
abbrev Headers := List HeaderField

/-- The values under a name in order. -/
def Headers.all (hs : Headers) (name : String) : List HeaderField := hs.filter fun f => f.name = name

/-- The text of the first field of a name. -/
def Headers.first? (hs : Headers) (name : String) : Option (List Char) :=
  ((Headers.all hs name).head?).bind HeaderField.text?

end DatastoreAccess
