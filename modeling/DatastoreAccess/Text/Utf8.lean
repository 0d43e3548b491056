/-!
# Text.Utf8 — bytes to characters

A byte sequence is read into characters and *gaps*: a gap is a longest stretch of bytes that begins a character and
does not finish it, or one byte that begins none.  Strict reading refuses gaps, lenient reading writes U+FFFD for each.
-/
namespace DatastoreAccess.Text

/-- The bytes of a text. -/
def encode (cs : List Char) : List UInt8 := cs.flatMap String.utf8EncodeChar

/-- A character begun: the bits so far, how many bytes it still needs, and the range of the next one. -/
structure Begun where
  bits : Nat
  owed : Nat
  low : UInt8
  high : UInt8

/-- What a byte starts: a whole character, a longer one, or nothing. -/
inductive Opening where
  | whole (c : Char)
  | more (b : Begun)
  | nothing

def opening (b : UInt8) : Opening :=
  if b < 0x80 then .whole (Char.ofNat b.toNat)
  else if b < 0xC2 then .nothing
  else if b < 0xE0 then .more ⟨b.toNat - 0xC0, 1, 0x80, 0xBF⟩
  else if b < 0xF0 then
    .more ⟨b.toNat - 0xE0, 2, if b = 0xE0 then 0xA0 else 0x80, if b = 0xED then 0x9F else 0xBF⟩
  else if b < 0xF5 then
    .more ⟨b.toNat - 0xF0, 3, if b = 0xF0 then 0x90 else 0x80, if b = 0xF4 then 0x8F else 0xBF⟩
  else .nothing

def Begun.grow (p : Begun) (b : UInt8) : Begun :=
  ⟨p.bits * 64 + (b.toNat - 0x80), p.owed - 1, 0x80, 0xBF⟩

/-- Characters and gaps (`none`) in order. -/
def scan : Option Begun → List UInt8 → List (Option Char)
  | none, [] => []
  | some _, [] => [none]
  | none, b :: l =>
    match opening b with
    | .whole c => some c :: scan none l
    | .more p => scan (some p) l
    | .nothing => none :: scan none l
  | some p, b :: l =>
    if p.low ≤ b ∧ b ≤ p.high then
      if p.owed ≤ 1 then some (Char.ofNat (p.grow b).bits) :: scan none l else scan (some (p.grow b)) l
    else
      none ::
        match opening b with
        | .whole c => some c :: scan none l
        | .more q => scan (some q) l
        | .nothing => none :: scan none l

/-- The text, if there is no gap. -/
def decode? (bs : List UInt8) : Option (List Char) := (scan none bs).mapM fun c => c

/-- The text with U+FFFD for each gap. -/
def decodeLenient (bs : List UInt8) : List Char := (scan none bs).map fun c => c.getD '\uFFFD'

def encodeString (s : String) : List UInt8 := encode s.toList

def decodeString? (bs : List UInt8) : Option String := (decode? bs).map String.ofList

end DatastoreAccess.Text
