/-!
# Text.Duration — writing a span of time

A span is written in the largest unit that it fills, with a fraction where it needs one: `3000s`, `1.5s`, `20ms`.
-/
namespace DatastoreAccess.Text

/-- Digits without the zeros at their end. -/
def dropZeros (ds : List Char) : List Char := (ds.reverse.dropWhile (· = '0')).reverse

/-- The digits of `n` filled up with zeros to `width`. -/
def padDigits (width n : Nat) : List Char :=
  let ds := Nat.toDigits 10 n
  List.replicate (width - ds.length) '0' ++ ds

def spanOfMillis (ms : Nat) : String :=
  if 1000 ≤ ms then
    let fraction := dropZeros (padDigits 3 (ms % 1000))
    toString (ms / 1000) ++ String.ofList (if fraction.isEmpty then [] else '.' :: fraction) ++ "s"
  else if 1 ≤ ms then toString ms ++ "ms"
  else "0ns"

end DatastoreAccess.Text
