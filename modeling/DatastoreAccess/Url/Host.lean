import DatastoreAccess.Text.Utf8
import DatastoreAccess.Url.Domain
/-!
# Url.Host — which machine a URL names

A host is an address or a domain.  A domain may be written with percent escapes and with characters beyond ASCII.  A
domain that ends in a number must be an IPv4 address.
-/
namespace DatastoreAccess.Url

/-- Why a text is no URL. -/
inductive Fault where
  | noScheme
  | emptyHost
  | domain
  | opaqueHost
  | port
  | ipv4
  | ipv6
  deriving DecidableEq, Repr

def Fault.message : Fault → String
  | .noScheme => "relative URL without a base"
  | .emptyHost => "empty host"
  | .domain => "invalid international domain name"
  | .opaqueHost => "invalid domain character"
  | .port => "invalid port number"
  | .ipv4 => "invalid IPv4 address"
  | .ipv6 => "invalid IPv6 address"

/-! ## IPv4 addresses -/

/-- The value of digits in a base of at most sixteen, if all are digits of it. -/
def valueIn? (base : Nat) (ds : List Char) : Option Nat :=
  ds.foldl (fun n c => do
    let d ← Text.hexDigit? c
    if d < base then some ((← n) * base + d) else none) (some 0)

/-- A number of an address: decimal, octal after `0`, hexadecimal after `0x`. -/
def ipv4Number? : List Char → Option Nat
  | [] => none
  | '0' :: 'x' :: ds => valueIn? 16 ds
  | '0' :: 'X' :: ds => valueIn? 16 ds
  | ['0'] => some 0
  | '0' :: ds => valueIn? 8 ds
  | ds => valueIn? 10 ds

/-- The parts of a domain, without an empty part at the end. -/
def parts (domain : List Char) : List (List Char) :=
  let ps := Text.splitAll '.' domain
  if ps.getLast? = some [] then ps.dropLast else ps

def endsInNumber (domain : List Char) : Bool :=
  match (parts domain).getLast? with
  | none => false
  | some [] => false
  | some p => p.all Char.isDigit || (ipv4Number? p).isSome

/-- The last number fills the bytes that the numbers before it leave. -/
def isIpv4 (domain : List Char) : Bool :=
  match ((parts domain).mapM ipv4Number?).map List.reverse with
  | some (last :: before) => before.length ≤ 3 && before.all (· < 256) && last < Nat.pow 256 (4 - before.length)
  | _ => false

/-! ## IPv6 addresses -/

def isHexGroup (cs : List Char) : Bool := !cs.isEmpty && cs.length ≤ 4 && cs.all fun c => (Text.hexDigit? c).isSome

/-- A byte in decimal without a leading zero. -/
def isDecimalByte (cs : List Char) : Bool :=
  !cs.isEmpty && cs.all Char.isDigit && (cs = ['0'] || cs.head? ≠ some '0') && (valueIn? 10 cs).any (· < 256)

/-- How many groups of sixteen bits colon-separated pieces make; the last may be an IPv4 address. -/
def groups? (mayEndInIpv4 : Bool) : List (List Char) → Option Nat
  | [] => some 0
  | [p] =>
    if isHexGroup p then some 1
    else
      let bytes := Text.splitAll '.' p
      if mayEndInIpv4 && bytes.length = 4 && bytes.all isDecimalByte then some 2 else none
  | p :: ps => if isHexGroup p then (groups? mayEndInIpv4 ps).map (· + 1) else none

/-- What is before and after the first double colon. -/
def splitGap : List Char → Option (List Char × List Char)
  | ':' :: ':' :: cs => some ([], cs)
  | c :: cs => (splitGap cs).map fun (a, b) => (c :: a, b)
  | [] => none

def colonPieces (cs : List Char) : List (List Char) := if cs.isEmpty then [] else Text.splitAll ':' cs

/-- Eight groups, or fewer with a gap. -/
def isIpv6 (cs : List Char) : Bool :=
  match splitGap cs with
  | none => groups? true (colonPieces cs) = some 8
  | some (before, after) =>
    match groups? false (colonPieces before), groups? true (colonPieces after) with
    | some m, some n => m + n ≤ 7
    | _, _ => false

/-! ## Hosts -/

/-- The bytes of a text with its percent escapes replaced. -/
def percentDecoded : List UInt8 → List UInt8
  | 0x25 :: a :: b :: l =>
    match Text.hexDigit? (Char.ofNat a.toNat), Text.hexDigit? (Char.ofNat b.toNat) with
    | some m, some n => UInt8.ofNat (m * 16 + n) :: percentDecoded l
    | _, _ => 0x25 :: percentDecoded (a :: b :: l)
  | b :: l => b :: percentDecoded l
  | [] => []
termination_by l => l.length

def bracketed? (cs : List Char) : Except Fault Unit :=
  if cs.getLast? = some ']' && isIpv6 (cs.drop 1).dropLast then .ok () else .error .ipv6

/-- Checks the host of a URL whose scheme has hosts on the net. -/
def checkHost (cs : List Char) : Except Fault Unit :=
  if cs.head? = some '[' then bracketed? cs
  else
    match (Text.decode? (percentDecoded (Text.encode cs))).bind Domain.ofChars? with
    | none => .error .domain
    | some [] => .error .emptyHost
    | some d => if endsInNumber d && !isIpv4 d then .error .ipv4 else .ok ()

/-- Characters that no host of an unknown scheme may have. -/
def isForbiddenOpaque (c : Char) : Bool := "\x00\t\n\r #/:<>?@[\\]^|".toList.contains c

/-- Checks the host of a URL of an unknown scheme. -/
def checkOpaqueHost (cs : List Char) : Except Fault Unit :=
  if cs.head? = some '[' then bracketed? cs
  else if cs.any isForbiddenOpaque then .error .opaqueHost
  else .ok ()

end DatastoreAccess.Url
