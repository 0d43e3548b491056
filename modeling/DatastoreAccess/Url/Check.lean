import DatastoreAccess.Url.Host
/-!
# Url.Check — whether a text is a URL

A URL starts with a scheme.  Behind it schemes of the net have a host, whatever slashes there are; files may have one;
other schemes have one after two slashes.  What follows the host is never at fault.
-/
namespace DatastoreAccess.Url

def isSchemeChar (c : Char) : Bool := c.isAlphanum || c = '+' || c = '-' || c = '.'

/-- The scheme in lower case, and what follows its colon. -/
def scheme? (cs : List Char) : Option (List Char × List Char) :=
  if cs.head?.any Char.isAlpha then
    match cs.dropWhile isSchemeChar with
    | ':' :: rest => some ((cs.takeWhile isSchemeChar).map Char.toLower, rest)
    | _ => none
  else none

/-- Whether a character ends the part of a URL that names user, host and port. -/
def endsAuthority (onNet : Bool) (c : Char) : Bool := c = '/' || c = '?' || c = '#' || (onNet && c = '\\')

/-- The characters of a host: up to a colon that is not in brackets. -/
def hostChars : (bracketed : Bool) → List Char → List Char
  | _, [] => []
  | bracketed, c :: cs =>
    if c = ':' && !bracketed then []
    else c :: hostChars (if c = '[' then true else if c = ']' then false else bracketed) cs

def checkPort (cs : List Char) : Except Fault Unit :=
  let port := cs.takeWhile (· ≠ '\\')
  if port.all Char.isDigit && (valueIn? 10 port).any (· < 65536) then .ok () else .error .port

/-- Checks user, host and port.  Only an unknown scheme may go without a host, and not with a user or a port. -/
def checkAuthority (onNet : Bool) (cs : List Char) : Except Fault Unit := do
  let authority := cs.takeWhile fun c => !endsAuthority onNet c
  let (user, rest) := (Text.splitLast '@' authority).getD ([], authority)
  let host := hostChars false rest
  let hasUser := !user.isEmpty && user ≠ [':']
  let onlyMark := authority = ['@'] && authority.length < cs.length
  if host.isEmpty && (onNet || hasUser || !rest.isEmpty || onlyMark) then throw .emptyHost
  if onNet then checkHost host else checkOpaqueHost host
  match rest.drop host.length with
  | ':' :: port => checkPort port
  | _ => return ()

def isSlash (c : Char) : Bool := c = '/' || c = '\\'

/-- Checks the host of a file; a drive letter is no host. -/
def checkFile : List Char → Except Fault Unit
  | a :: b :: rest =>
    if isSlash a && isSlash b then
      match rest.takeWhile fun c => !endsAuthority true c with
      | [] => .ok ()
      | [d, e] => if d.isAlpha && (e = ':' || e = '|') then .ok () else checkHost [d, e]
      | host => checkHost host
    else .ok ()
  | _ => .ok ()

def netSchemes : List String := ["http", "https", "ws", "wss", "ftp"]

/-- Control characters and spaces around a URL do not count, nor tabs and line ends anywhere. -/
def cleaned (s : String) : List Char :=
  let cs := s.toList
  let edge (c : Char) : Bool := c.toNat ≤ 0x20
  ((cs.dropWhile edge).reverse.dropWhile edge).reverse.filter fun c => c ≠ '\t' && c ≠ '\n' && c ≠ '\r'

def check (s : String) : Except Fault Unit :=
  match scheme? (cleaned s) with
  | none => .error .noScheme
  | some (scheme, rest) =>
    let name := String.ofList scheme
    if netSchemes.contains name then checkAuthority true (rest.dropWhile fun c => c = '/' || c = '\\')
    else if name = "file" then checkFile rest
    else
      match rest with
      | '/' :: '/' :: rest => checkAuthority false rest
      | _ => .ok ()

end DatastoreAccess.Url
