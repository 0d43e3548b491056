import DatastoreAccess.Request.Header
import DatastoreAccess.Text.Blank
import DatastoreAccess.Text.Split
/-!
# Request.Credentials — what a request brings along

A token comes as the `Authorization` field or, failing that, as a cookie; a user-info token comes as a cookie; a service
key has a field of its own.  Of several fields or cookies of one name the first counts.  A token may carry the scheme
`Bearer`, which is taken off.
-/
namespace DatastoreAccess

structure Credentials where
  token : Option String
  userInfo : Option String
  serviceKey : Option String
  deriving DecidableEq, Repr

namespace Credentials

def authorizationField : String := "authorization"
def cookieField : String := "cookie"
def serviceKeyField : String := "x-api-key"
def authorizationCookie : String := "authorization"
def userInfoCookie : String := "user-info"

/-! ## Tokens -/

/-- A text that is not empty. -/
def nonempty? (cs : List Char) : Option (List Char) := if cs.isEmpty then none else some cs

/-- Whether a text is the scheme, in any case. -/
def isScheme (cs : List Char) : Bool := cs.map Char.toLower = "bearer".toList

/-- The text behind the scheme, if it starts with the scheme and then ends or goes on with a space. -/
def afterScheme? (cs : List Char) : Option (List Char) :=
  let rest := cs.drop 6
  if isScheme (cs.take 6) && (rest.isEmpty || rest.head? = some ' ') then some rest else none

/-- The token in a field or cookie. -/
def token? (cs : List Char) : Option (List Char) :=
  let value := Text.trim cs
  nonempty? (((afterScheme? value).map Text.trim).getD value)

/-! ## Cookies -/

/-- The name and value of a cookie, if there is a sign between them. -/
def cookiePair? (segment : List Char) : Option (List Char × List Char) := Text.splitFirst '=' (Text.trim segment)

/-- All cookies in order. -/
def cookies (hs : Headers) : List (List Char × List Char) :=
  ((Headers.all hs cookieField).filterMap HeaderField.text?).flatMap fun cs =>
    (Text.splitAll ';' cs).filterMap cookiePair?

/-- The value of the first cookie of a name, without blanks and quotes around it. -/
def cookie? (hs : Headers) (name : String) : Option (List Char) :=
  ((cookies hs).lookup name.toList).map fun v => Text.trimWhile (· = '"') (Text.trim v)

/-! ## Requests -/

def ofHeaders (hs : Headers) : Credentials where
  token := (((Headers.first? hs authorizationField).bind token?).or
    ((cookie? hs authorizationCookie).bind token?)).map String.ofList
  userInfo := ((cookie? hs userInfoCookie).bind nonempty?).map String.ofList
  serviceKey := ((Headers.first? hs serviceKeyField).bind fun cs => nonempty? (Text.trim cs)).map String.ofList

/-- How credentials show themselves: which of them are there. -/
def shown (c : Credentials) : String :=
  let hidden (o : Option String) : String := if o.isSome then "Some(\"<redacted>\")" else "None"
  "Credentials \x7b token: " ++ hidden c.token ++ ", user_info: " ++ hidden c.userInfo ++ ", api_key: " ++
    hidden c.serviceKey ++ " \x7d"

end Credentials
end DatastoreAccess
