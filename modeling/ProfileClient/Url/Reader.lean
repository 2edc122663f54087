import ProfileClient.Url.Account
import ProfileClient.Url.Host
/-!
Absolute `http` and `https` URLs. A URL is read leniently: blanks around it and line breaks inside
it are dropped, back slashes count as slashes, and any number of slashes may stand before the host.
What is kept is the normal form that a request goes to: scheme and host in lower case, the default
port left out, dot segments resolved, other characters escaped, the account apart, the fragment
dropped.
-/
namespace ProfileClient

inductive Url.Scheme where
  | http
  | https
deriving DecidableEq, Repr

structure Url where
  scheme : Url.Scheme
  /-- Empty where there is none. -/
  account : List Char
  host : Url.Host
  /-- Missing where it is the default of the scheme. -/
  port : Option Nat
  /-- Starts with a slash. -/
  path : List Char
  query : Option (List Char)
deriving DecidableEq, Repr

namespace Url

def Scheme.text : Scheme → String
  | .http => "http"
  | .https => "https"

def Scheme.defaultPort : Scheme → Nat
  | .http => 80
  | .https => 443

/-- The text without blanks and control characters around it and without tabs and line breaks. -/
def cleaned (text : List Char) : List Char :=
  let outer (c : Char) : Bool := c.toNat ≤ 0x20
  let inner := ((text.dropWhile outer).reverse.dropWhile outer).reverse
  inner.filter fun c => !(c == '\t' || c == '\n' || c == '\r')

def isSchemeChar (c : Char) : Bool := c.isAlphanum || c == '+' || c == '-' || c == '.'

/-- The scheme before the first colon, and what follows it. -/
def scheme? (text : List Char) : Option (Scheme × List Char) :=
  match text.dropWhile isSchemeChar with
  | ':' :: rest =>
    let name := (text.takeWhile isSchemeChar).map Char.toLower
    if name = "http".toList then some (.http, rest)
    else if name = "https".toList then some (.https, rest)
    else none
  | _ => none

def isSlash (c : Char) : Bool := c == '/' || c == '\\'

def endsAuthority (c : Char) : Bool := isSlash c || c == '?' || c == '#'

def accountOf (authority : List Char) : List Char :=
  ((authority.reverse.dropWhile (· ≠ '@')).drop 1).reverse

/-- The host and port: what follows the last `@`. -/
def withoutAccount (authority : List Char) : List Char :=
  (authority.reverse.takeWhile (· ≠ '@')).reverse

/-- Parts host and port at the first colon outside brackets. -/
def splitPort (inside : Bool) : List Char → List Char × List Char
  | [] => ([], [])
  | c :: rest =>
    if c = ':' ∧ !inside then ([], rest)
    else
      let inside := if c = '[' then true else if c = ']' then false else inside
      let parts := splitPort inside rest
      (c :: parts.1, parts.2)

/-- A port of up to 65535; an empty one and the default count as none. -/
def port? (scheme : Scheme) (text : List Char) : Option (Option Nat) :=
  if text.isEmpty then some none
  else if !text.all Char.isDigit then none
  else
    match digitsIn 10 text with
    | none => none
    | some n =>
      if 65535 < n then none
      else some (if n = scheme.defaultPort then none else some n)

def lowered (segment : List Char) : String := String.ofList (segment.map Char.toLower)

def isSingleDot (segment : List Char) : Bool := [".", "%2e"].contains (lowered segment)

def isDoubleDot (segment : List Char) : Bool :=
  ["..", ".%2e", "%2e.", "%2e%2e"].contains (lowered segment)

/-- Adds a segment to those before it, which stand last first. A double dot takes one away; a dot
segment at the very end leaves an empty one. -/
def pushSegment (done : List (List Char)) (segment : List Char) (isLast : Bool) :
    List (List Char) :=
  if isDoubleDot segment then (if isLast then [] :: done.drop 1 else done.drop 1)
  else if isSingleDot segment then (if isLast then [] :: done else done)
  else encode keptInPath segment :: done

def resolve (done : List (List Char)) : List (List Char) → List (List Char)
  | [] => done.reverse
  | segment :: rest => resolve (pushSegment done segment rest.isEmpty) rest

/-- The path of the text between the host and the query. -/
def normalPath (text : List Char) : List Char :=
  let body := match text with
    | [] => []
    | c :: rest => if isSlash c then rest else c :: rest
  (resolve [] (body.splitOnP isSlash)).flatMap ('/' :: ·)

/-- The URL that the text names; `none` if it names none with scheme `http` or `https`. -/
def read? [Domains] (text : List Char) : Option Url := do
  let (scheme, rest) ← scheme? (cleaned text)
  let rest := rest.dropWhile isSlash
  let authority := rest.takeWhile (!endsAuthority ·)
  let rest := (rest.dropWhile (!endsAuthority ·)).takeWhile (· ≠ '#')
  let (host, port) := splitPort false (withoutAccount authority)
  let host ← Host.read? host
  let port ← port? scheme port
  let path := normalPath (rest.takeWhile (· ≠ '?'))
  let query := match rest.dropWhile (· ≠ '?') with
    | [] => none
    | _ :: query => some (encode keptInQuery query)
  return ⟨scheme, accountOf authority, host, port, path, query⟩

def render (url : Url) : String :=
  let port := match url.port with
    | none => ""
    | some n => s!":{n}"
  let query := match url.query with
    | none => []
    | some query => '?' :: query
  url.scheme.text ++ "://" ++ url.host.render ++ port ++ String.ofList (url.path ++ query)

end Url
end ProfileClient
