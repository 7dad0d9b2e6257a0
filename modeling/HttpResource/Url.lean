/-
# URLs

Absolute URLs: a scheme, and then either an authority with a host and a path of segments, or a path of
any form. Special schemes always have an authority.

* `Url.parse`: the URL of a text, or the first thing that is wrong with it.
* `Url.text`: the URL in its normal form.
* `Url.builtinReader`: the reader of addresses that is built in.
-/
import HttpResource.Url.Host
import HttpResource.Url.Reader

namespace HttpResource

/-- User name and password, both encoded. -/
structure Credentials where
  user : List Char := []
  password : List Char := []
deriving DecidableEq, Repr

namespace Credentials

def text (c : Credentials) : List Char :=
  if c = {} then []
  else if c.password.isEmpty then c.user ++ ['@']
  else c.user ++ ':' :: c.password ++ ['@']

end Credentials

structure Authority where
  credentials : Credentials := {}
  host : Host
  /-- The port, where it is not the one that the scheme implies. -/
  port : Option Nat := none
deriving DecidableEq, Repr

namespace Authority

def text (a : Authority) : List Char :=
  a.credentials.text ++ a.host.text
    ++ (match a.port with
      | some n => ':' :: (toString n).toList
      | none => [])

end Authority

structure Url where
  scheme : String
  authority : Option Authority
  path : List Char
  query : Option (List Char)
  fragment : Option (List Char)
deriving DecidableEq, Repr

namespace Url

/-! ### Schemes -/

def isSpecial (scheme : String) : Bool :=
  ["http", "https", "ws", "wss", "ftp", "file"].contains scheme

def defaultPort? : String → Option Nat
  | "http" => some 80
  | "https" => some 443
  | "ws" => some 80
  | "wss" => some 443
  | "ftp" => some 21
  | _ => none

def isSchemeChar (c : Char) : Bool := c.isAlphanum || ['+', '-', '.'].contains c

/-- The scheme before the first colon, and what follows the colon. -/
def splitScheme (s : List Char) : Except UrlError (String × List Char) :=
  match s.span isSchemeChar with
  | (c :: name, ':' :: rest) =>
    if c.isAlpha then .ok (String.ofList ((c :: name).map Char.toLower), rest) else .error .relative
  | _ => .error .relative

/-! ### Authorities -/

/-- Whether a character ends an authority. -/
def endsAuthority (special : Bool) (c : Char) : Bool :=
  ['/', '?', '#'].contains c || (special && c = '\\')

/-- The text before the last occurrence of a character and the text after it. -/
def splitLast (c : Char) (s : List Char) : Option (List Char × List Char) :=
  (Text.splitOnce c s.reverse).map fun (after, before) => (before.reverse, after.reverse)

/-- User name and password; the first colon separates them. -/
def credentialsOf (s : List Char) : Credentials :=
  let encode := Percent.encode Percent.inUserinfo
  match Text.splitOnce ':' s with
  | some (user, password) => ⟨encode user, encode password⟩
  | none => ⟨encode s, []⟩

/-- The host's text, which ends at a colon outside brackets, and the rest. -/
def splitHost (bracketed : Bool) : List Char → List Char × List Char
  | [] => ([], [])
  | c :: rest =>
    if c = ':' && !bracketed then ([], c :: rest)
    else
      let (host, after) := splitHost (c = '[' || (bracketed && c ≠ ']')) rest
      (c :: host, after)

/-- The port of the text after a host; nothing after the colon is no port. -/
def parsePort (scheme : String) : List Char → Except UrlError (Option Nat)
  | [] => .ok none
  | _ :: digits =>
    match Address4.digitsValue? 10 digits with
    | some n =>
      if 65535 < n then .error .badPort
      else .ok (if digits.isEmpty || defaultPort? scheme = some n then none else some n)
    | none => .error .badPort

/-- A host and a port. Without a host there is no port either. -/
def parseHostAndPort (scheme : String) (s : List Char) : Except UrlError (Host × Option Nat) := do
  let special := isSpecial scheme
  let (hostText, portText) := splitHost false s
  if special && hostText.isEmpty then throw .emptyHost
  let host ← Host.parse special hostText
  if host.text.isEmpty && !portText.isEmpty then throw .emptyHost
  return (host, ← parsePort scheme portText)

/-- The authority of a text. The credentials end at the last at-sign, and need a host after them. -/
def parseAuthority (scheme : String) (s : List Char) (atEnd : Bool) : Except UrlError Authority := do
  match splitLast '@' s with
  | none =>
    let (host, port) ← parseHostAndPort scheme s
    return { host, port }
  | some (userinfo, rest) =>
    if userinfo.isEmpty && rest.isEmpty && !atEnd then throw .emptyHost
    let credentials := credentialsOf userinfo
    let (host, port) ← parseHostAndPort scheme rest
    if host.text.isEmpty && credentials ≠ {} then throw .emptyHost
    return { credentials, host, port }

/-- The host of a file, which the local one has no need of. -/
def parseFileHost (s : List Char) : Except UrlError Authority := do
  if s.isEmpty then return { host := .other [] }
  let host ← Host.parseSpecial s
  return { host := if host = .domain "localhost".toList then .other [] else host }

/-! ### Paths -/

/-- Whether a segment stands for the place it is in. -/
def isSingleDot (s : List Char) : Bool := [".", "%2e"].contains (String.ofList (s.map Char.toLower))

/-- Whether a segment stands for the place above. -/
def isDoubleDot (s : List Char) : Bool :=
  ["..", ".%2e", "%2e.", "%2e%2e"].contains (String.ofList (s.map Char.toLower))

/-- Segments without those that stand for places. The last one leaves an empty segment behind. -/
def normalize (done : List (List Char)) : List (List Char) → List (List Char)
  | [] => done
  | s :: rest =>
    let trail := if rest.isEmpty then [[]] else []
    if isDoubleDot s then normalize (done.dropLast ++ trail) rest
    else if isSingleDot s then normalize (done ++ trail) rest
    else normalize (done ++ [s]) rest

/-- The text between slashes, and between backslashes too where they count as slashes. -/
def segmentsOf (special : Bool) (s : List Char) : List (List Char) :=
  Text.splitAll '/' (if special then s.map fun c => if c = '\\' then '/' else c else s)

/-- The path of segments, each of them after a slash. -/
def pathOf (special : Bool) (s : List Char) : List Char :=
  let segments := (segmentsOf special s).map (Percent.encode Percent.inPath)
  (normalize [] segments).flatMap ('/' :: ·)

/-- The path after an authority, which special URLs always have. -/
def pathAfterAuthority (special : Bool) : List Char → List Char
  | [] => if special then ['/'] else []
  | _ :: rest => pathOf special rest

/-! ### Reading -/

/-- The text before a query or fragment, the query and the fragment. -/
def splitEnd (special : Bool) (s : List Char) :
    List Char × Option (List Char) × Option (List Char) :=
  let (s, fragment) := match Text.splitOnce '#' s with
    | some (before, fragment) => (before, some (Percent.encode Percent.inFragment fragment))
    | none => (s, none)
  let queryClass := if special then Percent.inSpecialQuery else Percent.inQuery
  match Text.splitOnce '?' s with
  | some (before, query) => (before, some (Percent.encode queryClass query), fragment)
  | none => (s, none, fragment)

/-- What a text means without blanks and control characters around it and without tabs and line
breaks. -/
def clean (s : List Char) : List Char :=
  let isOuter (c : Char) : Bool := c.toNat ≤ 0x20
  let s := ((s.dropWhile isOuter).reverse.dropWhile isOuter).reverse
  s.filter fun c => !(c = '\t' || c = '\n' || c = '\r')

/-- Authority and path of a special URL. Any number of slashes may stand before the authority. -/
def parseSpecialBody (scheme : String) (s : List Char) (atEnd : Bool) :
    Except UrlError (Authority × List Char) := do
  let s := s.dropWhile fun c => c = '/' || c = '\\'
  let (text, path) := s.span fun c => !endsAuthority true c
  let authority ← parseAuthority scheme text (atEnd && path.isEmpty)
  return (authority, pathAfterAuthority true path)

/-- Authority and path of a file. -/
def parseFileBody (s : List Char) : Except UrlError (Authority × List Char) := do
  match s.map fun c => if c = '\\' then '/' else c with
  | '/' :: '/' :: rest =>
    let (text, path) := rest.span (· ≠ '/')
    return (← parseFileHost text, pathAfterAuthority true path)
  | '/' :: rest => return ({ host := .other [] }, pathOf true rest)
  | s => return ({ host := .other [] }, pathOf true s)

/-- Authority and path of a URL that is not special. -/
def parseOtherBody (scheme : String) (s : List Char) (atEnd : Bool) :
    Except UrlError (Option Authority × List Char) := do
  match s with
  | '/' :: '/' :: rest =>
    let (text, path) := rest.span fun c => !endsAuthority false c
    let authority ← parseAuthority scheme text (atEnd && path.isEmpty)
    return (some authority, pathAfterAuthority false path)
  | '/' :: rest => return (none, pathOf false rest)
  | s => return (none, Percent.encode Percent.isControl s)

/-- The URL of a text. -/
def parse (s : String) : Except UrlError Url := do
  let (scheme, rest) ← splitScheme (clean s.toList)
  let (body, query, fragment) := splitEnd (isSpecial scheme) rest
  let atEnd := query.isNone && fragment.isNone
  if scheme = "file" then
    let (authority, path) ← parseFileBody body
    return { scheme, authority := some authority, path, query, fragment }
  else if isSpecial scheme then
    let (authority, path) ← parseSpecialBody scheme body atEnd
    return { scheme, authority := some authority, path, query, fragment }
  else
    let (authority, path) ← parseOtherBody scheme body atEnd
    return { scheme, authority, path, query, fragment }

instance builtinReader : Reader where
  scheme s := ((parse s).map (·.scheme)).mapError UrlError.message

/-! ### Writing -/

/-- What separates a scheme from a path. A path must not look like an authority. -/
def bodyText (authority : Option Authority) (path : List Char) : List Char :=
  match authority with
  | some a => '/' :: '/' :: a.text ++ path
  | none => if ['/', '/'].isPrefixOf path then '/' :: '.' :: path else path

def text (u : Url) : String :=
  String.ofList <|
    u.scheme.toList ++ ':' :: bodyText u.authority u.path
      ++ (match u.query with
        | some q => '?' :: q
        | none => [])
      ++ (match u.fragment with
        | some f => '#' :: f
        | none => [])

/-- Whether the URL names a host. -/
def hasHost (u : Url) : Bool :=
  match u.authority with
  | some a => !a.host.text.isEmpty
  | none => false

end Url

end HttpResource
