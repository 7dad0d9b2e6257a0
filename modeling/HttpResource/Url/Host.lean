/-
# Hosts

The host of a URL: a domain name, an address, or, for schemes that say nothing of hosts, any text.

* `Host.parse`: the host of a text.
* `Host.text`: the host as a URL shows it.
-/
import HttpResource.Url.Address
import HttpResource.Url.Domain

namespace HttpResource

/-- Why a text is no URL. -/
inductive UrlError
  | relative
  | emptyHost
  | badPort
  | badDomain
  | badAddress4
  | badAddress6
  | badHostCharacter
deriving DecidableEq, Repr

def UrlError.message : UrlError → String
  | relative => "relative URL without a base"
  | emptyHost => "empty host"
  | badPort => "invalid port number"
  | badDomain => "invalid international domain name"
  | badAddress4 => "invalid IPv4 address"
  | badAddress6 => "invalid IPv6 address"
  | badHostCharacter => "invalid domain character"

inductive Host
  | domain (name : List Char)
  | address4 (a : Address4)
  | address6 (a : Address6)
  /-- A host of any form, which may be empty. -/
  | other (text : List Char)
deriving DecidableEq, Repr

namespace Host

def text : Host → List Char
  | domain name => name
  | address4 a => a.text.toList
  | address6 a => '[' :: a.text.toList ++ [']']
  | other s => s

/-- The address between brackets. -/
def parseBracketed (s : List Char) : Except UrlError Host :=
  if s.getLast? = some ']' then
    match Address6.parse? (s.drop 1).dropLast with
    | some a => .ok (address6 a)
    | none => .error .badAddress6
  else .error .badAddress6

/-- The host that a name in ASCII means. -/
def ofName (name : List Char) : Except UrlError Host :=
  if name.isEmpty then .error .emptyHost
  else if Address4.endsInNumber name then
    match Address4.parse? name with
    | some a => .ok (address4 a)
    | none => .error .badAddress4
  else .ok (domain name)

/-- The host of a special URL. -/
def parseSpecial (s : List Char) : Except UrlError Host :=
  if s.head? = some '[' then parseBracketed s
  else
    match (Text.ofBytes? (Percent.decode s)).bind fun t => Domain.parse? t.toList with
    | some name => ofName name
    | none => .error .badDomain

/-- Characters that no host may have. -/
def isForbidden (c : Char) : Bool := "\x00\t\n\r #/:<>?@[\\]^|".toList.contains c

/-- The host of a URL that is not special. -/
def parseOther (s : List Char) : Except UrlError Host :=
  if s.head? = some '[' then parseBracketed s
  else if s.any isForbidden then .error .badHostCharacter
  else .ok (other (Percent.encode Percent.isControl s))

def parse (special : Bool) (s : List Char) : Except UrlError Host :=
  if special then parseSpecial s else parseOther s

end Host

end HttpResource
