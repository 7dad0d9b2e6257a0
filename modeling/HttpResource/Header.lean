/-
# Headers

* `Header.canonicalName`: the spelling of a header name.
* `Header.collect`: received headers by their canonical names.
* `Header.isName`, `Header.isValue`: what a request may send.
-/
import HttpResource.Exchange
import HttpResource.Text.Utf8

namespace HttpResource

namespace Header

/-- Characters of methods and header names. -/
def isTokenChar (c : Char) : Bool := c.isAlphanum || "!#$%&'*+-.^_`|~".toList.contains c

/-- Whether a text is a method or a header name. -/
def isToken (s : String) : Bool := !s.isEmpty && s.toList.all isTokenChar

/-- The number of characters that a header name has at most. -/
def nameLimit : Nat := 65535

def isName (s : String) : Bool := isToken s && s.length ≤ nameLimit

/-- Whether a text can be sent as a value: no control characters but the tab. -/
def isValue (s : String) : Bool :=
  s.toList.all fun c => c = '\t' || (0x20 ≤ c.toNat && c.toNat ≠ 0x7f)

/-- Letters, digits and hyphens. -/
def isPlain (c : Char) : Bool := c.isAlphanum || c = '-'

/-- Words between hyphens with a capital letter first. -/
def capitalize (first : Bool) : List Char → List Char
  | [] => []
  | c :: rest => (if first then c.toUpper else c.toLower) :: capitalize (c = '-') rest

/-- The spelling of a name. One with unusual characters stays as it is. -/
def canonicalName (name : String) : String :=
  if name.toList.all isPlain then String.ofList (capitalize true name.toList) else name

/-- A table with one more value of a name, given in bytes. -/
def add (t : Headers) (header : String × List UInt8) : Headers :=
  let name := canonicalName header.1
  t.insert name ((t.get? name).getD [] ++ [Text.lossy header.2])

/-- The values of received headers by canonical name, in the order of their arrival. -/
def collect (received : List (String × List UInt8)) : Headers := received.foldl add .empty

end Header

end HttpResource
