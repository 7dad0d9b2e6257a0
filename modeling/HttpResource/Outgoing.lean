/-
# Outgoing requests

Before a request goes out its method, address and headers are checked, in that order.

* `Outgoing.check`: the address that a request goes to, or what is wrong with the request.
* `Outgoing.unreachable`: the failure of a request whose host cannot be reached.
-/
import HttpResource.Header
import HttpResource.Transport
import HttpResource.Url

namespace HttpResource

namespace Outgoing

/-- A request that cannot be built, and the address if there is one. -/
def unbuildable (url : Option Url) : TransportError :=
  .invalidRequest (match url with
    | some url => s!"builder error for url ({url.text})"
    | none => "builder error")

/-- The address without user name and password, which are sent as a header. -/
def withoutCredentials (url : Url) : Url :=
  { url with authority := url.authority.map fun a => { a with credentials := {} } }

/-- Whether all headers can be sent. -/
def headersAreValid (headers : Headers) : Bool :=
  headers.entries.all fun (name, values) =>
    values.all fun value => Header.isName name && Header.isValue value

/-- Whether the address is one to send to. -/
def isSendable (url : Url) : Bool :=
  (url.scheme = "http" || url.scheme = "https")
    && url.authority.all fun a => !a.host.text.any fun c => "\"`\x7b\x7d".toList.contains c

/-- The address that a request goes to. -/
def check (request : RequestDetails) : Except TransportError Url :=
  if !Header.isToken (request.method.map Char.toUpper) then
    .error (.invalidRequest s!"method {request.method}: invalid HTTP method")
  else
    match Url.parse request.url with
    | .error _ => .error (unbuildable none)
    | .ok url =>
      if !url.hasHost then .error (unbuildable (some url))
      else if !headersAreValid request.headers then .error (unbuildable none)
      else if !isSendable url then .error (unbuildable (some (withoutCredentials url)))
      else .ok (withoutCredentials url)

/-- The failure to connect to a host. -/
def unreachable (url : Url) : TransportError :=
  .failed s!"error sending request for url ({url.text})"

end Outgoing

end HttpResource
