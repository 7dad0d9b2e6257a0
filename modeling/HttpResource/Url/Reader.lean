/-
# Readers of addresses

All that requests need to know of an address is its scheme.

* `Url.Reader`: what a reader of addresses does.
-/
namespace HttpResource

namespace Url

/-- A reader of addresses. -/
class Reader where
  /-- The scheme of an absolute address in small letters, or what is wrong with the text. -/
  scheme (text : String) : Except String String

end Url

end HttpResource
