/-
# Powers

The powers that bound words and scale numbers.

* `twoTo`, `tenTo`.
-/
namespace HttpResource

/-- A power of two. -/
def twoTo (k : Nat) : Nat := Nat.pow 2 k

/-- A power of ten. -/
def tenTo (k : Nat) : Nat := Nat.pow 10 k

end HttpResource
