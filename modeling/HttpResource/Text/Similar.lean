/-
# Similar words

The similarity of two words is high where most characters of each are found in the other one, near
their own place and in the same order.

* `Similarity.of`: the similarity, a rational number.
* `mostSimilar?`: the best of some words, if it is similar enough to be meant.
-/
namespace HttpResource

namespace Text

/-- A rational number from zero to one. -/
structure Similarity where
  num : Nat
  den : Nat
deriving DecidableEq, Repr

namespace Similarity

def zero : Similarity := ⟨0, 1⟩

def one : Similarity := ⟨1, 1⟩

def lt (x y : Similarity) : Bool := x.num * y.den < y.num * x.den

/-- The place of the first character of its kind that lies in a window and is not yet taken. -/
def findIn (low high : Nat) (taken : List Nat) (c : Char) (s : List Char) : Option Nat :=
  ((s.zipIdx.find? fun (d, j) => low ≤ j && j ≤ high && d = c && !taken.contains j)).map (·.2)

/-- The characters of a word that have a partner in the other one, and the places of the partners. -/
def matchFrom (range : Nat) (other : List Char) (taken : List Nat) :
    Nat → List Char → List Char × List Nat
  | _, [] => ([], taken)
  | i, c :: rest =>
    match findIn (i - range) (i + range) taken c other with
    | some j =>
      let (found, taken) := matchFrom range other (j :: taken) (i + 1) rest
      (c :: found, taken)
    | none => matchFrom range other taken (i + 1) rest

/-- The similarity of two words: the mean of the shares of partnered characters in each of them and of
the share that is in order. -/
def of (a b : List Char) : Similarity :=
  if a.isEmpty && b.isEmpty then one
  else
    let range := max a.length b.length / 2 - 1
    let (found, taken) := matchFrom range b [] 0 a
    let partners := (b.zipIdx.filter fun (_, j) => taken.contains j).map (·.1)
    let matched := found.length
    let swapped := ((found.zip partners).filter fun (c, d) => c ≠ d).length / 2
    if matched = 0 then zero
    else
      ⟨matched * matched * b.length + matched * matched * a.length
          + (matched - swapped) * a.length * b.length,
        3 * matched * a.length * b.length⟩

/-- What two words must exceed for one to be meant by the other. -/
def threshold : Similarity := ⟨7, 10⟩

end Similarity

/-- The words that a word may stand for, the most similar one last. -/
def similarWords (word : String) (words : List String) : List String :=
  let scored := words.map fun w => (Similarity.of word.toList w.toList, w)
  let close := scored.filter fun (x, _) => Similarity.threshold.lt x
  (close.mergeSort fun x y => !y.1.lt x.1).map (·.2)

def mostSimilar? (word : String) (words : List String) : Option String :=
  (similarWords word words).getLast?

end Text

end HttpResource
