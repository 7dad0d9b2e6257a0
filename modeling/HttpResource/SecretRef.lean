/-
# Secret references

A template names a secret as `secret.NAME.KEY` or `secret.NAMESPACE/NAME.KEY` at the start of an
expression, perhaps with filters after it. Before a template is rendered every reference is rewritten
into the look-up of an alias, so that the value of a secret is never part of a template's text.

* `SecretRef.parse?`: the parts of a reference.
* `Fragment.split`: a template as literal text and expressions.
* `SecretRef.extract`: the rewritten template and the references in it.
-/
import HttpResource.Text.Blank
import HttpResource.Text.Split

namespace HttpResource

/-- A key of a secret; a secret without a namespace is one of the resource's own. -/
structure SecretRef where
  inNamespace : Option String
  name : String
  key : String
deriving DecidableEq, Repr

namespace SecretRef

/-- The name and key of `NAME.KEY`, the name without a slash. -/
def nameAndKey? (s : List Char) : Option (String × String) :=
  match Text.splitOnce '.' s with
  | none => none
  | some (name, key) =>
    if name.isEmpty || key.isEmpty || name.contains '/' then none
    else some (String.ofList name, String.ofList key)

/-- The parts of `NAME.KEY` or `NAMESPACE/NAME.KEY`. Names have no dot, so the first one starts the
key. -/
def parse? (token : List Char) : Option SecretRef :=
  match Text.splitOnce '/' token with
  | none => (nameAndKey? token).map fun (name, key) => ⟨none, name, key⟩
  | some (space, rest) =>
    if space.isEmpty || space.contains '.' then none
    else (nameAndKey? rest).map fun (name, key) => ⟨some (String.ofList space), name, key⟩

/-- A reference that has no name or no key is named by its token. -/
def invalidText (token : List Char) : String := "secret." ++ String.ofList token

end SecretRef

/-! ### Fragments of a template -/

/-- A piece of a template: an expression with the text before it, or the text at the end. -/
inductive Fragment
  /-- Text, then an expression between the delimiters. -/
  | expression (before inner : List Char)
  /-- Text, then an expression that is never closed. -/
  | unclosed (before inner : List Char)
  /-- Text without an expression. -/
  | plain (text : List Char)
deriving DecidableEq, Repr

namespace Fragment

/-- What opens an expression. -/
def opening : List Char := ['$', '\x7b']

/-- The text before the first opening and the text after it. -/
def splitOpening : List Char → Option (List Char × List Char)
  | [] => none
  | '$' :: '\x7b' :: rest => some ([], rest)
  | c :: rest => (splitOpening rest).map fun (a, b) => (c :: a, b)

/-- The fragments of a text. Each of them but the last takes at least two characters. -/
def splitFrom : Nat → List Char → List Fragment
  | 0, s => [.plain s]
  | fuel + 1, s =>
    match splitOpening s with
    | none => [.plain s]
    | some (before, after) =>
      match Text.splitOnce '\x7d' after with
      | none => [.unclosed before after]
      | some (inner, rest) => .expression before inner :: splitFrom fuel rest

def split (s : List Char) : List Fragment := splitFrom s.length s

/-- The text of a fragment. -/
def text : Fragment → List Char
  | expression before inner => before ++ opening ++ inner ++ ['\x7d']
  | unclosed before inner => before ++ opening ++ inner
  | plain s => s

end Fragment

namespace SecretRef

/-- The word that starts a reference. -/
def marker : List Char := ['s', 'e', 'c', 'r', 'e', 't', '.']

/-- The alias of the reference at an index. -/
def aliasOf (index : Nat) : String := "secret_" ++ toString index

/-- Whether an expression after this text is escaped, being preceded by one more dollar sign. -/
def isEscaped (before : List Char) : Bool := before.getLast? = some '$'

/-- The reference token of an expression and the filters after it, if it is a reference. -/
def tokenOf? (inner : List Char) : Option (List Char × List Char) :=
  let trimmed := Text.trimStart inner
  if marker.isPrefixOf trimmed then
    some ((trimmed.drop marker.length).span fun c => !(Text.isBlank c || c = '|'))
  else none

/-- The look-up that takes the place of a reference. -/
def lookupText (index : Nat) (filters : List Char) : List Char :=
  " secrets.".toList ++ (aliasOf index).toList ++ filters
    ++ (match filters.getLast? with
      | some c => if Text.isBlank c then [] else [' ']
      | none => [' '])

/-- The index of a reference among those found, which it joins if it is new. -/
def indexIn (refs : List SecretRef) (r : SecretRef) : Nat × List SecretRef :=
  match refs.idxOf? r with
  | some i => (i, refs)
  | none => (refs.length, refs ++ [r])

/-- The fragment with its reference rewritten, and the references found so far. An escaped expression
and one that is no reference stay as they are; a malformed reference is named. -/
def rewriteFragment (refs : List SecretRef) (f : Fragment) :
    Except String (List Char × List SecretRef) :=
  match f with
  | .expression before inner =>
    if isEscaped before then .ok (f.text, refs)
    else
      match tokenOf? inner with
      | none => .ok (f.text, refs)
      | some (token, filters) =>
        match parse? token with
        | none => .error (invalidText token)
        | some r =>
          let (i, refs) := indexIn refs r
          .ok (before ++ Fragment.opening ++ lookupText i filters ++ ['\x7d'], refs)
  | _ => .ok (f.text, refs)

/-- Rewrites fragments from left to right. -/
def rewriteAll (refs : List SecretRef) : List Fragment → Except String (List Char × List SecretRef)
  | [] => .ok ([], refs)
  | f :: rest =>
    match rewriteFragment refs f with
    | .error e => .error e
    | .ok (s, refs) => (rewriteAll refs rest).map fun (t, refs) => (s ++ t, refs)

/-- The template with every reference rewritten, and the references in the order of their aliases;
or the text of the first malformed one. -/
def extract (template : String) : Except String (String × List SecretRef) :=
  (rewriteAll [] (Fragment.split template.toList)).map fun (s, refs) => (String.ofList s, refs)

end SecretRef

end HttpResource
