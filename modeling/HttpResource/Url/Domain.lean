/-
# Domain names

Names of hosts in any script. Letters lose their case, full-width forms and dots become the plain ones,
and a label that is not ASCII is written in its ASCII form. There is no normalization of characters that
are written in several ways, and no rule for scripts that are written from right to left.

* `Domain.parse?`: the ASCII form of a name, or nothing where the name is not allowed.
-/
import HttpResource.Text.Case
import HttpResource.Text.Utf8
import HttpResource.Text.Split
import HttpResource.Text.Visible
import HttpResource.Url.Percent
import HttpResource.Url.Punycode

namespace HttpResource

namespace Domain

/-- Characters that a name may contain and that mean nothing in it. -/
def ignoredRanges : Text.Ranges := [
  (0xad, 0xad), (0x34f, 0x34f), (0x180b, 0x180d), (0x180f, 0x180f), (0x200b, 0x200b),
  (0x2060, 0x2060), (0x2064, 0x2064), (0xfe00, 0xfe0f), (0xfeff, 0xfeff), (0x1bca0, 0x1bca3),
  (0xe0100, 0xe01ef)]

/-- Visible characters that no name may contain, most of them because they stand for characters that
separate the parts of a URL. -/
def refusedRanges : Text.Ranges := [
  (0xa8, 0xa8), (0xaf, 0xaf), (0xb4, 0xb4), (0xb8, 0xb8), (0x2d8, 0x2dd), (0x37a, 0x37a),
  (0x384, 0x385), (0x1fbd, 0x1fbd), (0x1fbf, 0x1fc1), (0x1fcd, 0x1fcf), (0x1fdd, 0x1fdf),
  (0x1fed, 0x1fee), (0x1ffd, 0x1ffe), (0x2017, 0x2017), (0x2024, 0x2026), (0x203e, 0x203e),
  (0x2047, 0x2049), (0x2100, 0x2101), (0x2105, 0x2106), (0x2488, 0x249b), (0x2a74, 0x2a74),
  (0x2ff0, 0x2fff), (0x309b, 0x309c), (0x31ef, 0x31ef), (0x33c2, 0x33c2), (0x33c7, 0x33c7),
  (0x33d8, 0x33d8), (0xfc5e, 0xfc63), (0xfdfa, 0xfdfb), (0xfe12, 0xfe13), (0xfe16, 0xfe16),
  (0xfe19, 0xfe19), (0xfe30, 0xfe30), (0xfe47, 0xfe4c), (0xfe52, 0xfe52), (0xfe55, 0xfe56),
  (0xfe5f, 0xfe5f), (0xfe64, 0xfe65), (0xfe68, 0xfe68), (0xfe6a, 0xfe6b), (0xfe70, 0xfe70),
  (0xfe72, 0xfe72), (0xfe74, 0xfe74), (0xfe76, 0xfe76), (0xfe78, 0xfe78), (0xfe7a, 0xfe7a),
  (0xfe7c, 0xfe7c), (0xfe7e, 0xfe7e), (0xff03, 0xff03), (0xff05, 0xff05), (0xff0f, 0xff0f),
  (0xff1a, 0xff1a), (0xff1c, 0xff1c), (0xff1e, 0xff20), (0xff3b, 0xff3e), (0xff5c, 0xff5c),
  (0xffe3, 0xffe3), (0xfffc, 0xfffd), (0x1f100, 0x1f100), (0x2f868, 0x2f868), (0x2f874, 0x2f874),
  (0x2f91f, 0x2f91f), (0x2f95f, 0x2f95f), (0x2f9bf, 0x2f9bf)]

/-- What a character counts as. -/
def fold (c : Char) : List Char :=
  if c.toNat < 0x80 then [c.toLower]
  else if ignoredRanges.holds c then []
  else if [0x3002, 0xff0e, 0xff61].contains c.toNat then ['.']
  else if 0xff01 ≤ c.toNat && c.toNat ≤ 0xff5e && !refusedRanges.holds c then
    [(Char.ofNat (c.toNat - 0xfee0)).toLower]
  else Text.lowerChar c

/-- Whether a character may be in a name, once it has been folded. -/
def isAllowed (c : Char) : Bool :=
  if c.toNat < 0x80 then
    !Percent.isControl c && !" #/:<>?@[\\]^|%".toList.contains c
  else !Text.isHidden c && !refusedRanges.holds c

/-- What starts the ASCII form of a label. -/
def asciiMark : List Char := ['x', 'n', '-', '-']

/-- Whether a label is well formed: it does not start with a character that extends the one before. -/
def isLabel (label : List Char) : Bool :=
  label.all isAllowed && !(label.head?.any Text.extendingRanges.holds)

/-- Whether a label is what an ASCII form may stand for. -/
def isDecodedLabel (label : List Char) : Bool :=
  isLabel label && label.any (!Punycode.isBasic ·) && label.all fun c => fold c = [c]

/-- The ASCII form of a folded label. -/
def asciiLabel? (label : List Char) : Option (List Char) :=
  if !isLabel label then none
  else if asciiMark.isPrefixOf label then
    match Punycode.decode? (label.drop asciiMark.length) with
    | some decoded => if isDecodedLabel decoded then some label else none
    | none => none
  else if label.all Punycode.isBasic then some label
  else some (asciiMark ++ Punycode.encode label)

/-- The ASCII form of a name. -/
def parse? (s : List Char) : Option (List Char) := do
  let labels ← (Text.splitAll '.' (s.flatMap fold)).mapM asciiLabel?
  return (labels.intersperse ['.']).flatten

end Domain

end HttpResource
