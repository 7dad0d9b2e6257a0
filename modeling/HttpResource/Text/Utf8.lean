/-
# Bytes of texts

* `bytesOf`: the bytes of a text in UTF-8.
* `ofBytes?`: the text of bytes in UTF-8.
* `lossy`: the text of any bytes, with marks where they are no UTF-8.
* `byteLength`: how many bytes a text takes.
-/
namespace HttpResource

namespace Text

def bytesOf (s : String) : List UInt8 := s.toUTF8.toList

def ofBytes? (bytes : List UInt8) : Option String := String.fromUTF8? ⟨bytes.toArray⟩

/-- What stands for bytes that are no character. -/
def replacement : Char := Char.ofNat 0xfffd

/-- Whether a byte can be the third or fourth one of a character. -/
def isContinuation (b : UInt8) : Bool := 0x80 ≤ b && b ≤ 0xbf

/-- How many bytes follow the first byte of a character, and the least and the greatest second byte. -/
def following? (b : UInt8) : Option (Nat × UInt8 × UInt8) :=
  if b < 0xc2 then none
  else if b < 0xe0 then some (1, 0x80, 0xbf)
  else if b = 0xe0 then some (2, 0xa0, 0xbf)
  else if b = 0xed then some (2, 0x80, 0x9f)
  else if b < 0xf0 then some (2, 0x80, 0xbf)
  else if b = 0xf0 then some (3, 0x90, 0xbf)
  else if b < 0xf4 then some (3, 0x80, 0xbf)
  else if b = 0xf4 then some (3, 0x80, 0x8f)
  else none

/-- How many bytes one mark stands for, where there is no character: as many as a character can begin with,
and one if there is none such. -/
def brokenLength : List UInt8 → Nat
  | b :: c :: rest =>
    match following? b with
    | none => 1
    | some (n, least, greatest) =>
      if least ≤ c && c ≤ greatest then 2 + ((rest.take (n - 1)).takeWhile isContinuation).length else 1
  | bytes => bytes.length

/-- The characters of bytes after some that are left out. -/
def lossyFrom : Nat → List UInt8 → List Char
  | _, [] => []
  | skipped + 1, _ :: rest => lossyFrom skipped rest
  | 0, b :: rest =>
    match (b :: rest).toByteArray.utf8DecodeChar? 0 with
    | some c => c :: lossyFrom (c.utf8Size - 1) rest
    | none => replacement :: lossyFrom (brokenLength (b :: rest) - 1) rest

/-- The text of bytes, with marks in place of those that are no UTF-8. -/
def lossy (bytes : List UInt8) : String := String.ofList (lossyFrom 0 bytes)

/-- The number of bytes of a text in UTF-8. -/
def byteLength : List Char → Nat
  | [] => 0
  | c :: rest => c.utf8Size + byteLength rest

end Text

end HttpResource
