import OAuthClient.Digest.Block

/-!
# DER elements

Reading of the distinguished encoding of ASN.1: elements with a tag of one byte and a definite
length in its shortest form.
-/

namespace OAuthClient.Asn1

/-- One element: its tag and its content. -/
structure Element where
  /-- The tag byte. -/
  tag : Nat
  content : Bytes

namespace Tag

/-- The tag of an integer. -/
def integer : Nat := 0x02

/-- The tag of a bit string. -/
def bitString : Nat := 0x03

/-- The tag of an octet string. -/
def octetString : Nat := 0x04

/-- The tag of an object identifier. -/
def identifier : Nat := 0x06

/-- The tag of a time in short form. -/
def shortTime : Nat := 0x17

/-- The tag of a time in general form. -/
def generalTime : Nat := 0x18

/-- The tag of a sequence. -/
def sequence : Nat := 0x30

/-- The tag of a constructed element of the context. -/
def context (n : Nat) : Nat := 0xa0 + n

end Tag

/-- The length that comes first and the bytes after it. -/
def readLength : Bytes → Option (Nat × Bytes)
  | [] => none
  | first :: rest =>
      if first.toNat < 0x80 then some (first.toNat, rest)
      else
        let count := first.toNat - 0x80
        let size := Digest.ofBigEndian (rest.take count)
        if 1 ≤ count ∧ count ≤ 4 ∧ count ≤ rest.length ∧ 0x80 ≤ size ∧
            Nat.pow 256 (count - 1) ≤ size then
          some (size, rest.drop count)
        else none

/-- The element that comes first and the bytes after it. -/
def readElement : Bytes → Option (Element × Bytes)
  | [] => none
  | tag :: rest => do
      let (size, rest) ← readLength rest
      if tag.toNat % 0x20 ≠ 0x1f ∧ size ≤ rest.length then
        some ({ tag := tag.toNat, content := rest.take size }, rest.drop size)
      else none

/-- The elements that make up a content, at most `fuel` of them. -/
def readElements : Nat → Bytes → Option (List Element)
  | _, [] => some []
  | 0, _ => none
  | fuel + 1, bytes => do
      let (element, rest) ← readElement bytes
      let elements ← readElements fuel rest
      some (element :: elements)

/-- The elements that make up a content. Each takes two bytes at least, so the length is enough
fuel. -/
def elementsOf (bytes : Bytes) : Option (List Element) := readElements bytes.length bytes

/-- The one element that a byte sequence holds, if it has a tag. -/
def only (tag : Nat) (bytes : Bytes) : Option Bytes :=
  match readElement bytes with
  | some (element, []) => if element.tag = tag then some element.content else none
  | _ => none

/-- The parts of a sequence that fills a byte sequence. -/
def sequenceOf (bytes : Bytes) : Option (List Element) := do
  let content ← only Tag.sequence bytes
  elementsOf content

/-- The parts of an element with a tag. -/
def Element.parts (tag : Nat) (element : Element) : Option (List Element) :=
  if element.tag = tag then elementsOf element.content else none

/-- The content of an element with a tag. -/
def Element.contentOf (tag : Nat) (element : Element) : Option Bytes :=
  if element.tag = tag then some element.content else none

/-- The number in an integer element; a sign bit or a superfluous zero is refused. -/
def Element.natural (element : Element) : Option Nat :=
  if element.tag ≠ Tag.integer then none
  else match element.content with
    | [] => none
    | [b] => if b.toNat < 0x80 then some b.toNat else none
    | a :: b :: rest =>
        if 0x80 ≤ a.toNat ∨ (a = 0 ∧ b.toNat < 0x80) then none
        else some (Digest.ofBigEndian (a :: b :: rest))

end OAuthClient.Asn1
