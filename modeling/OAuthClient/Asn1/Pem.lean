import OAuthClient.Text.Base64Url
import OAuthClient.Text.Blank

/-!
# Armoured text

Labelled blocks of base64 between a beginning and an ending line, with any text around them.
-/

namespace OAuthClient.Asn1

/-- A labelled block. -/
structure Block where
  /-- The label in both lines. -/
  label : String
  /-- The bytes of the block. -/
  content : Bytes
  /-- Whether header lines precede the bytes, as in an encrypted block. -/
  hasHeaders : Bool

/-- The label of a line that begins or ends a block. -/
def labelOf (word : String) (line : List Char) : Option (List Char) :=
  let opening := ("-----" ++ word ++ " ").toList
  let closing := "-----".toList
  let rest := line.drop opening.length
  if opening.isPrefixOf line && closing.isSuffixOf rest then
    some (rest.take (rest.length - closing.length))
  else none

/-- The bytes of padded base64. -/
def decodeBase64 (text : List Char) : Option Bytes :=
  let body := (text.reverse.dropWhile (· == '=')).reverse
  let inAlphabet (c : Char) := (Text.Base64Url.value? c).isSome && c != '-' && c != '_'
  if text.length % 4 = 0 ∧ text.length - body.length ≤ 2 ∧ body.all inAlphabet then
    Text.Base64Url.decodePadded? body
  else none

/-- The lines up to the one that ends a block, and the lines after it. -/
def untilEnd (label : List Char) : List (List Char) → Option (List (List Char) × List (List Char))
  | [] => none
  | line :: rest =>
      if labelOf "END" line == some label then some ([], rest)
      else (untilEnd label rest).map fun (inside, after) => (line :: inside, after)

/-- The blocks in a list of lines, at most `fuel` of them. -/
def blocksIn : Nat → List (List Char) → Option (List Block)
  | 0, _ => some []
  | _, [] => some []
  | fuel + 1, line :: rest =>
      match labelOf "BEGIN" line with
      | none => blocksIn fuel rest
      | some label => do
          let (inside, after) ← untilEnd label rest
          let isHeader (line : List Char) := line.contains ':'
          let body := (inside.filter (!isHeader ·)).flatten
          let content ← decodeBase64 (body.filter (!Text.isBlank ·))
          let blocks ← blocksIn fuel after
          some ({ label := String.ofList label, content, hasHeaders := inside.any isHeader }
            :: blocks)

/-- The blocks of an armoured text. -/
def blocksOf (text : String) : Option (List Block) :=
  let lines := (Text.splitOn (· == '\n') text.toList).map Text.trim
  blocksIn lines.length lines

/-- The first block of an armoured text whose label is one of those given. -/
def findBlock (labels : List String) (text : String) : Option Block := do
  (← blocksOf text).find? fun block => labels.contains block.label

end OAuthClient.Asn1
