import OAuthClient.Text.Blank
import OAuthClient.Text.Digit

/-!
# Bracketed host addresses

Which texts may stand between brackets as the host of a URL: an IPv6 address, with a zone if need
be, or an address of a later version.
-/

namespace OAuthClient.Text.HostAddress

/-- A decimal octet without leading zeros. -/
def isOctet (text : List Char) : Bool :=
  !text.isEmpty && text.length ≤ 3 && text.all isAsciiDigit &&
    (text.length == 1 || text.head? != some '0') && natOfDigits text ≤ 255

/-- A dotted address of four octets. -/
def isV4 (text : List Char) : Bool :=
  let octets := splitOn (· == '.') text
  octets.length == 4 && octets.all isOctet

/-- A group of at most four hexadecimal digits. -/
def isHextet (text : List Char) : Bool :=
  !text.isEmpty && text.length ≤ 4 && text.all (hexValue? · |>.isSome)

/-- Whether the parts between colons form an address of eight groups, of which one empty inner
part may stand for any positive number. An empty part at an end is allowed only beside it. -/
def areV6Parts (parts : List (List Char)) : Bool :=
  let inner := (parts.drop 1).dropLast
  match (inner.filter (·.isEmpty)).length with
  | 0 => parts.length == 8 && parts.all isHextet
  | 1 =>
      let high := parts.take (1 + (inner.takeWhile (!·.isEmpty)).length)
      let low := parts.drop (high.length + 1)
      let high := if high.head? == some [] then high.drop 1 else high
      let low := if low.getLast? == some [] then low.dropLast else low
      let headOk := parts.head? != some [] || high.isEmpty
      let tailOk := parts.getLast? != some [] || low.isEmpty
      headOk && tailOk && high.length + low.length < 8 && (high ++ low).all isHextet
  | _ => false

/-- An IPv6 address without a zone; its last two groups may be a dotted address. -/
def isV6Body (text : List Char) : Bool :=
  let parts := splitOn (· == ':') text
  let last := parts.getLast?.getD []
  let dotted := last.contains '.'
  let grouped := if dotted then parts.dropLast ++ [['0'], ['0']] else parts
  3 ≤ parts.length && (!dotted || isV4 last) && grouped.length ≤ 9 && areV6Parts grouped

/-- An IPv6 address; a zone follows one percent sign and is not empty. -/
def isV6 (text : List Char) : Bool :=
  match cutFirst (· == '%') text with
  | none => isV6Body text
  | some (address, zone) => !zone.isEmpty && !zone.contains '%' && isV6Body address

/-- An address of a later version: `v`, hexadecimal digits, a dot and some text. -/
def isLaterVersion : List Char → Bool
  | 'v' :: rest =>
      match cutFirst (· == '.') rest with
      | some (version, address) =>
          !version.isEmpty && version.all (hexValue? · |>.isSome) && !address.isEmpty
      | none => false
  | _ => false

/-- Whether a text may stand between brackets as a host. -/
def isBracketed (text : List Char) : Bool :=
  if text.head? == some 'v' then isLaterVersion text else isV6 text

end OAuthClient.Text.HostAddress
