import OAuthClient.Text.HostAddress

/-!
# Parts of a URL

Finds the query and the fragment of a URL. Controls and spaces before the URL and tabs and line
breaks anywhere in it are ignored. A URL is refused when the brackets of its authority do not hold
a host address or when a character of the authority is equivalent to one that delimits parts.
-/

namespace OAuthClient.Text.Url

/-- What a redirect can carry values in. -/
structure Parts where
  /-- The text between the first question mark and the fragment. -/
  query : List Char
  /-- The text after the first number sign. -/
  fragment : List Char

/-- The characters of a scheme. -/
def isSchemeChar (c : Char) : Bool :=
  ('a' ≤ c && c ≤ 'z') || ('A' ≤ c && c ≤ 'Z') || isAsciiDigit c ||
    c == '+' || c == '-' || c == '.'

/-- Whether a character is an ASCII letter. -/
def isAsciiLetter (c : Char) : Bool := ('a' ≤ c && c ≤ 'z') || ('A' ≤ c && c ≤ 'Z')

/-- The code points whose compatibility form holds a character that delimits parts of a URL. -/
def delimiterEquivalents : List Nat :=
  [0x2047, 0x2048, 0x2049, 0x2100, 0x2101, 0x2105, 0x2106, 0x2a74, 0xfe13, 0xfe16, 0xfe55, 0xfe56,
    0xfe5f, 0xfe6b, 0xff03, 0xff0f, 0xff1a, 0xff1f, 0xff20]

/-- The host and the port in an authority: what follows its last at sign. -/
def hostAndPort (authority : List Char) : List Char :=
  (authority.reverse.takeWhile (· != '@')).reverse

/-- Whether a host with its port is one that may stand in brackets. Brackets that are there hold the
whole host, and only a port follows them. -/
def isBracketable (host : List Char) : Bool :=
  match cutFirst (· == '[') host with
  | none => HostAddress.isBracketed (host.takeWhile (· != ':'))
  | some ([], inside) =>
      let (address, port) := (cutFirst (· == ']') inside).getD (inside, [])
      HostAddress.isBracketed address && port.head?.all (· == ':')
  | some _ => false

/-- Whether an authority has no brackets, or brackets of both kinds and a host that may stand in
them. -/
def hasSoundBrackets (authority : List Char) : Bool :=
  match authority.contains '[', authority.contains ']' with
  | false, false => true
  | true, true => isBracketable (hostAndPort authority)
  | _, _ => false

/-- Whether an authority may stand in a URL. -/
def isSoundAuthority (authority : List Char) : Bool :=
  hasSoundBrackets authority && authority.all fun c => !delimiterEquivalents.contains c.toNat

/-- The URL without what its reading ignores. -/
def significant (url : List Char) : List Char :=
  (url.dropWhile fun c => c.toNat ≤ 0x20).filter fun c => c != '\t' && c != '\r' && c != '\n'

/-- What follows the scheme and its colon, or the whole when there is no scheme. -/
def afterScheme (url : List Char) : List Char :=
  match cutFirst (· == ':') url with
  | some (first :: more, rest) =>
      if isAsciiLetter first && more.all isSchemeChar then rest else url
  | _ => url

/-- The authority, which two slashes announce, and what follows it. -/
def cutAuthority : List Char → List Char × List Char
  | '/' :: '/' :: rest =>
      let inside (c : Char) := c != '/' && c != '?' && c != '#'
      (rest.takeWhile inside, rest.dropWhile inside)
  | url => ([], url)

/-- The parts of a URL, or nothing when it is refused. -/
def split? (url : List Char) : Option Parts :=
  let (authority, rest) := cutAuthority (afterScheme (significant url))
  if isSoundAuthority authority then
    let (beforeFragment, fragment) := (cutFirst (· == '#') rest).getD (rest, [])
    let (_, query) := (cutFirst (· == '?') beforeFragment).getD (beforeFragment, [])
    some { query, fragment }
  else none

end OAuthClient.Text.Url
