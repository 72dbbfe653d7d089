import RecordSmith.Files.Path
import RecordSmith.Loading.Address

/-!
# URLs

The parts of a URL that matter for loading: its scheme, its authority and its path.  A path of a
file is read in the same way, so that characters with a meaning in URLs end it.
-/

namespace RecordSmith

/-- A URL without its query and fragment. -/
structure Url where
  scheme : Text
  authority : Text
  path : Text
  deriving Repr, DecidableEq

/-- Why a text is no URL. -/
inductive UrlError where
  | unbalancedBrackets
  | invalidAddress
  /-- A character of the authority that looks like a delimiter. -/
  | disguisedDelimiter
  deriving Repr, DecidableEq

namespace Url

/-- A control character or space, which is dropped at the start. -/
def isLeadingJunk (c : CodePoint) : Bool := c ≤ 0x20

/-- A tab or line ending, which is dropped anywhere. -/
def isJunk (c : CodePoint) : Bool := c == 0x09 || c == 0x0A || c == 0x0D

/-- The text without what is dropped. -/
def clean (t : Text) : Text := (t.dropWhile isLeadingJunk).filter fun c => !isJunk c

/-- An ASCII letter. -/
def isLetter (c : CodePoint) : Bool := Text.isAsciiUpper c || Text.isAsciiLower c

/-- A character of a scheme. -/
def isSchemeCharacter (c : CodePoint) : Bool :=
  isLetter c || Text.isAsciiDigit c || c == 0x2B || c == 0x2D || c == 0x2E

/-- The small letter of an ASCII capital; other characters are kept. -/
def lowerAscii (c : CodePoint) : CodePoint := if Text.isAsciiUpper c then c + 0x20 else c

/-- The text before the first colon is a scheme. -/
def isScheme (t : Text) : Bool := (t.head?.any isLetter) && t.all isSchemeCharacter

/-- The scheme and what follows it. -/
def splitScheme (t : Text) : Text × Text :=
  match Text.splitFirst? 0x3A t with
  | some (scheme, rest) => if isScheme scheme then (scheme.map lowerAscii, rest) else ([], t)
  | none => ([], t)

/-- A character behind an authority. -/
def endsAuthority (c : CodePoint) : Bool := c == 0x2F || c == 0x3F || c == 0x23

/-- The authority behind two slashes and what follows it. -/
def splitAuthority (t : Text) : Text × Text :=
  match Text.dropStart? "//" t with
  | some rest =>
    (rest.takeWhile fun c => !endsAuthority c, rest.dropWhile fun c => !endsAuthority c)
  | none => ([], t)

/-- The text between the first opening bracket and the closing one behind it. -/
def bracketed (authority : Text) : Text :=
  ((authority.dropWhile (· != '['.toNat)).drop 1).takeWhile (· != ']'.toNat)

/-- Characters that become delimiters when a text is normalized. -/
def disguisedDelimiters : List CodePoint :=
  [0x2047, 0x2048, 0x2049, 0x2100, 0x2101, 0x2105, 0x2106, 0x2A74, 0xFE13, 0xFE16, 0xFE55, 0xFE56,
    0xFE5F, 0xFE6B, 0xFF03, 0xFF0F, 0xFF1A, 0xFF1F, 0xFF20]

/-- Refuses an authority that no URL can have. -/
def checkAuthority (authority : Text) : Except UrlError Unit :=
  let opened := authority.contains '['.toNat
  let closed := authority.contains ']'.toNat
  if opened != closed then .error .unbalancedBrackets
  else if opened && !Address.isAddress (bracketed authority) then .error .invalidAddress
  else if authority.any disguisedDelimiters.contains then .error .disguisedDelimiter
  else .ok ()

/-- The schemes whose paths can have parameters. -/
def schemesWithParameters : List Text :=
  ["", "ftp", "hdl", "prospero", "http", "imap", "https", "shttp", "rtsp", "rtsps", "rtspu", "sip",
    "sips", "mms", "sftp", "tel"]

/-- The path without the parameters behind a semicolon in its last segment. -/
def withoutParameters (path : Text) : Text :=
  match Text.splitLast? Path.separator path with
  | some (before, last) => before ++ [Path.separator] ++ last.takeWhile (· != 0x3B)
  | none => path.takeWhile (· != 0x3B)

/-- Reads a URL. -/
def ofText (t : Text) : Except UrlError Url := do
  let (scheme, rest) := splitScheme (clean t)
  let (authority, rest) := splitAuthority rest
  checkAuthority authority
  let path := rest.takeWhile fun c => c != 0x3F && c != 0x23
  return {
    scheme, authority
    path := if schemesWithParameters.contains scheme then withoutParameters path else path }

end Url

end RecordSmith
