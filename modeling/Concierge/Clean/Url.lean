import Concierge.Clean.Host
import Concierge.Clean.Line
import Concierge.Text.Case
import Concierge.Text.Replace
import Concierge.Value.Access

/-!
# Links

A link is kept when it is relative or when its scheme is one of the allowed ones; a text without a
scheme is taken for a host and gets one. Everything else becomes the empty text. Looking for the
scheme also inspects the authority behind `//`, and a malformed authority is an error.
-/

namespace Concierge

/-- What is wrong with the authority of a link. -/
inductive UrlError where
  /-- A bracket is missing, or stands where none may. -/
  | unbalancedBrackets
  | badHost (host : String)
  | bracketedOctets
  | badFutureAddress
  /-- A character of the authority is a look-alike of one that would end it. -/
  | lookAlike (authority : String)
  deriving DecidableEq, Repr

namespace UrlError

/-- The wording of an error in a link. -/
def message : UrlError → String
  | unbalancedBrackets => "Invalid IPv6 URL"
  | badHost host => Text.quoted host ++ " does not appear to be an IPv4 or IPv6 address"
  | bracketedOctets => "An IPv4 address cannot be in brackets"
  | badFutureAddress => "IPvFuture address is invalid"
  | lookAlike authority =>
    "netloc '" ++ authority ++ "' contains invalid characters under NFKC normalization"

end UrlError

/-- Why a value cannot be cleaned. -/
inductive CleanError where
  | number (error : NumberError)
  | url (error : UrlError)
  | shape (error : ShapeError)
  deriving DecidableEq, Repr

namespace Clean

/-- An ASCII letter. -/
def isAsciiLetter (c : Char) : Bool := ('a' ≤ c && c ≤ 'z') || ('A' ≤ c && c ≤ 'Z')

/-- A character of a scheme. -/
def isSchemeChar (c : Char) : Bool :=
  isAsciiLetter c || ('0' ≤ c && c ≤ '9') || c == '+' || c == '.' || c == '-'

/-- A text that can stand as a scheme. -/
def isScheme (cs : List Char) : Bool :=
  (cs.head?.map isAsciiLetter).getD false && cs.all isSchemeChar

/-- The scheme of a link in small letters, empty when there is none, and the rest of the link. -/
def cutScheme (cs : List Char) : List Char × List Char :=
  match Text.cutAt? ':' cs with
  | some (before, after) => if isScheme before then (Text.lowered before, after) else ([], cs)
  | none => ([], cs)

/-- The code points of characters that are compatible with one of `/?#@:` or with a text that
holds one. -/
def lookAlikes : List Nat :=
  [0x2047, 0x2048, 0x2049, 0x2100, 0x2101, 0x2105, 0x2106, 0x2a74, 0xfe13, 0xfe16, 0xfe55, 0xfe56,
   0xfe5f, 0xfe6b, 0xff03, 0xff0f, 0xff1a, 0xff1f, 0xff20]

/-- Checks the host of an authority with brackets: an address of a later version, or one in
groups. -/
def checkBracketed (host : List Char) : Except UrlError Unit :=
  if host.head? = some 'v' then
    if Host.isFuture host then .ok () else .error .badFutureAddress
  else if Host.isFourOctets host then .error .bracketedOctets
  else if Host.isZonedGroups host then .ok ()
  else .error (.badHost (String.ofList host))

/-- What an authority holds behind the name of the user: the host, and perhaps a port. -/
def hostAndPort (authority : List Char) : List Char :=
  (authority.reverse.takeWhile (· != '@')).reverse

/-- The host of an authority with brackets somewhere. In brackets it is all of the host: nothing may
precede them, and only a port may follow. Without them it ends before the port. -/
def bracketed (authority : List Char) : Except UrlError (List Char) :=
  let place := hostAndPort authority
  match Text.cutAt? '[' place with
  | none => .ok (place.takeWhile (· != ':'))
  | some (_ :: _, _) => .error .unbalancedBrackets
  | some ([], inner) =>
    match Text.cutAt? ']' inner with
    | none | some (_, []) | some (_, ':' :: _) => .ok (inner.takeWhile (· != ']'))
    | some _ => .error .unbalancedBrackets

/-- Checks an authority: its brackets first, then its characters. -/
def checkAuthority (authority : List Char) : Except UrlError Unit := do
  let opened := authority.contains '['
  let closed := authority.contains ']'
  if opened != closed then throw .unbalancedBrackets
  if opened && closed then checkBracketed (← bracketed authority)
  if authority.any fun c => lookAlikes.contains c.toNat then
    throw (.lookAlike (String.ofList authority))

/-- The authority of a link whose scheme has been cut off. -/
def authority? : List Char → Option (List Char)
  | '/' :: '/' :: rest => some (rest.takeWhile fun c => c != '/' && c != '?' && c != '#')
  | _ => none

/-- The scheme of a link, in small letters and empty when there is none. -/
def schemeOf (cs : List Char) : Except UrlError (List Char) := do
  let (scheme, rest) := cutScheme cs
  match authority? rest with
  | some authority => checkAuthority authority
  | none => pure ()
  return scheme

/-- The schemes that a link may have. -/
def allowedSchemes : List (List Char) := ["http".toList, "https".toList, "mailto".toList]

/-- A link without scheme gets this one. -/
def plainScheme : List Char := "http://".toList

/-- A link that is neither empty nor relative. -/
def absoluteUrl (cs : List Char) : Except UrlError (List Char) := do
  let scheme ← schemeOf cs
  if scheme.isEmpty || scheme.contains '.' then return plainScheme ++ cs
  return if allowedSchemes.contains scheme then cs else []

/-- The characters of a link. -/
def urlChars (cs : List Char) : Except UrlError (List Char) :=
  match (dropControls cs).filter fun c => !Text.isBlank c with
  | [] => .ok []
  | c :: cs => if c == '/' || c == '#' || c == '?' then .ok (c :: cs) else absoluteUrl (c :: cs)

/-- A value as a link. -/
def url (v : Value) : Except CleanError String := do
  let s ← v.asText.mapError .number
  ((urlChars s.toList).map String.ofList).mapError .url

end Clean

end Concierge
