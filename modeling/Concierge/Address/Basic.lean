import Concierge.Address.Escape
import Concierge.Address.Label
import Concierge.Clean.Host
import Concierge.Number.Reading
import Concierge.Text.Replace

/-!
# Addresses of services

An address has a scheme, a user, a host, a port, a path, a query and a fragment. It is kept in a normal
form: the scheme and the host in small letters, an international host in ASCII, no port that the scheme
implies, no dots among the segments of the path, and escapes where characters could be mistaken.
-/

namespace Concierge

namespace Address

/-- Why a text is no address. -/
inductive AddressError where
  | tooLong
  /-- A part of an address is too long. -/
  | partTooLong (part : String)
  | unprintable (c : Char) (position : Nat)
  | badOctets (host : String)
  | badGroups (host : String)
  | badName (host : String)
  | badPort (port : String)
  /-- The path behind a host does not begin with a slash. -/
  | hangingPath
  /-- A path alone begins like a host. -/
  | hostlikePath
  /-- A path alone begins like a port. -/
  | portlikePath
  deriving DecidableEq, Repr

/-- The wording of an address error. -/
def AddressError.message : AddressError → String
  | tooLong => "URL too long"
  | partTooLong part => "URL component '" ++ part ++ "' too long"
  | unprintable c position =>
    "Invalid non-printable ASCII character in URL, " ++ Text.quoted c.toString ++ " at position " ++
      toString position ++ "."
  | badOctets host => "Invalid IPv4 address: " ++ Text.quoted host
  | badGroups host => "Invalid IPv6 address: " ++ Text.quoted host
  | badName host => "Invalid IDNA hostname: " ++ Text.quoted host
  | badPort port => "Invalid port: " ++ Text.quoted port
  | hangingPath => "For absolute URLs, path must be empty or begin with '/'"
  | hostlikePath => "Relative URLs cannot have a path starting with '//'"
  | portlikePath => "Relative URLs cannot have a path starting with ':'"

/-- The most characters of an address or of one of its parts. -/
def lengthLimit : Nat := 65536

/-- The parts of an address as they are written. -/
structure Parts where
  scheme : List Char := []
  authority : List Char := []
  path : List Char := []
  query : Option (List Char) := none
  fragment : Option (List Char) := none
  deriving DecidableEq, Repr

end Address

/-- An address in its normal form. -/
structure Address where
  scheme : List Char
  user : List Char
  host : List Char
  port : Option Int
  path : List Char
  query : Option (List Char)
  fragment : Option (List Char)
  deriving DecidableEq, Repr

namespace Address

/-- A character of a scheme behind its first letter. -/
def isSchemeChar (c : Char) : Bool :=
  c.isAlphanum || c == '+' || c == '.' || c == '-'

/-- The scheme at the front of an address, which may be empty, and what follows its colon. -/
def splitScheme (cs : List Char) : List Char × List Char :=
  let name := cs.takeWhile isSchemeChar
  match cs.drop name.length with
  | ':' :: rest => if name.isEmpty || (name.headD ':').isAlpha then (name, rest) else ([], cs)
  | _ => ([], cs)

/-- The part of a text behind a mark, if it has the mark, and the text before. -/
def splitBehind (mark : Char) (cs : List Char) : List Char × Option (List Char) :=
  match Text.cutAt? mark cs with
  | some (before, behind) => (before, some behind)
  | none => (cs, none)

/-- The parts of a text. -/
def partsOf (cs : List Char) : Parts :=
  let (scheme, rest) := splitScheme cs
  let (rest, fragment) := splitBehind '#' rest
  let (rest, query) := splitBehind '?' rest
  match rest with
  | '/' :: '/' :: rest =>
    let authority := rest.takeWhile (· != '/')
    { scheme, authority, path := rest.drop authority.length, query, fragment }
  | path => { scheme, path, query, fragment }

/-- A text cut behind the last of a mark; nothing is before when there is none. -/
def splitLast (mark : Char) (cs : List Char) : List Char × List Char :=
  let behind := (cs.reverse.takeWhile (· != mark)).reverse
  (cs.take (cs.length - behind.length), behind)

/-- The parts of an authority: user, host and port number. -/
def splitAuthority (cs : List Char) : List Char × List Char × List Char :=
  let (user, rest) := splitLast '@' cs
  let bracketed := (splitLast ']' rest).1
  let host :=
    if rest.head? == some '[' && !bracketed.isEmpty then bracketed
    else rest.takeWhile fun c => c != ':' && c != '@'
  let port := match rest.drop host.length with
    | ':' :: port => port
    | port => port
  (user.dropLast, host, port)

/-- How far the reading of four numbers with a character between them may have come: the number that is
being read, and whether it has a digit. -/
abbrev OctetPlace := Nat × Bool

/-- The places behind one more character. -/
def octetStep (places : List OctetPlace) (c : Char) : List OctetPlace :=
  let isDigit := '0' ≤ c && c ≤ '9'
  (places.flatMap fun (i, hasDigit) =>
    (if isDigit then [(i, true)] else []) ++ (if hasDigit && i < 3 then [(i + 1, false)] else [])).eraseDups

/-- A host that looks like four numbers with any character between two of them. -/
def looksLikeOctets (cs : List Char) : Bool := (cs.foldl octetStep [(0, false)]).contains (3, true)

/-- A host in its normal form. -/
def normalHost (cs : List Char) : Except AddressError (List Char) :=
  if cs.isEmpty then .ok []
  else if looksLikeOctets cs then
    if Clean.Host.isFourOctets cs then .ok cs else .error (.badOctets (String.ofList cs))
  else if cs.head? == some '[' && cs.getLast? == some ']' then
    let groups := (cs.drop 1).dropLast
    if Clean.Host.isZonedGroups groups then .ok groups else .error (.badGroups (String.ofList cs))
  else if cs.all (·.toNat < 0x80) then .ok (escape hostMarks (cs.map Text.smallLetter))
  else
    match sentName? (Text.lowered cs) with
    | some name => .ok name
    | none => .error (.badName (String.ofList cs))

/-- The port that a scheme implies. -/
def impliedPort (scheme : List Char) : Option Int :=
  [("ftp".toList, 21), ("http".toList, 80), ("https".toList, 443), ("ws".toList, 80),
   ("wss".toList, 443)].lookup scheme

/-- A port in its normal form. -/
def normalPort (scheme cs : List Char) : Except AddressError (Option Int) :=
  if cs.isEmpty then .ok none
  else
    match Reading.integer (String.ofList cs) with
    | .ok n => .ok (if impliedPort scheme = some n then none else some n)
    | .error _ => .error (.badPort (String.ofList cs))

/-- The segments of a path without those that are dots; two dots take away the segment before. -/
def withoutDots (done : List (List Char)) : List (List Char) → List (List Char)
  | [] => done.reverse
  | segment :: rest =>
    if segment == ['.'] then withoutDots done rest
    else if segment == ['.', '.'] then
      withoutDots (if done == [[]] then done else done.drop 1) rest
    else withoutDots (segment :: done) rest

/-- A path in its normal form. -/
def normalPath (cs : List Char) : List Char :=
  List.intercalate ['/'] (withoutDots [] (Text.split (· == '/') cs))

/-- Checks that the path of an address cannot be mistaken for another part. -/
def checkPath (hasScheme hasAuthority : Bool) (path : List Char) : Except AddressError Unit :=
  if hasAuthority && !path.isEmpty && path.head? != some '/' then .error .hangingPath
  else if !hasScheme && !hasAuthority && ['/', '/'].isPrefixOf path then .error .hostlikePath
  else if !hasScheme && !hasAuthority && path.head? == some ':' then .error .portlikePath
  else .ok ()

/-- The address that some parts make. -/
def ofParts (p : Parts) : Except AddressError Address := do
  let (user, host, port) := splitAuthority p.authority
  let scheme := p.scheme.map Text.smallLetter
  let user := escape userMarks user
  let host ← normalHost host
  let port ← normalPort p.scheme port
  let hasAuthority := !user.isEmpty || !host.isEmpty || port.isSome
  checkPath (!scheme.isEmpty) hasAuthority p.path
  let path := if !scheme.isEmpty || hasAuthority then normalPath p.path else p.path
  return {
    scheme, user, host, port
    path := escape pathMarks path
    query := p.query.map (escape queryMarks)
    fragment := p.fragment.map (escape fragmentMarks) }

/-- Reads a text as an address. -/
def ofText (s : String) : Except AddressError Address :=
  let cs := s.toList
  if lengthLimit < cs.length then .error .tooLong
  else
    match cs.findIdx? fun c => c.toNat < 0x20 || c.toNat == 0x7f with
    | some i => .error (.unprintable (cs.getD i ' ') i)
    | none => ofParts (partsOf cs)

/-- The authority of an address. -/
def authority (a : Address) : List Char :=
  (if a.user.isEmpty then [] else a.user ++ ['@']) ++
    (if a.host.contains ':' then '[' :: a.host ++ [']'] else a.host) ++
    (match a.port with
     | some n => ':' :: (toString n).toList
     | none => [])

/-- The text of an address. -/
def text (a : Address) : String :=
  String.ofList
    ((if a.scheme.isEmpty then [] else a.scheme ++ [':']) ++
      (if a.authority.isEmpty then [] else '/' :: '/' :: a.authority) ++ a.path ++
      ((a.query.map ('?' :: ·)).getD []) ++ ((a.fragment.map ('#' :: ·)).getD []))

/-- The path and the query of an address. -/
def route (a : Address) : List Char :=
  (if a.path.isEmpty then ['/'] else a.path) ++ ((a.query.map ('?' :: ·)).getD [])

/-- Checks the length of a part. -/
def checkLength (part : String) (cs : List Char) : Except AddressError Unit :=
  if lengthLimit < cs.length then .error (.partTooLong part) else .ok ()

/-- The address with another path and query. -/
def withRoute (a : Address) (route : List Char) : Except AddressError Address := do
  let (path, query) := splitBehind '?' route
  checkLength "scheme" a.scheme
  checkLength "authority" a.authority
  checkLength "path" path
  checkLength "query" (query.getD [])
  checkLength "fragment" (a.fragment.getD [])
  ofParts { scheme := a.scheme, authority := a.authority, path, query, fragment := a.fragment }

/-- The address of a service, whose path and query end in a slash. -/
def ofService (s : String) : Except AddressError Address := do
  let a ← ofText (String.ofList (Text.trimEnd (· == '/') s.toList ++ ['/']))
  if a.route.getLast? == some '/' then return a else a.withRoute (a.route ++ ['/'])

/-- The address under the address of a service. -/
def under (a : Address) (name : String) : Except AddressError Address :=
  a.withRoute (a.route ++ name.toList)

/-- The name and the password of the user of an address. -/
def credentials? (a : Address) : Option (List Char × List Char) :=
  let (name, password) := splitBehind ':' a.user
  let name := unescape name
  let password := unescape (password.getD [])
  if name.isEmpty && password.isEmpty then none else some (name, password)

/-- The header that proves the user of an address. -/
def proof? (a : Address) : Option String :=
  a.credentials?.map fun (name, password) =>
    "Basic " ++ String.ofList (base64 (Text.bytes (name ++ ':' :: password)))

/-- The address begins with a name and a colon, so that what kind it is can be told. -/
def hasKind (a : Address) : Bool :=
  let (before, behind) := splitLast '#' a.text.toList
  let body := if before.isEmpty then behind else before.dropLast
  let kind := body.takeWhile fun c => c != '/' && c != ':'
  !kind.isEmpty && (body.drop kind.length).head? == some ':'

end Address

end Concierge
