import HelixGateway.Decimal.Written
import HelixGateway.HostName
import HelixGateway.Text.Percent
import HelixGateway.Text.Quoted

/-!
# Addresses

An address is read into its parts, each in its normal form: scheme and host in lower case, no port that the scheme implies,
no dot segments in the path, and percent-encoding for the characters that a part may not hold. An address without a scheme
or without a host is relative, and only its path and query say where a request goes.
-/

namespace HelixGateway

/-- Why a text is no address. -/
inductive UrlError where
  | tooLong
  | control (c : Char) (offset : Nat)
  | badPort (text : List Char)
  | badIPv4 (host : List Char)
  | badIPv6 (host : List Char)
  | badName (host : List Char)
  | doubleSlash
  | leadingColon
  deriving DecidableEq, Repr

def UrlError.message : UrlError → String
  | .tooLong => "URL too long"
  | .control c offset =>
    "Invalid non-printable ASCII character in URL, " ++ String.ofList (Text.quoted [c]) ++ " at position " ++
      toString offset ++ "."
  | .badPort text => "Invalid port: " ++ String.ofList (Text.quoted text)
  | .badIPv4 host => "Invalid IPv4 address: " ++ String.ofList (Text.quoted host)
  | .badIPv6 host => "Invalid IPv6 address: " ++ String.ofList (Text.quoted host)
  | .badName host => "Invalid IDNA hostname: " ++ String.ofList (Text.quoted host)
  | .doubleSlash => "Relative URLs cannot have a path starting with '//'"
  | .leadingColon => "Relative URLs cannot have a path starting with ':'"

/-- An address in its parts. -/
structure Url where
  scheme : List Char
  userinfo : List Char
  host : List Char
  port : Option Int
  path : List Char
  query : Option (List Char)
  fragment : Option (List Char)
  deriving DecidableEq, Repr

namespace Url

open Text.Percent (encodeWith isUnreserved)

/-! ## The characters of each part -/

/-- The printable characters of ASCII but those given. -/
def printableBut (excluded : List Char) (c : Char) : Bool :=
  0x20 ≤ c.toNat && c.toNat < 0x7F && !excluded.contains c

def isFragmentChar (c : Char) : Bool := printableBut " \"<>\x60".toList c

def isQueryChar (c : Char) : Bool := printableBut " \"#<>".toList c

def isPathChar (c : Char) : Bool := printableBut " \"#<>?\x60\x7b\x7d".toList c

def isUserinfoChar (c : Char) : Bool := printableBut " \"#<>?\x60\x7b\x7d/;=@[\\]^|".toList c

def isHostChar (c : Char) : Bool := isUnreserved c || "!$&'()*+,;=\"\x60\x7b\x7d%|\\".toList.contains c

/-! ## Hosts and ports -/

/-- Whether a text is made of digits with `breaks` single characters between them; `inside` tells that a digit stands right
before. -/
def isDottedNumber : Nat → Bool → List Char → Bool
  | breaks, inside, [] => inside && breaks == 0
  | breaks, inside, c :: s =>
    (Text.isDigit c && isDottedNumber breaks true s) ||
      match breaks with
      | n + 1 => inside && isDottedNumber n false s
      | 0 => false

/-- A part of an address of version 4: a number below 256 without leading zeros. -/
def isOctet (s : List Char) : Bool :=
  !s.isEmpty && s.length ≤ 3 && s.all Text.isDigit && (s.head? != some '0' || s.length == 1) &&
    Decimal.digitsValue s < 256

def isIPv4 (s : List Char) : Bool :=
  let parts := Text.pieces (· == '.') s
  parts.length == 4 && parts.all isOctet

/-- A group of an address of version 6. -/
def isHextet (s : List Char) : Bool :=
  !s.isEmpty && s.length ≤ 4 && s.all fun c => (Text.hexValue? c).isSome

/-- The groups of a part of an address of version 6, the last of which may be an address of version 4 and counts twice. -/
def groupCount? (s : List Char) (last : Bool) : Option Nat :=
  if s.isEmpty then some 0
  else
    let parts := Text.pieces (· == ':') s
    match parts.getLast? with
    | none => none
    | some tail =>
      if last && tail.contains '.' then
        if isIPv4 tail && parts.dropLast.all isHextet then some (parts.length + 1) else none
      else if parts.all isHextet then some parts.length else none

/-- An address of version 6: eight groups, or fewer with one gap for at least one group of zeros. A zone may follow a
percent sign. -/
def isIPv6 (s : List Char) : Bool :=
  let (s, zoned) :=
    match Text.cut ['%'] s with
    | some (a, zone) => (a, !zone.isEmpty && !zone.contains '%')
    | none => (s, true)
  zoned &&
    match Text.cut "::".toList s with
    | none => groupCount? s true == some 8
    | some (a, b) =>
      match groupCount? a false, groupCount? b true with
      | some m, some n => m + n ≤ 7
      | _, _ => false

/-- The normal form of a host. An address of version 6 loses its brackets. -/
def normalizeHost (host : List Char) : Except UrlError (List Char) :=
  if isDottedNumber 3 false host then (if isIPv4 host then .ok host else .error (.badIPv4 host))
  else
    match Text.between? ['['] [']'] host with
    | some inner => if isIPv6 inner then .ok inner else .error (.badIPv6 host)
    | none =>
      if host.all Text.isAscii then .ok (encodeWith isHostChar (host.map Char.toLower))
      else
        match HostName.encode host with
        | .ok name => .ok name
        | .error _ => .error (.badName host)

/-- The port that a scheme implies. -/
def impliedPort? (scheme : List Char) : Option Int :=
  if scheme = "http".toList ∨ scheme = "ws".toList then some 80
  else if scheme = "https".toList ∨ scheme = "wss".toList then some 443
  else if scheme = "ftp".toList then some 21
  else none

/-- Reads a port; none is the one that the scheme implies. -/
def normalizePort (port scheme : List Char) : Except UrlError (Option Int) :=
  if port.isEmpty then .ok none
  else
    match Decimal.written? port with
    | some (.ok n) => .ok (if impliedPort? scheme = some n then none else some n)
    | _ => .error (.badPort port)

/-! ## Paths -/

/-- The segments of a path without the dot segments, `kept` being those before, last first. A double dot takes the segment
before it away, but for the empty one at the start. -/
def keepSegments (kept : List (List Char)) : List (List Char) → List (List Char)
  | [] => kept.reverse
  | s :: ss =>
    if s = ['.'] then keepSegments kept ss
    else if s = ['.', '.'] then keepSegments (if kept = [[]] then kept else kept.tail) ss
    else keepSegments (s :: kept) ss

/-- A path without dot segments. -/
def dropDotSegments (path : List Char) : List Char :=
  let segments := Text.pieces (· == '/') path
  if segments.contains ['.'] || segments.contains ['.', '.'] then Text.join ['/'] (keepSegments [] segments) else path

/-! ## Reading -/

def isSchemeChar (c : Char) : Bool := c.isAlphanum || c == '+' || c == '.' || c == '-'

/-- The scheme in front of a colon, which may be empty, and the text behind it; no scheme and the whole text if there is
none. -/
def splitScheme (s : List Char) : List Char × List Char :=
  match s.dropWhile isSchemeChar with
  | ':' :: r =>
    match s with
    | c :: _ => if c.isAlpha || c == ':' then (s.takeWhile isSchemeChar, r) else ([], s)
    | [] => ([], s)
  | _ => ([], s)

/-- The parts of the text between the slashes and the path: userinfo, host and port. -/
def splitAuthority (s : List Char) : List Char × List Char × List Char :=
  let behind := (s.reverse.takeWhile (· != '@')).reverse
  let userinfo := if s.contains '@' then s.take (s.length - behind.length - 1) else []
  let bracketed := if behind.head? = some '[' then (behind.reverse.dropWhile (· != ']')).reverse else []
  let host := if bracketed.isEmpty then behind.takeWhile fun c => c != ':' && c != '@' else bracketed
  match behind.drop host.length with
  | ':' :: port => (userinfo, host, port)
  | port => (userinfo, host, port)

/-- The text before a mark, and what follows the mark if it is there. -/
def splitAt (mark : Char) (s : List Char) : List Char × Option (List Char) :=
  match Text.cut [mark] s with
  | some (a, b) => (a, some b)
  | none => (s, none)

/-- The greatest length of an address. -/
def maxLength : Nat := 65536

/-- The first control character of a text, with its offset. -/
def findControl? (offset : Nat) : List Char → Option (Char × Nat)
  | [] => none
  | c :: s => if c.toNat < 0x20 ∨ c.toNat = 0x7F then some (c, offset) else findControl? (offset + 1) s

/-- Puts the parts of an address into their normal forms. -/
def normalize (scheme authority path : List Char) (query fragment : Option (List Char)) : Except UrlError Url :=
  let (userinfo, host, port) := splitAuthority authority
  match normalizeHost host with
  | .error e => .error e
  | .ok host =>
    match normalizePort port scheme with
    | .error e => .error e
    | .ok port =>
      let hasAuthority := !(userinfo.isEmpty && host.isEmpty && port.isNone)
      let isRelative := scheme.isEmpty && !hasAuthority
      if isRelative && "//".toList.isPrefixOf path then .error .doubleSlash
      else if isRelative && path.head? == some ':' then .error .leadingColon
      else
        .ok ⟨scheme.map Char.toLower, encodeWith isUserinfoChar userinfo, host, port,
          encodeWith isPathChar (if isRelative then path else dropDotSegments path),
          query.map (encodeWith isQueryChar), fragment.map (encodeWith isFragmentChar)⟩

/-- Reads an address. -/
def parse (s : List Char) : Except UrlError Url :=
  if maxLength < s.length then .error .tooLong
  else
    match findControl? 0 s with
    | some (c, offset) => .error (.control c offset)
    | none =>
      let (scheme, s) := splitScheme s
      let (s, fragment) := splitAt '#' s
      let (s, query) := splitAt '?' s
      match Text.afterPrefix? "//".toList s with
      | some r => normalize scheme (r.takeWhile (· != '/')) (r.dropWhile (· != '/')) query fragment
      | none => normalize scheme [] s query fragment

/-! ## Using -/

/-- Whether an address says by itself where a request goes. -/
def isAbsolute (u : Url) : Bool := !u.scheme.isEmpty && !u.host.isEmpty

/-- The address that a request is sent to: a relative one keeps its path, below the root, and its query. -/
def target (u : Url) : Url :=
  if u.isAbsolute then u
  else ⟨[], [], [], none, '/' :: u.path.dropWhile (· == '/'), u.query, none⟩

/-- Host and port in one text. -/
def location (u : Url) : List Char :=
  (if u.host.contains ':' then '[' :: (u.host ++ [']']) else u.host) ++
    (u.port.map fun n => ':' :: (toString n).toList).getD []

/-- Userinfo, host and port in one text. -/
def authority (u : Url) : List Char := (if u.userinfo.isEmpty then [] else u.userinfo ++ ['@']) ++ u.location

/-- An address as a text. -/
def text (u : Url) : String :=
  String.ofList ((if u.scheme.isEmpty then [] else u.scheme ++ [':']) ++
    ((if u.authority.isEmpty then [] else '/' :: '/' :: u.authority) ++
      (u.path ++ ((u.query.map ('?' :: ·)).getD [] ++ (u.fragment.map ('#' :: ·)).getD []))))

/-- The path with its encoding undone; an address without a path means the root. -/
def decodedPath (u : Url) : String :=
  String.ofList (Text.Percent.decode (if u.path.isEmpty then ['/'] else u.path))

end Url

end HelixGateway
