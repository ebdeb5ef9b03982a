import PanelScript.Environment

/-!
# Addresses of the gateway

The gateway is named by an address such as `ws://host:port`. A connection needs its host and port; a
text without them is no address.

* `Address` is a host and a port, `Address.ofText` reads one;
* `AddressError` lists what is wrong with other texts, `AddressError.message` gives the words.
-/

namespace PanelScript

/-- Why a text is no address. -/
inductive AddressError where
  | empty | tooLong | badCharacter | badAuthority | badFormat | schemeTooLong | noHost
  /-- The address has no port, and its scheme has none of its own. -/
  | unknownScheme
  deriving DecidableEq

/-- The words for a text that is no address. -/
def AddressError.message : AddressError → String
  | .empty => "HTTP format error: empty string"
  | .tooLong => "HTTP format error: uri too long"
  | .badCharacter => "HTTP format error: invalid uri character"
  | .badAuthority => "HTTP format error: invalid authority"
  | .badFormat => "HTTP format error: invalid format"
  | .schemeTooLong => "HTTP format error: scheme too long"
  | .noHost => "URL error: No host name in the URL"
  | .unknownScheme => "URL error: URL scheme not supported"

/-- A host and a port. -/
structure Address where
  host : String
  port : Nat
  deriving DecidableEq

namespace Address

/-- The most bytes that a text may have. -/
def maxSize : Nat := 65534

/-- The most characters that a scheme may have. -/
def maxScheme : Nat := 64

/-- Whether a character may be part of a scheme. -/
def isSchemeChar (c : Char) : Bool := c.isAlphanum || c ∈ ['+', '-', '.', '~']

/-- Whether a character may be part of an authority. -/
def isAuthorityChar (c : Char) : Bool := c.isAlphanum || c ∈ "!$&'()*+,-.:;=@[]_~%".toList

/-- Whether a character is visible, or none of ASCII's. -/
def isVisible (c : Char) : Bool := ' ' < c && c ≠ '\x7f'

/-- Whether a character may be part of a path. -/
def isPathChar (c : Char) : Bool := isVisible c && c ∉ ['<', '>', '`', '#', '?']

/-- Whether a character may be part of a query. -/
def isQueryChar (c : Char) : Bool := isVisible c && c ∉ ['<', '>', '"', '#']

/-- The scheme at the start of a text, if there is one, and the rest behind `://`. These three
characters alone are no scheme. -/
def splitScheme (cs : List Char) : Except AddressError (Option String × List Char) :=
  match cs.span isSchemeChar with
  | ([], [':', '/', '/']) => .ok (none, cs)
  | (scheme, ':' :: '/' :: '/' :: rest) =>
    if scheme.length > maxScheme then .error .schemeTooLong
    else .ok (some (String.ofList scheme), rest)
  | _ => .ok (none, cs)

/-- What was seen of an authority. -/
structure Scan where
  colons : Nat := 0
  opened : Bool := false
  closed : Bool := false
  percent : Bool := false
  /-- The last character was an at sign. -/
  atLast : Bool := false

/-- Take the next character of an authority. -/
def Scan.step (s : Scan) (c : Char) : Except AddressError Scan :=
  let t := { s with atLast := c = '@' }
  if c = ':' then
    if 8 ≤ s.colons then .error .badAuthority else .ok { t with colons := s.colons + 1 }
  else if c = '[' then
    if s.percent || s.opened then .error .badAuthority else .ok { t with opened := true }
  else if c = ']' then
    if !s.opened || s.closed then .error .badAuthority
    else .ok { t with closed := true, colons := 0, percent := false }
  else if c = '@' then .ok { t with colons := 0, percent := false }
  else if c = '%' then .ok { t with percent := true }
  else if isAuthorityChar c then .ok t
  else .error .badCharacter

/-- The authority at the start of a text, and the path behind it. -/
def splitAuthority (cs : List Char) : Except AddressError (List Char × List Char) := do
  let (front, rest) := cs.span fun c => c ∉ ['/', '?', '#']
  let s ← front.foldlM Scan.step ({} : Scan)
  if s.opened ≠ s.closed ∨ 1 < s.colons ∨ s.atLast ∨ s.percent then .error .badAuthority
  else .ok (front, rest)

/-- A path, with a query behind it, has only characters that it may have. -/
def checkPath (cs : List Char) : Except AddressError Unit :=
  let cs := cs.takeWhile (· ≠ '#')
  let (path, query) := cs.span (· ≠ '?')
  if path.all isPathChar ∧ (query.drop 1).all isQueryChar then .ok () else .error .badCharacter

/-- The host in an authority, without the user in front of it, and the text of the port. -/
def splitHost (authority : List Char) : List Char × Option (List Char) :=
  let host := (authority.reverse.takeWhile (· ≠ '@')).reverse
  let port := if host.contains ':' then some (host.reverse.takeWhile (· ≠ ':')).reverse else none
  if host.head? = some '[' then ((host.drop 1).takeWhile (· ≠ ']'), port)
  else (host.takeWhile (· ≠ ':'), port)

/-- The port that a text names. -/
def port? (cs : List Char) : Option Nat := (word64? (String.ofList cs)).filter (· < 65536)

/-- The port of a scheme. -/
def schemePort? : Option String → Option Nat
  | some "ws" => some 80
  | some "wss" => some 443
  | _ => none

/-- The address in a scheme and an authority. -/
def ofParts (scheme : Option String) (authority : List Char) : Except AddressError Address :=
  let (host, port) := splitHost authority
  match (port.bind port?).orElse fun _ => schemePort? scheme with
  | some port => .ok ⟨String.ofList host, port⟩
  | none => .error .unknownScheme

/-- The address in a text that has more than one character. -/
def ofLongText (cs : List Char) : Except AddressError Address := do
  let (scheme, rest) ← splitScheme cs
  if rest.isEmpty then .error .empty
  else
    let (authority, path) ← splitAuthority rest
    if scheme.isNone then
      if path.isEmpty then ofParts none authority else .error .badFormat
    else if authority.isEmpty then .error .badFormat
    else do
      checkPath path
      ofParts scheme authority

/-- Read an address. A single character is an authority. -/
def ofText (text : String) : Except AddressError Address :=
  if maxSize < text.utf8ByteSize then .error .tooLong
  else
    match text.toList with
    | [] => .error .empty
    | ['*'] => .error .noHost
    | '/' :: rest => do
      checkPath ('/' :: rest)
      .error .noHost
    | [c] => do
      let (authority, path) ← splitAuthority [c]
      if path.isEmpty then ofParts none authority else .error .badCharacter
    | cs => ofLongText cs

end Address

end PanelScript
