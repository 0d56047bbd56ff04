import MarkdownIntake.Number.Literal
import MarkdownIntake.Text.Lines
import MarkdownIntake.Text.Punctuation
import MarkdownIntake.Text.Case
import MarkdownIntake.Web.Percent
import MarkdownIntake.Web.Punycode

/-!
This module contains the addresses that documents are downloaded from: their parts, the one form in
which each is sent, and the resolution of a relative address against another one.
-/

namespace MarkdownIntake.Web

open MarkdownIntake.Number MarkdownIntake.Text

structure Address where
  scheme : List Char := []
  user : List Char := []
  host : List Char := []
  port : Option Int := none
  path : List Char := []
  query : Option (List Char) := none
  fragment : Option (List Char) := none
deriving Repr, DecidableEq

inductive AddressError where
  | tooLong
  | unprintable (c : Char) (position : Nat)
  | unprintableFragment (c : Char) (position : Nat)
  | badPort (port : String)
  | badFourPartHost (host : String)
  | badBracketedHost (host : String)
  | badHostName (host : String)
  | pathWithoutSlash
  | pathWithTwoSlashes
  | pathWithColon
deriving Repr, DecidableEq

def AddressError.message : AddressError → String
  | .tooLong => "URL too long"
  | .unprintable c position =>
    "Invalid non-printable ASCII character in URL, " ++ quoted c.toString ++ " at position "
      ++ toString position ++ "."
  | .unprintableFragment c position =>
    "Invalid non-printable ASCII character in URL fragment component, " ++ quoted c.toString
      ++ " at position " ++ toString position ++ "."
  | .badPort port => "Invalid port: " ++ quoted port
  | .badFourPartHost host => "Invalid IPv4 address: " ++ quoted host
  | .badBracketedHost host => "Invalid IPv6 address: " ++ quoted host
  | .badHostName host => "Invalid IDNA hostname: " ++ quoted host
  | .pathWithoutSlash => "For absolute URLs, path must be empty or begin with '/'"
  | .pathWithTwoSlashes => "Relative URLs cannot have a path starting with '//'"
  | .pathWithColon => "Relative URLs cannot have a path starting with ':'"

namespace Address

def maxLength : Nat := 65536

def isVisibleBut (excluded : String) (c : Char) : Bool :=
  0x20 < c.toNat && c.toNat < 0x7F && !excluded.toList.contains c

def isPathChar (c : Char) : Bool :=
  isVisibleBut "\"#<>?`\x7b\x7d" c

def isQueryChar (c : Char) : Bool :=
  isVisibleBut "\"#<>" c

def isFragmentChar (c : Char) : Bool :=
  isVisibleBut "\"<>`" c

def isUserChar (c : Char) : Bool :=
  isVisibleBut "\"#<>?`\x7b\x7d/;=@[\\]^|" c

def isHostChar (c : Char) : Bool :=
  c.isAlphanum || "-._~!$&'()*+,;=\"`\x7b\x7d%|\\".toList.contains c

def isSchemeChar (c : Char) : Bool :=
  c.isAlphanum || c = '+' || c = '.' || c = '-'

def splitScheme (cs : List Char) : List Char × List Char :=
  match cs with
  | ':' :: rest => ([], rest)
  | c :: _ =>
    let scheme := cs.takeWhile isSchemeChar
    match cs.drop scheme.length with
    | ':' :: rest => if c.isAlpha then (scheme, rest) else ([], cs)
    | _ => ([], cs)
  | [] => ([], [])

def cutAt (separator : Char) (cs : List Char) : List Char × Option (List Char) :=
  let before := cs.takeWhile (· ≠ separator)
  (before, (cs.drop before.length).tail?)

def splitUser (authority : List Char) : List Char × List Char :=
  let after := (authority.reverse.takeWhile (· ≠ '@')).reverse
  if after.length < authority.length then
    (authority.take (authority.length - after.length - 1), after)
  else
    ([], authority)

def splitHost (cs : List Char) : List Char × List Char :=
  let afterBracket := (cs.reverse.takeWhile (· ≠ ']')).reverse
  let host :=
    if cs.head? == some '[' && afterBracket.length < cs.length then
      cs.take (cs.length - afterBracket.length)
    else
      cs.takeWhile fun c => c ≠ ':' && c ≠ '@'
  match cs.drop host.length with
  | ':' :: port => (host, port)
  | port => (host, port)

def defaultPort? (scheme : List Char) : Option Int :=
  match String.ofList scheme with
  | "ftp" => some 21
  | "http" | "ws" => some 80
  | "https" | "wss" => some 443
  | _ => none

def readPort (scheme port : List Char) : Except AddressError (Option Int) :=
  if port.isEmpty then .ok none
  else match readInteger (String.ofList port) with
    | .ok n => .ok (if defaultPort? scheme = some n then none else some n)
    | .error _ => .error (.badPort (String.ofList port))

def looksNumeric (needsDigit : Bool) (gaps : Nat) : List Char → Bool
  | [] => !needsDigit && gaps = 0
  | c :: rest =>
    (c.isDigit && looksNumeric false gaps rest)
      || (!needsDigit && 0 < gaps && looksNumeric true (gaps - 1) rest)

def isFourBytes (host : List Char) : Bool :=
  let parts := splitAt '.' host
  parts.length = 4 && parts.all fun part =>
    1 ≤ part.length && part.length ≤ 3 && part.all Char.isDigit
      && (part.length = 1 || part.head? != some '0') && digitsValue part ≤ 255

def isGroup (part : List Char) : Bool :=
  1 ≤ part.length && part.length ≤ 4 && part.all isHexDigit

def isGroupList (groups : List (List Char)) : Bool :=
  let inner := (groups.drop 1).dropLast
  match inner.findIdx? (·.isEmpty) with
  | none => groups.length = 8 && groups.all isGroup
  | some index =>
    let withoutEdge (side : List (List Char)) := if side = [[]] then [] else side
    let sides := withoutEdge (groups.take (index + 1)) ++ withoutEdge (groups.drop (index + 2))
    sides.length ≤ 7 && sides.all isGroup

/-- Whether a text is a host in brackets. The last two groups may be written as four bytes. -/
def isGrouped (host : List Char) : Bool :=
  let (address, zone) := cutAt '%' host
  let parts := splitAt ':' address
  let last := parts.getLast?.getD []
  let groups := if last.contains '.' then parts.dropLast ++ [['0'], ['0']] else parts
  zone.all (fun zone => !zone.isEmpty && !zone.contains '%')
    && 3 ≤ parts.length && (!last.contains '.' || isFourBytes last) && isGroupList groups

def hostPart? (part : List Char) : Option (List Char) :=
  if part.isEmpty then none
  else if part.all (·.toNat < 128) then (if part.length ≤ 63 then some part else none)
  else
    let encoded := "xn--".toList ++ Punycode.encode part
    let isName := part.all fun c => c = '-' || !isPunctuation c
    if isName && encoded.length ≤ 63 then some encoded else none

def hostName? (host : List Char) : Option (List Char) :=
  let parts := splitAt '.' (host.map fun c => if "。．｡".toList.contains c then '.' else c)
  let rooted := 1 < parts.length && parts.getLast? == some []
  let parts := if rooted then parts.dropLast else parts
  (parts.mapM hostPart?).map fun parts =>
    joinWith ['.'] (if rooted then parts ++ [[]] else parts)

def readHost (host : List Char) : Except AddressError (List Char) :=
  if host.isEmpty then .ok []
  else if looksNumeric true 3 host then
    if isFourBytes host then .ok host else .error (.badFourPartHost (String.ofList host))
  else if host.head? == some '[' && host.getLast? == some ']' then
    let inner := (host.drop 1).dropLast
    if isGrouped inner then .ok inner else .error (.badBracketedHost (String.ofList host))
  else if host.all (·.toNat < 128) then
    .ok (percentEncode isHostChar (host.map Char.toLower))
  else
    match hostName? (lower host) with
    | some name => .ok name
    | none => .error (.badHostName (String.ofList host))

def foldDots (parts : List (List Char)) : List (List Char) :=
  parts.foldl
    (fun out part =>
      if part = ['.'] then out
      else if part = ['.', '.'] then (if out = [[]] then out else out.dropLast)
      else out ++ [part])
    []

def plainPath (path : List Char) : List Char :=
  let parts := splitAt '/' path
  if parts.contains ['.'] || parts.contains ['.', '.'] then joinWith ['/'] (foldDots parts) else path

def hasNoHost (user host : List Char) (port : Option Int) : Bool :=
  user.isEmpty && host.isEmpty && port.isNone

def pathError? (hasScheme hasAuthority : Bool) (path : List Char) : Option AddressError :=
  if hasAuthority then
    if path.head?.all (· = '/') then none else some .pathWithoutSlash
  else if hasScheme then none
  else if ['/', '/'].isPrefixOf path then some .pathWithTwoSlashes
  else if path.head? == some ':' then some .pathWithColon
  else none

def control? (cs : List Char) : Option (Char × Nat) :=
  cs.zipIdx.find? fun (c, _) => c.toNat < 32 || c.toNat = 127

def parse (text : String) : Except AddressError Address := do
  let cs := text.toList
  if maxLength < cs.length then throw .tooLong
  match control? cs with
  | some (c, position) => throw (.unprintable c position)
  | none => pure ()
  let (scheme, rest) := splitScheme cs
  let (authority, rest) := match rest with
    | '/' :: '/' :: rest => rest.span fun c => c ≠ '/' && c ≠ '?' && c ≠ '#'
    | _ => ([], rest)
  let (rest, fragment) := cutAt '#' rest
  let (path, query) := cutAt '?' rest
  let (user, rest) := splitUser authority
  let (host, port) := splitHost rest
  let user := percentEncode isUserChar user
  let host ← readHost host
  let port ← readPort scheme port
  let hasScheme := !scheme.isEmpty
  let hasAuthority := !hasNoHost user host port
  match pathError? hasScheme hasAuthority path with
  | some e => throw e
  | none => pure ()
  let path := if hasScheme || hasAuthority then plainPath path else path
  return {
    scheme := scheme.map Char.toLower
    user
    host
    port
    path := percentEncode isPathChar path
    query := query.map (percentEncode isQueryChar)
    fragment := fragment.map (percentEncode isFragmentChar) }

def authority (address : Address) : List Char :=
  (if address.user.isEmpty then [] else address.user ++ ['@'])
    ++ (if address.host.contains ':' then '[' :: (address.host ++ [']']) else address.host)
    ++ (match address.port with
      | some port => ':' :: (toString port).toList
      | none => [])

def text (address : Address) : String :=
  let scheme := if address.scheme.isEmpty then [] else address.scheme ++ [':']
  let authority :=
    if address.authority.isEmpty then [] else '/' :: '/' :: address.authority
  let query := match address.query with
    | some query => '?' :: query
    | none => []
  let fragment := match address.fragment with
    | some fragment => '#' :: fragment
    | none => []
  String.ofList (scheme ++ authority ++ address.path ++ query ++ fragment)

def isAbsolute (address : Address) : Bool :=
  !address.scheme.isEmpty && !address.host.isEmpty

def hierarchicalSchemes : List String :=
  ["", "ftp", "http", "gopher", "nntp", "imap", "wais", "file", "https", "shttp", "mms", "prospero",
    "rtsp", "rtsps", "rtspu", "sftp", "svn", "svn+ssh", "ws", "wss"]

def joinPaths (base path : List Char) : List Char :=
  let baseParts := splitAt '/' base
  let baseParts := if baseParts.getLast? == some [] then baseParts else baseParts.dropLast
  let parts := splitAt '/' path
  let parts :=
    if path.head? == some '/' then parts
    else
      let all := baseParts ++ parts
      let inner := ((all.drop 1).dropLast).filter (!·.isEmpty)
      if all.length ≤ 1 then all else all.take 1 ++ inner ++ all.drop (all.length - 1)
  let out := parts.foldl
    (fun out part =>
      if part = ['.'] then out
      else if part = ['.', '.'] then out.dropLast
      else out ++ [part])
    ([] : List (List Char))
  let out := match parts.getLast? with
    | some ['.'] | some ['.', '.'] => out ++ [[]]
    | _ => out
  let joined := joinWith ['/'] out
  if joined.isEmpty then ['/'] else joined

/-- The same address at another host, unless the host would run into a path that is not at the root. -/
def withHost (address : Address) (host : List Char) : Except AddressError Address :=
  let hasAuthority := !hasNoHost address.user host address.port
  match pathError? (!address.scheme.isEmpty) hasAuthority address.path with
  | some e => .error e
  | none => parse { address with host }.text

def withFragment (address : Address) (fragment : List Char) : Except AddressError Address :=
  match control? fragment with
  | some (c, position) => .error (.unprintableFragment c position)
  | none => .ok { address with fragment := some (percentEncode isFragmentChar fragment) }

def nonempty (part : Option (List Char)) : Option (List Char) :=
  part.filter (!·.isEmpty)

def join (base address : Address) : Except AddressError Address :=
  let isForeign := !address.scheme.isEmpty && address.scheme ≠ base.scheme
  if isForeign || !hierarchicalSchemes.contains (String.ofList base.scheme) then
    .ok address
  else if address.text.isEmpty then
    .ok base
  else
    let query := nonempty address.query
    let fragment := nonempty address.fragment
    let resolved : Address :=
      if !address.authority.isEmpty then
        { address with scheme := base.scheme, query, fragment }
      else if address.path.isEmpty then
        { base with query := query.or (nonempty base.query), fragment }
      else
        { base with path := joinPaths base.path address.path, query, fragment }
    parse resolved.text

end Address

end MarkdownIntake.Web
